import EnumCases.Token.Basic

/-!
# Tokens as text

Lexemes are written with one space between them. There is none after a joint mark, nor inside
parentheses and brackets; braces keep theirs, so that an empty group is `()`, `[]` or `{ }`.
-/

namespace EnumCases

namespace Lexeme

/-- A lexeme as it is written. -/
def text : Lexeme → List Char
  | .ident i => i.text.toList
  | .punct mark _ => [mark]
  | .literal l => l.text.toList
  | .opening d => [d.opening]
  | .closing d => [d.closing]

/-- Whether a space stands between two lexemes. -/
def spaced : Lexeme → Lexeme → Bool
  | _, .closing .brace => true
  | _, .closing _ => false
  | .opening .brace, _ => true
  | .opening _, _ => false
  | .punct _ .joint, _ => false
  | _, _ => true

/-- Lexemes as they are written one after the other. -/
def textAll : List Lexeme → List Char
  | [] => []
  | [a] => a.text
  | a :: b :: rest => a.text ++ (if a.spaced b then [' '] else []) ++ textAll (b :: rest)

end Lexeme

/-- Tokens as they are written one after the other. -/
def Token.print (ts : List (Token α)) : String := .ofList (Lexeme.textAll (lexemesAll ts))

end EnumCases
