import EnumCases.Token.Basic

/-!
# Tokens made by hand

Short lists of tokens without places, to be put together with `++`.
-/

namespace EnumCases.Token

/-- An identifier. -/
def named (i : Ident) : List (Token Unit) := [.ident i ()]

/-- A plain word. -/
def word (w : String) (h : Text.isWord w.toList = true := by decide) : List (Token Unit) :=
  named (.plain w h)

/-- An operator, given by its characters. -/
def operator : List Char → List (Token Unit)
  | [] => []
  | [c] => [.punct c .alone ()]
  | c :: cs => .punct c .joint () :: operator cs

/-- A comma. -/
def comma : List (Token Unit) := operator [',']

/-- A double colon. -/
def colons : List (Token Unit) := operator [':', ':']

/-- The arrow of a match arm. -/
def fatArrow : List (Token Unit) := operator ['=', '>']

/-- A literal. -/
def constant (l : Literal) : List (Token Unit) := [.literal l ()]

/-- A group in parentheses. -/
def parenthesized (body : List (Token Unit)) : List (Token Unit) := [.group .parenthesis body ()]

/-- A group in brackets. -/
def bracketed (body : List (Token Unit)) : List (Token Unit) := [.group .bracket body ()]

/-- A group in braces. -/
def braced (body : List (Token Unit)) : List (Token Unit) := [.group .brace body ()]

/-- Several parts with commas between them. -/
def commaSeparated (parts : List (List (Token Unit))) : List (Token Unit) :=
  comma.intercalate parts

end EnumCases.Token
