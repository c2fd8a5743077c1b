import EnumCases.Span
import EnumCases.Token.Ident
import EnumCases.Text.Quoted

/-!
# Tokens

A token is an identifier, a punctuation mark, a literal, or a group of tokens between delimiters.
Each token carries a label: its place in a source text, or nothing (`Unit`) where the token was made
and not read. A punctuation mark is *joint* when the next one belongs to the same operator; the
apostrophe of a lifetime is joint with the identifier after it.

Every group has delimiters that are written. There are no groups without any, which tokens can only
get from a macro that put them together: what is modelled are items as they are read from a text.

A text is first cut into lexemes, in which the two delimiters of a group stand by themselves.
`Token.lexemes` lists the lexemes of a token.
-/

namespace EnumCases

/-- Whether a punctuation mark belongs together with what follows it. -/
inductive Spacing where
  | alone
  | joint
deriving DecidableEq, Repr

/-- The delimiters of groups. -/
inductive Delimiter where
  | parenthesis
  | bracket
  | brace
deriving DecidableEq, Repr

namespace Delimiter

/-- The character that opens a group. -/
def opening : Delimiter → Char
  | .parenthesis => '('
  | .bracket => '['
  | .brace => '\x7b'

/-- The character that closes a group. -/
def closing : Delimiter → Char
  | .parenthesis => ')'
  | .bracket => ']'
  | .brace => '\x7d'

/-- The delimiter that a character opens. -/
def ofOpening? : Char → Option Delimiter
  | '(' => some .parenthesis
  | '[' => some .bracket
  | '\x7b' => some .brace
  | _ => none

/-- The delimiter that a character closes. -/
def ofClosing? : Char → Option Delimiter
  | ')' => some .parenthesis
  | ']' => some .bracket
  | '\x7d' => some .brace
  | _ => none

@[simp] theorem ofOpening?_opening (d : Delimiter) : ofOpening? d.opening = some d := by
  cases d <;> rfl

@[simp] theorem ofClosing?_closing (d : Delimiter) : ofClosing? d.closing = some d := by
  cases d <;> rfl

end Delimiter

/-- The kinds of literals. -/
inductive LiteralKind where
  | string
  | byteString
  | cString
  | byte
  | char
  | integer
  | float
  /-- The place of a literal that could not be made. -/
  | missing
deriving DecidableEq, Repr

/-- A literal as it is written. -/
structure Literal where
  /-- What the literal denotes. -/
  kind : LiteralKind
  /-- The text up to the suffix. -/
  body : String
  /-- The word at the end, or nothing. -/
  suffix : String := ""
deriving DecidableEq, Repr

namespace Literal

/-- The literal as it is written. -/
def text (l : Literal) : String := l.body ++ l.suffix

/-- The string literal that stands for `s`. -/
def ofString (s : String) : Literal := ⟨.string, Text.Quoted.quote s, ""⟩

/-- The string literal that shows `s` as it is, which must hold no quote. -/
def verbatim (s : String) : Literal := ⟨.string, "r\"" ++ s ++ "\"", ""⟩

/-- The text of a string literal with `#` marks around its quotes: what stands between the quotes,
when `body` starts after the letter that announces it. -/
def unmark (body : List Char) : Option (List Char) :=
  let marks := (body.takeWhile (· == '#')).length
  let inner := body.drop (marks + 1)
  if body[marks]? = some '\x22' then some (inner.take (inner.length - (marks + 1))) else none

/-- The text that a string literal stands for. -/
def stringValue? (l : Literal) : Option String :=
  match l.kind, l.body.toList with
  | .string, '\x22' :: rest => (Text.Quoted.decode .ordinary .text rest).map .ofList
  | .string, 'r' :: rest => (unmark rest).map .ofList
  | _, _ => none

end Literal

/-- A lexeme: a token that is no group, or a delimiter. -/
inductive Lexeme where
  | ident (i : Ident)
  | punct (mark : Char) (spacing : Spacing)
  | literal (l : Literal)
  | opening (d : Delimiter)
  | closing (d : Delimiter)
deriving DecidableEq, Repr

/-- A token with a label of type `α`. -/
inductive Token (α : Type) where
  | ident (i : Ident) (label : α)
  | punct (mark : Char) (spacing : Spacing) (label : α)
  | literal (l : Literal) (label : α)
  | group (d : Delimiter) (body : List (Token α)) (label : α)

namespace Token

/-- The label of a token. -/
def label : Token α → α
  | .ident _ a => a
  | .punct _ _ a => a
  | .literal _ a => a
  | .group _ _ a => a

mutual

/-- The token with other labels. -/
def map (f : α → β) : Token α → Token β
  | .ident i a => .ident i (f a)
  | .punct mark spacing a => .punct mark spacing (f a)
  | .literal l a => .literal l (f a)
  | .group d body a => .group d (mapAll f body) (f a)

/-- The tokens with other labels. -/
def mapAll (f : α → β) : List (Token α) → List (Token β)
  | [] => []
  | t :: ts => t.map f :: mapAll f ts

end

/-- The tokens without labels. -/
def erase (ts : List (Token α)) : List (Token Unit) := mapAll (fun _ => ()) ts

mutual

/-- The lexemes of a token. -/
def lexemes : Token α → List Lexeme
  | .ident i _ => [.ident i]
  | .punct mark spacing _ => [.punct mark spacing]
  | .literal l _ => [.literal l]
  | .group d body _ => .opening d :: lexemesAll body ++ [.closing d]

/-- The lexemes of a list of tokens. -/
def lexemesAll : List (Token α) → List Lexeme
  | [] => []
  | t :: ts => t.lexemes ++ lexemesAll ts

end

/-- The number of lexemes of a list of tokens. -/
def size (ts : List (Token α)) : Nat := (lexemesAll ts).length

/-- The place of a token in an error: a group is named by its opening delimiter. -/
def place : Token Span → Span
  | .group _ _ span => span.head
  | t => t.label

/-- From the first to the last token, or the call site if there is none. -/
def spanOf : List (Token Span) → Span
  | [] => .callSite
  | t :: ts => t.label.through ((ts.getLast?.getD t).label)

end Token

end EnumCases
