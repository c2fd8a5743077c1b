import EnumCases.Text.Word

/-!
# Identifiers

An identifier is a word, written as it is or as a *raw* identifier, with `r#` before it. A raw
identifier may be a word that is otherwise a keyword, except for the five words of `unrawable`.
-/

namespace EnumCases

/-- The words that are no names unless they are raw. -/
def keywords : List String :=
  ["_", "abstract", "as", "async", "await", "become", "box", "break", "const", "continue", "crate",
   "do", "dyn", "else", "enum", "extern", "false", "final", "fn", "for", "if", "impl", "in", "let",
   "loop", "macro", "match", "mod", "move", "mut", "override", "priv", "pub", "ref", "return",
   "Self", "self", "static", "struct", "super", "trait", "true", "try", "type", "typeof", "unsafe",
   "unsized", "use", "virtual", "where", "while", "yield"]

/-- The words that cannot be raw identifiers. -/
def unrawable : List String := ["_", "super", "self", "Self", "crate"]

/-- The mark of a raw identifier. -/
def rawMark : List Char := ['r', '#']

/-- A text without one leading mark of a raw identifier. -/
def stripRaw (s : String) : String :=
  match s.toList with
  | 'r' :: '#' :: rest => .ofList rest
  | _ => s

/-- An identifier. -/
structure Ident where
  /-- Whether it is written with the mark of a raw identifier. -/
  raw : Bool
  /-- The word, without the mark. -/
  name : String
  /-- The name is a word. -/
  word : Text.isWord name.toList = true
  /-- The name may be raw if it is. -/
  rawable : raw = true → name ∉ unrawable
deriving DecidableEq, Repr

namespace Ident

/-- The word `name` as a plain identifier. -/
def plain (name : String) (word : Text.isWord name.toList = true := by decide) : Ident :=
  ⟨false, name, word, by simp⟩

/-- The name of the attribute that holds documentation. -/
def doc : Ident := plain "doc"

/-- The identifier that fits anything and names nothing. -/
def wildcard : Ident := plain "_"

/-- The identifier with the given mark and name, if there is one. -/
def ofName? (raw : Bool) (name : String) : Option Ident :=
  if h : Text.isWord name.toList = true ∧ (raw = true → name ∉ unrawable) then
    some ⟨raw, name, h.1, h.2⟩
  else none

/-- The identifier as it is written. -/
def text (i : Ident) : String := if i.raw then "r#" ++ i.name else i.name

/-- A plain identifier that is a keyword, and so no name. -/
def isKeyword (i : Ident) : Bool := !i.raw && i.name ∈ keywords

/-- Whether the identifier is the plain word `name`. -/
def isPlain (i : Ident) (name : String) : Bool := !i.raw && i.name == name

end Ident

end EnumCases
