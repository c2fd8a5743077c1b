import EnumCases.Options
import EnumCases.Code.Tokens
import EnumCases.Synthesis

/-!
# Expansion of an item

The derivation as a whole: the tokens of an item become the tokens of the derived members, or an
error. Errors are looked for in a fixed order: the item has to be readable, an enum must not be
generic, the helper attributes have to be in order, and the declaration has to be accepted.
-/

namespace EnumCases

open Grammar

/-- The rejection of a declaration as a fault of the text at a place. -/
def Diagnostic.fault (d : Diagnostic) (anchor : Span) : Fault := ⟨.custom (toString d), anchor⟩

/-- The tokens that show a fault to the author of the text. -/
def Grammar.Fault.tokens (f : Fault) : List (Token Unit) := Code.compileError f.message

/-- Why an item cannot be expanded. -/
inductive ExpansionError where
  /-- The declaration is rejected. -/
  | rejected (d : Diagnostic)
  /-- The text is refused. -/
  | refused (f : Fault)
deriving DecidableEq, Repr

namespace ExpansionError

/-- The text shown to the author of the item. -/
def message : ExpansionError → String
  | .rejected d => d.message
  | .refused f => f.message

instance : ToString ExpansionError := ⟨message⟩

/-- The name of the kind of error. -/
def kind : ExpansionError → String
  | .rejected d => d.kind
  | .refused _ => "Syn"

/-- The place that the error is shown at. -/
def span : ExpansionError → Span
  | .rejected _ => .callSite
  | .refused f => f.span

/-- The tokens that show the error to the author of the item. A rejection is shown as a fault. -/
def tokens (e : ExpansionError) : List (Token Unit) :=
  match e with
  | .rejected d => (d.fault e.span).tokens
  | .refused f => f.tokens

end ExpansionError

/-- The members of a declaration as tokens, where the support library is at a path. -/
def Declaration.render (library : Path) (d : Declaration) : Except Diagnostic (List (Token Unit)) :=
  d.transform.map (·.tokens library)

/-- The members of an item as tokens. -/
def Item.expand (i : Item) : Except ExpansionError (List (Token Unit)) := do
  let d ← i.declaration.mapError .refused
  let library ← (libraryOf i.attributes).mapError .refused
  (d.render library).mapError .rejected

/-- The members of the item that tokens consist of. -/
def expand (ts : Tokens) : Except ExpansionError (List (Token Unit)) := do
  (← (Item.read ts).mapError .refused).expand

end EnumCases
