import EnumCases.Grammar.Rules
import EnumCases.Declaration
import EnumCases.Token.Printer

/-!
# Items

An item is the declaration of a structure, an enum or a union, as it is written: with its attributes,
its visibility, its generic parameters and its fields. `Item.read` reads one out of tokens.
`Item.declaration` is the view of it that members are derived from; it leaves out everything but
names, and refuses an enum with generic parameters.
-/

namespace EnumCases

open Grammar

/-- What an item declares. -/
inductive ItemBody where
  | struct (fields : Fields)
  | enum (variants : List Variant)
  | union (fields : Fields)

/-- An item. -/
structure Item where
  /-- The attributes. -/
  attributes : List Attribute
  /-- The visibility. -/
  visibility : ItemVisibility
  /-- The name. -/
  name : Ident
  /-- The generic parameters, without the angle brackets. -/
  parameters : Tokens
  /-- The clause with bounds. -/
  whereClause : Tokens
  /-- What is declared. -/
  body : ItemBody

namespace Grammar

section

variable (read : Reader)

/-- An item. -/
def item : Parser Item := do
  let outer ← attributes read
  let (vis, _) ← visibility
  if ← peek (atWord "struct") then
    let _ ← word "struct"
    let (name, _) ← ident
    let parameters := (← generics read).inner
    let body ← structBody read
    return ⟨outer, vis, name, parameters, body.clause.tokens, .struct body.fields⟩
  else if ← peek (atWord "enum") then
    let _ ← word "enum"
    let (name, _) ← ident
    let parameters := (← generics read).inner
    let clause ← whereClause read
    let (variants, _) ← variants read
    return ⟨outer, vis, name, parameters, clause.tokens, .enum variants⟩
  else if ← peek (atWord "union") then
    let _ ← word "union"
    let (name, _) ← ident
    let parameters := (← generics read).inner
    let clause ← whereClause read
    let (fields, _) ← labelledFields read
    return ⟨outer, vis, name, parameters, clause.tokens, .union fields⟩
  else want [.symbol "struct", .symbol "enum", .symbol "union"]

end

end Grammar

/-- The item that tokens consist of. -/
def Item.read (ts : Tokens) : Except Fault Item := complete (item (reader ts)) .callSite ts

/-- The modifiers that a visibility is for the derivation. -/
def ItemVisibility.modifiers : ItemVisibility → List Modifier
  | .inherited => []
  | .exported => [.exported]
  | .restricted path => [.restricted (Token.print path.tokens)]

/-- A variant as a case. -/
def Variant.case (v : Variant) : Case :=
  match v.fields with
  | .unit => .unit v.name.name
  | .positional fields => .tuple v.name.name fields.length
  | .labelled fields => .record v.name.name (fields.map (·.1.name))

/-- The view of an item that members are derived from. -/
def Item.declaration (i : Item) : Except Fault Declaration :=
  match i.body with
  | .struct _ => .ok (.other i.name.name .structKind)
  | .union _ => .ok (.other i.name.name .unionKind)
  | .enum variants =>
    if i.parameters.isEmpty then
      .ok (.enum ⟨i.name.name, i.visibility.modifiers, variants.map (.cases [·.case])⟩)
    else .error ⟨.genericEnum, Token.spanOf i.parameters⟩

end EnumCases
