import EnumCases.Grammar.Expression

/-!
# Fields and variants

The fields of structures, unions and variants. They are read into values for the derivation; the
tokens come along for items that are only written again.
-/

namespace EnumCases

open Grammar

/-- A visibility as it is written. -/
inductive ItemVisibility where
  /-- Nothing is written. -/
  | inherited
  /-- The keyword by itself. -/
  | exported
  /-- Within a module. -/
  | restricted (path : Path)

/-- A field of a structure or of a variant. -/
structure Field where
  /-- The attributes. -/
  attributes : List Attribute
  /-- The visibility. -/
  visibility : ItemVisibility
  /-- The type. -/
  type : Tokens

/-- Fields as they are written. -/
inductive Fields where
  /-- None at all. -/
  | unit
  /-- In parentheses. -/
  | positional (fields : List Field)
  /-- In braces, each with a label. -/
  | labelled (fields : List (Ident × Field))

/-- A variant of an enum. -/
structure Variant where
  /-- The attributes. -/
  attributes : List Attribute
  /-- The name. -/
  name : Ident
  /-- The fields. -/
  fields : Fields
  /-- The value after the equals sign, if there is one. -/
  discriminant : Option Tokens

namespace Grammar

section

variable (read : Reader)

/-- A visibility and its tokens. A group after the keyword belongs to it only if it names a module. -/
def visibility : Parser (ItemVisibility × Tokens) := do
  if !(← peek (atWord "pub")) then return (.inherited, [])
  let keyword ← word "pub"
  match (← get).rest with
  | .group .parenthesis [.ident i place] span :: _ =>
    if i.isPlain "crate" || i.isPlain "self" || i.isPlain "super" then
      advance 1
      return (.restricted ⟨false, [⟨i, none⟩]⟩,
        keyword ++ [.group .parenthesis [.ident i place] span])
    else if i.isPlain "in" then within keyword
    else return (.exported, keyword)
  | .group .parenthesis (.ident i _ :: _) _ :: _ =>
    if i.isPlain "in" then within keyword else return (.exported, keyword)
  | _ => return (.exported, keyword)
where
  /-- The group with the path of a module. -/
  within (keyword : Tokens) : Parser (ItemVisibility × Tokens) := do
    let ((start, p), span) ← inside .parenthesis do
      let start ← word "in"
      return (start, ← modulePath)
    return (.restricted p.path, keyword ++ [.group .parenthesis (start ++ p.tokens) span])

/-- A field without a label. -/
def positionalField : Parser (Field × Tokens) := do
  let outer ← attributes read
  let (vis, visTokens) ← visibility
  let type ← read.tokens (.type true)
  return (⟨outer, vis, type⟩, outer.flatMap Attribute.tokens ++ visTokens ++ type)

/-- Fields in parentheses. -/
def positionalFields : Parser (Fields × Tokens) := do
  let ((fields, tokens), span) ← inside .parenthesis (terminatedWith (positionalField read))
  return (.positional fields, [.group .parenthesis tokens span])

/-- Whether the type of a field without a name is written out as further fields. -/
def atInlineFields (ts : Tokens) : Bool :=
  atWord "struct" ts || atWord "union" ts && atGroup .brace (next ts)

/-- Fields in braces. A field labelled with an underscore may have further fields for its type. -/
def labelledFields : Parser (Fields × Tokens) := do
  nested (Token.size ((← get).rest.take 1))
where
  /-- A field with its label. -/
  labelledField (inline : Parser Tokens) : Parser ((Ident × Field) × Tokens) := do
    let outer ← attributes read
    let (vis, visTokens) ← visibility
    let unnamed ← peek (atWord "_")
    let label ← if unnamed then anyIdent else ident
    let colon ← symbol ":"
    let type ← if unnamed && (← peek atInlineFields) then verbatim inline
      else read.tokens (.type true)
    return ((label.1, ⟨outer, vis, type⟩),
      outer.flatMap Attribute.tokens ++ visTokens ++ ofIdent label ++ colon ++ type)
  /-- Fields nested at most so deep. -/
  nested : Nat → Parser (Fields × Tokens)
    | 0 => want [.group .brace]
    | n + 1 => do
      let inline : Parser Tokens := do
        let keyword := ofIdent (← anyIdent)
        return keyword ++ (← nested n).2
      let ((fields, tokens), span) ← inside .brace (terminatedWith (labelledField inline))
      return (.labelled fields, [.group .brace tokens span])

/-- A variant. A visibility before it is read and dropped. -/
def variant : Parser (Variant × Tokens) := do
  let outer ← attributes read
  let _ ← visibility
  let name ← ident
  let (fields, fieldTokens) ← if ← peek (atGroup .brace) then labelledFields read
    else if ← peek (atGroup .parenthesis) then positionalFields read
    else pure (.unit, [])
  let head := outer.flatMap Attribute.tokens ++ ofIdent name ++ fieldTokens
  if ← peek (atSymbol "=") then
    let equals ← symbol "="
    let value ← read.value
    return (⟨outer, name.1, fields, some value⟩, head ++ equals ++ value)
  return (⟨outer, name.1, fields, none⟩, head)

/-- Variants in braces. -/
def variants : Parser (List Variant × Tokens) := do
  let ((variants, tokens), span) ← inside .brace (terminatedWith (variant read))
  return (variants, [.group .brace tokens span])

/-- What follows the name of a structure: its fields and the clause with bounds, which stands before
braces or a semicolon, and after parentheses. -/
structure StructBody where
  /-- The clause with bounds. -/
  clause : WhereClause
  /-- The fields. -/
  fields : Fields
  /-- All tokens. -/
  tokens : Tokens

/-- The body of a structure. -/
def structBody : Parser StructBody := do
  let clause ← whereClause read
  if !clause.isWritten && (← peek (atGroup .parenthesis)) then
    let (fields, tokens) ← positionalFields read
    let clause ← whereClause read
    if ← peek (atSymbol ";") then
      return ⟨clause, fields, tokens ++ clause.tokens ++ (← symbol ";")⟩
    else want ((if clause.isWritten then [] else [.symbol "where"]) ++ [.symbol ";"])
  else if ← peek (atGroup .brace) then
    let (fields, tokens) ← labelledFields read
    return ⟨clause, fields, clause.tokens ++ tokens⟩
  else if ← peek (atSymbol ";") then return ⟨clause, .unit, clause.tokens ++ (← symbol ";")⟩
  else
    want ((if clause.isWritten then [] else [.symbol "where", .group .parenthesis]) ++
      [.group .brace, .symbol ";"])

end

end Grammar

end EnumCases
