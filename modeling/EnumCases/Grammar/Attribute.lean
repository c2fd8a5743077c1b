import EnumCases.Grammar.Path

/-!
# Attributes

An attribute is `#` and, in brackets, a path by itself, with arguments in a group, or with a value.
The arguments of an attribute may be such entries again, so an entry is a type of its own.
-/

namespace EnumCases.Grammar

/-- What follows the path of an entry. -/
inductive EntryTail where
  /-- Nothing. -/
  | nothing
  /-- A group with whatever tokens. -/
  | list (d : Delimiter) (body : Tokens) (span : Span)
  /-- A value, after an equals sign at a place. -/
  | value (equals : Span) (value : Phrase)

/-- An entry of an attribute. -/
structure Entry where
  /-- The path. -/
  path : PathPhrase
  /-- What follows it. -/
  tail : EntryTail

/-- The tokens of an entry. -/
def Entry.tokens (e : Entry) : Tokens :=
  e.path.tokens ++
    match e.tail with
    | .nothing => []
    | .list d body span => [.group d body span]
    | .value equals value => .punct '=' .alone equals :: value.tokens

/-- An attribute. -/
structure Attribute where
  /-- The place of the mark `#`. -/
  mark : Span
  /-- The place of the brackets. -/
  span : Span
  /-- What stands in the brackets. -/
  entry : Entry

/-- The tokens of an attribute. -/
def Attribute.tokens (a : Attribute) : Tokens :=
  [.punct '#' .alone a.mark, .group .bracket a.entry.tokens a.span]

/-- Whether a literal comes next, and nothing after it. -/
def atLastLiteral : Tokens → Bool
  | [t] => atLiteral [t]
  | [.punct mark spacing span, t] => atLiteral [.punct mark spacing span, t]
  | _ => false

/-- The form of a literal that was read. -/
def literalForm : Tokens → Form
  | [.literal l _] => .literal l
  | _ => .other

section

variable (read : Reader)

/-- The value of an entry. -/
def entryValue : Parser Phrase := do
  if ← peek atLastLiteral then
    let tokens ← literal
    return { tokens, form := literalForm tokens }
  else if ← peek (fun ts => atSymbol "#" ts && atGroup .bracket (next ts)) then
    refuseHere .nestedAttribute
  else read (.expression true)

/-- What follows the path of an entry. -/
def entryTail : Parser EntryTail := do
  match (← get).rest with
  | .group d body span :: _ =>
    advance 1
    return .list d body span
  | ts =>
    if atSymbol "=" ts && !atSymbol "==" ts && !atSymbol "=>" ts then
      let equals ← symbol "="
      return .value (Token.spanOf equals) (← entryValue read)
    else return .nothing

/-- An entry. Its path is that of a module, or the keyword `unsafe`. -/
def entry : Parser Entry := do
  let path ← if ← peek (atWord "unsafe") then do
      let i ← anyIdent
      pure ⟨⟨false, [⟨i.1, none⟩]⟩, ofIdent i⟩
    else modulePath
  return ⟨path, ← entryTail read⟩

/-- An attribute. -/
def anAttribute : Parser Attribute := do
  let mark ← symbol "#"
  let (entry, span) ← inside .bracket (entry read)
  return ⟨Token.spanOf mark, span, entry⟩

/-- The attributes before something. -/
def attributes : Parser (List Attribute) := repeatWhile (atSymbol "#") (anAttribute read)

/-- The attributes before something, as tokens. -/
def attributeTokens : Parser Tokens := return (← attributes read).flatMap Attribute.tokens

/-- The attributes inside a block, which have `!` after their mark. -/
def innerAttributes : Parser Tokens := do
  return (← repeatWhile (fun ts => atSymbol "#" ts && atSymbol "!" (next ts)) do
    let marks ← sequence [symbol "#", symbol "!"]
    let (entry, span) ← inside .bracket (entry read)
    return marks ++ [.group .bracket entry.tokens span]).flatten

end

end EnumCases.Grammar
