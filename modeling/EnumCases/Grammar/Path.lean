import EnumCases.Grammar.Phrase

/-!
# Paths and generic arguments

Paths come in three styles. In a type, generic arguments follow a segment directly or after `::`; in
an expression only after `::`; and the path of a module, as in attributes and visibilities, has
none. Generic arguments are written with the lifetimes first.
-/

namespace EnumCases.Grammar

/-- The keywords that may be segments of a path. -/
def moduleWords : List String := ["super", "self", "Self", "crate"]

/-- A path and its tokens. -/
structure PathPhrase where
  /-- The path. -/
  path : Path
  /-- The tokens. -/
  tokens : Tokens

/-- The path of a module. -/
def modulePath : Parser PathPhrase := do
  let leading ← optionalSymbol "::"
  let steps ← joined "::" (fun ts => !(atIdent ts || atWords moduleWords ts)) anyIdent
  match steps.getLast? with
  | none => let _ ← ident
  | some (_, []) => pure ()
  | some (_, _ :: _) => want [.nextSegment]
  return ⟨⟨!leading.isEmpty, steps.map fun (i, _) => ⟨i.1, none⟩⟩,
    leading ++ steps.flatMap fun (i, colons) => ofIdent i ++ colons⟩

/-- Where the style of a path matters. -/
inductive PathStyle where
  | type
  | expression
deriving DecidableEq, Repr

/-- Tokens that stand for a comma nobody wrote. -/
def impliedComma : Tokens := [.punct ',' .alone .callSite]

/-- A generic argument. -/
structure Argument where
  /-- The tokens. -/
  tokens : Tokens
  /-- Whether it is a lifetime. -/
  isLifetime : Bool := false

/-- Arguments with the separators after them; a comma is added where the one before has none and
`pending` says so. -/
def Argument.write (pending : Bool) : List (Argument × Tokens) → Tokens
  | [] => []
  | (a, between) :: rest =>
    (if pending then impliedComma else []) ++ a.tokens ++ between ++
      write between.isEmpty rest

/-- Arguments as they are written, lifetimes first. -/
def Argument.ordered (arguments : List (Argument × Tokens)) : Tokens :=
  let (lifetimes, others) := arguments.partition (·.1.isLifetime)
  let pending := match lifetimes.getLast? with
    | some (_, between) => between.isEmpty
    | none => false
  lifetimes.flatMap (fun (a, between) => a.tokens ++ between) ++ write pending others

section

variable (read : Reader)

/-- A constant as an argument: a literal, a name, or a block. -/
def constantArgument : Parser Tokens := do
  if ← peek atLiteral then literal
  else if ← peek atIdent then name
  else if ← peek (atGroup .brace) then read.tokens .body
  else
    let c ← get
    match c.rest with
    | t :: _ => refuse (.unexpected []) t.label
    | [] => refuse (.unexpectedEnd []) c.scope

/-- Whether a constant comes next that cannot be a type. -/
def atConstant (ts : Tokens) : Bool := atLiteral ts || atGroup .brace ts

/-- A generic argument: a lifetime, a constant, a type, or a name that is equated or bounded. -/
def genericArgument : Parser Argument := do
  if ← peek (fun ts => atLifetime ts && !atSymbol "+" (next ts)) then
    return ⟨← lifetime, true⟩
  if ← peek atConstant then return { tokens := ← constantArgument read }
  let type ← read (.type true)
  let named := match type.form with
    | .path ⟨false, [_]⟩ => true
    | _ => false
  if named && (← peek (atSymbol "=")) then
    let equals ← symbol "="
    let value ← if ← peek atConstant then constantArgument read else read.tokens (.type true)
    return { tokens := type.tokens ++ equals ++ value }
  if named && (← peek (atSymbol ":")) then
    let colon ← symbol ":"
    let bounds ← joinedTokens "+" (fun ts => atSymbol "," ts || atSymbol ">" ts)
      (read.tokens (.bound false true))
    return { tokens := type.tokens ++ colon ++ bounds }
  return { tokens := type.tokens }

/-- Generic arguments from `<` to `>`. -/
def angleArguments : Parser Tokens := do
  let opening ← symbol "<"
  let arguments ← separated (atSymbol ">") (genericArgument read) (symbol ",")
  let closing ← symbol ">"
  return opening ++ Argument.ordered arguments ++ closing

/-- Whether generic arguments come next. -/
def atArguments (style : PathStyle) (ts : Tokens) : Bool :=
  style == .type && atSymbol "<" ts && !atSymbol "<=" ts && !atSymbol "<<=" ts ||
    atSymbol "::" ts && atSymbol "<" (next (next ts))

/-- A segment of a path and its tokens. -/
def segment (style : PathStyle) : Parser (Segment × Tokens) := do
  if ← peek (atWords ["super", "self", "crate", "try"]) then
    let i ← anyIdent
    return (⟨i.1, none⟩, ofIdent i)
  let i ← if ← peek (atWord "Self") then anyIdent else ident
  if ← peek (atArguments style) then
    let colons ← optionalSymbol "::"
    let arguments ← angleArguments read
    return (⟨i.1, some ⟨!colons.isEmpty, Token.erase arguments⟩⟩, ofIdent i ++ colons ++ arguments)
  return (⟨i.1, none⟩, ofIdent i)

/-- The segments of a path from its first `::` on, up to one with arguments in parentheses. -/
def furtherSegments (style : PathStyle) : Parser (List (Segment × Tokens)) :=
  repeatWhile (fun ts => atSymbol "::" ts && !atGroup .parenthesis (next (next ts))) do
    let colons ← symbol "::"
    let (s, tokens) ← segment read style
    return (s, colons ++ tokens)

/-- A path. -/
def path (style : PathStyle) : Parser PathPhrase := do
  let leading ← optionalSymbol "::"
  let first ← segment read style
  let steps := first :: (← furtherSegments read style)
  return ⟨⟨!leading.isEmpty, steps.map Prod.fst⟩, leading ++ steps.flatMap Prod.snd⟩

/-- A path, or one that starts with a qualified self type. -/
def qualifiedPath (style : PathStyle) : Parser Phrase := do
  if ← peek (atSymbol "<") then
    let opening ← symbol "<"
    let self ← read.tokens (.type true)
    let trait ← optional (atWord "as") do
      let as ← word "as"
      return as ++ (← path read .type).tokens
    let closing ← symbol ">"
    let colons ← symbol "::"
    let steps ← joined "::" (fun _ => false) (do return (← segment read style).2)
    return { tokens := opening ++ self ++ trait ++ closing ++ colons ++
      steps.flatMap fun (tokens, between) => tokens ++ between }
  else
    let p ← path read style
    return { tokens := p.tokens, form := .path p.path }

end

end EnumCases.Grammar
