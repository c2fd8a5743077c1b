import EnumCases.Grammar.Generics

/-!
# Types

The rule of a type. Bounds may stand for a type, with `dyn` before them or not, as long as one of them
is a trait.
-/

namespace EnumCases.Grammar

/-- Whether a string literal comes next. -/
def atString : Tokens → Bool
  | .literal l _ :: _ => l.kind == .string
  | _ => false

/-- Whether something that is built in comes next. -/
def atBuiltin (ts : Tokens) : Bool := atWord "builtin" ts && atSymbol "#" (next ts)

/-- Something built in: its name and its arguments. -/
def builtin : Parser Unit := do
  let _ ← sequence [word "builtin", symbol "#", name]
  let _ ← inside .parenthesis (modify fun c => { c with rest := [] })

section

variable (read : Reader)

/-- The convention that a function is called by. -/
def callingConvention : Parser Tokens := sequence [word "extern", optional atString literal]

/-- The tokens of bounds. -/
def boundTokens (bs : List (Phrase × Tokens)) : Tokens :=
  bs.flatMap fun (b, plus) => b.tokens ++ plus

/-- Fails if no bound is a trait. -/
def requireTrait (keyword : Tokens) (bs : List (Phrase × Tokens)) (missing : Cause) :
    Parser Unit := do
  if bs.all fun (b, _) => b.form matches .lifetime then
    refuse missing (Token.spanOf (keyword ++ bs.flatMap fun (b, _) => b.tokens))

/-- Bounds that stand for a type. -/
def objectType (keyword : Tokens) (plus : Bool) : Parser Tokens := do
  let bs ← bounds read plus false false
  requireTrait keyword bs .objectWithoutTrait
  return keyword ++ boundTokens bs

/-- Some type that has the given bounds. -/
def implType (plus : Bool) : Parser Tokens := do
  let keyword ← word "impl"
  let bs ← bounds read plus true true
  requireTrait keyword bs .implWithoutTrait
  return keyword ++ boundTokens bs

/-- What stands in the parentheses of a type, and whether bounds may be added to it. -/
def parenthesizedInner (plus : Bool) : Parser (Phrase × Bool) := do
  if ← peek List.isEmpty then return ({ tokens := [] }, false)
  if ← peek atLifetime then return ({ tokens := ← objectType read [] true }, false)
  if ← peek (atSymbol "?") then
    let (tokens, _) ← traitBound read false
    return ({ tokens, form := .bound tokens }, true)
  let first ← read (.type true)
  if ← peek (atSymbol ",") then
    let comma ← symbol ","
    let further ← terminatedTokens (read.tokens (.type true))
    return ({ tokens := first.tokens ++ comma ++ further }, false)
  return (first, plus)

/-- A tuple, a type in parentheses, or bounds the first of which is in parentheses. -/
def parenthesizedType (plus : Bool) : Parser Phrase := do
  let question := match (← get).rest with
    | .group _ body _ :: _ => atSymbol "?" body
    | _ => false
  insideThen .parenthesis (parenthesizedInner read plus) fun (inner, extensible) span => do
    let further ← peek (atSymbol "+")
    let bound? := match inner.form with
      | .path _ => some inner.tokens
      | .bound tokens => some tokens
      | _ => none
    match bound?, extensible && further with
    | some bound, true =>
      return { tokens := .group .parenthesis bound span :: (← furtherBounds read) }
    | _, _ =>
      let form := if question then inner.form else .other
      return { tokens := [.group .parenthesis inner.tokens span], form }

/-- An argument of a function type: a type, perhaps with a name before it. A receiver is kept as it is
written. -/
def functionArgument (first : Bool) : Parser Tokens := orVerbatim do
  let atMutable (ts : Tokens) : Bool := first && atWord "mut" ts && atWord "self" (next ts)
  let isMutable ← peek atMutable
  if isMutable then let _ ← word "mut"
  let hasSelf ← peek fun ts => first && atWord "self" ts
  let hasName ← peek fun ts => (atIdent ts || atWord "_" ts || first && atWord "self" ts) &&
    atSymbol ":" (next ts) && !atSymbol "::" (next ts)
  let name ← if hasName then do
      let i ← anyIdent
      pure (ofIdent i ++ (← symbol ":"))
    else pure []
  if !(hasName && hasSelf) && (← peek atMutable) then
    let _ ← sequence [word "mut", word "self"]
    return none
  if isMutable && !hasName then
    let _ ← word "self"
    return none
  let type ← read.tokens (.type true)
  return if isMutable then none else some (name ++ type)

/-- Whether the arguments of a function type end with dots here. -/
def atVariadic (ts : Tokens) : Bool :=
  atSymbol "..." ts ||
    (atIdent ts || atWord "_" ts) && atSymbol ":" (next ts) && atSymbol "..." (next (next ts))

/-- The arguments of a function type. -/
def functionArguments : Parser Tokens := do
  rounds ((← get).rest.length + 1) true
where
  /-- At most so many arguments. -/
  rounds : Nat → Bool → Parser Tokens
    | 0, _ => return []
    | n + 1, first => do
      if ← peek List.isEmpty then return []
      let outer ← attributeTokens read
      if ← peek atVariadic then
        let name ← optional atAnyIdent do
          let i ← anyIdent
          return ofIdent i ++ (← symbol ":")
        return outer ++ name ++ (← sequence [symbol "...", optionalSymbol ","])
      let argument ← functionArgument read first
      if ← peek List.isEmpty then return outer ++ argument
      let comma ← symbol ","
      return outer ++ argument ++ comma ++ (← rounds n false)

/-- A function type. -/
def functionType : Parser Tokens := do
  let start ← sequence [optionalWord "unsafe", optional (atWord "extern") callingConvention,
    word "fn"]
  insideThen .parenthesis (functionArguments read) fun arguments span => do
    return start ++ [.group .parenthesis arguments span] ++ (← returnType read false)

/-- A type that starts with a path: the path, a call of a macro, or bounds. A call takes no binder. -/
def pathType (lifetimes : Tokens) (plus : Bool) : Parser Phrase := do
  let p ← qualifiedPath read .type
  match p.form with
  | .path q =>
    if q.isPlain && (← peek fun ts => atSymbol "!" ts && !atSymbol "!=" ts) then
      return { tokens := p.tokens ++ (← sequence [symbol "!", anyGroup]) }
    let generic := lifetimes ++ p.tokens
    if plus && (← peek (atSymbol "+")) then
      let further ← repeatWhile (fun ts => atSymbol "+" ts && atBound false (next ts))
        (sequence [symbol "+", read.tokens (.bound false false)])
      return { tokens := generic ++ further.flatten ++ (← optionalSymbol "+") }
    if lifetimes.isEmpty then return p
    return { tokens := generic, form := .bound generic }
  | _ => return p

/-- What a type may start with. -/
def typeStarts : List Terminal :=
  [.symbol "for", .group .parenthesis, .symbol "fn", .symbol "unsafe", .symbol "extern",
   .identifier, .symbol "::", .symbol "<", .symbol "dyn", .group .bracket, .symbol "*",
   .symbol "&", .symbol "!", .symbol "impl", .symbol "_", .lifetime]

/-- What a type may go on with after the lifetimes it is generic in. -/
def genericTypeStarts : List Terminal :=
  [.identifier, .symbol "fn", .symbol "unsafe", .symbol "extern", .symbol "super", .symbol "self",
   .symbol "Self", .symbol "crate"]

/-- A slice or an array. -/
def bracketedType : Parser Tokens :=
  grouped .bracket do
    let element ← read.tokens (.type true)
    return element ++ (← optional (atSymbol ";") (sequence [symbol ";", read.value]))

/-- A raw pointer. -/
def pointerType : Parser Tokens := do
  let star ← symbol "*"
  let mutability ← if ← peek (atWord "const") then word "const"
    else if ← peek (atWord "mut") then word "mut"
    else want [.symbol "const", .symbol "mut"]
  return star ++ mutability ++ (← read.tokens (.type false))

/-- A reference. -/
def referenceType : Parser Tokens :=
  sequence [symbol "&", optional atLifetime lifetime, optionalWord "mut", read.tokens (.type false)]

/-- An object type after its keyword. One with a star is kept as it is written. -/
def dynType (plus : Bool) : Parser Tokens := orVerbatim do
  let keyword ← word "dyn"
  let star ← optionalSymbol "*"
  let tokens ← objectType read keyword plus
  return if star.isEmpty then some tokens else none

/-- A type. -/
def typeRule (plus : Bool) : Parser Phrase := do
  let before := (← get).rest
  let lifetimes ← optionalBinder read
  let atFunction := atWords ["fn", "unsafe", "extern"]
  let atPath (ts : Tokens) : Bool := atIdent ts || atWords moduleWords ts
  if !lifetimes.isEmpty && !(← peek fun ts => atPath ts || atFunction ts) then
    want genericTypeStarts
  if ← peek (atGroup .parenthesis) then parenthesizedType read plus
  else if ← peek atFunction then return { tokens := lifetimes ++ (← functionType read) }
  else if ← peek atBuiltin then
    builtin
    return { tokens := ← readSince before }
  else if ← peek (fun ts => atPath ts || atSymbol "::" ts || atSymbol "<" ts) then
    pathType read lifetimes plus
  else if ← peek (atWord "dyn") then return { tokens := ← dynType read plus }
  else if ← peek (atGroup .bracket) then return { tokens := ← bracketedType read }
  else if ← peek (atSymbol "*") then return { tokens := ← pointerType read }
  else if ← peek (atSymbol "&") then return { tokens := ← referenceType read }
  else if ← peek (atSymbol "!") then return { tokens := ← symbol "!" }
  else if ← peek (atWord "impl") then return { tokens := ← implType read plus }
  else if ← peek (atWord "_") then return { tokens := ← word "_" }
  else if ← peek atLifetime then return { tokens := ← objectType read [] true }
  else want typeStarts

end

end EnumCases.Grammar
