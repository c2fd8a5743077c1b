import EnumCases.Grammar.Member
import EnumCases.Grammar.Type

/-!
# Patterns

A pattern names values, takes tuples, structures and slices apart, or gives a range of literals and
paths. In a slice, a range with one end only has to stand in parentheses.
-/

namespace EnumCases.Grammar

/-- Whether an alternative follows a pattern. -/
def atAlternative (ts : Tokens) : Bool :=
  atSymbol "|" ts && !atSymbol "||" ts && !atSymbol "|=" ts

/-- Whether a pattern ends here that may go on with a bound. -/
def atPatternEnd (ts : Tokens) : Bool :=
  ts.isEmpty || atSymbol "|" ts || atSymbol "=" ts || atSymbol ":" ts && !atSymbol "::" ts ||
    atSymbol "," ts || atSymbol ";" ts || atWord "if" ts

/-- Whether a pattern comes next that starts with a path and is no single name. -/
def atPatternPath (ts : Tokens) : Bool :=
  let second := next ts
  atIdent ts && (["::", "!", ".."].any (atSymbol · second) || atGroup .brace second ||
      atGroup .parenthesis second) ||
    atWord "self" ts && atSymbol "::" second || atSymbol "::" ts || atSymbol "<" ts ||
    atWords ["Self", "super", "crate"] ts

/-- What a pattern may start with. -/
def patternStarts (dots : Bool) : List Terminal :=
  [.identifier, .symbol "::", .symbol "<", .symbol "_", .literal, .symbol "const", .symbol "ref",
   .symbol "mut", .symbol "&", .group .parenthesis, .group .bracket] ++
  (if dots then [] else [.symbol ".."]) ++ [.symbol "const"]

/-- The dots of a range of values, and whether its upper end belongs to it. -/
def rangeDots : Parser (Tokens × Bool) := do
  if ← peek (atSymbol "..=") then return (← symbol "..=", true)
  else if ← peek (atSymbol "...") then want [.symbol "..="]
  else return (← symbol "..", false)

/-- The same in a pattern, where three dots are an old way to write `..=`. -/
def patternDots : Parser (Tokens × Bool) := do
  if ← peek (atSymbol "...") then
    let dots ← symbol "..."
    return (dots.zipWith (fun t mark => .punct mark (if mark = '=' then .alone else .joint) t.label)
      ['.', '.', '='], true)
  else rangeDots

section

variable (read : Reader)

/-- A constant in braces. -/
def constantBlock : Parser Tokens := sequence [word "const", read.tokens .body]

/-- A bound of a range, if there is one. -/
def patternBound : Parser Tokens := do
  if ← peek atPatternEnd then return []
  if ← peek atLiteral then literal
  else if ← peek (fun ts => atIdent ts || atSymbol "::" ts || atSymbol "<" ts ||
      atWords moduleWords ts) then
    return (← qualifiedPath read .expression).tokens
  else if ← peek (atWord "const") then constantBlock read
  else want [.literal, .identifier, .symbol "::", .symbol "<", .symbol "self", .symbol "Self",
    .symbol "super", .symbol "crate", .symbol "const"]

/-- The rest of a range after its lower bound. -/
def patternRange (lower : Tokens) : Parser Phrase := do
  let (dots, closed) ← patternDots
  let upper ← patternBound read
  if closed && upper.isEmpty then want [.upperBound]
  let form := if upper.isEmpty then .range (Token.spanOf dots) else .other
  return { tokens := lower ++ dots ++ upper, form }

/-- A range without a lower bound, or the rest of a sequence. -/
def patternFromDots : Parser Phrase := do
  let (dots, closed) ← rangeDots
  let upper ← patternBound read
  if !upper.isEmpty then return { tokens := dots ++ upper, form := .range (Token.spanOf dots) }
  if closed then want [.upperBound] else return { tokens := dots }

/-- A field in a pattern: a field with a pattern for it, or a name for the field. -/
def fieldPattern : Parser Tokens := orVerbatim do
  let boxed ← optionalWord "box"
  let mode ← sequence [optionalWord "ref", optionalWord "mut"]
  if !(boxed.isEmpty && mode.isEmpty) then
    let field ← name
    return if boxed.isEmpty then some (mode ++ field) else none
  let isIndex ← peek (!atIdent ·)
  let field ← member
  if isIndex || (← peek (atSymbol ":")) then
    return some (field ++ (← sequence [symbol ":", read.tokens .alternatives]))
  return some field

/-- The fields of a structure in a pattern, up to the dots that stand for the rest. -/
def structurePattern : Parser Tokens := do
  rounds ((← get).rest.length + 1)
where
  /-- At most so many fields. -/
  rounds : Nat → Parser Tokens
    | 0 => return []
    | n + 1 => do
      if ← peek List.isEmpty then return []
      let outer ← attributeTokens read
      if ← peek (atSymbol "..") then return outer ++ (← symbol "..")
      let field ← fieldPattern read
      if ← peek List.isEmpty then return outer ++ field
      let comma ← symbol ","
      return outer ++ field ++ comma ++ (← rounds n)

/-- A pattern that starts with a path. -/
def pathPattern : Parser Phrase := do
  let p ← qualifiedPath read .expression
  let plain := match p.form with
    | .path q => q.isPlain
    | _ => false
  if plain && (← peek fun ts => atSymbol "!" ts && !atSymbol "!=" ts) then
    return { tokens := p.tokens ++ (← sequence [symbol "!", anyGroup]) }
  if ← peek (atGroup .brace) then
    return { tokens := p.tokens ++ (← grouped .brace (structurePattern read)) }
  if ← peek (atGroup .parenthesis) then
    return { tokens := p.tokens ++
      (← grouped .parenthesis (terminatedTokens (read.tokens .alternatives))) }
  if ← peek (atSymbol "..") then patternRange read p.tokens
  else return { tokens := p.tokens }

/-- A pattern that starts with a literal or a constant. -/
def boundPattern : Parser Phrase := do
  let lower ← patternBound read
  if ← peek (atSymbol "..") then patternRange read lower else return { tokens := lower }

/-- A name, perhaps with a pattern for what it names. -/
def namePattern : Parser Tokens := do
  let mode ← sequence [optionalWord "ref", optionalWord "mut"]
  let name ← if ← peek (atWord "self") then anyIdent else ident
  return mode ++ ofIdent name ++
    (← optional (atSymbol "@") (sequence [symbol "@", read.tokens .pattern]))

/-- An element of a slice in a pattern. -/
def elementPattern : Parser Tokens := do
  let element ← read .alternatives
  match element.form with
  | .range dots => refuse .openRangeInSlice dots
  | _ => return element.tokens

/-- A pattern without alternatives. -/
def patternRule : Parser Phrase := do
  if ← peek atPatternPath then pathPattern read
  else if ← peek (atWord "_") then return { tokens := ← word "_" }
  else if ← peek (atWord "box") then
    let tokens ← verbatim (sequence [word "box", read.tokens .pattern])
    return { tokens, form := .verbatim }
  else if ← peek (fun ts => atSymbol "-" ts || atLiteral ts || atWord "const" ts) then
    boundPattern read
  else if ← peek (fun ts => atWords ["ref", "mut", "self"] ts || atIdent ts) then
    return { tokens := ← namePattern read }
  else if ← peek (atSymbol "&") then
    return { tokens := ← sequence [symbol "&", optionalWord "mut", read.tokens .pattern] }
  else if ← peek (atGroup .parenthesis) then
    return { tokens := ← grouped .parenthesis (terminatedTokens (read.tokens .alternatives)) }
  else if ← peek (atGroup .bracket) then
    return { tokens := ← grouped .bracket (terminatedTokens (elementPattern read)) }
  else if ← peek (fun ts => atSymbol ".." ts && !atSymbol "..." ts) then patternFromDots read
  else want (patternStarts (atSymbol ".." (← get).rest))

/-- A pattern with its alternatives. -/
def alternativesRule : Parser Phrase := do
  let leading ← optionalSymbol "|"
  let first ← read .pattern
  let further ← repeatWhile atAlternative (sequence [symbol "|", read.tokens .pattern])
  if leading.isEmpty && further.isEmpty then return first
  return { tokens := leading ++ first.tokens ++ further.flatten }

end

end EnumCases.Grammar
