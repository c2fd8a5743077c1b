import EnumCases.Grammar.Attribute

/-!
# Generic parameters and bounds

A bound is a lifetime, a list of captured names, or a trait. A trait may be generic itself (`for`), may
be constant, may be relaxed (`?`), and may stand in parentheses. Bounds follow generic parameters and
the predicates of a `where` clause; some kinds of bounds are allowed at some places only.

What is written without effect is not kept: a colon without bounds, a `where` without predicates, and
angle brackets without parameters or before the arguments of a trait in parentheses.
-/

namespace EnumCases.Grammar

/-- The generic parameters after a name. -/
structure Generics where
  /-- The opening angle bracket, if there is one. -/
  opening : Tokens := []
  /-- The parameters with the commas after them. -/
  parameters : List (Argument × Tokens) := []
  /-- The closing angle bracket. -/
  closing : Tokens := []

/-- The parameters as they are written, without angle brackets. -/
def Generics.inner (g : Generics) : Tokens :=
  g.parameters.flatMap fun (a, between) => a.tokens ++ between

/-- The parameters with the lifetimes first, in angle brackets. -/
def Generics.tokens (g : Generics) : Tokens :=
  if g.parameters.isEmpty then [] else g.opening ++ Argument.ordered g.parameters ++ g.closing

/-- Whether the parameters of a binder, with lifetimes, come next after `for`. -/
def atBinder (ts : Tokens) : Bool :=
  let third := next (next ts)
  atWord "for" ts && atSymbol "<" (next ts) && (atLifetime third || atSymbol ">" third)

section

variable (read : Reader)

/-! ### Parameters -/

/-- Bounds after a colon. If there are none, the colon is not kept. -/
def boundsAfterColon (stop : Tokens → Bool) (item : Parser Tokens) : Parser Tokens := do
  if ← peek (atSymbol ":") then
    let colon ← symbol ":"
    let bs ← joinedTokens "+" stop item
    return if bs.isEmpty then [] else colon ++ bs
  else return []

/-- A parameter that is a lifetime. -/
def lifetimeParameter : Parser Tokens :=
  sequence [lifetime,
    boundsAfterColon (fun ts => ts.isEmpty || atSymbol "," ts || atSymbol ">" ts) lifetime]

/-- A parameter that is a type. -/
def typeParameter : Parser Tokens :=
  sequence [name,
    boundsAfterColon
      (fun ts => ts.isEmpty || atSymbol "," ts || atSymbol ">" ts || atSymbol "=" ts)
      (read.tokens (.bound false true)),
    optional (atSymbol "=") (sequence [symbol "=", read.tokens (.type true)])]

/-- A parameter that is a constant. -/
def constantParameter : Parser Tokens :=
  sequence [word "const", name, symbol ":", read.tokens (.type true),
    optional (atSymbol "=") (sequence [symbol "=", constantArgument read])]

/-- A parameter of an item, which may be an underscore. -/
def genericParameter : Parser Argument := do
  let outer ← attributeTokens read
  if ← peek atLifetime then return ⟨outer ++ (← lifetimeParameter), true⟩
  else if ← peek atIdent then return { tokens := outer ++ (← typeParameter read) }
  else if ← peek (atWord "const") then return { tokens := outer ++ (← constantParameter read) }
  else if ← peek (atWord "_") then return { tokens := outer ++ (← word "_") }
  else want [.lifetime, .identifier, .symbol "const"]

/-- The generic parameters after a name, if there are any. -/
def generics : Parser Generics := do
  if ← peek (atSymbol "<") then
    let opening ← symbol "<"
    let parameters ← separated (atSymbol ">") (genericParameter read) (symbol ",")
    return ⟨opening, parameters, ← symbol ">"⟩
  else return {}

/-- A parameter of a binder. -/
def binderParameter : Parser Tokens := do
  let outer ← attributeTokens read
  if ← peek atIdent then return outer ++ (← typeParameter read)
  else if ← peek atLifetime then return outer ++ (← lifetimeParameter)
  else if ← peek (atWord "const") then return outer ++ (← constantParameter read)
  else want [.identifier, .lifetime, .symbol "const"]

/-- The parameters that a bound, a type or a closure is generic in. -/
def binder : Parser Tokens := do
  let start ← sequence [word "for", symbol "<"]
  let parameters ← separated (atSymbol ">") (binderParameter read) (symbol ",")
  return start ++ parameters.flatMap (fun (a, between) => a ++ between) ++ (← symbol ">")

/-- The same, or nothing. -/
def optionalBinder : Parser Tokens := optional (atWord "for") (binder read)

/-! ### Bounds -/

/-- The type that a function returns, if it is written. -/
def returnType (plus : Bool) : Parser Tokens :=
  optional (atSymbol "->") (sequence [symbol "->", read.tokens (.type plus)])

/-- The path of a trait, which may have arguments in parentheses. -/
def traitPath : Parser Tokens := do
  let p ← path read .type
  -- Angle brackets with nothing in them, and `::` before them, give way to parentheses.
  let superseded := match p.path.segments.getLast? with
    | some ⟨_, none⟩ => some 0
    | some ⟨_, some ⟨turbofish, [_, _]⟩⟩ => some (if turbofish then 4 else 2)
    | _ => none
  let parenthesized ← peek fun ts => atGroup .parenthesis ts ||
    atSymbol "::" ts && atGroup .parenthesis (next (next ts))
  match superseded, parenthesized with
  | some count, true =>
    let _ ← optionalSymbol "::"
    let item := terminatedTokens (read.tokens (.type true))
    insideThen .parenthesis item fun arguments span => do
      return p.tokens.take (p.tokens.length - count) ++ [.group .parenthesis arguments span] ++
        (← returnType read false)
  | _, _ => return p.tokens

/-- Whether a trait is constant; it may be so or not. -/
def constness (allowed : Bool) : Parser Bool := do
  if ← peek (atGroup .bracket) then
    let (_, span) ← inside .bracket (word "const")
    if allowed then return true else refuse (.constantBound true) span
  else if ← peek (atWord "const") then
    let keyword ← word "const"
    if allowed then return true else refuse (.constantBound false) (Token.spanOf keyword)
  else return false

/-- A trait as a bound, and whether it is constant. -/
def traitBound (constant : Bool) : Parser (Tokens × Bool) := do
  let outer ← optionalBinder read
  let isConstant ← constness constant
  let question ← optionalSymbol "?"
  let inner ← if outer.isEmpty && !question.isEmpty then optionalBinder read else pure []
  let path ← traitPath read
  if !question.isEmpty && !(outer.isEmpty && inner.isEmpty) then
    refuse .binderWithQuestion (Token.spanOf question)
  return (question ++ outer ++ path, isConstant)

/-- A name that a type captures. -/
def captured : Parser Argument := do
  if ← peek atLifetime then return ⟨← lifetime, true⟩
  else if ← peek (fun ts => atIdent ts || atWord "Self" ts) then
    return { tokens := ofIdent (← anyIdent) }
  else want [.lifetime, .identifier, .symbol ">"]

/-- The names that a type captures, after `use`. -/
def capture : Parser Tokens := do
  let start ← sequence [word "use", symbol "<"]
  let names ← separated (atSymbol ">") captured do
    if ← peek (atSymbol ",") then symbol "," else want [.symbol ",", .symbol ">"]
  return start ++ Argument.ordered names ++ (← symbol ">")

/-- A bound. One that is constant is kept as it is written. -/
def boundRule (capturing constant : Bool) : Parser Phrase := do
  if ← peek atLifetime then return { tokens := ← lifetime, form := .lifetime }
  if ← peek (atWord "use") then
    let tokens ← capture
    if capturing then return { tokens, form := .lifetime }
    else refuse .capturingBound (Token.spanOf tokens)
  return { tokens := ← orVerbatim do
    let (tokens, isConstant) ← if ← peek (atGroup .parenthesis) then do
        let ((body, isConstant), span) ← inside .parenthesis (traitBound read constant)
        pure ([.group .parenthesis body span], isConstant)
      else traitBound read constant
    return if isConstant then none else some tokens }

/-- Whether another bound follows a `+`. -/
def atBound (constant : Bool) (ts : Tokens) : Bool :=
  atAnyIdent ts || atSymbol "::" ts || atSymbol "?" ts || atLifetime ts ||
    atGroup .parenthesis ts || constant && atGroup .bracket ts

/-- Bounds with `+` between them, and perhaps one after the last. -/
def bounds (plus capturing constant : Bool) : Parser (List (Phrase × Tokens)) := do
  let item := read (.bound capturing constant)
  let first ← item
  let further ← repeatWhile (fun ts => plus && atSymbol "+" ts && atBound constant (next ts)) do
    let plus ← symbol "+"
    return (plus, ← item)
  let last ← if plus then optionalSymbol "+" else pure []
  let pluses := further.map Prod.fst ++ [last]
  return (first :: further.map Prod.snd).zip pluses

/-- Bounds after a colon up to where `stop` holds, with `+` between them. -/
def listedBounds (stop : Tokens → Bool) : Parser Tokens := do
  return (← separated stop (read.tokens (.bound false true)) (symbol "+")).flatMap
    fun (b, plus) => b ++ plus

/-- Further bounds after the first, each after a `+`. -/
def furtherBounds : Parser Tokens := do
  return (← repeatWhile (atSymbol "+")
    (sequence [symbol "+", read.tokens (.bound false false)])).flatten

/-! ### Clauses -/

/-- Whether generic parameters come next, and not a qualified path. -/
def atGenericParameters (ts : Tokens) : Bool :=
  let second := next ts
  let third := next second
  atSymbol "<" ts &&
    (atSymbol ">" second || atSymbol "#" second ||
      (atLifetime second || atIdent second) &&
        (atSymbol ">" third || atSymbol "," third ||
          atSymbol ":" third && !atSymbol "::" third || atSymbol "=" third) ||
      atWord "const" second)

/-- Where the bounds of a `where` clause end. -/
def atWhereEnd (ts : Tokens) : Bool :=
  ts.isEmpty || atGroup .brace ts || atSymbol "," ts || atSymbol ";" ts ||
    atSymbol ":" ts && !atSymbol "::" ts || atSymbol "=" ts

/-- A predicate of a `where` clause. -/
def wherePredicate : Parser Tokens := do
  if ← peek (fun ts => atLifetime ts && atSymbol ":" (next ts)) then
    sequence [lifetime, symbol ":",
      joinedTokens "+" (fun ts => atWhereEnd ts || atSymbol ":" ts) lifetime]
  else
    sequence [optionalBinder read, read.tokens (.type true), symbol ":",
      joinedTokens "+" atWhereEnd (read.tokens (.bound false true))]

/-- A `where` clause, if there is one. -/
structure WhereClause where
  /-- The keyword. -/
  keyword : Tokens := []
  /-- The predicates. -/
  predicates : Tokens := []

/-- The clause, unless it has no predicates. -/
def WhereClause.tokens (w : WhereClause) : Tokens :=
  if w.predicates.isEmpty then [] else w.keyword ++ w.predicates

/-- Whether there is a clause. -/
def WhereClause.isWritten (w : WhereClause) : Bool := !w.keyword.isEmpty

/-- A `where` clause that may be missing. -/
def whereClause : Parser WhereClause := do
  if ← peek (atWord "where") then
    let keyword ← word "where"
    if ← peek atGenericParameters then refuseHere .reservedWhereGenerics
    return ⟨keyword, ← joinedTokens "," atWhereEnd (wherePredicate read)⟩
  else return {}

end

end EnumCases.Grammar
