import EnumCases.Grammar.Pattern

/-!
# Operators

Binary operators stand between operands; calls, fields and indices stand after them. A binary operator
takes from its right all operators that are tighter than itself. Comparisons do not chain, and nothing
follows a range.
-/

namespace EnumCases.Grammar

/-- The binary operators with their levels. Longer operators stand before their beginnings. -/
def binaryOperators : List (String × Level) :=
  [("+=", .assign), ("-=", .assign), ("*=", .assign), ("/=", .assign), ("%=", .assign),
   ("^=", .assign), ("&=", .assign), ("|=", .assign), ("<<=", .assign), (">>=", .assign),
   ("&&", .and), ("||", .or), ("<<", .shift), (">>", .shift), ("==", .compare), ("<=", .compare),
   ("!=", .compare), (">=", .compare), ("+", .sum), ("-", .sum), ("*", .product),
   ("/", .product), ("%", .product), ("^", .bitXor), ("&", .bitAnd), ("|", .bitOr),
   ("<", .compare), (">", .compare)]

/-- The binary operator that comes next. -/
def binaryOperator? (ts : Tokens) : Option (String × Level) :=
  binaryOperators.find? fun (text, _) => atSymbol text ts

/-- Whether an assignment comes next. -/
def atAssignment (ts : Tokens) : Bool := atSymbol "=" ts && !atSymbol "=>" ts

/-- Whether a dot comes next that announces a member. -/
def atDot (ts : Tokens) : Bool := atSymbol "." ts && !atSymbol ".." ts

/-- The level of what comes next after an operand. -/
def nextLevel (ts : Tokens) : Level :=
  match binaryOperator? ts with
  | some (_, level) => level
  | none =>
    if atAssignment ts then .assign
    else if atSymbol ".." ts then .range
    else if atWord "as" ts then .cast
    else .lowest

/-- What may not follow a cast, if it follows. -/
def castFollower? (ts : Tokens) : Option Follower :=
  if atDot ts then
    let second := next ts
    let third := next second
    if atWord "await" second then some .await
    else if atIdent second && (atGroup .parenthesis third || atSymbol "::" third) then
      some .methodCall
    else some .fieldAccess
  else if atSymbol "?" ts then some .question
  else if atGroup .bracket ts then some .indexing
  else if atGroup .parenthesis ts then some .call
  else none

/-- Whether a range ends here without an upper end. -/
def atRangeEnd (braces : Bool) (ts : Tokens) : Bool :=
  ts.isEmpty || atDot ts || atWord "as" ts || !braces && atGroup .brace ts ||
    [",", ";", "?", "=>", "=", "+", "/", "%", "^", ">", "<=", "!=", "-=", "*=", "&=", "|=",
      "<<="].any (atSymbol · ts)

section

variable (read : Reader)

/-- A range from its dots on, after its lower end. -/
def rangeRest (lower : Tokens) (braces : Bool) : Parser Phrase := do
  let (dots, closed) ← rangeDots
  let upper ← if !closed && (← peek (atRangeEnd braces)) then pure []
    else read.tokens (.right .range braces)
  return { tokens := lower ++ dots ++ upper, form := .range (Token.spanOf dots) }

/-- Binary operators after a left operand, as long as they are no looser than `base`. -/
def operatorsRule (left : Phrase) (base : Level) (braces : Bool) : Parser Phrase := do
  if left.form matches .range _ then return left
  let ts := (← get).rest
  let level := nextLevel ts
  if level.rank < base.rank ∨ level = .lowest then return left
  match binaryOperator? ts with
  | some (text, level) =>
    if level = .compare ∧ left.form matches .comparison then refuseHere .chainedComparison
    let operator ← symbol text
    let right ← read.tokens (.right level braces)
    let form := if level = .compare then .comparison else .other
    read (.operators { left with tokens := left.tokens ++ operator ++ right, form } base braces)
  | none =>
    if level = .assign then
      let equals ← symbol "="
      let right ← read.tokens (.right .assign braces)
      let tokens := left.tokens ++ equals ++ right
      read (.operators { left with tokens, form := .other } base braces)
    else if level = .range then
      read (.operators (← rangeRest read left.tokens braces) base braces)
    else
      let as ← word "as"
      let type ← read.tokens (.type false)
      match castFollower? (← get).rest with
      | some follower => refuseHere (.castFollowedBy follower)
      | none =>
        let tokens := left.tokens ++ as ++ type
        read (.operators { left with tokens, form := .other } base braces)

/-- The right operand of an operator, after a part of it: operators that are tighter belong to it,
and assignments group to the right. -/
def rightRestRule (operand : Phrase) (level : Level) (braces : Bool) : Parser Phrase := do
  let c ← get
  let ahead := nextLevel c.rest
  if level.rank < ahead.rank ∨ ahead = level ∧ level = .assign then
    let further ← read (.operators operand ahead braces)
    if (← get).rest.length = c.rest.length then return further
    read (.rightRest further level braces)
  else return operand

/-- The arguments of a call. -/
def callArguments : Parser Tokens := grouped .parenthesis (terminatedTokens read.value)

/-- A member after its dot: a future's value, a field, or a call of a method. -/
def memberAfter (dot : Tokens) : Parser Tokens := do
  if ← peek (atWord "await") then return dot ++ (← word "await")
  let isName ← peek atIdent
  let name ← member
  let arguments ← optional (fun ts => isName && atSymbol "::" ts)
    (sequence [symbol "::", angleArguments read])
  let called ← peek fun ts => isName && atGroup .parenthesis ts
  if arguments.isEmpty && !called then return dot ++ name
  return dot ++ name ++ arguments ++ (← callArguments read)

/-- A dot and what is taken by it from the operand before. -/
def memberAccess : Parser Tokens := do
  let dot ← symbol "."
  match ← joinedIndices (Token.spanOf dot) with
  | some (fields, true) => memberAfter read fields
  | some (fields, false) => return fields
  | none => memberAfter read dot

/-- Calls, fields, indices and question marks after an operand. -/
def trailersRule (operand : Phrase) : Parser Phrase := do
  let isRange := operand.form matches .range _
  if ← peek (atGroup .parenthesis) then
    read (.trailers { tokens := operand.tokens ++ (← callArguments read) })
  else if !isRange && (← peek atDot) then
    read (.trailers { tokens := operand.tokens ++ (← memberAccess read) })
  else if ← peek (atGroup .bracket) then
    read (.trailers { tokens := operand.tokens ++ (← grouped .bracket read.value) })
  else if !isRange && (← peek (atSymbol "?")) then
    read (.trailers { tokens := operand.tokens ++ (← symbol "?") })
  else return operand

end

end EnumCases.Grammar
