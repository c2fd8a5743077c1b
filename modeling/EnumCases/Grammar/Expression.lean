import EnumCases.Grammar.Operator

/-!
# Expressions

The operands of expressions, from literals and paths over closures and jumps to conditions, loops and
blocks. An operand that ends with a block is a statement by itself.
-/

namespace EnumCases.Grammar

/-- Whether an expression may start here. -/
def atExpression (ts : Tokens) : Bool :=
  atAnyIdent ts && !atWord "as" ts || atLiteral ts || atLifetime ts ||
    [.parenthesis, .bracket, .brace].any (atGroup · ts) ||
    ["..", "::", "#"].any (atSymbol · ts) ||
    atSymbol "!" ts && !atSymbol "!=" ts || atSymbol "*" ts && !atSymbol "*=" ts ||
    atSymbol "|" ts && !atSymbol "|=" ts || atSymbol "&" ts && !atSymbol "&=" ts ||
    atSymbol "-" ts && !atSymbol "-=" ts && !atSymbol "->" ts ||
    atSymbol "<" ts && !atSymbol "<=" ts && !atSymbol "<<=" ts

/-- Whether an asynchronous block comes next. -/
def atAsyncBlock (ts : Tokens) : Bool :=
  let second := next ts
  atWord "async" ts &&
    (atGroup .brace second || atWord "move" second && atGroup .brace (next second))

/-- Whether a closure comes next. -/
def atClosure (ts : Tokens) : Bool :=
  let second := next ts
  atSymbol "|" ts || atWords ["move", "static"] ts || atBinder ts ||
    atWord "const" ts && !atGroup .brace second ||
    atWord "async" ts && (atSymbol "|" second || atWord "move" second)

/-- Whether a path comes next. -/
def atPathOperand (ts : Tokens) : Bool :=
  atIdent ts || atSymbol "::" ts || atSymbol "<" ts || atWords moduleWords ts ||
    atWord "try" ts && (atSymbol "!" (next ts) || atSymbol "::" (next ts))

/-- Whether an operand comes next that ends with a block. -/
def atBlockOperand (ts : Tokens) : Bool :=
  atWords ["if", "while", "loop", "match", "unsafe"] ts || atWord "for" ts && !atBinder ts ||
    atWords ["try", "const"] ts && atGroup .brace (next ts) || atGroup .brace ts || atLifetime ts

section

variable (read : Reader)

/-! ### Structures, tuples and arrays -/

/-- A field of a structure. -/
def fieldValue : Parser Tokens := do
  let outer ← attributeTokens read
  let isName ← peek atIdent
  let field ← member
  if !isName || (← peek (atSymbol ":")) then
    return outer ++ field ++ (← sequence [symbol ":", read.value])
  return outer ++ field

/-- The fields of a structure, and perhaps another structure to take the rest from. -/
def structureFields : Parser Tokens := do
  rounds ((← get).rest.length + 1)
where
  /-- At most so many fields. -/
  rounds : Nat → Parser Tokens
    | 0 => return []
    | n + 1 => do
      if ← peek List.isEmpty then return []
      if ← peek (atSymbol "..") then
        return (← symbol "..") ++ (← optional (!·.isEmpty) read.value)
      let field ← fieldValue read
      if ← peek List.isEmpty then return field
      let comma ← symbol ","
      return field ++ comma ++ (← rounds n)

/-- A path, a call of a macro, or a structure. -/
def pathOperand (braces : Bool) : Parser Phrase := do
  let p ← qualifiedPath read .expression
  let plain := match p.form with
    | .path q => q.isPlain
    | _ => false
  if plain && (← peek fun ts => atSymbol "!" ts && !atSymbol "!=" ts) then
    let bang ← symbol "!"
    let form := .macroCall (← peek (atGroup .brace))
    return { tokens := p.tokens ++ bang ++ (← anyGroup), form }
  if braces && (← peek (atGroup .brace)) then
    return { tokens := p.tokens ++ (← grouped .brace (structureFields read)) }
  return p

/-- An array, or a value that is repeated. -/
def arrayOperand : Parser Tokens :=
  grouped .bracket do
    if ← peek List.isEmpty then return []
    let first ← read.value
    if ← peek List.isEmpty then return first
    if ← peek (atSymbol ",") then
      return first ++ (← symbol ",") ++ (← terminatedTokens read.value)
    if ← peek (atSymbol ";") then return first ++ (← sequence [symbol ";", read.value])
    want [.symbol ",", .symbol ";"]

/-! ### Closures and jumps -/

/-- An argument of a closure. -/
def closureArgument : Parser Tokens := do
  let outer ← attributeTokens read
  let pattern ← read .pattern
  if ← peek (atSymbol ":") then
    return outer ++ pattern.tokens ++ (← sequence [symbol ":", read.tokens (.type true)])
  return if pattern.form matches .verbatim then pattern.tokens else outer ++ pattern.tokens

/-- A closure. -/
def closure (braces : Bool) : Parser Tokens := do
  let start ← sequence [optionalBinder read, optionalWord "const", optionalWord "static",
    optionalWord "async", optionalWord "move", symbol "|"]
  let arguments ← separated (atSymbol "|") (closureArgument read) (symbol ",")
  let bar ← symbol "|"
  let head := start ++ arguments.flatMap (fun (a, between) => a ++ between) ++ bar
  if ← peek (atSymbol "->") then
    return head ++ (← sequence [symbol "->", read.tokens (.type true), read.tokens .block])
  return head ++ (← read.tokens (.expression braces))

/-- The end of a loop or a block, perhaps with a value. A value with a label needs parentheses. -/
def breakOperand (braces : Bool) : Parser Tokens := do
  let keyword ← word "break"
  if ← peek (fun ts => atLifetime ts && atSymbol ":" (next ts)) then
    let value ← verbatim read.value
    refuse .parenthesesRequired (Token.spanOf value)
  let label ← optional atLifetime lifetime
  return keyword ++ label ++
    (← optional (fun ts => atExpression ts && (braces || !atGroup .brace ts)) read.value)

/-- A condition that a pattern fits. -/
def letOperand (braces : Bool) : Parser Tokens := do
  let start ← sequence [word "let", read.tokens .alternatives, symbol "="]
  let first ← read (.unary braces)
  return start ++ (← read.tokens (.operators first .compare braces))

/-! ### Operands that end with a block -/

/-- A condition and its branches. -/
def ifOperand : Parser Tokens := do
  rounds ((← get).rest.length + 1)
where
  /-- At most so many conditions. -/
  rounds : Nat → Parser Tokens
    | 0 => return []
    | n + 1 => do
      let branch ← sequence [word "if", read.tokens (.expression false), read.tokens .block]
      if ← peek (atWord "else") then
        let keyword ← word "else"
        if ← peek (atWord "if") then return branch ++ keyword ++ (← rounds n)
        if ← peek (atGroup .brace) then return branch ++ keyword ++ (← read.tokens .block)
        want [.symbol "if", .group .brace]
      else return branch

/-- A case of a `match`. -/
def matchArm : Parser Tokens := do
  let head ← sequence [attributeTokens read, read.tokens .alternatives,
    optional (atWord "if") (sequence [word "if", read.value]), symbol "=>"]
  let body ← read .prompt
  let comma ← if (body.form matches .block) || (← peek List.isEmpty) then optionalSymbol ","
    else symbol ","
  return head ++ body.tokens ++ comma

/-- A choice between patterns. -/
def matchOperand : Parser Tokens :=
  sequence [word "match", read.tokens (.expression false),
    grouped .brace (sequence [innerAttributes read, repeatedTokens (matchArm read)])]

/-- What may have a label, if it comes next: a loop or a block. -/
def labelledOperand : Parser Tokens := do
  if ← peek (atWord "while") then
    sequence [word "while", read.tokens (.expression false), read.tokens .body]
  else if ← peek (atWord "for") then
    sequence [word "for", read.tokens .alternatives, word "in", read.tokens (.expression false),
      read.tokens .body]
  else if ← peek (atWord "loop") then sequence [word "loop", read.tokens .body]
  else if ← peek (atGroup .brace) then read.tokens .body
  else want [.labelled]

/-- An operand that ends with a block. -/
def blockOperand : Parser Phrase := do
  let tokens ←
    if ← peek (atWord "if") then ifOperand read
    else if ← peek (atWord "match") then matchOperand read
    else if ← peek (atWord "try") then sequence [word "try", read.tokens .block]
    else if ← peek (atWord "unsafe") then sequence [word "unsafe", read.tokens .body]
    else if ← peek (atWord "const") then constantBlock read
    else sequence [optional atLifetime (sequence [lifetime, symbol ":"]), labelledOperand read]
  return { tokens, form := .block }

/-! ### All operands -/

/-- An operand by itself. -/
def operand (braces : Bool) : Parser Phrase := do
  if ← peek atLiteral then
    let tokens ← literal
    return { tokens, form := literalForm tokens }
  else if ← peek atAsyncBlock then
    return { tokens := ← sequence [word "async", optionalWord "move", read.tokens .block] }
  else if ← peek atClosure then return { tokens := ← closure read braces }
  else if ← peek atBuiltin then
    return { tokens := ← verbatim builtin, form := .verbatim, closed := true }
  else if ← peek atPathOperand then pathOperand read braces
  else if ← peek (atGroup .parenthesis) then return { tokens := ← callArguments read }
  else if ← peek (atWord "break") then return { tokens := ← breakOperand read braces }
  else if ← peek (atWord "continue") then
    return { tokens := ← sequence [word "continue", optional atLifetime lifetime] }
  else if ← peek (atWord "return") then
    return { tokens := ← sequence [word "return", optional atExpression read.value] }
  else if ← peek (atWord "become") then
    let tokens ← verbatim (sequence [word "become", read.value])
    return { tokens, form := .verbatim, closed := true }
  else if ← peek (atGroup .bracket) then return { tokens := ← arrayOperand read }
  else if ← peek (atWord "let") then return { tokens := ← letOperand read braces }
  else if ← peek (atWord "yield") then
    return { tokens := ← sequence [word "yield", optional atExpression read.value] }
  else if ← peek atBlockOperand then blockOperand read
  else if ← peek (atSymbol "..") then rangeRest read [] braces
  else if ← peek (atWord "_") then return { tokens := ← word "_" }
  else want [.expression]

/-- An operand with what follows it, and attributes before it. -/
def attributedOperand (before outer : Tokens) (braces : Bool) : Parser Phrase := do
  let value ← read (.trailers (← operand read braces))
  match value.form with
  | .verbatim => return { value with tokens := ← readSince before }
  | .range dots => if outer.isEmpty then return value else refuse .attributedRange dots
  | _ => return { value with tokens := outer ++ value.tokens }

/-- An operand with its unary operators. -/
def unaryRule (braces : Bool) : Parser Phrase := do
  let before := (← get).rest
  let outer ← attributeTokens read
  if ← peek (atSymbol "&") then
    let mark ← symbol "&"
    let raw ← optional (fun ts => atWord "raw" ts && atWords ["mut", "const"] (next ts))
      (do return ofIdent (← anyIdent))
    let mutability ← optionalWord "mut"
    let constant ← if !raw.isEmpty && mutability.isEmpty then word "const" else pure []
    return { tokens := outer ++ mark ++ raw ++ mutability ++ constant ++
      (← read.tokens (.unary braces)) }
  for operator in ["*", "!", "-"] do
    if ← peek (atSymbol operator) then
      let mark ← symbol operator
      return { tokens := outer ++ mark ++ (← read.tokens (.unary braces)) }
  attributedOperand read before outer braces

/-- An expression. -/
def expressionRule (braces : Bool) : Parser Phrase := do
  read (.operators (← read (.unary braces)) .lowest braces)

/-- An expression that is a statement. If it starts with a block, a member or a question mark has to
follow the block for the expression to go on. -/
def promptRule : Parser Phrase := do
  let outer ← attributeTokens read
  if ← peek atBlockOperand then
    let head ← blockOperand read
    if ← peek (fun ts => atDot ts || atSymbol "?" ts) then
      let value ← read (.trailers head)
      read (.operators (value.attributed outer) .lowest true)
    else return head.attributed outer
  else read (.operators ((← read (.unary true)).attributed outer) .lowest true)

end

end EnumCases.Grammar
