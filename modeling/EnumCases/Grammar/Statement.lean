import EnumCases.Grammar.Definition

/-!
# Statements and blocks

A statement is an item, a local variable, a call of a macro or an expression. An expression needs a
semicolon after it unless it is the last or ends with a block.
-/

namespace EnumCases.Grammar

/-- Whether an item comes next, and not an expression. -/
def atDefinition (ts : Tokens) : Bool :=
  let second := next ts
  let third := next second
  atWords ["pub", "extern", "use", "fn", "mod", "type", "struct", "enum", "trait", "impl", "macro"]
      ts ||
    atWord "crate" ts && !atSymbol "::" second ||
    atWord "static" ts && (atWord "mut" second || atIdent second) ||
    atWord "const" ts && !(atGroup .brace second || atWords ["static", "move"] second ||
      atSymbol "|" second ||
      atWord "async" second && !atWords ["unsafe", "extern", "fn"] third) ||
    atWord "unsafe" ts && !atGroup .brace second ||
    atWord "async" ts && atWords ["unsafe", "extern", "fn"] second ||
    atWord "union" ts && atIdent second ||
    atWord "auto" ts && atWord "trait" second ||
    atWord "default" ts && atWords ["unsafe", "impl"] second

/-- Whether the name of a macro that is defined follows the path of a macro. -/
def atMacroName (ts : Tokens) : Bool :=
  atSymbol "!" ts && (atIdent (next ts) || atWord "try" (next ts))

/-- Whether braces follow the path of a macro, and nothing after them that takes the call for an
operand. -/
def atMacroBraces (ts : Tokens) : Bool :=
  let third := next (next ts)
  atSymbol "!" ts && atGroup .brace (next ts) && !(atDot third || atSymbol "?" third)

section

variable (read : Reader)

/-- A local variable. -/
def localVariable : Parser Tokens := do
  let head ← sequence [word "let", read.tokens .pattern,
    optional (atSymbol ":") (sequence [symbol ":", read.tokens (.type true)])]
  let equals ← optionalSymbol "="
  if equals.isEmpty then return head ++ (← symbol ";")
  let value ← read.value
  let last := value.drop (value.length - 1)
  let fallback ← optional (fun ts => atWord "else" ts && !atGroup .brace last)
    (sequence [word "else", read.tokens .block])
  return head ++ equals ++ value ++ fallback ++ (← symbol ";")

/-- An expression as a statement, and whether another may follow it. -/
def expressionStatement (outer : Tokens) : Parser (Tokens × Bool) := do
  let value := (← read .prompt).attributed outer
  let semicolon ← optionalSymbol ";"
  let complete := match value.form with
    | .block | .macroCall true => true
    | _ => !semicolon.isEmpty
  return (value.tokens ++ semicolon, complete)

/-- A statement, and whether another may follow it. -/
def statement : Parser (Tokens × Bool) := do
  let start ← get
  let outer ← attributeTokens read
  let pastPath ← lookPast modulePath
  if pastPath.any atMacroBraces then
    let path := (← modulePath).tokens
    let call ← sequence [symbol "!", anyGroup, optionalSymbol ";"]
    return (outer ++ path ++ call, true)
  if ← peek (atWord "let") then return (outer ++ (← localVariable read), true)
  if pastPath.any atMacroName || (← peek atDefinition) then
    set start
    return (← read.tokens .definition, true)
  expressionStatement read outer

/-- The statements of a block. -/
def statements : Parser Tokens := do
  rounds ((← get).rest.length + 1)
where
  /-- At most so many statements. -/
  rounds : Nat → Parser Tokens
    | 0 => return []
    | n + 1 => do
      let semicolons ← repeatWhile (atSymbol ";") (symbol ";")
      if ← peek List.isEmpty then return semicolons.flatten
      let (tokens, complete) ← statement read
      if ← peek List.isEmpty then return semicolons.flatten ++ tokens
      if !complete then refuseHere .missingSemicolon
      return semicolons.flatten ++ tokens ++ (← rounds n)

/-- A block. -/
def blockRule : Parser Phrase := return { tokens := ← grouped .brace (statements read) }

/-- A block that may start with attributes. -/
def bodyRule : Parser Phrase :=
  return { tokens := ← grouped .brace (sequence [innerAttributes read, statements read]) }

end

end EnumCases.Grammar
