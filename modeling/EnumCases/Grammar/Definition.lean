import EnumCases.Grammar.Fields

/-!
# Nested items

The items that may stand in blocks and modules: functions, constants, types, modules, traits,
implementations and calls of macros. Only their tokens are kept. An item that is well-formed and still
means nothing, such as a function without a body, is kept as it is written; its parser gives `none`.
-/

namespace EnumCases.Grammar

/-- The tokens without a keyword at their beginning. -/
def skipWord (name : String) (ts : Tokens) : Tokens := if atWord name ts then next ts else ts

/-- Whether the signature of a function comes next; it may be marked as safe or not. -/
def atSignature (safe : Bool) (ts : Tokens) : Bool :=
  let ts := skipWord "async" (skipWord "const" ts)
  let ts := if safe && atWord "safe" ts then next ts else skipWord "unsafe" ts
  let ts := if atWord "extern" ts then
      if atString (next ts) then next (next ts) else next ts
    else ts
  atWord "fn" ts

/-- Whether the path of a macro may start here. -/
def atMacroPath (ts : Tokens) : Bool :=
  atIdent ts || atWords ["self", "super", "crate"] ts || atSymbol "::" ts

/-- What the path of a macro may start with. -/
def macroPathStarts : List Terminal :=
  [.identifier, .symbol "self", .symbol "super", .symbol "crate", .symbol "::"]

/-- Whether the receiver of a method comes next. -/
def atReceiver (ts : Tokens) : Bool :=
  if atSymbol "&" ts then
    let ts := next ts
    atWord "self" (skipWord "mut" (if atLifetime ts then next ts else ts))
  else
    let ts := skipWord "mut" ts
    let after := next ts
    atWord "self" ts && !atSymbol "::" after &&
      !(atSymbol ":" after && atSymbol "..." (next after))

section

variable (read : Reader)

/-- A name or an underscore. -/
def nameOrBar : Parser Tokens := do
  if ← peek (fun ts => atIdent ts || atWord "_" ts) then return ofIdent (← anyIdent)
  else want [.identifier, .symbol "_"]

/-! ### Functions -/

/-- An argument of a function after its attributes, and the place of `self` if it is a receiver. The
last flag says that no argument follows. -/
def argument : Parser (Tokens × Option Span × Bool) := do
  if ← peek (atSymbol "...") then
    return (← sequence [symbol "...", optional (!·.isEmpty) (symbol ",")], none, true)
  if ← peek atReceiver then
    let reference ← optional (atSymbol "&") (sequence [symbol "&", optional atLifetime lifetime])
    let mutability ← optionalWord "mut"
    let self ← word "self"
    let type ← optional (fun ts => reference.isEmpty && atSymbol ":" ts)
      (sequence [symbol ":", read.tokens (.type true)])
    return (reference ++ mutability ++ self ++ type, some (Token.spanOf self), false)
  if ← peek (fun ts => atIdent ts && atSymbol "<" (next ts)) then
    let span ← here
    let type ← read.tokens (.type true)
    return (.ident .wildcard span :: .punct ':' .alone span :: type, none, false)
  let start ← sequence [read.tokens .pattern, symbol ":"]
  if ← peek (atSymbol "...") then
    let dots ← sequence [symbol "...", optional (!·.isEmpty) (symbol ",")]
    return (start ++ dots, none, true)
  return (start ++ (← read.tokens (.type true)), none, false)

/-- The arguments of a function. A receiver has to be the first. -/
def signatureArguments : Parser Tokens := do
  rounds ((← get).rest.length + 1) true false
where
  /-- At most so many arguments; `first` says that there was none before, and `received` that there
  was a receiver. -/
  rounds : Nat → Bool → Bool → Parser Tokens
    | 0, _, _ => return []
    | n + 1, first, received => do
      if ← peek List.isEmpty then return []
      let outer ← attributeTokens read
      let (tokens, receiver, last) ← argument read
      if let some span := receiver then
        if !first then refuse (.misplacedReceiver received) span
      if last || (← peek List.isEmpty) then return outer ++ tokens
      let comma ← symbol ","
      return outer ++ tokens ++ comma ++ (← rounds n false (received || receiver.isSome))

/-- The signature of a function, and whether it is marked as safe, if it may be. -/
def signature (safe : Bool) : Parser (Tokens × Bool) := do
  let start ← sequence [optionalWord "const", optionalWord "async"]
  let mark ← optionalWord "unsafe"
  let marked ← peek fun ts => safe && mark.isEmpty && atWord "safe" ts
  if marked then let _ ← word "safe"
  let head ← sequence [optional (atWord "extern") callingConvention, word "fn", name]
  let parameters ← generics read
  insideThen .parenthesis (signatureArguments read) fun arguments span => do
    let output ← returnType read true
    let clause ← whereClause read
    return (start ++ mark ++ head ++ parameters.tokens ++ [.group .parenthesis arguments span] ++
      output ++ clause.tokens, marked)

/-- A function with its body; one without is kept as it is written. -/
def function : Parser (Option Tokens) := do
  let (head, _) ← signature read false
  if ← peek (atSymbol ";") then
    let _ ← symbol ";"
    return none
  return some (head ++ (← read.tokens .body))

/-! ### Values and types -/

/-- A constant. One with parameters, with a clause, or without a value if there has to be one, is kept
as it is written. -/
def constant (valued : Bool) : Parser (Option Tokens) := do
  let head ← sequence [word "const", nameOrBar]
  let parameters ← generics read
  let type ← sequence [symbol ":", read.tokens (.type true)]
  let value ← optional (atSymbol "=") (sequence [symbol "=", read.value])
  let clause ← whereClause read
  let semicolon ← symbol ";"
  if parameters.opening.isEmpty && !clause.isWritten && !(valued && value.isEmpty) then
    return some (head ++ type ++ value ++ semicolon)
  return none

/-- A static value. One without a type or a value is kept as it is written. -/
def static : Parser (Option Tokens) := do
  let head ← sequence [word "static", optionalWord "mut", name]
  if ← peek (atSymbol "=") then
    let _ ← sequence [symbol "=", read.value, symbol ";"]
    return none
  let type ← sequence [symbol ":", read.tokens (.type true)]
  if ← peek (atSymbol ";") then
    let _ ← symbol ";"
    return none
  return some (head ++ type ++ (← sequence [symbol "=", read.value, symbol ";"]))

/-- The name of a type with what may follow it. -/
structure TypeAlias where
  /-- The keyword, the name and the parameters. -/
  head : Tokens
  /-- The colon, if there is one. -/
  colon : Tokens
  /-- The bounds after it. -/
  bounds : Tokens
  /-- The type that is named, after the equals sign. -/
  value : Tokens
  /-- The clause with bounds. -/
  clause : Tokens
  /-- The semicolon. -/
  semicolon : Tokens

/-- The name of a type with what may follow it; the clause with bounds stands before the equals sign,
or after it. -/
def typeAlias (clauseBefore clauseAfter : Bool) : Parser TypeAlias := do
  let head ← sequence [word "type", name]
  let parameters ← generics read
  let colon ← optionalSymbol ":"
  let bounds ← if colon.isEmpty then pure []
    else listedBounds read fun ts => atWord "where" ts || atSymbol "=" ts || atSymbol ";" ts
  let before ← if clauseBefore then whereClause read else pure {}
  let value ← optional (atSymbol "=") (sequence [symbol "=", read.tokens (.type true)])
  let clause ← if clauseAfter && !before.isWritten then whereClause read else pure before
  return ⟨head ++ parameters.tokens, colon, bounds, value, clause.tokens, ← symbol ";"⟩

/-- A name for a type. -/
def typeDefinition : Parser (Option Tokens) := do
  let a ← typeAlias read true false
  return if a.value.isEmpty || !a.colon.isEmpty then none
    else some (a.head ++ a.clause ++ a.value ++ a.semicolon)

/-- A structure. -/
def structDefinition : Parser Tokens := do
  let head ← sequence [word "struct", name]
  let parameters ← generics read
  return head ++ parameters.tokens ++ (← structBody read).tokens

/-- An enum. -/
def enumDefinition : Parser Tokens := do
  let head ← sequence [word "enum", name]
  let parameters ← generics read
  let clause ← whereClause read
  return head ++ parameters.tokens ++ clause.tokens ++ (← variants read).2

/-- A union. -/
def unionDefinition : Parser Tokens := do
  let head ← sequence [word "union", name]
  let parameters ← generics read
  let clause ← whereClause read
  return head ++ parameters.tokens ++ clause.tokens ++ (← labelledFields read).2

/-! ### Modules and macros -/

/-- What is used of a module. If `::` stands inside braces, it is kept as it is written. -/
def useTreeRule (root : Bool) : Parser Phrase := do
  if ← peek (fun ts => atIdent ts || atWords ["self", "super", "crate", "try"] ts) then
    let first := ofIdent (← anyIdent)
    if ← peek (atSymbol "::") then
      return { tokens := first ++ (← sequence [symbol "::", read.tokens (.useTree false)]) }
    if ← peek (atWord "as") then
      let as ← word "as"
      if ← peek (fun ts => atIdent ts || atWord "_" ts) then
        return { tokens := first ++ as ++ ofIdent (← anyIdent) }
      want [.nameOrBar]
    return { tokens := first }
  else if ← peek (atSymbol "*") then return { tokens := ← symbol "*" }
  else if ← peek (atGroup .brace) then
    let branch : Parser (Bool × Tokens) := do
      let colons ← if root then optionalSymbol "::" else pure []
      let tree ← read (.useTree (root && colons.isEmpty))
      return (!colons.isEmpty || tree.form matches .verbatim, tree.tokens)
    let ((rooted, tokens), span) ← inside .brace (terminatedWith branch)
    let form := if rooted.any id then .verbatim else .other
    return { tokens := [.group .brace tokens span], form }
  else want [.identifier, .symbol "self", .symbol "super", .symbol "crate", .symbol "try",
    .symbol "*", .group .brace]

/-- A use of a module. -/
def useDefinition : Parser (Option Tokens) := do
  let start ← sequence [word "use", optionalSymbol "::"]
  let tree ← read (.useTree (start.length = 1))
  let semicolon ← symbol ";"
  return if tree.form matches .verbatim then none else some (start ++ tree.tokens ++ semicolon)

/-- A module that is found elsewhere. -/
def externCrate : Parser Tokens := do
  let start ← sequence [word "extern", word "crate"]
  let name ← if ← peek (atWord "self") then anyIdent else ident
  let rename ← optional (atWord "as") do
    let as ← word "as"
    return as ++ ofIdent (← if ← peek (atWord "_") then anyIdent else ident)
  return start ++ ofIdent name ++ rename ++ (← symbol ";")

/-- Items in braces, with attributes before them. -/
def itemsIn (item : Parser Tokens) : Parser Tokens :=
  grouped .brace (sequence [innerAttributes read, repeatedTokens item])

/-- A module. -/
def moduleDefinition : Parser Tokens := do
  let start ← sequence [optionalWord "unsafe", word "mod"]
  let name ← if ← peek (atWord "try") then anyIdent else ident
  let head := start ++ ofIdent name
  if ← peek (atSymbol ";") then return head ++ (← symbol ";")
  if ← peek (atGroup .brace) then return head ++ (← itemsIn read (read.tokens .definition))
  want [.symbol ";", .group .brace]

/-- A call of a macro as an item; a definition of a macro has a name too. -/
def macroItem (named : Bool) : Parser Tokens := do
  let path := (← modulePath).tokens
  let bang ← symbol "!"
  let name ← optional (fun ts => named && (atIdent ts || atWord "try" ts))
    (do return ofIdent (← anyIdent))
  let braces ← peek (atGroup .brace)
  let body ← anyGroup
  return path ++ bang ++ name ++ body ++ (← if braces then pure [] else symbol ";")

/-- A macro that is defined by a keyword of its own. -/
def declaredMacro : Parser Unit := do
  let _ ← sequence [word "macro", name]
  let parenthesized ← peek (atGroup .parenthesis)
  if parenthesized then advance 1
  if ← peek (atGroup .brace) then advance 1
  else want ((if parenthesized then [] else [.group .parenthesis]) ++ [.group .brace])

/-! ### Associated items -/

/-- A function, with a body or without. -/
def traitFunction : Parser Tokens := do
  let (head, _) ← signature read false
  if ← peek (atGroup .brace) then return head ++ (← read.tokens .body)
  if ← peek (atSymbol ";") then return head ++ (← symbol ";")
  want [.group .brace, .symbol ";"]

/-- An item of a trait. -/
def traitItem : Parser Tokens := orVerbatim do
  let outer ← attributeTokens read
  let (_, vis) ← visibility
  let default ← optionalWord "default"
  let plain := vis.isEmpty && default.isEmpty
  let ts := (← get).rest
  let item ← if atSignature false ts then some <$> traitFunction read
    else if atWord "const" ts then
      if atIdent (next ts) || atWord "_" (next ts) then constant read false
      else if atWords ["async", "unsafe", "extern", "fn"] (next ts) then some <$> traitFunction read
      else do
        advance 1
        want [.identifier, .symbol "_", .symbol "async", .symbol "unsafe", .symbol "extern",
          .symbol "fn"]
    else if atWord "type" ts then do
      let a ← typeAlias read false true
      let bounds := if a.bounds.isEmpty then [] else a.colon ++ a.bounds
      pure (some (a.head ++ bounds ++ a.value ++ a.clause ++ a.semicolon))
    else if plain && atMacroPath ts then some <$> macroItem false
    else want ([.symbol "fn", .symbol "const", .symbol "type"] ++
      if plain then macroPathStarts else [])
  return if plain then item.map (outer ++ ·) else none

/-- An item of an implementation. -/
def implItem : Parser Tokens := orVerbatim do
  let outer ← attributeTokens read
  let (_, vis) ← visibility
  let atDefault (ts : Tokens) : Bool := atWord "default" ts && !atSymbol "!" (next ts)
  let named ← peek (atWord "default")
  let default ← optional atDefault (word "default")
  let plain := vis.isEmpty && default.isEmpty
  let ts := (← get).rest
  let item ← if atSignature false ts then function read
    else if atWord "const" ts then constant read true
    else if atWord "type" ts then do
      let a ← typeAlias read false true
      pure (if a.value.isEmpty || !a.colon.isEmpty then none
        else some (a.head ++ a.value ++ a.clause ++ a.semicolon))
    else if plain && atMacroPath ts then some <$> macroItem false
    else want ((if named then [] else [.symbol "default"]) ++
      [.symbol "fn", .symbol "const", .symbol "type"] ++ if plain then macroPathStarts else [])
  return item.map (outer ++ vis ++ default ++ ·)

/-- A function that is defined elsewhere. -/
def foreignFunction : Parser (Option Tokens) := do
  let (head, marked) ← signature read true
  if ← peek (atGroup .brace) then
    let _ ← read .body
    return none
  let semicolon ← symbol ";"
  return if marked then none else some (head ++ semicolon)

/-- A static value that is defined elsewhere. -/
def foreignStatic : Parser (Option Tokens) := do
  let marked ← peek (atWords ["unsafe", "safe"])
  if marked then advance 1
  let tokens ← sequence [word "static", optionalWord "mut", name, symbol ":",
    read.tokens (.type true)]
  let value ← optional (atSymbol "=") (sequence [symbol "=", read.value])
  let semicolon ← symbol ";"
  return if marked || !value.isEmpty then none else some (tokens ++ semicolon)

/-- An item that is defined elsewhere. -/
def foreignItem : Parser Tokens := orVerbatim do
  let outer ← attributeTokens read
  let (_, vis) ← visibility
  let ts := (← get).rest
  let item ← if atSignature true ts then foreignFunction read
    else if atWord "static" ts || atWords ["unsafe", "safe"] ts && atWord "static" (next ts) then
      foreignStatic read
    else if atWord "type" ts then do
      let a ← typeAlias read true true
      pure (if !a.colon.isEmpty || !a.value.isEmpty then none
        else some (a.head ++ a.clause ++ a.semicolon))
    else if vis.isEmpty && atMacroPath ts then some <$> macroItem false
    else want ([.symbol "fn", .symbol "static", .symbol "type"] ++
      if vis.isEmpty then macroPathStarts else [])
  return item.map (outer ++ vis ++ ·)

/-- Items that are defined elsewhere. -/
def foreignModule : Parser Tokens :=
  sequence [optionalWord "unsafe", callingConvention, itemsIn read (foreignItem read)]

/-! ### Traits and implementations -/

/-- A trait after its name and parameters. -/
def traitRest (head : Tokens) : Parser Tokens := do
  let colon ← optionalSymbol ":"
  let bounds ← if colon.isEmpty then pure []
    else listedBounds read fun ts => atWord "where" ts || atGroup .brace ts
  let clause ← whereClause read
  return head ++ (if bounds.isEmpty then [] else colon ++ bounds) ++ clause.tokens ++
    (← itemsIn read (traitItem read))

/-- A trait that is unsafe or automatic. -/
def markedTrait : Parser Tokens := do
  let head ← sequence [optionalWord "unsafe", optionalWord "auto", word "trait", name]
  traitRest read (head ++ (← generics read).tokens)

/-- A trait, or another name for bounds. -/
def traitOrAlias : Parser Tokens := do
  let start ← sequence [word "trait", name]
  let head := start ++ (← generics read).tokens
  if ← peek (fun ts => atGroup .brace ts || atSymbol ":" ts || atWord "where" ts) then
    traitRest read head
  else if ← peek (atSymbol "=") then
    let equals ← symbol "="
    let bounds ← listedBounds read fun ts => atWord "where" ts || atSymbol ";" ts
    let clause ← whereClause read
    return head ++ equals ++ bounds ++ clause.tokens ++ (← symbol ";")
  else want [.group .brace, .symbol ":", .symbol "where", .symbol "="]

/-- An implementation. One that has a visibility, is constant, or is of something that is no trait, is
kept as it is written. -/
def implDefinition (visible : Bool) : Parser (Option Tokens) := do
  let start ← sequence [optionalWord "default", optionalWord "unsafe", word "impl"]
  let parameters ← if ← peek atGenericParameters then generics read else pure {}
  let isConstant ← peek fun ts => atWord "const" ts || atSymbol "?" ts && atWord "const" (next ts)
  if isConstant then let _ ← sequence [optionalSymbol "?", word "const"]
  let negation ← optional (fun ts => atSymbol "!" ts && !atGroup .brace (next ts)) (symbol "!")
  let first ← read (.type true)
  let isFor ← peek (atWord "for")
  let target ← if isFor then sequence [word "for", read.tokens (.type true)]
    else if negation.isEmpty then pure []
    else refuse .negativeInherentImpl (Token.spanOf negation)
  let clause ← whereClause read
  let items ← itemsIn read (implItem read)
  if visible || isConstant || isFor && !(first.form matches .path _) then return none
  return some (start ++ parameters.tokens ++ negation ++ first.tokens ++ target ++ clause.tokens ++
    items)

/-! ### All items -/

/-- Whether an implementation comes next. -/
def atImpl (ts : Tokens) : Bool :=
  atWord "impl" ts || atWord "default" ts && !atSymbol "!" (next ts)

/-- What an item may start with, other than the given tokens, which start none. -/
def definitionStarts (visible : Bool) (ts : Tokens) : List Terminal :=
  (["fn", "extern", "use", "static", "const", "unsafe", "mod", "type", "struct", "enum", "union",
    "trait", "auto", "impl", "default", "macro"].filter (!atWord · ts)).map .symbol ++
  if visible then [] else macroPathStarts

/-- An item that starts with `extern` or `unsafe`, after its visibility. `start` is the cursor before
the visibility, which a block of foreign items may not have. -/
def markedDefinition (start : Cursor) (visible : Bool) : Parser (Option Tokens) := do
  let foreign : Parser (Option Tokens) := do
    if visible then set start
    some <$> foreignModule read
  let second := next (← get).rest
  if ← peek (atWord "extern") then
    if atWord "crate" second then some <$> externCrate
    else if atGroup .brace second then foreign
    else if atString second then
      if atGroup .brace (next second) then foreign
      else
        advance 2
        want [.group .brace]
    else
      advance 1
      want [.symbol "crate", .group .brace, .stringLiteral]
  else if atWord "trait" second || atWord "auto" second && atWord "trait" (next second) then
    some <$> markedTrait read
  else if atWord "impl" second then implDefinition read visible
  else if atWord "extern" second then foreign
  else if atWord "mod" second then some <$> moduleDefinition read
  else
    advance 1
    want ([.symbol "trait"] ++ (if atWord "auto" second then [] else [.symbol "auto"]) ++
      [.symbol "impl", .symbol "extern", .symbol "mod"])

/-- An item after its attributes and its visibility. -/
def definitionBody (start : Cursor) (visible : Bool) : Parser (Option Tokens) := do
  let ts := (← get).rest
  let second := next ts
  if atSignature false ts then function read
  else if atWords ["extern", "unsafe"] ts then markedDefinition read start visible
  else if atWord "use" ts then useDefinition read
  else if atWord "static" ts then static read
  else if atWord "const" ts then constant read true
  else if atWord "mod" ts then some <$> moduleDefinition read
  else if atWord "type" ts then typeDefinition read
  else if atWord "struct" ts then some <$> structDefinition read
  else if atWord "enum" ts then some <$> enumDefinition read
  else if atWord "union" ts && atIdent second then some <$> unionDefinition read
  else if atWord "trait" ts then some <$> traitOrAlias read
  else if atWord "auto" ts && atWord "trait" second then some <$> markedTrait read
  else if atImpl ts then implDefinition read visible
  else if atWord "macro" ts then
    declaredMacro
    return none
  else if !visible && atMacroPath ts then some <$> macroItem true
  else want (definitionStarts visible ts)

/-- An item in a block or a module. -/
def definitionRule : Parser Phrase := do
  return { tokens := ← orVerbatim do
    let outer ← attributeTokens read
    let start ← get
    let (_, vis) ← visibility
    return (← definitionBody read start !vis.isEmpty).map (outer ++ vis ++ ·) }

end

end EnumCases.Grammar
