import EnumCases.Grammar.Fault

/-!
# Reading tokens

A parser reads tokens from the front of a cursor. Which of several forms comes next is settled by
looking at up to three tokens ahead, never by trying one form after the other, so the first token
that cannot continue is where the error is.

A group is read by a cursor of its own (`inside`). Tokens that are left over in a group are no error
by themselves: they are noted, and reported if the whole text is otherwise in order
(`complete`).
-/

namespace EnumCases.Grammar

/-- Tokens with their places. -/
abbrev Tokens := List (Token Span)

/-- Tokens left over: the place of the first, and the group they are in. -/
structure LeftOver where
  /-- The place of the first token. -/
  span : Span
  /-- The delimiter of the group, if they are in one. -/
  within : Option Delimiter
deriving DecidableEq, Repr

/-- The state of a parser. -/
structure Cursor where
  /-- The tokens not read yet, of the innermost group. -/
  rest : Tokens
  /-- The place of the end: the closing delimiter of the group. -/
  scope : Span
  /-- The delimiter of the group. -/
  within : Option Delimiter := none
  /-- The tokens that were left over first. -/
  leftOver : Option LeftOver := none

/-- A parser. -/
abbrev Parser (α : Type) := StateT Cursor (Except Fault) α

/-! ### Looking ahead -/

/-- Whether tokens start with the marks of an operator. -/
def startsWith : List Char → Tokens → Bool
  | [c], .punct mark _ _ :: _ => mark == c
  | c :: cs, .punct mark .joint _ :: ts => mark == c && startsWith cs ts
  | _, _ => false

/-- Whether an operator comes next. -/
def atSymbol (text : String) (ts : Tokens) : Bool := startsWith text.toList ts

/-- Whether a keyword comes next. -/
def atWord (name : String) : Tokens → Bool
  | .ident i _ :: _ => i.isPlain name
  | _ => false

/-- Whether one of several keywords comes next. -/
def atWords (names : List String) (ts : Tokens) : Bool := names.any (atWord · ts)

/-- Whether an identifier comes next that is no keyword. -/
def atIdent : Tokens → Bool
  | .ident i _ :: _ => !i.isKeyword
  | _ => false

/-- Whether an identifier or keyword comes next. -/
def atAnyIdent : Tokens → Bool
  | .ident _ _ :: _ => true
  | _ => false

/-- Whether a lifetime comes next. -/
def atLifetime : Tokens → Bool
  | .punct '\x27' .joint _ :: .ident _ _ :: _ => true
  | _ => false

/-- Whether a group comes next. -/
def atGroup (d : Delimiter) : Tokens → Bool
  | .group d' _ _ :: _ => d' == d
  | _ => false

/-- Whether a literal comes next: a literal token, `true` or `false`, or a number with a sign. -/
def atLiteral : Tokens → Bool
  | .literal _ _ :: _ => true
  | .ident i _ :: _ => i.isPlain "true" || i.isPlain "false"
  | .punct '-' _ _ :: .literal l _ :: _ => l.kind == .integer || l.kind == .float
  | _ => false

/-- The tokens after the next one, where a lifetime counts as one. -/
def next : Tokens → Tokens
  | .punct '\x27' .joint _ :: .ident _ _ :: ts => ts
  | _ :: ts => ts
  | [] => []

/-- Whether the tokens ahead are of some kind. -/
def peek (p : Tokens → Bool) : Parser Bool := return p (← get).rest

/-- The place where the cursor stands. -/
def here : Parser Span := do
  let c ← get
  match c.rest with
  | t :: _ => return t.place
  | [] => return c.scope

/-- Fails for a cause at a place. -/
def refuse (cause : Cause) (span : Span) : Parser α := throw ⟨cause, span⟩

/-- Fails for a cause where the cursor stands. -/
def refuseHere (cause : Cause) : Parser α := do refuse cause (← here)

/-- Fails because something else is wanted where the cursor stands. -/
def want (wanted : List Terminal) : Parser α := do
  if ← peek List.isEmpty then refuseHere (.unexpectedEnd wanted)
  else refuseHere (.unexpected wanted)

/-- Takes the next tokens. -/
def advance (count : Nat) : Parser Unit := modify fun c => { c with rest := c.rest.drop count }

/-! ### Single tokens -/

/-- The marks of an operator, joint but for the last. -/
def marks : Nat → Tokens → Tokens
  | n + 1, .punct mark _ span :: ts =>
    .punct mark (if n = 0 then .alone else .joint) span :: marks n ts
  | _, _ => []

/-- An operator. -/
def symbol (text : String) : Parser Tokens := do
  let c ← get
  if atSymbol text c.rest then
    advance text.length
    return marks text.length c.rest
  else refuseHere (.unexpected [.symbol text])

/-- A keyword. -/
def word (name : String) : Parser Tokens := do
  let c ← get
  if atWord name c.rest then
    advance 1
    return c.rest.take 1
  else want [.symbol name]

/-- An identifier or keyword, and its place. -/
def anyIdent : Parser (Ident × Span) := do
  match (← get).rest with
  | .ident i span :: _ =>
    advance 1
    return (i, span)
  | _ => want [.identifier]

/-- An identifier that is no keyword, and its place. -/
def ident : Parser (Ident × Span) := do
  match (← get).rest with
  | .ident i span :: _ =>
    if i.isKeyword then refuse (.keyword i.text) span
    else
      advance 1
      return (i, span)
  | _ => want [.identifier]

/-- The token of an identifier. -/
def ofIdent (i : Ident × Span) : Tokens := [.ident i.1 i.2]

/-- An identifier that is no keyword, as a token. -/
def name : Parser Tokens := return ofIdent (← ident)

/-- A lifetime. -/
def lifetime : Parser Tokens := do
  let c ← get
  if atLifetime c.rest then
    advance 2
    return c.rest.take 2
  else want [.lifetime]

/-- A literal. The sign and the digits of a number with a sign are both at the place of the whole. -/
def literal : Parser Tokens := do
  match (← get).rest with
  | .punct '-' spacing sign :: .literal l span :: rest =>
    if atLiteral (.punct '-' spacing sign :: .literal l span :: rest) then
      advance 2
      return [.punct '-' .alone (sign.through span), .literal l (sign.through span)]
    else want [.literal]
  | t :: rest =>
    if atLiteral (t :: rest) then
      advance 1
      return [t]
    else want [.literal]
  | [] => want [.literal]

/-- A group with any delimiter. -/
def anyGroup : Parser Tokens := do
  match (← get).rest with
  | .group d body span :: _ =>
    advance 1
    return [.group d body span]
  | _ => want [.anyGroup]

/-- What has been read since the cursor stood before the given tokens, as it was written. -/
def readSince (before : Tokens) : Parser Tokens :=
  return before.take (before.length - (← get).rest.length)

/-- What a parser reads, as it was written. -/
def verbatim (p : Parser α) : Parser Tokens := do
  let before := (← get).rest
  let _ ← p
  readSince before

/-- What a parser makes of the tokens it reads, or the tokens as they were written if it makes
nothing of them. -/
def orVerbatim (p : Parser (Option Tokens)) : Parser Tokens := do
  let before := (← get).rest
  match ← p with
  | some tokens => return tokens
  | none => readSince before

/-- The tokens that would be left after a parser, if it succeeds; none is taken. -/
def lookPast (p : Parser α) : Parser (Option Tokens) := do
  match p.run (← get) with
  | .ok (_, c) => return some c.rest
  | .error _ => return none

/-- What comes next, if it is of some kind, and nothing otherwise. -/
def optional (p : Tokens → Bool) (item : Parser Tokens) : Parser Tokens := do
  if ← peek p then item else return []

/-- An operator that may be missing. -/
def optionalSymbol (text : String) : Parser Tokens := optional (atSymbol text) (symbol text)

/-- A keyword that may be missing. -/
def optionalWord (name : String) : Parser Tokens := optional (atWord name) (word name)

/-! ### Groups -/

/-- Reads the inside of a group and what follows the group. Tokens left over in the group are noted
last. -/
def insideThen (d : Delimiter) (item : Parser α) (further : α → Span → Parser β) : Parser β := do
  let c ← get
  match c.rest with
  | .group d' body span :: rest =>
    if d' = d then
      let (a, inner) ← item.run ⟨body, span.tail, some d, c.leftOver⟩
      set { c with rest, leftOver := inner.leftOver }
      let b ← further a span
      modify fun c => { c with
        leftOver := c.leftOver <|> inner.rest.head?.map fun t => ⟨t.label, some d⟩ }
      return b
    else want [.group d]
  | _ => want [.group d]

/-- Reads the inside of a group, and gives its place too. -/
def inside (d : Delimiter) (item : Parser α) : Parser (α × Span) :=
  insideThen d item fun a span => return (a, span)

/-- Reads the inside of a group as tokens. -/
def grouped (d : Delimiter) (item : Parser Tokens) : Parser Tokens := do
  let (body, span) ← inside d item
  return [.group d body span]

/-! ### Repetition

Every round reads at least one token, so the number of tokens left bounds the rounds. -/

/-- Reads items while the tokens ahead are of some kind. -/
def repeatWhile (p : Tokens → Bool) (item : Parser α) : Parser (List α) := do
  rounds (← get).rest.length
where
  /-- At most so many items. -/
  rounds : Nat → Parser (List α)
    | 0 => return []
    | n + 1 => do
      if ← peek p then
        let a ← item
        return a :: (← rounds n)
      else return []

/-- Reads items up to where `stop` holds, with separators between them and perhaps one after the
last; each item comes with the separator after it. -/
def separated (stop : Tokens → Bool) (item : Parser α) (separator : Parser Tokens) :
    Parser (List (α × Tokens)) := do
  rounds ((← get).rest.length + 1)
where
  /-- At most so many items. -/
  rounds : Nat → Parser (List (α × Tokens))
    | 0 => return []
    | n + 1 => do
      if ← peek stop then return []
      let a ← item
      if ← peek stop then return [(a, [])]
      let between ← separator
      return (a, between) :: (← rounds n)

/-- Reads items with commas between them up to the end of the group. -/
def terminated (item : Parser α) : Parser (List α) := do
  return (← separated List.isEmpty item (symbol ",")).map Prod.fst

/-- Reads items with commas between them up to the end of the group, and gives all tokens too. -/
def terminatedWith (item : Parser (α × Tokens)) : Parser (List α × Tokens) := do
  let items ← separated List.isEmpty item (symbol ",")
  return (items.map (·.1.1), items.flatMap fun ((_, tokens), between) => tokens ++ between)

/-- Reads items with commas between them up to the end of the group, as tokens. -/
def terminatedTokens (item : Parser Tokens) : Parser Tokens := do
  return (← separated List.isEmpty item (symbol ",")).flatMap fun (a, between) => a ++ between

/-- Reads items with an operator between them, and perhaps one after the last, up to where `stop`
holds or no operator follows. -/
def joined (operator : String) (stop : Tokens → Bool) (item : Parser α) :
    Parser (List (α × Tokens)) := do
  rounds ((← get).rest.length + 1)
where
  /-- At most so many items. -/
  rounds : Nat → Parser (List (α × Tokens))
    | 0 => return []
    | n + 1 => do
      if ← peek stop then return []
      let a ← item
      if ← peek (!atSymbol operator ·) then return [(a, [])]
      let between ← symbol operator
      return (a, between) :: (← rounds n)

/-- Reads items with an operator between them, as tokens. -/
def joinedTokens (operator : String) (stop : Tokens → Bool) (item : Parser Tokens) :
    Parser Tokens := do
  return (← joined operator stop item).flatMap fun (a, between) => a ++ between

/-- Reads items up to the end of the group, as tokens. -/
def repeatedTokens (item : Parser Tokens) : Parser Tokens :=
  return (← repeatWhile (!·.isEmpty) item).flatten

/-- Reads one part after the other. -/
def sequence (parts : List (Parser Tokens)) : Parser Tokens := return (← parts.mapM id).flatten

/-! ### Whole texts -/

/-- Reads all of the given tokens, whose end is at `scope`. -/
def complete (p : Parser α) (scope : Span) (ts : Tokens) : Except Fault α := do
  let (a, c) ← p.run ⟨ts, scope, none, none⟩
  match c.leftOver, c.rest with
  | some left, _ => throw ⟨.leftOver left.within, left.span⟩
  | none, t :: _ => throw ⟨.leftOver none, t.label⟩
  | none, [] => return a

end EnumCases.Grammar
