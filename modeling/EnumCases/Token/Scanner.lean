import EnumCases.Token.Basic
import EnumCases.Token.Number
import EnumCases.Text.Blank

/-!
# Cutting a text into lexemes

`piece?` takes the next piece off a text: blanks, a comment, a token that is no group, or a
delimiter. Comments and blanks have no lexemes, and a documentation comment has those of the
attribute that it stands for. Of several readings the literal goes first, then punctuation, then the
identifier, so that `r"a"` is a string and `r` a word.
-/

namespace EnumCases

/-- A part of a text: the lexemes it stands for, and its characters. -/
structure Piece where
  /-- The lexemes. -/
  lexemes : List Lexeme
  /-- The characters of the piece. -/
  taken : List Char
  /-- The text after it. -/
  rest : List Char
deriving Repr

namespace Piece

open Text (Split)

/-! ### Literals -/

/-- The piece of a literal with the given body and whatever suffix follows it. -/
def ofLiteral (kind : LiteralKind) (body : Split) : Piece :=
  let (word, rest) := Text.suffix body.2
  ⟨[.literal ⟨kind, .ofList body.1, .ofList word⟩], body.1 ++ word, rest⟩

/-- The piece of a number with the given body, unless the number runs on after its suffix. -/
def ofNumber? (kind : LiteralKind) (body : Split) : Option Piece :=
  (Text.numberSuffix? body.2).map fun (word, rest) =>
    ⟨[.literal ⟨kind, .ofList body.1, .ofList word⟩], body.1 ++ word, rest⟩

/-- Text up to a quote with `marks` many `#` after it; every carriage return stands before a line
feed. -/
def verbatim? (allowed : Char → Bool) (marks : Nat) : List Char → Option Split
  | [] => none
  | c :: cs =>
    if c = '\x22' ∧ cs.take marks = List.replicate marks '#' then
      some (c :: cs.take marks, cs.drop marks)
    else if c = '\r' ∧ cs.head? ≠ some '\n' then none
    else if allowed c then (verbatim? allowed marks cs).map (.cons c)
    else none

/-- A literal that shows its text as it is, after the letters that announce it. -/
def rawLiteral? (allowed : Char → Bool) (cs : List Char) : Option Split :=
  let marks := cs.takeWhile (· == '#')
  match cs.dropWhile (· == '#') with
  | '\x22' :: rest =>
    if marks.length ≤ 255 then
      (verbatim? allowed marks.length rest).map (.prepend (marks ++ ['\x22']))
    else none
  | _ => none

/-- A literal in quotes, or one that shows its text as it is, after the letters `announced`. -/
def quotedLiteral? (kind : LiteralKind) (d : Text.Quoted.Dialect) (announced : List Char)
    (cs : List Char) : Option Piece :=
  match cs with
  | '\x22' :: rest =>
    (Text.Quoted.scan d .text rest).map fun body =>
      ofLiteral kind (Split.prepend (announced ++ ['\x22']) body)
  | 'r' :: rest =>
    let allowed (c : Char) : Bool := (c.toNat < 128 || d.wide) && (c != '\x00' || d.nul)
    (rawLiteral? allowed rest).map fun body =>
      ofLiteral kind (Split.prepend (announced ++ ['r']) body)
  | _ => none

/-- The rest of an escape in a character literal. -/
def escaped? (d : Text.Quoted.Dialect) (phase : Text.Quoted.Phase) : List Char → Option Split
  | [] => none
  | c :: cs =>
    match Text.Quoted.step d phase c with
    | .next .text _ => some ([c], cs)
    | .next .continuation _ | .next .continuationCarriage _ => none
    | .next phase _ => (escaped? d phase cs).map (.cons c)
    | _ => none

/-- A literal of one character, after the letters `announced`. -/
def charLiteral? (kind : LiteralKind) (d : Text.Quoted.Dialect) (announced : List Char) :
    List Char → Option Piece
  | '\x27' :: c :: cs =>
    let char : Option Split :=
      if c = '\\' then (escaped? d .escape cs).map (.cons c)
      else if c.toNat < 128 ∨ d.wide then some ([c], cs)
      else none
    match char with
    | some (taken, '\x27' :: rest) =>
      some (ofLiteral kind (announced ++ '\x27' :: taken ++ ['\x27'], rest))
    | _ => none
  | _ => none

/-- The text that stands in place of a literal that could not be made. -/
def missingText : List Char := ['(', '/', '*', 'E', 'R', 'R', 'O', 'R', '*', '/', ')']

/-- A literal of bytes or one that ends at NUL. -/
def announced? : List Char → Option Piece
  | 'b' :: cs => quotedLiteral? .byteString .bytes ['b'] cs <|> charLiteral? .byte .bytes ['b'] cs
  | 'c' :: cs => quotedLiteral? .cString .nulTerminated ['c'] cs
  | _ => none

/-- The literal at the start of a text. -/
def literal? (cs : List Char) : Option Piece :=
  quotedLiteral? .string .ordinary [] cs <|> announced? cs <|> charLiteral? .char .ordinary [] cs
    <|> (Text.float? cs).bind (ofNumber? .float) <|> (Text.integer? cs).bind (ofNumber? .integer)

/-! ### Words and punctuation -/

/-- The beginnings of literals, which are never those of a word. -/
def announcements : List (List Char) :=
  [['r', '\x22'], ['r', '#', '\x22'], ['r', '#', '#'], ['b', '\x22'], ['b', '\x27'],
   ['b', 'r', '\x22'], ['b', 'r', '#'], ['c', '\x22'], ['c', 'r', '\x22'], ['c', 'r', '#']]

/-- The identifier at the start of a text, with the mark of a raw one. -/
def rawOrPlain? (cs : List Char) : Option (Ident × Split) :=
  match cs with
  | 'r' :: '#' :: rest => do
    let (name, rest) ← Text.word? rest
    return (← Ident.ofName? true (.ofList name), rawMark ++ name, rest)
  | _ => do
    let (name, rest) ← Text.word? cs
    return (← Ident.ofName? false (.ofList name), name, rest)

/-- The piece of an identifier. -/
def ident? (cs : List Char) : Option Piece :=
  if announcements.any (·.isPrefixOf cs) then none
  else (rawOrPlain? cs).map fun (i, taken, rest) => ⟨[.ident i], taken, rest⟩

/-- The punctuation marks. -/
def marks : List Char :=
  ['~', '!', '@', '#', '$', '%', '^', '&', '*', '-', '=', '+', '|', ';', ':', ',', '<', '.', '>', '/',
   '?', '\x27']

/-- Whether a text starts like a comment. -/
def isComment : List Char → Bool
  | '/' :: '/' :: _ | '/' :: '*' :: _ => true
  | _ => false

/-- Whether a text starts with a punctuation mark. -/
def isMark (cs : List Char) : Bool := !isComment cs && cs.head?.any (· ∈ marks)

/-- The piece of a punctuation mark. An apostrophe starts a lifetime, whose identifier must not look
like the inside of a character literal or of a literal with marks around it. -/
def punct? (cs : List Char) : Option Piece :=
  match cs with
  | '\x27' :: rest =>
    match rawOrPlain? rest with
    | some (i, _, after) =>
      if after.head? = some '\x27' ∨ (after.head? = some '#' ∧ !i.raw) then none
      else some ⟨[.punct '\x27' .joint], ['\x27'], rest⟩
    | none => none
  | mark :: rest =>
    if isMark cs then some ⟨[.punct mark (if isMark rest then .joint else .alone)], [mark], rest⟩
    else none
  | [] => none

/-! ### Comments -/

/-- The rest of a block comment after its opening, where `depth` more comments are open. -/
def blockRest? : Nat → List Char → Option Split
  | _, [] => none
  | depth, '*' :: '/' :: cs =>
    match depth with
    | 0 => some (['*', '/'], cs)
    | depth + 1 => (blockRest? depth cs).map (.prepend ['*', '/'])
  | depth, '/' :: '*' :: cs => (blockRest? (depth + 1) cs).map (.prepend ['/', '*'])
  | depth, c :: cs => (blockRest? depth cs).map (.cons c)

/-- The text up to the end of its first line, and the text from that end on. -/
def line : List Char → Split
  | [] => ([], [])
  | c :: cs =>
    if c = '\n' ∨ (c = '\r' ∧ cs.head? = some '\n') then ([], c :: cs) else (line cs).cons c

/-- Whether every carriage return stands before a line feed. -/
def hasNoLoneReturn : List Char → Bool
  | [] => true
  | c :: cs => (c != '\r' || cs.head? == some '\n') && hasNoLoneReturn cs

/-- The attribute that a documentation comment with the given text stands for; an inner one belongs
to what surrounds it. -/
def documentation (inner : Bool) (text : List Char) : List Lexeme :=
  .punct '#' .alone :: (if inner then [.punct '!' .alone] else []) ++
    [.opening .bracket, .ident .doc, .punct '=' .alone,
      .literal (.ofString (.ofList text)), .closing .bracket]

/-- A documentation comment up to the end of the line, after the characters `opening`. -/
def lineDocumentation? (inner : Bool) (opening cs : List Char) : Option Piece :=
  let (text, rest) := line cs
  if hasNoLoneReturn text then
    -- The carriage return before the line feed belongs to the comment, but not to its text.
    let (ending, rest) := rest.span (· == '\r')
    some ⟨documentation inner text, opening ++ text ++ ending, rest⟩
  else none

/-- A documentation comment between delimiters, after the characters `opening`. -/
def blockDocumentation? (inner : Bool) (opening cs : List Char) : Option Piece :=
  (blockRest? 0 cs).bind fun (text, rest) =>
    let inside := text.take (text.length - 2)
    if hasNoLoneReturn inside then some ⟨documentation inner inside, opening ++ text, rest⟩
    else none

/-- The comment at the start of a text. -/
def comment? : List Char → Option Piece
  | '/' :: '/' :: '!' :: cs => lineDocumentation? true ['/', '/', '!'] cs
  | '/' :: '/' :: '/' :: cs =>
    if cs.head? = some '/' then
      let (text, rest) := line cs
      some ⟨[], '/' :: '/' :: '/' :: text, rest⟩
    else lineDocumentation? false ['/', '/', '/'] cs
  | '/' :: '/' :: cs =>
    let (text, rest) := line cs
    some ⟨[], '/' :: '/' :: text, rest⟩
  | '/' :: '*' :: '*' :: '/' :: cs => some ⟨[], ['/', '*', '*', '/'], cs⟩
  | '/' :: '*' :: '!' :: cs => blockDocumentation? true ['/', '*', '!'] cs
  | '/' :: '*' :: '*' :: cs =>
    if cs.head? = some '*' then
      (blockRest? 0 ('*' :: cs)).map fun (text, rest) => ⟨[], '/' :: '*' :: text, rest⟩
    else blockDocumentation? false ['/', '*', '*'] cs
  | '/' :: '*' :: cs =>
    (blockRest? 0 cs).map fun (text, rest) => ⟨[], '/' :: '*' :: text, rest⟩
  | _ => none

/-! ### Pieces -/

/-- The delimiter at the start of a text. -/
def delimiter? : List Char → Option Piece
  | c :: cs =>
    match Delimiter.ofOpening? c, Delimiter.ofClosing? c with
    | some d, _ => some ⟨[.opening d], [c], cs⟩
    | none, some d => some ⟨[.closing d], [c], cs⟩
    | none, none => none
  | [] => none

/-- The blanks at the start of a text. -/
def blanks? (cs : List Char) : Option Piece :=
  if cs.head?.any Text.isBlank then
    some ⟨[], cs.takeWhile Text.isBlank, cs.dropWhile Text.isBlank⟩
  else none

/-- The literal that could not be made, at the start of a text. -/
def missing? (cs : List Char) : Option Piece :=
  if missingText.isPrefixOf cs then
    some ⟨[.literal ⟨.missing, .ofList missingText, ""⟩], missingText, cs.drop missingText.length⟩
  else none

end Piece

/-- The next piece of a text, if the text starts with one. -/
def piece? (cs : List Char) : Option Piece :=
  if Piece.isComment cs then Piece.comment? cs
  else
    Piece.blanks? cs <|> Piece.missing? cs <|> Piece.delimiter? cs <|> Piece.literal? cs
      <|> Piece.punct? cs <|> Piece.ident? cs

end EnumCases
