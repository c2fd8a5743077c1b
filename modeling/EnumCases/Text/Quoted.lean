import EnumCases.Text.Printable

/-!
# Quoted text

The text between double quotes is read by a small automaton, one character at a time. `scan` finds
where the text ends, `decode` collects the characters that it stands for, and both follow the one
transition `step`. What may stand in the text depends on a `Dialect`: ordinary strings, strings of
bytes, and strings that end at NUL differ in a few decisions. `encode` writes a text in the
ordinary dialect, with an escape for every character that does not show by itself.
-/

namespace EnumCases.Text.Quoted

/-- The decisions in which kinds of quoted text differ. -/
structure Dialect where
  /-- Characters outside ASCII may stand in the text. -/
  wide : Bool
  /-- Escapes of code points may stand in the text. -/
  codePoints : Bool
  /-- NUL may stand in the text, by itself or as an escape. -/
  nul : Bool
  /-- The greatest value of an escape with two hexadecimal digits. -/
  maxByte : Nat
deriving DecidableEq, Repr

/-- Ordinary strings. -/
def Dialect.ordinary : Dialect := ⟨true, true, true, 0x7F⟩

/-- Strings of bytes. -/
def Dialect.bytes : Dialect := ⟨false, false, true, 0xFF⟩

/-- Strings that end at NUL. -/
def Dialect.nulTerminated : Dialect := ⟨true, true, false, 0xFF⟩

/-- What was read last. -/
inductive Phase where
  /-- A whole character, or nothing yet. -/
  | text
  /-- A carriage return, which a line feed has to follow. -/
  | carriage
  /-- A backslash. -/
  | escape
  /-- A backslash and `x`. -/
  | byteHigh
  /-- A backslash, `x` and one digit. -/
  | byteLow (high : Nat)
  /-- A backslash and `u`. -/
  | codePointOpen
  /-- A backslash, `u`, a brace, and `count` digits of the given value. -/
  | codePoint (count value : Nat)
  /-- A backslash at the end of a line, and blanks after it. -/
  | continuation
  /-- The same, and a carriage return. -/
  | continuationCarriage
deriving DecidableEq, Repr

/-- What one character does. -/
inductive Step where
  /-- It cannot stand here. -/
  | reject
  /-- It is the closing quote. -/
  | close
  /-- It is part of the text, which gets the characters `out`. -/
  | next (phase : Phase) (out : List Char)
deriving DecidableEq, Repr

/-- The value of a hexadecimal digit. -/
def hexDigit? (c : Char) : Option Nat :=
  if '0' ≤ c ∧ c ≤ '9' then some (c.toNat - 0x30)
  else if 'a' ≤ c ∧ c ≤ 'f' then some (c.toNat - 0x61 + 10)
  else if 'A' ≤ c ∧ c ≤ 'F' then some (c.toNat - 0x41 + 10)
  else none

/-- The character with a given code point, if there is one and the dialect allows it. -/
def Dialect.char? (d : Dialect) (value : Nat) : Option Char :=
  if value.isValidChar ∧ (d.nul ∨ value ≠ 0) then some (.ofNat value) else none

/-- The step at the start of a character. -/
def textStep (d : Dialect) (c : Char) : Step :=
  if c = '\x22' then .close
  else if c = '\\' then .next .escape []
  else if c = '\r' then .next .carriage []
  else if (c.toNat < 128 ∨ d.wide) ∧ (c ≠ '\x00' ∨ d.nul) then .next .text [c]
  else .reject

/-- The step after a backslash. -/
def escapeStep (d : Dialect) (c : Char) : Step :=
  match c with
  | 'n' => .next .text ['\n']
  | 'r' => .next .text ['\r']
  | 't' => .next .text ['\t']
  | '\\' => .next .text ['\\']
  | '\x27' => .next .text ['\x27']
  | '\x22' => .next .text ['\x22']
  | '0' => if d.nul then .next .text ['\x00'] else .reject
  | 'x' => .next .byteHigh []
  | 'u' => if d.codePoints then .next .codePointOpen [] else .reject
  | '\n' => .next .continuation []
  | '\r' => .next .continuationCarriage []
  | _ => .reject

/-- The step inside the braces of a code point, which has one to six digits; underscores may stand
after the first. -/
def codePointStep (d : Dialect) (count value : Nat) (c : Char) : Step :=
  match hexDigit? c with
  | some digit =>
    if count < 6 then .next (.codePoint (count + 1) (16 * value + digit)) [] else .reject
  | none =>
    if count = 0 then .reject
    else if c = '_' then .next (.codePoint count value) []
    else if c = '\x7d' then
      match d.char? value with
      | some char => .next .text [char]
      | none => .reject
    else .reject

/-- The step of the automaton. -/
def step (d : Dialect) : Phase → Char → Step
  | .text, c => textStep d c
  | .carriage, c => if c = '\n' then .next .text ['\n'] else .reject
  | .escape, c => escapeStep d c
  | .byteHigh, c =>
    match hexDigit? c with
    | some high => .next (.byteLow high) []
    | none => .reject
  | .byteLow high, c =>
    match (hexDigit? c).bind fun low => d.char? (16 * high + low) with
    | some char => if char.toNat ≤ d.maxByte then .next .text [char] else .reject
    | none => .reject
  | .codePointOpen, c => if c = '\x7b' then .next (.codePoint 0 0) [] else .reject
  | .codePoint count value, c => codePointStep d count value c
  | .continuation, c =>
    if c = ' ' ∨ c = '\t' ∨ c = '\n' then .next .continuation []
    else if c = '\r' then .next .continuationCarriage []
    else textStep d c
  | .continuationCarriage, c => if c = '\n' then .next .continuation [] else .reject

/-- Splits the input after the closing quote. -/
def scan (d : Dialect) : Phase → List Char → Option (List Char × List Char)
  | _, [] => none
  | phase, c :: cs =>
    match step d phase c with
    | .reject => none
    | .close => some ([c], cs)
    | .next phase _ => (scan d phase cs).map fun (taken, rest) => (c :: taken, rest)

/-- The text that the input stands for, if a closing quote ends it. -/
def decode (d : Dialect) : Phase → List Char → Option (List Char)
  | _, [] => none
  | phase, c :: cs =>
    match step d phase c with
    | .reject => none
    | .close => if cs.isEmpty then some [] else none
    | .next phase out => (decode d phase cs).map (out ++ ·)

/-- A code point as an escape. -/
def escapeCodePoint (c : Char) : List Char :=
  ['\\', 'u', '\x7b'] ++ Nat.toDigits 16 c.toNat ++ ['\x7d']

/-- A character as quoted text shows it before the character `next`. The short escape for NUL is
used unless an octal digit follows. -/
def escape (c : Char) (next : Option Char) : List Char :=
  match c with
  | '\x00' =>
    if next.any fun n => '0' ≤ n && n ≤ '7' then ['\\', 'x', '0', '0'] else ['\\', '0']
  | '\t' => ['\\', 't']
  | '\r' => ['\\', 'r']
  | '\n' => ['\\', 'n']
  | '\\' => ['\\', '\\']
  | '\x22' => ['\\', '\x22']
  | c => if isPrintable c then [c] else escapeCodePoint c

/-- A text as it stands between quotes. -/
def encode : List Char → List Char
  | [] => []
  | c :: cs => escape c cs.head? ++ encode cs

/-- A text with its quotes. -/
def quote (s : String) : String := .ofList ('\x22' :: encode s.toList ++ ['\x22'])

end EnumCases.Text.Quoted
