import EnumCases.Text.Quoted
import EnumCases.Text.Word

/-!
# Words and numbers at the start of a text

Each function here cuts a text into the part it recognises and the rest. A number has a body and may
have a word as its suffix. A float has a point or an exponent; a point that another point or a word
follows does not belong to the number, and an exponent without digits is the suffix of the number.
-/

namespace EnumCases.Text

/-- A text in two parts. -/
abbrev Split := List Char × List Char

/-- The split with one more character in its first part. -/
def Split.cons (c : Char) (s : Split) : Split := (c :: s.1, s.2)

/-- The split with more characters in its first part. -/
def Split.prepend (cs : List Char) (s : Split) : Split := (cs ++ s.1, s.2)

/-- The word at the start of a text. -/
def word? : List Char → Option Split
  | [] => none
  | c :: cs =>
    if isWordStart c then some (c :: cs.takeWhile isWordContinue, cs.dropWhile isWordContinue)
    else none

/-- The word at the start of a text, or nothing. -/
def suffix (cs : List Char) : Split := (word? cs).getD ([], cs)

/-- Digits of the given base, and underscores; `empty` says that there was no digit so far. A decimal
digit that is too large for the base is an error, and so is an underscore before decimal digits. -/
def digits? (base : Nat) (empty : Bool) : List Char → Option Split
  | [] => if empty then none else some ([], [])
  | c :: cs =>
    let stop : Option Split := if empty then none else some ([], c :: cs)
    if c = '_' then
      if empty ∧ base = 10 then none else (digits? base empty cs).map (.cons c)
    else
      match Quoted.hexDigit? c with
      | none => stop
      | some value =>
        if value < base then (digits? base false cs).map (.cons c)
        else if value < 10 then none
        else stop

/-- The body of an integer. -/
def integer? : List Char → Option Split
  | '0' :: 'x' :: cs => (digits? 16 true cs).map (.prepend ['0', 'x'])
  | '0' :: 'o' :: cs => (digits? 8 true cs).map (.prepend ['0', 'o'])
  | '0' :: 'b' :: cs => (digits? 2 true cs).map (.prepend ['0', 'b'])
  | cs => digits? 10 true cs

/-- An exponent after its letter: at most one sign before the first digit, then digits, with
underscores anywhere. -/
def exponent? (sign value : Bool) : List Char → Option Split
  | [] => if value then some ([], []) else none
  | c :: cs =>
    let stop : Option Split := if value then some ([], c :: cs) else none
    if c = '+' ∨ c = '-' then
      if value then stop else if sign then none else (exponent? true false cs).map (.cons c)
    else if c.isDigit then (exponent? sign true cs).map (.cons c)
    else if c = '_' then (exponent? sign value cs).map (.cons c)
    else stop

/-- The letter and the rest of an exponent. -/
def power? : List Char → Option Split
  | c :: cs => if c = 'e' ∨ c = 'E' then (exponent? false false cs).map (.cons c) else none
  | [] => none

/-- A decimal digit or an underscore. -/
def isDigitOrBar (c : Char) : Bool := c.isDigit || c == '_'

/-- The body of a float. -/
def float? (cs : List Char) : Option Split :=
  if !cs.head?.any Char.isDigit then none
  else
    let whole := cs.takeWhile isDigitOrBar
    match cs.dropWhile isDigitOrBar with
    | '.' :: rest =>
      if rest.head?.any fun c => c == '.' || isWordStart c then none
      else
        let mantissa := whole ++ '.' :: rest.takeWhile isDigitOrBar
        let rest := rest.dropWhile isDigitOrBar
        some (((power? rest).getD ([], rest)).prepend mantissa)
    | rest => (power? rest).map (.prepend whole)

/-- The suffix of a number after its body, unless the number runs on. -/
def numberSuffix? (rest : List Char) : Option Split :=
  let (word, rest) := suffix rest
  if rest.head?.any isWordContinue then none else some (word, rest)

end EnumCases.Text
