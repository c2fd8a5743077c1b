import EnumCases.Grammar.Parser
import EnumCases.Token.Number

/-!
# Members

A field is named by an identifier or by an index. An index is an integer without sign and suffix that
fits in 32 bits; it is kept as a decimal number. Two indices with a point between them look like a
float, so a float after a dot is taken apart at its points (`Index.ofFloat`).
-/

namespace EnumCases.Grammar

/-- The number that digits of a base stand for, underscores left out. -/
def digitsValue (base : Nat) (cs : List Char) : Nat :=
  (cs.filterMap Text.Quoted.hexDigit?).foldl (fun n d => n * base + d) 0

/-- The number that the body of an integer stands for. -/
def integerValue : List Char → Nat
  | '0' :: 'x' :: cs => digitsValue 16 cs
  | '0' :: 'o' :: cs => digitsValue 8 cs
  | '0' :: 'b' :: cs => digitsValue 2 cs
  | cs => digitsValue 10 cs

namespace Index

/-- The index that a text denotes. -/
def ofText (text : List Char) : Except Cause Nat :=
  let negative := text.head? == some '-'
  let digits := if negative then text.tail else text
  if (Text.float? digits).isSome then .error .fractionalIndex
  else
    match Text.integer? digits with
    | none => .error .lexical
    | some (body, suffix) =>
      if !suffix.isEmpty then .error .suffixedIndex
      else if negative then .error .negativeIndex
      else if integerValue body < UInt32.size then .ok (integerValue body)
      else .error .hugeIndex

/-- The parts of a float between its points, and whether there is a point at its end. -/
def parts (text : List Char) : List (List Char) × Bool :=
  let pointed := text.getLast? == some '.'
  ((if pointed then text.dropLast else text).splitOn '.', pointed)

/-- The token of an index. -/
def token (index : Nat) (span : Span) : Token Span := .literal ⟨.integer, toString index, ""⟩ span

end Index

/-- The number that comes next, as it is written and at its place; a sign may stand before it. -/
def number? : Tokens → Option (LiteralKind × List Char × Span)
  | .literal l span :: _ => some (l.kind, l.text.toList, span)
  | .punct '-' _ sign :: .literal l span :: _ =>
    some (l.kind, '-' :: l.text.toList, sign.through span)
  | _ => none

/-- The index of a field. -/
def index : Parser Tokens := do
  match number? (← get).rest with
  | some (.integer, text, span) =>
    match Index.ofText text with
    | .ok n =>
      let _ ← literal
      return [Index.token n span]
    | .error cause => refuse cause span
  | _ => want [.member]

/-- The name or the index of a field. -/
def member : Parser Tokens := do
  if ← peek atIdent then name else index

/-- The fields after a dot at a place that are written as a float, if one comes next; the last token
is a dot if a member has to follow. -/
def joinedIndices (dot : Span) : Parser (Option (Tokens × Bool)) := do
  match number? (← get).rest with
  | some (.float, text, span) =>
    let (parts, pointed) := Index.parts text
    match parts.mapM Index.ofText with
    | .ok indices =>
      let _ ← literal
      let point : Tokens := [.punct '.' .alone span]
      let fields := point.intercalate (indices.map fun n => [Index.token n span])
      return some (.punct '.' .alone dot :: fields ++ (if pointed then point else []), pointed)
    | .error cause => refuse cause span
  | _ => return none

end EnumCases.Grammar
