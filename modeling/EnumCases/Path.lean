import EnumCases.Token.Build

/-!
# Paths

A path has segments with `::` between them, and may start with `::`. A segment may have generic
arguments in angle brackets, with or without `::` before them; in an expression only those with
`::` are arguments.
-/

namespace EnumCases

/-- Generic arguments of a segment. -/
structure GenericArguments where
  /-- Whether `::` stands before them. -/
  turbofish : Bool
  /-- The tokens from `<` to `>`. -/
  tokens : List (Token Unit)

/-- A segment of a path. -/
structure Segment where
  /-- The identifier, which may be one of the keywords for modules. -/
  ident : Ident
  /-- The generic arguments, if there are any. -/
  arguments : Option GenericArguments := none

namespace Segment

/-- The tokens of a segment. -/
def tokens (s : Segment) : List (Token Unit) :=
  Token.named s.ident ++
    match s.arguments with
    | none => []
    | some a => (if a.turbofish then Token.colons else []) ++ a.tokens

end Segment

/-- A path. -/
structure Path where
  /-- Whether the path starts with `::`. -/
  leading : Bool
  /-- The segments. -/
  segments : List Segment

namespace Path

/-- The tokens of a path. -/
def tokens (p : Path) : List (Token Unit) :=
  (if p.leading then Token.colons else []) ++ Token.colons.intercalate (p.segments.map (·.tokens))

/-- The identifier that a path consists of, if it is nothing else. -/
def ident? (p : Path) : Option Ident :=
  match p with
  | ⟨false, [⟨i, none⟩]⟩ => some i
  | _ => none

/-- No segment has generic arguments. -/
def isPlain (p : Path) : Bool := p.segments.all (·.arguments.isNone)

/-- The path to the support library, where nothing else is set. -/
def standard : Path := ⟨true, [⟨.plain "case_detection", none⟩]⟩

end Path

end EnumCases
