/-!
# Places in a source text

A position is a line and a column, a span a part of the text between two positions. Lines are
counted from 1 and end with a line feed; columns are counted from 0, in characters.
-/

namespace EnumCases

/-- A place between two characters. -/
structure Position where
  /-- The line, from 1. -/
  line : Nat
  /-- The column, from 0. -/
  column : Nat
deriving DecidableEq, Repr

/-- The start of a text. -/
def Position.start : Position := ⟨1, 0⟩

/-- The position after one more character. -/
def Position.next (p : Position) (c : Char) : Position :=
  if c = '\n' then ⟨p.line + 1, 0⟩ else ⟨p.line, p.column + 1⟩

/-- The position after the given characters. -/
def Position.advance (p : Position) (taken : List Char) : Position := taken.foldl next p

/-- A part of a text. -/
structure Span where
  /-- Where the part starts. -/
  first : Position
  /-- Where the text goes on after it. -/
  last : Position
deriving DecidableEq, Repr

namespace Span

/-- The place of what has no place of its own in the text. -/
def callSite : Span := ⟨.start, .start⟩

/-- From the start of one part to the end of another. -/
def through (s t : Span) : Span := ⟨s.first, t.last⟩

/-- The first character of a part that does not start with a line feed. -/
def head (s : Span) : Span := ⟨s.first, ⟨s.first.line, s.first.column + 1⟩⟩

/-- The last character of a part that does not end with a line feed. -/
def tail (s : Span) : Span := ⟨⟨s.last.line, s.last.column - 1⟩, s.last⟩

end Span

end EnumCases
