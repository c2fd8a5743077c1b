import EnumCases.Token.Scanner

/-!
# From text to tokens

`scan` lists the lexemes of a text with their places, and `assemble` puts them together to tokens:
an opening delimiter starts a group, the matching closing one ends it. `lex` does both. It fails
where no piece can be cut off, where a closing delimiter does not match, or at the innermost group
that is still open at the end.
-/

namespace EnumCases

/-- A lexeme and its place. -/
abbrev Located := Lexeme × Span

/-- The lexemes of a text up to the first place, if any, where no piece starts. Every piece takes at
least one character, so `fuel` need not be more than the number of characters. -/
def scan : (fuel : Nat) → Position → List Char → List Located × Option Position
  | _, _, [] => ([], none)
  | 0, position, _ => ([], some position)
  | fuel + 1, position, cs =>
    match piece? cs with
    | none => ([], some position)
    | some piece =>
      let after := position.advance piece.taken
      let (located, stop) := scan fuel after piece.rest
      (piece.lexemes.map (·, ⟨position, after⟩) ++ located, stop)

/-- A group whose closing delimiter has not been read: its delimiter and where it starts, and the
tokens before it, the last one first. -/
structure OpenGroup where
  /-- The delimiter of the group. -/
  delimiter : Delimiter
  /-- The place of the opening delimiter. -/
  start : Span
  /-- The tokens before the group in reverse. -/
  before : List (Token Span)

/-- The tokens of a list of lexemes, after the tokens `done` (the last one first) in the innermost of
the open groups `groups`. The lexemes end where `stop` says, if they do not end with the text. -/
def assemble (stop : Option Position) :
    (groups : List OpenGroup) → (done : List (Token Span)) → List Located →
      Except Position (List (Token Span))
  | groups, done, [] =>
    match stop, groups with
    | some position, _ => .error position
    | none, group :: _ => .error group.start.first
    | none, [] => .ok done.reverse
  | groups, done, (lexeme, span) :: rest =>
    match lexeme with
    | .ident i => assemble stop groups (.ident i span :: done) rest
    | .punct mark spacing => assemble stop groups (.punct mark spacing span :: done) rest
    | .literal l => assemble stop groups (.literal l span :: done) rest
    | .opening d => assemble stop (⟨d, span, done⟩ :: groups) [] rest
    | .closing d =>
      match groups with
      | [] => .error span.first
      | group :: groups =>
        if group.delimiter = d then
          assemble stop groups (.group d done.reverse (group.start.through span) :: group.before) rest
        else .error span.first

/-- The mark that may stand at the very start of a text, and belongs to no token. -/
def byteOrderMark : Char := '\uFEFF'

/-- The tokens of a text, or where it fails to be a list of tokens. -/
def lex (text : String) : Except Position (List (Token Span)) :=
  let (position, cs) :=
    match text.toList with
    | c :: cs => if c = byteOrderMark then (Position.start.next c, cs) else (.start, c :: cs)
    | [] => (.start, [])
  let (located, stop) := scan cs.length position cs
  assemble stop [] [] located

end EnumCases
