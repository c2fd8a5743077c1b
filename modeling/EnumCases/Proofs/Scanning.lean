import EnumCases.Proofs.RoundTrip
import Mathlib.Data.List.TakeDrop

/-!
# What is known of a text from its tokens

Where `Proofs.RoundTrip` goes from tokens to a text that has them, this module goes back. A piece
that is cut off a text is a comment, blanks, an identifier, or stands for one lexeme of another kind
(`Piece.kind_of_piece?`); one without lexemes is a comment or blanks, and takes at least one
character. A text that is scanned without lexemes may therefore stand anywhere
(`scanned_nil_of_scan`), and the tokens of a text have just the lexemes that were scanned
(`lexemesAll_of_assemble`).

Main statement: if a text after the mark of a raw identifier is one identifier, then it is one
without the mark as well (`exists_lex_of_lex_raw`).
-/

namespace EnumCases

open Text

/-- What one of two sources gives is given by the first or by the second. -/
theorem eq_some_of_orElse {α : Type} {x y : Option α} {a : α} (h : (x <|> y) = some a) :
    x = some a ∨ y = some a := by
  cases x with
  | none => exact .inr h
  | some b => exact .inl h

namespace Piece

/-! ### Comments -/

/-- What is left after a line is no longer than before it. -/
theorem length_line_le (cs : List Char) : (line cs).2.length ≤ cs.length := by
  fun_induction line cs with
  | case1 => exact Nat.le_refl _
  | case2 c cs _ => exact Nat.le_refl _
  | case3 c cs _ ih => exact Nat.le_succ_of_le ih

/-- Nor is what is left after a block comment, at whatever depth. -/
theorem length_blockRest?_le {depth : Nat} {cs : List Char} :
    ∀ {s : Split}, blockRest? depth cs = some s → s.2.length ≤ cs.length := by
  fun_induction blockRest? depth cs with
  | case1 => exact nofun
  | case2 cs =>
    intro s h
    obtain rfl := Option.some.inj h
    exact Nat.le_add_right _ 2
  | case3 cs depth ih =>
    intro s h
    obtain ⟨t, ht, rfl⟩ := Option.map_eq_some_iff.mp h
    have hle := ih ht
    exact Nat.le_trans hle (Nat.le_add_right _ 2)
  | case4 depth cs ih =>
    intro s h
    obtain ⟨t, ht, rfl⟩ := Option.map_eq_some_iff.mp h
    have hle := ih ht
    exact Nat.le_trans hle (Nat.le_add_right _ 2)
  | case5 depth c cs _ _ ih =>
    intro s h
    obtain ⟨t, ht, rfl⟩ := Option.map_eq_some_iff.mp h
    have hle := ih ht
    exact Nat.le_trans hle (Nat.le_add_right _ 1)

/-- Nor after a line of documentation. -/
theorem length_lineDocumentation?_le {inner : Bool} {opening cs : List Char} {p : Piece}
    (h : lineDocumentation? inner opening cs = some p) : p.rest.length ≤ cs.length := by
  simp only [lineDocumentation?, List.span_eq_takeWhile_dropWhile] at h
  split at h
  · obtain rfl := Option.some.inj h
    exact Nat.le_trans (List.dropWhile_suffix _).length_le (length_line_le cs)
  · cases h

/-- Nor after a block of documentation. -/
theorem length_blockDocumentation?_le {inner : Bool} {opening cs : List Char} {p : Piece}
    (h : blockDocumentation? inner opening cs = some p) : p.rest.length ≤ cs.length := by
  obtain ⟨s, hs, h⟩ := Option.bind_eq_some_iff.mp h
  simp only at h
  split at h
  · obtain rfl := Option.some.inj h
    exact length_blockRest?_le hs
  · cases h

/-- A comment takes at least one character. -/
theorem length_comment?_lt {cs : List Char} {p : Piece} (h : comment? cs = some p) :
    p.rest.length < cs.length := by
  -- Every form starts with a slash, which none of the readers above is given.
  unfold comment? at h
  split at h
  · have hle := length_lineDocumentation?_le h
    simp only [List.length_cons]
    omega
  · rename_i cs
    split at h
    · obtain rfl := Option.some.inj h
      have hle := length_line_le cs
      simp only [List.length_cons]
      omega
    · have hle := length_lineDocumentation?_le h
      simp only [List.length_cons]
      omega
  · rename_i cs _ _
    obtain rfl := Option.some.inj h
    have hle := length_line_le cs
    simp only [List.length_cons]
    omega
  · obtain rfl := Option.some.inj h
    simp only [List.length_cons]
    omega
  · have hle := length_blockDocumentation?_le h
    simp only [List.length_cons]
    omega
  · split at h
    · obtain ⟨s, hs, rfl⟩ := Option.map_eq_some_iff.mp h
      have hle := length_blockRest?_le hs
      simp only [List.length_cons] at hle ⊢
      omega
    · have hle := length_blockDocumentation?_le h
      simp only [List.length_cons]
      omega
  · obtain ⟨s, hs, rfl⟩ := Option.map_eq_some_iff.mp h
    have hle := length_blockRest?_le hs
    simp only [List.length_cons]
    omega
  · cases h

/-- A line of documentation stands for an attribute. -/
theorem head?_lineDocumentation? {inner : Bool} {opening cs : List Char} {p : Piece}
    (h : lineDocumentation? inner opening cs = some p) :
    p.lexemes.head? = some (.punct '#' .alone) := by
  simp only [lineDocumentation?] at h
  split at h
  · obtain rfl := Option.some.inj h
    rfl
  · cases h

/-- So does a block of documentation. -/
theorem head?_blockDocumentation? {inner : Bool} {opening cs : List Char} {p : Piece}
    (h : blockDocumentation? inner opening cs = some p) :
    p.lexemes.head? = some (.punct '#' .alone) := by
  obtain ⟨s, -, h⟩ := Option.bind_eq_some_iff.mp h
  simp only at h
  split at h
  · obtain rfl := Option.some.inj h
    rfl
  · cases h

/-- A comment stands for no lexeme, or for an attribute. -/
theorem lexemes_comment? {cs : List Char} {p : Piece} (h : comment? cs = some p) :
    p.lexemes = [] ∨ p.lexemes.head? = some (.punct '#' .alone) := by
  unfold comment? at h
  split at h
  · exact .inr (head?_lineDocumentation? h)
  · split at h
    · obtain rfl := Option.some.inj h
      exact .inl rfl
    · exact .inr (head?_lineDocumentation? h)
  · obtain rfl := Option.some.inj h
    exact .inl rfl
  · obtain rfl := Option.some.inj h
    exact .inl rfl
  · exact .inr (head?_blockDocumentation? h)
  · split at h
    · obtain ⟨s, -, rfl⟩ := Option.map_eq_some_iff.mp h
      exact .inl rfl
    · exact .inr (head?_blockDocumentation? h)
  · obtain ⟨s, -, rfl⟩ := Option.map_eq_some_iff.mp h
    exact .inl rfl
  · cases h

/-! ### Literals and marks -/

/-- A piece that stands for one literal. -/
def IsLiteral (p : Piece) : Prop := ∃ l, p.lexemes = [.literal l]

theorem isLiteral_of_quotedLiteral? {kind : LiteralKind} {d : Quoted.Dialect}
    {announced cs : List Char} {p : Piece} (h : quotedLiteral? kind d announced cs = some p) :
    p.IsLiteral := by
  unfold quotedLiteral? at h
  split at h
  · obtain ⟨s, -, rfl⟩ := Option.map_eq_some_iff.mp h
    exact ⟨_, rfl⟩
  · obtain ⟨s, -, rfl⟩ := Option.map_eq_some_iff.mp h
    exact ⟨_, rfl⟩
  · cases h

theorem isLiteral_of_charLiteral? {kind : LiteralKind} {d : Quoted.Dialect}
    {announced cs : List Char} {p : Piece} (h : charLiteral? kind d announced cs = some p) :
    p.IsLiteral := by
  unfold charLiteral? at h
  split at h
  · simp only at h
    split at h
    · obtain rfl := Option.some.inj h
      exact ⟨_, rfl⟩
    · cases h
  · cases h

theorem isLiteral_of_number? {kind : LiteralKind} {body : Option Split} {p : Piece}
    (h : body.bind (ofNumber? kind) = some p) : p.IsLiteral := by
  obtain ⟨s, -, h⟩ := Option.bind_eq_some_iff.mp h
  obtain ⟨t, -, rfl⟩ := Option.map_eq_some_iff.mp h
  exact ⟨_, rfl⟩

theorem isLiteral_of_announced? {cs : List Char} {p : Piece} (h : announced? cs = some p) :
    p.IsLiteral := by
  unfold announced? at h
  split at h
  · rcases eq_some_of_orElse h with h | h
    · exact isLiteral_of_quotedLiteral? h
    · exact isLiteral_of_charLiteral? h
  · exact isLiteral_of_quotedLiteral? h
  · cases h

/-- A literal stands for itself. -/
theorem isLiteral_of_literal? {cs : List Char} {p : Piece} (h : literal? cs = some p) :
    p.IsLiteral := by
  rcases eq_some_of_orElse h with h | h
  · exact isLiteral_of_quotedLiteral? h
  rcases eq_some_of_orElse h with h | h
  · exact isLiteral_of_announced? h
  rcases eq_some_of_orElse h with h | h
  · exact isLiteral_of_charLiteral? h
  rcases eq_some_of_orElse h with h | h
  · exact isLiteral_of_number? h
  · exact isLiteral_of_number? h

/-- A mark stands for itself. -/
theorem lexemes_punct? {cs : List Char} {p : Piece} (h : punct? cs = some p) :
    ∃ mark spacing, p.lexemes = [.punct mark spacing] := by
  unfold punct? at h
  split at h
  · split at h
    · split at h
      · cases h
      · obtain rfl := Option.some.inj h
        exact ⟨_, _, rfl⟩
    · cases h
  · split at h
    · obtain rfl := Option.some.inj h
      exact ⟨_, _, rfl⟩
    · cases h
  · cases h

/-- A delimiter stands for itself. -/
theorem lexemes_delimiter? {cs : List Char} {p : Piece} (h : delimiter? cs = some p) :
    ∃ d, p.lexemes = [.opening d] ∨ p.lexemes = [.closing d] := by
  unfold delimiter? at h
  split at h
  · split at h
    · obtain rfl := Option.some.inj h
      exact ⟨_, .inl rfl⟩
    · obtain rfl := Option.some.inj h
      exact ⟨_, .inr rfl⟩
    · cases h
  · cases h

/-! ### All pieces -/

/-- What a piece may be. -/
inductive Kind (cs : List Char) (p : Piece) : Prop where
  /-- A comment, which may stand for an attribute. -/
  | comment (start : cs.head? = some '/') (shorter : p.rest.length < cs.length)
      (lexemes : p.lexemes = [] ∨ p.lexemes.head? = some (.punct '#' .alone))
  /-- Blanks. -/
  | blanks (start : ∃ c ∈ cs.head?, isBlank c = true) (shorter : p.rest.length < cs.length)
      (lexemes : p.lexemes = [])
  /-- A lexeme that is no identifier. -/
  | single {l : Lexeme} (lexemes : p.lexemes = [l]) (other : ∀ i, l ≠ .ident i)
  /-- An identifier. -/
  | ident (read : ident? cs = some p)

/-- The blanks at the start of a text take at least one character. -/
theorem kind_of_blanks? {cs : List Char} {p : Piece} (h : blanks? cs = some p) : Kind cs p := by
  unfold blanks? at h
  split at h
  · rename_i hblank
    obtain rfl := Option.some.inj h
    cases cs with
    | nil => cases hblank
    | cons c cs =>
      have hc : isBlank c = true := hblank
      refine .blanks ⟨c, rfl, hc⟩ ?_ rfl
      have hle := (List.dropWhile_suffix isBlank (l := cs)).length_le
      simp only [List.dropWhile_cons, hc, if_true, List.length_cons]
      omega
  · cases h

/-- A piece is of one of these kinds. -/
theorem kind_of_piece? {cs : List Char} {p : Piece} (h : piece? cs = some p) : Kind cs p := by
  unfold piece? at h
  split at h
  · rename_i hcomment
    refine .comment ?_ (length_comment?_lt h) (lexemes_comment? h)
    unfold isComment at hcomment
    split at hcomment
    · rfl
    · rfl
    · cases hcomment
  rcases eq_some_of_orElse h with h | h
  · exact kind_of_blanks? h
  rcases eq_some_of_orElse h with h | h
  · unfold missing? at h
    split at h
    · obtain rfl := Option.some.inj h
      exact .single rfl nofun
    · cases h
  rcases eq_some_of_orElse h with h | h
  · obtain ⟨d, hd | hd⟩ := lexemes_delimiter? h
    · exact .single hd nofun
    · exact .single hd nofun
  rcases eq_some_of_orElse h with h | h
  · obtain ⟨l, hl⟩ := isLiteral_of_literal? h
    exact .single hl nofun
  rcases eq_some_of_orElse h with h | h
  · obtain ⟨mark, spacing, hmark⟩ := lexemes_punct? h
    exact .single hmark nofun
  · exact .ident h

/-- An identifier stands for itself. -/
theorem lexemes_ident? {cs : List Char} {p : Piece} (h : ident? cs = some p) :
    ∃ i taken rest, rawOrPlain? cs = some (i, taken, rest) ∧ p = ⟨[.ident i], taken, rest⟩ := by
  unfold ident? at h
  split at h
  · cases h
  · obtain ⟨⟨i, taken, rest⟩, hread, rfl⟩ := Option.map_eq_some_iff.mp h
    exact ⟨i, taken, rest, hread, rfl⟩

/-- A piece without lexemes is a comment or blanks. -/
theorem blank_of_lexemes_eq_nil {cs : List Char} {p : Piece} (h : piece? cs = some p)
    (hnil : p.lexemes = []) :
    (∃ c ∈ cs.head?, c = '/' ∨ isBlank c = true) ∧ p.rest.length < cs.length := by
  cases kind_of_piece? h with
  | comment start shorter _ => exact ⟨⟨'/', start, .inl rfl⟩, shorter⟩
  | blanks start shorter _ =>
    obtain ⟨c, hc, hblank⟩ := start
    exact ⟨⟨c, hc, .inr hblank⟩, shorter⟩
  | single lexemes _ =>
    rw [hnil] at lexemes
    cases lexemes
  | ident read =>
    obtain ⟨i, taken, rest, -, rfl⟩ := lexemes_ident? read
    cases hnil

/-- A piece that stands for an identifier was read as one. -/
theorem ident?_of_lexemes_eq {cs : List Char} {p : Piece} {i : Ident} (h : piece? cs = some p)
    (hident : p.lexemes = [.ident i]) : ident? cs = some p := by
  cases kind_of_piece? h with
  | comment _ _ lexemes =>
    rw [hident] at lexemes
    rcases lexemes with h | h <;> cases h
  | blanks _ _ lexemes =>
    rw [hident] at lexemes
    cases lexemes
  | single lexemes other =>
    rw [hident] at lexemes
    cases lexemes
    exact absurd rfl (other i)
  | ident read => exact read

end Piece

/-! ### Scans -/

/-- A scan of a text that is not empty cuts off a piece, unless it stops there. -/
theorem exists_piece_of_scan {fuel : Nat} {position : Position} {c : Char} {cs : List Char}
    (h : (scan fuel position (c :: cs)).2 = none) :
    ∃ p fuel', piece? (c :: cs) = some p ∧
      (scan fuel position (c :: cs)).1.map Prod.fst =
        p.lexemes ++ (scan fuel' (position.advance p.taken) p.rest).1.map Prod.fst ∧
      (scan fuel' (position.advance p.taken) p.rest).2 = none := by
  cases fuel with
  | zero => cases h
  | succ fuel =>
    cases hp : piece? (c :: cs) with
    | none =>
      rw [scan, hp] at h
      · cases h
      · exact List.cons_ne_nil c cs
    | some p =>
      rw [scan_of_piece? hp] at h ⊢
      refine ⟨p, fuel, rfl, ?_, h⟩
      rw [List.map_append, List.map_map]
      exact congrArg (· ++ _) (List.map_id p.lexemes)

/-- A text that is scanned without lexemes is so wherever it stands. -/
theorem scanned_nil_of_scan {fuel : Nat} {position : Position} {cs : List Char}
    (hlexemes : (scan fuel position cs).1.map Prod.fst = [])
    (hstop : (scan fuel position cs).2 = none) : Scanned [] cs := by
  -- By induction on the length of the text: every piece in it takes a character.
  generalize hlength : cs.length = length
  induction length using Nat.strongRecOn generalizing fuel position cs with
  | ind length ih =>
    cases cs with
    | nil =>
      intro fuel position _
      cases fuel <;> exact ⟨rfl, rfl⟩
    | cons c cs =>
      obtain ⟨p, fuel', hpiece, hmap, hstop'⟩ := exists_piece_of_scan hstop
      rw [hmap] at hlexemes
      obtain ⟨hnil, hrest⟩ := List.append_eq_nil_iff.mp hlexemes
      have hshorter := (Piece.blank_of_lexemes_eq_nil hpiece hnil).2
      obtain ⟨lexemes, taken, rest⟩ := p
      obtain rfl : lexemes = [] := hnil
      exact (ih rest.length (hlength ▸ hshorter) hrest hstop' rfl).step hpiece hshorter

/-- A text that is scanned without lexemes is empty, or starts with a blank or a comment. -/
theorem Scanned.head_of_nil {cs : List Char} (h : Scanned [] cs) :
    ∀ c ∈ cs.head?, c = '/' ∨ isBlank c = true := by
  intro c hc
  cases cs with
  | nil => cases hc
  | cons d cs =>
    obtain ⟨hlexemes, hstop⟩ := h _ .start (Nat.le_refl _)
    obtain ⟨p, fuel, hpiece, hmap, -⟩ := exists_piece_of_scan hstop
    rw [hmap] at hlexemes
    have hnil := (List.append_eq_nil_iff.mp hlexemes).1
    obtain ⟨e, he, hblank⟩ := (Piece.blank_of_lexemes_eq_nil hpiece hnil).1
    obtain rfl : d = e := Option.some.inj he
    obtain rfl : d = c := Option.some.inj hc
    exact hblank

/-! ### Tokens -/

/-- The lexemes of the tokens so far, where some groups are open. -/
def assembled : List OpenGroup → List (Token Span) → List Lexeme
  | [], done => Token.lexemesAll done.reverse
  | group :: groups, done =>
    assembled groups group.before ++ .opening group.delimiter :: Token.lexemesAll done.reverse

/-- One more token in the innermost group. -/
theorem assembled_cons (groups : List OpenGroup) (t : Token Span) (done : List (Token Span)) :
    assembled groups (t :: done) = assembled groups done ++ t.lexemes := by
  cases groups <;> simp [assembled, Token.lexemesAll_append, Token.lexemesAll]

/-- Tokens have just the lexemes that they are put together from, and these are all there are. -/
theorem lexemesAll_of_assemble {stop : Option Position} {groups : List OpenGroup}
    {done ts : List (Token Span)} {located : List Located}
    (h : assemble stop groups done located = .ok ts) :
    stop = none ∧ Token.lexemesAll ts = assembled groups done ++ located.map Prod.fst := by
  fun_induction assemble stop groups done located with
  | case1 => cases h
  | case2 => cases h
  | case3 done hstop =>
    obtain rfl := Except.ok.inj h
    exact ⟨hstop, (List.append_nil _).symm⟩
  | case4 groups done span rest i ih =>
    rw [assembled_cons, List.append_assoc] at ih
    exact ih h
  | case5 groups done span rest mark spacing ih =>
    rw [assembled_cons, List.append_assoc] at ih
    exact ih h
  | case6 groups done span rest l ih =>
    rw [assembled_cons, List.append_assoc] at ih
    exact ih h
  | case7 groups done span rest d ih =>
    -- The new group is empty so far.
    rw [assembled, List.append_assoc] at ih
    exact ih h
  | case8 => cases h
  | case9 done span rest group groups ih =>
    -- The lexemes of the group that is closed are those from its opening delimiter on.
    rw [assembled_cons, Token.lexemes] at ih
    simpa [assembled] using ih h
  | case10 => cases h

/-- A text that does not start with the mark of the byte order and is one identifier is scanned as
that identifier. -/
theorem scan_of_lex_ident {text : String} {i : Ident} {span : Span}
    (hhead : ∀ c ∈ text.toList.head?, c ≠ byteOrderMark)
    (h : lex text = .ok [.ident i span]) :
    (scan text.toList.length .start text.toList).1.map Prod.fst = [.ident i] ∧
      (scan text.toList.length .start text.toList).2 = none := by
  rw [lex_eq_assemble rfl hhead] at h
  obtain ⟨hstop, hlexemes⟩ := lexemesAll_of_assemble h
  exact ⟨hlexemes.symm, hstop⟩

/-- A text that does not start with the mark of the byte order and is scanned as one identifier is
that identifier. -/
theorem exists_lex_of_scanned_ident {text : String} {i : Ident}
    (hhead : ∀ c ∈ text.toList.head?, c ≠ byteOrderMark) (h : Scanned [.ident i] text.toList) :
    ∃ span, lex text = .ok [.ident i span] := by
  obtain ⟨hlexemes, hstop⟩ := h _ .start (Nat.le_refl _)
  obtain ⟨⟨_, span⟩, hlocated, rfl⟩ := List.map_eq_singleton_iff.mp hlexemes
  refine ⟨span, ?_⟩
  rw [lex_eq_assemble rfl hhead, hstop, hlocated]
  rfl

/-- A word after the mark of a raw identifier is cut off where it ends. -/
theorem exists_of_rawOrPlain?_raw {cs taken rest : List Char} {i : Ident}
    (h : Piece.rawOrPlain? ('r' :: '#' :: cs) = some (i, taken, rest)) :
    i.raw = true ∧ cs = i.name.toList ++ rest ∧ ∀ c ∈ rest.head?, isWordContinue c = false := by
  obtain ⟨⟨name, rest'⟩, hword, h⟩ := Option.bind_eq_some_iff.mp h
  obtain ⟨j, hname, h⟩ := Option.bind_eq_some_iff.mp h
  obtain ⟨rfl, -, rfl⟩ : j = i ∧ rawMark ++ name = taken ∧ rest' = rest := by simpa using h
  unfold word? at hword
  unfold Ident.ofName? at hname
  split at hword
  · cases hword
  · rename_i c cs
    split at hword
    · split at hname
      · obtain rfl := Option.some.inj hname
        obtain ⟨rfl, rfl⟩ := Prod.mk.inj (Option.some.inj hword)
        refine ⟨rfl, ?_, fun d hd => ?_⟩
        · simp
        · have hnot := List.head?_dropWhile_not isWordContinue cs
          rw [Option.mem_def.mp hd] at hnot
          exact hnot
      · cases hname
    · cases hword

/-- A text that is one identifier after the mark of a raw one is a word with nothing but blanks and
comments after it. -/
theorem exists_word_of_lex_raw {bare : String} {i : Ident} {span : Span}
    (h : lex ("r#" ++ bare) = .ok [.ident i span]) :
    i.raw = true ∧
      ∃ rest, bare.toList = i.name.toList ++ rest ∧ EndsWord rest ∧ Scanned [] rest := by
  have htext : ("r#" ++ bare).toList = 'r' :: '#' :: bare.toList := by simp
  have hhead : ∀ c ∈ ("r#" ++ bare).toList.head?, c ≠ byteOrderMark := by
    rw [htext, List.head?_cons]
    rintro c ⟨⟩
    decide
  obtain ⟨hlexemes, hstop⟩ := scan_of_lex_ident hhead h
  rw [htext] at hlexemes hstop
  obtain ⟨p, fuel, hpiece, hmap, hstop⟩ := exists_piece_of_scan hstop
  rw [hmap] at hlexemes
  -- The text starts with a letter, so the first piece has a lexeme, and it is the identifier.
  obtain ⟨hp, hrest⟩ : p.lexemes = [.ident i] ∧
      (scan fuel (Position.start.advance p.taken) p.rest).1.map Prod.fst = [] := by
    rcases List.append_eq_cons_iff.mp hlexemes with ⟨hnil, -⟩ | ⟨more, hp, hnil⟩
    · obtain ⟨c, hc, hblank⟩ := (Piece.blank_of_lexemes_eq_nil hpiece hnil).1
      obtain rfl : 'r' = c := Option.some.inj hc
      exact absurd hblank (by decide)
    · obtain ⟨rfl, hrest⟩ := List.append_eq_nil_iff.mp hnil.symm
      exact ⟨hp, hrest⟩
  obtain ⟨j, taken, rest, hread, rfl⟩ := Piece.lexemes_ident? (Piece.ident?_of_lexemes_eq hpiece hp)
  obtain rfl : j = i := by simpa using hp
  obtain ⟨hraw, hbare, hends⟩ := exists_of_rawOrPlain?_raw hread
  have hnone : Scanned [] rest := scanned_nil_of_scan hrest hstop
  refine ⟨hraw, rest, hbare, fun c hc => ⟨hends c hc, ?_⟩, hnone⟩
  -- What follows the word starts with a blank or a comment, and so announces no literal.
  have hblank := hnone.head_of_nil c hc
  refine ⟨?_, ?_, ?_⟩ <;> rintro rfl <;> exact absurd hblank (by decide)

/-- A text that is one identifier after the mark of a raw one is one without the mark as well. -/
theorem exists_lex_of_lex_raw {bare : String} {i : Ident} {span : Span}
    (h : lex ("r#" ++ bare) = .ok [.ident i span]) :
    i.raw = true ∧ ∃ span, lex bare = .ok [.ident (.plain i.name i.word) span] := by
  obtain ⟨hraw, rest, hbare, hword, hnone⟩ := exists_word_of_lex_raw h
  obtain ⟨d, ds, htext, hstart, -⟩ := head_ident (.plain i.name i.word) hword
  have htext : i.name.toList ++ rest = d :: ds := htext
  have hlength : 0 < i.name.toList.length := by
    apply List.length_pos_iff.mpr
    intro hnil
    have hempty := i.word
    rw [hnil] at hempty
    cases hempty
  have hscanned : Scanned [.ident (.plain i.name i.word)] bare.toList := by
    rw [hbare]
    refine hnone.step (piece?_word i.word hword) ?_
    rw [List.length_append]
    omega
  refine ⟨hraw, exists_lex_of_scanned_ident (fun c hc => ?_) hscanned⟩
  rw [hbare, htext] at hc
  obtain rfl : d = c := Option.some.inj hc
  exact ne_of_isWordStart hstart _ (by decide +kernel)

end EnumCases
