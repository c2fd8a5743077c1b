import EnumCases.Proofs.EscapeRules

/-!
# What stands between tokens

A gap is a text without tokens: blanks, and comments that document nothing. It is *open* if it ends
in a line comment that no line feed ends, so that whatever is written after it belongs to the
comment. `Gap` says this of a text, without the lexer. A gap that is not open may stand before any
text (`Gap.scanned`), and every text that is scanned to its end starts with a gap, which is all
there is before the first lexeme (`exists_gap_of_scan`).

Main statement: a text is one identifier just if it is that identifier between two gaps, the first
of which is not open (`isOneIdent_iff`).
-/

namespace EnumCases

open Text

/-- The text of a line comment, after its slashes, that documents nothing. -/
def IsRemark (cs : List Char) : Prop :=
  cs.head? ≠ some '!' ∧ (cs.head? = some '/' → cs[1]? = some '/')

/-- The text of a block comment, after its opening, that documents nothing. -/
def IsAside (cs : List Char) : Prop :=
  cs.head? ≠ some '!' ∧ (cs.head? = some '*' → cs[1]? = some '*' ∨ cs[1]? = some '/')

/-- A text without tokens, and whether it ends in an open line comment. -/
inductive Gap : (isOpen : Bool) → List Char → Prop where
  | nil : Gap false []
  | blank {o : Bool} {c : Char} {cs : List Char} (hc : isBlank c = true) (h : Gap o cs) :
    Gap o (c :: cs)
  /-- A line comment and the end of its line. -/
  | line {o : Bool} {remark cs : List Char} (hplain : IsRemark remark) (hline : '\n' ∉ remark)
    (h : Gap o cs) : Gap o ('/' :: '/' :: (remark ++ '\n' :: cs))
  /-- A block comment. -/
  | block {o : Bool} {body cs : List Char} (hplain : IsAside body)
    (hclosed : Piece.blockRest? 0 body = some (body, [])) (h : Gap o cs) :
    Gap o ('/' :: '*' :: (body ++ cs))
  /-- A line comment at the end. -/
  | remark {remark : List Char} (hplain : IsRemark remark) (hline : '\n' ∉ remark) :
    Gap true ('/' :: '/' :: remark)

/-! ### Comments -/

/-- Whether a line comment documents something is told by its own text. -/
theorem isRemark_append_iff {cs rest : List Char} (hr : ∀ c ∈ rest.head?, c ≠ '!' ∧ c ≠ '/') :
    IsRemark (cs ++ rest) ↔ IsRemark cs := by
  have hbang : rest.head? ≠ some '!' := fun h => (hr _ h).1 rfl
  have hslash : rest.head? ≠ some '/' := fun h => (hr _ h).2 rfl
  match cs with
  | [] => simp [IsRemark, hbang, hslash]
  | [c] =>
    rw [List.head?_eq_getElem?] at hslash
    simp [IsRemark, hslash]
  | c :: d :: cs => simp [IsRemark]

/-- Whether a block comment documents something is told by its own text. -/
theorem isAside_append_iff {inner rest : List Char} :
    IsAside (inner ++ ['*', '/'] ++ rest) ↔ IsAside (inner ++ ['*', '/']) := by
  match inner with
  | [] => simp [IsAside]
  | [c] => simp [IsAside]
  | c :: d :: inner => simp [IsAside]

namespace Piece

/-- The line comment at the start of a text, if it documents nothing. -/
theorem comment?_line {cs : List Char} (h : IsRemark cs) :
    comment? ('/' :: '/' :: cs) = some ⟨[], '/' :: '/' :: (line cs).1, (line cs).2⟩ := by
  obtain ⟨hbang, hslash⟩ := h
  cases cs with
  | nil => rfl
  | cons c cs =>
    have hbang : c ≠ '!' := fun h => hbang (congrArg some h)
    by_cases hc : c = '/'
    · -- A third slash is no documentation if there is a fourth.
      subst hc
      have hnext : cs.head? = some '/' := by simpa [List.head?_eq_getElem?] using hslash rfl
      simp [comment?, hnext, line, Split.cons]
    · simp [comment?, hbang, hc]

/-- The text of a line is all of it, if it holds no line feed. -/
theorem line_of_notMem {cs : List Char} (h : '\n' ∉ cs) : line cs = (cs, []) := by
  induction cs with
  | nil => rfl
  | cons c cs ih =>
    obtain ⟨hc, hcs⟩ : '\n' ≠ c ∧ '\n' ∉ cs := by simpa using h
    have hhead : cs.head? ≠ some '\n' := fun h => hcs (List.mem_of_head? h)
    simp [line, hc.symm, hhead, ih hcs, Split.cons]

/-- A line feed ends a line, together with the carriage return before it. -/
theorem exists_line_eq {remark : List Char} (h : '\n' ∉ remark) (cs : List Char) :
    ∃ shown ending, line (remark ++ '\n' :: cs) = (shown, ending ++ '\n' :: cs) ∧
      ∀ c ∈ ending, isBlank c = true := by
  induction remark with
  | nil => exact ⟨[], [], rfl, by simp⟩
  | cons c remark ih =>
    obtain ⟨hc, hremark⟩ : '\n' ≠ c ∧ '\n' ∉ remark := by simpa using h
    by_cases hreturn : c = '\r' ∧ (remark ++ '\n' :: cs).head? = some '\n'
    · have hnil : remark = [] := by
        cases remark with
        | nil => rfl
        | cons d remark => simp_all
      subst hnil
      rw [hreturn.1]
      exact ⟨[], ['\r'], rfl, by simp; decide⟩
    · obtain ⟨shown, ending, hline, hblank⟩ := ih hremark
      refine ⟨c :: shown, ending, ?_, hblank⟩
      rw [List.cons_append, line, if_neg (not_or.mpr ⟨hc.symm, hreturn⟩), hline]
      rfl

/-- A line comment is cut off with its line feed in what is left. -/
theorem line_spec (cs : List Char) :
    cs = (line cs).1 ++ (line cs).2 ∧ '\n' ∉ (line cs).1 ∧
      ((line cs).2 = [] ∨
        ∃ more, (line cs).2 = '\n' :: more ∨ (line cs).2 = '\r' :: '\n' :: more) := by
  fun_induction line cs with
  | case1 => simp
  | case2 c cs h =>
    refine ⟨rfl, by simp, .inr ?_⟩
    rcases h with rfl | ⟨rfl, hnext⟩
    · exact ⟨cs, .inl rfl⟩
    · obtain ⟨more, rfl⟩ : ∃ more, cs = '\n' :: more := by
        cases cs with
        | nil => cases hnext
        | cons d cs => simp_all
      exact ⟨more, .inr rfl⟩
  | case3 c cs h ih =>
    obtain ⟨hsplit, hfree, hrest⟩ := ih
    refine ⟨congrArg (c :: ·) hsplit, ?_, hrest⟩
    have hc : '\n' ≠ c := fun hc => h (.inl hc.symm)
    simpa [Split.cons, hc] using hfree

/-- A block comment ends with its closing mark, whatever follows it. -/
theorem blockRest?_spec {depth : Nat} {cs : List Char} :
    ∀ {s : Split}, blockRest? depth cs = some s →
      cs = s.1 ++ s.2 ∧ (∃ inner, s.1 = inner ++ ['*', '/']) ∧
        ∀ more, blockRest? depth (s.1 ++ more) = some (s.1, more) := by
  fun_induction blockRest? depth cs with
  | case1 =>
    intro s h
    cases h
  | case2 cs =>
    intro s h
    obtain rfl := Option.some.inj h
    exact ⟨rfl, ⟨[], rfl⟩, fun more => rfl⟩
  | case3 cs depth ih =>
    intro s h
    obtain ⟨t, ht, rfl⟩ := Option.map_eq_some_iff.mp h
    obtain ⟨hsplit, ⟨inner, hinner⟩, hmore⟩ := ih ht
    refine ⟨by rw [hsplit]; rfl, ⟨'*' :: '/' :: inner, ?_⟩, fun more => ?_⟩
    · simp [Split.prepend, hinner]
    · simp [Split.prepend, blockRest?, hmore]
  | case4 depth cs ih =>
    intro s h
    obtain ⟨t, ht, rfl⟩ := Option.map_eq_some_iff.mp h
    obtain ⟨hsplit, ⟨inner, hinner⟩, hmore⟩ := ih ht
    refine ⟨by rw [hsplit]; rfl, ⟨'/' :: '*' :: inner, ?_⟩, fun more => ?_⟩
    · simp [Split.prepend, hinner]
    · simp [Split.prepend, blockRest?, hmore]
  | case5 depth c cs hclose hopen ih =>
    intro s h
    obtain ⟨t, ht, rfl⟩ := Option.map_eq_some_iff.mp h
    obtain ⟨hsplit, ⟨inner, hinner⟩, hmore⟩ := ih ht
    refine ⟨by rw [hsplit]; rfl, ⟨c :: inner, by simp [Split.cons, hinner]⟩, fun more => ?_⟩
    -- The character after `c` is the same, so the two still are no mark.
    obtain ⟨d, ds, hd⟩ : ∃ d ds, t.1 = d :: ds := by
      cases inner <;> exact ⟨_, _, hinner⟩
    rw [hd, List.cons_append] at hsplit
    have hnext := hmore more
    rw [hd, List.cons_append] at hnext
    rw [Split.cons, hd, List.cons_append, List.cons_append, blockRest?, hnext]
    · rfl
    · rintro more rfl heq
      exact hclose _ rfl (hsplit.trans (congrArg (· :: _) (List.cons.inj heq).1))
    · rintro more rfl heq
      exact hopen _ rfl (hsplit.trans (congrArg (· :: _) (List.cons.inj heq).1))

/-- The block comment at the start of a text, if it documents nothing. -/
theorem comment?_block {body : List Char} (h : IsAside body)
    (hclosed : blockRest? 0 body = some (body, [])) (rest : List Char) :
    comment? ('/' :: '*' :: (body ++ rest)) = some ⟨[], '/' :: '*' :: body, rest⟩ := by
  obtain ⟨hbang, hstar⟩ := h
  obtain ⟨-, ⟨inner, hinner⟩, hmore⟩ := blockRest?_spec hclosed
  have hrest : blockRest? 0 (body ++ rest) = some (body, rest) := hmore rest
  obtain ⟨c, d, ds, rfl⟩ : ∃ c d ds, body = c :: d :: ds := by
    match inner, hinner with
    | [], h => exact ⟨_, _, _, h⟩
    | [_], h => exact ⟨_, _, _, h⟩
    | _ :: _ :: _, h => exact ⟨_, _, _, h⟩
  have hbang : c ≠ '!' := fun h => hbang (congrArg some h)
  by_cases hc : c = '*'
  · subst hc
    -- After a second asterisk comes a third one, or the slash that ends the comment.
    have hd : d = '*' ∨ d = '/' := by simpa using hstar rfl
    rcases hd with rfl | rfl
    · simp only [List.cons_append] at hrest ⊢
      simp [comment?, hrest]
    · have hnil : ds = [] := by simpa [blockRest?] using hclosed
      subst hnil
      rfl
  · simp only [List.cons_append] at hrest ⊢
    simp [comment?, hbang, hc, hrest]

/-- A comment without lexemes is a line comment or a block comment that documents nothing. -/
theorem plain_of_comment? {cs : List Char} {p : Piece} (h : comment? cs = some p)
    (hnil : p.lexemes = []) :
    (∃ text, cs = '/' :: '/' :: text ∧ IsRemark text ∧ p.rest = (line text).2) ∨
    (∃ body, cs = '/' :: '*' :: (body ++ p.rest) ∧ IsAside body ∧
      blockRest? 0 body = some (body, [])) := by
  have hline {inner : Bool} {opening cs : List Char} :
      lineDocumentation? inner opening cs ≠ some p := by
    intro h
    have hhead := head?_lineDocumentation? h
    rw [hnil] at hhead
    cases hhead
  have hblock {inner : Bool} {opening cs : List Char} :
      blockDocumentation? inner opening cs ≠ some p := by
    intro h
    have hhead := head?_blockDocumentation? h
    rw [hnil] at hhead
    cases hhead
  have hclosed {cs : List Char} {s : Split} (hs : blockRest? 0 cs = some s) (haside : IsAside cs) :
      cs = s.1 ++ s.2 ∧ IsAside s.1 ∧ blockRest? 0 s.1 = some (s.1, []) := by
    obtain ⟨hsplit, ⟨inner, hinner⟩, hmore⟩ := blockRest?_spec hs
    refine ⟨hsplit, ?_, by simpa using hmore []⟩
    rw [hsplit, hinner] at haside
    rw [hinner]
    exact isAside_append_iff.mp haside
  unfold comment? at h
  split at h
  · exact absurd h hline
  · rename_i cs
    split at h
    · rename_i hnext
      obtain rfl := Option.some.inj h
      have hslash : cs[0]? = some '/' := by rw [← List.head?_eq_getElem?]; exact hnext
      refine .inl ⟨'/' :: cs, rfl, by simp [IsRemark, hslash], ?_⟩
      simp [line, Split.cons]
    · exact absurd h hline
  · rename_i cs hbang hslash
    obtain rfl := Option.some.inj h
    refine .inl ⟨cs, rfl, ⟨?_, ?_⟩, rfl⟩
    · intro hhead
      obtain ⟨ds, rfl⟩ := List.head?_eq_some_iff.mp hhead
      exact hbang ds rfl
    · intro hhead
      obtain ⟨ds, rfl⟩ := List.head?_eq_some_iff.mp hhead
      exact absurd rfl (hslash ds)
  · obtain rfl := Option.some.inj h
    exact .inr ⟨['*', '/'], rfl, by simp [IsAside], rfl⟩
  · exact absurd h hblock
  · rename_i cs _
    split at h
    · rename_i hnext
      obtain ⟨s, hs, rfl⟩ := Option.map_eq_some_iff.mp h
      have hstar : cs[0]? = some '*' := by rw [← List.head?_eq_getElem?]; exact hnext
      obtain ⟨hsplit, haside, hbody⟩ := hclosed hs (by simp [IsAside, hstar])
      exact .inr ⟨s.1, congrArg ('/' :: '*' :: ·) hsplit, haside, hbody⟩
    · exact absurd h hblock
  · rename_i cs _ hbang hstar
    obtain ⟨s, hs, rfl⟩ := Option.map_eq_some_iff.mp h
    have hplain : IsAside cs := by
      refine ⟨?_, ?_⟩
      · intro hhead
        obtain ⟨ds, rfl⟩ := List.head?_eq_some_iff.mp hhead
        exact hbang ds rfl
      · intro hhead
        obtain ⟨ds, rfl⟩ := List.head?_eq_some_iff.mp hhead
        exact absurd rfl (hstar ds)
    obtain ⟨hsplit, haside, hbody⟩ := hclosed hs hplain
    exact .inr ⟨s.1, congrArg ('/' :: '*' :: ·) hsplit, haside, hbody⟩
  · cases h

/-- A piece without lexemes was read as a comment or as blanks. -/
theorem comment?_or_blanks? {cs : List Char} {p : Piece} (h : piece? cs = some p)
    (hnil : p.lexemes = []) : comment? cs = some p ∨ blanks? cs = some p := by
  unfold piece? at h
  split at h
  · exact .inl h
  rcases eq_some_of_orElse h with h | h
  · exact .inr h
  -- Every other reader gives a lexeme.
  exfalso
  rcases eq_some_of_orElse h with h | h
  · unfold missing? at h
    split at h
    · obtain rfl := Option.some.inj h
      cases hnil
    · cases h
  rcases eq_some_of_orElse h with h | h
  · obtain ⟨d, hd | hd⟩ := lexemes_delimiter? h <;> rw [hnil] at hd <;> cases hd
  rcases eq_some_of_orElse h with h | h
  · obtain ⟨l, hl⟩ := isLiteral_of_literal? h
    rw [hnil] at hl
    cases hl
  rcases eq_some_of_orElse h with h | h
  · obtain ⟨mark, spacing, hmark⟩ := lexemes_punct? h
    rw [hnil] at hmark
    cases hmark
  · obtain ⟨i, taken, rest, -, rfl⟩ := lexemes_ident? h
    cases hnil

end Piece

/-! ### Gaps -/

namespace Gap

variable {o : Bool} {cs : List Char}

/-- A gap starts with a blank or a comment. -/
theorem head (h : Gap o cs) : ∀ c ∈ cs.head?, c = '/' ∨ isBlank c = true := by
  cases h with
  | nil => exact nofun
  | blank hc _ =>
    rintro d ⟨⟩
    exact .inr hc
  | line _ _ _ =>
    rintro d ⟨⟩
    exact .inl rfl
  | block _ _ _ =>
    rintro d ⟨⟩
    exact .inl rfl
  | remark _ _ =>
    rintro d ⟨⟩
    exact .inl rfl

/-- What follows a blank in a gap is a gap. -/
theorem of_blank_cons {c : Char} (h : Gap o (c :: cs)) (hc : isBlank c = true) : Gap o cs := by
  have hslash : isBlank '/' = false := by decide
  cases h with
  | blank _ h => exact h
  | line _ _ _ => simp [hslash] at hc
  | block _ _ _ => simp [hslash] at hc
  | remark _ _ => simp [hslash] at hc

/-- Blanks may stand before a gap. -/
theorem blanks {bs : List Char} (hbs : ∀ c ∈ bs, isBlank c = true) (h : Gap o cs) :
    Gap o (bs ++ cs) := by
  induction bs with
  | nil => exact h
  | cons b bs ih =>
    obtain ⟨hb, hbs⟩ := List.forall_mem_cons.mp hbs
    exact .blank hb (ih hbs)

/-- A gap after one that is not open. -/
theorem append {o' : Bool} {ds : List Char} (h : Gap o cs) (hclosed : o = false) (hds : Gap o' ds) :
    Gap o' (cs ++ ds) := by
  induction h with
  | nil => exact hds
  | blank hc _ ih => exact .blank hc (ih hclosed)
  | line hplain hline _ ih =>
    rw [List.cons_append, List.cons_append, List.append_assoc, List.cons_append]
    exact .line hplain hline (ih hclosed)
  | block hplain hbody _ ih =>
    rw [List.cons_append, List.cons_append, List.append_assoc]
    exact .block hplain hbody (ih hclosed)
  | remark _ _ => cases hclosed

/-- A gap that is not open ends with a blank or the slash of a comment. -/
theorem getLast (h : Gap o cs) (hclosed : o = false) :
    ∀ c ∈ cs.getLast?, c = '/' ∨ isBlank c = true := by
  have hafter (as : List Char) {bs : List Char} {last : Char}
      (hlast : last = '/' ∨ isBlank last = true)
      (hbs : ∀ c ∈ bs.getLast?, c = '/' ∨ isBlank c = true) :
      ∀ c ∈ (as ++ [last] ++ bs).getLast?, c = '/' ∨ isBlank c = true := by
    intro c hc
    rw [List.getLast?_append, List.getLast?_concat] at hc
    cases hb : bs.getLast? with
    | none =>
      rw [hb] at hc
      obtain rfl : last = c := Option.some.inj hc
      exact hlast
    | some b =>
      rw [hb] at hc
      exact hbs c (hb.trans hc)
  induction h with
  | nil => exact nofun
  | blank hc _ ih => exact hafter [] (.inr hc) (ih hclosed)
  | @line _ remark _ _ _ _ ih =>
    have hfeed : isBlank '\n' = true := by decide
    have hlast := hafter ('/' :: '/' :: remark) (.inr hfeed) (ih hclosed)
    simpa using hlast
  | @block _ body _ _ hbody _ ih =>
    obtain ⟨-, ⟨inner, hinner⟩, -⟩ := Piece.blockRest?_spec hbody
    have hinner : body = inner ++ ['*', '/'] := hinner
    have hlast := hafter ('/' :: '*' :: (inner ++ ['*'])) (.inl rfl) (ih hclosed)
    rw [hinner]
    simpa using hlast
  | remark _ _ => cases hclosed

/-- An open gap is one that is not open, and a line comment. -/
theorem exists_remark (h : Gap o cs) (hopen : o = true) :
    ∃ before remark, cs = before ++ '/' :: '/' :: remark ∧ Gap false before ∧ IsRemark remark ∧
      '\n' ∉ remark := by
  induction h with
  | nil => cases hopen
  | blank hc _ ih =>
    obtain ⟨before, remark, rfl, hbefore, hremark⟩ := ih hopen
    exact ⟨_ :: before, remark, rfl, .blank hc hbefore, hremark⟩
  | line hplain hline _ ih =>
    obtain ⟨before, remark, rfl, hbefore, hremark⟩ := ih hopen
    exact ⟨_, remark, by simp, .line hplain hline hbefore, hremark⟩
  | block hplain hbody _ ih =>
    obtain ⟨before, remark, rfl, hbefore, hremark⟩ := ih hopen
    exact ⟨_, remark, by simp, .block hplain hbody hbefore, hremark⟩
  | remark hplain hline => exact ⟨[], _, rfl, .nil, hplain, hline⟩

/-- An open gap takes in what continues a word. -/
theorem append_open {ds : List Char} (h : Gap o cs) (hopen : o = true)
    (hds : ∀ c ∈ ds, isWordContinue c = true) : Gap true (cs ++ ds) := by
  obtain ⟨before, remark, rfl, hbefore, hplain, hline⟩ := h.exists_remark hopen
  have hfeed : '\n' ∉ ds := by
    intro hmem
    exact ne_of_isWordContinue (hds _ hmem) '\n' (by decide) rfl
  have hhead : ∀ c ∈ ds.head?, c ≠ '!' ∧ c ≠ '/' := by
    intro c hc
    have hc := hds c (List.mem_of_head? hc)
    exact ⟨ne_of_isWordContinue hc '!', ne_of_isWordContinue hc '/'⟩
  have hcomment : Gap true ('/' :: '/' :: (remark ++ ds)) := by
    refine .remark ((isRemark_append_iff hhead).mpr hplain) ?_
    simp [hline, hfeed]
  rw [List.append_assoc, List.cons_append, List.cons_append]
  exact hbefore.append rfl hcomment

/-- A line comment before a gap that starts with the end of its line. -/
theorem line_of_end {shown more : List Char} (hplain : IsRemark shown) (hline : '\n' ∉ shown)
    (h : Gap o cs) (hend : cs = '\n' :: more ∨ cs = '\r' :: '\n' :: more) :
    Gap o ('/' :: '/' :: (shown ++ cs)) := by
  have hfeed : isBlank '\n' = true := by decide
  have hreturn : isBlank '\r' = true := by decide
  rcases hend with rfl | rfl
  · exact .line hplain hline (h.of_blank_cons hfeed)
  · -- The carriage return belongs to the comment.
    have hmore := (h.of_blank_cons hreturn).of_blank_cons hfeed
    have hplain : IsRemark (shown ++ ['\r']) := (isRemark_append_iff (by simp)).mpr hplain
    have hcomment := Gap.line hplain (by simpa using hline) hmore
    rwa [List.append_assoc] at hcomment

end Gap

/-- The blanks at the start of a text are one piece. -/
theorem piece?_blank {c : Char} (hc : isBlank c = true) (cs : List Char) :
    piece? (c :: cs) = some ⟨[], c :: cs.takeWhile isBlank, cs.dropWhile isBlank⟩ := by
  have hslash : c ≠ '/' := by
    rintro rfl
    cases hc
  simp [piece?, Piece.isComment_cons_eq_false hslash, Piece.blanks?, hc]

/-- A piece with lexemes does not start with a blank. -/
theorem isBlank_eq_false_of_piece? {cs : List Char} {p : Piece} (h : piece? cs = some p)
    (hlexemes : p.lexemes ≠ []) : ∀ c ∈ cs.head?, isBlank c = false := by
  intro c hc
  obtain ⟨cs, rfl⟩ := List.head?_eq_some_iff.mp hc
  rw [Bool.eq_false_iff]
  intro hblank
  rw [piece?_blank hblank] at h
  obtain rfl := Option.some.inj h
  exact hlexemes rfl

/-- Blanks at the start of a text make no difference to its lexemes. -/
theorem Scanned.of_dropWhile {ls : List Lexeme} {cs : List Char}
    (h : Scanned ls (cs.dropWhile isBlank)) : Scanned ls cs := by
  cases cs with
  | nil => exact h
  | cons c cs =>
    cases hc : isBlank c with
    | false => simpa [List.dropWhile_cons, hc] using h
    | true =>
      rw [List.dropWhile_cons_of_pos hc] at h
      refine h.step (piece?_blank hc cs) ?_
      have hle := (List.dropWhile_suffix isBlank (l := cs)).length_le
      rw [List.length_cons]
      omega

/-- The empty text has no lexemes. -/
theorem scanned_nil : Scanned [] [] := by
  intro fuel position _
  cases fuel <;> exact ⟨rfl, rfl⟩

/-- A line comment and the end of its line make no difference to the lexemes of what follows. -/
theorem Scanned.of_line {remark cs : List Char} {ls : List Lexeme} (hplain : IsRemark remark)
    (hline : '\n' ∉ remark) (h : Scanned ls (cs.dropWhile isBlank)) :
    Scanned ls ('/' :: '/' :: (remark ++ '\n' :: cs)) := by
  obtain ⟨shown, ending, hshown, hending⟩ := Piece.exists_line_eq hline cs
  have hplain : IsRemark (remark ++ '\n' :: cs) := (isRemark_append_iff (by simp)).mpr hplain
  have hpiece : piece? ('/' :: '/' :: (remark ++ '\n' :: cs)) =
      some ⟨[], '/' :: '/' :: shown, ending ++ '\n' :: cs⟩ := by
    rw [piece?, if_pos (by rfl), Piece.comment?_line hplain, hshown]
  -- What is left starts with the end of the line, which is blank.
  have hleft : Scanned ls (ending ++ '\n' :: cs) := by
    apply Scanned.of_dropWhile
    rw [List.dropWhile_append_of_pos hending, List.dropWhile_cons_of_pos (by decide)]
    exact h
  have hlength := Piece.length_line_le (remark ++ '\n' :: cs)
  rw [hshown] at hlength
  refine hleft.step hpiece ?_
  rw [List.length_cons, List.length_cons]
  exact Nat.lt_of_le_of_lt hlength (by omega)

/-- Nor does a block comment. -/
theorem Scanned.of_block {body cs : List Char} {ls : List Lexeme} (hplain : IsAside body)
    (hbody : Piece.blockRest? 0 body = some (body, [])) (h : Scanned ls cs) :
    Scanned ls ('/' :: '*' :: (body ++ cs)) := by
  have hpiece : piece? ('/' :: '*' :: (body ++ cs)) = some ⟨[], '/' :: '*' :: body, cs⟩ := by
    rw [piece?, if_pos (by rfl), Piece.comment?_block hplain hbody]
  refine h.step hpiece ?_
  rw [List.length_cons, List.length_cons, List.length_append]
  omega

/-- A line comment at the end of a text has no lexemes. -/
theorem scanned_remark {remark : List Char} (hplain : IsRemark remark) (hline : '\n' ∉ remark) :
    Scanned [] ('/' :: '/' :: remark) := by
  have hpiece : piece? ('/' :: '/' :: remark) = some ⟨[], '/' :: '/' :: remark, []⟩ := by
    rw [piece?, if_pos (by rfl), Piece.comment?_line hplain, Piece.line_of_notMem hline]
  exact scanned_nil.step hpiece (Nat.succ_pos _)

/-- A gap before a text makes no difference to its lexemes. After an open gap there is no text. -/
theorem Gap.scanned {o : Bool} {before rest : List Char} {ls : List Lexeme} (h : Gap o before)
    (hopen : o = true → rest = []) (hrest : Scanned ls rest)
    (hblank : ∀ c ∈ rest.head?, isBlank c = false) : Scanned ls (before ++ rest) := by
  have hdrop : rest.dropWhile isBlank = rest := by
    cases rest with
    | nil => rfl
    | cons c rest => rw [List.dropWhile_cons_of_neg]; simp [hblank c rfl]
  -- By induction on the gap, over the text without the blanks at its start: these are one piece.
  apply Scanned.of_dropWhile
  induction h with
  | nil =>
    rw [List.nil_append, hdrop]
    exact hrest
  | blank hc _ ih =>
    rw [List.cons_append, List.dropWhile_cons_of_pos hc]
    exact ih hopen
  | line hplain hline _ ih =>
    rw [List.cons_append, List.cons_append, List.append_assoc, List.cons_append,
      List.dropWhile_cons_of_neg (by decide)]
    exact (ih hopen).of_line hplain hline
  | block hplain hbody _ ih =>
    rw [List.cons_append, List.cons_append, List.append_assoc,
      List.dropWhile_cons_of_neg (by decide)]
    exact (Scanned.of_dropWhile (ih hopen)).of_block hplain hbody
  | remark hplain hline =>
    obtain rfl := hopen rfl
    obtain ⟨rfl, -⟩ := hrest 0 .start (Nat.le_refl _)
    rw [List.append_nil, List.dropWhile_cons_of_neg (by decide)]
    exact scanned_remark hplain hline

/-- A blank at the start of a text does not stand in the part that starts with none. -/
theorem exists_cons_of_isBlank {b : Char} {before rest more : List Char} (hb : isBlank b = true)
    (hblank : ∀ c ∈ rest.head?, isBlank c = false) (h : before ++ rest = b :: more) :
    ∃ tail, before = b :: tail ∧ tail ++ rest = more := by
  cases before with
  | nil =>
    rw [List.nil_append] at h
    rw [h] at hblank
    simp [hblank b rfl] at hb
  | cons c before =>
    obtain ⟨rfl, htail⟩ := List.cons.inj h
    exact ⟨before, rfl, htail⟩

/-- A gap at the start of a text goes on with a line comment before it. -/
theorem Gap.of_line {o : Bool} {text before rest : List Char} (h : Gap o before)
    (hopen : o = true → rest = []) (hblank : ∀ c ∈ rest.head?, isBlank c = false)
    (hplain : IsRemark text) (hsplit : (Piece.line text).2 = before ++ rest) :
    ∃ o' before', '/' :: '/' :: text = before' ++ rest ∧ Gap o' before' ∧
      (o' = true → rest = []) := by
  obtain ⟨htext, hline, hend⟩ := Piece.line_spec text
  have hshown : IsRemark (Piece.line text).1 := by
    rw [htext] at hplain
    refine (isRemark_append_iff ?_).mp hplain
    rcases hend with hend | ⟨more, hend | hend⟩ <;> rw [hend] <;> simp
  rw [hsplit] at htext hend
  rcases hend with hend | ⟨more, hend⟩
  · -- The comment is the end of the text.
    obtain ⟨rfl, rfl⟩ := List.append_eq_nil_iff.mp hend
    refine ⟨true, '/' :: '/' :: (Piece.line text).1, ?_, .remark hshown hline, fun _ => rfl⟩
    simpa using htext
  · -- The end of the line is blank, so that the gap starts with it.
    have hbefore : ∃ more, before = '\n' :: more ∨ before = '\r' :: '\n' :: more := by
      rcases hend with hend | hend
      · obtain ⟨tail, rfl, -⟩ := exists_cons_of_isBlank (by decide) hblank hend
        exact ⟨tail, .inl rfl⟩
      · obtain ⟨tail, rfl, htail⟩ := exists_cons_of_isBlank (by decide) hblank hend
        obtain ⟨tail, rfl, -⟩ := exists_cons_of_isBlank (by decide) hblank htail
        exact ⟨tail, .inr rfl⟩
    obtain ⟨more, hbefore⟩ := hbefore
    refine ⟨o, _, ?_, Gap.line_of_end hshown hline h hbefore, hopen⟩
    simpa using htext

/-- A gap at the start of a text goes on with the piece before it, if that piece has no lexemes. -/
theorem Gap.of_piece? {o : Bool} {cs before rest : List Char} {p : Piece} (h : Gap o before)
    (hopen : o = true → rest = []) (hblank : ∀ c ∈ rest.head?, isBlank c = false)
    (hpiece : piece? cs = some p) (hnil : p.lexemes = []) (hsplit : p.rest = before ++ rest) :
    ∃ o' before', cs = before' ++ rest ∧ Gap o' before' ∧ (o' = true → rest = []) := by
  rcases Piece.comment?_or_blanks? hpiece hnil with hcomment | hblanks
  · rcases Piece.plain_of_comment? hcomment hnil with
      ⟨text, rfl, hplain, hrest⟩ | ⟨body, rfl, hplain, hbody⟩
    · exact h.of_line hopen hblank hplain (hrest ▸ hsplit)
    · refine ⟨o, _, ?_, .block hplain hbody h, hopen⟩
      rw [hsplit, List.cons_append, List.cons_append, List.append_assoc]
  · unfold Piece.blanks? at hblanks
    split at hblanks
    · obtain rfl := Option.some.inj hblanks
      have hsplit : cs.dropWhile isBlank = before ++ rest := hsplit
      refine ⟨o, cs.takeWhile isBlank ++ before, ?_, .blanks ?_ h, hopen⟩
      · rw [List.append_assoc, ← hsplit, List.takeWhile_append_dropWhile]
      · exact List.all_eq_true.mp List.all_takeWhile
    · cases hblanks

/-- A text that is scanned to its end starts with a gap. After the gap the text ends, or has a piece
with lexemes. -/
theorem exists_gap_of_scan {fuel : Nat} {position : Position} {cs : List Char}
    (hstop : (scan fuel position cs).2 = none) :
    ∃ o before rest, cs = before ++ rest ∧ Gap o before ∧ (o = true → rest = []) ∧
      (∀ c ∈ rest.head?, isBlank c = false) ∧
      ((scan fuel position cs).1.map Prod.fst = [] ∧ rest = [] ∨
        ∃ p fuel' position', piece? rest = some p ∧ p.lexemes ≠ [] ∧
          (scan fuel position cs).1.map Prod.fst =
            p.lexemes ++ (scan fuel' position' p.rest).1.map Prod.fst ∧
          (scan fuel' position' p.rest).2 = none) := by
  -- By induction on the length of the text: a piece without lexemes takes a character.
  generalize hlength : cs.length = length
  induction length using Nat.strongRecOn generalizing fuel position cs with
  | ind length ih =>
    cases cs with
    | nil =>
      have hscan : scan fuel position [] = ([], none) := by cases fuel <;> rfl
      exact ⟨false, [], [], rfl, .nil, nofun, nofun, .inl ⟨by rw [hscan]; rfl, rfl⟩⟩
    | cons c cs =>
      obtain ⟨p, fuel', hpiece, hmap, hstop'⟩ := exists_piece_of_scan hstop
      by_cases hnil : p.lexemes = []
      · have hshorter := (Piece.blank_of_lexemes_eq_nil hpiece hnil).2
        obtain ⟨o, before, rest, hsplit, hgap, hopen, hblank, hend⟩ :=
          ih p.rest.length (hlength ▸ hshorter) hstop' rfl
        obtain ⟨o', before', hsplit', hgap', hopen'⟩ :=
          hgap.of_piece? hopen hblank hpiece hnil hsplit
        rw [hnil, List.nil_append] at hmap
        rw [← hmap] at hend
        exact ⟨o', before', rest, hsplit', hgap', hopen', hblank, hend⟩
      · exact ⟨false, [], c :: cs, rfl, .nil, nofun, isBlank_eq_false_of_piece? hpiece hnil,
          .inr ⟨p, fuel', _, hpiece, hnil, hmap, hstop'⟩⟩

/-- A text that is scanned without lexemes is a gap. -/
theorem exists_gap_of_scan_nil {fuel : Nat} {position : Position} {cs : List Char}
    (hstop : (scan fuel position cs).2 = none)
    (hlexemes : (scan fuel position cs).1.map Prod.fst = []) : ∃ o, Gap o cs := by
  obtain ⟨o, before, rest, rfl, hgap, -, -, ⟨-, rfl⟩ | ⟨p, _, _, -, hp, hmap, -⟩⟩ :=
    exists_gap_of_scan hstop
  · rw [List.append_nil]
    exact ⟨o, hgap⟩
  · rw [hlexemes] at hmap
    exact absurd (List.append_eq_nil_iff.mp hmap.symm).1 hp

/-! ### One identifier -/

/-- The characters of a text after the mark of the byte order, if it starts with one. -/
def unmarked (text : String) : List Char :=
  match text.toList with
  | c :: cs => if c = byteOrderMark then cs else c :: cs
  | [] => []

/-- A text without the mark of the byte order is all there. -/
theorem unmarked_eq_toList {text : String} (h : ∀ c ∈ text.toList.head?, c ≠ byteOrderMark) :
    unmarked text = text.toList := by
  unfold unmarked
  cases htext : text.toList with
  | nil => rfl
  | cons c cs =>
    have hc : c ≠ byteOrderMark := h c (by rw [htext]; rfl)
    simp only [hc, if_false]

/-- The tokens of a text are those of what it holds after the mark of the byte order. -/
theorem exists_lex_eq (text : String) :
    ∃ position, lex text =
      assemble (scan (unmarked text).length position (unmarked text)).2 [] []
        (scan (unmarked text).length position (unmarked text)).1 := by
  unfold lex unmarked
  cases text.toList with
  | nil => exact ⟨.start, rfl⟩
  | cons c cs =>
    by_cases hc : c = byteOrderMark
    · simp only [hc, if_true]
      exact ⟨_, rfl⟩
    · simp only [hc, if_false]
      exact ⟨_, rfl⟩

/-- A text is one identifier just if it is scanned as that. -/
theorem isOneIdent_iff_scanned {text : String} {ls : List Lexeme} (h : Scanned ls (unmarked text))
    {i : Ident} : IsOneIdent text i ↔ ls = [.ident i] := by
  obtain ⟨position, hlex⟩ := exists_lex_eq text
  obtain ⟨hlexemes, hstop⟩ := h _ position (Nat.le_refl _)
  constructor
  · rintro ⟨span, hone⟩
    rw [hlex] at hone
    have hall := (lexemesAll_of_assemble hone).2
    rw [hlexemes] at hall
    exact hall.symm
  · rintro rfl
    obtain ⟨⟨_, span⟩, hlocated, rfl⟩ := List.map_eq_singleton_iff.mp hlexemes
    refine ⟨span, ?_⟩
    rw [hlex, hstop, hlocated]
    rfl

/-- The word at the start of a text is cut off. -/
theorem append_of_word? {cs word rest : List Char} (h : word? cs = some (word, rest)) :
    word ++ rest = cs := by
  unfold word? at h
  split at h
  · cases h
  · split at h
    · obtain ⟨rfl, rfl⟩ := Prod.mk.inj (Option.some.inj h)
      rw [List.cons_append, List.takeWhile_append_dropWhile]
    · cases h

/-- An identifier is written with its mark and its name. -/
theorem toList_text_of_ofName? {raw : Bool} {word : List Char} {i : Ident}
    (h : Ident.ofName? raw (.ofList word) = some i) :
    i.text.toList = if raw then rawMark ++ word else word := by
  unfold Ident.ofName? at h
  split at h
  · obtain rfl := Option.some.inj h
    cases raw <;> simp [Ident.text, rawMark]
  · cases h

/-- The identifier at the start of a text is cut off. -/
theorem append_of_rawOrPlain? {cs taken rest : List Char} {i : Ident}
    (h : Piece.rawOrPlain? cs = some (i, taken, rest)) : i.text.toList ++ rest = cs := by
  unfold Piece.rawOrPlain? at h
  split at h
  all_goals
    obtain ⟨⟨word, rest'⟩, hword, h⟩ := Option.bind_eq_some_iff.mp h
    obtain ⟨j, hname, h⟩ := Option.bind_eq_some_iff.mp h
    obtain ⟨rfl, -, rfl⟩ : j = i ∧ _ = taken ∧ rest' = rest := by simpa using h
    rw [toList_text_of_ofName? hname]
  · rw [if_pos rfl, List.append_assoc, append_of_word? hword]
    rfl
  · exact append_of_word? hword

/-- The identifier `i` between two gaps, the second of which may be open. -/
def Ident.StandsIn (i : Ident) (o : Bool) (text : String) : Prop :=
  ∃ before after,
    unmarked text = before ++ (i.text.toList ++ after) ∧ Gap false before ∧ Gap o after

/-- A gap ends a word before it. -/
theorem Gap.endsWord {o : Bool} {cs : List Char} (h : Gap o cs) : EndsWord cs := by
  intro c hc
  rcases h.head c hc with rfl | hblank
  · decide
  · refine ⟨isWordContinue_of_isBlank hblank, ?_, ?_, ?_⟩ <;> rintro rfl <;> cases hblank

/-- An identifier is not empty. -/
theorem Ident.length_text_pos (i : Ident) : 0 < i.text.toList.length := by
  obtain ⟨c, cs, htext, -⟩ := head_ident i endsWord_nil
  rw [List.append_nil] at htext
  rw [htext]
  exact Nat.succ_pos _

/-- An identifier after a gap. -/
theorem Gap.scanned_ident {before rest : List Char} {i : Ident} {ls : List Lexeme}
    (h : Gap false before) (hword : EndsWord rest) (hrest : Scanned ls rest) :
    Scanned (.ident i :: ls) (before ++ (i.text.toList ++ rest)) := by
  obtain ⟨c, cs, htext, hstart, -⟩ := head_ident i hword
  have hscanned : Scanned (.ident i :: ls) (i.text.toList ++ rest) := by
    refine hrest.step (piece?_ident i hword) ?_
    have hpos := i.length_text_pos
    rw [List.length_append]
    omega
  refine h.scanned nofun hscanned ?_
  rw [htext]
  rintro d ⟨⟩
  rw [Bool.eq_false_iff]
  intro hblank
  rw [isWordStart_of_isBlank hblank] at hstart
  cases hstart

/-- An identifier between gaps is what is scanned. -/
theorem Ident.StandsIn.scanned {i : Ident} {o : Bool} {text : String} (h : i.StandsIn o text) :
    Scanned [.ident i] (unmarked text) := by
  obtain ⟨before, after, hsplit, hbefore, hafter⟩ := h
  have hgap : Scanned [] after := by
    simpa using hafter.scanned (fun _ => rfl) scanned_nil nofun
  rw [hsplit]
  exact hbefore.scanned_ident hafter.endsWord hgap

/-- A text is one identifier just if the identifier stands in it between two gaps. -/
theorem isOneIdent_iff {text : String} {i : Ident} :
    IsOneIdent text i ↔ ∃ o, i.StandsIn o text := by
  constructor
  · rintro ⟨span, hone⟩
    obtain ⟨position, hlex⟩ := exists_lex_eq text
    rw [hlex] at hone
    obtain ⟨hstop, hlexemes⟩ := lexemesAll_of_assemble hone
    obtain ⟨o, before, rest, hsplit, hbefore, hopen, -, hend⟩ := exists_gap_of_scan hstop
    rcases hend with ⟨hnil, -⟩ | ⟨p, fuel, place, hpiece, hp, hmap, hstop'⟩
    · rw [hnil] at hlexemes
      cases hlexemes
    -- The piece after the gap is the identifier, and nothing but a gap is left.
    rw [hmap] at hlexemes
    have hlexemes : p.lexemes ++ (scan fuel place p.rest).1.map Prod.fst = [.ident i] :=
      hlexemes.symm
    obtain ⟨hident, hrest⟩ : p.lexemes = [.ident i] ∧
        (scan fuel place p.rest).1.map Prod.fst = [] := by
      rcases List.append_eq_cons_iff.mp hlexemes with ⟨hnil, -⟩ | ⟨more, hident, hmore⟩
      · exact absurd hnil hp
      · obtain ⟨rfl, hrest⟩ := List.append_eq_nil_iff.mp hmore.symm
        exact ⟨hident, hrest⟩
    obtain ⟨j, taken, after, hread, rfl⟩ :=
      Piece.lexemes_ident? (Piece.ident?_of_lexemes_eq hpiece hident)
    obtain rfl : j = i := by simpa using hident
    have hrest' : j.text.toList ++ after = rest := append_of_rawOrPlain? hread
    obtain ⟨o', hafter⟩ := exists_gap_of_scan_nil hstop' hrest
    have hclosed : o = false := by
      cases o with
      | false => rfl
      | true =>
        rw [hopen rfl] at hpiece
        cases hpiece
    subst hclosed
    exact ⟨o', before, after, by rw [hsplit, hrest'], hbefore, hafter⟩
  · rintro ⟨o, h⟩
    exact (isOneIdent_iff_scanned h.scanned).mpr rfl

/-- The text is that identifier. -/
theorem Ident.StandsIn.isOneIdent {i : Ident} {o : Bool} {text : String} (h : i.StandsIn o text) :
    IsOneIdent text i := isOneIdent_iff.mpr ⟨o, h⟩

/-- An identifier stands in its written form. -/
theorem Ident.standsIn_text (i : Ident) : i.StandsIn false i.text := by
  refine ⟨[], [], ?_, .nil, .nil⟩
  rw [unmarked_eq_toList (head_ident_ne i), List.append_nil, List.nil_append]

/-- The identifier that a text consists of. -/
theorem IsOneIdent.unique {text : String} {i j : Ident} (hi : IsOneIdent text i)
    (hj : IsOneIdent text j) : i = j := by
  obtain ⟨span, hi⟩ := hi
  obtain ⟨span', hj⟩ := hj
  rw [hi] at hj
  have heq : i = j ∧ span = span' := by simpa using hj
  exact heq.1

/-- The words that cannot be raw are plain identifiers. -/
theorem exists_standsIn_of_mem_unrawable {w : String} (h : w ∈ unrawable) :
    ∃ i : Ident, i.name = w ∧ i.StandsIn false w := by
  have hall : ∀ w ∈ unrawable, isWord w.toList = true := by decide
  exact ⟨.plain w (hall w h), rfl, Ident.standsIn_text (.plain w (hall w h))⟩

end EnumCases
