import EnumCases.Proofs.Lexing

/-!
# Printed tokens are lexed back

Main statement: tokens with legible lexemes are the tokens of their own printed text (`lex_print`).
The text is cut into the lexemes of the tokens, piece by piece (`scanned_textAll`), and the lexemes
are put together to the tokens again, group by group (`assemble_all`). Places are all that is added.
-/

namespace EnumCases

open Text

/-- No mark is blank or the mark of the byte order. -/
theorem isBlank_of_mem_marks {c : Char} (h : c ∈ Piece.marks) :
    isBlank c = false ∧ c ≠ byteOrderMark := by
  have hall : Piece.marks.all (fun c => isBlank c = false ∧ c ≠ byteOrderMark) = true := by
    decide +kernel
  exact decide_eq_true_eq.mp (List.all_eq_true.mp hall c h)

/-- The text of a legible lexeme starts with a character that neither is blank nor starts a comment
nor is the mark of the byte order. -/
theorem Legible.head {a : Lexeme} {ls : List Lexeme} (h : Legible (a :: ls)) :
    ∃ c cs, a.text = c :: cs ∧ isBlank c = false ∧ c ≠ '/' ∧ c ≠ byteOrderMark := by
  cases h with
  | ident i _ =>
    obtain ⟨c, cs, htext, hc, -⟩ := head_ident i endsWord_nil
    rw [List.append_nil] at htext
    refine ⟨c, cs, htext, ?_, ne_of_isWordStart hc _, head_ident_ne i c (by simp [htext])⟩
    cases hb : isBlank c
    · rfl
    · simp [isWordStart_of_isBlank hb] at hc
  | mark hc _ => exact ⟨_, [], rfl, (isBlank_of_mem_marks hc.1).1, hc.2.1, (isBlank_of_mem_marks hc.1).2⟩
  | joint hc _ _ => exact ⟨_, [], rfl, (isBlank_of_mem_marks hc.1).1, hc.2.1, (isBlank_of_mem_marks hc.1).2⟩
  | lifetime i _ => exact ⟨'\x27', [], rfl, by decide, by decide, by decide⟩
  | literal hl _ =>
    cases hl with
    | ofString s =>
      refine ⟨'\x22', Quoted.encode s.toList ++ ['\x22'], ?_, by decide, by decide, by decide⟩
      simp [Lexeme.text, Literal.text, Literal.ofString, Quoted.quote]
    | verbatim s _ =>
      refine ⟨'r', '\x22' :: (s.toList ++ ['\x22']), ?_, by decide, by decide, by decide⟩
      simp [Lexeme.text, Literal.text, Literal.verbatim]
  | opening d _ => cases d <;> exact ⟨_, [], rfl, by decide, by decide, by decide⟩
  | closing d _ => cases d <;> exact ⟨_, [], rfl, by decide, by decide, by decide⟩

/-- What follows a legible lexeme is legible. -/
theorem Legible.tail {a : Lexeme} {ls : List Lexeme} (h : Legible (a :: ls)) : Legible ls := by
  cases h with
  | ident _ h => exact h
  | mark _ h => exact h
  | joint _ _ h => exact h
  | lifetime i h => exact .ident i h
  | literal _ h => exact h
  | opening _ h => exact h
  | closing _ h => exact h

/-- The text of legible lexemes does not start with a blank, a comment or the mark of the byte
order. -/
theorem Legible.head_textAll {ls : List Lexeme} (h : Legible ls) :
    ∀ c ∈ (Lexeme.textAll ls).head?, isBlank c = false ∧ c ≠ '/' ∧ c ≠ byteOrderMark := by
  intro c hc
  cases ls with
  | nil => simp [Lexeme.textAll] at hc
  | cons a ls =>
    obtain ⟨d, ds, htext, hd⟩ := h.head
    rw [Lexeme.textAll_cons, htext] at hc
    obtain rfl : d = c := Option.mem_some_iff.mp hc
    exact hd

/-- The first lexeme is cut off the text of legible lexemes. -/
theorem piece?_textAll {a : Lexeme} {ls : List Lexeme} (h : Legible (a :: ls)) :
    piece? (Lexeme.textAll (a :: ls)) = some ⟨[a], a.text, a.after ls⟩ := by
  have htail := h.tail
  rw [Lexeme.textAll_cons]
  cases h with
  | ident i _ => exact piece?_ident i (stops_after (by simp) (by simp) ls).endsWord
  | @mark c hc _ _ =>
    have hstop : Piece.isMark (Lexeme.after (.punct c .alone) ls) = false :=
      (stops_after (by simp) (by simp) ls).isMark_eq_false
    have hpiece := piece?_mark hc (Lexeme.after (.punct c .alone) ls)
    rw [hstop] at hpiece
    exact hpiece
  | @joint c d s hc hd ls _ =>
    -- No space comes between, so the next character is a mark.
    have hafter : Lexeme.after (.punct c .joint) (.punct d s :: ls) =
        d :: Lexeme.after (.punct d s) ls := by
      rw [Lexeme.after, Lexeme.textAll_cons]
      rfl
    have hmark : Piece.isMark (d :: Lexeme.after (.punct d s) ls) = true := by
      simp [Piece.isMark, Piece.isComment_cons_eq_false hd.2.1, hd.1]
    have hpiece := piece?_mark hc (d :: Lexeme.after (.punct d s) ls)
    rw [hmark] at hpiece
    rw [hafter]
    exact hpiece
  | @lifetime i ls _ =>
    have hafter : Lexeme.after (.punct '\x27' .joint) (.ident i :: ls) =
        i.text.toList ++ Lexeme.after (.ident i) ls := by
      rw [Lexeme.after, Lexeme.textAll_cons]
      rfl
    rw [hafter]
    exact piece?_apostrophe i (stops_after (by simp) (by simp) ls).endsWord
  | literal hl _ => exact piece?_literal hl (stops_after (by simp) (by simp) ls)
  | opening d _ =>
    -- A slash after the parenthesis could be the text of a missing literal.
    have hslash : (Lexeme.after (.opening d) ls).head? ≠ some '/' := by
      intro hslash
      cases ls with
      | nil => simp [Lexeme.after] at hslash
      | cons b rest =>
        rw [Lexeme.after] at hslash
        split at hslash
        · simp at hslash
        · exact (htail.head_textAll '/' hslash).2.1 rfl
    exact piece?_opening d hslash
  | closing d _ => exact piece?_closing d _

/-- A text is cut into exactly the given lexemes, wherever it stands. -/
def Scanned (ls : List Lexeme) (cs : List Char) : Prop :=
  ∀ fuel position, cs.length ≤ fuel →
    (scan fuel position cs).1.map Prod.fst = ls ∧ (scan fuel position cs).2 = none

/-- A scan goes on after the first piece. -/
theorem scan_of_piece? {c : Char} {cs : List Char} {p : Piece} (h : piece? (c :: cs) = some p)
    (fuel : Nat) (position : Position) :
    scan (fuel + 1) position (c :: cs) =
      (p.lexemes.map (·, ⟨position, position.advance p.taken⟩) ++
        (scan fuel (position.advance p.taken) p.rest).1,
        (scan fuel (position.advance p.taken) p.rest).2) := by
  rw [scan, h]
  exact List.cons_ne_nil c cs

/-- The lexemes of a piece come before those of the rest. -/
theorem Scanned.step {as ls : List Lexeme} {cs taken rest : List Char}
    (hpiece : piece? cs = some ⟨as, taken, rest⟩) (hlength : rest.length < cs.length)
    (h : Scanned ls rest) : Scanned (as ++ ls) cs := by
  intro fuel position hfuel
  obtain ⟨c, cs, rfl⟩ := List.exists_cons_of_length_pos (by omega : 0 < cs.length)
  obtain ⟨fuel, rfl⟩ : ∃ n, fuel = n + 1 := ⟨fuel - 1, by simp at hfuel; omega⟩
  obtain ⟨hlexemes, hstop⟩ := h fuel (position.advance taken) (by omega)
  -- Without their places, the lexemes of the piece are as they were.
  rw [scan_of_piece? hpiece]
  refine ⟨?_, hstop⟩
  rw [List.map_append, hlexemes, List.map_map]
  exact congrArg (· ++ ls) (List.map_id as)

/-- The text of legible lexemes is cut into these lexemes. -/
theorem scanned_textAll {ls : List Lexeme} (h : Legible ls) : Scanned ls (Lexeme.textAll ls) := by
  induction ls with
  | nil =>
    intro fuel position _
    cases fuel <;> exact ⟨rfl, rfl⟩
  | cons a ls ih =>
    have hrest := ih h.tail
    -- The space before the next lexeme, if there is one, is a piece without lexemes.
    have hafter : Scanned ls (a.after ls) := by
      cases ls with
      | nil => exact hrest
      | cons b rest =>
        rw [Lexeme.after]
        split
        · have hspace := piece?_space fun c hc => (h.tail.head_textAll c hc).1
          exact hrest.step hspace (Nat.lt_succ_self _)
        · exact hrest
    obtain ⟨c, cs, htext, -⟩ := h.head
    have hlength : (a.after ls).length < (Lexeme.textAll (a :: ls)).length := by
      rw [Lexeme.textAll_cons, htext, List.length_append, List.length_cons]
      omega
    exact hafter.step (piece?_textAll h) hlength

/-- The lexemes of tokens after other tokens come after theirs. -/
theorem Token.lexemesAll_append (as bs : List (Token α)) :
    lexemesAll (as ++ bs) = lexemesAll as ++ lexemesAll bs := by
  induction as with
  | nil => rfl
  | cons t as ih => rw [List.cons_append, lexemesAll, lexemesAll, ih, List.append_assoc]

mutual

/-- The lexemes of a token are put together to this token, whatever comes before and after it. -/
theorem assemble_token (stop : Option Position) : ∀ (t : Token Unit) (located : List Located),
    located.map Prod.fst = t.lexemes → ∃ t' : Token Span, t'.map (fun _ => ()) = t ∧
      ∀ groups done more, assemble stop groups done (located ++ more) =
        assemble stop groups (t' :: done) more
  | .ident i _, located, h => by
    obtain ⟨⟨_, span⟩, _, rfl, rfl, hnil⟩ := List.map_eq_cons_iff.mp h
    obtain rfl := List.map_eq_nil_iff.mp hnil
    exact ⟨.ident i span, rfl, fun _ _ _ => rfl⟩
  | .punct mark spacing _, located, h => by
    obtain ⟨⟨_, span⟩, _, rfl, rfl, hnil⟩ := List.map_eq_cons_iff.mp h
    obtain rfl := List.map_eq_nil_iff.mp hnil
    exact ⟨.punct mark spacing span, rfl, fun _ _ _ => rfl⟩
  | .literal l _, located, h => by
    obtain ⟨⟨_, span⟩, _, rfl, rfl, hnil⟩ := List.map_eq_cons_iff.mp h
    obtain rfl := List.map_eq_nil_iff.mp hnil
    exact ⟨.literal l span, rfl, fun _ _ _ => rfl⟩
  | .group d body _, located, h => by
    obtain ⟨⟨_, start⟩, _, rfl, rfl, hrest⟩ := List.map_eq_cons_iff.mp h
    obtain ⟨inner, last, rfl, hinner, hlast⟩ := List.map_eq_append_iff.mp hrest
    obtain ⟨⟨_, finish⟩, _, rfl, rfl, hnil⟩ := List.map_eq_cons_iff.mp hlast
    obtain rfl := List.map_eq_nil_iff.mp hnil
    obtain ⟨body', hbody, hassemble⟩ := assemble_all stop body inner hinner
    refine ⟨.group d body' (start.through finish), ?_, fun groups done more => ?_⟩
    · rw [Token.map, ← hbody, Token.erase]
    · -- The group is opened, its body assembled inside it, and the group closed.
      rw [List.cons_append, List.append_assoc, assemble, hassemble, List.append_nil,
        List.singleton_append, assemble, if_pos rfl, List.reverse_reverse]

/-- The lexemes of tokens are put together to these tokens, whatever comes before and after. -/
theorem assemble_all (stop : Option Position) : ∀ (ts : List (Token Unit)) (located : List Located),
    located.map Prod.fst = Token.lexemesAll ts → ∃ ts' : List (Token Span), Token.erase ts' = ts ∧
      ∀ groups done more, assemble stop groups done (located ++ more) =
        assemble stop groups (ts'.reverse ++ done) more
  | [], located, h => by
    obtain rfl := List.map_eq_nil_iff.mp h
    exact ⟨[], rfl, fun _ _ _ => rfl⟩
  | t :: ts, located, h => by
    obtain ⟨first, rest, rfl, hfirst, hrest⟩ := List.map_eq_append_iff.mp h
    obtain ⟨t', ht, htoken⟩ := assemble_token stop t first hfirst
    obtain ⟨ts', hts, hall⟩ := assemble_all stop ts rest hrest
    refine ⟨t' :: ts', ?_, fun groups done more => ?_⟩
    · rw [Token.erase, Token.mapAll, ht, ← hts, Token.erase]
    · rw [List.append_assoc, htoken, hall, List.reverse_cons, List.append_assoc,
        List.singleton_append]

end

/-- All of a text is scanned if it does not start with the mark of the byte order. -/
theorem lex_eq_assemble {text : String} {cs : List Char} (htext : text.toList = cs)
    (hhead : ∀ c ∈ cs.head?, c ≠ byteOrderMark) :
    lex text = assemble (scan cs.length .start cs).2 [] [] (scan cs.length .start cs).1 := by
  subst htext
  unfold lex
  cases h : text.toList with
  | nil => rfl
  | cons c cs =>
    have hc : c ≠ byteOrderMark := hhead c (by rw [h]; rfl)
    simp only [hc, if_false]

/-- Tokens with legible lexemes are the tokens of the text they are printed as. -/
theorem lex_print {ts : List (Token Unit)} (h : Legible (Token.lexemesAll ts)) :
    (lex (Token.print ts)).map Token.erase = .ok ts := by
  have hlex : lex (Token.print ts) = _ :=
    lex_eq_assemble String.toList_ofList fun c hc => (h.head_textAll c hc).2.2
  obtain ⟨hlexemes, hstop⟩ := scanned_textAll h _ .start (Nat.le_refl _)
  -- No group is open at the end, and nothing was in the way of the scan.
  obtain ⟨ts', herase, hassemble⟩ := assemble_all none ts _ hlexemes
  have hdone := hassemble [] [] []
  rw [List.append_nil, List.append_nil] at hdone
  rw [hlex, hstop, hdone, assemble, List.reverse_reverse, ← herase]
  rfl

end EnumCases
