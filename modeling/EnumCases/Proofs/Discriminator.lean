import EnumCases.Proofs.Gaps

/-!
# When a discriminator is called like its host

A discriminator is named after its host: the host's bare name is followed by `Case`, and the name
that this makes is escaped like the host's own. The two names may go through different rules, but
they end up as the same identifier in one case only. That is a host whose bare name is an identifier
and then an open line comment (`TrailsOff`): the comment takes in what is appended.

An identifier with a closed gap after it, or none, is told apart from the discriminator by the
length of its name. So is a mangled one from any name that is mangled too. If only the host is
mangled, the underscores tell them apart: each character that is lost before the discriminator's
name leaves one in the host's (`Ident.mangle_ne_append`).

Main statement: `Ident.same_discriminator_iff`.
-/

namespace EnumCases

open Text

/-- A text that is an identifier and then an open line comment. -/
def TrailsOff (text : String) : Prop := ∃ i : Ident, i.StandsIn true text

/-! ### Gaps and what is appended -/

namespace Gap

variable {o : Bool} {cs ds suffix : List Char}

/-- No character that continues a word is the last one of a closed gap. -/
theorem getLast_ne {before : List Char} {c : Char} (h : Gap false before)
    (hlast : before.getLast? = some c) : isWordContinue c = false := by
  rcases h.getLast rfl c hlast with rfl | hblank
  · decide
  · exact isWordContinue_of_isBlank hblank

/-- A text that goes on as a word after a gap does so after the whole of the gap. -/
theorem exists_append {before : List Char} (h : Gap false before)
    (hs : ∀ c ∈ suffix, isWordContinue c = true) (heq : cs ++ suffix = before ++ ds) :
    ∃ mid, cs = before ++ mid ∧ ds = mid ++ suffix := by
  rcases List.append_eq_append_iff.mp heq with ⟨more, hbefore, hsuffix⟩ | ⟨mid, hcs, hds⟩
  · -- The gap would end inside of the word.
    cases hlast : more.getLast? with
    | none =>
      rw [List.getLast?_eq_none_iff.mp hlast] at hbefore hsuffix
      exact ⟨[], by rw [hbefore, List.append_nil, List.append_nil], hsuffix.symm⟩
    | some c =>
      have hc := h.getLast_ne (c := c) (by rw [hbefore, List.getLast?_append, hlast]; rfl)
      have hmem : c ∈ suffix := by
        rw [hsuffix]
        exact List.mem_append_left _ (List.mem_of_getLast? hlast)
      rw [hs c hmem] at hc
      cases hc
  · exact ⟨mid, hcs, hds⟩

/-- A gap at the end of a text that ends with a word is empty, or it starts before the word. -/
theorem eq_nil_or_exists_append {after : List Char} (h : Gap o after)
    (hs : ∀ c ∈ suffix, isWordContinue c = true) (hne : suffix ≠ [])
    (heq : cs ++ suffix = ds ++ after) : after = [] ∨ ∃ rest, rest ≠ [] ∧ cs = ds ++ rest := by
  cases o with
  | false =>
    -- The last character is one of the word, and so none of a gap that is closed.
    cases hlast : after.getLast? with
    | none => exact .inl (List.getLast?_eq_none_iff.mp hlast)
    | some c =>
      have hend := congrArg List.getLast? heq
      rw [List.getLast?_append, List.getLast?_append, hlast,
        List.getLast?_eq_some_getLast hne] at hend
      have hc := hs (suffix.getLast hne) (List.getLast_mem hne)
      rw [Option.some.inj hend, h.getLast_ne hlast] at hc
      cases hc
  | true =>
    obtain ⟨before, remark, rfl, -⟩ := h.exists_remark rfl
    have heq : cs ++ suffix = (ds ++ (before ++ ['/'])) ++ '/' :: remark := by simpa using heq
    rcases List.append_eq_append_iff.mp heq with ⟨more, -, hsuffix⟩ | ⟨rest, hcs, -⟩
    · -- The word has no slash.
      have hmem : '/' ∈ suffix := by simp [hsuffix]
      exact absurd rfl (ne_of_isWordContinue (hs _ hmem) '/')
    · refine .inr ⟨before ++ ['/'] ++ rest, by simp, ?_⟩
      rw [hcs, List.append_assoc]

end Gap

/-! ### Texts with something appended -/

/-- A text has no mark of a raw identifier, or it is lost. -/
theorem stripRaw_cases (s : String) : stripRaw s = s ∨ s = "r#" ++ stripRaw s := by
  unfold stripRaw
  split
  · rename_i rest heq
    refine .inr (String.toList_injective ?_)
    simp [heq]
  · exact .inl rfl

/-- At most the mark of a raw identifier is lost. -/
theorem exists_append_stripRaw (s : String) :
    ∃ mark, s.toList = mark ++ (stripRaw s).toList ∧ (mark = [] ∨ mark = ['r', '#']) := by
  rcases stripRaw_cases s with hs | hs
  · exact ⟨[], by rw [hs, List.nil_append], .inl rfl⟩
  · refine ⟨['r', '#'], ?_, .inr rfl⟩
    have hlist := congrArg String.toList hs
    rwa [String.toList_append] at hlist

/-- The length of a text without the mark of a raw identifier. -/
theorem length_stripRaw (s : String) :
    (stripRaw s).length ≤ s.length ∧ s.length ≤ (stripRaw s).length + 2 := by
  obtain ⟨mark, hs, hmark⟩ := exists_append_stripRaw s
  have hlength := congrArg List.length hs
  rw [List.length_append, String.length_toList, String.length_toList] at hlength
  have hmark : mark.length ≤ 2 := by rcases hmark with rfl | rfl <;> simp
  omega

/-- The mark of a raw identifier before a text is lost. -/
theorem stripRaw_mark (s : String) : stripRaw ("r#" ++ s) = s := by
  have htext : ("r#" ++ s).toList = 'r' :: '#' :: s.toList := by simp
  simp [stripRaw, htext]

/-- What is lost of a text does not depend on what follows it. -/
theorem stripRaw_append {s t : String} (ht : '#' ∉ t.toList) :
    stripRaw (s ++ t) = stripRaw s ++ t := by
  rcases stripRaw_cases s with hs | hs
  · rcases stripRaw_cases (s ++ t) with hst | hst
    · rw [hst, hs]
    · -- The mark would have to be in the text before, which has none.
      exfalso
      generalize stripRaw (s ++ t) = u at hst
      have hlist : s.toList ++ t.toList = 'r' :: '#' :: u.toList := by
        rw [← String.toList_append, hst, String.toList_append]
        rfl
      match htext : s.toList with
      | [] => exact ht (by simp_all)
      | [c] => exact ht (by simp_all)
      | c :: d :: cs =>
        rw [htext] at hlist
        obtain ⟨rfl, rfl, -⟩ : c = 'r' ∧ d = '#' ∧ cs ++ t.toList = u.toList := by
          simpa using hlist
        have hshort : stripRaw s = .ofList cs := by simp [stripRaw, htext]
        rw [← hs, hshort, String.toList_ofList] at htext
        have hlength := congrArg List.length htext
        rw [List.length_cons, List.length_cons] at hlength
        omega
  · rw [hs, String.append_assoc, stripRaw_mark, stripRaw_mark]

/-- At most the mark of the byte order is lost. -/
theorem exists_append_unmarked (text : String) :
    ∃ lead, text.toList = lead ++ unmarked text ∧ (lead = [] ∨ lead = [byteOrderMark]) := by
  unfold unmarked
  cases text.toList with
  | nil => exact ⟨[], rfl, .inl rfl⟩
  | cons c cs =>
    by_cases hc : c = byteOrderMark
    · exact ⟨[c], by simp [hc], .inr (by rw [hc])⟩
    · exact ⟨[], by simp [hc], .inl rfl⟩

/-- What is appended to a text comes after its mark of the byte order. -/
theorem unmarked_append (text : String) {suffix : String}
    (h : ∀ c ∈ suffix.toList.head?, c ≠ byteOrderMark) :
    unmarked (text ++ suffix) = unmarked text ++ suffix.toList := by
  rcases htext : text.toList with _ | ⟨c, cs⟩
  · obtain rfl : text = "" := String.toList_eq_nil_iff.mp htext
    rw [String.empty_append, unmarked_eq_toList h]
    rfl
  · unfold unmarked
    rw [String.toList_append, htext, List.cons_append]
    by_cases hc : c = byteOrderMark
    · simp [hc]
    · simp [hc]

/-- The discriminator's name after a text. -/
theorem unmarked_append_discriminatorName (text : String) :
    unmarked (text ++ discriminatorName) = unmarked text ++ discriminatorName.toList := by
  apply unmarked_append
  rintro c ⟨⟩
  decide

/-- The discriminator's name continues a word before it. -/
theorem isWordContinue_of_mem_discriminatorName :
    ∀ c ∈ discriminatorName.toList, isWordContinue c = true :=
  List.all_eq_true.mp (by decide)

/-- An identifier is at least as long as its name. -/
theorem Ident.length_name_le (i : Ident) : i.name.length ≤ i.text.toList.length := by
  rw [String.length_toList, text]
  split
  · rw [String.length_append]
    exact Nat.le_add_left _ _
  · exact Nat.le_refl _

namespace Ident.StandsIn

variable {i j : Ident} {o : Bool} {text : String}

/-- An open line comment takes in a name after it. -/
theorem append (h : i.StandsIn true text) : i.StandsIn true (text ++ discriminatorName) := by
  obtain ⟨before, after, hsplit, hbefore, hafter⟩ := h
  refine ⟨before, after ++ discriminatorName.toList, ?_, hbefore,
    hafter.append_open rfl isWordContinue_of_mem_discriminatorName⟩
  rw [unmarked_append_discriminatorName, hsplit, List.append_assoc, List.append_assoc]

/-- A name that is appended to a text with a closed gap at its end becomes part of the identifier,
or is another one. -/
theorem name_eq_append (h : i.StandsIn false text)
    (hj : IsOneIdent (text ++ discriminatorName) j) : j.name = i.name ++ discriminatorName := by
  obtain ⟨before, after, hsplit, hbefore, hafter⟩ := h
  have htext : unmarked (text ++ discriminatorName) =
      before ++ (i.text.toList ++ (after ++ discriminatorName.toList)) := by
    rw [unmarked_append_discriminatorName, hsplit, List.append_assoc, List.append_assoc]
  cases after with
  | nil =>
    have hword := isWord_append discriminatorName i.word (by decide)
    have hrawable : i.name ++ discriminatorName ∉ unrawable := fun hmem =>
      append_discriminatorName_notMem_keywords i.name (mem_keywords_of_mem_unrawable hmem)
    let longer : Ident := ⟨i.raw, i.name ++ discriminatorName, hword, fun _ => hrawable⟩
    have hlonger : longer.StandsIn false (text ++ discriminatorName) := by
      refine ⟨before, [], ?_, hbefore, .nil⟩
      rw [htext, List.nil_append, List.append_nil]
      cases hraw : i.raw <;> simp [longer, Ident.text, hraw]
    rw [hj.unique hlonger.isOneIdent]
  | cons c after =>
    exfalso
    let other : Ident := plain discriminatorName (Eq.refl true)
    have hother : Scanned [.ident other] (c :: after ++ (other.text.toList ++ [])) :=
      hafter.scanned_ident endsWord_nil scanned_nil
    have hends : EndsWord (c :: after ++ (other.text.toList ++ [])) := hafter.endsWord
    have htwo := hbefore.scanned_ident (i := i) hends hother
    rw [List.append_nil, show other.text = discriminatorName from rfl, ← htext] at htwo
    have hone := (isOneIdent_iff_scanned htwo).mp hj
    cases hone

/-- A text with an open line comment at its end has no closed gap there. -/
theorem not_closed (h : i.StandsIn true text) : ¬ j.StandsIn false text := by
  intro hj
  have hname := hj.name_eq_append h.append.isOneIdent
  rw [h.isOneIdent.unique hj.isOneIdent] at hname
  have hlength := congrArg String.length hname
  simp [discriminatorName] at hlength

/-- An identifier after the mark of a raw one is raw, and without the mark it is a word. -/
theorem of_mark (h : i.StandsIn o ("r#" ++ text)) :
    i.raw = true ∧ (plain i.name i.word).StandsIn o text := by
  obtain ⟨span, hlex⟩ := h.isOneIdent
  have hraw := (exists_lex_of_lex_raw hlex).1
  obtain ⟨before, after, hsplit, hbefore, hafter⟩ := h
  have hmark : unmarked ("r#" ++ text) = 'r' :: '#' :: text.toList := by
    have hlist : ("r#" ++ text).toList = 'r' :: '#' :: text.toList := by simp
    rw [unmarked_eq_toList, hlist]
    rw [hlist]
    rintro c ⟨⟩
    decide
  rw [hmark] at hsplit
  cases before with
  | cons c before =>
    -- No gap starts with the mark.
    obtain ⟨rfl, -⟩ := List.cons.inj hsplit
    exact absurd (hbefore.head 'r' rfl) (by decide)
  | nil =>
    have htext : i.text.toList = 'r' :: '#' :: i.name.toList := by simp [Ident.text, hraw]
    rw [htext] at hsplit
    have hname : text.toList = i.name.toList ++ after := by simpa using hsplit
    have hbare : text.toList = (plain i.name i.word).text.toList ++ after := hname
    obtain ⟨c, cs, hhead, hstart, -⟩ := head_ident (plain i.name i.word) hafter.endsWord
    refine ⟨hraw, [], after, ?_, .nil, hafter⟩
    rw [unmarked_eq_toList, hbare, List.nil_append]
    rw [hbare, hhead]
    rintro d ⟨⟩
    exact ne_of_isWordStart hstart _ (by decide +kernel)

/-- A text without a mark of a raw identifier names the same. -/
theorem exists_stripRaw (h : i.StandsIn o text) :
    ∃ j : Ident, j.name = i.name ∧ j.StandsIn o (stripRaw text) := by
  rcases stripRaw_cases text with hs | hs
  · rw [hs]
    exact ⟨i, rfl, h⟩
  · rw [hs] at h
    exact ⟨plain i.name i.word, rfl, h.of_mark.2⟩

/-- A text is at least as long as the name in it. -/
theorem length_name_le (h : i.StandsIn o text) : i.name.length ≤ text.length := by
  obtain ⟨before, after, hsplit, -, -⟩ := h
  obtain ⟨lead, htext, -⟩ := exists_append_unmarked text
  have hlength := congrArg List.length htext
  rw [hsplit, List.length_append, List.length_append, List.length_append,
    String.length_toList] at hlength
  have hname := i.length_name_le
  omega

end Ident.StandsIn

/-! ### Lengths -/

namespace Ident

/-- The identifier for a name that needs no mangling stands in that name. -/
theorem Escapes.exists_standsIn {bare : String} {i : Ident} (h : Escapes bare i)
    (five : bare ∉ unrawable) (hdirect : ¬ NeedsMangling bare) :
    ∃ (j : Ident) (o : Bool), j.name = i.name ∧ j.StandsIn o bare := by
  cases h with
  | underscored hfive _ => exact absurd hfive five
  | kept _ one _ =>
    obtain ⟨o, h⟩ := isOneIdent_iff.mp one
    exact ⟨i, o, rfl, h⟩
  | marked _ _ one =>
    obtain ⟨o, h⟩ := isOneIdent_iff.mp one
    exact ⟨plain i.name i.word, o, rfl, h.of_mark.2⟩
  | mangled needed _ => exact absurd needed hdirect

/-- The identifier for a name that needs mangling is the mangled name. -/
theorem Escapes.text_of_needsMangling {bare : String} {i : Ident} (h : Escapes bare i)
    (hneeded : NeedsMangling bare) :
    i.text = if mangle bare = "_" then "__" else mangle bare := by
  cases h with
  | underscored five _ => exact absurd five hneeded.rawable
  | kept _ one name =>
    rw [hneeded.noName i one] at name
    cases name
  | marked _ _ one => exact absurd one (hneeded.noRaw i)
  | mangled _ text => exact text

/-- Mangling puts at most an underscore before a name and keeps the number of its characters. -/
theorem exists_toList_mangle (bare : String) :
    ∃ lead, (mangle bare).toList = lead ++ bare.toList.map mangleChar ∧
      (lead = [] ∨ lead = ['_']) := by
  rw [mangle, String.toList_ofList]
  split
  · exact ⟨['_'], rfl, .inr rfl⟩
  · exact ⟨[], rfl, .inl rfl⟩

/-- An identifier for a mangled name is named by it. -/
theorem name_of_mangled {bare : String} {i : Ident}
    (h : i.text = if mangle bare = "_" then "__" else mangle bare) :
    i.name = if mangle bare = "_" then "__" else mangle bare := by
  rw [← stripRaw_text, h]
  split
  · decide
  · exact stripRaw_mangle bare

/-- A mangled name is as long as the name, or longer by an underscore. -/
theorem length_of_mangled {bare : String} {i : Ident}
    (h : i.text = if mangle bare = "_" then "__" else mangle bare) :
    bare.length ≤ i.name.length ∧ i.name.length ≤ max 2 (bare.length + 1) := by
  obtain ⟨lead, hmangle, hlead⟩ := exists_toList_mangle bare
  have hlength := congrArg List.length hmangle
  rw [List.length_append, List.length_map, String.length_toList, String.length_toList] at hlength
  have hlead : lead.length ≤ 1 := by rcases hlead with rfl | rfl <;> simp
  rw [name_of_mangled h]
  split
  · rename_i hbar
    rw [hbar, show "_".length = 1 from rfl] at hlength
    rw [show "__".length = 2 from rfl]
    omega
  · omega

/-- An identifier for a name that is not empty is at most one character longer than the bare
name. -/
theorem Escapes.length_name_le {bare : String} {i : Ident} (h : Escapes bare i) :
    i.name.length ≤ max 2 (bare.length + 1) := by
  cases h with
  | underscored _ text =>
    have hname := i.length_name_le
    rw [text, String.length_toList, String.length_append] at hname
    exact Nat.le_trans hname (Nat.le_max_right _ _)
  | kept rawable one name =>
    obtain ⟨o, h⟩ := isOneIdent_iff.mp one
    have hname := h.length_name_le
    omega
  | marked _ _ one =>
    obtain ⟨o, h⟩ := isOneIdent_iff.mp one
    have hname : i.name.length ≤ bare.length := h.of_mark.2.length_name_le
    omega
  | mangled _ text => exact (length_of_mangled text).2

/-! ### Underscores -/

/-- A text that leaves an underscore when it is mangled, unless it is empty. -/
def LeavesUnderscore (cs : List Char) : Prop := cs ≠ [] → '_' ∈ cs.map mangleChar

/-- The empty text leaves none. -/
theorem leavesUnderscore_nil : LeavesUnderscore [] := fun hne => absurd rfl hne

/-- A text before another one that leaves an underscore. -/
theorem LeavesUnderscore.append {as bs : List Char} (ha : LeavesUnderscore as)
    (hb : LeavesUnderscore bs) : LeavesUnderscore (as ++ bs) := by
  intro hne
  rw [List.map_append, List.mem_append]
  by_cases has : as = []
  · subst has
    exact .inr (hb hne)
  · exact .inl (ha has)

/-- A character that continues no word leaves an underscore. -/
theorem leavesUnderscore_of_mem {c : Char} {cs : List Char} (hc : c ∈ cs)
    (hword : isWordContinue c = false) : LeavesUnderscore cs := by
  intro _
  have hmangle : mangleChar c = '_' := by
    apply Decidable.byContradiction
    intro hne
    have hself := isWordContinue_mangleChar c
    rw [mangleChar_eq_self hne, hword] at hself
    cases hself
  rw [← hmangle]
  exact List.mem_map_of_mem hc

/-- A gap leaves an underscore. -/
theorem leavesUnderscore_of_gap {o : Bool} {cs : List Char} (h : Gap o cs) :
    LeavesUnderscore cs := by
  cases cs with
  | nil => exact leavesUnderscore_nil
  | cons c cs => exact leavesUnderscore_of_mem List.mem_cons_self (h.endsWord c rfl).1

/-- So does the mark of a raw identifier, if it is there. -/
theorem leavesUnderscore_of_mark {mark : List Char} (h : mark = [] ∨ mark = ['r', '#']) :
    LeavesUnderscore mark := by
  rcases h with rfl | rfl
  · exact leavesUnderscore_nil
  · exact leavesUnderscore_of_mem (c := '#') (by simp) (by decide)

/-- So does the mark of the byte order. -/
theorem leavesUnderscore_of_byteOrderMark {lead : List Char}
    (h : lead = [] ∨ lead = [byteOrderMark]) : LeavesUnderscore lead := by
  rcases h with rfl | rfl
  · exact leavesUnderscore_nil
  · exact leavesUnderscore_of_mem List.mem_cons_self (by decide +kernel)

/-- No text with a part that leaves an underscore is mangled to the rest of it and more. -/
theorem mangle_ne_append {bare : String} {lost kept suffix : List Char}
    (hsplit : bare.toList = lost ++ kept) (hlost : LeavesUnderscore lost)
    (hsuffix : '_' ∉ suffix) (hne : suffix ≠ []) : (mangle bare).toList ≠ kept ++ suffix := by
  intro heq
  obtain ⟨lead, hmangle, hlead⟩ := exists_toList_mangle bare
  rw [heq, hsplit, List.map_append] at hmangle
  -- Each underscore of the rest is kept, so there is no room for another one.
  have hkept : kept.count '_' ≤ (kept.map mangleChar).count '_' :=
    List.count_le_count_map (f := mangleChar)
  have hcount := congrArg (List.count '_') hmangle
  rw [List.count_append, List.count_append, List.count_append,
    List.count_eq_zero.mpr hsuffix] at hcount
  have hlead : lead = [] := by
    rcases hlead with rfl | rfl
    · rfl
    · rw [List.count_singleton_self] at hcount
      omega
  have hlost : lost = [] := by
    apply Decidable.byContradiction
    intro hmore
    have hpos := List.count_pos_iff.mpr (hlost hmore)
    omega
  subst hlead hlost
  have hlength := congrArg List.length hmangle
  rw [List.length_append, List.nil_append, List.map_nil, List.nil_append,
    List.length_map] at hlength
  have hpos := List.length_pos_iff.mpr hne
  omega

/-- A written identifier that ends with the discriminator's name has a name that does. -/
theorem exists_name_of_text_append {i : Ident} {cs : List Char}
    (h : i.text.toList = cs ++ discriminatorName.toList) :
    ∃ mark kept, cs = mark ++ kept ∧ (mark = [] ∨ mark = ['r', '#']) ∧
      i.name.toList = kept ++ discriminatorName.toList := by
  cases hraw : i.raw with
  | false =>
    rw [text, hraw] at h
    exact ⟨[], cs, rfl, .inl rfl, h⟩
  | true =>
    have hmarked : 'r' :: '#' :: i.name.toList = cs ++ discriminatorName.toList := by
      rw [← h]
      simp [text, hraw]
    -- The discriminator's name starts after the mark, with which it shares no character.
    rcases cs with _ | ⟨c, _ | ⟨d, kept⟩⟩
    · exact absurd (List.cons.inj hmarked).1 (by decide)
    · exact absurd (List.cons.inj (List.cons.inj hmarked).2).1 (by decide)
    · obtain ⟨rfl, rfl, hkept⟩ : 'r' = c ∧ '#' = d ∧ i.name.toList = kept ++ _ := by
        simpa using hmarked
      exact ⟨['r', '#'], kept, rfl, .inr rfl, hkept⟩

/-- The identifier in a text with the discriminator's name at its end is what the text ends with, or
it is shorter than the text before that name. -/
theorem StandsIn.of_append {i : Ident} {o : Bool} {text : String}
    (h : i.StandsIn o (text ++ discriminatorName)) :
    i.name.length < text.length ∨
      ∃ lost kept, text.toList = lost ++ kept ∧ LeavesUnderscore lost ∧
        i.name.toList = kept ++ discriminatorName.toList := by
  have hword := isWordContinue_of_mem_discriminatorName
  obtain ⟨before, after, hsplit, hbefore, hafter⟩ := h
  obtain ⟨lead, htext, hlead⟩ := exists_append_unmarked text
  rw [unmarked_append_discriminatorName, ← List.append_assoc] at hsplit
  rcases hafter.eq_nil_or_exists_append hword (by decide) hsplit with rfl | ⟨rest, hrest, hunmarked⟩
  · right
    rw [List.append_nil] at hsplit
    obtain ⟨mid, hmid, hname⟩ := hbefore.exists_append hword hsplit
    obtain ⟨mark, kept, rfl, hmark, hkept⟩ := exists_name_of_text_append hname
    refine ⟨lead ++ (before ++ mark), kept, ?_, ?_, hkept⟩
    · rw [htext, hmid, List.append_assoc, List.append_assoc]
    · exact (leavesUnderscore_of_byteOrderMark hlead).append
        ((leavesUnderscore_of_gap hbefore).append (leavesUnderscore_of_mark hmark))
  · left
    have hlength := congrArg List.length htext
    have hpos := List.length_pos_iff.mpr hrest
    rw [hunmarked, List.length_append, List.length_append, List.length_append,
      String.length_toList] at hlength
    have hname := i.length_name_le
    omega

/-! ### A discriminator and its host -/

/-- The bare name of a discriminator is the host's, without one more mark, and the appended name. -/
theorem stripRaw_append_discriminatorName (s : String) :
    stripRaw (s ++ discriminatorName) = stripRaw s ++ discriminatorName :=
  stripRaw_append (by decide)

/-- No word that cannot be raw ends with the discriminator's name. -/
theorem append_discriminatorName_notMem_unrawable (s : String) :
    s ++ discriminatorName ∉ unrawable :=
  fun h => append_discriminatorName_notMem_keywords s (mem_keywords_of_mem_unrawable h)

/-- A mangled host is not called like an identifier in the discriminator's name. -/
theorem ne_name_of_mangled {bare : String} {i j : Ident} {o : Bool}
    (hi : i.text = if mangle bare = "_" then "__" else mangle bare)
    (hj : j.StandsIn o (stripRaw bare ++ discriminatorName)) : j.name ≠ i.name := by
  intro heq
  have hlength := (length_of_mangled hi).1
  have hbare := (length_stripRaw bare).1
  rcases hj.of_append with hshort | ⟨lost, kept, hsplit, hlost, hname⟩
  · rw [heq] at hshort
    omega
  · rw [heq, name_of_mangled hi] at hname
    split at hname
    · have htwo := congrArg List.length hname
      rw [List.length_append, show discriminatorName.toList.length = 4 from rfl,
        show "__".toList.length = 2 from rfl] at htwo
      omega
    · obtain ⟨mark, htext, hmark⟩ := exists_append_stripRaw bare
      have hleaves := (leavesUnderscore_of_mark hmark).append hlost
      rw [hsplit, ← List.append_assoc] at htext
      exact mangle_ne_append htext hleaves (by decide) (by decide) hname

/-- A discriminator that is called like its host leaves no host but one that trails off. -/
theorem trailsOff_of_name_eq {bare : String} {i j : Ident} (hi : Escapes bare i)
    (hj : Escapes (stripRaw bare ++ discriminatorName) j) (heq : j.name = i.name) :
    TrailsOff bare ∧ ¬ NeedsMangling bare := by
  have hfour : (stripRaw bare ++ discriminatorName).length = (stripRaw bare).length + 4 := by
    rw [String.length_append]
    rfl
  -- A mangled discriminator is longer than the host.
  have hdirect : ¬ NeedsMangling (stripRaw bare ++ discriminatorName) := by
    intro hneeded
    have hlong := (length_of_mangled (hj.text_of_needsMangling hneeded)).1
    have hshort := hi.length_name_le
    have hbare := (length_stripRaw bare).2
    rw [heq] at hlong
    omega
  obtain ⟨k, o, hk, hstands⟩ :=
    hj.exists_standsIn (append_discriminatorName_notMem_unrawable _) hdirect
  have hname : k.name = i.name := hk.trans heq
  have hclosed {l : Ident} (hl : l.StandsIn false (stripRaw bare)) :
      i.name.length = l.name.length + 4 := by
    rw [← hname, hl.name_eq_append hstands.isOneIdent, String.length_append]
    rfl
  by_cases hfive : bare ∈ unrawable
  · obtain ⟨l, hl, hword⟩ := exists_standsIn_of_mem_unrawable hfive
    obtain ⟨m, hm, hbare⟩ := hword.exists_stripRaw
    have hlength := hclosed hbare
    have hshort := hi.length_name_le
    rw [hm, hl] at hlength
    omega
  by_cases hneeded : NeedsMangling bare
  · exact absurd hname (ne_name_of_mangled (hi.text_of_needsMangling hneeded) hstands)
  obtain ⟨l, o', hl, hhost⟩ := hi.exists_standsIn hfive hneeded
  cases o' with
  | true => exact ⟨⟨l, hhost⟩, hneeded⟩
  | false =>
    obtain ⟨m, hm, hbare⟩ := hhost.exists_stripRaw
    have hlength := hclosed hbare
    rw [hm, hl] at hlength
    omega

/-- A name that trails off is no word that cannot be raw. -/
theorem notMem_unrawable_of_trailsOff {bare : String} (h : TrailsOff bare) : bare ∉ unrawable := by
  obtain ⟨i, hi⟩ := h
  intro hfive
  obtain ⟨j, -, hclosed⟩ := exists_standsIn_of_mem_unrawable hfive
  exact hi.not_closed hclosed

/-- The discriminator of a host that trails off needs no more mangling than the host. -/
theorem needsMangling_of_trailsOff {bare : String} (hopen : TrailsOff bare)
    (hneeded : NeedsMangling (stripRaw bare ++ discriminatorName)) : NeedsMangling bare := by
  have hfive := notMem_unrawable_of_trailsOff hopen
  obtain ⟨i, hi⟩ := hopen
  rcases stripRaw_cases bare with hbare | hbare
  · rw [hbare] at hneeded
    refine ⟨hfive, fun j hj => ?_, fun j hj => ?_⟩
    · rw [hj.unique hi.isOneIdent]
      exact hneeded.noName i hi.append.isOneIdent
    · -- As a raw identifier it trails off too.
      obtain ⟨o, hj⟩ := isOneIdent_iff.mp hj
      cases o with
      | false => exact hi.not_closed hj.of_mark.2
      | true =>
        have hraw := hj.append.isOneIdent
        rw [String.append_assoc] at hraw
        exact hneeded.noRaw j hraw
  · rw [hbare] at hi
    have hraw := hi.append.isOneIdent
    rw [String.append_assoc] at hraw
    exact absurd hraw (hneeded.noRaw i)

/-- The discriminator of a host that trails off is called like the host, if that is not mangled. -/
theorem name_eq_of_trailsOff {bare : String} {i j : Ident} (hi : Escapes bare i)
    (hj : Escapes (stripRaw bare ++ discriminatorName) j) (hopen : TrailsOff bare)
    (hdirect : ¬ NeedsMangling bare) : j.name = i.name := by
  obtain ⟨k, o, hk, hhost⟩ := hi.exists_standsIn (notMem_unrawable_of_trailsOff hopen) hdirect
  obtain ⟨l, o', hl, htype⟩ :=
    hj.exists_standsIn (append_discriminatorName_notMem_unrawable _)
      fun hneeded => hdirect (needsMangling_of_trailsOff hopen hneeded)
  -- The comment takes in the appended name, so both texts have the same identifier in them.
  obtain ⟨m, hm⟩ := hopen
  obtain ⟨n, hn, hbare⟩ := hm.exists_stripRaw
  have hsame : l = n := htype.isOneIdent.unique hbare.append.isOneIdent
  have hsame' : k = m := hhost.isOneIdent.unique hm.isOneIdent
  rw [← hl, ← hk, hsame, hsame', hn]

/-- A discriminator is called like its host just if the host's bare name trails off and is not
mangled. -/
theorem same_discriminator_iff (host : String) :
    (discriminator host discriminatorName).Same (escape host) ↔
      TrailsOff (stripRaw host) ∧ ¬ NeedsMangling (stripRaw host) := by
  have hhost := escapes_escape host
  have hname := escapes_escape (stripRaw host ++ discriminatorName)
  rw [stripRaw_append_discriminatorName] at hname
  rw [same_iff, discriminator]
  constructor
  · exact trailsOff_of_name_eq hhost hname
  · rintro ⟨hopen, hdirect⟩
    exact name_eq_of_trailsOff hhost hname hopen hdirect

/-- A comment at the end of a host's name takes in the discriminator's. -/
theorem same_discriminator_comment :
    (escape "foo //").text = "foo" ∧ (discriminator "foo //" discriminatorName).text = "foo" ∧
      (discriminator "foo //" discriminatorName).Same (escape "foo //") := by
  have hhost : escape "foo //" = plain "foo" (Eq.refl true) :=
    escape_of_direct? (by decide +kernel)
  have htype : discriminator "foo //" discriminatorName = plain "foo" (Eq.refl true) :=
    escape_of_direct? (by decide +kernel)
  rw [hhost, htype]
  exact ⟨rfl, rfl, rfl⟩

end Ident

end EnumCases
