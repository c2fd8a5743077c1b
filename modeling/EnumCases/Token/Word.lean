import EnumCases.Token.Lexer

/-!
# A word is one identifier

Main statements: a word at the start of a text is cut off as one identifier (`piece?_word`), with
the mark of a raw identifier before it as a raw one (`piece?_raw`), if the text after it neither
continues the word nor makes a literal of it; and an identifier by itself is one token
(`lex_ident`).
-/

namespace EnumCases

namespace Text

/-- No blank continues a word. -/
theorem isWordContinue_of_isBlank {c : Char} (h : isBlank c = true) : isWordContinue c = false := by
  have blanks : ∀ n ∈ [0x9, 0xA, 0xB, 0xC, 0xD, 0x20, 0x85, 0xA0, 0x1680, 0x2000, 0x2001, 0x2002,
      0x2003, 0x2004, 0x2005, 0x2006, 0x2007, 0x2008, 0x2009, 0x200A, 0x200E, 0x200F, 0x2028,
      0x2029, 0x202F, 0x205F, 0x3000], isWordContinue (Char.ofNat n) = false := by decide +kernel
  rw [← Char.ofNat_toNat c]
  apply blanks
  simp only [isBlank, blankRanges, Ranges.contains, List.any_cons, List.any_nil, Bool.or_eq_true,
    Bool.and_eq_true, decide_eq_true_eq, Bool.or_false] at h
  simp only [List.mem_cons, List.not_mem_nil, or_false]
  omega

/-- No blank starts a word. -/
theorem isWordStart_of_isBlank {c : Char} (h : isBlank c = true) : isWordStart c = false := by
  rw [Bool.eq_false_iff]
  intro hstart
  have hcontinue := isWordContinue_of_isWordStart hstart
  rw [isWordContinue_of_isBlank h] at hcontinue
  cases hcontinue

/-- No digit starts a word. -/
theorem isWordStart_of_isDigit {c : Char} (h : c.isDigit = true) : isWordStart c = false := by
  have digits : ∀ n ∈ [0x30, 0x31, 0x32, 0x33, 0x34, 0x35, 0x36, 0x37, 0x38, 0x39],
      isWordStart (Char.ofNat n) = false := by decide
  rw [← Char.ofNat_toNat c]
  apply digits
  have hd : 48 ≤ c.toNat ∧ c.toNat ≤ 57 := by
    simpa [Char.isDigit, UInt32.le_iff_toNat_le] using h
  simp only [List.mem_cons, List.not_mem_nil, or_false]
  omega

/-- A word starts with none of the characters that start other pieces. -/
theorem ne_of_isWordStart {c : Char} (h : isWordStart c = true) (d : Char)
    (hd : isWordStart d = false := by decide) : c ≠ d := by
  rintro rfl
  simp_all

/-- A word goes on with none of the characters that end it. -/
theorem ne_of_isWordContinue {c : Char} (h : isWordContinue c = true) (d : Char)
    (hd : isWordContinue d = false := by decide) : c ≠ d := by
  rintro rfl
  simp_all

end Text

open Text

/-- A text that neither continues a word before it nor makes the word announce a literal. -/
def EndsWord (rest : List Char) : Prop :=
  ∀ c ∈ rest.head?, isWordContinue c = false ∧ c ≠ '\x22' ∧ c ≠ '\x27' ∧ c ≠ '#'

theorem endsWord_nil : EndsWord [] := by simp [EndsWord]

/-- The word at the start of a text ends where the text stops continuing it. -/
theorem word?_append {w rest : List Char} (hw : isWord w = true) (hr : EndsWord rest) :
    word? (w ++ rest) = some (w, rest) := by
  obtain _ | ⟨c, cs⟩ := w
  · simp [isWord] at hw
  simp only [isWord, Bool.and_eq_true, List.all_eq_true] at hw
  have hrest : rest.takeWhile isWordContinue = [] ∧ rest.dropWhile isWordContinue = rest := by
    obtain _ | ⟨d, ds⟩ := rest
    · simp
    · have := (hr d (by simp)).1
      simp [this]
  have htake : (cs ++ rest).takeWhile isWordContinue = cs := by
    rw [List.takeWhile_append_of_pos hw.2, hrest.1, List.append_nil]
  have hdrop : (cs ++ rest).dropWhile isWordContinue = rest := by
    rw [List.dropWhile_append_of_pos hw.2, hrest.2]
  simp [word?, hw.1, htake, hdrop]

/-- A text that does not make a literal of the letter before it. -/
def NoLiteral (rest : List Char) : Prop :=
  ∀ c ∈ rest.head?, c ≠ '\x22' ∧ c ≠ '\x27' ∧ c ≠ '#'

/-- After the letters of a word comes no quote, apostrophe or `#`. -/
theorem noLiteral_append {cs rest : List Char} (hc : ∀ c ∈ cs, isWordContinue c = true)
    (hr : EndsWord rest) : NoLiteral (cs ++ rest) := by
  intro d hd
  obtain _ | ⟨e, es⟩ := cs
  · exact (hr d (by simpa using hd)).2
  · obtain rfl : e = d := by simpa using hd
    have he := hc e (by simp)
    exact ⟨ne_of_isWordContinue he _, ne_of_isWordContinue he _, ne_of_isWordContinue he _⟩

namespace Piece

theorem rawLiteral?_eq_none {allowed : Char → Bool} {cs : List Char} (h : NoLiteral cs) :
    rawLiteral? allowed cs = none := by
  obtain _ | ⟨c, cs⟩ := cs
  · simp [rawLiteral?]
  · obtain ⟨hq, -, hm⟩ := h c (by simp)
    simp only [rawLiteral?, List.dropWhile_cons, beq_iff_eq, hm, if_false]
    split
    · simp_all
    · rfl

theorem quotedLiteral?_eq_none {kind : LiteralKind} {d : Quoted.Dialect} {announced : List Char}
    {c : Char} {cs : List Char} (hc : c ≠ '\x22') (h : NoLiteral cs) :
    quotedLiteral? kind d announced (c :: cs) = none := by
  unfold quotedLiteral?
  split
  · simp_all
  · simp_all [rawLiteral?_eq_none]
  · rfl

theorem charLiteral?_eq_none {kind : LiteralKind} {d : Quoted.Dialect} {announced : List Char}
    {cs : List Char} (h : ∀ c ∈ cs.head?, c ≠ '\x27') :
    charLiteral? kind d announced cs = none := by
  unfold charLiteral?
  split
  · simp at h
  · rfl

/-- No number starts like a word. -/
theorem digits?_eq_none {c : Char} {cs : List Char} (h : isWordStart c = true) :
    digits? 10 true (c :: cs) = none := by
  unfold digits?
  by_cases hb : c = '_'
  · simp [hb]
  · simp only [hb, if_false, if_true]
    cases hx : Quoted.hexDigit? c with
    | none => rfl
    | some value =>
      have hv : 10 ≤ value := by
        unfold Quoted.hexDigit? at hx
        split at hx
        · rename_i hd
          have : c.isDigit = true := by
            simp only [Char.isDigit, Bool.and_eq_true, decide_eq_true_eq]
            exact hd
          simp [isWordStart_of_isDigit this] at h
        · split at hx
          · simp at hx; omega
          · split at hx
            · simp at hx; omega
            · simp at hx
      simp [show ¬ value < 10 by omega]

/-- No literal starts like a word that is one. -/
theorem literal?_eq_none {c : Char} {cs rest : List Char} (hw : isWord (c :: cs) = true)
    (hr : EndsWord rest) : literal? (c :: cs ++ rest) = none := by
  simp only [isWord, Bool.and_eq_true, List.all_eq_true] at hw
  obtain ⟨hc, hcs⟩ := hw
  have tail := noLiteral_append hcs hr
  have tailQuoted : ∀ kind d announced,
      quotedLiteral? kind d announced (cs ++ rest) = none := by
    intro kind d announced
    obtain _ | ⟨e, es⟩ := cs
    · obtain _ | ⟨e, es⟩ := rest
      · rfl
      · have he := (hr e (by simp)).1
        have : e ≠ 'r' := by rintro rfl; revert he; decide
        have hq := (hr e (by simp)).2.1
        simp [quotedLiteral?, *]
    · have he := hcs e (by simp)
      exact quotedLiteral?_eq_none (ne_of_isWordContinue he _)
        (noLiteral_append (fun d hd => hcs d (by simp [hd])) hr)
  have tailChar : ∀ kind d announced, charLiteral? kind d announced (cs ++ rest) = none :=
    fun _ _ _ => charLiteral?_eq_none fun c hc => (tail c hc).2.1
  have plain : quotedLiteral? .string .ordinary [] (c :: cs ++ rest) = none :=
    quotedLiteral?_eq_none (ne_of_isWordStart hc _) tail
  have char : charLiteral? .char .ordinary [] (c :: cs ++ rest) = none :=
    charLiteral?_eq_none fun d hd => by
      obtain rfl : c = d := by simpa using hd
      exact ne_of_isWordStart hc _
  have digit : c.isDigit = false := by
    cases hd : c.isDigit
    · rfl
    · simp [isWordStart_of_isDigit hd] at hc
  have float : float? (c :: cs ++ rest) = none := by simp [float?, digit]
  have integer : integer? (c :: cs ++ rest) = none := by
    have h0 := ne_of_isWordStart hc '0'
    simp only [List.cons_append, integer?]
    split <;> simp_all [digits?_eq_none]
  have announced : announced? (c :: cs ++ rest) = none := by
    simp only [List.cons_append]
    unfold announced?
    split
    · rename_i heq
      rw [← (List.cons.inj heq).2, tailQuoted, tailChar]
      rfl
    · rename_i heq
      rw [← (List.cons.inj heq).2, tailQuoted]
    · rfl
  unfold literal?
  rw [plain, char, float, integer, announced]
  rfl

theorem isComment_eq_false {c : Char} {cs : List Char} (hc : isWordStart c = true) :
    isComment (c :: cs) = false := by
  have := ne_of_isWordStart hc '/'
  unfold isComment
  split <;> simp_all

theorem blanks?_eq_none {c : Char} {cs : List Char} (hc : isWordStart c = true) :
    blanks? (c :: cs) = none := by
  have : isBlank c = false := by
    cases hb : isBlank c
    · rfl
    · simp [isWordStart_of_isBlank hb] at hc
  simp [blanks?, this]

theorem missing?_eq_none {c : Char} {cs : List Char} (hc : isWordStart c = true) :
    missing? (c :: cs) = none := by
  have := (ne_of_isWordStart hc '(').symm
  simp [missing?, missingText, List.isPrefixOf, this]

theorem delimiter?_eq_none {c : Char} {cs : List Char} (hc : isWordStart c = true) :
    delimiter? (c :: cs) = none := by
  have h₁ : Delimiter.ofOpening? c = none := by
    unfold Delimiter.ofOpening?
    split
    · exact absurd hc (by decide)
    · exact absurd hc (by decide)
    · exact absurd hc (by decide)
    · rfl
  have h₂ : Delimiter.ofClosing? c = none := by
    unfold Delimiter.ofClosing?
    split
    · exact absurd hc (by decide)
    · exact absurd hc (by decide)
    · exact absurd hc (by decide)
    · rfl
  simp [delimiter?, h₁, h₂]

theorem punct?_eq_none {c : Char} {cs : List Char} (hc : isWordStart c = true) :
    punct? (c :: cs) = none := by
  have hmark : c ∉ marks := by
    intro hm
    have hall : marks.all (fun m => !isWordStart m) = true := by decide +kernel
    have := List.all_eq_true.mp hall c hm
    simp [hc] at this
  have := ne_of_isWordStart hc '\x27'
  unfold punct?
  split
  · simp_all
  · rename_i heq
    obtain ⟨rfl, rfl⟩ := List.cons.inj heq
    simp [isMark, hmark]
  · rfl

/-- A word followed by no quote, apostrophe or `#` announces no literal. -/
theorem announcements_isPrefixOf {c : Char} {cs rest : List Char} (hw : isWord (c :: cs) = true)
    (hr : EndsWord rest) : announcements.any (·.isPrefixOf (c :: cs ++ rest)) = false := by
  simp only [isWord, Bool.and_eq_true, List.all_eq_true] at hw
  have tail := noLiteral_append hw.2 hr
  have tail' : ∀ d es, cs ++ rest = d :: es → isWordContinue d = true → NoLiteral es := by
    intro d es heq hd
    obtain _ | ⟨e, es'⟩ := cs
    · have := (hr d (by simp_all)).1
      simp [this] at hd
    · obtain ⟨rfl, rfl⟩ := List.cons.inj heq
      exact noLiteral_append (fun x hx => hw.2 x (by simp [hx])) hr
  rw [List.cons_append]
  generalize cs ++ rest = text at tail tail'
  obtain _ | ⟨d, es⟩ := text
  · simp [announcements, List.isPrefixOf]
  obtain ⟨hq, ha, hm⟩ := tail d (by simp)
  have letter : ∀ x y z : Char, (y = d → y = 'r' ∧ (z = '\x22' ∨ z = '#')) →
      [x, y, z].isPrefixOf (c :: d :: es) = false := by
    intro x y z h
    simp only [List.isPrefixOf]
    by_cases hy : y = d
    · obtain ⟨hr', hz⟩ := h hy
      have hes := tail' d es rfl (by rw [← hy, hr']; decide)
      obtain _ | ⟨e, es⟩ := es
      · simp [List.isPrefixOf]
      · obtain ⟨hq', -, hm'⟩ := hes e (by simp)
        rcases hz with rfl | rfl
        · simp [List.isPrefixOf, hq'.symm]
        · simp [List.isPrefixOf, hm'.symm]
    · simp [hy]
  have two : ∀ x y : Char, y ≠ d → [x, y].isPrefixOf (c :: d :: es) = false := by
    intro x y h
    simp [List.isPrefixOf, h]
  simp only [announcements, List.any_cons, List.any_nil, Bool.or_false]
  rw [two _ _ hq.symm, two _ _ hq.symm, two _ _ hq.symm, two _ _ ha.symm,
    letter 'r' '#' _ (fun h => absurd h hm.symm), letter 'r' '#' _ (fun h => absurd h hm.symm),
    letter 'b' 'r' _ (fun _ => ⟨rfl, .inl rfl⟩), letter 'b' 'r' _ (fun _ => ⟨rfl, .inr rfl⟩),
    letter 'c' 'r' _ (fun _ => ⟨rfl, .inl rfl⟩), letter 'c' 'r' _ (fun _ => ⟨rfl, .inr rfl⟩)]
  rfl

/-- The identifier that a word at the start of a text is. -/
theorem rawOrPlain?_word {name : String} (hw : isWord name.toList = true) {rest : List Char}
    (hr : EndsWord rest) :
    rawOrPlain? (name.toList ++ rest) = some (.plain name hw, name.toList, rest) := by
  have hword := word?_append hw hr
  have hof : Ident.ofName? false name = some (.plain name hw) := by
    simp [Ident.ofName?, Ident.plain, hw]
  unfold rawOrPlain?
  split
  · rename_i heq
    rcases h : name.toList with _ | ⟨c, cs⟩
    · simp [h, isWord] at hw
    · rw [h, isWord, Bool.and_eq_true, List.all_eq_true] at hw
      rw [h, List.cons_append] at heq
      have := noLiteral_append hw.2 hr '#' (by rw [(List.cons.inj heq).2]; simp)
      simp at this
  · simp [hword, hof]

/-- The identifier that a word after the mark of a raw identifier is. -/
theorem rawOrPlain?_raw {i : Ident} (hi : i.raw = true) {rest : List Char} (hr : EndsWord rest) :
    rawOrPlain? (rawMark ++ i.name.toList ++ rest) =
      some (i, rawMark ++ i.name.toList, rest) := by
  have hword := word?_append i.word hr
  have hof : Ident.ofName? true i.name = some i := by
    obtain ⟨raw, name, word, rawable⟩ := i
    subst hi
    simp [Ident.ofName?, word, rawable]
  simp only [rawMark, List.cons_append, List.nil_append, rawOrPlain?]
  simp [hword, hof]

end Piece

/-- A plain identifier as it is written, at the start of a text, is that identifier. -/
theorem piece?_word {name : String} (hw : isWord name.toList = true) {rest : List Char}
    (hr : EndsWord rest) :
    piece? (name.toList ++ rest) = some ⟨[.ident (.plain name hw)], name.toList, rest⟩ := by
  have hident := Piece.rawOrPlain?_word hw hr
  rcases h : name.toList with _ | ⟨c, cs⟩
  · simp [h, isWord] at hw
  rw [h] at hident
  have hw' := h ▸ hw
  have hc : isWordStart c = true := by
    rw [isWord, Bool.and_eq_true] at hw'
    exact hw'.1
  have hannounce := Piece.announcements_isPrefixOf hw' hr
  unfold piece?
  rw [Piece.literal?_eq_none hw' hr, List.cons_append, Piece.isComment_eq_false hc,
    Piece.blanks?_eq_none hc, Piece.missing?_eq_none hc, Piece.delimiter?_eq_none hc,
    Piece.punct?_eq_none hc, Piece.ident?, ← List.cons_append, hannounce, hident]
  rfl

/-- A raw identifier as it is written, at the start of a text, is that identifier. -/
theorem piece?_raw {i : Ident} (hi : i.raw = true) {rest : List Char} (hr : EndsWord rest) :
    piece? (rawMark ++ i.name.toList ++ rest) =
      some ⟨[.ident i], rawMark ++ i.name.toList, rest⟩ := by
  have hident := Piece.rawOrPlain?_raw hi hr
  have hw := i.word
  rcases h : i.name.toList with _ | ⟨c, cs⟩
  · simp [h, isWord] at hw
  rw [h] at hident
  have hc : isWordStart c = true := by
    rw [h, isWord, Bool.and_eq_true] at hw
    exact hw.1
  have hr' : isWordStart 'r' = true := by decide
  have hmark := ne_of_isWordStart hc '#'
  have hquote := ne_of_isWordStart hc '\x22'
  have hlit : Piece.literal? (rawMark ++ c :: cs ++ rest) = none := by
    have hint : digits? 10 true ('r' :: '#' :: c :: (cs ++ rest)) = none :=
      Piece.digits?_eq_none hr'
    simp [rawMark, Piece.literal?, Piece.quotedLiteral?, Piece.rawLiteral?, Piece.announced?,
      Piece.charLiteral?, float?, integer?, hmark, hquote, hint]
  have hannounce : Piece.announcements.any (·.isPrefixOf (rawMark ++ c :: cs ++ rest)) = false := by
    simp [rawMark, Piece.announcements, List.isPrefixOf, hmark.symm, hquote.symm]
  have hcomment : Piece.isComment (rawMark ++ c :: cs ++ rest) = false :=
    Piece.isComment_eq_false hr'
  have hblanks : Piece.blanks? (rawMark ++ c :: cs ++ rest) = none := Piece.blanks?_eq_none hr'
  have hmissing : Piece.missing? (rawMark ++ c :: cs ++ rest) = none := Piece.missing?_eq_none hr'
  have hdelimiter : Piece.delimiter? (rawMark ++ c :: cs ++ rest) = none :=
    Piece.delimiter?_eq_none hr'
  have hpunct : Piece.punct? (rawMark ++ c :: cs ++ rest) = none := Piece.punct?_eq_none hr'
  unfold piece?
  rw [hcomment, hblanks, hmissing, hdelimiter, hlit, hpunct, Piece.ident?, hannounce, hident]
  rfl

/-- An identifier at the start of a text, if what follows it is no part of it. -/
theorem piece?_ident (i : Ident) {rest : List Char} (hr : EndsWord rest) :
    piece? (i.text.toList ++ rest) = some ⟨[.ident i], i.text.toList, rest⟩ := by
  cases hi : i.raw with
  | false =>
    obtain ⟨raw, name, word, rawable⟩ := i
    subst hi
    exact piece?_word word hr
  | true =>
    have htext : i.text.toList = rawMark ++ i.name.toList := by
      simp [Ident.text, hi, rawMark]
    rw [htext]
    exact piece?_raw hi hr

/-- No identifier starts with the mark of the byte order. -/
theorem head_ident_ne (i : Ident) : ∀ c ∈ i.text.toList.head?, c ≠ byteOrderMark := by
  intro c hc
  have hw := i.word
  rcases h : i.name.toList with _ | ⟨d, ds⟩
  · simp [h, isWord] at hw
  rw [h, isWord, Bool.and_eq_true] at hw
  cases hi : i.raw with
  | false =>
    rw [Ident.text, hi] at hc
    obtain rfl : d = c := by simpa [h] using hc
    exact ne_of_isWordStart hw.1 _ (by decide +kernel)
  | true =>
    rw [Ident.text, hi] at hc
    obtain rfl : 'r' = c := by simpa using hc
    decide

/-- An identifier by itself is one token. -/
theorem lex_ident (i : Ident) :
    lex i.text = .ok [.ident i ⟨.start, Position.start.advance i.text.toList⟩] := by
  have hpiece := piece?_ident i endsWord_nil
  have hhead := head_ident_ne i
  rw [List.append_nil] at hpiece
  unfold lex
  rcases h : i.text.toList with _ | ⟨c, cs⟩
  · rw [h] at hpiece
    simp [piece?, Piece.isComment, Piece.blanks?, Piece.missing?, Piece.missingText,
      Piece.delimiter?, Piece.literal?, Piece.quotedLiteral?, Piece.announced?,
      Piece.charLiteral?, float?, integer?, digits?, Piece.punct?, Piece.ident?,
      Piece.rawOrPlain?, word?] at hpiece
  · have hc : c ≠ byteOrderMark := hhead c (by simp [h])
    rw [h] at hpiece
    simp [hc, scan, hpiece, assemble]

end EnumCases
