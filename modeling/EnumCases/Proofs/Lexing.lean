import EnumCases.Proofs.Quoted
import EnumCases.Token.Printer
import EnumCases.Token.Word

/-!
# Printed lexemes are scanned back

Lexemes are legible (`Legible`) if each can be told from the next one as they are written: marks are
joint just before marks, apostrophes just before identifiers, and literals are strings written by
this library. Legible lexemes may be put one after the other (`Legible.append`). The text of such a
list can be cut at every lexeme: the text after a lexeme starts with a space or a closing delimiter
unless the two belong together (`Stops`), so no lexeme runs on. For each kind of lexeme there is a
lemma that says so: `piece?_ident`, `piece?_mark`, `piece?_apostrophe`, `piece?_literal`,
`piece?_opening` and `piece?_closing`.
-/

namespace EnumCases

open Text

/-- The marks that lexemes are written with here: an apostrophe and the beginning of a comment are
apart. -/
def IsOperatorMark (mark : Char) : Prop := mark ∈ Piece.marks ∧ mark ≠ '/' ∧ mark ≠ '\x27'

instance (mark : Char) : Decidable (IsOperatorMark mark) :=
  inferInstanceAs (Decidable (mark ∈ Piece.marks ∧ mark ≠ '/' ∧ mark ≠ '\x27'))

/-- A text that can be shown as it is: without quotes and carriage returns. -/
def IsShown (cs : List Char) : Prop := ∀ c ∈ cs, c ≠ '\x22' ∧ c ≠ '\r'

instance (cs : List Char) : Decidable (IsShown cs) := List.decidableBAll _ cs

/-- A string literal as this library writes it. -/
inductive IsWritten : Literal → Prop where
  /-- A literal with escapes. -/
  | ofString (s : String) : IsWritten (.ofString s)
  /-- A literal that shows its text. -/
  | verbatim (s : String) (h : IsShown s.toList) : IsWritten (.verbatim s)

/-- Lexemes that can be told apart as they are written. -/
inductive Legible : List Lexeme → Prop where
  | nil : Legible []
  | ident (i : Ident) {ls : List Lexeme} : Legible ls → Legible (.ident i :: ls)
  /-- A mark that is not joint with what follows. -/
  | mark {c : Char} (hc : IsOperatorMark c) {ls : List Lexeme} :
    Legible ls → Legible (.punct c .alone :: ls)
  /-- A mark that is joint with the next one. -/
  | joint {c d : Char} {s : Spacing} (hc : IsOperatorMark c) (hd : IsOperatorMark d)
    {ls : List Lexeme} : Legible (.punct d s :: ls) → Legible (.punct c .joint :: .punct d s :: ls)
  /-- The apostrophe of a lifetime. -/
  | lifetime (i : Ident) {ls : List Lexeme} :
    Legible ls → Legible (.punct '\x27' .joint :: .ident i :: ls)
  | literal {l : Literal} (hl : IsWritten l) {ls : List Lexeme} :
    Legible ls → Legible (.literal l :: ls)
  | opening (d : Delimiter) {ls : List Lexeme} : Legible ls → Legible (.opening d :: ls)
  | closing (d : Delimiter) {ls : List Lexeme} : Legible ls → Legible (.closing d :: ls)

/-- Legible lexemes after legible ones are legible: neither list ends in the middle of an
operator. -/
theorem Legible.append {as bs : List Lexeme} (ha : Legible as) (hb : Legible bs) :
    Legible (as ++ bs) := by
  induction ha with
  | nil => exact hb
  | ident i _ ih => exact .ident i ih
  | mark hc _ ih => exact .mark hc ih
  | joint hc hd _ ih => exact .joint hc hd ih
  | lifetime i _ ih => exact .lifetime i ih
  | literal hl _ ih => exact .literal hl ih
  | opening d _ ih => exact .opening d ih
  | closing d _ ih => exact .closing d ih

namespace Lexeme

/-- The text after a lexeme that the given lexemes follow. -/
def after (a : Lexeme) : List Lexeme → List Char
  | [] => []
  | b :: rest => (if a.spaced b then [' '] else []) ++ textAll (b :: rest)

/-- Lexemes are written as the first one and what comes after it. -/
theorem textAll_cons (a : Lexeme) (ls : List Lexeme) : textAll (a :: ls) = a.text ++ a.after ls := by
  cases ls with
  | nil => simp [textAll, after]
  | cons b rest => simp [textAll, after]

end Lexeme

/-- A text that starts with none of the characters that could continue a lexeme. -/
def Stops (rest : List Char) : Prop := ∀ c ∈ rest.head?, c = ' ' ∨ c = ')' ∨ c = ']'

/-- Only closing parentheses and brackets follow a lexeme without a space, unless it is joint or an
opening delimiter. -/
theorem Lexeme.closing_of_spaced_eq_false {a b : Lexeme} (hjoint : ∀ c, a ≠ .punct c .joint)
    (hopen : ∀ d, a ≠ .opening d) (h : a.spaced b = false) :
    b = .closing .parenthesis ∨ b = .closing .bracket := by
  unfold spaced at h
  split at h
  · simp at h
  · rename_i d hd
    cases d with
    | parenthesis => exact .inl rfl
    | bracket => exact .inr rfl
    | brace => exact absurd rfl hd
  · simp at h
  · exact absurd rfl (hopen _)
  · exact absurd rfl (hjoint _)
  · simp at h

/-- After a lexeme that is neither joint nor an opening delimiter the text stops. -/
theorem stops_after {a : Lexeme} (hjoint : ∀ c, a ≠ .punct c .joint) (hopen : ∀ d, a ≠ .opening d)
    (ls : List Lexeme) : Stops (a.after ls) := by
  intro c hc
  cases ls with
  | nil => simp [Lexeme.after] at hc
  | cons b rest =>
    rw [Lexeme.after, Lexeme.textAll_cons] at hc
    cases hspace : a.spaced b with
    | true =>
      rw [hspace] at hc
      exact .inl (Option.mem_some_iff.mp hc).symm
    | false =>
      rw [hspace] at hc
      rcases Lexeme.closing_of_spaced_eq_false hjoint hopen hspace with rfl | rfl
      · exact .inr (.inl (Option.mem_some_iff.mp hc).symm)
      · exact .inr (.inr (Option.mem_some_iff.mp hc).symm)

/-- Where the text stops, no word goes on. -/
theorem Stops.endsWord {rest : List Char} (h : Stops rest) : EndsWord rest := by
  intro c hc
  rcases h c hc with rfl | rfl | rfl <;> decide

/-- Where the text stops, a literal has no suffix. -/
theorem Stops.suffix_eq {rest : List Char} (h : Stops rest) : Text.suffix rest = ([], rest) := by
  unfold Text.suffix word?
  cases rest with
  | nil => rfl
  | cons c cs =>
    have hstart : isWordStart c = false := by
      rcases h c rfl with rfl | rfl | rfl <;> decide
    simp [hstart]

/-- Where the text stops, there is no mark. -/
theorem Stops.isMark_eq_false {rest : List Char} (h : Stops rest) : Piece.isMark rest = false := by
  cases rest with
  | nil => rfl
  | cons c cs =>
    have hmark : c ∉ Piece.marks := by
      rcases h c rfl with rfl | rfl | rfl <;> decide
    simp [Piece.isMark, hmark]

namespace Piece

/-- A comment starts with a slash. -/
theorem isComment_cons_eq_false {c : Char} (h : c ≠ '/') (cs : List Char) :
    isComment (c :: cs) = false := by
  unfold isComment
  split <;> simp_all

/-- A character that no literal starts with. -/
def StartsNoLiteral (c : Char) : Prop :=
  c ≠ '\x22' ∧ c ≠ 'r' ∧ c ≠ '\x27' ∧ c ≠ '_' ∧ Quoted.hexDigit? c = none

instance (c : Char) : Decidable (StartsNoLiteral c) :=
  inferInstanceAs (Decidable (c ≠ '\x22' ∧ c ≠ 'r' ∧ c ≠ '\x27' ∧ c ≠ '_' ∧
    Quoted.hexDigit? c = none))

/-- No number starts with a character that is no hexadecimal digit. -/
theorem isDigit_of_hexDigit?_eq_none {c : Char} (h : Quoted.hexDigit? c = none) :
    c.isDigit = false := by
  cases hd : c.isDigit with
  | false => rfl
  | true =>
    have hrange : '0' ≤ c ∧ c ≤ '9' := by
      simp only [Char.isDigit, Bool.and_eq_true, decide_eq_true_eq] at hd
      exact hd
    simp [Quoted.hexDigit?, hrange] at h

/-- A text with such a character at its start starts with no literal. -/
theorem literal?_cons_eq_none {c : Char} (h : StartsNoLiteral c) (cs : List Char) :
    literal? (c :: cs) = none := by
  obtain ⟨hquote, hr, hapostrophe, hbar, hhex⟩ := h
  have hdigit := isDigit_of_hexDigit?_eq_none hhex
  -- The letters that announce a literal, and the digit before a base, are hexadecimal digits.
  have hne : ∀ d, Quoted.hexDigit? d ≠ none → c ≠ d := by
    rintro d hd rfl
    exact hd hhex
  have hb : c ≠ 'b' := hne 'b' (by decide)
  have hc : c ≠ 'c' := hne 'c' (by decide)
  have h0 : c ≠ '0' := hne '0' (by decide)
  have hquoted : quotedLiteral? .string .ordinary [] (c :: cs) = none := by
    unfold quotedLiteral?
    split <;> simp_all
  have hannounced : announced? (c :: cs) = none := by
    unfold announced?
    split <;> simp_all
  have hchar : charLiteral? .char .ordinary [] (c :: cs) = none :=
    charLiteral?_eq_none fun d hd => by
      obtain rfl : c = d := by simpa using hd
      exact hapostrophe
  have hfloat : float? (c :: cs) = none := by simp [float?, hdigit]
  have hdigits : digits? 10 true (c :: cs) = none := by simp [digits?, hbar, hhex]
  have hinteger : integer? (c :: cs) = none := by
    unfold integer?
    split <;> simp_all
  rw [literal?, hquoted, hannounced, hchar, hfloat, hinteger]
  rfl

/-- A text that starts with a character between lexemes, a comment or a delimiter does not start like
this. -/
def StartsToken (c : Char) : Prop :=
  isBlank c = false ∧ c ≠ '/' ∧ Delimiter.ofOpening? c = none ∧ Delimiter.ofClosing? c = none

instance (c : Char) : Decidable (StartsToken c) :=
  inferInstanceAs (Decidable (isBlank c = false ∧ c ≠ '/' ∧ Delimiter.ofOpening? c = none ∧
    Delimiter.ofClosing? c = none))

/-- A piece that is neither a comment nor blank nor a delimiter is a literal, a mark or a word. -/
theorem piece?_of_startsToken {c : Char} (h : StartsToken c) (cs : List Char) :
    piece? (c :: cs) = (literal? (c :: cs) <|> punct? (c :: cs) <|> ident? (c :: cs)) := by
  obtain ⟨hblank, hslash, hopening, hclosing⟩ := h
  have hcomment := isComment_cons_eq_false hslash cs
  have hblanks : blanks? (c :: cs) = none := by simp [blanks?, hblank]
  have hparen : c ≠ '(' := by
    rintro rfl
    simp [Delimiter.ofOpening?] at hopening
  have hmissing : missing? (c :: cs) = none := by
    simp [missing?, missingText, List.isPrefixOf, hparen.symm]
  have hdelimiter : delimiter? (c :: cs) = none := by simp [delimiter?, hopening, hclosing]
  rw [piece?, hcomment, hblanks, hmissing, hdelimiter]
  rfl

end Piece

/-- A mark at the start of a text is joint just if another mark follows. -/
theorem piece?_mark {c : Char} (hc : IsOperatorMark c) (rest : List Char) :
    piece? (c :: rest) =
      some ⟨[.punct c (if Piece.isMark rest then .joint else .alone)], [c], rest⟩ := by
  obtain ⟨hmark, hslash, hapostrophe⟩ := hc
  -- A fact on each of the marks: none but these two starts a comment or a literal.
  have hall : Piece.marks.all (fun c => c = '/' ∨ c = '\x27' ∨
      Piece.StartsToken c ∧ Piece.StartsNoLiteral c) = true := by decide +kernel
  have hc := List.all_eq_true.mp hall c hmark
  rw [decide_eq_true_eq] at hc
  obtain ⟨htoken, hliteral⟩ := (hc.resolve_left hslash).resolve_left hapostrophe
  have hcomment := Piece.isComment_cons_eq_false hslash rest
  have hpunct : Piece.punct? (c :: rest) =
      some ⟨[.punct c (if Piece.isMark rest then .joint else .alone)], [c], rest⟩ := by
    unfold Piece.punct?
    split
    · simp_all
    · rename_i heq
      obtain ⟨rfl, rfl⟩ := List.cons.inj heq
      simp [Piece.isMark, hcomment, hmark]
    · simp_all
  rw [Piece.piece?_of_startsToken htoken, Piece.literal?_cons_eq_none hliteral, hpunct]
  rfl

/-- The text of an identifier starts like a word, and no apostrophe comes after its first
character. -/
theorem head_ident (i : Ident) {rest : List Char} (hr : EndsWord rest) :
    ∃ c cs, i.text.toList ++ rest = c :: cs ∧ isWordStart c = true ∧ ∀ d ∈ cs.head?, d ≠ '\x27' := by
  have hw := i.word
  rcases h : i.name.toList with _ | ⟨c, cs⟩
  · simp [h, isWord] at hw
  rw [h, isWord, Bool.and_eq_true, List.all_eq_true] at hw
  cases hi : i.raw with
  | false =>
    refine ⟨c, cs ++ rest, by simp [Ident.text, hi, h], hw.1, fun d hd => ?_⟩
    exact (noLiteral_append hw.2 hr d hd).2.1
  | true =>
    refine ⟨'r', '#' :: c :: cs ++ rest, by simp [Ident.text, hi, h], by decide, fun d hd => ?_⟩
    obtain rfl : '#' = d := by simpa using hd
    decide

/-- The identifier at the start of a text, if what follows it is no part of it. -/
theorem rawOrPlain?_ident (i : Ident) {rest : List Char} (hr : EndsWord rest) :
    Piece.rawOrPlain? (i.text.toList ++ rest) = some (i, i.text.toList, rest) := by
  cases hi : i.raw with
  | false =>
    obtain ⟨raw, name, word, rawable⟩ := i
    subst hi
    exact Piece.rawOrPlain?_word word hr
  | true =>
    have htext : i.text.toList = rawMark ++ i.name.toList := by simp [Ident.text, hi, rawMark]
    rw [htext]
    exact Piece.rawOrPlain?_raw hi hr

/-- An apostrophe before an identifier is the mark of a lifetime. -/
theorem piece?_apostrophe (i : Ident) {rest : List Char} (hr : EndsWord rest) :
    piece? ('\x27' :: (i.text.toList ++ rest)) =
      some ⟨[.punct '\x27' .joint], ['\x27'], i.text.toList ++ rest⟩ := by
  have hident := rawOrPlain?_ident i hr
  obtain ⟨c, cs, htext, hc, hcs⟩ := head_ident i hr
  have hafter : rest.head? ≠ some '\x27' ∧ rest.head? ≠ some '#' := by
    refine ⟨fun h => ?_, fun h => ?_⟩
    · exact absurd rfl (hr '\x27' h).2.2.1
    · exact absurd rfl (hr '#' h).2.2.2
  have hpunct : Piece.punct? ('\x27' :: (i.text.toList ++ rest)) =
      some ⟨[.punct '\x27' .joint], ['\x27'], i.text.toList ++ rest⟩ := by
    simp [Piece.punct?, hident, hafter]
  -- It would start a character literal only if another apostrophe came after one character.
  have hchar : Piece.charLiteral? .char .ordinary [] ('\x27' :: c :: cs) = none := by
    have hescape := ne_of_isWordStart hc '\\'
    simp only [Piece.charLiteral?, hescape, if_false, Quoted.Dialect.ordinary, or_true, if_true]
    split
    · rename_i heq
      obtain ⟨-, rfl⟩ := Prod.mk.inj (Option.some.inj heq)
      exact absurd rfl (hcs '\x27' rfl)
    · rfl
  have hliteral : Piece.literal? ('\x27' :: c :: cs) = none := by
    rw [Piece.literal?, hchar]
    simp [Piece.quotedLiteral?, Piece.announced?, float?, integer?, digits?,
      show Quoted.hexDigit? '\x27' = none by decide]
  have htoken : Piece.StartsToken '\x27' := by decide
  rw [Piece.piece?_of_startsToken htoken, hpunct, htext, hliteral]
  rfl

/-- A literal without a suffix, where the text stops after it. -/
theorem ofLiteral_eq (kind : LiteralKind) (body : List Char) {rest : List Char} (hr : Stops rest) :
    Piece.ofLiteral kind (body, rest) = ⟨[.literal ⟨kind, .ofList body, ""⟩], body, rest⟩ := by
  simp [Piece.ofLiteral, hr.suffix_eq]

/-- Text that can be shown as it is ends at the quote after it. -/
theorem verbatim?_append {allowed : Char → Bool} (hall : ∀ c, allowed c = true) {cs : List Char}
    (h : IsShown cs) (rest : List Char) :
    Piece.verbatim? allowed 0 (cs ++ '\x22' :: rest) = some (cs ++ ['\x22'], rest) := by
  induction cs with
  | nil => simp [Piece.verbatim?]
  | cons c cs ih =>
    obtain ⟨hquote, hreturn⟩ := h c (by simp)
    have htail := ih fun d hd => h d (by simp [hd])
    rw [List.cons_append, Piece.verbatim?, htail]
    simp [hquote, hreturn, hall, Split.cons]

/-- A literal that shows its text between plain quotes. -/
theorem rawLiteral?_append {allowed : Char → Bool} (hall : ∀ c, allowed c = true) {cs : List Char}
    (h : IsShown cs) (rest : List Char) :
    Piece.rawLiteral? allowed ('\x22' :: (cs ++ '\x22' :: rest)) =
      some ('\x22' :: (cs ++ ['\x22']), rest) := by
  have hmarks : ('\x22' :: (cs ++ '\x22' :: rest)).takeWhile (· == '#') = [] := by simp
  have hquote : ('\x22' :: (cs ++ '\x22' :: rest)).dropWhile (· == '#') =
      '\x22' :: (cs ++ '\x22' :: rest) := by simp
  rw [Piece.rawLiteral?, hmarks, hquote]
  simp [verbatim?_append hall h, Split.prepend]

/-- A literal that this library writes is read to its end, where the text stops after it. -/
theorem piece?_literal {l : Literal} (hl : IsWritten l) {rest : List Char} (hr : Stops rest) :
    piece? (l.text.toList ++ rest) = some ⟨[.literal l], l.text.toList, rest⟩ := by
  cases hl with
  | ofString s =>
    have htoken : Piece.StartsToken '\x22' := by decide
    have htext : (Literal.ofString s).text.toList =
        '\x22' :: (Quoted.encode s.toList ++ ['\x22']) := by
      simp [Literal.ofString, Literal.text, Quoted.quote]
    have hliteral : Piece.quotedLiteral? .string .ordinary []
        ('\x22' :: (Quoted.encode s.toList ++ '\x22' :: rest)) =
          some ⟨[.literal (.ofString s)], (Literal.ofString s).text.toList, rest⟩ := by
      rw [htext]
      simp only [Piece.quotedLiteral?, Quoted.scan_encode, Option.map_some, Split.prepend,
        ofLiteral_eq _ _ hr]
      rfl
    rw [htext, List.cons_append, List.append_assoc, List.singleton_append,
      Piece.piece?_of_startsToken htoken, Piece.literal?, hliteral, htext]
    rfl
  | verbatim s h =>
    have htoken : Piece.StartsToken 'r' := by decide
    have htext : (Literal.verbatim s).text.toList = 'r' :: '\x22' :: (s.toList ++ ['\x22']) := by
      simp [Literal.verbatim, Literal.text]
    have hbody : String.ofList ('r' :: '\x22' :: (s.toList ++ ['\x22'])) = "r\"" ++ s ++ "\"" := by
      rw [← String.toList_inj]
      simp
    have hliteral : Piece.quotedLiteral? .string .ordinary []
        ('r' :: '\x22' :: (s.toList ++ '\x22' :: rest)) =
          some ⟨[.literal (.verbatim s)], (Literal.verbatim s).text.toList, rest⟩ := by
      rw [htext, Literal.verbatim, ← hbody]
      simp only [Piece.quotedLiteral?]
      rw [rawLiteral?_append (by simp [Quoted.Dialect.ordinary]) h]
      simp only [Option.map_some, Split.prepend, List.nil_append, List.singleton_append,
        ofLiteral_eq _ _ hr]
    rw [htext, List.cons_append, List.cons_append, List.append_assoc, List.singleton_append,
      Piece.piece?_of_startsToken htoken, Piece.literal?, hliteral, htext]
    rfl

/-- An opening delimiter is a lexeme by itself, where no comment follows it. -/
theorem piece?_opening (d : Delimiter) {rest : List Char} (hr : rest.head? ≠ some '/') :
    piece? (d.opening :: rest) = some ⟨[.opening d], [d.opening], rest⟩ := by
  -- The text for a missing literal is the only other piece that starts like a group.
  have hmissing : Piece.missing? (d.opening :: rest) = none := by
    cases rest with
    | nil => cases d <;> rfl
    | cons c cs =>
      have hc : ('/' == c) = false := by
        rw [beq_eq_false_iff_ne]
        rintro rfl
        exact hr rfl
      cases d <;> simp [Piece.missing?, Piece.missingText, List.isPrefixOf, Delimiter.opening, hc]
  have hcomment : Piece.isComment (d.opening :: rest) = false := by cases d <;> rfl
  have hblanks : Piece.blanks? (d.opening :: rest) = none := by cases d <;> rfl
  have hdelimiter : Piece.delimiter? (d.opening :: rest) =
      some ⟨[.opening d], [d.opening], rest⟩ := by
    simp [Piece.delimiter?]
  rw [piece?, hcomment, hblanks, hmissing, hdelimiter]
  rfl

/-- A closing delimiter is a lexeme by itself. -/
theorem piece?_closing (d : Delimiter) (rest : List Char) :
    piece? (d.closing :: rest) = some ⟨[.closing d], [d.closing], rest⟩ := by
  cases d <;> rfl

/-- A single space is a piece without lexemes. -/
theorem piece?_space {rest : List Char} (hr : ∀ c ∈ rest.head?, isBlank c = false) :
    piece? (' ' :: rest) = some ⟨[], [' '], rest⟩ := by
  have hspace : isBlank ' ' = true := by decide
  have hrest : rest.takeWhile isBlank = [] ∧ rest.dropWhile isBlank = rest := by
    cases rest with
    | nil => exact ⟨rfl, rfl⟩
    | cons c cs =>
      have hc : isBlank c = false := hr c rfl
      simp [hc]
  have hblanks : Piece.blanks? (' ' :: rest) = some ⟨[], [' '], rest⟩ := by
    simp [Piece.blanks?, hspace, hrest]
  rw [piece?, show Piece.isComment (' ' :: rest) = false from rfl, hblanks]
  rfl

end EnumCases
