import EnumCases.Text.Quoted

/-!
# Quoted text is read to its end

`run` follows the automaton over characters that do not end the text, and collects what they stand
for. Every character is written in a way that takes the automaton from the start of a character to
the start of the next one, and stands for that character (`run_escape`). So a written text is
scanned up to the quote after it, whatever follows (`scan_encode`), and is decoded to the text it
was written for (`decode_encode`).
-/

namespace EnumCases.Text.Quoted

/-- The phase after the given characters and the text that they stand for, unless one of them cannot
stand here or ends the text. -/
def run (d : Dialect) : Phase → List Char → Option (Phase × List Char)
  | phase, [] => some (phase, [])
  | phase, c :: cs =>
    match step d phase c with
    | .next phase out => (run d phase cs).map fun (last, text) => (last, out ++ text)
    | _ => none

/-- A run over a character and others is a step and a run. -/
theorem exists_of_run_cons {d : Dialect} {p q : Phase} {c : Char} {cs text : List Char}
    (h : run d p (c :: cs) = some (q, text)) :
    ∃ phase out tail, step d p c = .next phase out ∧ run d phase cs = some (q, tail) ∧
      text = out ++ tail := by
  unfold run at h
  cases hstep : step d p c with
  | reject => simp [hstep] at h
  | close => simp [hstep] at h
  | next phase out =>
    rw [hstep] at h
    obtain ⟨⟨last, tail⟩, hrun, heq⟩ := Option.map_eq_some_iff.mp h
    obtain ⟨rfl, rfl⟩ := Prod.mk.inj heq
    exact ⟨phase, out, tail, rfl, hrun, rfl⟩

/-- A run goes on where the one before it ends. -/
theorem run_append {d : Dialect} {p q r : Phase} {cs ds text more : List Char}
    (hcs : run d p cs = some (q, text)) (hds : run d q ds = some (r, more)) :
    run d p (cs ++ ds) = some (r, text ++ more) := by
  induction cs generalizing p text with
  | nil =>
    obtain ⟨rfl, rfl⟩ := Prod.mk.inj (Option.some.inj hcs)
    exact hds
  | cons c cs ih =>
    obtain ⟨phase, out, tail, hstep, hrun, rfl⟩ := exists_of_run_cons hcs
    rw [List.cons_append, run, hstep, List.append_assoc]
    simp only [ih hrun, Option.map_some]

/-- The scan takes the characters of a run and goes on from its end. -/
theorem scan_of_run {d : Dialect} {p q : Phase} {cs text : List Char}
    (h : run d p cs = some (q, text)) (rest : List Char) :
    scan d p (cs ++ rest) = (scan d q rest).map fun (taken, rest) => (cs ++ taken, rest) := by
  induction cs generalizing p text with
  | nil =>
    obtain ⟨rfl, -⟩ := Prod.mk.inj (Option.some.inj h)
    rw [List.nil_append]
    cases scan d p rest <;> rfl
  | cons c cs ih =>
    obtain ⟨phase, out, tail, hstep, hrun, -⟩ := exists_of_run_cons h
    rw [List.cons_append, scan, hstep]
    simp only [ih hrun, Option.map_map]
    rfl

/-- What the characters of a run stand for comes first in the decoded text. -/
theorem decode_of_run {d : Dialect} {p q : Phase} {cs text : List Char}
    (h : run d p cs = some (q, text)) (rest : List Char) :
    decode d p (cs ++ rest) = (decode d q rest).map (text ++ ·) := by
  induction cs generalizing p text with
  | nil =>
    obtain ⟨rfl, rfl⟩ := Prod.mk.inj (Option.some.inj h)
    rw [List.nil_append]
    cases decode d p rest <;> rfl
  | cons c cs ih =>
    obtain ⟨phase, out, tail, hstep, hrun, rfl⟩ := exists_of_run_cons h
    rw [List.cons_append, decode, hstep]
    simp only [ih hrun, Option.map_map, Function.comp_def, List.append_assoc]

/-- A hexadecimal digit as it is written has its value. -/
theorem hexDigit?_digitChar {n : Nat} (h : n < 16) : hexDigit? n.digitChar = some n := by
  have hall : ∀ n < 16, hexDigit? n.digitChar = some n := by decide
  exact hall n h

/-- The digits of a number in an escape add up to the number. -/
theorem run_toDigits (d : Dialect) (n : Nat) (h : (Nat.toDigits 16 n).length ≤ 6) :
    run d (.codePoint 0 0) (Nat.toDigits 16 n) =
      some (.codePoint (Nat.toDigits 16 n).length n, []) := by
  induction n using Nat.strongRecOn with
  | ind n ih =>
    by_cases hlt : n < 16
    · rw [Nat.toDigits_of_lt_base hlt]
      simp [run, step, codePointStep, hexDigit?_digitChar hlt]
    · -- All digits but the last are those of the quotient.
      have hsplit := Nat.toDigits_of_base_le (b := 16) (by decide) (Nat.le_of_not_lt hlt)
      rw [hsplit, List.length_append, List.length_singleton] at h
      have hquotient := ih (n / 16) (by omega) (by omega)
      have hdigit : hexDigit? (n % 16).digitChar = some (n % 16) :=
        hexDigit?_digitChar (Nat.mod_lt _ (by decide))
      have hlast : run d (.codePoint (Nat.toDigits 16 (n / 16)).length (n / 16))
          [(n % 16).digitChar] =
            some (.codePoint ((Nat.toDigits 16 (n / 16)).length + 1) (16 * (n / 16) + n % 16), []) := by
        simp [run, step, codePointStep, hdigit, show (Nat.toDigits 16 (n / 16)).length < 6 by omega]
      rw [hsplit, run_append hquotient hlast, Nat.div_add_mod, List.length_append]
      rfl

/-- A code point has at most six digits. -/
theorem length_toDigits_toNat (c : Char) : (Nat.toDigits 16 c.toNat).length ≤ 6 := by
  rw [Nat.length_toDigits_le_iff (by decide) (by decide)]
  have hvalid := c.valid
  have hlt : c.toNat < 0x110000 := by
    rcases hvalid with h | ⟨-, h⟩
    · exact Nat.lt_trans h (by decide)
    · exact h
  omega

/-- The escape of a code point stands for the character. -/
theorem run_escapeCodePoint (c : Char) :
    run .ordinary .text (escapeCodePoint c) = some (.text, [c]) := by
  -- The automaton goes through the announcement, the digits and the closing brace.
  have hstart : run .ordinary .text ['\\', 'u', '\x7b'] = some (.codePoint 0 0, []) := by decide
  have hdigits := run_toDigits .ordinary c.toNat (length_toDigits_toNat c)
  have hpos : (Nat.toDigits 16 c.toNat).length ≠ 0 := Nat.ne_of_gt Nat.length_toDigits_pos
  have hclose : hexDigit? '\x7d' = none := by decide
  have hchar : Dialect.ordinary.char? c.toNat = some c := by
    have hvalid : c.toNat.isValidChar := c.valid
    simp [Dialect.char?, hvalid, Dialect.ordinary]
  have hend : run .ordinary (.codePoint (Nat.toDigits 16 c.toNat).length c.toNat) ['\x7d'] =
      some (.text, [c]) := by
    simp [run, step, codePointStep, hclose, hpos, hchar]
  exact run_append (run_append hstart hdigits) hend

/-- A character that shows as itself stands for itself. -/
theorem run_self {c : Char} (hquote : c ≠ '\x22') (hescape : c ≠ '\\') (hreturn : c ≠ '\r') :
    run .ordinary .text [c] = some (.text, [c]) := by
  simp [run, step, textStep, hquote, hescape, hreturn, Dialect.ordinary]

/-- A character as it is written stands for that character. -/
theorem run_escape (c : Char) (next : Option Char) :
    run .ordinary .text (escape c next) = some (.text, [c]) := by
  unfold escape
  -- The escapes with a letter are closed terms; what is left shows itself or its code point.
  split
  · split
    · decide
    · decide
  · decide
  · decide
  · decide
  · decide
  · decide
  · split
    · exact run_self (by assumption) (by assumption) (by assumption)
    · exact run_escapeCodePoint c

/-- A text as it is written stands for that text. -/
theorem run_encode (cs : List Char) : run .ordinary .text (encode cs) = some (.text, cs) := by
  induction cs with
  | nil => rfl
  | cons c cs ih => exact run_append (run_escape c cs.head?) ih

/-- A written text ends at the quote after it. -/
theorem scan_encode (cs rest : List Char) :
    scan .ordinary .text (encode cs ++ '\x22' :: rest) = some (encode cs ++ ['\x22'], rest) := by
  rw [scan_of_run (run_encode cs), scan]
  rfl

/-- A written text and the quote after it are decoded to that text. -/
theorem decode_encode (cs : List Char) :
    decode .ordinary .text (encode cs ++ ['\x22']) = some cs := by
  have hquote : decode .ordinary .text ['\x22'] = some [] := by decide
  rw [decode_of_run (run_encode cs), hquote, Option.map_some, List.append_nil]

end EnumCases.Text.Quoted
