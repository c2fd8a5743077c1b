import EnumCases.Token.Word

/-!
# Names as identifiers

The derived members are named after names that may be any text. `Ident.escape` turns a name into an
identifier that is no keyword: a name that is an identifier by itself is kept, a keyword becomes a
raw identifier, one of the five words that cannot be raw gets an underscore at its end, and any
other name is mangled to a word first.
-/

namespace EnumCases.Ident

/-- The identifier that a text consists of, if it is one and no keyword. Blanks and comments around
it do not count. -/
def read? (text : String) : Option Ident :=
  match lex text with
  | .ok [.ident i _] => if i.isKeyword then none else some i
  | _ => none

/-- The identifier for a name that needs no mangling. -/
def direct? (bare : String) : Option Ident :=
  if bare ∈ unrawable then ofName? false (bare ++ "_") else read? bare <|> read? ("r#" ++ bare)

/-- The character of a mangled name that stands for `c`. -/
def mangleChar (c : Char) : Char := if c.isAlphanum then c else '_'

/-- A name as a word of ASCII letters, digits and underscores: an underscore stands for any other
character, and before a digit at the start. -/
def mangle (bare : String) : String :=
  let cs := bare.toList.map mangleChar
  .ofList (if cs.head?.all Char.isDigit then '_' :: cs else cs)

theorem toNat_lt_of_isAlphanum {c : Char} (h : c.isAlphanum = true) : c.toNat < 128 := by
  have bound {m : UInt32} (hc : c.val ≤ m) (hm : m.toNat < 128) : c.toNat < 128 :=
    Nat.lt_of_le_of_lt (UInt32.le_iff_toNat_le.mp hc) hm
  have h : (c.isUpper || c.isLower || c.isDigit) = true := h
  simp only [Bool.or_eq_true] at h
  rcases h with (upper | lower) | digit
  · exact bound (of_decide_eq_true upper).2 (by decide)
  · exact bound (of_decide_eq_true (Bool.and_eq_true_iff.mp lower).2) (by decide)
  · exact bound (of_decide_eq_true (Bool.and_eq_true_iff.mp digit).2) (by decide)

theorem isWordContinue_mangleChar (c : Char) : Text.isWordContinue (mangleChar c) = true := by
  unfold mangleChar
  split
  · rename_i h
    simp [Text.isWordContinue, toNat_lt_of_isAlphanum h, h]
  · decide

theorem isWordStart_mangleChar {c : Char} (hd : (mangleChar c).isDigit = false) :
    Text.isWordStart (mangleChar c) = true := by
  unfold mangleChar at hd ⊢
  split
  · rename_i h
    have hlt := toNat_lt_of_isAlphanum h
    simp_all [Text.isWordStart, Char.isAlphanum]
  · decide

/-- A mangled name is a word. -/
theorem isWord_mangle (bare : String) : Text.isWord (mangle bare).toList = true := by
  simp only [mangle, String.toList_ofList]
  split
  · simp only [Text.isWord, List.all_map, Bool.and_eq_true, List.all_eq_true]
    exact ⟨by decide, fun c _ => isWordContinue_mangleChar c⟩
  · rename_i h
    rcases hb : bare.toList with _ | ⟨c, cs⟩
    · simp [hb] at h
    · simp only [hb, List.map_cons, List.head?_cons, Option.all_some, Bool.not_eq_true] at h
      simp only [List.map_cons, Text.isWord, List.all_map, Bool.and_eq_true, List.all_eq_true]
      exact ⟨isWordStart_mangleChar h, fun c _ => isWordContinue_mangleChar c⟩

/-- A mangled name does not start with the mark of a raw identifier. -/
theorem stripRaw_mangle (bare : String) : stripRaw (mangle bare) = mangle bare := by
  have hw := isWord_mangle bare
  unfold stripRaw
  split
  · rename_i heq
    rw [heq] at hw
    exact absurd hw (by simp [Text.isWord, show Text.isWordContinue '#' = false by decide])
  · rfl

/-- The identifier that a word is by itself is read back. -/
theorem read?_text (i : Ident) (h : i.isKeyword = false) : read? i.text = some i := by
  simp [read?, lex_ident, h]

/-- A word needs no mangling. -/
theorem isSome_direct?_word {w : String} (hw : Text.isWord w.toList = true) :
    (direct? w).isSome = true := by
  unfold direct?
  split
  · rename_i h
    have five : ∀ w ∈ unrawable, (ofName? false (w ++ "_")).isSome = true := by decide
    exact five w h
  · rename_i h
    have raw := read?_text ⟨true, w, hw, fun _ => h⟩ rfl
    rw [show (⟨true, w, hw, fun _ => h⟩ : Ident).text = "r#" ++ w from rfl] at raw
    rw [raw]
    cases read? w <;> rfl

/-- An identifier for a name: the name's own if it has one, else that of the mangled name. -/
def escape (name : String) : Ident :=
  match _h : direct? (stripRaw name) with
  | some i => i
  | none => escape (mangle (stripRaw name))
termination_by (direct? (stripRaw name)).isNone.toNat
decreasing_by
  have := isSome_direct?_word (isWord_mangle (stripRaw name))
  rw [stripRaw_mangle, _h, Option.isNone_eq_false_iff.mpr this]
  decide

end EnumCases.Ident
