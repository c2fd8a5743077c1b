import EnumCases.Code.Items
import Mathlib.Tactic.SplitIfs

/-!
# Escaping of names that are words

Two identifiers are the same (`Ident.Same`) when they agree without the mark of a raw identifier. A
word that may be raw is escaped to itself, as a raw identifier just if it is a keyword
(`Ident.escape_of_isWord`). The name of an identifier that is no keyword is therefore escaped to the
same identifier (`Ident.same_escape_name`), and a discriminator of such a host is a plain identifier
with the host's name before its own (`Ident.discriminator_eq_plain`), which is not the host's
(`Ident.not_same_discriminator`).
-/

namespace EnumCases

/-- A word has no mark of a raw identifier. -/
theorem stripRaw_of_isWord {w : String} (hw : Text.isWord w.toList = true) : stripRaw w = w := by
  unfold stripRaw
  split
  · rename_i heq
    have hmark : Text.isWordContinue '#' = false := by decide
    rw [heq] at hw
    simp [Text.isWord, hmark] at hw
  · rfl

namespace Ident

/-- The name of an identifier is its text without the mark of a raw one. -/
theorem stripRaw_text (i : Ident) : stripRaw i.text = i.name := by
  cases hi : i.raw with
  | false =>
    rw [text, hi]
    exact stripRaw_of_isWord i.word
  | true =>
    have htext : i.text.toList = 'r' :: '#' :: i.name.toList := by simp [text, hi]
    simp [stripRaw, htext]

/-- Two identifiers are the same if they agree without the mark of a raw identifier. -/
def Same (i j : Ident) : Prop := stripRaw i.text = stripRaw j.text

/-- The same identifiers have the same name. -/
theorem same_iff {i j : Ident} : i.Same j ↔ i.name = j.name := by
  rw [Same, stripRaw_text, stripRaw_text]

/-- The words that cannot be raw are keywords. -/
theorem mem_keywords_of_mem_unrawable {w : String} (h : w ∈ unrawable) : w ∈ keywords := by
  have hall : ∀ w ∈ unrawable, w ∈ keywords := by decide
  exact hall w h

/-- A name that needs no mangling is escaped directly. -/
theorem escape_of_direct? {name : String} {i : Ident} (h : direct? (stripRaw name) = some i) :
    escape name = i := by
  rw [escape]
  split
  · rename_i heq
    rw [h] at heq
    exact (Option.some.inj heq).symm
  · rename_i heq
    simp [h] at heq

/-- What is read as an identifier is no keyword. -/
theorem isKeyword_of_read? {text : String} {i : Ident} (h : read? text = some i) :
    i.isKeyword = false := by
  unfold read? at h
  split at h
  · split_ifs at h with hkeyword
    obtain rfl := Option.some.inj h
    exact Bool.not_eq_true _ ▸ hkeyword
  · cases h

/-- An identifier for a name that needs no mangling is no keyword. -/
theorem isKeyword_of_direct? {bare : String} {i : Ident} (h : direct? bare = some i) :
    i.isKeyword = false := by
  unfold direct? at h
  split_ifs at h with hfive
  · have hall : ∀ w ∈ unrawable, ∀ j ∈ ofName? false (w ++ "_"), j.isKeyword = false := by decide
    exact hall bare hfive i h
  · cases hplain : read? bare with
    | some j =>
      rw [hplain] at h
      obtain rfl : j = i := Option.some.inj h
      exact isKeyword_of_read? hplain
    | none =>
      rw [hplain] at h
      exact isKeyword_of_read? h

/-- Whatever a name is, its identifier is no keyword. -/
theorem isKeyword_escape (name : String) : (escape name).isKeyword = false := by
  fun_induction escape name with
  | case1 name i hdirect => exact isKeyword_of_direct? hdirect
  | case2 name hdirect ih => exact ih

/-- A word that may be raw needs no mangling, and becomes raw just if it is a keyword. -/
theorem direct?_of_isWord {w : String} (hw : Text.isWord w.toList = true) (hr : w ∉ unrawable) :
    direct? w = some ⟨decide (w ∈ keywords), w, hw, fun _ => hr⟩ := by
  -- The word is tried as it is, which fails just for keywords, and then as a raw identifier.
  have hplain : read? w = if (plain w hw).isKeyword then none else some (plain w hw) := by
    have hlex := lex_ident (plain w hw)
    rw [show (plain w hw).text = w from rfl] at hlex
    rw [read?, hlex]
  have hraw : read? ("r#" ++ w) = some ⟨true, w, hw, fun _ => hr⟩ :=
    read?_text ⟨true, w, hw, fun _ => hr⟩ rfl
  rw [direct?, if_neg hr, hplain, hraw]
  by_cases hk : w ∈ keywords
  · simp [isKeyword, plain, hk]
  · simp [isKeyword, plain, hk]

/-- The identifier for a word that may be raw. -/
theorem escape_of_isWord {w : String} (hw : Text.isWord w.toList = true) (hr : w ∉ unrawable) :
    escape w = ⟨decide (w ∈ keywords), w, hw, fun _ => hr⟩ := by
  apply escape_of_direct?
  rw [stripRaw_of_isWord hw]
  exact direct?_of_isWord hw hr

/-- The name of an identifier that is no keyword may be raw. -/
theorem name_notMem_unrawable {i : Ident} (h : i.isKeyword = false) : i.name ∉ unrawable := by
  cases hi : i.raw with
  | true => exact i.rawable hi
  | false =>
    intro hmem
    simp [isKeyword, hi, mem_keywords_of_mem_unrawable hmem] at h

/-- The name of an identifier that is no keyword is escaped to the same identifier. -/
theorem same_escape_name {i : Ident} (h : i.isKeyword = false) : (escape i.name).Same i := by
  rw [same_iff, escape_of_isWord i.word (name_notMem_unrawable h)]

/-- The wildcard is no name, and gets an underscore. -/
theorem escape_wildcard : escape wildcard.name = plain "__" := by
  apply escape_of_direct?
  decide

/-- A word and letters after it are a word. -/
theorem isWord_append {w : String} (suffix : String) (hw : Text.isWord w.toList = true)
    (hs : suffix.toList.all Text.isWordContinue = true) :
    Text.isWord (w ++ suffix).toList = true := by
  rw [String.toList_append]
  rcases h : w.toList with _ | ⟨c, cs⟩
  · simp [h, Text.isWord] at hw
  · rw [h, Text.isWord, Bool.and_eq_true] at hw
    rw [List.cons_append, Text.isWord, List.all_append, hw.1, hw.2, hs]
    rfl

/-- No keyword ends with the discriminator's name. -/
theorem append_discriminatorName_notMem_keywords (name : String) :
    name ++ discriminatorName ∉ keywords := by
  intro hmem
  have hnone : ∀ w ∈ keywords, ¬ discriminatorName.toList <:+ w.toList := by decide
  apply hnone _ hmem
  rw [String.toList_append]
  exact List.suffix_append _ _

/-- The discriminator of a host with a word for its name is a plain identifier. -/
theorem discriminator_eq_plain (host : Ident) :
    ∃ word, discriminator host.name discriminatorName =
      plain (host.name ++ discriminatorName) word := by
  have hword := isWord_append discriminatorName host.word (by decide)
  have hkeyword := append_discriminatorName_notMem_keywords host.name
  have hraw : host.name ++ discriminatorName ∉ unrawable :=
    fun h => hkeyword (mem_keywords_of_mem_unrawable h)
  refine ⟨hword, ?_⟩
  rw [discriminator, stripRaw_of_isWord host.word, escape_of_isWord hword hraw]
  simp [plain, hkeyword]

/-- A discriminator is not called like its host. -/
theorem not_same_discriminator {host : Ident} (h : host.isKeyword = false) :
    ¬ (discriminator host.name discriminatorName).Same (escape host.name) := by
  intro halike
  obtain ⟨word, htype⟩ := discriminator_eq_plain host
  have hnames := same_iff.mp halike
  rw [htype, same_iff.mp (same_escape_name h)] at hnames
  have hlength : (host.name ++ discriminatorName).length = host.name.length :=
    congrArg String.length hnames
  simp [discriminatorName] at hlength

end Ident

end EnumCases
