import EnumCases.Proofs.Declared
import EnumCases.Proofs.Gaps
import EnumCases.Proofs.Reading

/-!
# Escaping an identifier again

An identifier that is no keyword has one normal form: its name, raw just if the name is a keyword.
Escaping its text gives that form (`Ident.escape_text`), and every escaped name is no keyword, so
that a second escape settles it. The first one may leave a mark that is not needed, but only one
that was written: a raw identifier stands in the bare name (`Ident.needlesslyRaw_escape_iff`).

Main statement: what escaping does to an escaped name (`Ident.escaped_again`).
-/

namespace EnumCases

open Text

/-- The labels of associated values. -/
def Payload.labels : Payload → List String
  | .record labels => labels
  | _ => []

/-- The names in a case. -/
def Case.names (c : Case) : List String := c.id :: c.payload.labels

/-- The names in a member. -/
def Member.names : Member → List String
  | .cases group => group.flatMap Case.names
  | .type name _ => [name]
  | .function name => [name]
  | .other => []

/-- The names that a declaration holds. -/
def Declaration.names : Declaration → List String
  | .enum e => e.name :: e.members.flatMap Member.names
  | .other name _ => [name]

/-- A name in the declaration of an item that is read. -/
def IsReadName (name : String) : Prop :=
  ∃ ts i d, Item.read ts = .ok i ∧ i.declaration = .ok d ∧ name ∈ d.names

/-! ### Names that are read -/

/-- The labels of a variant are those of its fields in braces. -/
theorem Variant.labels_case (v : Variant) :
    v.case.payload.labels = v.fields.labels.map Ident.name := by
  unfold Variant.case Fields.labels
  cases v.fields with
  | unit => rfl
  | positional fields =>
    dsimp only [Case.tuple]
    split <;> rfl
  | labelled fields =>
    cases fields with
    | nil => rfl
    | cons field fields => simp [Case.record, Payload.labels]

/-- The names of a variant are words. -/
theorem Variant.isWord_of_mem_names {v : Variant} {name : String} (h : name ∈ v.case.names) :
    isWord name.toList = true := by
  rcases List.mem_cons.mp h with rfl | hlabel
  · rw [v.id_case]
    exact v.name.word
  · rw [v.labels_case] at hlabel
    obtain ⟨label, -, rfl⟩ := List.mem_map.mp hlabel
    exact label.word

/-- The names in the declaration of an item are words. -/
theorem Item.isWord_of_mem_names {i : Item} {d : Declaration} {name : String}
    (hd : i.declaration = .ok d) (h : name ∈ d.names) : isWord name.toList = true := by
  cases d with
  | other other kind =>
    obtain rfl : name = other := List.mem_singleton.mp h
    unfold declaration at hd
    split at hd
    · obtain ⟨rfl, -⟩ := Declaration.other.inj (Except.ok.inj hd)
      exact i.name.word
    · obtain ⟨rfl, -⟩ := Declaration.other.inj (Except.ok.inj hd)
      exact i.name.word
    · split at hd <;> cases hd
  | enum e =>
    obtain ⟨variants, -, -, rfl⟩ := eq_enumDecl_of_declaration hd
    rcases List.mem_cons.mp h with rfl | hmember
    · exact i.name.word
    · obtain ⟨m, hm, hname⟩ := List.mem_flatMap.mp hmember
      obtain ⟨v, -, rfl⟩ := List.mem_map.mp hm
      obtain ⟨c, hc, hname⟩ := List.mem_flatMap.mp hname
      obtain rfl := List.mem_singleton.mp hc
      exact v.isWord_of_mem_names hname

namespace Ident

/-- A raw identifier that would be a name without its mark. -/
def NeedlesslyRaw (i : Ident) : Prop := i.raw = true ∧ i.name ∉ keywords

/-! ### Identifiers that are escaped -/

/-- The identifier for a written one has the same name, and is raw just if that is a keyword. -/
theorem escape_text {i : Ident} (h : i.isKeyword = false) :
    escape i.text =
      ⟨decide (i.name ∈ keywords), i.name, i.word, fun _ => name_notMem_unrawable h⟩ := by
  apply escape_of_direct?
  rw [stripRaw_text]
  exact direct?_of_isWord i.word (name_notMem_unrawable h)

/-- A written identifier is kept, unless it is needlessly raw. -/
theorem escape_text_eq_iff {i : Ident} (h : i.isKeyword = false) :
    escape i.text = i ↔ ¬ i.NeedlesslyRaw := by
  rw [escape_text h]
  obtain ⟨raw, name, word, rawable⟩ := i
  cases raw with
  | false =>
    have hkeyword : name ∉ keywords := by simpa [isKeyword] using h
    simp [NeedlesslyRaw, hkeyword]
  | true => simp [NeedlesslyRaw]

/-- A word that gets an underscore gets no mark. -/
theorem raw_of_underscored {bare : String} {i : Ident} (hfive : bare ∈ unrawable)
    (htext : i.text = bare ++ "_") : i.raw = false := by
  have hstart : ∀ w ∈ unrawable, (w ++ "_").toList.head? ≠ some 'r' := by decide
  rw [Bool.eq_false_iff]
  intro hraw
  apply hstart bare hfive
  rw [← htext, Ident.text, if_pos hraw, String.toList_append]
  rfl

/-- A word has no mark that is not needed once it is escaped. -/
theorem not_needlesslyRaw_escape_of_isWord {w : String} (hw : isWord w.toList = true) :
    ¬ (escape w).NeedlesslyRaw := by
  by_cases hfive : w ∈ unrawable
  · obtain ⟨i, hdirect, htext⟩ := exists_direct?_of_mem hfive
    rw [← stripRaw_of_isWord hw] at hdirect
    rw [escape_of_direct? hdirect]
    exact fun hraw => absurd hraw.1 (Bool.eq_false_iff.mp (raw_of_underscored hfive htext))
  · rw [escape_of_isWord hw hfive]
    simp [NeedlesslyRaw]

/-- An escaped name is needlessly raw just if that is how it is written. -/
theorem needlesslyRaw_escape_iff {name : String} :
    (escape name).NeedlesslyRaw ↔
      ∃ (i : Ident) (o : Bool), i.StandsIn o (stripRaw name) ∧ i.NeedlesslyRaw := by
  constructor
  · intro h
    have hescapes := escapes_escape name
    revert h hescapes
    generalize escape name = i
    intro h hescapes
    cases hescapes with
    | underscored five text =>
      exact absurd h.1 (Bool.eq_false_iff.mp (raw_of_underscored five text))
    | kept _ one _ =>
      obtain ⟨o, hstands⟩ := isOneIdent_iff.mp one
      exact ⟨i, o, hstands, h⟩
    | marked _ noName one => exact absurd (raw_keyword_of_isNoName noName one).2 h.2
    | mangled needed text =>
      have heq := text_injective (text.trans (escape_mangle needed).2.symm)
      rw [heq, NeedlesslyRaw, (escape_mangle needed).1] at h
      cases h.1
  · rintro ⟨i, o, hstands, hraw⟩
    have hrawable : stripRaw name ∉ unrawable := by
      intro hfive
      obtain ⟨j, hj, hword⟩ := exists_standsIn_of_mem_unrawable hfive
      rw [hstands.isOneIdent.unique hword.isOneIdent] at hraw
      rw [← hj] at hfive
      exact j.rawable hraw.1 hfive
    have hescapes : Escapes (stripRaw name) i :=
      .kept hrawable hstands.isOneIdent (isKeyword_of_raw hraw.1)
    rwa [hescapes.escape_eq]

/-- What escaping does to an escaped name. -/
structure EscapedAgain (name : String) : Prop where
  /-- It stays the same identifier. -/
  same : (escape (escape name).text).Same (escape name)
  /-- A third time changes nothing. -/
  settled : (escape (escape (escape name).text).text).text = (escape (escape name).text).text
  /-- A second time changes nothing just if the name is not needlessly raw. -/
  kept_iff : (escape (escape name).text).text = (escape name).text ↔ ¬ (escape name).NeedlesslyRaw
  /-- A mark that is not needed is lost. -/
  bared : (escape name).NeedlesslyRaw → (escape (escape name).text).text = (escape name).name
  /-- Such a mark was written, before a word that is no keyword. -/
  written : (escape name).NeedlesslyRaw ↔
    ∃ (i : Ident) (o : Bool), i.StandsIn o (stripRaw name) ∧ i.NeedlesslyRaw
  /-- No name that is read has one. -/
  read : IsReadName name → (escape (escape name).text).text = (escape name).text

/-- Whatever a name is, escaping it a second time settles it. -/
theorem escaped_again (name : String) : EscapedAgain name := by
  have hname := isKeyword_escape name
  have hagain := isKeyword_escape (escape name).text
  constructor
  case same => rw [same_iff, escape_text hname]
  case settled =>
    rw [(escape_text_eq_iff hagain).mpr]
    rw [escape_text hname]
    simp [NeedlesslyRaw]
  case kept_iff =>
    rw [← escape_text_eq_iff hname]
    exact ⟨fun h => text_injective h, congrArg text⟩
  case bared =>
    intro hraw
    rw [escape_text hname, text, if_neg]
    simpa using hraw.2
  case written => exact needlesslyRaw_escape_iff
  case read =>
    rintro ⟨ts, i, d, -, hd, hmem⟩
    have hword := i.isWord_of_mem_names hd hmem
    rw [(escape_text_eq_iff hname).mpr (not_needlesslyRaw_escape_of_isWord hword)]

/-- Of two marks of a raw identifier each escape loses one. -/
example : (escape "r#r#foo").text = "r#foo" ∧ (escape "r#foo").text = "foo" := by
  have hfirst : (escape "r#r#foo").text = "r#foo" := by
    rw [escape_of_direct? (i := ⟨true, "foo", Eq.refl true, fun _ => by decide⟩)
      (by decide +kernel)]
    rfl
  have hsecond : (escape "r#foo").text = "foo" := by
    rw [escape_of_direct? (i := plain "foo" (Eq.refl true)) (by decide +kernel)]
    rfl
  exact ⟨hfirst, hsecond⟩

end Ident

end EnumCases
