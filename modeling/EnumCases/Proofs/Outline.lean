import EnumCases.Expansion
import EnumCases.Trace
import EnumCases.Proofs.Synthesis
import Mathlib.Logic.Relation

/-!
# The outline of an enum

All that counts of an enum is its outline (`EnumDecl.SameOutline`): its name, the sequence of its
cases, whether it is exported, and whether a nested type is in the way of the discriminator. An edit
(`EnumDecl.Edit`) cuts a group of cases in two, or puts in a member or a modifier that says nothing
about these. `Edit.sameOutline` shows that one edit keeps the outline, and `sameOutline_of_eqvGen`
that any number of them does, made or undone.

Main statement: enums of the same outline, and enums that are joined by edits, cannot be told apart
by their verdict, their members, the tokens of these or what is logged
(`EnumDecl.indistinguishable_of_sameOutline`).
-/

namespace EnumCases

/-- A modifier that does not export. -/
inductive Modifier.IsUnrelated : Modifier → Prop where
  /-- A scope, whatever it is called. -/
  | restricted (path : String) : IsUnrelated (.restricted path)
  /-- A word, even one for an exported enum. -/
  | other (text : String) : IsUnrelated (.other text)

/-- A member that declares no case and is not in the way of the discriminator. -/
inductive Member.IsUnrelated : Member → Prop where
  /-- A group without cases. -/
  | noCases : IsUnrelated (.cases [])
  /-- A nested type with another name than the discriminator's. -/
  | type {name : String} (h : name ≠ discriminatorName) (kind : TypeKind) :
    IsUnrelated (.type name kind)
  /-- A function of any name, even of the discriminator's. -/
  | function (name : String) : IsUnrelated (.function name)
  /-- Anything else. -/
  | other : IsUnrelated .other

namespace EnumDecl

/-- Enums that agree on all that members are derived from. -/
structure SameOutline (e e' : EnumDecl) : Prop where
  /-- They have the same name. -/
  name : e.name = e'.name
  /-- They have the same cases in the same order, whatever the groups are. -/
  cases : e.cases = e'.cases
  /-- Both are exported, or neither is. -/
  exported : .exported ∈ e.modifiers ↔ .exported ∈ e'.modifiers
  /-- A nested type has the discriminator's name in both, or in neither. -/
  conflict : e.HasConflict ↔ e'.HasConflict

/-- Enums that no stage of the derivation tells apart. -/
structure Indistinguishable (e e' : EnumDecl) : Prop where
  /-- They have the same verdict, and the same name and cases if that is good. -/
  validate : (Declaration.enum e).validate = (Declaration.enum e').validate
  /-- They have the same members. -/
  transform : (Declaration.enum e).transform = (Declaration.enum e').transform
  /-- The members are the same tokens, wherever the support library is. -/
  render : ∀ library, (Declaration.enum e).render library = (Declaration.enum e').render library
  /-- The same events are logged. -/
  trace : (Declaration.enum e).trace = (Declaration.enum e').trace

/-- One edit of an enum. -/
inductive Edit : EnumDecl → EnumDecl → Prop where
  /-- A group of cases is cut in two, one of which may be empty. -/
  | split (name : String) (modifiers : List Modifier) (before after : List Member)
      (group group' : List Case) :
    Edit ⟨name, modifiers, before ++ .cases (group ++ group') :: after⟩
      ⟨name, modifiers, before ++ .cases group :: .cases group' :: after⟩
  /-- An unrelated member is put in somewhere. -/
  | member (name : String) (modifiers : List Modifier) (before after : List Member) {m : Member}
      (h : m.IsUnrelated) :
    Edit ⟨name, modifiers, before ++ after⟩ ⟨name, modifiers, before ++ m :: after⟩
  /-- An unrelated modifier is put in somewhere. -/
  | modifier (name : String) (before after : List Modifier) (members : List Member) {m : Modifier}
      (h : m.IsUnrelated) :
    Edit ⟨name, before ++ after, members⟩ ⟨name, before ++ m :: after, members⟩

namespace SameOutline

variable {e e' e'' : EnumDecl}

theorem refl (e : EnumDecl) : e.SameOutline e := ⟨rfl, rfl, Iff.rfl, Iff.rfl⟩

theorem symm (h : e.SameOutline e') : e'.SameOutline e :=
  ⟨h.name.symm, h.cases.symm, h.exported.symm, h.conflict.symm⟩

theorem trans (h : e.SameOutline e') (h' : e'.SameOutline e'') : e.SameOutline e'' :=
  ⟨h.name.trans h'.name, h.cases.trans h'.cases, h.exported.trans h'.exported,
    h.conflict.trans h'.conflict⟩

/-- Enums of the same outline have the same visibility. -/
theorem visibility_eq (h : e.SameOutline e') : e.visibility = e'.visibility := by
  apply visibility_eq_of_iff
  rw [visibility_eq_exported_iff, visibility_eq_exported_iff]
  exact h.exported

/-- Enums of the same outline pass through all stages alike. -/
theorem indistinguishable (h : e.SameOutline e') : e.Indistinguishable e' := by
  have hvalidate : (Declaration.enum e).validate = (Declaration.enum e').validate :=
    validate_congr h.name h.cases h.conflict
  have htransform : (Declaration.enum e).transform = (Declaration.enum e').transform :=
    transform_congr h.name h.cases h.conflict h.visibility_eq
  have hname : (Declaration.enum e).name = (Declaration.enum e').name := h.name
  have hvisibility : (Declaration.enum e).visibility = (Declaration.enum e').visibility :=
    h.visibility_eq
  refine ⟨hvalidate, htransform, fun library => ?_, ?_⟩
  · rw [Declaration.render, Declaration.render, htransform]
  · rw [Declaration.trace, Declaration.trace, hvalidate, hname, hvisibility]

end SameOutline

/-! ### Edits -/

/-- An unrelated member is no nested type with the discriminator's name. -/
theorem ne_type_of_isUnrelated {m : Member} (h : m.IsUnrelated) (kind : TypeKind) :
    .type discriminatorName kind ≠ m := by
  rintro rfl
  cases h with
  | type hname => exact hname rfl

/-- An unrelated member declares no case. -/
theorem declared_of_isUnrelated {m : Member} (h : m.IsUnrelated) : m.declared = [] := by
  cases h <;> rfl

/-- An edit keeps the outline. -/
theorem Edit.sameOutline {e e' : EnumDecl} (h : Edit e e') : e.SameOutline e' := by
  cases h with
  | split name modifiers before after group group' =>
    refine ⟨rfl, ?_, Iff.rfl, ?_⟩
    · -- What the two groups declare one after the other is what the whole group declares.
      simp [EnumDecl.cases, Member.declared]
    · simp [HasConflict]
  | member name modifiers before after hm =>
    refine ⟨rfl, ?_, Iff.rfl, ?_⟩
    · simp [EnumDecl.cases, declared_of_isUnrelated hm]
    · simp [HasConflict, ne_type_of_isUnrelated hm]
  | modifier name before after members hm =>
    refine ⟨rfl, rfl, ?_, Iff.rfl⟩
    cases hm <;> simp

/-- Any number of edits, made or undone, keep the outline. -/
theorem sameOutline_of_eqvGen {e e' : EnumDecl} (h : Relation.EqvGen Edit e e') :
    e.SameOutline e' := by
  induction h with
  | rel e e' edit => exact edit.sameOutline
  | refl e => exact .refl e
  | symm e e' _ ih => exact ih.symm
  | trans e e' e'' _ _ ih ih' => exact ih.trans ih'

/-- Enums with the same name, the same cases in the same order, both or neither exported, and both
or neither with a nested type in the way of the discriminator cannot be told apart. In particular no
edit can be seen, made or undone. -/
theorem indistinguishable_of_sameOutline (e e' : EnumDecl) :
    (e.SameOutline e' → e.Indistinguishable e') ∧
    (Relation.EqvGen Edit e e' → e.SameOutline e' ∧ e.Indistinguishable e') := by
  refine ⟨fun h => h.indistinguishable, fun h => ?_⟩
  have houtline := sameOutline_of_eqvGen h
  exact ⟨houtline, houtline.indistinguishable⟩

/-- An enum with two cases in one group. -/
def grouped : EnumDecl := ⟨"Shape", [.exported], [.cases [.tuple "circle" 1, .unit "point"]]⟩

/-- The same cases in two groups, with unrelated members around them and further modifiers. -/
def scattered : EnumDecl :=
  ⟨"Shape", [.restricted "public", .exported, .other "public"],
    [.function "Case", .cases [.tuple "circle" 1], .cases [], .type "Cases" .enumType,
      .cases [.unit "point"], .other]⟩

/-- The second enum is the first after seven edits; both are accepted, with the same result. -/
theorem indistinguishable_grouped_scattered :
    Relation.EqvGen Edit grouped scattered ∧ grouped.SameOutline scattered ∧
    grouped.Indistinguishable scattered ∧
    (Declaration.enum scattered).validate =
      .ok ⟨"Shape", [.tuple "circle" 1, .unit "point"]⟩ := by
  have hedits : Relation.EqvGen Edit grouped scattered := by
    let circle : Member := .cases [.tuple "circle" 1]
    let point : Member := .cases [.unit "point"]
    let nested : Member := .type "Cases" .enumType
    have hnested : nested.IsUnrelated := .type (by decide) .enumType
    refine .trans _ _ _ (.rel _ _ (.split _ _ [] [] [.tuple "circle" 1] [.unit "point"])) ?_
    refine .trans _ _ _ (.rel _ _ (.member _ _ [circle] [point] .noCases)) ?_
    refine .trans _ _ _ (.rel _ _ (.member _ _ [circle, .cases []] [point] hnested)) ?_
    refine .trans _ _ _ (.rel _ _ (.member _ _ [] [circle, .cases [], nested, point]
      (.function "Case"))) ?_
    refine .trans _ _ _ (.rel _ _ (.member _ _ [.function "Case", circle, .cases [], nested, point]
      [] .other)) ?_
    refine .trans _ _ _ (.rel _ _ (.modifier _ [] [.exported] _ (.restricted "public"))) ?_
    exact .rel _ _ (.modifier _ [.restricted "public", .exported] [] _ (.other "public"))
  obtain ⟨houtline, hsame⟩ := (indistinguishable_of_sameOutline _ _).2 hedits
  exact ⟨hedits, houtline, hsame, rfl⟩

end EnumDecl

end EnumCases
