import EnumCases.Grammar.Item
import EnumCases.Proofs.Verdict

/-!
# Items as declarations

An enum without generic parameters is seen as a declaration with one group of one case for each
variant (`Item.enumDecl`). So nothing can be in its way, and its verdict is told by the number of
fields of its variants (`Item.verdict_enumDecl_cases`). An enum with parameters is no declaration,
and a structure or a union is one of another kind.
-/

namespace EnumCases

open Grammar

/-- The number of fields. -/
def Fields.count : Fields → Nat
  | .unit => 0
  | .positional fields => fields.length
  | .labelled fields => fields.length

namespace Variant

/-- A variant is a case of its own name. -/
theorem id_case (v : Variant) : v.case.id = v.name.name := by
  unfold Variant.case Case.tuple Case.record
  split
  · rfl
  · split <;> rfl
  · split <;> rfl

/-- A variant has as many values as fields. -/
theorem arity_case (v : Variant) : v.case.arity = v.fields.count := by
  unfold Variant.case Fields.count
  split <;> simp_all

end Variant

/-- An enum with at least one generic parameter. -/
def Item.IsGenericEnum (i : Item) : Prop :=
  (∃ variants, i.body = .enum variants) ∧ i.parameters ≠ []

/-- The declaration that an enum with the given variants is seen as. -/
def Item.enumDecl (i : Item) (variants : List Variant) : EnumDecl :=
  ⟨i.name.name, i.visibility.modifiers, variants.map (.cases [·.case])⟩

namespace Item

/-- An enum without parameters is seen as a declaration. -/
theorem declaration_eq_enumDecl {i : Item} {variants : List Variant}
    (hbody : i.body = .enum variants) (hparameters : i.parameters = []) :
    i.declaration = .ok (.enum (i.enumDecl variants)) := by
  rw [declaration, hbody, hparameters]
  rfl

/-- An enum with parameters is not. -/
theorem declaration_eq_error {i : Item} (h : i.IsGenericEnum) :
    i.declaration = .error ⟨.genericEnum, Token.spanOf i.parameters⟩ := by
  obtain ⟨⟨variants, hbody⟩, hparameters⟩ := h
  rw [declaration, hbody]
  exact if_neg (mt List.isEmpty_iff.mp hparameters)

/-- What is no enum is seen as something else, with or without parameters. -/
theorem exists_declaration_eq_other {i : Item} (h : ∀ variants, i.body ≠ .enum variants) :
    ∃ name kind, i.declaration = .ok (.other name kind) := by
  rw [declaration]
  cases hbody : i.body with
  | struct fields => exact ⟨_, _, rfl⟩
  | union fields => exact ⟨_, _, rfl⟩
  | enum variants => exact absurd hbody (h variants)

/-- An item is a generic enum, an enum without parameters, or no enum. -/
theorem kind_cases (i : Item) :
    i.IsGenericEnum ∨ (∃ variants, i.body = .enum variants ∧ i.parameters = []) ∨
      ∀ variants, i.body ≠ .enum variants := by
  cases hbody : i.body with
  | struct fields => exact .inr (.inr nofun)
  | union fields => exact .inr (.inr nofun)
  | enum variants =>
    by_cases hparameters : i.parameters = []
    · exact .inr (.inl ⟨variants, rfl, hparameters⟩)
    · exact .inl ⟨⟨variants, hbody⟩, hparameters⟩

/-- Only an enum without parameters is seen as a declaration of an enum. -/
theorem eq_enumDecl_of_declaration {i : Item} {e : EnumDecl} (h : i.declaration = .ok (.enum e)) :
    ∃ variants, i.body = .enum variants ∧ i.parameters = [] ∧ e = i.enumDecl variants := by
  obtain hgeneric | ⟨variants, hbody, hparameters⟩ | hother := i.kind_cases
  · rw [declaration_eq_error hgeneric] at h
    cases h
  · rw [declaration_eq_enumDecl hbody hparameters] at h
    cases h
    exact ⟨variants, hbody, hparameters, rfl⟩
  · obtain ⟨name, kind, hdeclaration⟩ := exists_declaration_eq_other hother
    rw [hdeclaration] at h
    cases h

/-- The cases of the declaration are the variants. -/
theorem cases_enumDecl (i : Item) (variants : List Variant) :
    (i.enumDecl variants).cases = variants.map Variant.case := by
  rw [EnumDecl.cases, enumDecl, List.flatMap_map, List.map_eq_flatMap]
  rfl

/-- Every member of the declaration is a group of one case. -/
theorem exists_of_mem_members_enumDecl {i : Item} {variants : List Variant} {m : Member}
    (h : m ∈ (i.enumDecl variants).members) : ∃ c, m = .cases [c] := by
  obtain ⟨v, -, rfl⟩ := List.mem_map.mp h
  exact ⟨v.case, rfl⟩

/-- The declaration has no members but cases. -/
theorem existing_enumDecl (i : Item) (variants : List Variant) :
    (i.enumDecl variants).existing = [] := by
  rw [EnumDecl.existing, List.filter_eq_nil_iff]
  intro m hm
  obtain ⟨c, rfl⟩ := exists_of_mem_members_enumDecl hm
  simp [Member.isCases]

/-- Nothing is in the way of an enum that is read. -/
theorem not_hasConflict_enumDecl (i : Item) (variants : List Variant) :
    ¬ (i.enumDecl variants).HasConflict := by
  rintro ⟨kind, hkind⟩
  obtain ⟨c, hc⟩ := exists_of_mem_members_enumDecl hkind
  cases hc

/-- Some case has associated values just if some variant has fields. -/
theorem hasValues_enumDecl_iff {i : Item} {variants : List Variant} :
    (i.enumDecl variants).HasValues ↔ ∃ v ∈ variants, v.fields.count ≠ 0 := by
  rw [EnumDecl.HasValues, cases_enumDecl]
  constructor
  · rintro ⟨c, hc, hne⟩
    obtain ⟨v, hv, rfl⟩ := List.mem_map.mp hc
    rw [v.arity_case] at hne
    exact ⟨v, hv, hne⟩
  · rintro ⟨v, hv, hne⟩
    rw [← v.arity_case] at hne
    exact ⟨v.case, List.mem_map_of_mem hv, hne⟩

/-- The verdicts on an enum that is read, told by its variants. -/
theorem verdict_enumDecl_cases (i : Item) (variants : List Variant) :
    ((i.enumDecl variants).verdict = some .emptyEnum ∧ variants = []) ∨
    ((i.enumDecl variants).verdict = some .noAssociatedValues ∧ variants ≠ [] ∧
      ∀ v ∈ variants, v.fields.count = 0) ∨
    ((i.enumDecl variants).verdict = none ∧ ∃ v ∈ variants, v.fields.count ≠ 0) := by
  have hfree := i.not_hasConflict_enumDecl variants
  obtain ⟨hv, h⟩ | ⟨hv, hne, hnone⟩ | ⟨hv, hvalues, -⟩ | ⟨-, -, hconflict⟩ :=
    (i.enumDecl variants).verdict_cases
  · rw [cases_enumDecl] at h
    exact .inl ⟨hv, List.map_eq_nil_iff.mp h⟩
  · rw [cases_enumDecl] at hne
    refine .inr (.inl ⟨hv, mt List.map_eq_nil_iff.mpr hne, fun v hmem => ?_⟩)
    exact Decidable.byContradiction fun hcount =>
      hnone (hasValues_enumDecl_iff.mpr ⟨v, hmem, hcount⟩)
  · exact .inr (.inr ⟨hv, hasValues_enumDecl_iff.mp hvalues⟩)
  · exact absurd hconflict hfree

end Item

end EnumCases
