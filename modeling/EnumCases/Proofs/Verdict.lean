import EnumCases.Diagnostic
import EnumCases.Proofs.Errors
import Mathlib.Tactic.SplitIfs

/-!
# Verdicts while an enum is built

An enum is built in steps, each of which appends a modifier or a member. Its verdict depends on
which members there are, and not on how many or in which order: the four cases are in
`EnumDecl.verdict_cases`. In the order of `verdictRank` more members therefore never lower the
verdict (`EnumDecl.rank_verdict_le_of_subset`), and this one fact gives both that no step lowers it
and that the order of the steps does not count.

Main statement: what holds of every run of the builder (`EnumDecl.settled_build`).
-/

namespace EnumCases

/-- The fault that an enum is rejected for, or none if it is accepted. -/
def EnumDecl.verdict (e : EnumDecl) : Option Diagnostic := errorOf? (Declaration.enum e).validate

/-- The place of a verdict on an enum among the others. An accepted enum is above those that lack
something, and below those that have something in the way. -/
def verdictRank : Option Diagnostic → Nat
  | some .notAnEnum => 0
  | some .emptyEnum => 1
  | some .noAssociatedValues => 2
  | none => 3
  | some .conflictingCaseType => 4

/-- Verdicts of one rank are the same. -/
theorem verdictRank_injective : Function.Injective verdictRank := by
  rintro (_ | ⟨_ | _ | _ | _⟩) (_ | ⟨_ | _ | _ | _⟩) <;> simp [verdictRank]

namespace EnumDecl

/-- Some case has associated values. -/
def HasValues (e : EnumDecl) : Prop := ∃ c ∈ e.cases, c.arity ≠ 0

/-- Some nested type has the discriminator's name. -/
def HasConflict (e : EnumDecl) : Prop := ∃ kind, .type discriminatorName kind ∈ e.members

/-- A case is declared by a group among the members. -/
theorem mem_cases_iff {e : EnumDecl} {c : Case} :
    c ∈ e.cases ↔ ∃ group, .cases group ∈ e.members ∧ c ∈ group := by
  rw [cases, List.mem_flatMap]
  constructor
  · rintro ⟨m, hm, hc⟩
    cases m with
    | cases group => exact ⟨group, hm, hc⟩
    | type _ _ => cases hc
    | function _ => cases hc
    | other => cases hc
  · rintro ⟨group, hgroup, hc⟩
    exact ⟨_, hgroup, hc⟩

/-- A member in the way is a nested type with the discriminator's name. -/
theorem any_isConflict_iff {e : EnumDecl} :
    e.existing.any Member.isConflict = true ↔ e.HasConflict := by
  rw [List.any_eq_true]
  constructor
  · rintro ⟨m, hm, hconflict⟩
    have hmem : m ∈ e.members := (List.mem_filter.mp hm).1
    cases m with
    | cases _ => cases hconflict
    | type name kind =>
      obtain rfl : name = discriminatorName := eq_of_beq hconflict
      exact ⟨kind, hmem⟩
    | function _ => cases hconflict
    | other => cases hconflict
  · rintro ⟨kind, hmem⟩
    refine ⟨.type discriminatorName kind, List.mem_filter.mpr ⟨hmem, rfl⟩, ?_⟩
    exact beq_self_eq_true discriminatorName

/-- No case has associated values just if all have the arity zero. -/
theorem all_arity_eq_zero_iff {e : EnumDecl} :
    e.cases.all (·.arity == 0) = true ↔ ¬ e.HasValues := by
  rw [List.all_eq_true, HasValues]
  constructor
  · rintro hall ⟨c, hc, hne⟩
    exact hne (eq_of_beq (hall c hc))
  · intro hnone c hc
    exact beq_iff_eq.mpr (Decidable.byContradiction fun hne => hnone ⟨c, hc, hne⟩)

/-- The verdicts on an enum, each with all that it says about the members. -/
theorem verdict_cases (e : EnumDecl) :
    (e.verdict = some .emptyEnum ∧ e.cases = []) ∨
    (e.verdict = some .noAssociatedValues ∧ e.cases ≠ [] ∧ ¬ e.HasValues) ∨
    (e.verdict = none ∧ e.HasValues ∧ ¬ e.HasConflict) ∨
    (e.verdict = some .conflictingCaseType ∧ e.HasValues ∧ e.HasConflict) := by
  rw [verdict, Declaration.validate, validate]
  have hvalues (h : ¬ e.cases.all (·.arity == 0) = true) : e.HasValues :=
    Classical.not_not.mp (mt all_arity_eq_zero_iff.mpr h)
  split_ifs with hempty hzero hconflict
  · exact .inl ⟨rfl, List.isEmpty_iff.mp hempty⟩
  · have hne : e.cases ≠ [] := fun h => hempty (List.isEmpty_iff.mpr h)
    exact .inr (.inl ⟨rfl, hne, all_arity_eq_zero_iff.mp hzero⟩)
  · exact .inr (.inr (.inr ⟨rfl, hvalues hzero, any_isConflict_iff.mp hconflict⟩))
  · exact .inr (.inr (.inl ⟨rfl, hvalues hzero, mt any_isConflict_iff.mpr hconflict⟩))

/-- Enums with one name and the same cases are judged alike, unless a nested type is in the way of
just one of them. -/
theorem validate_congr {e e' : EnumDecl} (hname : e.name = e'.name) (hcases : e.cases = e'.cases)
    (hconflict : e.HasConflict ↔ e'.HasConflict) : e.validate = e'.validate := by
  have hany : e.existing.any Member.isConflict = e'.existing.any Member.isConflict := by
    rw [Bool.eq_iff_iff, any_isConflict_iff, any_isConflict_iff]
    exact hconflict
  rw [validate, validate, hname, hcases, hany]

/-- There is more than the lowest verdict to an enum just if it has cases. -/
theorem one_lt_rank_verdict_iff {e : EnumDecl} : 1 < verdictRank e.verdict ↔ e.cases ≠ [] := by
  have hne : e.HasValues → e.cases ≠ [] := by
    rintro ⟨c, hc, -⟩
    exact List.ne_nil_of_mem hc
  obtain ⟨hv, h⟩ | ⟨hv, h, -⟩ | ⟨hv, h, -⟩ | ⟨hv, h, -⟩ := e.verdict_cases
  · simp [hv, verdictRank, h]
  · simp [hv, verdictRank, h]
  · simp [hv, verdictRank, hne h]
  · simp [hv, verdictRank, hne h]

/-- An enum is accepted, or something is in its way, just if some case has associated values. -/
theorem two_lt_rank_verdict_iff {e : EnumDecl} : 2 < verdictRank e.verdict ↔ e.HasValues := by
  obtain ⟨hv, h⟩ | ⟨hv, -, h⟩ | ⟨hv, h, -⟩ | ⟨hv, h, -⟩ := e.verdict_cases
  · simp [hv, verdictRank, HasValues, h]
  · simp [hv, verdictRank, h]
  · simp [hv, verdictRank, h]
  · simp [hv, verdictRank, h]

/-- Something is in the way of an enum just if it would be accepted without a nested type. -/
theorem three_lt_rank_verdict_iff {e : EnumDecl} :
    3 < verdictRank e.verdict ↔ e.HasValues ∧ e.HasConflict := by
  obtain ⟨hv, h⟩ | ⟨hv, -, h⟩ | ⟨hv, -, h⟩ | ⟨hv, h⟩ := e.verdict_cases
  · simp [hv, verdictRank, HasValues, h]
  · simp [hv, verdictRank, h]
  · simp [hv, verdictRank, h]
  · simp [hv, verdictRank, h]

/-- An enum has one of the four verdicts on enums. -/
theorem rank_verdict_bounds (e : EnumDecl) :
    1 ≤ verdictRank e.verdict ∧ verdictRank e.verdict ≤ 4 := by
  obtain ⟨hv, -⟩ | ⟨hv, -⟩ | ⟨hv, -⟩ | ⟨hv, -⟩ := e.verdict_cases <;> simp [hv, verdictRank]

/-- More members never lower the verdict. -/
theorem rank_verdict_le_of_subset {e e' : EnumDecl} (h : e.members ⊆ e'.members) :
    verdictRank e.verdict ≤ verdictRank e'.verdict := by
  have hcases : e.cases ⊆ e'.cases := by
    intro c hc
    obtain ⟨group, hgroup, hmem⟩ := mem_cases_iff.mp hc
    exact mem_cases_iff.mpr ⟨group, h hgroup, hmem⟩
  have hvalues : e.HasValues → e'.HasValues := by
    rintro ⟨c, hc, hne⟩
    exact ⟨c, hcases hc, hne⟩
  have hconflict : e.HasConflict → e'.HasConflict := by
    rintro ⟨kind, hkind⟩
    exact ⟨kind, h hkind⟩
  -- Whatever rank the verdict of `e` is above, that of `e'` is above too.
  have hone : 1 < verdictRank e.verdict → 1 < verdictRank e'.verdict := by
    rw [one_lt_rank_verdict_iff, one_lt_rank_verdict_iff]
    rintro hne hnil
    rw [hnil] at hcases
    exact hne (List.subset_nil.mp hcases)
  have htwo : 2 < verdictRank e.verdict → 2 < verdictRank e'.verdict := by
    rw [two_lt_rank_verdict_iff, two_lt_rank_verdict_iff]
    exact hvalues
  have hthree : 3 < verdictRank e.verdict → 3 < verdictRank e'.verdict := by
    rw [three_lt_rank_verdict_iff, three_lt_rank_verdict_iff]
    exact fun ⟨hv, hc⟩ => ⟨hvalues hv, hconflict hc⟩
  have hbounds := e.rank_verdict_bounds
  have hbounds' := e'.rank_verdict_bounds
  omega

/-- The modifier that a step appends, if it does. -/
def Step.modifier? : Step → Option Modifier
  | .modifier m => some m
  | _ => none

/-- The member that a step appends, if it does. -/
def Step.member? : Step → Option Member
  | .modifier _ => none
  | .cases group => some (.cases group)
  | .member m => some m

/-- A step appends a modifier or a member, and leaves all else as it is. -/
theorem apply_eq (e : EnumDecl) (s : Step) :
    e.apply s = ⟨e.name, e.modifiers ++ s.modifier?.toList, e.members ++ s.member?.toList⟩ := by
  cases s <;> simp [apply, Step.modifier?, Step.member?]

/-- A built enum has the modifiers and the members of its steps, in order. -/
theorem build_eq (name : String) (steps : List Step) :
    build name steps = ⟨name, steps.filterMap Step.modifier?, steps.filterMap Step.member?⟩ := by
  -- By induction on the steps, over every enum that they may start from.
  have hrun : ∀ e : EnumDecl, steps.foldl apply e =
      ⟨e.name, e.modifiers ++ steps.filterMap Step.modifier?,
        e.members ++ steps.filterMap Step.member?⟩ := by
    induction steps with
    | nil => simp
    | cons s steps ih =>
      intro e
      rw [List.foldl_cons, ih, apply_eq]
      cases s <;> simp [List.filterMap_cons, Step.modifier?, Step.member?]
  rw [build, hrun]
  rfl

/-- Further steps append to what was built. -/
theorem build_append (name : String) (steps more : List Step) :
    build name (steps ++ more) = ⟨name,
      (build name steps).modifiers ++ more.filterMap Step.modifier?,
      (build name steps).members ++ more.filterMap Step.member?⟩ := by
  rw [build_eq, build_eq, List.filterMap_append, List.filterMap_append]

/-- An enum is exported just if some modifier says so. -/
theorem visibility_eq_exported_iff {e : EnumDecl} :
    e.visibility = .exported ↔ .exported ∈ e.modifiers := by
  rw [visibility]
  split_ifs with h
  · simp [h]
  · simp [h]

/-- A built enum is exported just if some step says so. -/
theorem visibility_build_eq_exported_iff {name : String} {steps : List Step} :
    (build name steps).visibility = .exported ↔ .modifier .exported ∈ steps := by
  have hmodifier (s : Step) : s.modifier? = some .exported ↔ s = .modifier .exported := by
    cases s <;> simp [Step.modifier?]
  rw [visibility_eq_exported_iff, build_eq]
  simp [hmodifier]

/-- Enums that are both exported or both not have one visibility. -/
theorem visibility_eq_of_iff {e e' : EnumDecl}
    (h : e.visibility = .exported ↔ e'.visibility = .exported) : e.visibility = e'.visibility := by
  cases hv : e.visibility <;> cases hv' : e'.visibility <;> simp_all

/-- Steps in another order build an enum with the same verdict. -/
theorem verdict_build_perm (name : String) {steps steps' : List Step} (h : steps.Perm steps') :
    (build name steps).verdict = (build name steps').verdict := by
  have hmembers : (build name steps).members.Perm (build name steps').members := by
    rw [build_eq, build_eq]
    exact h.filterMap _
  apply verdictRank_injective
  apply Nat.le_antisymm
  · exact rank_verdict_le_of_subset hmembers.subset
  · exact rank_verdict_le_of_subset hmembers.symm.subset

/-- The verdict does not fall with further steps. -/
theorem rank_verdict_build_le (name : String) (steps more : List Step) :
    verdictRank (build name steps).verdict ≤ verdictRank (build name (steps ++ more)).verdict := by
  apply rank_verdict_le_of_subset
  rw [build_append]
  exact List.subset_append_left _ _

/-- What holds of an enum after some steps, and of what further steps make of it. -/
structure Settled (name : String) (steps : List Step) : Prop where
  /-- It is an enum. -/
  isEnum : (build name steps).verdict ≠ some .notAnEnum
  /-- No step lowers the verdict. -/
  rises : ∀ step, verdictRank (build name steps).verdict ≤
    verdictRank (build name (steps ++ [step])).verdict
  /-- What is in the way stays in the way. -/
  conflictStays : ∀ more, (build name steps).verdict = some .conflictingCaseType →
    (build name (steps ++ more)).verdict = some .conflictingCaseType
  /-- An accepted enum stays accepted, unless a nested type gets in the way. -/
  acceptedStays : ∀ step, (build name steps).verdict = none →
    (build name (steps ++ [step])).verdict = none ∨
    (build name (steps ++ [step])).verdict = some .conflictingCaseType ∧
      ∃ kind, step = .member (.type "Case" kind)
  /-- A modifier makes no difference to the verdict, nor to what is accepted. -/
  modifierKeeps : ∀ m, (Declaration.enum (build name (steps ++ [.modifier m]))).validate =
    (Declaration.enum (build name steps)).validate
  /-- The enum is exported just if some step has said so. -/
  exported : (build name steps).visibility = .exported ↔ .modifier .exported ∈ steps
  /-- Once exported, it stays so. -/
  exportedStays : ∀ more, (build name steps).visibility = .exported →
    (build name (steps ++ more)).visibility = .exported
  /-- The order of the steps does not count. -/
  orderless : ∀ steps', steps.Perm steps' →
    (build name steps).verdict = (build name steps').verdict ∧
    (build name steps).visibility = (build name steps').visibility

/-- If one more step puts something in the way of an accepted enum, it appends a nested type with
the discriminator's name. -/
theorem exists_type_of_verdict {name : String} {steps : List Step} {step : Step}
    (h : (build name steps).verdict = none)
    (h' : (build name (steps ++ [step])).verdict = some .conflictingCaseType) :
    ∃ kind, step = .member (.type discriminatorName kind) := by
  have hvalues : (build name steps).HasValues := by
    rw [← two_lt_rank_verdict_iff, h]
    decide
  have hfree : ¬ (build name steps).HasConflict := by
    intro hconflict
    have hlt := three_lt_rank_verdict_iff.mpr ⟨hvalues, hconflict⟩
    rw [h] at hlt
    exact absurd hlt (by decide)
  have hconflict : (build name (steps ++ [step])).HasConflict := by
    refine (three_lt_rank_verdict_iff.mp ?_).2
    rw [h']
    decide
  -- The nested type is not among the members so far, so the step has appended it.
  obtain ⟨kind, hkind⟩ := hconflict
  rw [build_append] at hkind
  rcases List.mem_append.mp hkind with hold | hnew
  · exact absurd ⟨kind, hold⟩ hfree
  · refine ⟨kind, ?_⟩
    cases step with
    | modifier m => simp [Step.member?] at hnew
    | cases group => simp [Step.member?] at hnew
    | member m => simpa [Step.member?, eq_comm] using hnew

/-- Whatever steps an enum is built with, its verdict rises with every step and, like its
visibility, does not depend on the order of the steps. -/
theorem settled_build (name : String) (steps : List Step) : Settled name steps := by
  have hbounds := (build name steps).rank_verdict_bounds
  constructor
  case isEnum =>
    intro h
    rw [h] at hbounds
    exact absurd hbounds.1 (by decide)
  case rises => exact fun step => rank_verdict_build_le name steps [step]
  case conflictStays =>
    intro more h
    have hle := rank_verdict_build_le name steps more
    have hmax := (build name (steps ++ more)).rank_verdict_bounds.2
    rw [h] at hle
    exact verdictRank_injective (Nat.le_antisymm hmax hle)
  case acceptedStays =>
    intro step h
    have hle := rank_verdict_build_le name steps [step]
    have hmax := (build name (steps ++ [step])).rank_verdict_bounds.2
    rw [h] at hle
    rcases Nat.lt_or_eq_of_le hmax with hlt | heq
    · left
      exact verdictRank_injective (Nat.le_antisymm (Nat.le_of_lt_succ hlt) hle)
    · right
      have hconflict : (build name (steps ++ [step])).verdict = some .conflictingCaseType :=
        verdictRank_injective heq
      exact ⟨hconflict, exists_type_of_verdict h hconflict⟩
  case modifierKeeps =>
    intro m
    have hstep : build name (steps ++ [.modifier m]) = (build name steps).apply (.modifier m) :=
      List.foldl_append
    -- The members are the same, and the verdict does not look at the modifiers.
    rw [hstep]
    rfl
  case exported => exact visibility_build_eq_exported_iff
  case exportedStays =>
    intro more h
    rw [visibility_build_eq_exported_iff] at h ⊢
    exact List.mem_append_left more h
  case orderless =>
    intro steps' hperm
    refine ⟨verdict_build_perm name hperm, visibility_eq_of_iff ?_⟩
    rw [visibility_build_eq_exported_iff, visibility_build_eq_exported_iff]
    exact hperm.mem_iff

end EnumDecl

end EnumCases
