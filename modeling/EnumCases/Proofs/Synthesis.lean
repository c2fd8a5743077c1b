import EnumCases.Synthesis
import EnumCases.Proofs.Verdict
import Mathlib.Tactic.SplitIfs

/-!
# What a synthesis says about the cases

`Declaration.transform` describes the members for exactly the cases of an accepted enum
(`EnumDecl.eq_synthesize_of_transform`). The extraction of an arm has the arity of the case's payload
(`Extraction.arity_ofArity`), and the accessor has a last arm if some case has no arm of its own
(`fallback_of_arity_eq_zero`).
-/

namespace EnumCases

/-- An accepted enum has cases with associated values, and is its own host. -/
theorem EnumDecl.validate_eq_ok {e : EnumDecl} {host : Host} (h : e.validate = .ok host) :
    host = ⟨e.name, e.cases⟩ := by
  unfold validate at h
  split_ifs at h
  exact (Except.ok.inj h).symm

/-- The members of an accepted enum are those for its cases. -/
theorem EnumDecl.eq_synthesize_of_transform {e : EnumDecl} {s : Synthesis}
    (h : (Declaration.enum e).transform = .ok s) :
    s = synthesize e.name e.cases e.visibility := by
  have h : e.validate.map (fun host => synthesize host.name host.cases e.visibility) = .ok s := h
  cases hv : e.validate with
  | error d => simp [hv, Except.map] at h
  | ok host =>
    obtain rfl := EnumDecl.validate_eq_ok hv
    rw [hv] at h
    exact (Except.ok.inj h).symm

/-- The members depend on the name, the cases and the visibility of an enum, and on whether a nested
type is in their way. -/
theorem EnumDecl.transform_congr {e e' : EnumDecl} (hname : e.name = e'.name)
    (hcases : e.cases = e'.cases) (hconflict : e.HasConflict ↔ e'.HasConflict)
    (hvisibility : e.visibility = e'.visibility) :
    (Declaration.enum e).transform = (Declaration.enum e').transform := by
  rw [Declaration.transform, Declaration.transform, Declaration.validate, Declaration.validate,
    EnumDecl.validate_congr hname hcases hconflict, Declaration.visibility, Declaration.visibility,
    hvisibility]

/-- The extraction for an arity hands out that many values. -/
@[simp] theorem Extraction.arity_ofArity (arity : Nat) : (Extraction.ofArity arity).arity = arity := by
  unfold ofArity
  split_ifs with hone
  · exact hone.symm
  · rfl

/-- The arm of a case with associated values. -/
theorem Case.accessorArm?_eq_some_iff {c : Case} {arm : AccessorArm} :
    c.accessorArm? = some arm ↔ c.arity ≠ 0 ∧ arm = ⟨c.id, c.payload, .ofArity c.arity⟩ := by
  unfold accessorArm?
  split_ifs with hzero
  · simp [hzero]
  · simp [hzero, eq_comm]

/-- A case without associated values has no arm. -/
theorem Case.accessorArm?_eq_none {c : Case} (h : c.arity = 0) : c.accessorArm? = none :=
  if_pos h

/-- If some case has no associated values, there are fewer arms than cases. -/
theorem fallback_of_arity_eq_zero (host : String) (visibility : Visibility) {cases : List Case}
    {c : Case} (hc : c ∈ cases) (h : c.arity = 0) :
    (synthesize host cases visibility).accessor.fallback = true := by
  have hlt : (cases.filterMap Case.accessorArm?).length < cases.length := by
    rw [List.length_filterMap_eq_countP]
    apply Nat.lt_of_le_of_ne List.countP_le_length
    intro heq
    have hsome := List.countP_eq_length.mp heq c hc
    simp [Case.accessorArm?_eq_none h] at hsome
  simpa [synthesize] using hlt

end EnumCases
