import EnumCases.Proofs.Synthesis
import Mathlib.Data.List.Forall2

/-!
# A synthesis is an image of the enum

The members of an accepted enum follow its cases one by one: the variants of the discriminator and
the arms of the predicate are all of them, and the arms of the accessor those with associated values
(`forall₂_isFor`). What the synthesis decides by counting is told by the cases: the accessor has a
last arm just if some case has no values (`fallback_iff`), and the predicate has one just if there
is more than one case. No member is seen from further than the enum
(`EnumDecl.reach_visibility_le`).

Main statement: `Declaration.transform_images`.
-/

namespace EnumCases

/-- How far what is declared with a modifier is seen: nowhere else, within a path, or everywhere. -/
def Modifier.reach : Modifier → Nat
  | .exported => 2
  | .restricted _ => 1
  | .other _ => 0

/-- How far an enum with the given modifiers is seen: as far as any of them says. -/
def Modifier.reachAll : List Modifier → Nat
  | [] => 0
  | m :: ms => max m.reach (reachAll ms)

/-- How far a derived member is seen. -/
def Visibility.reach : Visibility → Nat
  | .inherited => 0
  | .exported => 2

/-- The visibilities of the three members. -/
def Synthesis.visibilities (s : Synthesis) : List Visibility :=
  [s.discriminator.visibility, s.predicate.visibility, s.accessor.visibility]

/-- An arm of the accessor that hands out the values of a case. -/
structure AccessorArm.IsFor (arm : AccessorArm) (c : Case) : Prop where
  case : arm.case = c.id
  payload : arm.payload = c.payload
  arity : arm.extraction.arity = arm.payload.arity
  /-- One value is handed out by itself. -/
  value_iff : arm.extraction = .value ↔ c.arity = 1
  /-- No tuple has fewer than two values. -/
  tuple : ∀ count, arm.extraction = .tuple count → 2 ≤ count

/-- A synthesis that follows the cases of an enum. -/
structure Synthesis.IsImage (s : Synthesis) (e : EnumDecl) : Prop where
  nonempty : 1 ≤ e.cases.length
  host : s.host = e.name
  /-- There is a variant for each case, with its name. -/
  variants : s.discriminator.variants = e.cases.map Case.id
  /-- There is an arm of the predicate for each case. -/
  tests : s.predicate.arms = e.cases.map Case.id
  /-- All other pairs of cases are told apart, if there are any. -/
  catchAll_iff : s.predicate.catchAll = some false ↔ 2 ≤ e.cases.length
  noCatchAll_iff : s.predicate.catchAll = none ↔ e.cases.length = 1
  /-- There is an arm of the accessor for each case with associated values, and there are some. -/
  arms_ne_nil : s.accessor.arms ≠ []
  arms : List.Forall₂ AccessorArm.IsFor s.accessor.arms (e.cases.filter (0 < ·.arity))
  /-- There is a last arm for the cases without any. -/
  fallback_iff : s.accessor.fallback = true ↔ ∃ c ∈ e.cases, c.arity = 0
  /-- Each member is exported just if the enum is, and else inherits its visibility. -/
  visibility : ∀ v ∈ s.visibilities,
    (v = .exported ↔ .exported ∈ e.modifiers) ∧ (v = .inherited ↔ .exported ∉ e.modifiers)
  /-- No member is seen from further than the enum. -/
  reach_le : ∀ v ∈ s.visibilities, v.reach ≤ Modifier.reachAll e.modifiers

/-- How the members of a declaration depend on its verdict. -/
structure Declaration.TransformImages (d : Declaration) : Prop where
  /-- There are members just if the declaration is accepted. -/
  accepted_iff : (∃ s, d.transform = .ok s) ↔ ∃ host, d.validate = .ok host
  /-- A declaration without members is rejected for the same fault. -/
  rejected_iff : ∀ fault, d.transform = .error fault ↔ d.validate = .error fault
  /-- The members of an accepted declaration follow the cases that it is accepted with. -/
  image : ∀ s, d.transform = .ok s →
    ∃ e, d = .enum e ∧ d.validate = .ok ⟨d.name, e.cases⟩ ∧ s.IsImage e

/-! ### Arms -/

/-- The arm of a case with associated values. -/
theorem Case.isFor_accessorArm {c : Case} {arm : AccessorArm} (h : c.accessorArm? = some arm) :
    arm.IsFor c := by
  obtain ⟨hne, rfl⟩ := Case.accessorArm?_eq_some_iff.mp h
  refine ⟨rfl, rfl, Extraction.arity_ofArity c.arity, ?_, ?_⟩
  · unfold Extraction.ofArity
    split_ifs with hone
    · simp [hone]
    · simp [hone]
  · intro count hcount
    unfold Extraction.ofArity at hcount
    split_ifs at hcount with hone
    obtain rfl := Extraction.tuple.inj hcount
    omega

/-- The arms of the accessor are, in order, those of the cases with associated values. -/
theorem forall₂_isFor (cases : List Case) :
    List.Forall₂ AccessorArm.IsFor (cases.filterMap Case.accessorArm?)
      (cases.filter (0 < ·.arity)) := by
  induction cases with
  | nil => exact .nil
  | cons c cases ih =>
    cases harm : c.accessorArm? with
    | none =>
      have hzero : c.arity = 0 := by
        apply Decidable.byContradiction
        intro hne
        rw [Case.accessorArm?_eq_some_iff.mpr ⟨hne, rfl⟩] at harm
        cases harm
      rw [List.filterMap_cons_none harm, List.filter_cons_of_neg (by simp [hzero])]
      exact ih
    | some arm =>
      have hne : c.arity ≠ 0 := (Case.accessorArm?_eq_some_iff.mp harm).1
      rw [List.filterMap_cons_some harm, List.filter_cons_of_pos (by simp; omega)]
      exact .cons (Case.isFor_accessorArm harm) ih

/-- There is a last arm of the accessor just if some case has no associated values. -/
theorem fallback_iff (host : String) (visibility : Visibility) {cases : List Case} :
    (synthesize host cases visibility).accessor.fallback = true ↔ ∃ c ∈ cases, c.arity = 0 := by
  constructor
  · intro h
    have hlt : (cases.filterMap Case.accessorArm?).length < cases.length := by
      simpa [synthesize] using h
    apply Decidable.byContradiction
    intro hnone
    -- Otherwise every case has an arm, and there are as many arms as cases.
    have hall : ∀ c ∈ cases, c.accessorArm?.isSome = true := by
      intro c hc
      rw [Case.accessorArm?_eq_some_iff.mpr ⟨fun hzero => hnone ⟨c, hc, hzero⟩, rfl⟩]
      rfl
    rw [List.length_filterMap_eq_countP, List.countP_eq_length.mpr hall] at hlt
    omega
  · rintro ⟨c, hc, hzero⟩
    exact fallback_of_arity_eq_zero host visibility hc hzero

/-! ### Visibility -/

/-- An enum is seen as far as each of its modifiers says. -/
theorem Modifier.reach_le_reachAll {m : Modifier} {ms : List Modifier} (h : m ∈ ms) :
    m.reach ≤ reachAll ms := by
  induction ms with
  | nil => cases h
  | cons n ms ih =>
    rw [reachAll]
    rcases List.mem_cons.mp h with rfl | h
    · exact Nat.le_max_left _ _
    · exact Nat.le_trans (ih h) (Nat.le_max_right _ _)

/-- The visibility of the members is the enum's or less. -/
theorem EnumDecl.reach_visibility_le (e : EnumDecl) :
    e.visibility.reach ≤ Modifier.reachAll e.modifiers := by
  unfold visibility
  split_ifs with hexported
  · exact Modifier.reach_le_reachAll hexported
  · exact Nat.zero_le _

/-! ### The members of a declaration -/

/-- An accepted enum has a case with associated values. -/
theorem EnumDecl.hasValues_of_validate {e : EnumDecl} {host : Host} (h : e.validate = .ok host) :
    e.HasValues := by
  have hverdict : e.verdict = none := by
    rw [verdict, Declaration.validate, h]
    rfl
  apply two_lt_rank_verdict_iff.mp
  rw [hverdict]
  decide

/-- The members for the cases of an enum with associated values follow these cases. -/
theorem EnumDecl.isImage_synthesize {e : EnumDecl} (h : e.HasValues) :
    (synthesize e.name e.cases e.visibility).IsImage e := by
  obtain ⟨c, hc, hne⟩ := h
  have hpos : 1 ≤ e.cases.length := List.length_pos_of_mem hc
  have hvisibility : ∀ v ∈ (synthesize e.name e.cases e.visibility).visibilities,
      v = e.visibility := by
    simp [Synthesis.visibilities, synthesize]
  constructor
  case nonempty => exact hpos
  case host => rfl
  case variants => rfl
  case tests => rfl
  case catchAll_iff =>
    simp only [synthesize]
    split_ifs with hmore
    · simp; omega
    · simp; omega
  case noCatchAll_iff =>
    simp only [synthesize]
    split_ifs with hmore
    · simp; omega
    · simp; omega
  case arms_ne_nil =>
    apply List.ne_nil_of_mem
    exact List.mem_filterMap.mpr ⟨c, hc, Case.accessorArm?_eq_some_iff.mpr ⟨hne, rfl⟩⟩
  case arms => exact forall₂_isFor e.cases
  case fallback_iff => exact EnumCases.fallback_iff e.name e.visibility
  case visibility =>
    intro v hv
    rw [hvisibility v hv, EnumDecl.visibility]
    split_ifs with hexported
    · simp [hexported]
    · simp [hexported]
  case reach_le =>
    intro v hv
    rw [hvisibility v hv]
    exact e.reach_visibility_le

/-- The members of a declaration are an image of it, and there are some just if it is accepted. -/
theorem Declaration.transform_images (d : Declaration) : d.TransformImages := by
  constructor
  case accepted_iff =>
    rw [← errorOf?_eq_none_iff, ← errorOf?_eq_none_iff, transform, errorOf?_map]
  case rejected_iff =>
    intro fault
    rw [← errorOf?_eq_some_iff, ← errorOf?_eq_some_iff, transform, errorOf?_map]
  case image =>
    intro s hs
    cases d with
    | other name kind => cases hs
    | enum e =>
      cases hv : e.validate with
      | error fault =>
        rw [transform, validate, hv] at hs
        cases hs
      | ok host =>
        have hhost := EnumDecl.validate_eq_ok hv
        rw [EnumDecl.eq_synthesize_of_transform hs]
        refine ⟨e, rfl, ?_, EnumDecl.isImage_synthesize (EnumDecl.hasValues_of_validate hv)⟩
        rw [validate, hv, hhost]
        rfl

/-- An enum with a repeated name, and with all the ways to have no associated values. -/
example : ∃ s, (Declaration.enum ⟨"Shape", [.restricted "crate"],
      [.cases [⟨"A", .unit⟩, ⟨"B", .tuple 0⟩], .cases [⟨"C", .record []⟩, ⟨"A", .tuple 7⟩],
        .cases [⟨"D", .record ["x"]⟩]]⟩).transform = .ok s ∧
    s.discriminator.variants = ["A", "B", "C", "A", "D"] ∧
    s.accessor.arms.map (fun arm => (arm.case, arm.extraction)) =
      [("A", .tuple 7), ("D", .value)] ∧
    s.accessor.fallback = true ∧ s.accessor.visibility = .inherited :=
  ⟨_, rfl, by decide⟩

end EnumCases
