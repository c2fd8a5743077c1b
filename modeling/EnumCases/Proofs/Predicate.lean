import EnumCases.Proofs.Escape
import EnumCases.Proofs.Rendered
import Mathlib.Data.List.Nodup

/-!
# The predicate decides equality of cases

The predicate is a match on a value and a candidate, and its arms are read from the tokens that are
rendered for it (`testArms_synthesize`). With cases that are rendered differently, the arm of a case
is the first match for that case and its own variant, and the last arm is the first match for any
other pair (`testMatch_synthesize`); that arm is there just if there are such pairs. So the match is
exhaustive, its answer is the equality of cases, and no arm is dead
(`testMatch_answer_iff_and_live`).
-/

namespace EnumCases

open Code

/-- The outcome of the predicate is the answer of the first arm that matches. -/
theorem Code.Program.is_eq_answer {p : Program} {v : HostValue} {candidate : Ident} {k : Nat}
    {arm : TestArm} (hk : p.testMatch v candidate = some k) (harm : p.test.arms[k]? = some arm) :
    p.is v candidate = some arm.answer := by
  have hk : p.test.arms.findIdx? (·.accepts p.caseType v candidate) = some k := hk
  rw [Program.is, List.find?_eq_bind_findIdx?_getElem?, hk, Option.bind_some, harm]
  rfl

/-- An arm matches a value of its case and the variant of that name. -/
theorem Code.TestArm.accepts_ofCase (caseType case : Ident) (v : HostValue) (candidate : Ident) :
    (TestArm.ofCase caseType case).accepts caseType v candidate =
      (case == v.case && case == candidate) := by
  simp [TestArm.accepts, TestArm.ofCase]

/-- The arm of a case is the first match for the case and its own variant. -/
theorem findIdx?_ofCase_self {names : List Ident} (hn : names.Nodup) {i : Nat} {name : Ident}
    (hi : names[i]? = some name) (caseType : Ident) (slots : Slots) :
    (names.map (TestArm.ofCase caseType)).findIdx? (·.accepts caseType ⟨name, slots⟩ name) =
      some i := by
  obtain ⟨hlt, hname⟩ := List.getElem?_eq_some_iff.mp hi
  rw [List.findIdx?_map, List.findIdx?_eq_some_iff_getElem]
  refine ⟨hlt, by simp [TestArm.accepts_ofCase, hname], fun j hj => ?_⟩
  have hne : names[j] ≠ name := by
    rw [← hname]
    intro heq
    exact absurd (hn.getElem_inj_iff.mp heq) (Nat.ne_of_lt hj)
  simp [TestArm.accepts_ofCase, hne]

/-- No arm of a case matches a case together with the variant of another. -/
theorem findIdx?_ofCase_of_ne (names : List Ident) {case candidate : Ident} (h : case ≠ candidate)
    (caseType : Ident) (slots : Slots) :
    (names.map (TestArm.ofCase caseType)).findIdx? (·.accepts caseType ⟨case, slots⟩ candidate) =
      none := by
  rw [List.findIdx?_eq_none_iff]
  intro arm harm
  obtain ⟨name, -, rfl⟩ := List.mem_map.mp harm
  by_cases hname : name = case
  · simp [TestArm.accepts_ofCase, hname, h]
  · simp [TestArm.accepts_ofCase, hname]

section

variable (host : String) (visibility : Visibility) {cases : List Case}

/-- The first match for a value of case `i` and the variant of case `j`: the arm of the case if they
are the same, and the last arm otherwise. -/
theorem testMatch_synthesize (hn : (cases.map fun c => Ident.escape c.id).Nodup) {i j : Nat}
    {c d : Case} (hi : cases[i]? = some c) (hj : cases[j]? = some d) (slots : Slots) :
    (synthesize host cases visibility).program.testMatch ⟨.escape c.id, slots⟩
      (.escape d.id) = some (if i = j then i else cases.length) := by
  have hci : (cases.map fun c => Ident.escape c.id)[i]? = some (.escape c.id) := by simp [hi]
  have hdj : (cases.map fun c => Ident.escape c.id)[j]? = some (.escape d.id) := by simp [hj]
  obtain ⟨hilt, -⟩ := List.getElem?_eq_some_iff.mp hi
  obtain ⟨hjlt, -⟩ := List.getElem?_eq_some_iff.mp hj
  rw [Program.testMatch, testArms_synthesize, List.findIdx?_append]
  by_cases hij : i = j
  · subst hij
    obtain rfl : c = d := Option.some.inj (hi.symm.trans hj)
    rw [findIdx?_ofCase_self hn hci, if_pos rfl]
    rfl
  · have hne : Ident.escape c.id ≠ .escape d.id := by
      intro heq
      exact hij ((List.getElem?_inj (by simpa using hilt) hn).mp (by rw [hci, hdj, heq]))
    -- Two different cases: there is a last arm.
    rw [findIdx?_ofCase_of_ne _ hne, if_neg hij, if_pos (by omega)]
    simp [TestArm.accepts]

/-- The arm at the place of the first match answers whether the cases are the same. -/
theorem exists_testMatch_answer (hn : (cases.map fun c => Ident.escape c.id).Nodup) {i j : Nat}
    {c d : Case} (hi : cases[i]? = some c) (hj : cases[j]? = some d) (slots : Slots) :
    ∃ k arm, (synthesize host cases visibility).program.testMatch ⟨.escape c.id, slots⟩
        (.escape d.id) = some k ∧
      (synthesize host cases visibility).program.test.arms[k]? = some arm ∧
      (arm.answer = true ↔ i = j) := by
  obtain ⟨hilt, -⟩ := List.getElem?_eq_some_iff.mp hi
  obtain ⟨hjlt, -⟩ := List.getElem?_eq_some_iff.mp hj
  have hfirst := testMatch_synthesize host visibility hn hi hj slots
  by_cases hij : i = j
  · rw [if_pos hij] at hfirst
    have harm : (synthesize host cases visibility).program.test.arms[i]? =
        some (.ofCase (synthesize host cases visibility).program.caseType (.escape c.id)) := by
      rw [testArms_synthesize, List.getElem?_append_left (by simpa using hilt)]
      simp [hi]
    exact ⟨i, _, hfirst, harm, iff_of_true rfl hij⟩
  · rw [if_neg hij] at hfirst
    refine ⟨cases.length, ⟨none, false⟩, hfirst, ?_, by simp [hij]⟩
    rw [testArms_synthesize, List.getElem?_append_right (by simp), if_pos (by omega)]
    simp

/-- Every arm is the first match for a value of some case and some variant. -/
theorem exists_testMatch_eq (hn : (cases.map fun c => Ident.escape c.id).Nodup) {k : Nat}
    (hk : k < (synthesize host cases visibility).program.test.arms.length) :
    ∃ (i j : Nat) (c d : Case), cases[i]? = some c ∧ cases[j]? = some d ∧
      ∀ slots, (synthesize host cases visibility).program.testMatch ⟨.escape c.id, slots⟩
        (.escape d.id) = some k := by
  rw [testArms_synthesize, List.length_append, List.length_map, List.length_map] at hk
  by_cases hlt : k < cases.length
  · have hget : cases[k]? = some cases[k] := List.getElem?_eq_getElem hlt
    refine ⟨k, k, cases[k], cases[k], hget, hget, fun slots => ?_⟩
    rw [testMatch_synthesize host visibility hn hget hget, if_pos rfl]
  · -- Only the last arm is left, which is there for two or more cases.
    split_ifs at hk with hone
    · have hzero : cases[0]? = some cases[0] := List.getElem?_eq_getElem (by omega)
      have hget : cases[1]? = some cases[1] := List.getElem?_eq_getElem hone
      refine ⟨0, 1, cases[0], cases[1], hzero, hget, fun slots => ?_⟩
      rw [testMatch_synthesize host visibility hn hzero hget, if_neg (by omega)]
      simp only [List.length_cons, List.length_nil] at hk
      congr 1
      omega
    · simp only [List.length_nil] at hk
      omega

end

/-- For every list of cases that are rendered differently, the tokens that are rendered for it are
read as a program whose predicate is exhaustive, decides equality of cases, and has no dead arm. The
discriminator has the rendered cases for its variants, and is the type of the candidate. For a value
of case `i`, with any payload, and the variant `j` some arm of the match on both fits, and the first
that does answers `true` just if `i = j`; every arm is the first that fits for some such pair. -/
theorem testMatch_answer_iff_and_live (host : String) (cases : List Case) (visibility : Visibility)
    (library : Path) (hn : (cases.map fun c => Ident.escape c.id).Nodup) :
    ∃ p, Program.read? library ((synthesize host cases visibility).tokens library) = some p ∧
      p.variants = (cases.map fun c => Ident.escape c.id) ∧ p.test.candidateType = p.caseType ∧
      (∀ (i j : Nat) (c : Case) (candidate : Ident) (slots : Slots), cases[i]? = some c →
        p.variants[j]? = some candidate →
        ∃ k arm, p.testMatch ⟨.escape c.id, slots⟩ candidate = some k ∧
          p.test.arms[k]? = some arm ∧ (arm.answer = true ↔ i = j) ∧
          p.is ⟨.escape c.id, slots⟩ candidate = some arm.answer) ∧
      ∀ k < p.test.arms.length, ∃ (i j : Nat) (c : Case) (candidate : Ident),
        cases[i]? = some c ∧ p.variants[j]? = some candidate ∧
          ∀ slots, p.testMatch ⟨.escape c.id, slots⟩ candidate = some k := by
  have hvariants := variants_synthesize host cases visibility
  refine ⟨_, Synthesis.read?_tokens library _, hvariants, rfl, ?_, ?_⟩
  · intro i j c candidate slots hi hj
    rw [hvariants, List.getElem?_map, Option.map_eq_some_iff] at hj
    obtain ⟨d, hj, rfl⟩ := hj
    obtain ⟨k, arm, hfirst, harm, hiff⟩ := exists_testMatch_answer host visibility hn hi hj slots
    exact ⟨k, arm, hfirst, harm, hiff, Program.is_eq_answer hfirst harm⟩
  · intro k hk
    obtain ⟨i, j, c, d, hi, hj, hfirst⟩ := exists_testMatch_eq host visibility hn hk
    refine ⟨i, j, c, .escape d.id, hi, ?_, hfirst⟩
    rw [hvariants, List.getElem?_map, hj]
    rfl

/-- Two cases, one of them named like a keyword: a value of the first is not of the second. -/
theorem testMatch_keyword_cases :
    ∃ p, Program.read? .standard
        ((synthesize "Foo" [.tuple "type" 2, .unit "Bar"] .exported).tokens .standard) = some p ∧
      p.is ⟨.escape "type", .positional []⟩ (.escape "Bar") = some false := by
  have htype : Ident.escape "type" = ⟨true, "type", by decide, by decide⟩ :=
    Ident.escape_of_isWord (by decide) (by decide)
  have hbar : Ident.escape "Bar" = .plain "Bar" := Ident.escape_of_isWord (by decide) (by decide)
  obtain ⟨p, hread, hvariants, -, hpairs, -⟩ := testMatch_answer_iff_and_live "Foo"
    [.tuple "type" 2, .unit "Bar"] .exported .standard (by
      show [Ident.escape "type", Ident.escape "Bar"].Nodup
      rw [htype, hbar]
      decide)
  obtain ⟨k, arm, -, -, hiff, his⟩ := hpairs 0 1 (.tuple "type" 2) (.escape "Bar")
    (.positional []) rfl (by rw [hvariants]; rfl)
  have hfalse : arm.answer = false := by
    cases harm : arm.answer
    · rfl
    · exact absurd (hiff.mp harm) (by decide)
  rw [hfalse] at his
  exact ⟨p, hread, his⟩

end EnumCases
