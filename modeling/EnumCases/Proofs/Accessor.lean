import EnumCases.Proofs.Escape
import EnumCases.Proofs.Rendered
import EnumCases.Proofs.Synthesis

/-!
# The accessor hands out the payload at its own type

The arms of the accessor are read from the tokens that are rendered for it. It always has an outcome
for a value of the host: that of the value's own arm if its case has associated values
(`find?_arms`), and that of the last arm otherwise. The outcome is the whole payload at the
payload's own type and nothing at any other type (`extract_eq_some_iff`).
-/

namespace EnumCases

open Code

/-- A value of the case `c` whose slots have the given types and hold the given values. -/
structure HostValue.OfCase (v : HostValue) (c : Case) (types : List Ty) (values : List Typed) :
    Prop where
  /-- The value is of the rendered case. -/
  case : v.case = .escape c.id
  /-- The values have the types of the slots. -/
  typed : values.map (·.type) = types
  /-- The values are in the slots of the payload. -/
  holds : c.payload.Holds values v.slots

/-- The arm of a case matches values of that case. -/
theorem Case.case_item {c : Case} {arm : AccessorArm} (h : c.accessorArm? = some arm) :
    arm.item.case = .escape c.id := by
  obtain ⟨-, rfl⟩ := Case.accessorArm?_eq_some_iff.mp h
  rfl

/-- The arms of the accessor match only cases of the list. -/
theorem case_mem_of_mem_arms {cases : List Case} {arm : ExtractArm}
    (h : arm ∈ (cases.filterMap Case.accessorArm?).map AccessorArm.item) :
    arm.case ∈ cases.map fun c => Ident.escape c.id := by
  obtain ⟨a, ha, rfl⟩ := List.mem_map.mp h
  obtain ⟨c, hc, hac⟩ := List.mem_filterMap.mp ha
  exact List.mem_map.mpr ⟨c, hc, (Case.case_item hac).symm⟩

/-- Of cases that are rendered differently, the first arm that matches a case is its own. -/
theorem find?_arms {cases : List Case} (hn : (cases.map fun c => Ident.escape c.id).Nodup)
    {c : Case} (hc : c ∈ cases) :
    ((cases.filterMap Case.accessorArm?).map AccessorArm.item).find? (·.case == .escape c.id) =
      c.accessorArm?.map AccessorArm.item := by
  induction cases with
  | nil => simp at hc
  | cons d cases ih =>
    rw [List.map_cons, List.nodup_cons] at hn
    rw [List.filterMap_cons]
    rcases List.mem_cons.mp hc with rfl | hc
    · cases harm : c.accessorArm? with
      | some arm => simp [Case.case_item harm]
      | none =>
        -- No later arm takes the place of the missing one.
        rw [Option.map_none, List.find?_eq_none]
        intro arm hmem heq
        exact hn.1 (beq_iff_eq.mp heq ▸ case_mem_of_mem_arms hmem)
    · have hne : Ident.escape d.id ≠ .escape c.id := by
        intro heq
        exact hn.1 (heq ▸ List.mem_map.mpr ⟨c, hc, rfl⟩)
      rw [← ih hn.2 hc]
      cases harm : d.accessorArm? with
      | none => rfl
      | some arm => simp [Case.case_item harm, hne]

/-- The arm of a case hands out what is gathered from the case's slots. -/
theorem Case.eval_item {c : Case} {arm : AccessorArm} (harm : c.accessorArm? = some arm)
    {values : List Typed} {slots : Slots} (h : c.payload.Holds values slots)
    (hd : c.payload.LabelsDiffer) (target : Ty) :
    arm.item.eval target slots = some ((Typed.gather values).downcast target) := by
  obtain ⟨hzero, rfl⟩ := Case.accessorArm?_eq_some_iff.mp harm
  have harity : c.arity = values.length := h.arity_eq
  have hne : values ≠ [] := by
    rintro rfl
    exact hzero harity
  -- The pattern binds the slots in declaration order, and the value uses each binding once.
  have hbind : (c.payload.pattern (Ident.bindings c.arity)).bind slots =
      some ((Ident.bindings c.arity).zip values) := Payload.bind_pattern h hd
  have hvalue : (Extraction.ofArity c.arity).gathered.eval ((Ident.bindings c.arity).zip values) =
      some (Typed.gather values) := by
    rw [harity]
    exact Extraction.eval_gathered hne
  simp only [ExtractArm.eval, AccessorArm.item, Extraction.arity_ofArity, hbind, hvalue,
    Option.bind_eq_bind, Option.bind_some, Typed.extract_eq_downcast]
  rfl

/-- The first arm for a value of a case: its own, or the last one if it has none. -/
theorem find?_accepts (host : String) (visibility : Visibility) {cases : List Case}
    (hn : (cases.map fun c => Ident.escape c.id).Nodup) {c : Case} (hc : c ∈ cases) {v : HostValue}
    (hv : v.case = .escape c.id) :
    (synthesize host cases visibility).program.access.arms.find? (·.accepts v) =
      some ((c.accessorArm?.map fun arm => .payload arm.item).getD .nothing) := by
  have hown : (((cases.filterMap Case.accessorArm?).map AccessorArm.item).map
      AccessArm.payload).find? (·.accepts v) = c.accessorArm?.map fun arm => .payload arm.item := by
    have haccepts : (·.accepts v) ∘ AccessArm.payload = fun arm => arm.case == .escape c.id := by
      rw [← hv]
      rfl
    rw [List.find?_map, haccepts, find?_arms hn hc, Option.map_map]
    rfl
  rw [accessArms_synthesize, List.find?_append, hown]
  cases harm : c.accessorArm? with
  | some arm => rfl
  | none =>
    -- A case without an arm has no values, so there are fewer arms than cases, and a last one.
    have hzero : c.arity = 0 := by
      by_contra hne
      rw [Case.accessorArm?_eq_some_iff.mpr ⟨hne, rfl⟩] at harm
      cases harm
    rw [fallback_of_arity_eq_zero host visibility hc hzero]
    rfl

/-- The outcome of the accessor for a value of a case: what is gathered from its slots, downcast, or
nothing if it has none. -/
theorem extract_synthesize (host : String) (visibility : Visibility) {cases : List Case}
    (hn : (cases.map fun c => Ident.escape c.id).Nodup) {c : Case} (hc : c ∈ cases)
    (hd : c.payload.LabelsDiffer) {types : List Ty} {values : List Typed} {v : HostValue}
    (hv : v.OfCase c types values) (target : Ty) :
    (synthesize host cases visibility).program.extract target v =
      some (if values = [] then none else (Typed.gather values).downcast target) := by
  have harity : c.arity = values.length := hv.holds.arity_eq
  rw [Program.extract, find?_accepts host visibility hn hc hv.case, Option.bind_some]
  by_cases hzero : c.arity = 0
  · have hnil : values = [] := List.length_eq_zero_iff.mp (harity ▸ hzero)
    rw [Case.accessorArm?_eq_none hzero, if_pos hnil]
    rfl
  · have hne : values ≠ [] := by
      rintro rfl
      exact hzero harity
    have harm := Case.accessorArm?_eq_some_iff.mpr ⟨hzero, rfl⟩
    rw [harm, if_neg hne]
    exact Case.eval_item harm hv.holds hd target

/-- A downcast of gathered values succeeds at one type only: the type of the one value, or the tuple
of the types of all. -/
theorem Typed.downcast_gather_eq_some_iff {values : List Typed} (hne : values ≠ []) (target : Ty)
    (w : Datum) :
    (Typed.gather values).downcast target = some w ↔
      (values.length = 1 ∧ values.map (·.type) = [target] ∧ values.map (·.datum) = [w]) ∨
        (2 ≤ values.length ∧ target = .tuple (values.map (·.type)) ∧
          w = .tuple (values.map (·.datum))) := by
  have hiff : ∀ u : Typed, u.downcast target = some w ↔ u.type = target ∧ u.datum = w := by
    intro u
    unfold downcast
    split_ifs with h <;> simp [h]
  rw [hiff]
  -- One value is gathered as it is, also if it is a tuple; several make up a new one.
  match values, hne with
  | [v], _ => simp [Typed.gather]
  | v :: u :: vs, _ => simp [Typed.gather, Typed.tuple, eq_comm (a := target), eq_comm (a := w)]

/-- The tokens that are rendered for an accepted enum are read as a program whose accessor, for
every value of the host and every requested type, has an outcome. It hands something out just if the
case has one slot and its type is requested, or the case has several slots and the tuple of their
types in declaration order is requested; what it hands out is then the value of that slot, or the
tuple of the values of all slots. -/
theorem extract_eq_some_iff (e : EnumDecl) (s : Synthesis)
    (hs : (Declaration.enum e).transform = .ok s)
    (hcases : (e.cases.map fun c => Ident.escape c.id).Nodup)
    (hlabels : ∀ c ∈ e.cases, c.payload.LabelsDiffer) (library : Path) :
    ∃ p, Program.read? library (s.tokens library) = some p ∧
      ∀ (types : Nat → List Ty) (i : Nat) (c : Case) (values : List Typed) (v : HostValue)
        (target : Ty), e.cases[i]? = some c → v.OfCase c (types i) values →
        ∃ outcome, p.extract target v = some outcome ∧
          ∀ w, outcome = some w ↔
            (c.arity = 1 ∧ types i = [target] ∧ values.map (·.datum) = [w]) ∨
              (2 ≤ c.arity ∧ target = .tuple (types i) ∧ w = .tuple (values.map (·.datum))) := by
  obtain rfl := EnumDecl.eq_synthesize_of_transform hs
  refine ⟨_, Synthesis.read?_tokens library _, fun types i c values v target hi hv => ?_⟩
  have hc : c ∈ e.cases := List.mem_of_getElem? hi
  have harity : c.arity = values.length := hv.holds.arity_eq
  refine ⟨_, extract_synthesize e.name e.visibility hcases hc (hlabels c hc) hv target, fun w => ?_⟩
  rw [← hv.typed, harity]
  split_ifs with hnil
  · simp [hnil]
  · exact Typed.downcast_gather_eq_some_iff hnil target w

/-- A record whose labels are a word and a keyword, and whose slots are not in declaration order, is
handed out as a tuple in declaration order. -/
theorem extract_record :
    ∃ p, Program.read? .standard
        ((synthesize "Shape" [.record "At" ["y", "type"], .unit "Empty"] .inherited).tokens
          .standard) = some p ∧
      p.extract (.tuple [.bool, .i32])
        ⟨.escape "At", .labelled [(.escape "type", ⟨.i32, .integer 2⟩),
          (.escape "y", ⟨.bool, .boolean true⟩)]⟩ =
      some (some (.tuple [.boolean true, .integer 2])) := by
  have hat : Ident.escape "At" = .plain "At" := Ident.escape_of_isWord (by decide) (by decide)
  have hempty : Ident.escape "Empty" = .plain "Empty" :=
    Ident.escape_of_isWord (by decide) (by decide)
  have hy : Ident.escape "y" = .plain "y" := Ident.escape_of_isWord (by decide) (by decide)
  have htype : Ident.escape "type" = ⟨true, "type", by decide, by decide⟩ :=
    Ident.escape_of_isWord (by decide) (by decide)
  obtain ⟨p, hread, hall⟩ := extract_eq_some_iff
    ⟨"Shape", [], [.cases [.record "At" ["y", "type"], .unit "Empty"]]⟩ _ rfl
    (by
      show [Ident.escape "At", Ident.escape "Empty"].Nodup
      rw [hat, hempty]
      decide)
    (by
      intro c hc
      rcases List.mem_pair.mp hc with rfl | rfl
      · show [Ident.escape "y", Ident.escape "type"].Nodup
        rw [hy, htype]
        decide
      · trivial) .standard
  obtain ⟨outcome, hextract, hiff⟩ := hall (fun _ => [.bool, .i32]) 0 (.record "At" ["y", "type"])
    [⟨.bool, .boolean true⟩, ⟨.i32, .integer 2⟩]
    ⟨.escape "At", .labelled [(.escape "type", ⟨.i32, .integer 2⟩),
      (.escape "y", ⟨.bool, .boolean true⟩)]⟩ (.tuple [.bool, .i32]) rfl
    ⟨rfl, rfl, rfl, List.Perm.swap _ _ _⟩
  have hsome : outcome = some (.tuple [.boolean true, .integer 2]) :=
    (hiff _).mpr (.inr ⟨by decide, rfl, rfl⟩)
  rw [hsome] at hextract
  exact ⟨p, hread, hextract⟩

end EnumCases
