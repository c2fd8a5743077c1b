import EnumCases.Code.Eval
import Mathlib.Data.List.Nodup
import Mathlib.Data.List.Forall2

/-!
# What the arms of the accessor bind

The arms of the accessor name the slots of a payload by numbered bindings. The bindings are pairwise
different (`Ident.nodup_bindings`), so looking one up gives the value of its slot. `Payload.Holds`
says which values are in the slots of a payload, by position or by label. The pattern of a payload
then binds exactly these values in declaration order (`Payload.bind_pattern`), and the extraction
gathers all of them (`Extraction.eval_gathered`).
-/

namespace EnumCases

open Code

/-- Different slots have different bindings. -/
theorem Ident.binding_injective : Function.Injective Ident.binding := by
  intro i j h
  have hname : "__" ++ toString i = "__" ++ toString j := congrArg Ident.name h
  have hdigits : Nat.toDigits 10 i = Nat.toDigits 10 j := by
    simpa [Nat.toString_eq_repr, Nat.toList_repr] using congrArg String.toList hname
  rw [← Nat.ofDigitChars_ten_toDigits (n := i), hdigits, Nat.ofDigitChars_ten_toDigits]

/-- The bindings of a payload are pairwise different. -/
theorem Ident.nodup_bindings (count : Nat) : (Ident.bindings count).Nodup :=
  List.Nodup.map Ident.binding_injective List.nodup_range

@[simp] theorem Ident.length_bindings (count : Nat) : (Ident.bindings count).length = count := by
  simp [Ident.bindings]

/-- An entry is found under its key if no other entry has that key. -/
theorem lookup_of_mem {entries : List (Ident × Typed)} (hn : (entries.map Prod.fst).Nodup)
    {key : Ident} {value : Typed} (h : (key, value) ∈ entries) :
    entries.lookup key = some value := by
  induction entries with
  | nil => simp at h
  | cons entry entries ih =>
    rw [List.map_cons, List.nodup_cons] at hn
    rcases List.mem_cons.mp h with rfl | h
    · exact List.lookup_cons_self
    · have hne : key ≠ entry.1 := by
        rintro rfl
        exact hn.1 (List.mem_map.mpr ⟨(entry.1, value), h, rfl⟩)
      rw [List.lookup_cons, beq_false_of_ne hne]
      exact ih hn.2 h

/-- Where each element has an image, the list has that of all elements in order. -/
theorem mapM_eq_some_of_forall₂ {α β : Type} {f : α → Option β} {as : List α} {bs : List β}
    (h : List.Forall₂ (fun a b => f a = some b) as bs) : as.mapM f = some bs := by
  induction h with
  | nil => rfl
  | cons ha _ ih => simp [List.mapM_cons, ha, ih]

/-- All keys looked up in order give all values in order. -/
theorem mapM_lookup_zip {keys : List Ident} {values : List Typed} (hn : keys.Nodup)
    (hl : keys.length = values.length) :
    keys.mapM (fun key => (keys.zip values).lookup key) = some values := by
  apply mapM_eq_some_of_forall₂
  rw [List.forall₂_iff_zip]
  refine ⟨hl, fun {key value} h => lookup_of_mem ?_ h⟩
  rwa [List.map_fst_zip (Nat.le_of_eq hl)]

/-- The values in the slots of a payload, in declaration order. Positional slots list them; labelled
slots hold them in any order, each with its rendered label. -/
def Payload.Holds (values : List Typed) : Payload → Slots → Prop
  | .record labels, .labelled fields =>
    labels.length = values.length ∧ fields.Perm ((labels.map Ident.escape).zip values)
  | .record _, .positional _ => False
  | _, .labelled _ => False
  | p, .positional slots => p.arity = values.length ∧ slots = values

/-- A payload has as many values as its arity says. -/
theorem Payload.Holds.arity_eq {values : List Typed} {p : Payload} {slots : Slots}
    (h : p.Holds values slots) : p.arity = values.length := by
  cases p <;> cases slots <;> simp_all [Payload.Holds, Payload.arity]

/-- No two labels of a record are rendered as one identifier. -/
def Payload.LabelsDiffer : Payload → Prop
  | .record labels => (labels.map Ident.escape).Nodup
  | _ => True

/-- The pattern of a payload binds the values of all slots in declaration order. -/
theorem Payload.bind_pattern {values : List Typed} {p : Payload} {slots : Slots}
    (h : p.Holds values slots) (hd : p.LabelsDiffer) :
    (p.pattern (Ident.bindings p.arity)).bind slots =
      some ((Ident.bindings p.arity).zip values) := by
  have harity := h.arity_eq
  cases p with
  | unit | tuple n =>
    cases slots with
    | labelled fields => exact h.elim
    | positional slots =>
      obtain ⟨-, rfl⟩ := h
      simp [Payload.pattern, Pattern.bind, harity]
  | record labels =>
    cases slots with
    | positional slots => exact h.elim
    | labelled fields =>
      obtain ⟨hlen, hperm⟩ := h
      have hkeys : (fields.map Prod.fst).Nodup := by
        rw [(hperm.map Prod.fst).nodup_iff, List.map_fst_zip (by simp [hlen])]
        exact hd
      have hcount : fields.length = labels.length := by
        simp [hperm.length_eq, hlen]
      simp only [Payload.arity] at harity ⊢
      simp only [Payload.pattern, Pattern.bind, List.length_zip, List.length_map,
        Ident.length_bindings, Nat.min_self, hcount, if_true]
      -- Position by position: the slot under a label is the value that the label was zipped with.
      apply mapM_eq_some_of_forall₂
      rw [List.forall₂_iff_get]
      refine ⟨by simp [hlen], fun i hi hi' => ?_⟩
      simp only [List.get_eq_getElem, List.getElem_zip, List.length_zip, List.length_map,
        Ident.length_bindings, Nat.min_self] at hi ⊢
      have hvalue : i < values.length := by omega
      have hlabel : i < (labels.map Ident.escape).length := by simpa using hi
      have hmem : ((labels.map Ident.escape)[i], values[i]) ∈
          (labels.map Ident.escape).zip values := by
        rw [List.mem_iff_getElem]
        exact ⟨i, by simp; omega, by simp⟩
      rw [lookup_of_mem hkeys (hperm.mem_iff.mpr hmem)]
      rfl

/-- What an arm hands out: the one value by itself, or the tuple of all values. -/
def Typed.gather : List Typed → Typed
  | [v] => v
  | vs => .tuple vs

/-- The extraction for the arity of a payload gathers all of its values. -/
theorem Extraction.eval_gathered {values : List Typed} (hpos : values ≠ []) :
    (Extraction.ofArity values.length).gathered.eval
      ((Ident.bindings values.length).zip values) = some (Typed.gather values) := by
  match values, hpos with
  | [v], _ => simp [ofArity, gathered, Gathered.eval, Ident.bindings, Typed.gather]
  | v :: w :: vs, _ =>
    have hlookup : (Ident.bindings (v :: w :: vs).length).mapM _ = some (v :: w :: vs) :=
      mapM_lookup_zip (Ident.nodup_bindings _) (Ident.length_bindings _)
    have hof : Extraction.ofArity (v :: w :: vs).length = .tuple (v :: w :: vs).length :=
      if_neg (by simp)
    simp only [hof, gathered, Gathered.eval, hlookup, Option.map_some, Typed.gather]

end EnumCases
