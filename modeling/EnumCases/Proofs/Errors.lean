/-!
# The error that a computation ends with

Which error is reported, and when there is none, is said about `errorOf?` of a computation. A
sequence ends with the error of its first part, if that has one (`errorOf?_bind`), and so does a
loop whose rounds fail alike whatever the state is (`errorOf?_foldlM`).
-/

namespace EnumCases

variable {α β ε ζ η : Type}

/-- The error that a computation ends with, if it ends with one. -/
def errorOf? : Except ε α → Option ε
  | .error e => some e
  | .ok _ => none

/-- There is an error just if the computation ends with it. -/
theorem errorOf?_eq_some_iff {x : Except ε α} {e : ε} : errorOf? x = some e ↔ x = .error e := by
  cases x <;> simp [errorOf?]

/-- There is no error just if the computation succeeds. -/
theorem errorOf?_eq_none_iff {x : Except ε α} : errorOf? x = none ↔ ∃ a, x = .ok a := by
  cases x <;> simp [errorOf?]

/-- What is done with the result makes no difference. -/
@[simp] theorem errorOf?_map (f : α → β) (x : Except ε α) : errorOf? (x.map f) = errorOf? x := by
  cases x <;> rfl

/-- An error that is seen as another one. -/
@[simp] theorem errorOf?_mapError (f : ε → ζ) (x : Except ε α) :
    errorOf? (x.mapError f) = (errorOf? x).map f := by
  cases x <;> rfl

/-- What the errors of a sequence are seen as does not depend on when that is decided. -/
theorem mapError_bind (f : ε → ζ) (g : ζ → η) (x : Except ε α) (h : α → Except ζ β) :
    (x.mapError f >>= h).mapError g = x.mapError (g ∘ f) >>= fun a => (h a).mapError g := by
  cases x <;> rfl

/-- The first part of a sequence has the first word. -/
theorem errorOf?_bind (x : Except ε α) (f : α → Except ε β) :
    errorOf? (x >>= f) = match x with
      | .error e => some e
      | .ok a => errorOf? (f a) := by
  cases x <;> rfl

/-- A sequence succeeds just if its parts do. -/
theorem bind_eq_ok_iff {x : Except ε α} {f : α → Except ε β} {b : β} :
    x >>= f = .ok b ↔ ∃ a, x = .ok a ∧ f a = .ok b := by
  cases x <;> simp [Bind.bind, Except.bind]

/-- If the rounds of a loop fail whatever the state is, the loop fails with the first fault. -/
theorem errorOf?_foldlM {f : β → α → Except ε β} {fault? : α → Option ε}
    (h : ∀ b a, errorOf? (f b a) = fault? a) (as : List α) (b : β) :
    errorOf? (as.foldlM f b) = as.findSome? fault? := by
  induction as generalizing b with
  | nil => rfl
  | cons a as ih =>
    have hround := h b a
    rw [List.foldlM_cons, errorOf?_bind, List.findSome?_cons]
    cases hf : f b a with
    | error e =>
      rw [hf] at hround
      rw [← hround]
      rfl
    | ok b' =>
      rw [hf] at hround
      rw [← hround]
      exact ih b'

end EnumCases
