/-!
# Cases and their payloads

A case of an enum has an identifier and a payload: no associated values, a number of positional
ones, or labelled ones. `Payload.arity` counts the values. The constructors `Case.tuple` and
`Case.record` write a payload without values as `Payload.unit`; a payload given directly is kept as
it is, so `Payload.tuple 0` and `Payload.record []` are legal values of arity 0.
-/

namespace EnumCases

/-- The associated values of a case. -/
inductive Payload where
  /-- No associated values. -/
  | unit
  /-- Positional values, as many as `arity` says. -/
  | tuple (arity : Nat)
  /-- Labelled values, in declaration order. -/
  | record (labels : List String)
deriving DecidableEq, Repr

/-- The number of associated values. -/
def Payload.arity : Payload → Nat
  | .unit => 0
  | .tuple arity => arity
  | .record labels => labels.length

/-- One case of an enum. -/
structure Case where
  /-- The identifier, without a raw mark. -/
  id : String
  /-- The associated values. -/
  payload : Payload
deriving DecidableEq, Repr

namespace Case

/-- The number of associated values. -/
def arity (c : Case) : Nat := c.payload.arity

/-- A case without associated values. -/
def unit (id : String) : Case := ⟨id, .unit⟩

/-- A case with `arity` positional values. -/
def tuple (id : String) (arity : Nat) : Case :=
  if arity = 0 then unit id else ⟨id, .tuple arity⟩

/-- A case with the given labels. -/
def record (id : String) (labels : List String) : Case :=
  if labels.isEmpty then unit id else ⟨id, .record labels⟩

@[simp] theorem arity_unit (id : String) : (unit id).arity = 0 := rfl

@[simp] theorem arity_tuple (id : String) (arity : Nat) : (tuple id arity).arity = arity := by
  unfold tuple
  split
  · simp_all
  · rfl

@[simp] theorem arity_record (id : String) (labels : List String) :
    (record id labels).arity = labels.length := by
  unfold record
  split
  · simp_all
  · rfl

end Case

end EnumCases
