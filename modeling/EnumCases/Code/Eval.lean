import EnumCases.Code.Items
import EnumCases.Value

/-!
# What an arm of the accessor computes

A value of the host is a case and the values in the slots of its payload. An arm of the accessor binds
names to these values, gathers some of them, and hands the result out at a type. Where the pattern
does not fit the payload, or a name is not bound, there is no outcome (`none`).
-/

namespace EnumCases

/-- The values in the slots of a payload. -/
inductive Slots where
  /-- By position. -/
  | positional (values : List Typed)
  /-- By label. -/
  | labelled (values : List (Ident × Typed))

/-- A value of the host. -/
structure HostValue where
  /-- The case. -/
  case : Ident
  /-- The payload. -/
  slots : Slots

namespace Code

/-- What a pattern binds, if it fits the payload: it has to name every slot. -/
def Pattern.bind : Pattern → Slots → Option (List (Ident × Typed))
  | .positional bindings, .positional values =>
    if bindings.length = values.length then some (bindings.zip values) else none
  | .labelled fields, .labelled values =>
    if fields.length = values.length then
      fields.mapM fun (label, binding) => (values.lookup label).map (binding, ·)
    else none
  | _, _ => none

/-- The value that is gathered from bound ones. -/
def Gathered.eval (bound : List (Ident × Typed)) : Gathered → Option Typed
  | .single binding => bound.lookup binding
  | .tuple bindings => (bindings.mapM fun b => bound.lookup b).map .tuple

/-- The outcome of an arm of the accessor at a type. -/
def ExtractArm.eval (a : ExtractArm) (target : Ty) (slots : Slots) : Option (Option Datum) := do
  let value ← a.value.eval (← a.pattern.bind slots)
  return value.extract target

end Code

end EnumCases
