import EnumCases.Declaration

/-!
# Verdicts on a declaration

`Declaration.validate` accepts an enum that has a case with associated values and no nested type in
the way of the discriminator. The first fault in the order of `Diagnostic` is the one reported.
-/

namespace EnumCases

/-- Why a declaration is rejected. -/
inductive Diagnostic where
  /-- The declaration is no enum. -/
  | notAnEnum
  /-- The enum has no cases. -/
  | emptyEnum
  /-- No case has associated values. -/
  | noAssociatedValues
  /-- A nested type has the discriminator's name. -/
  | conflictingCaseType
deriving DecidableEq, Repr

namespace Diagnostic

/-- The name of the fault, as it is logged. -/
def kind : Diagnostic → String
  | .notAnEnum => "NotAnEnum"
  | .emptyEnum => "EmptyEnum"
  | .noAssociatedValues => "NoAssociatedValues"
  | .conflictingCaseType => "ConflictingCaseType"

/-- The text shown to the author of the declaration. -/
def message : Diagnostic → String
  | .notAnEnum => "should only be attached to an enum declaration"
  | .emptyEnum => "The attached enum has no cases"
  | .noAssociatedValues => "The cases have no associated values, no need to apply this macro"
  | .conflictingCaseType =>
    "There is already an enum declaration with name Case already, " ++
      "remove or rename the declared enum."

instance : ToString Diagnostic := ⟨message⟩

end Diagnostic

/-- The name that the discriminator has inside the host. -/
def discriminatorName : String := "Case"

/-- An accepted enum: its name and its cases. -/
structure Host where
  /-- The name of the enum. -/
  name : String
  /-- Its cases in source order. -/
  cases : List Case
deriving DecidableEq, Repr

/-- A nested type with the discriminator's name, of whatever kind. -/
def Member.isConflict : Member → Bool
  | .type name _ => name == discriminatorName
  | _ => false

/-- The verdict on an enum. -/
def EnumDecl.validate (e : EnumDecl) : Except Diagnostic Host :=
  if e.cases.isEmpty then .error .emptyEnum
  else if e.cases.all (·.arity == 0) then .error .noAssociatedValues
  else if e.existing.any Member.isConflict then .error .conflictingCaseType
  else .ok ⟨e.name, e.cases⟩

/-- The verdict on a declaration. -/
def Declaration.validate : Declaration → Except Diagnostic Host
  | .enum e => e.validate
  | .other _ _ => .error .notAnEnum

end EnumCases
