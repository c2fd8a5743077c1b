import EnumCases.Diagnostic

/-!
# The members to derive

A synthesis describes three members of a host: the *discriminator*, a type with one variant per
case and no payloads; the *predicate*, which tells whether a value is of the case that a variant
names; and the *accessor*, which returns the associated values of the current case.
`synthesize` describes them for a list of cases, and `Declaration.transform` does so for an
accepted declaration. A synthesis is plain data and need not come from `synthesize`.
-/

namespace EnumCases

/-- How an arm of the accessor hands out the associated values. -/
inductive Extraction where
  /-- The one value by itself. -/
  | value
  /-- A tuple of `arity` values. -/
  | tuple (arity : Nat)
deriving DecidableEq, Repr

/-- The number of values handed out. -/
def Extraction.arity : Extraction → Nat
  | .value => 1
  | .tuple arity => arity

/-- The extraction for `arity` values. -/
def Extraction.ofArity (arity : Nat) : Extraction :=
  if arity = 1 then .value else .tuple arity

/-- The discriminator: a type whose variants are the cases without their payloads. -/
structure Discriminator where
  /-- The name, to be appended to the host's. -/
  name : String
  /-- The visibility of the type. -/
  visibility : Visibility
  /-- One variant per case. -/
  variants : List String
deriving DecidableEq, Repr

/-- The predicate: one arm per case that answers `true`, and an answer for all other pairs. -/
structure Predicate where
  /-- The name of the function. -/
  name : String
  /-- The visibility of the function. -/
  visibility : Visibility
  /-- The case of each arm. -/
  arms : List String
  /-- The answer of the last arm, if there is one. -/
  catchAll : Option Bool
deriving DecidableEq, Repr

/-- An arm of the accessor. -/
structure AccessorArm where
  /-- The case of the arm. -/
  case : String
  /-- The payload of that case. -/
  payload : Payload
  /-- How the values are handed out. -/
  extraction : Extraction
deriving DecidableEq, Repr

/-- The accessor: one arm per case with associated values. -/
structure Accessor where
  /-- The name of the function. -/
  name : String
  /-- The visibility of the function. -/
  visibility : Visibility
  /-- The arms. -/
  arms : List AccessorArm
  /-- Whether a last arm answers for the cases without arms. -/
  fallback : Bool
deriving DecidableEq, Repr

/-- The members to derive for a host. -/
structure Synthesis where
  /-- The name of the host. -/
  host : String
  /-- The type of the cases without payloads. -/
  discriminator : Discriminator
  /-- The test for a case. -/
  predicate : Predicate
  /-- The access to associated values. -/
  accessor : Accessor
deriving DecidableEq, Repr

/-- The accessor's arm for a case, if the case has associated values. -/
def Case.accessorArm? (c : Case) : Option AccessorArm :=
  if c.arity = 0 then none else some ⟨c.id, c.payload, .ofArity c.arity⟩

/-- The members of `host` for the given cases, all of one visibility. With a single case every pair
matches the predicate's one arm, so a catch-all is there only for two or more cases. -/
def synthesize (host : String) (cases : List Case) (visibility : Visibility) : Synthesis where
  host
  discriminator := ⟨discriminatorName, visibility, cases.map Case.id⟩
  predicate :=
    ⟨"is_case", visibility, cases.map Case.id, if 1 < cases.length then some false else none⟩
  accessor :=
    let arms := cases.filterMap Case.accessorArm?
    ⟨"associated_value", visibility, arms, arms.length < cases.length⟩

/-- The members of an accepted declaration. -/
def Declaration.transform (d : Declaration) : Except Diagnostic Synthesis :=
  d.validate.map fun host => synthesize host.name host.cases d.visibility

end EnumCases
