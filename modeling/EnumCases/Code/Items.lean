import EnumCases.Identifier
import EnumCases.Synthesis

/-!
# Derived members as items

`Synthesis.items` settles every identifier of the derived members: names are escaped, the
discriminator is named after the host, and the arms of the accessor get their bindings. An arm binds
as many names as its extraction hands out; a record pattern pairs labels with bindings as long as
there are both.
-/

namespace EnumCases

/-- The name bound to the slot `i` of a payload. -/
def Ident.binding (i : Nat) : Ident :=
  .plain ("__" ++ toString i) <| by
    have hdigits : ∀ c ∈ Nat.toDigits 10 i, Text.isWordContinue c = true := by
      intro c hc
      have hd := Nat.isDigit_of_mem_toDigits (by decide) (by decide) hc
      have hmangle : Ident.mangleChar c = c := by simp [Ident.mangleChar, Char.isAlphanum, hd]
      exact hmangle ▸ Ident.isWordContinue_mangleChar c
    simpa [Text.isWord, Nat.toString_eq_repr, Nat.toList_repr] using
      ⟨by decide, by decide, hdigits⟩

namespace Code

/-- The discriminator as an item. -/
structure CaseType where
  /-- The host, for the documentation. -/
  host : Ident
  /-- The name of the type. -/
  name : Ident
  /-- The visibility of the type. -/
  visibility : Visibility
  /-- The variants. -/
  variants : List Ident
deriving DecidableEq, Repr

/-- The predicate as a function. Every arm matches its case, whatever the payload, together with the
variant of the same name. -/
structure CaseTest where
  /-- The name of the function. -/
  name : Ident
  /-- The visibility of the function. -/
  visibility : Visibility
  /-- The type of the candidate. -/
  caseType : Ident
  /-- The case of each arm. -/
  arms : List Ident
  /-- The answer of the last arm, if there is one. -/
  catchAll : Option Bool
deriving DecidableEq, Repr

/-- How a pattern binds the slots of a payload. -/
inductive Pattern where
  /-- By position. -/
  | positional (bindings : List Ident)
  /-- By label, each label with the name it is bound to. -/
  | labelled (fields : List (Ident × Ident))
deriving DecidableEq, Repr

/-- The names that a pattern binds, in order. -/
def Pattern.bindings : Pattern → List Ident
  | .positional bindings => bindings
  | .labelled fields => fields.map Prod.snd

/-- What an arm hands to the downcast. -/
inductive Gathered where
  /-- One bound value. -/
  | single (binding : Ident)
  /-- A tuple of bound values. -/
  | tuple (bindings : List Ident)
deriving DecidableEq, Repr

/-- The names that a gathered value uses, in order. -/
def Gathered.bindings : Gathered → List Ident
  | .single binding => [binding]
  | .tuple bindings => bindings

/-- An arm of the accessor. -/
structure ExtractArm where
  /-- The case. -/
  case : Ident
  /-- The pattern after the case. -/
  pattern : Pattern
  /-- The value handed out. -/
  value : Gathered
deriving DecidableEq, Repr

/-- The accessor as a function. -/
structure Extractor where
  /-- The name of the function. -/
  name : Ident
  /-- The visibility of the function. -/
  visibility : Visibility
  /-- The arms. -/
  arms : List ExtractArm
  /-- Whether a last arm answers with nothing. -/
  fallback : Bool
deriving DecidableEq, Repr

/-- The derived items of a host. -/
structure Items where
  /-- The host. -/
  host : Ident
  /-- The discriminator. -/
  caseType : CaseType
  /-- The predicate. -/
  caseTest : CaseTest
  /-- The accessor. -/
  extractor : Extractor
deriving DecidableEq, Repr

end Code

open Code

/-- The identifier of the discriminator: the host's name followed by the discriminator's. -/
def Ident.discriminator (host name : String) : Ident := .escape (stripRaw host ++ name)

/-- The bindings of `count` slots. -/
def Ident.bindings (count : Nat) : List Ident := (List.range count).map .binding

/-- The pattern for a payload, with the given bindings. -/
def Payload.pattern (bindings : List Ident) : Payload → Pattern
  | .unit | .tuple _ => .positional bindings
  | .record labels => .labelled ((labels.map Ident.escape).zip bindings)

/-- What an extraction hands to the downcast. -/
def Extraction.gathered : Extraction → Gathered
  | .value => .single (.binding 0)
  | .tuple arity => .tuple (Ident.bindings arity)

/-- An arm of the accessor with its identifiers. -/
def AccessorArm.item (arm : AccessorArm) : ExtractArm where
  case := .escape arm.case
  pattern := arm.payload.pattern (Ident.bindings arm.extraction.arity)
  value := arm.extraction.gathered

/-- The derived items. -/
def Synthesis.items (s : Synthesis) : Items :=
  let host := Ident.escape s.host
  let caseType := Ident.discriminator s.host s.discriminator.name
  { host
    caseType := ⟨host, caseType, s.discriminator.visibility, s.discriminator.variants.map .escape⟩
    caseTest := ⟨.escape s.predicate.name, s.predicate.visibility, caseType,
      s.predicate.arms.map .escape, s.predicate.catchAll⟩
    extractor := ⟨.escape s.accessor.name, s.accessor.visibility, s.accessor.arms.map (·.item),
      s.accessor.fallback⟩ }

end EnumCases
