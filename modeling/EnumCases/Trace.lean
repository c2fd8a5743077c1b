import EnumCases.Synthesis

/-!
# What is logged while members are derived

A rejected declaration is logged with the fault, an accepted one with the number of its cases, the
visibility of the derived members, and the identifiers of the cases. `Event.fields` is the record
that the log shows, as names and texts.
-/

namespace EnumCases

/-- A logged event. -/
inductive Event where
  /-- The declaration was rejected. -/
  | rejected (declaration : String) (fault : Diagnostic)
  /-- The members of `host` are derived. -/
  | synthesizing (host : String) (cases : Nat) (visibility : Visibility)
  /-- The identifiers of the cases after flattening. -/
  | normalized (cases : List String)
deriving DecidableEq, Repr

/-- The events of `Declaration.transform`, in order. -/
def Declaration.trace (d : Declaration) : List Event :=
  match d.validate with
  | .error fault => [.rejected d.name fault]
  | .ok host =>
    [.synthesizing host.name host.cases.length d.visibility, .normalized (host.cases.map Case.id)]

/-- The name of a visibility in the log. -/
def Visibility.label : Visibility → String
  | .inherited => "Default"
  | .exported => "Public"

/-- The log record of an event. -/
def Event.fields : Event → List (String × String)
  | .rejected declaration fault =>
    [("level", "DEBUG"), ("message", "declaration rejected"), ("declaration", declaration),
      ("kind", fault.kind)]
  | .synthesizing host cases visibility =>
    [("level", "DEBUG"), ("message", "synthesizing case detection members"), ("host", host),
      ("cases", toString cases), ("visibility", visibility.label)]
  | .normalized cases =>
    [("level", "TRACE"), ("message", "normalized case list"), ("cases", ", ".intercalate cases)]

end EnumCases
