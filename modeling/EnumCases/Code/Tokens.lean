import EnumCases.Code.Items
import EnumCases.Path
import EnumCases.Token.Printer

/-!
# Derived items as tokens

`Items.tokens` writes the discriminator as an item of its own, and the predicate and the accessor as
functions of the host. The accessor clones what it has bound and calls `extract` of the support
library, whose path is a parameter.
-/

namespace EnumCases

open Token

/-- The tokens of a visibility. -/
def Visibility.tokens : Visibility → List (Token Unit)
  | .inherited => []
  | .exported => word "pub"

namespace Code

/-- An attribute. -/
def outerAttribute (body : List (Token Unit)) : List (Token Unit) := operator ['#'] ++ bracketed body

/-- A line of documentation. -/
def documentation (l : Literal) : List (Token Unit) :=
  outerAttribute (named .doc ++ operator ['='] ++ constant l)

/-- The attribute of functions whose answer is not to be dropped. -/
def mustUse : List (Token Unit) := outerAttribute (word "must_use")

/-- The case of the host. -/
def selfCase (case : Ident) : List (Token Unit) := word "Self" ++ colons ++ named case

/-- The path from the root of the core library. -/
def core (path : List (List (Token Unit))) : List (Token Unit) :=
  colons ++ colons.intercalate (word "core" :: path)

/-- The tokens of the discriminator. -/
def CaseType.tokens (c : CaseType) : List (Token Unit) :=
  documentation (.ofString ("Payload-free discriminator of [`" ++ c.host.text ++ "`].")) ++
    outerAttribute (word "derive" ++ parenthesized (commaSeparated
      [word "Debug", word "Clone", word "Copy", word "PartialEq", word "Eq", word "Hash"])) ++
    c.visibility.tokens ++ word "enum" ++ named c.name ++
    braced (commaSeparated (c.variants.map named))

/-- An arm of the predicate: the case with any payload, and the variant of that name. -/
def CaseTest.arm (caseType case : Ident) : List (Token Unit) :=
  parenthesized (selfCase case ++ braced (operator ['.', '.']) ++ comma ++ named caseType ++ colons ++
    named case) ++ fatArrow ++ word "true" ++ comma

/-- The last arm of the predicate. -/
def CaseTest.lastArm (answer : Bool) : List (Token Unit) :=
  named .wildcard ++ fatArrow ++ (if answer then word "true" else word "false") ++ comma

/-- The tokens of the predicate. -/
def CaseTest.tokens (c : CaseTest) : List (Token Unit) :=
  documentation (.verbatim
    " Returns `true` when `self` was built with the case named by `candidate`,") ++
    documentation (.verbatim " whatever its associated values.") ++ mustUse ++
    c.visibility.tokens ++ word "fn" ++ named c.name ++
    parenthesized (operator ['&'] ++ word "self" ++ comma ++ word "candidate" ++ operator [':'] ++
      named c.caseType) ++
    operator ['-', '>'] ++ word "bool" ++
    braced (word "match" ++ parenthesized (word "self" ++ comma ++ word "candidate") ++
      braced (c.arms.flatMap (CaseTest.arm c.caseType) ++
        (c.catchAll.map CaseTest.lastArm).getD []))

/-- The tokens of a pattern. -/
def Pattern.tokens : Pattern → List (Token Unit)
  | .positional bindings => parenthesized (commaSeparated (bindings.map named))
  | .labelled fields =>
    braced (commaSeparated (fields.map fun (label, binding) =>
      named label ++ operator [':'] ++ named binding))

/-- The clone of a bound value. -/
def cloned (binding : Ident) : List (Token Unit) :=
  core [word "clone", word "Clone", word "clone"] ++ parenthesized (named binding)

/-- The tokens of a gathered value. -/
def Gathered.tokens : Gathered → List (Token Unit)
  | .single binding => cloned binding
  | .tuple bindings => parenthesized (commaSeparated (bindings.map cloned))

/-- The path of the function that downcasts, with the types it is used at. -/
def downcast (library : Path) : List (Token Unit) :=
  library.tokens ++ colons ++ word "extract" ++ colons ++ operator ['<'] ++ word "T" ++ comma ++
    named .wildcard ++ operator ['>']

/-- The tokens of an arm of the accessor. -/
def ExtractArm.tokens (library : Path) (a : ExtractArm) : List (Token Unit) :=
  selfCase a.case ++ a.pattern.tokens ++ fatArrow ++ downcast library ++
    parenthesized a.value.tokens ++ comma

/-- The last arm of the accessor. -/
def Extractor.lastArm : List (Token Unit) :=
  named .wildcard ++ fatArrow ++ core [word "option", word "Option", word "None"] ++ comma

/-- The tokens of the accessor. -/
def Extractor.tokens (library : Path) (e : Extractor) : List (Token Unit) :=
  documentation (.verbatim
    " Returns the associated values of the current case as `T`, or `None` when") ++
    documentation (.verbatim
      " the case has none or they are not of type `T`. Several values are returned") ++
    documentation (.verbatim " as a tuple in declaration order.") ++ mustUse ++
    e.visibility.tokens ++ word "fn" ++ named e.name ++
    operator ['<'] ++ word "T" ++ operator [':'] ++ [Token.punct '\x27' .joint ()] ++ word "static" ++
    operator ['>'] ++ parenthesized (operator ['&'] ++ word "self") ++ operator ['-', '>'] ++
    core [word "option", word "Option"] ++ operator ['<'] ++ word "T" ++ operator ['>'] ++
    braced (word "match" ++ word "self" ++
      braced (e.arms.flatMap (·.tokens library) ++ if e.fallback then Extractor.lastArm else []))

/-- The tokens of the derived items. -/
def Items.tokens (library : Path) (i : Items) : List (Token Unit) :=
  i.caseType.tokens ++ word "impl" ++ named i.host ++
    braced (i.caseTest.tokens ++ i.extractor.tokens library)

/-- The tokens that report an error with the given message to whoever compiles them. -/
def compileError (message : String) : List (Token Unit) :=
  core [word "compile_error"] ++ operator ['!'] ++ braced (constant (.ofString message))

end Code

/-- The tokens derived for a synthesis. -/
def Synthesis.tokens (library : Path) (s : Synthesis) : List (Token Unit) :=
  s.items.tokens library

end EnumCases
