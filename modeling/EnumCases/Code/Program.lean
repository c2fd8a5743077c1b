import EnumCases.Code.Eval
import EnumCases.Path

/-!
# Derived code as it is read

`Program.read?` takes the tokens of derived items apart: the discriminator with its variants, and
the two functions of the host with the arms of their matches, in the order of the text. It looks at
every word and every mark that such code is written with, and has no outcome if one of them is
another. Only attributes and visibilities are passed over. The path to the support library may hold
any tokens, so it must be known.

A program is run on a value of the host: the first arm of a match that fits decides. Where no arm
fits, or the arm that does cannot be run, there is no outcome.
-/

namespace EnumCases

namespace Token

/-- Whether a token is the given punctuation mark. -/
def isPunct (mark : Char) : Token α → Bool
  | .punct c _ _ => c == mark
  | _ => false

/-- The parts of a list with commas between them. There are none in an empty list. -/
def commaParts (ts : List (Token α)) : List (List (Token α)) :=
  if ts.isEmpty then [] else ts.splitOnP (isPunct ',')

end Token

namespace Code

open Token

/-! ### Reading from the front -/

/-- What reads from the front of a list of tokens. -/
abbrev Scan (α : Type) := StateT (List (Token Unit)) Option α

namespace Scan

/-- The next token, if it is of some kind. -/
def next (kind : Token Unit → Option α) : Scan α
  | [] => none
  | t :: ts => (kind t).map (·, ts)

/-- An identifier. -/
def name : Scan Ident := next fun
  | .ident i _ => some i
  | _ => none

/-- The word that has to come next. -/
def word (w : String) : Scan Unit := do
  let i ← name
  guard (i.isPlain w)

/-- The mark that has to come next, directly before another one if it is to be joint. -/
def mark (c : Char) (joint : Bool) : Scan Unit := next fun
  | .punct c' spacing _ => if c' = c ∧ (joint = true → spacing = .joint) then some () else none
  | _ => none

/-- The operator that has to come next. All its marks but the last are joint. -/
def symbol : List Char → Scan Unit
  | [] => pure ()
  | [c] => mark c false
  | c :: cs => do
    mark c true
    symbol cs

/-- The tokens that have to come next, one by one. -/
def exactly (ts : List (Token Unit)) : Scan Unit := fun us =>
  if lexemesAll (us.take ts.length) = lexemesAll ts then some ((), us.drop ts.length) else none

/-- Reading to the end. -/
def complete (p : Scan α) (ts : List (Token Unit)) : Option α :=
  match p.run ts with
  | some (a, []) => some a
  | _ => none

/-- A group that is read to its end. -/
def group (d : Delimiter) (inside : Scan α) : Scan α := next fun
  | .group e body _ => if e = d then inside.complete body else none
  | _ => none

/-- As many items as there are up to the end. Each takes a token at least. -/
def many (item : Scan α) (ts : List (Token Unit)) : Option (List α × List (Token Unit)) :=
  if ts.isEmpty then some ([], [])
  else
    match item.run ts with
    | none => none
    | some (a, rest) =>
      if rest.length < ts.length then (many item rest).map fun (as, after) => (a :: as, after)
      else none
termination_by ts.length

/-- A path from the root, given by its words. -/
def rootPath : List String → Scan Unit
  | [] => pure ()
  | w :: ws => do
    symbol [':', ':']
    word w
    rootPath ws

/-- The tokens after any attributes at the front. -/
def skipAttributes : List (Token Unit) → List (Token Unit)
  | .punct '#' _ _ :: .group .bracket _ _ :: ts => skipAttributes ts
  | ts => ts

/-- The start of an item: attributes, a visibility, the keyword and the name. -/
def item (keyword : String) : Scan Ident := do
  modify skipAttributes
  word "pub" <|> pure ()
  word keyword
  name

end Scan

/-! ### The parts of arms -/

/-- The name in a slot of a pattern by position. -/
def slot? : List (Token α) → Option Ident
  | [.ident i _] => some i
  | _ => none

/-- The label and the name in a slot of a pattern by label. -/
def field? : List (Token α) → Option (Ident × Ident)
  | [.ident label _, .punct ':' _ _, .ident i _] => some (label, i)
  | _ => none

/-- The pattern that a group after a case is. -/
def Pattern.read? (body : List (Token α)) : Delimiter → Option Pattern
  | .parenthesis => ((commaParts body).mapM slot?).map .positional
  | .brace => ((commaParts body).mapM field?).map .labelled
  | .bracket => none

namespace Scan

/-- A case of the host. -/
def hostCase : Scan Ident := do
  word "Self"
  symbol [':', ':']
  name

/-- A pattern after a case. -/
def pattern : Scan Pattern := next fun
  | .group d body _ => Pattern.read? body d
  | _ => none

/-- The clone of what a name is bound to. -/
def clone : Scan Ident := do
  rootPath ["core", "clone", "Clone", "clone"]
  group .parenthesis name

end Scan

/-- The value that several names in parentheses stand for. Without a comma one name stands for
itself and not for a tuple. -/
def Gathered.ofList : List Ident → Gathered
  | [binding] => .single binding
  | bindings => .tuple bindings

/-- The value that an arm passes on: a clone, or clones in parentheses. -/
def Gathered.read? : List (Token Unit) → Option Gathered
  | [.group .parenthesis body _] => ((commaParts body).mapM Scan.clone.complete).map .ofList
  | ts => (Scan.clone.complete ts).map .single

namespace Scan

/-- What a call is passed. -/
def argument : Scan Gathered := next fun
  | .group .parenthesis value _ => Gathered.read? value
  | _ => none

/-- The function of the support library that downcasts to the type parameter. -/
def extract (library : Path) : Scan Unit := do
  exactly library.tokens
  symbol [':', ':']
  word "extract"
  symbol [':', ':']
  symbol ['<']
  word "T"
  symbol [',']
  word "_"
  symbol ['>']

/-- A truth value. -/
def truth : Scan Bool := next fun
  | .ident i _ =>
    if i.isPlain "true" then some true else if i.isPlain "false" then some false else none
  | _ => none

end Scan

/-! ### Arms -/

/-- A pattern of the predicate: a case of the host with any payload, and a variant of a type. -/
structure CasePair where
  /-- The case of the host. -/
  case : Ident
  /-- The type of the variant. -/
  caseType : Ident
  /-- The variant. -/
  variant : Ident

/-- An arm of the predicate. -/
structure TestArm where
  /-- The pattern, or none for the wildcard. -/
  pattern : Option CasePair
  /-- The answer. -/
  answer : Bool

/-- An arm of the accessor. -/
inductive AccessArm where
  /-- The arm of a case hands out a value at the requested type. -/
  | payload (arm : ExtractArm)
  /-- The arm for whatever is left hands out nothing. -/
  | nothing

namespace Scan

/-- The pattern of an arm of the predicate that is no wildcard. -/
def casePair : Scan CasePair := group .parenthesis do
  let case ← hostCase
  group .brace (symbol ['.', '.'])
  symbol [',']
  let caseType ← name
  symbol [':', ':']
  let variant ← name
  return ⟨case, caseType, variant⟩

/-- An arm of the predicate. -/
def testArm : Scan TestArm := do
  let pattern ← some <$> casePair <|> (fun _ => none) <$> word "_"
  symbol ['=', '>']
  let answer ← truth
  symbol [',']
  return ⟨pattern, answer⟩

/-- An arm of the accessor for a case. -/
def extractArm (library : Path) : Scan ExtractArm := do
  let case ← hostCase
  let pattern ← pattern
  symbol ['=', '>']
  extract library
  let value ← argument
  symbol [',']
  return ⟨case, pattern, value⟩

/-- The arm of the accessor for whatever is left. -/
def emptyArm : Scan Unit := do
  word "_"
  symbol ['=', '>']
  rootPath ["core", "option", "Option", "None"]
  symbol [',']

/-- An arm of the accessor. -/
def accessArm (library : Path) : Scan AccessArm :=
  AccessArm.payload <$> extractArm library <|> (fun _ => .nothing) <$> emptyArm

end Scan

/-! ### Items -/

/-- The predicate. -/
structure TestFunction where
  /-- The name of the function. -/
  name : Ident
  /-- The type of the candidate. -/
  candidateType : Ident
  /-- The arms of the match on the value and the candidate. -/
  arms : List TestArm

/-- The accessor. -/
structure AccessFunction where
  /-- The name of the function. -/
  name : Ident
  /-- The arms of the match on the value. -/
  arms : List AccessArm

/-- The derived items. -/
structure Program where
  /-- The name of the discriminator. -/
  caseType : Ident
  /-- The variants of the discriminator. -/
  variants : List Ident
  /-- The host of the functions. -/
  host : Ident
  /-- The predicate. -/
  test : TestFunction
  /-- The accessor. -/
  access : AccessFunction

namespace Scan

/-- The variants in the braces of the discriminator. -/
def variants : Scan (List Ident) := next fun
  | .group .brace body _ => (commaParts body).mapM slot?
  | _ => none

/-- The parameters of the predicate, a value and a candidate: the type of the candidate. -/
def testParameters : Scan Ident := group .parenthesis do
  symbol ['&']
  word "self"
  symbol [',']
  word "candidate"
  symbol [':']
  name

/-- What the predicate matches on: the value and the candidate. -/
def testSubject : Scan Unit := group .parenthesis do
  word "self"
  symbol [',']
  word "candidate"

/-- The body of the predicate. -/
def testBody : Scan (List TestArm) := group .brace do
  word "match"
  testSubject
  group .brace (many testArm)

/-- The predicate. -/
def testFunction : Scan TestFunction := do
  let name ← item "fn"
  let candidateType ← testParameters
  symbol ['-', '>']
  word "bool"
  let arms ← testBody
  return ⟨name, candidateType, arms⟩

/-- The parameters of the accessor: any type that is requested, and a value. -/
def accessParameters : Scan Unit := do
  symbol ['<']
  word "T"
  symbol [':']
  symbol ['\x27']
  word "static"
  symbol ['>']
  group .parenthesis do
    symbol ['&']
    word "self"

/-- The result of the accessor: an option of the requested type. -/
def accessResult : Scan Unit := do
  rootPath ["core", "option", "Option"]
  symbol ['<']
  word "T"
  symbol ['>']

/-- The body of the accessor, which matches on the value. -/
def accessBody (library : Path) : Scan (List AccessArm) := group .brace do
  word "match"
  word "self"
  group .brace (many (accessArm library))

/-- The accessor. -/
def accessFunction (library : Path) : Scan AccessFunction := do
  let name ← item "fn"
  accessParameters
  symbol ['-', '>']
  accessResult
  let arms ← accessBody library
  return ⟨name, arms⟩

/-- The functions of the host. -/
def functions (library : Path) : Scan (TestFunction × AccessFunction) := group .brace do
  let test ← testFunction
  let access ← accessFunction library
  return (test, access)

/-- The discriminator, and the functions of the host. -/
def program (library : Path) : Scan Program := do
  let caseType ← item "enum"
  let variants ← variants
  word "impl"
  let host ← name
  let (test, access) ← functions library
  return ⟨caseType, variants, host, test, access⟩

end Scan

/-! ### Running -/

/-- Whether the pattern of an arm fits a value of the host and a variant of the discriminator. -/
def TestArm.accepts (caseType : Ident) (v : HostValue) (candidate : Ident) (arm : TestArm) : Bool :=
  arm.pattern.all fun p => p.case == v.case && p.caseType == caseType && p.variant == candidate

/-- Whether the pattern of an arm is for the case of a value. -/
def AccessArm.accepts (v : HostValue) : AccessArm → Bool
  | .payload arm => arm.case == v.case
  | .nothing => true

/-- The outcome of an arm of the accessor at a type. -/
def AccessArm.eval (target : Ty) (v : HostValue) : AccessArm → Option (Option Datum)
  | .payload arm => arm.eval target v.slots
  | .nothing => some none

namespace Program

/-- The program that tokens are, where the support library has the given path. -/
def read? (library : Path) (ts : List (Token Unit)) : Option Program :=
  (Scan.program library).complete ts

/-- The place of the arm that decides about a value and a candidate. -/
def testMatch (p : Program) (v : HostValue) (candidate : Ident) : Option Nat :=
  p.test.arms.findIdx? (·.accepts p.caseType v candidate)

/-- The outcome of the predicate for a value and a candidate. -/
def is (p : Program) (v : HostValue) (candidate : Ident) : Option Bool :=
  (p.test.arms.find? (·.accepts p.caseType v candidate)).map (·.answer)

/-- The outcome of the accessor for a value at a type. -/
def extract (p : Program) (target : Ty) (v : HostValue) : Option (Option Datum) :=
  (p.access.arms.find? (·.accepts v)).bind (·.eval target v)

end Program

end Code

end EnumCases
