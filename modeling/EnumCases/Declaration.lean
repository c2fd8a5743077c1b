import EnumCases.Payload

/-!
# Declarations as the derivation sees them

A declaration is an enum, or something else that has only a name and a kind. An enum has a name,
modifiers and members; a member is a group of cases, a nested type, a function, or anything else.
`EnumDecl.cases` flattens the groups, `EnumDecl.existing` keeps the other members, and
`EnumDecl.visibility` is what the modifiers say about the members to be derived. An enum is also
built in steps (`EnumDecl.Step`), each of which appends to it.
-/

namespace EnumCases

/-- What a modifier of a declaration says. -/
inductive Modifier where
  /-- Visible everywhere. -/
  | exported
  /-- Visible within a path, given by its text. -/
  | restricted (path : String)
  /-- Any other modifier, given by its text. -/
  | other (text : String)
deriving DecidableEq, Repr

/-- The visibility of a derived member. -/
inductive Visibility where
  /-- No visibility is written. -/
  | inherited
  /-- Visible everywhere. -/
  | exported
deriving DecidableEq, Repr

/-- The kind of a nested type. -/
inductive TypeKind where
  | enumType
  | structType
  | classType
  | aliasType
deriving DecidableEq, Repr

/-- A member of an enum. -/
inductive Member where
  /-- A group of cases declared together. -/
  | cases (group : List Case)
  /-- A nested type. -/
  | type (name : String) (kind : TypeKind)
  /-- A function. -/
  | function (name : String)
  /-- Anything else. -/
  | other
deriving DecidableEq, Repr

/-- The cases that a member declares. -/
def Member.declared : Member → List Case
  | .cases group => group
  | _ => []

/-- A group of cases. -/
def Member.isCases : Member → Bool
  | .cases _ => true
  | _ => false

/-- An enum declaration. -/
structure EnumDecl where
  /-- The name, without a raw mark. -/
  name : String
  /-- The modifiers, in source order. -/
  modifiers : List Modifier := []
  /-- The members, in source order. -/
  members : List Member := []
deriving DecidableEq, Repr

namespace EnumDecl

/-- All cases in source order, whatever groups they were declared in. -/
def cases (e : EnumDecl) : List Case := e.members.flatMap Member.declared

/-- The members that are not groups of cases. -/
def existing (e : EnumDecl) : List Member := e.members.filter (!·.isCases)

/-- Exported if some modifier says exactly that. A restricted enum gets inherited visibility, so
that no derived member is visible where the enum is not. -/
def visibility (e : EnumDecl) : Visibility :=
  if .exported ∈ e.modifiers then .exported else .inherited

/-- One step of building an enum. -/
inductive Step where
  /-- Append a modifier. -/
  | modifier (m : Modifier)
  /-- Append a group of cases. -/
  | cases (group : List Case)
  /-- Append a member. -/
  | member (m : Member)
deriving DecidableEq, Repr

/-- The enum after one step. -/
def apply (e : EnumDecl) : Step → EnumDecl
  | .modifier m => { e with modifiers := e.modifiers ++ [m] }
  | .cases group => { e with members := e.members ++ [.cases group] }
  | .member m => { e with members := e.members ++ [m] }

/-- The enum called `name` after the given steps, from none. -/
def build (name : String) (steps : List Step) : EnumDecl := steps.foldl apply { name }

end EnumDecl

/-- The kind of a declaration that is not an enum. -/
inductive OtherKind where
  | structKind
  | unionKind
  | classKind
  | otherKind
deriving DecidableEq, Repr

/-- A declaration. -/
inductive Declaration where
  /-- An enum. -/
  | enum (e : EnumDecl)
  /-- Something else. -/
  | other (name : String) (kind : OtherKind)
deriving DecidableEq, Repr

namespace Declaration

/-- The declared name. -/
def name : Declaration → String
  | .enum e => e.name
  | .other name _ => name

/-- The visibility of members derived for the declaration. -/
def visibility : Declaration → Visibility
  | .enum e => e.visibility
  | .other _ _ => .inherited

end Declaration

end EnumCases
