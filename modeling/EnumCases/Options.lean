import EnumCases.Grammar.Item
import EnumCases.Token.Lexer

/-!
# Options of the derivation

The helper attribute `case_detection` sets the path to the support library. Its arguments are entries
of the form `crate = "path"`; the last one counts, over all helper attributes of an item. The list
of arguments is read as a whole before its entries are looked at.
-/

namespace EnumCases

open Grammar

/-- Whether a path is just the given word. -/
def Path.isWord (p : Path) (name : String) : Bool := p.ident?.any (·.isPlain name)

/-- Whether an attribute is a helper of the derivation. -/
def Grammar.Attribute.isHelper (a : Attribute) : Bool := a.entry.path.path.isWord "case_detection"

/-- A path that tokens consist of. -/
def Path.read (scope : Span) (ts : Tokens) : Except Fault Path :=
  complete (do return (← path (reader ts) .type).path) scope ts

/-- The tokens of a text. An error in it is reported at its place in that text. -/
def lexed (text : String) : Except Fault Tokens :=
  (lex text).mapError fun position => ⟨.lexical, ⟨position, position⟩⟩

/-- The path that a text is. -/
def Path.parse (text : String) : Except Fault Path := do Path.read .callSite (← lexed text)

/-- The path in a string literal at a place. All of its tokens are at that place. -/
def Path.ofLiteral (l : Literal) (value : String) (span : Span) : Except Fault Path := do
  let ts ← lexed value
  let p ← Path.read span (Token.mapAll (fun _ => span) ts)
  if l.suffix.isEmpty then return p else throw ⟨.suffixedString l.suffix, span⟩

/-- The path that an entry of a helper attribute sets. -/
def Grammar.Entry.library (e : Entry) : Except Fault Path :=
  match e.tail with
  | .value _ value =>
    if e.path.path.isWord "crate" then
      let span := Token.spanOf value.tokens
      match value.form with
      | .literal l =>
        match l.stringValue? with
        | some text => Path.ofLiteral l text span
        | none => .error ⟨.notString, span⟩
      | _ => .error ⟨.notString, span⟩
    else .error ⟨.unknownOption, Token.spanOf e.path.tokens⟩
  | _ => .error ⟨.notKeyValue, Token.spanOf e.tokens⟩

/-- The entries of a helper attribute. -/
def Grammar.Attribute.entries (a : Attribute) : Except Fault (List Entry) :=
  match a.entry.tail with
  | .nothing => .error ⟨.missingArguments, Token.spanOf a.entry.path.tokens⟩
  | .value equals _ => .error ⟨.valueForArguments, equals⟩
  | .list _ body span => complete (terminated (Grammar.entry (reader body))) span.tail body

/-- The path after one more helper attribute, where it was `library` before. -/
def Grammar.Attribute.library (library : Path) (a : Attribute) : Except Fault Path := do
  (← a.entries).foldlM (fun _ e => e.library) library

/-- The path to the support library that attributes set, where it is `library` if they set none. -/
def libraryFrom (library : Path) (attributes : List Attribute) : Except Fault Path :=
  (attributes.filter (·.isHelper)).foldlM Attribute.library library

/-- The path to the support library that attributes set. -/
def libraryOf (attributes : List Attribute) : Except Fault Path :=
  libraryFrom .standard attributes

end EnumCases
