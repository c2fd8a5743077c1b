import EnumCases.Expansion
import EnumCases.Proofs.Rendering

/-!
# Errors are reported with their text

An error has a text, and is shown to the author of an item as tokens with a string literal in them.
The two say the same: the literal stands for the text, whatever characters that has
(`Literal.stringValue?_ofString`), and the tokens are those of their own printed form
(`Code.isLegible_compileError`). A rejected declaration is shown as a fault, which takes over the
text of the diagnostic.

Main statement: `ExpansionError.reported`.
-/

namespace EnumCases

open Code Grammar Token

/-- A string literal stands for the string that it was made for. -/
theorem Literal.stringValue?_ofString (s : String) : (ofString s).stringValue? = some s := by
  have hbody : (ofString s).body.toList = '\x22' :: (Text.Quoted.encode s.toList ++ ['\x22']) := by
    simp [ofString, Text.Quoted.quote]
  have hkind : (ofString s).kind = .string := rfl
  rw [stringValue?, hkind, hbody]
  simp only [Text.Quoted.decode_encode, Option.map_some, String.ofList_toList]

/-- The tokens that report an error are legible, whatever the message is. -/
theorem Code.isLegible_compileError (message : String) : IsLegible (compileError message) := by
  have hbang : IsLegible (operator ['!']) := isLegible_operator (by decide)
  simp [compileError, hbang, IsWritten.ofString]

/-- What an error is shown as. -/
structure ExpansionError.Reported (e : ExpansionError) : Prop where
  /-- The tokens call one macro with one string literal, which stands for the text of the error. -/
  shown : ∃ l : Literal, l.kind = .string ∧ l.stringValue? = some (toString e) ∧
    e.tokens =
      [.punct ':' .joint (), .punct ':' .alone (), .ident (.plain "core" (Eq.refl true)) (),
        .punct ':' .joint (), .punct ':' .alone (),
        .ident (.plain "compile_error" (Eq.refl true)) (), .punct '!' .alone (),
        .group .brace [.literal l ()] ()]
  /-- The printed tokens are these tokens again. -/
  readBack : (lex (print e.tokens)).map erase = .ok e.tokens
  /-- A diagnostic has the same text as the error, by itself and as a fault at any place. -/
  rejected : ∀ d, e = .rejected d → d.message = toString e ∧ toString d = toString e ∧
    ∀ anchor, toString (d.fault anchor) = toString e ∧ (d.fault anchor).tokens = e.tokens
  /-- A fault with a message of its own has that for its text. -/
  refused : ∀ message span, e = .refused ⟨.custom message, span⟩ → toString e = message

/-- An error is shown as the macro call with its text. -/
theorem ExpansionError.tokens_eq (e : ExpansionError) : e.tokens = compileError (toString e) := by
  cases e <;> rfl

/-- Whatever its message is, an error is reported with its text. -/
theorem ExpansionError.reported (e : ExpansionError) : e.Reported := by
  constructor
  case shown =>
    refine ⟨.ofString (toString e), rfl, Literal.stringValue?_ofString _, ?_⟩
    rw [e.tokens_eq]
    rfl
  case readBack =>
    rw [e.tokens_eq]
    exact lex_print (isLegible_compileError _)
  case rejected =>
    rintro d rfl
    exact ⟨rfl, rfl, fun anchor => ⟨rfl, rfl⟩⟩
  case refused =>
    rintro message span rfl
    rfl

end EnumCases
