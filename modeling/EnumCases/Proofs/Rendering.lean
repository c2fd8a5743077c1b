import EnumCases.Code.Tokens
import EnumCases.Proofs.RoundTrip

/-!
# Rendered items are read back

The tokens of derived items are legible, whatever the names of the synthesis are: names become
identifiers before they are written, and the only text that comes from a name and is no identifier
is a literal with escapes. Each builder of tokens makes legible tokens of legible ones, and these
facts are all that `simp` needs to see that rendered items are legible (`Items.isLegible_tokens`).

Main statement: the tokens of a synthesis are those of their own printed text, and form two items,
the discriminator and the `impl` of the host (`lex_print_synthesis`).
-/

namespace EnumCases

open Token Code

/-- The end of a legible list is legible. -/
theorem Legible.of_append {as bs : List Lexeme} (h : Legible (as ++ bs)) : Legible bs := by
  induction as with
  | nil => exact h
  | cons a as ih => exact ih h.tail

/-- What comes before a closing delimiter in a legible list is legible. -/
theorem Legible.of_append_closing {d : Delimiter} {as bs : List Lexeme}
    (h : Legible (as ++ .closing d :: bs)) : Legible as := by
  induction as with
  | nil => exact .nil
  | cons a as ih =>
    have htail := ih h.tail
    rw [List.cons_append] at h
    generalize hrest : as ++ .closing d :: bs = rest at h
    cases h with
    | ident i _ => exact .ident i htail
    | mark hc _ => exact .mark hc htail
    -- A closing delimiter neither continues an operator nor follows an apostrophe.
    | joint hc hd _ =>
      cases as with
      | nil => cases hrest
      | cons b as =>
        obtain ⟨rfl, -⟩ := List.cons.inj hrest
        exact .joint hc hd htail
    | lifetime i _ =>
      cases as with
      | nil => cases hrest
      | cons b as =>
        obtain ⟨rfl, -⟩ := List.cons.inj hrest
        exact .lifetime i htail.tail
    | literal hl _ => exact .literal hl htail
    | opening e _ => exact .opening e htail
    | closing e _ => exact .closing e htail

namespace Token

/-- Tokens whose lexemes can be told apart as they are written. -/
def IsLegible (ts : List (Token Unit)) : Prop := Legible (lexemesAll ts)

/-- No tokens are legible. -/
@[simp] theorem isLegible_nil : IsLegible [] := .nil

/-- After legible tokens, tokens are legible just if they are by themselves. -/
@[simp] theorem isLegible_append {as bs : List (Token Unit)} (ha : IsLegible as) :
    IsLegible (as ++ bs) ↔ IsLegible bs := by
  unfold IsLegible
  rw [lexemesAll_append]
  exact ⟨Legible.of_append, ha.append⟩

/-- An identifier is legible. -/
@[simp] theorem isLegible_named (i : Ident) : IsLegible (named i) := .ident i .nil

/-- A plain word is legible. -/
@[simp] theorem isLegible_word (w : String) (h : Text.isWord w.toList = true) :
    IsLegible (word w h) :=
  isLegible_named _

/-- All marks of an operator but the last are joint with the next one. -/
theorem isLegible_operator {cs : List Char} (h : cs.all (IsOperatorMark ·) = true) :
    IsLegible (operator cs) := by
  induction cs with
  | nil => exact .nil
  | cons c cs ih =>
    rw [List.all_cons, Bool.and_eq_true, decide_eq_true_eq] at h
    obtain ⟨hc, hcs⟩ := h
    have htail := ih hcs
    cases cs with
    | nil => exact .mark hc .nil
    | cons d cs =>
      rw [List.all_cons, Bool.and_eq_true, decide_eq_true_eq] at hcs
      cases cs with
      | nil => exact .joint hc hcs.1 htail
      | cons e cs => exact .joint hc hcs.1 htail

/-- A comma is legible. -/
@[simp] theorem isLegible_comma : IsLegible comma := isLegible_operator (by decide)

/-- A double colon is legible. -/
@[simp] theorem isLegible_colons : IsLegible colons := isLegible_operator (by decide)

/-- The arrow of a match arm is legible. -/
@[simp] theorem isLegible_fatArrow : IsLegible fatArrow := isLegible_operator (by decide)

/-- A literal that this library writes is legible. -/
@[simp] theorem isLegible_constant {l : Literal} (h : IsWritten l) : IsLegible (constant l) :=
  .literal h .nil

/-- The apostrophe of a lifetime belongs to the word after it. -/
@[simp] theorem isLegible_lifetime (w : String) (h : Text.isWord w.toList = true)
    (ts : List (Token Unit)) :
    IsLegible (.punct '\x27' .joint () :: (word w h ++ ts)) ↔ IsLegible ts :=
  ⟨fun hall => Legible.tail (Legible.tail hall), Legible.lifetime _⟩

/-- A group is legible just if its body is. -/
theorem isLegible_group (d : Delimiter) (body : List (Token Unit)) :
    IsLegible [.group d body ()] ↔ IsLegible body := by
  have hlexemes : lexemesAll [.group d body ()] = .opening d :: (lexemesAll body ++ [.closing d]) := by
    simp [lexemesAll, lexemes]
  unfold IsLegible
  rw [hlexemes]
  constructor
  · intro h
    exact h.tail.of_append_closing
  · intro h
    exact .opening d (h.append (.closing d .nil))

/-- A group in parentheses is legible just if its body is. -/
@[simp] theorem isLegible_parenthesized (body : List (Token Unit)) :
    IsLegible (parenthesized body) ↔ IsLegible body :=
  isLegible_group .parenthesis body

/-- A group in brackets is legible just if its body is. -/
@[simp] theorem isLegible_bracketed (body : List (Token Unit)) :
    IsLegible (bracketed body) ↔ IsLegible body :=
  isLegible_group .bracket body

/-- A group in braces is legible just if its body is. -/
@[simp] theorem isLegible_braced (body : List (Token Unit)) :
    IsLegible (braced body) ↔ IsLegible body :=
  isLegible_group .brace body

/-- Legible parts one after the other. -/
@[simp] theorem isLegible_flatMap {as : List α} {f : α → List (Token Unit)}
    (h : ∀ a ∈ as, IsLegible (f a)) : IsLegible (as.flatMap f) := by
  induction as with
  | nil => exact isLegible_nil
  | cons a as ih =>
    rw [List.flatMap_cons, isLegible_append (h a (by simp))]
    exact ih fun b hb => h b (by simp [hb])

/-- Legible parts with a legible separator between them. -/
@[simp] theorem isLegible_intercalate {separator : List (Token Unit)} (hs : IsLegible separator)
    {parts : List (List (Token Unit))} (h : ∀ p ∈ parts, IsLegible p) :
    IsLegible (separator.intercalate parts) := by
  induction parts with
  | nil => exact isLegible_nil
  | cons p parts ih =>
    have hp := h p (by simp)
    cases parts with
    | nil => simpa using hp
    | cons q parts =>
      rw [List.intercalate_cons_cons, List.append_assoc, isLegible_append hp, isLegible_append hs]
      exact ih fun r hr => h r (by simp [hr])

/-- Legible parts with commas between them are legible. -/
@[simp] theorem isLegible_commaSeparated {parts : List (List (Token Unit))}
    (h : ∀ p ∈ parts, IsLegible p) : IsLegible (commaSeparated parts) :=
  isLegible_intercalate isLegible_comma h

end Token

/-- The tokens of a visibility are legible. -/
@[simp] theorem Visibility.isLegible_tokens (v : Visibility) : IsLegible v.tokens := by
  cases v with
  | inherited => exact isLegible_nil
  | exported => exact isLegible_word _ _

/-- The tokens of a path are legible if no segment has arguments. -/
theorem Path.isLegible_tokens {p : Path} (h : p.isPlain = true) : IsLegible p.tokens := by
  have hleading : IsLegible (if p.leading then colons else []) := by split <;> simp
  have hsegments : ∀ s ∈ p.segments, IsLegible s.tokens := by
    intro s hs
    have hnone : s.arguments = none :=
      Option.isNone_iff_eq_none.mp (List.all_eq_true.mp h s hs)
    rw [Segment.tokens, hnone, List.append_nil]
    exact isLegible_named s.ident
  rw [Path.tokens, isLegible_append hleading]
  exact isLegible_intercalate isLegible_colons (by simpa using hsegments)

namespace Code

/-- An attribute is legible just if its body is. -/
@[simp] theorem isLegible_outerAttribute (body : List (Token Unit)) :
    IsLegible (outerAttribute body) ↔ IsLegible body := by
  rw [outerAttribute, isLegible_append (isLegible_operator (by decide)), isLegible_bracketed]

/-- A line of documentation is legible if its literal is one that this library writes. -/
@[simp] theorem isLegible_documentation {l : Literal} (h : IsWritten l) :
    IsLegible (documentation l) := by
  have hequals : IsLegible (operator ['=']) := isLegible_operator (by decide)
  simp [documentation, h, hequals]

/-- A line of documentation is legible if its text can be shown as it is. -/
theorem isLegible_verbatim {s : String} (h : IsShown s.toList) :
    IsLegible (documentation (.verbatim s)) :=
  isLegible_documentation (.verbatim s h)

/-- The attribute of functions is legible. -/
@[simp] theorem isLegible_mustUse : IsLegible mustUse := by simp [mustUse]

/-- The case of the host is legible. -/
@[simp] theorem isLegible_selfCase (case : Ident) : IsLegible (selfCase case) := by simp [selfCase]

/-- A path from the root of the core library is legible. -/
@[simp] theorem isLegible_core {path : List (List (Token Unit))} (h : ∀ p ∈ path, IsLegible p) :
    IsLegible (core path) := by
  rw [core, isLegible_append isLegible_colons]
  exact isLegible_intercalate isLegible_colons (by simpa using h)

/-- The tokens of the discriminator are legible. -/
@[simp] theorem CaseType.isLegible_tokens (c : CaseType) : IsLegible c.tokens := by
  simp [CaseType.tokens, IsWritten.ofString]

/-- An arm of the predicate is legible. -/
@[simp] theorem CaseTest.isLegible_arm (caseType case : Ident) :
    IsLegible (CaseTest.arm caseType case) := by
  have hdots : IsLegible (operator ['.', '.']) := isLegible_operator (by decide)
  simp [CaseTest.arm, hdots]

/-- The last arm of the predicate is legible. -/
@[simp] theorem CaseTest.isLegible_lastArm (answer : Bool) :
    IsLegible (CaseTest.lastArm answer) := by
  cases answer <;> simp [CaseTest.lastArm]

/-- The tokens of the predicate are legible. -/
@[simp] theorem CaseTest.isLegible_tokens (c : CaseTest) : IsLegible c.tokens := by
  have hreference : IsLegible (operator ['&']) := isLegible_operator (by decide)
  have hcolon : IsLegible (operator [':']) := isLegible_operator (by decide)
  have harrow : IsLegible (operator ['-', '>']) := isLegible_operator (by decide)
  have hlast : IsLegible ((c.catchAll.map CaseTest.lastArm).getD []) := by
    cases c.catchAll <;> simp
  simp only [CaseTest.tokens, List.append_assoc]
  -- The texts of the documentation are looked at once, by the kernel.
  rw [isLegible_append (isLegible_verbatim ?_), isLegible_append (isLegible_verbatim ?_)]
  · simp [hreference, hcolon, harrow, hlast]
  all_goals decide +kernel

/-- The tokens of a pattern are legible. -/
@[simp] theorem Pattern.isLegible_tokens (p : Pattern) : IsLegible p.tokens := by
  have hcolon : IsLegible (operator [':']) := isLegible_operator (by decide)
  cases p with
  | positional bindings => simp [Pattern.tokens]
  | labelled fields =>
    rw [Pattern.tokens, isLegible_braced]
    refine isLegible_commaSeparated fun p hp => ?_
    obtain ⟨⟨label, binding⟩, -, rfl⟩ := List.mem_map.mp hp
    simp [hcolon]

/-- The clone of a bound value is legible. -/
@[simp] theorem isLegible_cloned (binding : Ident) : IsLegible (cloned binding) := by simp [cloned]

/-- The tokens of a gathered value are legible. -/
@[simp] theorem Gathered.isLegible_tokens (g : Gathered) : IsLegible g.tokens := by
  cases g with
  | single binding => simp [Gathered.tokens]
  | tuple bindings => simp [Gathered.tokens]

/-- An arm of the accessor is legible if the path to the support library is plain. -/
@[simp] theorem ExtractArm.isLegible_tokens {library : Path} (h : library.isPlain = true)
    (a : ExtractArm) : IsLegible (a.tokens library) := by
  have hpath := library.isLegible_tokens h
  have hopen : IsLegible (operator ['<']) := isLegible_operator (by decide)
  have hclose : IsLegible (operator ['>']) := isLegible_operator (by decide)
  simp [ExtractArm.tokens, downcast, hpath, hopen, hclose]

/-- The last arm of the accessor is legible. -/
@[simp] theorem Extractor.isLegible_lastArm : IsLegible Extractor.lastArm := by
  rw [Extractor.lastArm]
  simp

/-- The tokens of the accessor are legible if the path to the support library is plain. -/
@[simp] theorem Extractor.isLegible_tokens {library : Path} (h : library.isPlain = true)
    (e : Extractor) : IsLegible (e.tokens library) := by
  have hreference : IsLegible (operator ['&']) := isLegible_operator (by decide)
  have hcolon : IsLegible (operator [':']) := isLegible_operator (by decide)
  have harrow : IsLegible (operator ['-', '>']) := isLegible_operator (by decide)
  have hopen : IsLegible (operator ['<']) := isLegible_operator (by decide)
  have hclose : IsLegible (operator ['>']) := isLegible_operator (by decide)
  have harms : IsLegible (e.arms.flatMap (·.tokens library)) :=
    isLegible_flatMap fun a _ => a.isLegible_tokens h
  have hlast : IsLegible (if e.fallback then Extractor.lastArm else []) := by
    cases e.fallback
    · exact isLegible_nil
    · exact Extractor.isLegible_lastArm
  unfold Extractor.tokens
  simp only [List.append_assoc]
  rw [isLegible_append (isLegible_verbatim ?_), isLegible_append (isLegible_verbatim ?_),
    isLegible_append (isLegible_verbatim ?_)]
  · simp [hreference, hcolon, harrow, hopen, hclose, harms, hlast]
  all_goals decide +kernel

/-- The tokens of derived items are legible. -/
theorem Items.isLegible_tokens {library : Path} (h : library.isPlain = true) (i : Items) :
    IsLegible (i.tokens library) := by
  simp [Items.tokens, h]

/-- The discriminator is rendered as an item: attributes, a visibility, its name and its variants in
braces. -/
theorem CaseType.tokens_eq (c : CaseType) :
    ∃ (attributes : List (List (Token Unit))) (variants : List (Token Unit)), c.tokens =
      attributes.flatMap outerAttribute ++ c.visibility.tokens ++ word "enum" ++ named c.name ++
        braced variants := by
  refine ⟨[named .doc ++ operator ['='] ++
      constant (.ofString ("Payload-free discriminator of [`" ++ c.host.text ++ "`].")),
    word "derive" ++ parenthesized (commaSeparated
      [word "Debug", word "Clone", word "Copy", word "PartialEq", word "Eq", word "Hash"])],
    commaSeparated (c.variants.map named), ?_⟩
  simp [CaseType.tokens, documentation]

end Code

/-- Whatever its names are, the tokens of a synthesis are those of their own printed text. They are
the item of the discriminator and the `impl` of the host. -/
theorem lex_print_synthesis (s : Synthesis) {library : Path} (h : library.isPlain = true) :
    (lex (Token.print (s.tokens library))).map Token.erase = .ok (s.tokens library) ∧
    ∃ (attributes : List (List (Token Unit))) (variants members : List (Token Unit)),
      s.tokens library =
        attributes.flatMap outerAttribute ++ s.discriminator.visibility.tokens ++ word "enum" ++
          named (.discriminator s.host s.discriminator.name) ++ braced variants ++
          word "impl" ++ named (.escape s.host) ++ braced members := by
  constructor
  · exact lex_print (s.items.isLegible_tokens h)
  · obtain ⟨attributes, variants, htype⟩ := s.items.caseType.tokens_eq
    refine ⟨attributes, variants, s.items.caseTest.tokens ++ s.items.extractor.tokens library, ?_⟩
    rw [Synthesis.tokens, Items.tokens, htype]
    rfl

/-- A synthesis that no declaration leads to, with names that hold quotes and comments and arms that
do not fit together. -/
def Synthesis.unruly : Synthesis where
  host := "r#\"/*"
  discriminator := ⟨"*/ //", .exported, ["match", "", "Self", "é\u200f"]⟩
  predicate := ⟨"'a", .inherited, ["a b", "a b"], some true⟩
  accessor := ⟨"r#", .exported, [⟨"_", .record ["type", "\n"], .tuple 3⟩, ⟨"0", .unit, .value⟩], true⟩

/-- Also these names are rendered to tokens that are read back. -/
theorem lex_print_unruly :
    Path.standard.isPlain = true ∧
    (lex (Token.print (Synthesis.unruly.tokens .standard))).map Token.erase =
      .ok (Synthesis.unruly.tokens .standard) :=
  ⟨rfl, (lex_print_synthesis .unruly rfl).1⟩

end EnumCases
