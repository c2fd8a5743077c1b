import EnumCases.Proofs.Escape
import EnumCases.Proofs.Scanning
import EnumCases.Token.Build

/-!
# The rules of escaping

What a name is escaped to is told by its bare form, the name without one mark of a raw identifier.
`Ident.Escapes` has the four rules, each with the condition that none before it applies: a word that
cannot be raw gets an underscore, what is an identifier is kept, what is one as a raw identifier is
marked, and all else is mangled. None of them refers to another name, since a mangled name is a
word: it is mangled no more, and it is a keyword just if it is a single underscore
(`Ident.mangle_notMem_keywords`). That a marked name is a keyword rests on `exists_lex_of_lex_raw`.

Main statement: the rules say what every name is escaped to, after at most one step of mangling, and
the identifier is read back from its own text (`Ident.escaped_by_rules`).
-/

namespace EnumCases

/-- A text whose one token is the given identifier. -/
def IsOneIdent (text : String) (i : Ident) : Prop := ∃ span, lex text = .ok [.ident i span]

/-- A text that is no identifier, or a keyword. -/
def IsNoName (text : String) : Prop := ∀ i, IsOneIdent text i → i.isKeyword = true

namespace Ident

/-- A bare name that is no identifier with the mark of a raw one or without it. -/
structure NeedsMangling (bare : String) : Prop where
  /-- The name is none of the words that get an underscore. -/
  rawable : bare ∉ unrawable
  /-- It is no name as it is. -/
  noName : IsNoName bare
  /-- It is no raw identifier. -/
  noRaw : ∀ i, ¬ IsOneIdent ("r#" ++ bare) i

/-- The identifier that a bare name is escaped to. -/
inductive Escapes (bare : String) : Ident → Prop where
  /-- A word that cannot be raw gets an underscore. -/
  | underscored {i : Ident} (five : bare ∈ unrawable) (text : i.text = bare ++ "_") : Escapes bare i
  /-- A name that is an identifier, raw or not, is kept. -/
  | kept {i : Ident} (rawable : bare ∉ unrawable) (one : IsOneIdent bare i)
      (name : i.isKeyword = false) : Escapes bare i
  /-- A name that is an identifier after the mark of a raw one gets that mark. -/
  | marked {i : Ident} (rawable : bare ∉ unrawable) (noName : IsNoName bare)
      (one : IsOneIdent ("r#" ++ bare) i) : Escapes bare i
  /-- Any other name is mangled; a second underscore follows a single one. -/
  | mangled {i : Ident} (needed : NeedsMangling bare)
      (text : i.text = if mangle bare = "_" then "__" else mangle bare) : Escapes bare i

/-- The identifier for a name, if it takes at most so many steps of mangling. -/
def escapeWithin : Nat → String → Option Ident
  | 0, name => direct? (stripRaw name)
  | steps + 1, name => direct? (stripRaw name) <|> escapeWithin steps (mangle (stripRaw name))

/-! ### Reading names -/

/-- A name is read just if it is one identifier and no keyword. -/
theorem read?_eq_some_iff {text : String} {i : Ident} :
    read? text = some i ↔ IsOneIdent text i ∧ i.isKeyword = false := by
  constructor
  · intro h
    have hkeyword := isKeyword_of_read? h
    unfold read? at h
    split at h
    · rename_i j span hlex
      split at h
      · cases h
      · obtain rfl := Option.some.inj h
        exact ⟨⟨span, hlex⟩, hkeyword⟩
    · cases h
  · rintro ⟨⟨span, hlex⟩, hkeyword⟩
    rw [read?, hlex]
    simp [hkeyword]

/-- No name is read just if the text is none. -/
theorem read?_eq_none_iff {text : String} : read? text = none ↔ IsNoName text := by
  constructor
  · intro h i hone
    cases hkeyword : i.isKeyword with
    | true => rfl
    | false =>
      rw [read?_eq_some_iff.mpr ⟨hone, hkeyword⟩] at h
      cases h
  · intro h
    cases hread : read? text with
    | none => rfl
    | some i =>
      obtain ⟨hone, hkeyword⟩ := read?_eq_some_iff.mp hread
      rw [h i hone] at hkeyword
      cases hkeyword

/-- A raw identifier is no keyword. -/
theorem isKeyword_of_raw {i : Ident} (h : i.raw = true) : i.isKeyword = false := by
  simp [isKeyword, h]

/-- What is one identifier after the mark of a raw one is read as it. -/
theorem read?_raw_eq_some_iff {bare : String} {i : Ident} :
    read? ("r#" ++ bare) = some i ↔ IsOneIdent ("r#" ++ bare) i := by
  rw [read?_eq_some_iff, and_iff_left_of_imp]
  rintro ⟨span, hlex⟩
  exact isKeyword_of_raw (exists_lex_of_lex_raw hlex).1

/-- A name that is marked is a keyword. -/
theorem raw_keyword_of_isNoName {bare : String} {i : Ident} (hnone : IsNoName bare)
    (hone : IsOneIdent ("r#" ++ bare) i) : i.raw = true ∧ i.name ∈ keywords := by
  obtain ⟨span, hlex⟩ := hone
  obtain ⟨hraw, hplain⟩ := exists_lex_of_lex_raw hlex
  refine ⟨hraw, ?_⟩
  -- Without the mark it is an identifier too, so only a keyword is left for it to be.
  have hkeyword := hnone _ hplain
  exact of_decide_eq_true hkeyword

/-- Identifiers with one text are the same. -/
theorem text_injective {i j : Ident} (h : i.text = j.text) : i = j := by
  have hi := lex_ident i
  rw [h, lex_ident j] at hi
  simpa using (Except.ok.inj hi).symm

/-! ### Names that need no mangling -/

/-- A word that cannot be raw gets an underscore. -/
theorem exists_direct?_of_mem {bare : String} (h : bare ∈ unrawable) :
    ∃ i, direct? bare = some i ∧ i.text = bare ++ "_" := by
  have hall : ∀ w ∈ unrawable, (ofName? false (w ++ "_")).map text = some (w ++ "_") := by decide
  rw [direct?, if_pos h]
  exact Option.map_eq_some_iff.mp (hall bare h)

/-- Any other name is tried as it is, and then after the mark of a raw identifier. -/
theorem direct?_of_notMem {bare : String} (h : bare ∉ unrawable) :
    direct? bare = (read? bare <|> read? ("r#" ++ bare)) := if_neg h

/-- There is no identifier for a name just if it needs mangling. -/
theorem direct?_eq_none_iff {bare : String} : direct? bare = none ↔ NeedsMangling bare := by
  constructor
  · intro h
    have hrawable : bare ∉ unrawable := by
      intro hfive
      obtain ⟨i, hdirect, -⟩ := exists_direct?_of_mem hfive
      rw [hdirect] at h
      cases h
    rw [direct?_of_notMem hrawable] at h
    cases hplain : read? bare with
    | some i =>
      rw [hplain] at h
      cases h
    | none =>
      rw [hplain] at h
      refine ⟨hrawable, read?_eq_none_iff.mp hplain, fun i hone => ?_⟩
      rw [read?_raw_eq_some_iff.mpr hone] at h
      cases h
  · rintro ⟨hrawable, hname, hraw⟩
    rw [direct?_of_notMem hrawable, read?_eq_none_iff.mpr hname]
    cases hread : read? ("r#" ++ bare) with
    | none => rfl
    | some i => exact absurd (read?_raw_eq_some_iff.mp hread) (hraw i)

/-- The identifier for a name that needs no mangling is given by the rules. -/
theorem escapes_of_direct? {bare : String} {i : Ident} (h : direct? bare = some i) :
    Escapes bare i := by
  by_cases hfive : bare ∈ unrawable
  · obtain ⟨j, hdirect, htext⟩ := exists_direct?_of_mem hfive
    rw [hdirect] at h
    obtain rfl := Option.some.inj h
    exact .underscored hfive htext
  rw [direct?_of_notMem hfive] at h
  cases hplain : read? bare with
  | some j =>
    rw [hplain] at h
    obtain rfl := Option.some.inj h
    obtain ⟨hone, hname⟩ := read?_eq_some_iff.mp hplain
    exact .kept hfive hone hname
  | none =>
    rw [hplain] at h
    exact .marked hfive (read?_eq_none_iff.mp hplain) (read?_raw_eq_some_iff.mp h)

/-! ### Mangled names -/

/-- A character is kept by mangling, or an underscore stands for it. -/
theorem mangleChar_eq_self {c : Char} (h : mangleChar c ≠ '_') : mangleChar c = c := by
  unfold mangleChar at h ⊢
  split
  · rfl
  · rename_i hc
    rw [if_neg hc] at h
    exact absurd rfl h

/-- A name that is mangled without an underscore is kept. -/
theorem mangle_eq_self {bare : String} (h : '_' ∉ (mangle bare).toList) : mangle bare = bare := by
  rw [mangle, String.toList_ofList] at h
  rw [mangle]
  split
  · rename_i hdigit
    rw [if_pos hdigit] at h
    exact absurd List.mem_cons_self h
  · rename_i hdigit
    rw [if_neg hdigit] at h
    have hkept (c : Char) (hc : c ∈ bare.toList) : mangleChar c = id c :=
      mangleChar_eq_self fun heq => h (heq ▸ List.mem_map_of_mem hc)
    rw [List.map_congr_left hkept, List.map_id, String.ofList_toList]

/-- The only keyword that a name is mangled to is the underscore. Any other has no underscore in it,
so the name would be that keyword and no mangling would be needed. -/
theorem mangle_notMem_keywords {bare : String} (h : NeedsMangling bare) (hne : mangle bare ≠ "_") :
    mangle bare ∉ keywords := by
  intro hmem
  have hnone : ∀ w ∈ keywords, w ≠ "_" → '_' ∉ w.toList := by decide
  have hself := mangle_eq_self (hnone _ hmem hne)
  have hsome := isSome_direct?_word (isWord_mangle bare)
  rw [hself, direct?_eq_none_iff.mpr h] at hsome
  cases hsome

/-- The identifier for a mangled name is the mangled name, and so is plain. -/
theorem escape_mangle {bare : String} (h : NeedsMangling bare) :
    (escape (mangle bare)).raw = false ∧
      (escape (mangle bare)).text = if mangle bare = "_" then "__" else mangle bare := by
  by_cases hbar : mangle bare = "_"
  · rw [if_pos hbar, hbar]
    have hescape : escape "_" = plain "__" := escape_wildcard
    rw [hescape]
    exact ⟨rfl, rfl⟩
  · have hkeyword := mangle_notMem_keywords h hbar
    have hraw : mangle bare ∉ unrawable := fun hmem => hkeyword (mem_keywords_of_mem_unrawable hmem)
    rw [if_neg hbar, escape_of_isWord (isWord_mangle bare) hraw]
    simp [text, hkeyword]

/-- A name that needs mangling is escaped like the mangled name. -/
theorem escape_of_needsMangling {name : String} (h : NeedsMangling (stripRaw name)) :
    escape name = escape (mangle (stripRaw name)) := by
  rw [escape]
  split
  · rename_i hdirect
    rw [direct?_eq_none_iff.mpr h] at hdirect
    cases hdirect
  · rfl

/-! ### All names -/

/-- What a name is escaped to is given by the rules. -/
theorem escapes_escape (name : String) : Escapes (stripRaw name) (escape name) := by
  cases hdirect : direct? (stripRaw name) with
  | some i =>
    rw [escape_of_direct? hdirect]
    exact escapes_of_direct? hdirect
  | none =>
    have hneeded := direct?_eq_none_iff.mp hdirect
    rw [escape_of_needsMangling hneeded]
    exact .mangled hneeded (escape_mangle hneeded).2

/-- What the rules give is what the name is escaped to. -/
theorem Escapes.escape_eq {name : String} {i : Ident} (h : Escapes (stripRaw name) i) :
    escape name = i := by
  cases h with
  | underscored five text =>
    obtain ⟨j, hdirect, htext⟩ := exists_direct?_of_mem five
    rw [escape_of_direct? hdirect]
    exact text_injective (htext.trans text.symm)
  | kept rawable one name =>
    apply escape_of_direct?
    rw [direct?_of_notMem rawable, read?_eq_some_iff.mpr ⟨one, name⟩]
    rfl
  | marked rawable noName one =>
    apply escape_of_direct?
    rw [direct?_of_notMem rawable, read?_eq_none_iff.mpr noName, read?_raw_eq_some_iff.mpr one]
    rfl
  | mangled needed text =>
    apply text_injective
    rw [escape_of_needsMangling needed, (escape_mangle needed).2, text]

/-- A mangled name needs no mangling. -/
theorem escapeWithin_zero_mangle (bare : String) :
    escapeWithin 0 (mangle bare) = some (escape (mangle bare)) := by
  have hsome := isSome_direct?_word (isWord_mangle bare)
  rw [← stripRaw_mangle bare] at hsome
  obtain ⟨i, hi⟩ := Option.isSome_iff_exists.mp hsome
  rw [escapeWithin, hi, escape_of_direct? hi]

/-- One step of mangling is enough. -/
theorem escapeWithin_one (name : String) : escapeWithin 1 name = some (escape name) := by
  rw [escapeWithin, escapeWithin_zero_mangle]
  cases hdirect : direct? (stripRaw name) with
  | some i =>
    rw [escape_of_direct? hdirect]
    rfl
  | none =>
    rw [escape_of_needsMangling (direct?_eq_none_iff.mp hdirect)]
    rfl

/-- What is known of the identifier that a name is escaped to. -/
structure EscapedByRules (name : String) : Prop where
  /-- It is the one that the rules give. -/
  closedForm : ∀ i, escape name = i ↔ Escapes (stripRaw name) i
  /-- It is found after at most one step of mangling. -/
  withinOne : escapeWithin 1 name = some (escape name)
  /-- A name that gets the mark of a raw identifier is a keyword. -/
  marked : ∀ i, stripRaw name ∉ unrawable → IsNoName (stripRaw name) →
    IsOneIdent ("r#" ++ stripRaw name) i → i.raw = true ∧ i.name ∈ keywords
  /-- A mangled name has no mark of a raw identifier to lose, is mangled no more, becomes a plain
  identifier, and is no keyword but the underscore. -/
  mangledOnce : NeedsMangling (stripRaw name) →
    stripRaw (mangle (stripRaw name)) = mangle (stripRaw name) ∧
    escapeWithin 0 (mangle (stripRaw name)) = some (escape name) ∧
    (escape name).raw = false ∧
    (mangle (stripRaw name) ∈ keywords → mangle (stripRaw name) = "_")
  /-- Its printed form is just this token. -/
  readBack : IsOneIdent (Token.print (Token.named (escape name))) (escape name)
  /-- It is a word that is no keyword, or raw and none of the words that cannot be. -/
  legal : (escape name).raw = false ∧ (escape name).name ∉ keywords ∨
    (escape name).raw = true ∧ (escape name).name ∉ ["self", "Self", "super", "crate", "_"]

/-- Whatever a name is, it is escaped by the rules. -/
theorem escaped_by_rules (name : String) : EscapedByRules name := by
  constructor
  case closedForm =>
    intro i
    constructor
    · rintro rfl
      exact escapes_escape name
    · exact Escapes.escape_eq
  case withinOne => exact escapeWithin_one name
  case marked => exact fun i _ hnone hone => raw_keyword_of_isNoName hnone hone
  case mangledOnce =>
    intro hneeded
    rw [escape_of_needsMangling hneeded]
    refine ⟨stripRaw_mangle _, escapeWithin_zero_mangle _, (escape_mangle hneeded).1, ?_⟩
    intro hkeyword
    exact Decidable.byContradiction fun hne => mangle_notMem_keywords hneeded hne hkeyword
  case readBack =>
    have hprint : Token.print (Token.named (escape name)) = (escape name).text :=
      String.ofList_toList
    rw [hprint]
    exact ⟨_, lex_ident _⟩
  case legal =>
    have hkeyword := isKeyword_escape name
    cases hraw : (escape name).raw with
    | false =>
      refine .inl ⟨rfl, fun hmem => ?_⟩
      simp [isKeyword, hraw, hmem] at hkeyword
    | true =>
      refine .inr ⟨rfl, fun hmem => (escape name).rawable hraw ?_⟩
      have hfive : ∀ w ∈ ["self", "Self", "super", "crate", "_"], w ∈ unrawable := by decide
      exact hfive _ hmem

end Ident

end EnumCases
