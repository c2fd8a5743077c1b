import EnumCases.Proofs.Names

/-!
# How an expansion ends

An item that is read is seen as a declaration, its helper attributes are read, and the declaration
is judged; `Item.errorOf?_expand` puts the errors of these stages in their order. Several things may
be wrong with an item at once, and one of them is reported. `Ends` gives the rules, one for each
outcome: a rule says what its outcome is and that no earlier one applies. The order is: the tokens
are no item; the item is an enum with generic parameters; a helper attribute is bad; the item is no
enum, has no variants, or has no variant with fields.

Main statement: the rules are all there is to say about the errors of an expansion, and a nested
type is never in its way (`expand_ends_iff`).
-/

namespace EnumCases

open Grammar

/-! ### Helper attributes -/

/-- The fault of an attribute that is read as a helper, if it has one. -/
def Grammar.Attribute.fault? (a : Attribute) : Option Fault := errorOf? (a.library .standard)

/-- The fault of the first bad helper among attributes, if there is one. -/
def helperFault? (attributes : List Attribute) : Option Fault :=
  (attributes.filter (·.isHelper)).findSome? (·.fault?)

/-- A helper fails because its arguments cannot be read, or else with the fault of its first bad
entry. -/
theorem Grammar.Attribute.errorOf?_library_eq_match (a : Attribute) (library : Path) :
    errorOf? (a.library library) = match a.entries with
      | .error f => some f
      | .ok entries => entries.findSome? fun e => errorOf? e.library := by
  rw [Attribute.library, errorOf?_bind]
  cases a.entries with
  | error f => rfl
  | ok entries =>
    -- The rounds do not look at the path, so neither does the first fault among them.
    exact errorOf?_foldlM (f := fun (_ : Path) (e : Entry) => e.library) (fun _ _ => rfl)
      entries library

/-- Whether a helper is bad does not depend on the path that was set before. -/
theorem Grammar.Attribute.errorOf?_library (a : Attribute) (library : Path) :
    errorOf? (a.library library) = a.fault? := by
  rw [fault?, errorOf?_library_eq_match, errorOf?_library_eq_match]

/-- Attributes cannot be read just if some helper is bad, and the first bad one says why. -/
theorem errorOf?_libraryFrom (library : Path) (attributes : List Attribute) :
    errorOf? (libraryFrom library attributes) = helperFault? attributes :=
  errorOf?_foldlM (fun library a => a.errorOf?_library library) _ _

/-- The same holds of the options of an item. -/
theorem errorOf?_libraryOf (attributes : List Attribute) :
    errorOf? (libraryOf attributes) = helperFault? attributes :=
  errorOf?_libraryFrom _ _

/-- Attributes without a helper among them are good. -/
theorem helperFault?_eq_none {attributes : List Attribute}
    (h : ∀ a ∈ attributes, a.isHelper = false) : helperFault? attributes = none := by
  have hnone : attributes.filter (·.isHelper) = [] := by simpa using h
  rw [helperFault?, hnone, List.findSome?_nil]

/-! ### The stages of an expansion -/

namespace Item

/-- An item that is no declaration is refused, whatever its attributes are. -/
theorem expand_of_declaration_error {i : Item} {f : Fault} (h : i.declaration = .error f) :
    i.expand = .error (.refused f) := by
  rw [expand, h]
  rfl

/-- A declaration is expanded with the options of its helpers. -/
theorem expand_of_declaration {i : Item} {d : Declaration} (h : i.declaration = .ok d) :
    i.expand = (libraryOf i.attributes).mapError .refused >>= fun library =>
      (d.render library).mapError .rejected := by
  rw [expand, h]
  rfl

/-- The error of an item that is a declaration is that of the first bad helper, or else what the
declaration is rejected for. -/
theorem errorOf?_expand {i : Item} {d : Declaration} (h : i.declaration = .ok d) :
    errorOf? i.expand = ((helperFault? i.attributes).map .refused <|>
      (errorOf? d.validate).map .rejected) := by
  have hhelpers := errorOf?_libraryOf i.attributes
  have hrender (library : Path) : errorOf? (d.render library) = errorOf? d.validate := by
    rw [Declaration.render, errorOf?_map, Declaration.transform, errorOf?_map]
  rw [expand_of_declaration h, errorOf?_bind]
  cases hl : libraryOf i.attributes with
  | error f =>
    rw [hl] at hhelpers
    rw [← hhelpers]
    rfl
  | ok library =>
    rw [hl] at hhelpers
    rw [← hhelpers]
    show errorOf? ((d.render library).mapError ExpansionError.rejected) = _
    rw [errorOf?_mapError, hrender]
    rfl

end Item

/-! ### The rules -/

/-- How the expansion of tokens ends: with an error, or with none. -/
inductive Ends (ts : Tokens) : Option ExpansionError → Prop where
  /-- The tokens are no item. -/
  | unreadable {f : Fault} (read : Item.read ts = .error f) : Ends ts (some (.refused f))
  /-- An enum is generic. Neither its attributes nor its variants count then. -/
  | genericEnum {i : Item} (read : Item.read ts = .ok i) (generic : i.IsGenericEnum) :
    Ends ts (some (.refused ⟨.genericEnum, Token.spanOf i.parameters⟩))
  /-- A helper is bad, on a structure, a union or an enum, which may have no variants. -/
  | badHelper {i : Item} {f : Fault} (read : Item.read ts = .ok i) (plain : ¬ i.IsGenericEnum)
      (bad : helperFault? i.attributes = some f) : Ends ts (some (.refused f))
  /-- The item is a structure or a union, generic or not. -/
  | notAnEnum {i : Item} (read : Item.read ts = .ok i) (good : helperFault? i.attributes = none)
      (body : ∀ variants, i.body ≠ .enum variants) : Ends ts (some (.rejected .notAnEnum))
  /-- An enum has no variants. -/
  | emptyEnum {i : Item} (read : Item.read ts = .ok i) (plain : i.parameters = [])
      (good : helperFault? i.attributes = none) (body : i.body = .enum []) :
    Ends ts (some (.rejected .emptyEnum))
  /-- No variant of an enum has fields. -/
  | noAssociatedValues {i : Item} {variants : List Variant} (read : Item.read ts = .ok i)
      (plain : i.parameters = []) (good : helperFault? i.attributes = none)
      (body : i.body = .enum variants) (some_variant : variants ≠ [])
      (no_fields : ∀ v ∈ variants, v.fields.count = 0) :
    Ends ts (some (.rejected .noAssociatedValues))
  /-- Some variant of an enum has fields, and the members are derived. -/
  | expanded {i : Item} {variants : List Variant} (read : Item.read ts = .ok i)
      (plain : i.parameters = []) (good : helperFault? i.attributes = none)
      (body : i.body = .enum variants) (some_fields : ∃ v ∈ variants, v.fields.count ≠ 0) :
    Ends ts none

/-- Tokens that are an item are expanded like the item. -/
theorem expand_of_read {ts : Tokens} {i : Item} (h : Item.read ts = .ok i) :
    expand ts = i.expand := by
  rw [expand, h]
  rfl

/-- Tokens that are no item are refused. -/
theorem expand_of_read_error {ts : Tokens} {f : Fault} (h : Item.read ts = .error f) :
    expand ts = .error (.refused f) := by
  rw [expand, h]
  rfl

/-- With good helpers, the error of a plain enum is what it is rejected for. -/
theorem Item.errorOf?_expand_enum {i : Item} {variants : List Variant}
    (hbody : i.body = .enum variants) (hparameters : i.parameters = [])
    (hgood : helperFault? i.attributes = none) :
    errorOf? i.expand = (i.enumDecl variants).verdict.map .rejected := by
  rw [Item.errorOf?_expand (Item.declaration_eq_enumDecl hbody hparameters), hgood]
  rfl

/-- With good helpers, what is no enum is rejected for that. -/
theorem Item.errorOf?_expand_other {i : Item} (hbody : ∀ variants, i.body ≠ .enum variants)
    (hgood : helperFault? i.attributes = none) :
    errorOf? i.expand = some (.rejected .notAnEnum) := by
  obtain ⟨name, kind, hd⟩ := Item.exists_declaration_eq_other hbody
  rw [Item.errorOf?_expand hd, hgood]
  rfl

/-- A bad helper of an item that is no generic enum is reported. -/
theorem Item.errorOf?_expand_badHelper {i : Item} {f : Fault} (hplain : ¬ i.IsGenericEnum)
    (hbad : helperFault? i.attributes = some f) : errorOf? i.expand = some (.refused f) := by
  obtain ⟨d, hd⟩ : ∃ d, i.declaration = .ok d := by
    obtain hgeneric | ⟨variants, hbody, hparameters⟩ | hother := i.kind_cases
    · exact absurd hgeneric hplain
    · exact ⟨_, Item.declaration_eq_enumDecl hbody hparameters⟩
    · obtain ⟨name, kind, hd⟩ := Item.exists_declaration_eq_other hother
      exact ⟨_, hd⟩
  rw [Item.errorOf?_expand hd, hbad]
  rfl

/-- Every rule is right. -/
theorem Ends.errorOf?_expand {ts : Tokens} {e : Option ExpansionError} (h : Ends ts e) :
    errorOf? (expand ts) = e := by
  cases h with
  | unreadable read => rw [expand_of_read_error read, errorOf?]
  | genericEnum read generic =>
    rw [expand_of_read read, Item.expand_of_declaration_error (Item.declaration_eq_error generic),
      errorOf?]
  | badHelper read plain bad =>
    rw [expand_of_read read]
    exact Item.errorOf?_expand_badHelper plain bad
  | notAnEnum read good body =>
    rw [expand_of_read read]
    exact Item.errorOf?_expand_other body good
  | @emptyEnum i read plain good body =>
    rw [expand_of_read read, Item.errorOf?_expand_enum body plain good]
    rfl
  | @noAssociatedValues i variants read plain good body some_variant no_fields =>
    rw [expand_of_read read, Item.errorOf?_expand_enum body plain good]
    obtain ⟨-, hnil⟩ | ⟨hv, -⟩ | ⟨-, v, hmem, hne⟩ := i.verdict_enumDecl_cases variants
    · exact absurd hnil some_variant
    · rw [hv]
      rfl
    · exact absurd (no_fields v hmem) hne
  | @expanded i variants read plain good body some_fields =>
    rw [expand_of_read read, Item.errorOf?_expand_enum body plain good]
    obtain ⟨v, hmem, hne⟩ := some_fields
    obtain ⟨-, rfl⟩ | ⟨-, -, hzero⟩ | ⟨hv, -⟩ := i.verdict_enumDecl_cases variants
    · cases hmem
    · exact absurd (hzero v hmem) hne
    · rw [hv]
      rfl

/-- Some rule applies to an item. -/
theorem Ends.of_read {ts : Tokens} {i : Item} (read : Item.read ts = .ok i) : ∃ e, Ends ts e := by
  by_cases generic : i.IsGenericEnum
  · exact ⟨_, .genericEnum read generic⟩
  cases hhelper : helperFault? i.attributes with
  | some f => exact ⟨_, .badHelper read generic hhelper⟩
  | none =>
    obtain hgeneric | ⟨variants, body, plain⟩ | hother := i.kind_cases
    · exact absurd hgeneric generic
    · obtain ⟨-, rfl⟩ | ⟨-, hne, hzero⟩ | ⟨-, hfields⟩ := i.verdict_enumDecl_cases variants
      · exact ⟨_, .emptyEnum read plain hhelper body⟩
      · exact ⟨_, .noAssociatedValues read plain hhelper body hne hzero⟩
      · exact ⟨_, .expanded read plain hhelper body hfields⟩
    · exact ⟨_, .notAnEnum read hhelper hother⟩

/-- Some rule applies to all tokens. -/
theorem Ends.total (ts : Tokens) : ∃ e, Ends ts e := by
  cases read : Item.read ts with
  | error f => exact ⟨_, .unreadable read⟩
  | ok i => exact Ends.of_read read

end EnumCases
