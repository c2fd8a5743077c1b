import EnumCases.Proofs.Outcome

/-!
# What an expansion depends on

Two enums are alike (`Item.Alike`) if they have the same name, the same variants with fields of the
same shape, and are both exported or both not. Types, attributes, discriminants, clauses and the
mark of a raw identifier are left out, and a variant without fields may be written in three ways.
The variants of enums that are alike are the same cases (`Variant.Alike.case_eq`), which is all that
the stages after it see.

Main statement: enums that are alike and set the same options expand to the same
(`expand_eq_of_alike`).
-/

namespace EnumCases

open Grammar Token Code

/-- Fields of the same shape: none at all, however that is written, as many without labels, or the
same labels in the same order. -/
inductive Fields.Alike : Fields → Fields → Prop where
  /-- Neither has fields. -/
  | none {fs gs : Fields} (left : fs.count = 0) (right : gs.count = 0) : Alike fs gs
  /-- Both have as many fields without labels. -/
  | positional {fs gs : List Field} (count : fs.length = gs.length) :
    Alike (.positional fs) (.positional gs)
  /-- Both have fields with the same labels. -/
  | labelled {fs gs : List (Ident × Field)}
      (labels : List.Forall₂ (fun f g => f.1.Same g.1) fs gs) : Alike (.labelled fs) (.labelled gs)

/-- Variants of the same name with fields of the same shape. -/
structure Variant.Alike (v w : Variant) : Prop where
  /-- The names are the same. -/
  name : v.name.Same w.name
  /-- The fields have the same shape. -/
  fields : v.fields.Alike w.fields

/-- Enums without parameters that agree on all that members are derived from. -/
structure Item.Alike (i j : Item) : Prop where
  /-- The names are the same. -/
  name : i.name.Same j.name
  /-- Both are visible everywhere, or neither is. -/
  exported : i.visibility = .exported ↔ j.visibility = .exported
  /-- Both are enums, with variants that are alike one by one. -/
  variants : ∃ vs ws, i.body = .enum vs ∧ j.body = .enum ws ∧ List.Forall₂ Variant.Alike vs ws
  /-- Neither has parameters. -/
  plain : i.parameters = [] ∧ j.parameters = []

/-- A variant without fields is a case without associated values, however it is written. -/
theorem Variant.case_eq_unit {v : Variant} (h : v.fields.count = 0) :
    v.case = .unit v.name.name := by
  unfold Variant.case
  cases hfields : v.fields with
  | unit => rfl
  | positional fields =>
    rw [hfields] at h
    exact if_pos h
  | labelled fields =>
    rw [hfields] at h
    obtain rfl := List.eq_nil_of_length_eq_zero h
    rfl

/-- Variants that are alike are the same case. -/
theorem Variant.Alike.case_eq {v w : Variant} (h : v.Alike w) : v.case = w.case := by
  obtain ⟨hname, hfields⟩ := h
  rw [Ident.same_iff] at hname
  generalize hf : v.fields = fs at hfields
  generalize hg : w.fields = gs at hfields
  cases hfields with
  | none left right =>
    rw [← hf] at left
    rw [← hg] at right
    rw [Variant.case_eq_unit left, Variant.case_eq_unit right, hname]
  | positional count =>
    rw [Variant.case, Variant.case, hf, hg]
    simp only [hname, count]
  | @labelled fs gs labels =>
    have hlabels : fs.map (·.1.name) = gs.map (·.1.name) := by
      rw [← List.forall₂_eq_eq_eq, List.forall₂_map_left_iff, List.forall₂_map_right_iff]
      exact labels.imp fun _ _ h => Ident.same_iff.mp h
    rw [Variant.case, Variant.case, hf, hg]
    simp only [hname, hlabels]

namespace Item

/-- A declaration is exported just if its item is. -/
theorem visibility_enumDecl_eq_exported_iff {i : Item} {variants : List Variant} :
    (i.enumDecl variants).visibility = .exported ↔ i.visibility = .exported := by
  rw [EnumDecl.visibility_eq_exported_iff, enumDecl]
  cases i.visibility <;> simp [ItemVisibility.modifiers]

/-- Enums that are alike have the same members to derive. -/
theorem Alike.exists_transform_eq {i j : Item} (h : i.Alike j) :
    ∃ d d', i.declaration = .ok d ∧ j.declaration = .ok d' ∧ d.transform = d'.transform := by
  obtain ⟨hname, hexported, ⟨vs, ws, hvs, hws, hvariants⟩, hi, hj⟩ := h
  refine ⟨.enum (i.enumDecl vs), .enum (j.enumDecl ws), declaration_eq_enumDecl hvs hi,
    declaration_eq_enumDecl hws hj, EnumDecl.transform_congr ?_ ?_ ?_ ?_⟩
  · exact Ident.same_iff.mp hname
  · rw [cases_enumDecl, cases_enumDecl, ← List.forall₂_eq_eq_eq, List.forall₂_map_left_iff,
      List.forall₂_map_right_iff]
    exact hvariants.imp fun _ _ h => h.case_eq
  · exact iff_of_false (i.not_hasConflict_enumDecl vs) (j.not_hasConflict_enumDecl ws)
  · apply EnumDecl.visibility_eq_of_iff
    rw [visibility_enumDecl_eq_exported_iff, visibility_enumDecl_eq_exported_iff]
    exact hexported

/-- What enums that are alike expand to differs at most in what their options differ in. -/
theorem Alike.exists_expand_eq {i j : Item} (h : i.Alike j) :
    ∃ render : Path → Except ExpansionError (List (Token Unit)),
      i.expand = (libraryOf i.attributes).mapError .refused >>= render ∧
      j.expand = (libraryOf j.attributes).mapError .refused >>= render := by
  obtain ⟨d, d', hd, hd', htransform⟩ := h.exists_transform_eq
  refine ⟨fun library => (d.render library).mapError .rejected, expand_of_declaration hd, ?_⟩
  rw [expand_of_declaration hd']
  simp only [Declaration.render, htransform]

end Item

/-- Enums that are alike expand to the same tokens, or fail with the same error, if reading their
helper attributes ends alike: with the same result, with the same result up to the place of an
error, or, since no other attributes count, because they have the same helpers. -/
theorem expand_eq_of_alike {ts us : Tokens} {i j : Item} (hi : Item.read ts = .ok i)
    (hj : Item.read us = .ok j) (h : i.Alike j) :
    (libraryOf i.attributes = libraryOf j.attributes → expand ts = expand us) ∧
    ((libraryOf i.attributes).mapError Fault.message =
        (libraryOf j.attributes).mapError Fault.message →
      (expand ts).mapError ExpansionError.message = (expand us).mapError ExpansionError.message) ∧
    (i.attributes.filter (·.isHelper) = j.attributes.filter (·.isHelper) →
      expand ts = expand us) := by
  obtain ⟨render, hexpand, hexpand'⟩ := h.exists_expand_eq
  rw [expand_of_read hi, expand_of_read hj, hexpand, hexpand']
  have hsame : libraryOf i.attributes = libraryOf j.attributes →
      (libraryOf i.attributes).mapError ExpansionError.refused >>= render =
        (libraryOf j.attributes).mapError ExpansionError.refused >>= render := by
    intro heq
    rw [heq]
  refine ⟨hsame, ?_, fun hhelpers => hsame ?_⟩
  · intro hmessages
    have hmessage : ExpansionError.message ∘ ExpansionError.refused = Fault.message := rfl
    rw [mapError_bind, mapError_bind, hmessage, hmessages]
  · rw [libraryOf, libraryOf, libraryFrom, libraryFrom, hhelpers]

/-- An enum with attributes, a restricted visibility, a clause, a discriminant and raw names. -/
def Item.ornate : Tokens :=
  Token.mapAll (fun _ => .callSite) <|
    outerAttribute (spelled "repr" ++ parenthesized (spelled "u8")) ++
      spelled "pub" ++ parenthesized (spelled "crate") ++ spelled "enum" ++ spelled "Shape" true ++
      spelled "where" ++ spelled "u8" ++ operator [':'] ++ spelled "Copy" ++
      braced (commaSeparated [
        spelled "Point" ++ parenthesized [] ++ operator ['='] ++ constant ⟨.integer, "3", ""⟩,
        documentation (.verbatim " A circle.") ++ spelled "Circle" ++ parenthesized (spelled "u32"),
        spelled "Line" ++ braced (spelled "pub" ++ spelled "length" true ++ operator [':'] ++
          spelled "f32")])

/-- The same enum without any of these, and with other types. -/
def Item.bare : Tokens :=
  Token.mapAll (fun _ => .callSite) <|
    spelled "enum" ++ spelled "Shape" ++ braced (commaSeparated [
      spelled "Point",
      spelled "Circle" ++ parenthesized (spelled "String"),
      spelled "Line" ++ braced (spelled "length" ++ operator [':'] ++ spelled "u8")])

/-- These two enums are alike, and expand to the same. -/
theorem expand_ornate_eq_bare :
    (∃ i j, Item.read Item.ornate = .ok i ∧ Item.read Item.bare = .ok j ∧ i.Alike j ∧
      libraryOf i.attributes = libraryOf j.attributes) ∧
    expand Item.ornate = expand Item.bare := by
  obtain ⟨i, j, hi, hj, halike, hoptions⟩ : ∃ i j,
      Item.read Item.ornate = .ok i ∧ Item.read Item.bare = .ok j ∧ i.Alike j ∧
        libraryOf i.attributes = libraryOf j.attributes := by
    refine ⟨_, _, rfl, rfl, ⟨rfl, ?_, ⟨_, _, rfl, rfl, ?_⟩, rfl, rfl⟩, rfl⟩
    · exact iff_of_false (fun h => by cases h) (fun h => by cases h)
    · exact .cons ⟨rfl, .none rfl rfl⟩ (.cons ⟨rfl, .positional rfl⟩
        (.cons ⟨rfl, .labelled (.cons rfl .nil)⟩ .nil))
  exact ⟨⟨i, j, hi, hj, halike, hoptions⟩, (expand_eq_of_alike hi hj halike).1 hoptions⟩

end EnumCases
