import EnumCases.Expansion
import EnumCases.Proofs.Declared
import EnumCases.Proofs.Escape
import EnumCases.Proofs.Reading
import EnumCases.Proofs.Rendered

/-!
# Names survive the expansion

The names of an item lose the mark of a raw identifier when the item is read, and get it back where
they are rendered. For a name that is no keyword without its mark the two cancel
(`Ident.same_escape_name`), and the parser reads no other names (`Item.wellNamed_of_read`).

Main statement: whatever an item expands to is read as a program that names the host, its variants
and their labels, in each of their places, as the item does (`exists_namedAfter_of_expand`).
-/

namespace EnumCases

open Code Grammar Token

/-- The labels of a pattern. -/
def Code.Pattern.labels : Pattern → List Ident
  | .positional _ => []
  | .labelled fields => fields.map Prod.fst

/-- How a label is rendered: as the same identifier. The wildcard is no identifier, and is rendered
with one more underscore. -/
def Ident.RenderedAs (label rendered : Ident) : Prop :=
  rendered.Same label ∨ label = .wildcard ∧ rendered = .plain "__"

/-- Identifiers that are pairwise not the same. -/
def Ident.AllDiffer (is : List Ident) : Prop := is.Pairwise fun i j => ¬ i.Same j

/-- A pattern of the predicate whose two sides, the case and the variant, are named after a variant
of the source. -/
structure Code.CasePair.NamedAfter (caseType : Ident) (pair : CasePair) (v : Variant) : Prop where
  /-- The case is the variant. -/
  case : pair.case.Same v.name
  /-- The variant is one of the discriminator. -/
  caseType : pair.caseType = caseType
  /-- It is the variant, too. -/
  variant : pair.variant.Same v.name

/-- An arm of the accessor is named after a variant of the source. -/
structure Code.ExtractArm.NamedAfter (arm : ExtractArm) (v : Variant) : Prop where
  /-- The case is the variant. -/
  case : arm.case.Same v.name
  /-- Each label is rendered in its place. -/
  labels : List.Forall₂ Ident.RenderedAs v.fields.labels arm.pattern.labels
  /-- There is one binding for each field. -/
  bindings : arm.pattern.bindings.length = v.fields.count
  /-- Labels that differ are rendered to labels that differ. -/
  differ : Ident.AllDiffer v.fields.labels → .wildcard ∉ v.fields.labels →
    Ident.AllDiffer arm.pattern.labels

/-- The patterns of the predicate, the wildcard left out. -/
def Code.Program.pairs (p : Program) : List CasePair := p.test.arms.filterMap (·.pattern)

/-- The arm of the accessor for a case. -/
def Code.AccessArm.payload? : AccessArm → Option ExtractArm
  | .payload arm => some arm
  | .nothing => none

/-- The arms of the accessor for cases. -/
def Code.Program.payloads (p : Program) : List ExtractArm := p.access.arms.filterMap (·.payload?)

/-- A program is named after a host and its variants in the source. -/
structure Code.Program.NamedAfter (p : Program) (host : Ident) (variants : List Variant) :
    Prop where
  /-- The functions belong to the host. -/
  implHost : p.host.Same host
  /-- The discriminator has one variant per variant of the source, in order. -/
  caseVariants : List.Forall₂ (fun i v => i.Same v.name) p.variants variants
  /-- The predicate has one arm per variant of the source, in order, -/
  testArms : List.Forall₂ (CasePair.NamedAfter p.caseType) p.pairs variants
  /-- and these are its first arms. -/
  testFirst : p.pairs.map some <+: p.test.arms.map (·.pattern)
  /-- The accessor has one arm per variant with fields, in order, -/
  accessArms : List.Forall₂ ExtractArm.NamedAfter p.payloads
    (variants.filter fun v => v.fields.count ≠ 0)
  /-- and these are its first arms. -/
  accessFirst : p.payloads.map .payload <+: p.access.arms
  /-- The candidate is of the discriminator. -/
  candidateType : p.test.candidateType = p.caseType
  /-- The discriminator has the name of the host before its own. -/
  typeText : p.caseType.text = stripRaw host.text ++ discriminatorName
  /-- The name of the discriminator is not raw. -/
  typePlain : p.caseType.raw = false
  /-- The name of the discriminator is no keyword. -/
  typeNoKeyword : p.caseType.isKeyword = false
  /-- The discriminator is not called like the host. -/
  typeApart : ¬ p.caseType.Same p.host
  /-- Variants that differ are rendered to names that differ in each of these places. -/
  differ : Ident.AllDiffer (variants.map (·.name)) →
    Ident.AllDiffer p.variants ∧ Ident.AllDiffer (p.pairs.map (·.case)) ∧
      Ident.AllDiffer (p.pairs.map (·.variant)) ∧ Ident.AllDiffer (p.payloads.map (·.case))

/-- The name of a variant that is read, as it is rendered. -/
theorem Variant.WellNamed.same_escape {v : Variant} (h : v.WellNamed) :
    (Ident.escape v.name.name).Same v.name :=
  Ident.same_escape_name h.name

/-- A label that is read, as it is rendered. -/
theorem Ident.IsLabel.renderedAs_escape {label : Ident} (h : label.IsLabel) :
    label.RenderedAs (.escape label.name) := by
  rcases h with hkeyword | rfl
  · exact .inl (Ident.same_escape_name hkeyword)
  · exact .inr ⟨rfl, Ident.escape_wildcard⟩

/-- Identifiers differ just if their names do. -/
theorem Ident.allDiffer_iff {is : List Ident} : AllDiffer is ↔ (is.map (·.name)).Nodup := by
  rw [AllDiffer, List.Nodup, List.pairwise_map]
  simp only [same_iff, ne_eq]

/-- Lists of the same identifiers differ alike. -/
theorem Ident.AllDiffer.of_forall₂ {is js : List Ident} (h : AllDiffer is)
    (hsame : List.Forall₂ (fun i j => j.Same i) is js) : AllDiffer js := by
  have hnames : is.map (·.name) = js.map (·.name) := by
    rw [← List.forall₂_eq_eq_eq, List.forall₂_map_left_iff, List.forall₂_map_right_iff]
    exact hsame.imp fun _ _ h => (same_iff.mp h).symm
  rw [allDiffer_iff] at h ⊢
  rw [← hnames]
  exact h

/-- What variants that differ are rendered to differs. -/
theorem Ident.AllDiffer.of_named {is : List Ident} {variants : List Variant}
    (h : AllDiffer (variants.map (·.name)))
    (hsame : List.Forall₂ (fun i v => i.Same v.name) is variants) : AllDiffer is := by
  refine h.of_forall₂ ?_
  rw [List.forall₂_map_left_iff]
  exact hsame.flip

namespace Variant

/-- The labels of a variant with fields, as they are rendered. -/
theorem labels_pattern {v : Variant} (h : v.case.arity ≠ 0) :
    (v.case.payload.pattern (Ident.bindings v.case.arity)).labels =
      v.fields.labels.map fun label => .escape label.name := by
  rw [arity_case] at h ⊢
  unfold Variant.case
  cases hfields : v.fields with
  | unit =>
    rw [hfields] at h
    exact absurd rfl h
  | positional fields =>
    -- Neither list of fields is empty, so the case keeps its payload.
    rw [hfields] at h
    have hcase : Case.tuple v.name.name fields.length = ⟨v.name.name, .tuple fields.length⟩ :=
      if_neg h
    simp only [hcase]
    rfl
  | labelled fields =>
    rw [hfields] at h
    have hcase : Case.record v.name.name (fields.map (·.1.name)) =
        ⟨v.name.name, .record (fields.map (·.1.name))⟩ := by
      refine if_neg ?_
      rw [List.isEmpty_map, List.isEmpty_iff]
      rintro rfl
      exact h rfl
    simp only [hcase, Payload.pattern, Pattern.labels, Fields.labels, Fields.count]
    rw [List.map_fst_zip (by simp), List.map_map, List.map_map]
    rfl

end Variant

/-- A pattern binds every slot of its payload. -/
theorem Payload.length_bindings_pattern (p : Payload) :
    (p.pattern (Ident.bindings p.arity)).bindings.length = p.arity := by
  cases p with
  | unit => rfl
  | tuple arity => simp [Payload.pattern, Pattern.bindings, Payload.arity]
  | record labels => simp [Payload.pattern, Pattern.bindings, Payload.arity]

/-- The arm of a variant that is read is named after it. -/
theorem AccessorArm.namedAfter_item {v : Variant} (h : v.WellNamed) {arm : AccessorArm}
    (harm : v.case.accessorArm? = some arm) : arm.item.NamedAfter v := by
  obtain ⟨hzero, rfl⟩ := Case.accessorArm?_eq_some_iff.mp harm
  have hpattern : (AccessorArm.item ⟨v.case.id, v.case.payload, .ofArity v.case.arity⟩).pattern =
      v.case.payload.pattern (Ident.bindings v.case.arity) := by
    rw [AccessorArm.item, Extraction.arity_ofArity]
  have hlabels := Variant.labels_pattern hzero
  refine ⟨?_, ?_, ?_, ?_⟩
  · show (Ident.escape v.case.id).Same v.name
    rw [Variant.id_case]
    exact h.same_escape
  · rw [hpattern, hlabels, List.forall₂_map_right_iff, List.forall₂_same]
    exact fun label hlabel => (h.labels label hlabel).renderedAs_escape
  · rw [hpattern, ← Variant.arity_case]
    exact Payload.length_bindings_pattern v.case.payload
  · -- Without the wildcard every label is rendered as the same identifier.
    intro hdiffer hwildcard
    rw [hpattern, hlabels]
    refine hdiffer.of_forall₂ ?_
    rw [List.forall₂_map_right_iff, List.forall₂_same]
    intro label hlabel
    rcases h.labels label hlabel with hkeyword | rfl
    · exact Ident.same_escape_name hkeyword
    · exact absurd hlabel hwildcard

/-- The arms of the accessor are named after the variants with fields. -/
theorem forall₂_namedAfter_arms {variants : List Variant} (h : ∀ v ∈ variants, v.WellNamed) :
    List.Forall₂ ExtractArm.NamedAfter
      (((variants.map Variant.case).filterMap Case.accessorArm?).map AccessorArm.item)
      (variants.filter fun v => v.fields.count ≠ 0) := by
  induction variants with
  | nil => exact .nil
  | cons v variants ih =>
    have hrest := ih fun w hw => h w (by simp [hw])
    rw [List.map_cons]
    -- A variant without fields has no arm, and is no member of the filtered list either.
    by_cases hzero : v.fields.count = 0
    · have hnone : v.case.accessorArm? = none :=
        Case.accessorArm?_eq_none (v.arity_case.trans hzero)
      rw [List.filterMap_cons_none hnone, List.filter_cons_of_neg (by simp [hzero])]
      exact hrest
    · have hsome : v.case.accessorArm? = some ⟨v.case.id, v.case.payload, .ofArity v.case.arity⟩ :=
        Case.accessorArm?_eq_some_iff.mpr ⟨by rw [v.arity_case]; exact hzero, rfl⟩
      rw [List.filterMap_cons_some hsome, List.filter_cons_of_pos (by simp [hzero])]
      exact .cons (AccessorArm.namedAfter_item (h v (by simp)) hsome) hrest

section

variable (host : String) (cases : List Case) (visibility : Visibility)

/-- The predicate has the pattern of each case, and these come first. -/
theorem pairs_synthesize :
    (synthesize host cases visibility).program.pairs = (cases.map fun c =>
        ⟨.escape c.id, (synthesize host cases visibility).program.caseType, .escape c.id⟩) ∧
      (synthesize host cases visibility).program.pairs.map some <+:
        (synthesize host cases visibility).program.test.arms.map (·.pattern) := by
  have hlast : (if 1 < cases.length then [(⟨none, false⟩ : TestArm)] else []).filterMap
      (·.pattern) = [] := by
    split_ifs <;> rfl
  have hpairs : (synthesize host cases visibility).program.pairs = cases.map fun c =>
      ⟨.escape c.id, (synthesize host cases visibility).program.caseType, .escape c.id⟩ := by
    rw [Program.pairs, testArms_synthesize, List.filterMap_append, hlast, List.append_nil,
      List.map_map, List.filterMap_map]
    exact congrFun List.filterMap_eq_map cases
  refine ⟨hpairs, ?_⟩
  rw [hpairs, testArms_synthesize, List.map_append, List.map_map, List.map_map, List.map_map]
  exact List.prefix_append _ _

/-- The accessor has the arm of each case with values, and these come first. -/
theorem payloads_synthesize :
    (synthesize host cases visibility).program.payloads =
        (cases.filterMap Case.accessorArm?).map AccessorArm.item ∧
      (synthesize host cases visibility).program.payloads.map .payload <+:
        (synthesize host cases visibility).program.access.arms := by
  have hlast : (if (synthesize host cases visibility).accessor.fallback then
      [AccessArm.nothing] else []).filterMap (·.payload?) = [] := by
    split_ifs <;> rfl
  have hpayloads : (synthesize host cases visibility).program.payloads =
      (cases.filterMap Case.accessorArm?).map AccessorArm.item := by
    rw [Program.payloads, accessArms_synthesize, List.filterMap_append, hlast, List.append_nil,
      List.filterMap_map]
    exact List.filterMap_some
  refine ⟨hpayloads, ?_⟩
  rw [hpayloads, accessArms_synthesize]
  exact List.prefix_append _ _

end

/-- The program of members synthesized for variants that are read is named after them. -/
theorem namedAfter_program {host : Ident} (hhost : host.isKeyword = false) {variants : List Variant}
    (h : ∀ v ∈ variants, v.WellNamed) (visibility : Visibility) :
    (synthesize host.name (variants.map Variant.case) visibility).program.NamedAfter host
      variants := by
  -- All places render the names of variants alike.
  have hsame : List.Forall₂ (fun c v => (Ident.escape (Case.id c)).Same v.name)
      (variants.map Variant.case) variants := by
    rw [List.forall₂_map_left_iff, List.forall₂_same]
    intro v hv
    rw [Variant.id_case]
    exact (h v hv).same_escape
  have hvariants := variants_synthesize host.name (variants.map Variant.case) visibility
  obtain ⟨hpairs, hpairsFirst⟩ := pairs_synthesize host.name (variants.map Variant.case) visibility
  obtain ⟨hpayloads, hpayloadsFirst⟩ :=
    payloads_synthesize host.name (variants.map Variant.case) visibility
  obtain ⟨word, htype⟩ := Ident.discriminator_eq_plain host
  have htype : (synthesize host.name (variants.map Variant.case) visibility).program.caseType =
      .plain (host.name ++ discriminatorName) word := htype
  set p := (synthesize host.name (variants.map Variant.case) visibility).program
  have hcaseVariants : List.Forall₂ (fun i v => i.Same v.name) p.variants variants := by
    rw [hvariants, List.forall₂_map_left_iff]
    exact hsame
  have htestArms : List.Forall₂ (CasePair.NamedAfter p.caseType) p.pairs variants := by
    rw [hpairs, List.forall₂_map_left_iff]
    exact hsame.imp fun _ _ h => ⟨h, rfl, h⟩
  have haccessArms : List.Forall₂ ExtractArm.NamedAfter p.payloads
      (variants.filter fun v => v.fields.count ≠ 0) := by
    rw [hpayloads]
    exact forall₂_namedAfter_arms h
  constructor
  case implHost => exact Ident.same_escape_name hhost
  case caseVariants => exact hcaseVariants
  case testArms => exact htestArms
  case testFirst => exact hpairsFirst
  case accessArms => exact haccessArms
  case accessFirst => exact hpayloadsFirst
  case candidateType => rfl
  case typeText =>
    rw [htype, Ident.stripRaw_text]
    rfl
  case typePlain =>
    rw [htype]
    rfl
  case typeNoKeyword =>
    rw [htype]
    simp [Ident.isKeyword, Ident.plain, Ident.append_discriminatorName_notMem_keywords]
  case typeApart => exact Ident.not_same_discriminator hhost
  case differ =>
    intro hdiffer
    have hfields : Ident.AllDiffer ((variants.filter fun v => v.fields.count ≠ 0).map (·.name)) :=
      List.Pairwise.sublist (List.filter_sublist.map _) hdiffer
    refine ⟨hdiffer.of_named hcaseVariants, hdiffer.of_named ?_, hdiffer.of_named ?_,
      hfields.of_named ?_⟩ <;> rw [List.forall₂_map_left_iff]
    · exact htestArms.imp fun _ _ h => h.case
    · exact htestArms.imp fun _ _ h => h.variant
    · exact haccessArms.imp fun _ _ h => h.case

/-- An item expands to the tokens of the members of its declaration. -/
theorem Item.exists_of_expand {i : Item} {out : List (Token Unit)} (h : i.expand = .ok out) :
    ∃ d s library, i.declaration = .ok d ∧ libraryOf i.attributes = .ok library ∧
      d.transform = .ok s ∧ out = s.tokens library := by
  unfold Item.expand at h
  -- Each of the three stages must have succeeded.
  cases hd : i.declaration with
  | error fault =>
    rw [hd] at h
    cases h
  | ok d =>
    cases hl : libraryOf i.attributes with
    | error fault =>
      rw [hd, hl] at h
      cases h
    | ok library =>
      rw [hd, hl] at h
      have hrender : (d.transform.map (·.tokens library)).mapError ExpansionError.rejected =
          .ok out := h
      cases ht : d.transform with
      | error diagnostic =>
        rw [ht] at hrender
        cases hrender
      | ok s =>
        rw [ht] at hrender
        exact ⟨d, s, library, rfl, rfl, ht, (Except.ok.inj hrender).symm⟩

/-- The declaration of an item is accepted only if the item is an enum without parameters, and the
members are those for its variants. -/
theorem Item.eq_synthesize_of_transform {i : Item} {d : Declaration} {s : Synthesis}
    (hd : i.declaration = .ok d) (ht : d.transform = .ok s) :
    ∃ variants visibility, i.body = .enum variants ∧ i.parameters = [] ∧
      s = synthesize i.name.name (variants.map Variant.case) visibility := by
  cases d with
  | other name kind => cases ht
  | enum e =>
    obtain ⟨variants, hbody, hparameters, rfl⟩ := Item.eq_enumDecl_of_declaration hd
    have hs := EnumDecl.eq_synthesize_of_transform ht
    rw [Item.cases_enumDecl] at hs
    exact ⟨variants, _, hbody, hparameters, hs⟩

/-- Whatever expands is an enum without parameters. With the path to the support library that it
sets, what it expands to is read as a program, and that is named after the enum and its variants. -/
theorem exists_namedAfter_of_expand {ts : Tokens} {out : List (Token Unit)}
    (h : expand ts = .ok out) :
    ∃ (i : Item) (variants : List Variant) (library : Path) (p : Program),
      Item.read ts = .ok i ∧ i.body = .enum variants ∧ i.parameters = [] ∧
      libraryOf i.attributes = .ok library ∧ Program.read? library out = some p ∧
      p.NamedAfter i.name variants := by
  unfold expand at h
  cases hread : Item.read ts with
  | error fault =>
    rw [hread] at h
    cases h
  | ok i =>
    rw [hread] at h
    obtain ⟨d, s, library, hd, hlibrary, ht, rfl⟩ := Item.exists_of_expand h
    obtain ⟨variants, visibility, hbody, hparameters, rfl⟩ := Item.eq_synthesize_of_transform hd ht
    have hnamed := Item.wellNamed_of_read hread
    exact ⟨i, variants, library, _, rfl, hbody, hparameters, hlibrary,
      Synthesis.read?_tokens library _,
      namedAfter_program hnamed.name (hnamed.variants variants hbody) visibility⟩

/-- An identifier, raw or not, that is given by its name; nothing if there is none of that name. -/
def Token.spelled (name : String) (raw : Bool := false) : List (Token Unit) :=
  ((Ident.ofName? raw name).map named).getD []

/-- An enum whose names are raw, keywords and other words, and not all ASCII. -/
def Item.rawSample : Tokens :=
  Token.mapAll (fun _ => .callSite) <|
    spelled "enum" ++ spelled "type" true ++ braced (commaSeparated [
      spelled "fn" true ++ braced (commaSeparated [
        spelled "match" true ++ operator [':'] ++ spelled "u8",
        spelled "é" ++ operator [':'] ++ spelled "u8"]),
      spelled "plain" true ++ parenthesized (spelled "u8"),
      spelled "Unit"])

/-- This enum expands, and its discriminator has a plain name although its own is raw. -/
theorem exists_namedAfter_rawSample :
    ∃ out library p, expand Item.rawSample = .ok out ∧ Program.read? library out = some p ∧
      p.caseType.text = "typeCase" := by
  obtain ⟨out, hout⟩ : ∃ out, expand Item.rawSample = .ok out := by
    cases h : expand Item.rawSample with
    | ok out => exact ⟨out, rfl⟩
    | error e =>
      have hsome : (expand Item.rawSample).toOption.isSome = true := by decide +kernel
      rw [h] at hsome
      cases hsome
  obtain ⟨i, variants, library, p, hread, -, -, -, hprogram, hnamed⟩ :=
    exists_namedAfter_of_expand hout
  have hname : i.name.name = "type" := by
    have hsome : (Item.read Item.rawSample).toOption.map (·.name.name) = some "type" := by
      decide +kernel
    rw [hread] at hsome
    exact Option.some.inj hsome
  refine ⟨out, library, p, hout, hprogram, ?_⟩
  rw [hnamed.typeText, Ident.stripRaw_text, hname]
  rfl

end EnumCases
