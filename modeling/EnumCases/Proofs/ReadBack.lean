import EnumCases.Code.Tokens
import EnumCases.Proofs.Escape
import EnumCases.Proofs.Outcome
import EnumCases.Proofs.Parsing
import EnumCases.Proofs.Rendering

/-!
# Rendered discriminators are read back

The discriminator is rendered as an item, whose text is lexed to the same tokens with places.
Reading these goes along the item: two attributes, neither of which is a helper
(`AttributeFirst.of_erase`), the visibility (`Visibility.exists_reads`), the name, and the variants
between commas (`Listed.exists_reads`). The names may come from arbitrary texts, since an escaped
name is one identifier and never a keyword (`Ident.isKeyword_escape`).

Main statement: the discriminator is read back as an enum of the rendered names, all of whose cases
are without values, so that it cannot be expanded itself (`read_discriminator`).
-/

namespace EnumCases

open Grammar Token Code

/-! ### Tokens at places -/

namespace Token

variable {ts : List (Token α)} {us : List (Token Unit)}

/-- The first token without its label is the first of the tokens without labels. -/
theorem exists_of_erase_eq_cons {u : Token Unit} (h : erase ts = u :: us) :
    ∃ t rest, ts = t :: rest ∧ t.map (fun _ => ()) = u ∧ erase rest = us := by
  cases ts with
  | nil => cases h
  | cons t rest =>
    obtain ⟨ht, hrest⟩ := List.cons.inj h
    exact ⟨t, rest, rfl, ht, hrest⟩

/-- An identifier comes first. -/
theorem exists_of_erase_eq_ident {i : Ident} (h : erase ts = .ident i () :: us) :
    ∃ a rest, ts = .ident i a :: rest ∧ erase rest = us := by
  obtain ⟨t, rest, rfl, ht, hrest⟩ := exists_of_erase_eq_cons h
  cases t <;> cases ht
  exact ⟨_, rest, rfl, hrest⟩

/-- A mark comes first. -/
theorem exists_of_erase_eq_punct {mark : Char} {spacing : Spacing}
    (h : erase ts = .punct mark spacing () :: us) :
    ∃ a rest, ts = .punct mark spacing a :: rest ∧ erase rest = us := by
  obtain ⟨t, rest, rfl, ht, hrest⟩ := exists_of_erase_eq_cons h
  cases t <;> cases ht
  exact ⟨_, rest, rfl, hrest⟩

/-- A literal comes first. -/
theorem exists_of_erase_eq_literal {l : Literal} (h : erase ts = .literal l () :: us) :
    ∃ a rest, ts = .literal l a :: rest ∧ erase rest = us := by
  obtain ⟨t, rest, rfl, ht, hrest⟩ := exists_of_erase_eq_cons h
  cases t <;> cases ht
  exact ⟨_, rest, rfl, hrest⟩

/-- A group comes first. -/
theorem exists_of_erase_eq_group {d : Delimiter} {body : List (Token Unit)}
    (h : erase ts = .group d body () :: us) :
    ∃ inner a rest, ts = .group d inner a :: rest ∧ erase inner = body ∧ erase rest = us := by
  obtain ⟨t, rest, rfl, ht, hrest⟩ := exists_of_erase_eq_cons h
  cases t <;> cases ht
  exact ⟨_, _, rest, rfl, rfl, hrest⟩

/-- No tokens are none without their labels. -/
theorem eq_nil_of_erase (h : erase ts = []) : ts = [] := by
  cases ts with
  | nil => rfl
  | cons t rest => cases h

end Token

namespace Grammar

/-- Names with commas between them, at whatever places. -/
inductive Listed : List Ident → Tokens → Prop where
  /-- No names. -/
  | nil : Listed [] []
  /-- One name. -/
  | single (i : Ident) (span : Span) : Listed [i] [.ident i span]
  /-- A name and a comma before further names. -/
  | cons (i : Ident) (span comma : Span) {j : Ident} {is : List Ident} {ts : Tokens}
      (rest : Listed (j :: is) ts) :
    Listed (i :: j :: is) (.ident i span :: .punct ',' .alone comma :: ts)

/-- Names that are written with commas between them, and have got their places. -/
theorem Listed.of_erase : ∀ {is : List Ident} {ts : Tokens},
    erase ts = commaSeparated (is.map named) → Listed is ts
  | [], ts, h => by
    obtain rfl := eq_nil_of_erase h
    exact .nil
  | [i], ts, h => by
    obtain ⟨span, rest, rfl, hrest⟩ := exists_of_erase_eq_ident h
    obtain rfl := eq_nil_of_erase hrest
    exact .single i span
  | i :: j :: is, ts, h => by
    rw [List.map_cons, List.map_cons, commaSeparated, List.intercalate_cons_cons,
      ← List.map_cons] at h
    obtain ⟨span, _, rfl, hafter⟩ := exists_of_erase_eq_ident h
    obtain ⟨place, rest, rfl, hrest⟩ := exists_of_erase_eq_punct hafter
    exact .cons i span place (Listed.of_erase hrest)

/-- There are at least as many tokens as names. -/
theorem Listed.length_le {is : List Ident} {ts : Tokens} (h : Listed is ts) :
    is.length ≤ ts.length := by
  induction h with
  | nil => exact Nat.le_refl _
  | single => exact Nat.le_refl _
  | cons _ _ _ _ ih =>
    simp only [List.length_cons] at *
    omega

/-- A variant that is just a name. -/
def unitVariant (i : Ident) : Variant := ⟨[], i, .unit, none⟩

/-- So many rounds read a variant for each name. -/
theorem Listed.rounds (read : Reader) {is : List Ident} {ts : Tokens} (h : Listed is ts)
    (hkeyword : ∀ i ∈ is, i.isKeyword = false) {count : Nat} (hcount : is.length ≤ count) :
    ∃ items, Reads (separated.rounds List.isEmpty (variant read) (symbol ",") count) ts items [] ∧
      items.map (·.1.1) = is.map unitVariant := by
  induction h generalizing count with
  | nil =>
    cases count with
    | zero => exact ⟨[], .pure _ _, rfl⟩
    | succ count => exact ⟨[], .peek_bind rfl (.pure _ _), rfl⟩
  | single i span =>
    obtain ⟨count, rfl⟩ : ∃ n, count = n + 1 := ⟨count - 1, by simp at hcount; omega⟩
    have hvariant := Reads.variant read (hkeyword i (by simp)) span [] rfl rfl rfl
    exact ⟨_, .peek_bind rfl (.bind hvariant (.peek_bind rfl (.pure _ _))), rfl⟩
  | @cons i span comma j is ts rest ih =>
    obtain ⟨count, rfl⟩ : ∃ n, count = n + 1 := ⟨count - 1, by simp at hcount; omega⟩
    obtain ⟨items, hitems, hmap⟩ := ih (fun k hk => hkeyword k (by simp [hk]))
      (Nat.le_of_succ_le_succ hcount)
    have hvariant := Reads.variant read (hkeyword i (by simp)) span (.punct ',' .alone comma :: ts)
      rfl rfl rfl
    refine ⟨_ :: items, .peek_bind rfl (.bind hvariant (.peek_bind rfl
      (.bind (.symbol rfl) (.bind hitems (.pure _ _))))), ?_⟩
    rw [List.map_cons, List.map_cons, hmap]
    rfl

/-- Names with commas between them are read as variants. -/
theorem Listed.exists_reads (read : Reader) {is : List Ident} {ts : Tokens} (h : Listed is ts)
    (hkeyword : ∀ i ∈ is, i.isKeyword = false) :
    ∃ tokens, Reads (terminatedWith (variant read)) ts (is.map unitVariant, tokens) [] := by
  obtain ⟨items, hitems, hmap⟩ := h.rounds read hkeyword (Nat.le_succ_of_le h.length_le)
  have hseparated : Reads (separated List.isEmpty (variant read) (symbol ",")) ts items [] := by
    -- The number of rounds is taken from the tokens at the cursor.
    refine .get fun c hc => ?_
    rw [hc]
    exact hitems
  rw [← hmap]
  exact ⟨_, .bind hseparated (.pure _ _)⟩

end Grammar

/-! ### The discriminator -/

/-- The visibility of an item that is rendered with a visibility. -/
def Visibility.written : Visibility → ItemVisibility
  | .inherited => .inherited
  | .exported => .exported

/-- The visibility of an item is read back, and is no attribute. -/
theorem Visibility.exists_reads {v : Visibility} {ts : Tokens} {us : List (Token Unit)}
    (h : erase ts = v.tokens ++ Token.word "enum" ++ us) :
    atSymbol "#" ts = false ∧ ∃ tokens keyword rest, erase rest = us ∧
      Reads visibility ts (v.written, tokens) (.ident (.plain "enum") keyword :: rest) := by
  cases v with
  | inherited =>
    obtain ⟨keyword, rest, rfl, hrest⟩ := exists_of_erase_eq_ident h
    exact ⟨rfl, [], keyword, rest, hrest, .peek_bind rfl (.pure _ _)⟩
  | exported =>
    obtain ⟨place, _, rfl, hafter⟩ := exists_of_erase_eq_ident h
    obtain ⟨keyword, rest, rfl, hrest⟩ := exists_of_erase_eq_ident hafter
    refine ⟨rfl, [.ident (.plain "pub") place], keyword, rest, hrest,
      .peek_bind rfl (.bind (.word rfl) ?_)⟩
    -- The keyword is no group, so the visibility is not restricted.
    refine .get fun c hc => ?_
    rw [hc]
    exact .pure _ _

/-- Tokens start with an attribute, a helper or not, and go on with the tokens `us`. Whatever
attributes are read from these are read after the first one. -/
def Grammar.AttributeFirst (read : Reader) (helper : Bool) (ts : Tokens) (us : List (Token Unit)) :
    Prop :=
  ∃ a rest, erase rest = us ∧ a.isHelper = helper ∧ ∀ {as : List Attribute} {after : Tokens},
    ReadsEach (atSymbol "#") (anAttribute read) rest as after →
      ReadsEach (atSymbol "#") (anAttribute read) ts (a :: as) after

/-- An attribute with a word for its path is read, and is a helper just if that word says so. -/
theorem Grammar.AttributeFirst.of_erase (read : Reader) {ts : Tokens} {i : Ident}
    {body us : List (Token Unit)} (h : erase ts = outerAttribute (named i ++ body) ++ us)
    (hi : i.isKeyword = false) (hbody : ∀ inner : Tokens, erase inner = body →
      atSymbol "::" inner = false ∧ ∃ tail, Reads (entryTail read) inner tail []) :
    AttributeFirst read (i.isPlain "case_detection") ts us := by
  obtain ⟨mark, _, rfl, hafter⟩ := exists_of_erase_eq_punct h
  obtain ⟨_, span, rest, rfl, hentry, hrest⟩ := exists_of_erase_eq_group hafter
  obtain ⟨place, inner, rfl, hinner⟩ := exists_of_erase_eq_ident hentry
  obtain ⟨hcolons, tail, htail⟩ := hbody inner hinner
  have hattribute := Reads.anAttribute (Reads.entry hi place hcolons htail) mark span rest
  -- The mark and the brackets are taken, so there are fewer tokens left.
  refine ⟨_, rest, hrest, rfl, fun hmore => .step rfl hattribute ?_ hmore⟩
  rw [List.length_cons, List.length_cons]
  omega

namespace Code

/-- A line of documentation is read as an attribute. -/
theorem attributeFirst_documentation (read : Reader) {l : Literal} {ts : Tokens}
    {us : List (Token Unit)} (h : erase ts = documentation l ++ us) :
    AttributeFirst read false ts us := by
  rw [documentation, List.append_assoc] at h
  refine AttributeFirst.of_erase read h (by decide) fun inner hinner => ?_
  obtain ⟨equals, _, rfl, hafter⟩ := exists_of_erase_eq_punct hinner
  obtain ⟨span, _, rfl, hend⟩ := exists_of_erase_eq_literal hafter
  obtain rfl := eq_nil_of_erase hend
  exact ⟨rfl, _, .entryTail_value l equals span⟩

/-- A list of traits to derive is read as an attribute. -/
theorem attributeFirst_derive (read : Reader) {traits us : List (Token Unit)} {ts : Tokens}
    (h : erase ts = outerAttribute (Token.word "derive" ++ parenthesized traits) ++ us) :
    AttributeFirst read false ts us := by
  refine AttributeFirst.of_erase read h (by decide) fun inner hinner => ?_
  obtain ⟨body, span, _, rfl, -, hend⟩ := exists_of_erase_eq_group hinner
  obtain rfl := eq_nil_of_erase hend
  exact ⟨rfl, _, .entryTail_list .parenthesis body span⟩

/-- The tokens of a discriminator that have got places are read as an item of the same name,
visibility and variants, without helper attributes. -/
theorem CaseType.exists_read {c : CaseType} {ts : Tokens} (h : erase ts = c.tokens)
    (hname : c.name.isKeyword = false) (hvariants : ∀ i ∈ c.variants, i.isKeyword = false) :
    ∃ i, Item.read ts = .ok i ∧ i.name = c.name ∧ i.visibility = c.visibility.written ∧
      i.parameters = [] ∧ i.body = .enum (c.variants.map unitVariant) ∧
      ∀ a ∈ i.attributes, a.isHelper = false := by
  simp only [CaseType.tokens, List.append_assoc] at h
  obtain ⟨doc, _, hderive, hdoc, hbefore⟩ := attributeFirst_documentation (reader ts) h
  obtain ⟨derive, _, hitem, hhelper, hlast⟩ := attributeFirst_derive (reader ts) hderive
  -- After the attributes come a visibility and the keyword, and then a name and a group in braces.
  rw [← List.append_assoc] at hitem
  obtain ⟨hstop, _, keyword, _, hafter, hvisibility⟩ := Visibility.exists_reads hitem
  obtain ⟨place, _, rfl, hbraced⟩ := exists_of_erase_eq_ident hafter
  obtain ⟨body, span, _, rfl, hbody, hend⟩ := exists_of_erase_eq_group hbraced
  obtain rfl := eq_nil_of_erase hend
  obtain ⟨_, hlist⟩ := (Listed.of_erase hbody).exists_reads (reader ts) hvariants
  have hattributes : Reads (attributes (reader ts)) ts [doc, derive] _ :=
    .repeatWhile (hbefore (hlast (.stop hstop)))
  refine ⟨_, (Reads.item hattributes hvisibility hname hlist).complete .callSite,
    rfl, rfl, rfl, rfl, ?_⟩
  simp [hdoc, hhelper]

/-- A discriminator is rejected: it has no variants, or none with fields. -/
theorem CaseType.expand_eq {c : CaseType} {ts : Tokens} (h : erase ts = c.tokens)
    (hname : c.name.isKeyword = false) (hvariants : ∀ i ∈ c.variants, i.isKeyword = false) :
    expand ts =
      .error (.rejected (if c.variants = [] then .emptyEnum else .noAssociatedValues)) := by
  obtain ⟨i, hread, -, -, hparameters, hbody, hhelpers⟩ := c.exists_read h hname hvariants
  have hgood := helperFault?_eq_none hhelpers
  apply errorOf?_eq_some_iff.mp
  split
  case isTrue hnil =>
    rw [hnil] at hbody
    exact (Ends.emptyEnum hread hparameters hgood hbody).errorOf?_expand
  case isFalse hne =>
    have hunit : ∀ v ∈ c.variants.map unitVariant, v.fields.count = 0 := by
      intro v hv
      obtain ⟨i, -, rfl⟩ := List.mem_map.mp hv
      rfl
    refine Ends.errorOf?_expand (.noAssociatedValues hread hparameters hgood hbody ?_ hunit)
    exact mt List.map_eq_nil_iff.mp hne

end Code

/-! ### The part before the `impl` -/

/-- Whether a token is anything but the given word. -/
def Token.isOther (name : String) : Token α → Bool
  | .ident i _ => !i.isPlain name
  | _ => true

/-- The tokens before the first one that is the given word. -/
def Token.before (name : String) (ts : List (Token α)) : List (Token α) :=
  ts.takeWhile (Token.isOther name)

/-- The item of the discriminator is what is rendered before the `impl` of the host. -/
theorem Code.Items.before_impl_tokens {i : Items} (h : i.caseType.name.isKeyword = false)
    (library : Path) : Token.before "impl" (i.tokens library) = i.caseType.tokens := by
  have hname : i.caseType.name.isPlain "impl" = false := isPlain_eq_false h (by decide)
  have hvisibility : i.caseType.visibility.tokens.all (Token.isOther "impl") = true := by
    cases i.caseType.visibility <;> rfl
  have hall : i.caseType.tokens.all (Token.isOther "impl") = true := by
    rw [CaseType.tokens]
    simp only [List.all_append, hvisibility, Bool.and_true, Bool.and_eq_true]
    refine ⟨⟨⟨⟨rfl, rfl⟩, rfl⟩, ?_⟩, rfl⟩
    simp [named, Token.isOther, hname]
  -- The token after these is the word itself.
  rw [Items.tokens, List.append_assoc, List.append_assoc, Token.before,
    List.takeWhile_append_of_pos (List.all_eq_true.mp hall)]
  exact List.append_nil _

/-- A discriminator is lexed to its tokens, at some places. -/
theorem Code.CaseType.exists_lex_print (c : CaseType) :
    ∃ ts, lex (Token.print c.tokens) = .ok ts ∧ erase ts = c.tokens := by
  have hprint := lex_print c.isLegible_tokens
  cases hts : lex (Token.print c.tokens) with
  | error f =>
    rw [hts] at hprint
    cases hprint
  | ok ts =>
    rw [hts] at hprint
    exact ⟨ts, rfl, Except.ok.inj hprint⟩

/-- The discriminator of arbitrary names is read back as an enum of these names, with a case without
values for each of them. It has no cases with values, so it cannot be expanded in turn. -/
theorem read_discriminator (host : String) (cases : List Case) (visibility : Visibility)
    (library : Path) :
    ∃ ts i e,
      lex (Token.print (Token.before "impl" ((synthesize host cases visibility).tokens library))) =
        .ok ts ∧
      Item.read ts = .ok i ∧ i.declaration = .ok (.enum e) ∧
      e.name = stripRaw (Ident.discriminator host discriminatorName).text ∧
      e.modifiers = (if visibility = .exported then [.exported] else []) ∧
      e.existing = [] ∧
      e.cases = cases.map (fun c => .unit (stripRaw (Ident.escape c.id).text)) ∧
      expand ts = .error (.rejected (if cases = [] then .emptyEnum else .noAssociatedValues)) := by
  let c : CaseType := (synthesize host cases visibility).items.caseType
  have hname : c.name.isKeyword = false := Ident.isKeyword_escape _
  have hescape : c.variants = cases.map fun case => Ident.escape case.id := List.map_map
  have hvariants : ∀ i ∈ c.variants, i.isKeyword = false := by
    rw [hescape]
    intro i hi
    obtain ⟨case, -, rfl⟩ := List.mem_map.mp hi
    exact Ident.isKeyword_escape case.id
  obtain ⟨ts, hlex, herase⟩ := c.exists_lex_print
  obtain ⟨i, hread, hi, hvisibility, hparameters, hbody, -⟩ := c.exists_read herase hname hvariants
  refine ⟨ts, i, i.enumDecl (c.variants.map unitVariant), ?_, hread,
    Item.declaration_eq_enumDecl hbody hparameters, ?_, ?_, i.existing_enumDecl _, ?_, ?_⟩
  · rw [Synthesis.tokens, Items.before_impl_tokens hname]
    exact hlex
  · rw [Ident.stripRaw_text]
    exact congrArg Ident.name hi
  · show i.visibility.modifiers = _
    rw [hvisibility]
    cases visibility <;> rfl
  · rw [Item.cases_enumDecl, hescape]
    simp [Ident.stripRaw_text, unitVariant, Variant.case]
  · rw [c.expand_eq herase hname hvariants, hescape]
    simp only [List.map_eq_nil_iff]

end EnumCases
