import EnumCases.Grammar.Item

/-!
# The names that are read

A parser yields a property (`Grammar.Yields`) if what it reads has the property whenever it succeeds.
The property of a parser follows from those of its parts, so it is enough to look at the places where
names are read: `ident` refuses keywords, and only a label may be the wildcard.

Main statement: the name of an item that is read, and those of its variants, are no keywords, and its
labels are none but for the wildcard (`Item.wellNamed_of_read`).
-/

namespace EnumCases

open Grammar

/-- A label that fields are read with: no keyword but the wildcard. -/
def Ident.IsLabel (i : Ident) : Prop := i.isKeyword = false ∨ i = .wildcard

/-- The labels of fields. -/
def Fields.labels : Fields → List Ident
  | .labelled fields => fields.map Prod.fst
  | _ => []

/-- A variant with the names of one that is read. -/
structure Variant.WellNamed (v : Variant) : Prop where
  /-- The name is no keyword. -/
  name : v.name.isKeyword = false
  /-- The labels are labels. -/
  labels : ∀ label ∈ v.fields.labels, label.IsLabel

/-- An item with the names of one that is read. -/
structure Item.WellNamed (i : Item) : Prop where
  /-- The name is no keyword. -/
  name : i.name.isKeyword = false
  /-- So are those of its variants. -/
  variants : ∀ variants, i.body = .enum variants → ∀ v ∈ variants, v.WellNamed

namespace Grammar

/-- Whatever a parser reads has a property. -/
def Yields (p : Parser α) (post : α → Prop) : Prop := ∀ c a c', p.run c = .ok (a, c') → post a

section

variable {p : Parser α} {f : α → Parser β} {pre : α → Prop} {post : β → Prop}

/-- A sequence succeeds only if its parts do, the second from where the first stops. -/
theorem exists_of_run_bind {c c' : Cursor} {b : β} (h : (p >>= f).run c = .ok (b, c')) :
    ∃ a c₁, p.run c = .ok (a, c₁) ∧ (f a).run c₁ = .ok (b, c') := by
  rw [StateT.run_bind] at h
  cases hp : p.run c with
  | error fault =>
    rw [hp] at h
    cases h
  | ok r =>
    rw [hp] at h
    exact ⟨r.1, r.2, rfl, h⟩

/-- The second part of a sequence runs from where the first stops. -/
theorem run_bind_of_run {c c₁ : Cursor} {a : α} (h : p.run c = .ok (a, c₁)) :
    (p >>= f).run c = (f a).run c₁ := by
  rw [StateT.run_bind, h]
  rfl

/-- A look ahead whose answer is known leaves the cursor where it is. -/
theorem run_peek_bind {q : Tokens → Bool} {g : Bool → Parser β} {c : Cursor} {answer : Bool}
    (h : q c.rest = answer) : (peek q >>= g).run c = (g answer).run c := by
  subst h
  rfl

/-- A text is read completely if no tokens are left, neither at its end nor in a group. -/
theorem complete_eq_ok_iff {scope : Span} {ts : Tokens} {a : α} :
    complete p scope ts = .ok a ↔
      ∃ c, p.run ⟨ts, scope, none, none⟩ = .ok (a, c) ∧ c.leftOver = none ∧ c.rest = [] := by
  constructor
  · intro h
    cases hrun : p.run ⟨ts, scope, none, none⟩ with
    | error fault =>
      rw [complete, hrun] at h
      cases h
    | ok r =>
      rw [complete, hrun] at h
      simp only [Bind.bind, Except.bind] at h
      split at h
      · cases h
      · cases h
      · rename_i hleft hrest
        obtain rfl := Except.ok.inj h
        exact ⟨r.2, rfl, hleft, hrest⟩
  · rintro ⟨⟨rest, place, within, leftOver⟩, hrun, rfl, rfl⟩
    rw [complete, hrun]
    rfl

/-- What is returned without reading. -/
theorem Yields.pure {b : β} (h : post b) : Yields (Pure.pure b : Parser β) post := by
  intro c a c' hrun
  obtain ⟨rfl, -⟩ := Prod.mk.inj (Except.ok.inj hrun)
  exact h

/-- What a sequence yields follows from what its first part does. -/
theorem Yields.bind (hp : Yields p pre) (hf : ∀ a, pre a → Yields (f a) post) :
    Yields (p >>= f) post := by
  intro c b c' hrun
  obtain ⟨a, c₁, hfirst, hsecond⟩ := exists_of_run_bind hrun
  exact hf a (hp c a c₁ hfirst) c₁ b c' hsecond

/-- What a sequence yields may not depend on its first part. -/
theorem Yields.after (hf : ∀ a, Yields (f a) post) : Yields (p >>= f) post := by
  intro c b c' hrun
  obtain ⟨a, c₁, -, hsecond⟩ := exists_of_run_bind hrun
  exact hf a c₁ b c' hsecond

/-- Nothing is read where a fault is reported. -/
theorem Yields.refuse (cause : Cause) (span : Span) : Yields (refuse cause span) post := by
  intro c b c' hrun
  cases hrun

/-- Nothing is read where something else is wanted. -/
theorem Yields.want (wanted : List Terminal) : Yields (want wanted) post := by
  unfold Grammar.want
  refine .after fun ended => ?_
  cases ended <;> exact .after fun _ => .refuse _ _

/-- Where an operator of one mark comes next, so does the mark. -/
theorem exists_of_atSymbol {text : String} {mark : Char} (htext : text.toList = [mark])
    {ts : Tokens} (h : atSymbol text ts = true) :
    ∃ spacing span rest, ts = .punct mark spacing span :: rest := by
  rw [atSymbol, htext] at h
  match ts, h with
  | .punct mark' spacing span :: rest, hmark =>
    obtain rfl : mark' = mark := of_decide_eq_true hmark
    exact ⟨spacing, span, rest, rfl⟩

/-- An operator of one mark is read only where the mark comes next. -/
theorem exists_of_run_symbol {text : String} {mark : Char} (htext : text.toList = [mark])
    {c c' : Cursor} {ts : Tokens} (h : (symbol text).run c = .ok (ts, c')) :
    ∃ spacing span rest, c.rest = .punct mark spacing span :: rest ∧
      ts = [.punct mark .alone span] ∧ c' = { c with rest } := by
  obtain ⟨c₁, c₂, hget, hrun⟩ := exists_of_run_bind h
  obtain ⟨rfl, rfl⟩ := Prod.mk.inj (Except.ok.inj hget)
  by_cases hnext : atSymbol text c.rest = true
  · obtain ⟨spacing, span, rest, hrest⟩ := exists_of_atSymbol htext hnext
    have hlength : text.length = 1 := by rw [← String.length_toList, htext]; rfl
    rw [if_pos hnext, hlength, hrest] at hrun
    obtain ⟨_, c₂, hadvance, hpure⟩ := exists_of_run_bind hrun
    obtain ⟨-, rfl⟩ := Prod.mk.inj (Except.ok.inj hadvance)
    obtain ⟨rfl, rfl⟩ := Prod.mk.inj (Except.ok.inj hpure)
    exact ⟨spacing, span, rest, hrest, rfl, by simp only [hrest, List.drop_one, List.tail_cons]⟩
  · -- Otherwise a fault is reported.
    rw [if_neg hnext] at hrun
    have hrefuse : Yields (refuseHere (.unexpected [.symbol text]) : Parser Tokens)
        fun _ => False := .after fun _ => .refuse _ _
    exact (hrefuse _ _ _ hrun).elim

/-- An identifier that is read is no keyword. -/
theorem yields_ident : Yields ident fun i => i.1.isKeyword = false := by
  refine .after fun c => ?_
  split
  · split
    · exact .refuse _ _
    · rename_i hkeyword
      exact .after fun _ => .pure (Bool.not_eq_true _ ▸ hkeyword)
  · exact .want _

/-- Where an underscore comes next, the wildcard is read as an identifier. -/
theorem eq_wildcard_of_run_anyIdent {c c' : Cursor} {i : Ident × Span}
    (hnext : atWord "_" c.rest = true) (hrun : anyIdent.run c = .ok (i, c')) : i.1 = .wildcard := by
  obtain ⟨c₁, c₂, hget, hrest⟩ := exists_of_run_bind hrun
  obtain ⟨rfl, rfl⟩ := Prod.mk.inj (Except.ok.inj hget)
  unfold atWord at hnext
  split at hnext
  · -- The identifier that was looked at is the one that is read.
    rename_i j span ts heq
    rw [heq] at hrest
    obtain ⟨_, c₃, -, hpure⟩ := exists_of_run_bind hrest
    obtain ⟨rfl, -⟩ := Prod.mk.inj (Except.ok.inj hpure)
    obtain ⟨raw, name, word, rawable⟩ := j
    obtain ⟨rfl, rfl⟩ : raw = false ∧ name = "_" := by simpa [Ident.isPlain] using hnext
    rfl
  · cases hnext

/-- The label of a field is no keyword, unless an underscore comes next and it is the wildcard. -/
theorem yields_label {k : Bool → Ident × Span → Parser β}
    (hk : ∀ unnamed label, label.1.IsLabel → Yields (k unnamed label) post) :
    Yields (do
      let unnamed ← peek (atWord "_")
      if unnamed then anyIdent >>= k unnamed else ident >>= k unnamed) post := by
  intro c b c' hrun
  obtain ⟨unnamed, c₁, hpeek, hrest⟩ := exists_of_run_bind hrun
  -- Looking ahead does not move the cursor, so the label is read where the look was taken.
  obtain ⟨rfl, rfl⟩ := Prod.mk.inj (Except.ok.inj hpeek)
  cases hnext : atWord "_" c.rest with
  | true =>
    rw [hnext] at hrest
    obtain ⟨label, c₂, hlabel, hrest⟩ := exists_of_run_bind hrest
    exact hk true label (.inr (eq_wildcard_of_run_anyIdent hnext hlabel)) c₂ b c' hrest
  | false =>
    rw [hnext] at hrest
    obtain ⟨label, c₂, hlabel, hrest⟩ := exists_of_run_bind hrest
    exact hk false label (.inl (yields_ident c label c₂ hlabel)) c₂ b c' hrest

/-- All items between separators have the property of each. -/
theorem Yields.separated {stop : Tokens → Bool} {separator : Parser Tokens} (hp : Yields p pre) :
    Yields (separated stop p separator) fun items => ∀ a ∈ items, pre a.1 := by
  have hrounds : ∀ n, Yields (separated.rounds stop p separator n) fun items =>
      ∀ a ∈ items, pre a.1 := by
    intro n
    induction n with
    | zero => exact .pure (by simp)
    | succ n ih =>
      unfold separated.rounds
      refine .after fun stopped => ?_
      split
      · exact .pure (by simp)
      refine .bind hp fun a ha => .after fun last => ?_
      split
      · exact .pure (by simpa using ha)
      refine .after fun between => .bind ih fun items hitems => .pure ?_
      simpa [ha] using hitems
  exact .after fun c => hrounds _

/-- All items of a repetition have the property of each. -/
theorem Yields.repeatWhile {ahead : Tokens → Bool} (hp : Yields p pre) :
    Yields (repeatWhile ahead p) fun as => ∀ a ∈ as, pre a := by
  have hrounds : ∀ n, Yields (repeatWhile.rounds ahead p n) fun as => ∀ a ∈ as, pre a := by
    intro n
    induction n with
    | zero => exact .pure (by simp)
    | succ n ih =>
      refine .after fun found => ?_
      split
      · refine .bind hp fun a ha => .bind ih fun as has => .pure ?_
        simpa [ha] using has
      · exact .pure (by simp)
  exact .after fun c => hrounds _

/-- A parser that is run on other tokens reads there what it reads anywhere. -/
theorem Yields.run (hp : Yields p pre) (c : Cursor) :
    Yields (liftM (p.run c) : Parser (α × Cursor)) fun r => pre r.1 := by
  intro c₀ r c' hrun
  cases h : p.run c with
  | error fault =>
    rw [h] at hrun
    cases hrun
  | ok s =>
    rw [h] at hrun
    obtain ⟨rfl, -⟩ := Prod.mk.inj (Except.ok.inj hrun)
    exact hp c s.1 s.2 h

/-- What is read inside a group has the property of what is read. -/
theorem Yields.inside {d : Delimiter} (hp : Yields p pre) :
    Yields (inside d p) fun r => pre r.1 := by
  unfold Grammar.inside insideThen
  refine .after fun c => ?_
  -- Noting what is left over in the group changes the cursor, not what was read.
  split
  · split
    · refine .bind (hp.run _) fun r hr => ?_
      exact .after fun _ => .bind (.pure hr) fun b hb => .after fun _ => .pure hb
    · exact .want _
  · exact .want _

/-- All items up to the end of a group have the property of each. -/
theorem Yields.terminatedWith {p : Parser (α × Tokens)} (hp : Yields p fun r => pre r.1) :
    Yields (terminatedWith p) fun r => ∀ a ∈ r.1, pre a := by
  refine .bind hp.separated fun items hitems => .pure ?_
  intro a ha
  obtain ⟨item, hitem, rfl⟩ := List.mem_map.mp ha
  exact hitems item hitem

end

section

variable (read : Reader)

/-- A field in braces has a label. -/
theorem yields_labelledField (inline : Parser Tokens) :
    Yields (labelledFields.labelledField read inline) fun r => r.1.1.IsLabel := by
  unfold labelledFields.labelledField
  refine .after fun outer => .after fun vis => yields_label fun unnamed label hlabel => ?_
  refine .after fun colon => .after fun inlined => ?_
  split
  · exact .after fun type => .pure hlabel
  · exact .after fun type => .pure hlabel

/-- The labels of fields in braces are labels. -/
theorem yields_labelledFields :
    Yields (labelledFields read) fun r => ∀ label ∈ r.1.labels, label.IsLabel := by
  refine .after fun c => ?_
  -- Fields nested in the type of another are read as tokens only, so no induction is needed.
  generalize Token.size (c.rest.take 1) = depth
  cases depth with
  | zero => exact .want _
  | succ depth =>
    have hfields (inline : Parser Tokens) :
        Yields (terminatedWith (labelledFields.labelledField read inline)) fun r =>
          ∀ field ∈ r.1, field.1.IsLabel :=
      .terminatedWith (yields_labelledField read inline)
    unfold labelledFields.nested
    refine .bind (hfields _).inside fun r hr => .pure ?_
    intro label hlabel
    obtain ⟨field, hfield, rfl⟩ := List.mem_map.mp hlabel
    exact hr field hfield

/-- Fields in parentheses have no labels. -/
theorem yields_positionalFields :
    Yields (positionalFields read) fun r => ∀ label ∈ r.1.labels, label.IsLabel :=
  .after fun _ => .pure (by simp [Fields.labels])

/-- A variant that is read has a name that is no keyword, and labels. -/
theorem yields_variant : Yields (variant read) fun r => r.1.WellNamed := by
  unfold variant
  refine .after fun outer => .after fun _ => .bind yields_ident fun name hname => ?_
  -- Whatever fields follow, all that is left is a discriminant.
  have hrest : ∀ (fields : Fields) (head : Tokens), (∀ label ∈ fields.labels, label.IsLabel) →
      Yields (α := Variant × Tokens) (do
        if ← peek (atSymbol "=") then
          let equals ← symbol "="
          let value ← read.value
          return (⟨outer, name.1, fields, some value⟩, head ++ equals ++ value)
        return (⟨outer, name.1, fields, none⟩, head)) fun r => r.1.WellNamed := by
    intro fields head hfields
    refine .after fun equals => ?_
    split
    · exact .after fun _ => .after fun _ => .pure ⟨hname, hfields⟩
    · exact .pure ⟨hname, hfields⟩
  have hunit : Yields (Pure.pure (Fields.unit, []) : Parser (Fields × Tokens)) fun r =>
      ∀ label ∈ r.1.labels, label.IsLabel := .pure (by simp [Fields.labels])
  refine .after fun braces => .after fun parentheses => ?_
  split
  · exact .bind (yields_labelledFields read) fun r hr => hrest r.1 _ hr
  · split
    · exact .bind (yields_positionalFields read) fun r hr => hrest r.1 _ hr
    · exact .bind hunit fun r hr => hrest r.1 _ hr

/-- So have all variants in braces. -/
theorem yields_variants : Yields (variants read) fun r => ∀ v ∈ r.1, v.WellNamed := by
  have hvariants : Yields (terminatedWith (variant read)) fun r => ∀ v ∈ r.1, v.WellNamed :=
    .terminatedWith (yields_variant read)
  exact .bind hvariants.inside fun r hr => .pure hr

/-- An item that is read has a name that is no keyword, and so have its variants. -/
theorem yields_item : Yields (item read) Item.WellNamed := by
  unfold item
  refine .after fun outer => .after fun vis => .after fun isStruct => ?_
  split
  · refine .after fun _ => .bind yields_ident fun name hname => ?_
    exact .after fun _ => .after fun _ => .pure ⟨hname, fun _ h => nomatch h⟩
  refine .after fun isEnum => ?_
  split
  · refine .after fun _ => .bind yields_ident fun name hname => ?_
    refine .after fun _ => .after fun _ => .bind (yields_variants read) fun r hr => .pure ⟨hname, ?_⟩
    intro variants hbody
    cases hbody
    exact hr
  refine .after fun isUnion => ?_
  split
  · refine .after fun _ => .bind yields_ident fun name hname => ?_
    exact .after fun _ => .after fun _ => .after fun _ => .pure ⟨hname, fun _ h => nomatch h⟩
  · exact .want _

end

/-- What a complete text is read as was read by the parser. -/
theorem Yields.complete {p : Parser α} {post : α → Prop} (hp : Yields p post) {scope : Span}
    {ts : Tokens} {a : α} (h : complete p scope ts = .ok a) : post a := by
  obtain ⟨c, hrun, -⟩ := complete_eq_ok_iff.mp h
  exact hp _ a c hrun

end Grammar

/-- An item that is read from tokens has a name that is no keyword, and so have its variants. -/
theorem Item.wellNamed_of_read {ts : Tokens} {i : Item} (h : Item.read ts = .ok i) : i.WellNamed :=
  (yields_item (reader ts)).complete h

end EnumCases
