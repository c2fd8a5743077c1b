import EnumCases.Grammar.Item

/-!
# What a parser reads

A parser reads a value from tokens if it succeeds on them wherever they stand, leaves the tokens
after them, and leaves nothing over in a group (`Grammar.Reads`). What a sequence, a group or a
repetition reads follows from what its parts read; that of single tokens follows from what comes
next. None of the statements here mentions the fuel of the grammar, since nothing in them is a type,
a pattern or an expression.
-/

namespace EnumCases.Grammar

/-- A parser reads a value from the tokens `before` and leaves the tokens `after`. -/
def Reads (p : Parser α) (before : Tokens) (a : α) (after : Tokens) : Prop :=
  ∀ c : Cursor, c.rest = before → p.run c = .ok (a, { c with rest := after })

section

variable {p item : Parser α} {f : α → Parser β} {a : α} {b : β} {before between after : Tokens}

/-- What is returned without reading. -/
theorem Reads.pure (a : α) (ts : Tokens) : Reads (Pure.pure a : Parser α) ts a ts := by
  rintro c rfl
  rfl

/-- The second part of a sequence reads on where the first stops. -/
theorem Reads.bind (hp : Reads p before a between) (hf : Reads (f a) between b after) :
    Reads (p >>= f) before b after := by
  intro c hc
  rw [StateT.run_bind, hp c hc]
  exact hf _ rfl

/-- A parser may look at its cursor. -/
theorem Reads.get {g : Cursor → Parser β} (h : ∀ c, c.rest = before → Reads (g c) before b after) :
    Reads (MonadState.get >>= g) before b after := by
  intro c hc
  exact h c hc c hc

/-- Looking ahead takes no tokens. -/
theorem Reads.peek (q : Tokens → Bool) (ts : Tokens) : Reads (peek q) ts (q ts) ts := by
  rintro c rfl
  rfl

/-- Tokens are taken from the front. -/
theorem Reads.advance (count : Nat) (ts : Tokens) :
    Reads (advance count) ts () (ts.drop count) := by
  rintro c rfl
  rfl

/-- What follows a look ahead whose answer is known. -/
theorem Reads.peek_bind {g : Bool → Parser β} {q : Tokens → Bool} {answer : Bool}
    (hq : q before = answer) (h : Reads (g answer) before b after) :
    Reads (Grammar.peek q >>= g) before b after := by
  subst hq
  exact .bind (.peek q before) h

/-! ### Single tokens -/

/-- An operator that comes next. -/
theorem Reads.symbol {text : String} {ts : Tokens} (h : atSymbol text ts = true) :
    Reads (symbol text) ts (marks text.length ts) (ts.drop text.length) := by
  refine .get fun c hc => ?_
  rw [hc, if_pos h]
  exact .bind (.advance _ _) (.pure _ _)

/-- A keyword that comes next. -/
theorem Reads.word {name : String} {ts : Tokens} (h : atWord name ts = true) :
    Reads (word name) ts (ts.take 1) (ts.drop 1) := by
  refine .get fun c hc => ?_
  rw [hc, if_pos h]
  exact .bind (.advance _ _) (.pure _ _)

/-- An identifier or a keyword that comes next. -/
theorem Reads.anyIdent (i : Ident) (span : Span) (ts : Tokens) :
    Reads anyIdent (.ident i span :: ts) (i, span) ts := by
  refine .get fun c hc => ?_
  rw [hc]
  exact .bind (.advance 1 _) (.pure _ _)

/-- An identifier that comes next and is no keyword. -/
theorem Reads.ident {i : Ident} (h : i.isKeyword = false) (span : Span) (ts : Tokens) :
    Reads ident (.ident i span :: ts) (i, span) ts := by
  refine .get fun c hc => ?_
  rw [hc]
  simp only [h, Bool.false_eq_true, if_false]
  exact .bind (.advance 1 _) (.pure _ _)

/-- An operator that may be missing, and is. -/
theorem Reads.optionalSymbol {text : String} {ts : Tokens} (h : atSymbol text ts = false) :
    Reads (optionalSymbol text) ts [] ts :=
  .peek_bind h (.pure _ _)

/-! ### Groups and repetitions -/

/-- What is read from the whole inside of a group. -/
theorem Reads.inside {body : Tokens} (h : Reads item body a []) (d : Delimiter) (span : Span)
    (ts : Tokens) : Reads (inside d item) (.group d body span :: ts) (a, span) ts := by
  rintro ⟨rest, scope, within, leftOver⟩ rfl
  have hinner : item.run ⟨body, span.tail, some d, leftOver⟩ =
      .ok (a, ⟨[], span.tail, some d, leftOver⟩) := h _ rfl
  have hrun : (Grammar.inside d item).run ⟨.group d body span :: ts, scope, within, leftOver⟩ =
      (fun r => ((r.1, span), ⟨ts, scope, within,
        r.2.leftOver.or (r.2.rest.head?.map fun t => ⟨t.label, some d⟩)⟩)) <$>
          item.run ⟨body, span.tail, some d, leftOver⟩ := by
    simp [Grammar.inside, insideThen]
  -- The inside is read to its end, so nothing is noted as left over.
  have hnone : leftOver.or none = leftOver := Option.or_none
  rw [hrun, hinner]
  exact congrArg (fun left => Except.ok ((a, span), Cursor.mk ts scope within left)) hnone

/-- Items that are read one after the other while the tokens ahead are of some kind. -/
inductive ReadsEach (q : Tokens → Bool) (item : Parser α) : Tokens → List α → Tokens → Prop where
  /-- Other tokens come next. -/
  | stop {ts : Tokens} (h : q ts = false) : ReadsEach q item ts [] ts
  /-- One more item is read, which takes a token at least. -/
  | step {before between after : Tokens} {a : α} {as : List α} (h : q before = true)
      (read : Reads item before a between) (shorter : between.length < before.length)
      (rest : ReadsEach q item between as after) : ReadsEach q item before (a :: as) after

/-- There are at least as many tokens as items. -/
theorem ReadsEach.length_le {q : Tokens → Bool} {as : List α}
    (h : ReadsEach q item before as after) : as.length ≤ before.length := by
  induction h with
  | stop => exact Nat.zero_le _
  | step h read shorter rest ih =>
    rw [List.length_cons]
    omega

/-- So many rounds read all items. -/
theorem ReadsEach.rounds {q : Tokens → Bool} {as : List α} (h : ReadsEach q item before as after)
    {count : Nat} (hcount : as.length ≤ count) :
    Reads (repeatWhile.rounds q item count) before as after := by
  induction h generalizing count with
  | stop h =>
    cases count with
    | zero => exact .pure _ _
    | succ count => exact .peek_bind h (.pure _ _)
  | step h read shorter rest ih =>
    rw [List.length_cons] at hcount
    obtain ⟨count, rfl⟩ : ∃ n, count = n + 1 := ⟨count - 1, by omega⟩
    have hrest := ih (Nat.le_of_succ_le_succ hcount)
    exact .peek_bind h (.bind read (.bind hrest (.pure _ _)))

/-- A repetition reads the items one after the other. -/
theorem Reads.repeatWhile {q : Tokens → Bool} {as : List α} (h : ReadsEach q item before as after) :
    Reads (repeatWhile q item) before as after := by
  refine .get fun c hc => ?_
  rw [hc]
  exact h.rounds h.length_le

/-! ### Whole texts -/

/-- A text that is read to its end is read completely. -/
theorem Reads.complete {ts : Tokens} (h : Reads p ts a []) (scope : Span) :
    complete p scope ts = .ok a := by
  rw [Grammar.complete, h ⟨ts, scope, none, none⟩ rfl]
  rfl

end

section

variable {read : Reader}

/-! ### Attributes -/

/-- A name is none of the keywords. -/
theorem isPlain_eq_false {i : Ident} (h : i.isKeyword = false) {name : String}
    (hname : name ∈ keywords) : i.isPlain name = false := by
  cases hplain : i.isPlain name with
  | false => rfl
  | true =>
    obtain ⟨hraw, rfl⟩ : i.raw = false ∧ i.name = name := by simpa [Ident.isPlain] using hplain
    simp [Ident.isKeyword, hraw, hname] at h

/-- A word that is a whole path. -/
theorem Reads.modulePath {i : Ident} (h : i.isKeyword = false) (span : Span) {ts : Tokens}
    (hts : atSymbol "::" ts = false) :
    Reads modulePath (.ident i span :: ts) ⟨⟨false, [⟨i, none⟩]⟩, [.ident i span]⟩ ts := by
  have hstep : Reads
      (joined "::" (fun ts => !(atIdent ts || atWords moduleWords ts)) Grammar.anyIdent)
      (.ident i span :: ts) [((i, span), [])] ts := by
    have hname : (!(atIdent (.ident i span :: ts) || atWords moduleWords (.ident i span :: ts))) =
        false := by
      simp [atIdent, h]
    have hlast : (!atSymbol "::" ts) = true := by rw [hts]; rfl
    -- There are tokens, so there is a round, and it is the last one.
    refine .get fun c hc => ?_
    rw [hc]
    exact .peek_bind hname (.bind (.anyIdent i span ts) (.peek_bind hlast (.pure _ _)))
  exact .bind (.optionalSymbol rfl) (.bind hstep (.pure _ _))

/-- An entry with a word for its path. -/
theorem Reads.entry {i : Ident} (h : i.isKeyword = false) (span : Span) {ts after : Tokens}
    {tail : EntryTail} (hts : atSymbol "::" ts = false)
    (htail : Reads (entryTail read) ts tail after) :
    Reads (entry read) (.ident i span :: ts)
      ⟨⟨⟨false, [⟨i, none⟩]⟩, [.ident i span]⟩, tail⟩ after := by
  have hword : atWord "unsafe" (.ident i span :: ts) = false := isPlain_eq_false h (by decide)
  exact .peek_bind hword (.bind (.modulePath h span hts) (.bind htail (.pure _ _)))

/-- A group after the path of an entry. -/
theorem Reads.entryTail_list (d : Delimiter) (body : Tokens) (span : Span) :
    Reads (entryTail read) [.group d body span] (.list d body span) [] := by
  refine .get fun c hc => ?_
  rw [hc]
  exact .bind (.advance 1 _) (.pure _ _)

/-- A literal after the path of an entry. -/
theorem Reads.entryTail_value (l : Literal) (equals span : Span) :
    Reads (entryTail read) [.punct '=' .alone equals, .literal l span]
      (.value (equals.through equals) { tokens := [.literal l span], form := .literal l }) [] := by
  have hliteral : Reads Grammar.literal [.literal l span] [.literal l span] [] := by
    refine .get fun c hc => ?_
    rw [hc]
    exact .bind (.advance 1 _) (.pure _ _)
  have hvalue : Reads (entryValue read) [.literal l span]
      { tokens := [.literal l span], form := .literal l } [] :=
    .peek_bind rfl (.bind hliteral (.pure _ _))
  refine .get fun c hc => ?_
  rw [hc]
  exact .bind (.symbol rfl) (.bind hvalue (.pure _ _))

/-- An attribute whose entry is read to the end of the brackets. -/
theorem Reads.anAttribute {body : Tokens} {e : Entry} (h : Reads (Grammar.entry read) body e [])
    (mark span : Span) (ts : Tokens) :
    Reads (anAttribute read) (.punct '#' .alone mark :: .group .bracket body span :: ts)
      ⟨mark.through mark, span, e⟩ ts :=
  .bind (.symbol rfl) (.bind (h.inside .bracket span ts) (.pure _ _))

/-! ### Items -/

/-- A variant that is just a name. -/
theorem Reads.variant (read : Reader) {i : Ident} (h : i.isKeyword = false) (span : Span)
    (ts : Tokens) (hbrace : atGroup .brace ts = false)
    (hparenthesis : atGroup .parenthesis ts = false) (hequals : atSymbol "=" ts = false) :
    Reads (variant read) (.ident i span :: ts) (⟨[], i, .unit, none⟩, [.ident i span]) ts := by
  have hattributes : Reads (attributes read) (.ident i span :: ts) [] (.ident i span :: ts) :=
    .repeatWhile (.stop rfl)
  have hpub : atWord "pub" (.ident i span :: ts) = false := isPlain_eq_false h (by decide)
  have hvisibility :
      Reads visibility (.ident i span :: ts) (.inherited, []) (.ident i span :: ts) :=
    .peek_bind hpub (.pure _ _)
  refine .bind hattributes (.bind hvisibility (.bind (.ident h span ts) ?_))
  -- Neither fields nor a discriminant follow the name.
  refine .peek_bind hbrace (.peek_bind hparenthesis (.bind (.pure _ _) ?_))
  exact .peek_bind hequals (.pure _ _)

/-- An enum without parameters and clauses. -/
theorem Reads.item {ts body : Tokens} {outer : List Attribute} {vis : ItemVisibility × Tokens}
    {between tokens : Tokens} {name : Ident} {keyword place span : Span} {variants : List Variant}
    (hattributes : Reads (attributes read) ts outer between)
    (hvisibility : Reads visibility between vis
      [.ident (.plain "enum") keyword, .ident name place, .group .brace body span])
    (hname : name.isKeyword = false)
    (hvariants : Reads (terminatedWith (Grammar.variant read)) body (variants, tokens) []) :
    Reads (item read) ts ⟨outer, vis.1, name, [], [], .enum variants⟩ [] := by
  have hgenerics : Reads (generics read) [.group .brace body span] {} [.group .brace body span] :=
    .peek_bind rfl (.pure _ _)
  have hclause : Reads (whereClause read) [.group .brace body span] {} [.group .brace body span] :=
    .peek_bind rfl (.pure _ _)
  have hbody : Reads (Grammar.variants read) [.group .brace body span]
      (variants, [.group .brace tokens span]) [] :=
    .bind (hvariants.inside .brace span []) (.pure _ _)
  refine .bind hattributes (.bind hvisibility ?_)
  -- The item is announced by its keyword, and is neither a structure nor a union.
  refine .peek_bind rfl (.peek_bind rfl (.bind (.word rfl) (.bind (.ident hname place _) ?_)))
  exact .bind hgenerics (.bind hclause (.bind hbody (.pure _ _)))

end

end EnumCases.Grammar
