import EnumCases.Proofs.Alike
import EnumCases.Proofs.Settings

/-!
# Paths to the support library in expressions

The path to the support library is read in the style of a type, but stands in an expression: the
function that downcasts is one more segment of it. In an expression generic arguments have to follow
`::` (`Path.IsExpression`), in a type they need not.

The two styles are compared by running their parsers side by side. `Grammar.Follows` says that both
read the same if that is good, and that otherwise the second stops early, where an angle bracket
opens; `follows_segment` is the step and `Follows.rounds` the run. So tokens that are the path of a
type are the path of an expression too just if all arguments follow `::`
(`Path.readExpression_eq_ok_iff`). Arguments in parentheses are never read (`yields_path`).

Main statement: an arm calls by a path of an expression just if the path to the support library is
one, that is if it is the standard path or its text is read as one (`callee_isExpression_iff`).
Some paths are accepted that are none (`exists_callee_angle`).
-/

namespace EnumCases

open Grammar Token Code

/-- Generic arguments in angle brackets. -/
def GenericArguments.IsAngled (a : GenericArguments) : Prop :=
  ∃ inner, a.tokens = operator ['<'] ++ inner ++ operator ['>']

/-- A path as it may stand in a type: its generic arguments are in angle brackets, never in
parentheses. -/
structure Path.IsType (p : Path) : Prop where
  /-- There is a segment. -/
  nonempty : p.segments ≠ []
  /-- All arguments are in angle brackets. -/
  angled : ∀ s ∈ p.segments, ∀ a ∈ s.arguments, a.IsAngled

/-- A segment without generic arguments, or with `::` before them. -/
def Segment.HasTurbofish (s : Segment) : Prop := ∀ a ∈ s.arguments, a.turbofish = true

instance (s : Segment) : Decidable s.HasTurbofish :=
  inferInstanceAs (Decidable (∀ a ∈ s.arguments, a.turbofish = true))

/-- A path as it may stand in an expression: its generic arguments follow `::`. -/
structure Path.IsExpression (p : Path) : Prop extends p.IsType where
  /-- All arguments follow `::`. -/
  turbofish : ∀ s ∈ p.segments, s.HasTurbofish

/-- The path that tokens are in an expression. -/
def Path.readExpression (scope : Span) (ts : Tokens) : Except Fault Path :=
  complete (do return (← path (reader ts) .expression).path) scope ts

/-- Two lists of tokens lose their labels one after the other. -/
theorem Token.erase_append (ts us : List (Token α)) : erase (ts ++ us) = erase ts ++ erase us := by
  induction ts with
  | nil => rfl
  | cons t ts ih => exact congrArg (t.map (fun _ => ()) :: ·) ih

namespace Grammar

/-! ### Two parsers side by side -/

/-- A parser that stops at once where an angle bracket opens. -/
def Halts (q : Parser α) : Prop :=
  ∀ c : Cursor, atSymbol "<" c.rest = true → ∃ a, q.run c = .ok (a, c)

/-- What the first parser reads is read by the second too if it is good, and otherwise the second
stops early, where an angle bracket opens. -/
def Follows (good : α → Prop) (p q : Parser α) : Prop :=
  ∀ c a c', p.run c = .ok (a, c') →
    (good a ∧ q.run c = .ok (a, c')) ∨
    (¬ good a ∧ ∃ b c₁, q.run c = .ok (b, c₁) ∧ atSymbol "<" c₁.rest = true)

section

variable {p q : Parser α} {f g : α → Parser β} {good : α → Prop} {good' : β → Prop}

theorem Halts.pure (a : α) : Halts (Pure.pure a : Parser α) := fun _ _ => ⟨a, rfl⟩

theorem Halts.bind (hp : Halts p) (hf : ∀ a, Halts (f a)) : Halts (p >>= f) := by
  intro c hc
  obtain ⟨a, ha⟩ := hp c hc
  obtain ⟨b, hb⟩ := hf a c hc
  exact ⟨b, by rw [run_bind_of_run ha, hb]⟩

/-- A parser that reads only what is good follows itself. -/
theorem Follows.refl (hp : Yields p good) : Follows good p p :=
  fun c a c' h => .inl ⟨hp c a c' h, h⟩

/-- Parsers that begin alike. -/
theorem Follows.after (hf : ∀ a, Follows good' (f a) (g a)) :
    Follows good' (p >>= f) (p >>= g) := by
  intro c b c' hrun
  obtain ⟨a, c₁, hfirst, hsecond⟩ := exists_of_run_bind hrun
  rw [run_bind_of_run hfirst]
  exact hf a c₁ b c' hsecond

/-- Parsers whose first parts follow one another. -/
theorem Follows.bind (hp : Follows good p q) (hf : ∀ a, good a → Follows good' (f a) (g a))
    (hbad : ∀ a, ¬ good a → Yields (f a) fun b => ¬ good' b) (hg : ∀ a, Halts (g a)) :
    Follows good' (p >>= f) (q >>= g) := by
  intro c b c' hrun
  obtain ⟨a, c₁, hfirst, hsecond⟩ := exists_of_run_bind hrun
  obtain ⟨ha, hq⟩ | ⟨ha, b', c₂, hq, hnext⟩ := hp c a c₁ hfirst
  · rw [run_bind_of_run hq]
    exact hf a ha c₁ b c' hsecond
  · -- The second parser has stopped early, and what comes after it stops there too.
    obtain ⟨b'', hb''⟩ := hg b' c₂ hnext
    exact .inr ⟨hbad a ha c₁ b c' hsecond, b'', c₂, by rw [run_bind_of_run hq, hb''], hnext⟩

/-- What is made of the results does not matter, if it is good just when they are. -/
theorem Follows.map (hp : Follows good p q) (k : α → β) (hk : ∀ a, good a ↔ good' (k a)) :
    Follows good' (p >>= fun a => Pure.pure (k a)) (q >>= fun a => Pure.pure (k a)) :=
  hp.bind (fun a ha => .refl (.pure ((hk a).mp ha))) (fun a ha => .pure (mt (hk a).mpr ha))
    fun a => .pure (k a)

/-- No rounds are made where an angle bracket opens and the rounds look for something else. -/
theorem halts_rounds {ahead : Tokens → Bool}
    (hahead : ∀ ts, atSymbol "<" ts = true → ahead ts = false) (n : Nat) :
    Halts (repeatWhile.rounds ahead q n) := by
  intro c hc
  cases n with
  | zero => exact ⟨[], rfl⟩
  | succ n => exact ⟨[], run_peek_bind (hahead c.rest hc)⟩

/-- Rounds of parsers that follow one another. -/
theorem Follows.rounds {ahead : Tokens → Bool} (hp : Follows good p q)
    (hahead : ∀ ts, atSymbol "<" ts = true → ahead ts = false) (n : Nat) :
    Follows (fun as => ∀ a ∈ as, good a) (repeatWhile.rounds ahead p n)
      (repeatWhile.rounds ahead q n) := by
  induction n with
  | zero => exact .refl (.pure (by simp))
  | succ n ih =>
    refine .after fun found => ?_
    cases found with
    | false => exact .refl (.pure (by simp))
    | true =>
      refine hp.bind (fun a ha => ih.map (a :: ·) fun as => ?_) (fun a ha => ?_) fun a => ?_
      · simp [ha]
      · exact .after fun as => .pure fun h => ha (h a List.mem_cons_self)
      · exact (halts_rounds hahead n).bind fun as => .pure _

/-- No repetition begins there either. -/
theorem halts_repeatWhile {ahead : Tokens → Bool}
    (hahead : ∀ ts, atSymbol "<" ts = true → ahead ts = false) : Halts (repeatWhile ahead q) :=
  fun c hc => halts_rounds hahead c.rest.length c hc

/-- A repetition of parsers that follow one another. -/
theorem Follows.repeatWhile {ahead : Tokens → Bool} (hp : Follows good p q)
    (hahead : ∀ ts, atSymbol "<" ts = true → ahead ts = false) :
    Follows (fun as => ∀ a ∈ as, good a) (repeatWhile ahead p) (repeatWhile ahead q) :=
  .after fun c => hp.rounds hahead c.rest.length

end

/-! ### Paths in types and in expressions -/

/-- Where an angle bracket opens there are no colons. -/
theorem atSymbol_colons_eq_false {ts : Tokens} (h : atSymbol "<" ts = true) :
    atSymbol "::" ts = false := by
  have htext : "<".toList = ['<'] := rfl
  obtain ⟨spacing, span, rest, rfl⟩ := exists_of_atSymbol htext h
  cases spacing <;> rfl

/-- Arguments come next in neither style, after `::` in both, or without `::` in a type only. -/
theorem atArguments_cases (ts : Tokens) :
    (atArguments .type ts = false ∧ atArguments .expression ts = false) ∨
    (atArguments .type ts = true ∧ atArguments .expression ts = true ∧ atSymbol "::" ts = true) ∨
    (atArguments .type ts = true ∧ atArguments .expression ts = false ∧ atSymbol "::" ts = false ∧
      atSymbol "<" ts = true) := by
  cases hangle : atSymbol "<" ts with
  | false => cases hcolons : atSymbol "::" ts <;> simp [atArguments, hangle, hcolons]
  | true =>
    have hcolons := atSymbol_colons_eq_false hangle
    cases hless : !atSymbol "<=" ts && !atSymbol "<<=" ts <;>
      simp_all [atArguments]

/-- Colons that may be missing are read just if they come next. -/
theorem isEmpty_of_run_colons {c c' : Cursor} {colons : Tokens}
    (h : (optionalSymbol "::").run c = .ok (colons, c')) :
    (!colons.isEmpty) = atSymbol "::" c.rest := by
  obtain ⟨found, c₁, hpeek, hrest⟩ := exists_of_run_bind h
  obtain ⟨rfl, rfl⟩ := Prod.mk.inj (Except.ok.inj hpeek)
  cases hnext : atSymbol "::" c.rest with
  | false =>
    rw [hnext] at hrest
    obtain ⟨rfl, -⟩ := Prod.mk.inj (Except.ok.inj hrest)
    rfl
  | true =>
    rw [hnext, if_pos rfl, Reads.symbol hnext c rfl] at hrest
    obtain ⟨rfl, -⟩ := Prod.mk.inj (Except.ok.inj hrest)
    match c.rest, hnext with
    | .punct _ _ _ :: _, _ => rfl

/-- Where an angle bracket opens there is no further segment. -/
theorem atFurther_eq_false {ts : Tokens} (h : atSymbol "<" ts = true) :
    (atSymbol "::" ts && !atGroup .parenthesis (next (next ts))) = false := by
  rw [atSymbol_colons_eq_false h, Bool.false_and]

section

variable (read : Reader)

/-- The arguments of a segment with the given name, and `::` if that comes next. -/
def segmentArguments (i : Ident × Span) : Parser (Segment × Tokens) := do
  let colons ← optionalSymbol "::"
  let arguments ← angleArguments read
  return (⟨i.1, some ⟨!colons.isEmpty, Token.erase arguments⟩⟩, ofIdent i ++ colons ++ arguments)

/-- What may follow the name of a segment. -/
def segmentRest (style : PathStyle) (i : Ident × Span) : Parser (Segment × Tokens) := do
  if ← peek (atArguments style) then segmentArguments read i
  else return (⟨i.1, none⟩, ofIdent i)

/-- The style matters only after the name of a segment. -/
theorem segment_eq (style : PathStyle) :
    segment read style = (do
      if ← peek (atWords ["super", "self", "crate", "try"]) then
        let i ← anyIdent
        return (⟨i.1, none⟩, ofIdent i)
      let i ← if ← peek (atWord "Self") then anyIdent else ident
      segmentRest read style i) := rfl

/-- Arguments that are read have `::` before them just if that comes next. -/
theorem hasTurbofish_iff_of_run {i : Ident × Span} {c c' : Cursor} {r : Segment × Tokens}
    (h : (segmentArguments read i).run c = .ok (r, c')) :
    r.1.HasTurbofish ↔ atSymbol "::" c.rest = true := by
  obtain ⟨colons, c₁, hcolons, h⟩ := exists_of_run_bind h
  obtain ⟨arguments, c₂, -, h⟩ := exists_of_run_bind h
  obtain ⟨rfl, -⟩ := Prod.mk.inj (Except.ok.inj h)
  simp [Segment.HasTurbofish, ← isEmpty_of_run_colons hcolons]

/-- After the name, a segment in an expression stops before arguments without `::`. -/
theorem follows_segmentRest (i : Ident × Span) :
    Follows (fun r => r.1.HasTurbofish) (segmentRest read .type i)
      (segmentRest read .expression i) := by
  intro c r c' hrun
  unfold segmentRest at hrun ⊢
  obtain ⟨htype, hexpression⟩ | ⟨htype, hexpression, hcolons⟩ |
    ⟨htype, hexpression, hcolons, hangle⟩ := atArguments_cases c.rest
  · rw [run_peek_bind htype] at hrun
    rw [run_peek_bind hexpression]
    obtain ⟨rfl, rfl⟩ := Prod.mk.inj (Except.ok.inj hrun)
    exact .inl ⟨by simp [Segment.HasTurbofish], rfl⟩
  · rw [run_peek_bind htype] at hrun
    rw [run_peek_bind hexpression]
    exact .inl ⟨(hasTurbofish_iff_of_run read hrun).mpr hcolons, hrun⟩
  · rw [run_peek_bind htype] at hrun
    rw [run_peek_bind hexpression]
    -- In an expression the segment ends here, and the bracket is left.
    refine .inr ⟨fun hturbofish => ?_, _, c, rfl, hangle⟩
    rw [(hasTurbofish_iff_of_run read hrun).mp hturbofish] at hcolons
    cases hcolons

/-- A segment in an expression stops before arguments without `::`. -/
theorem follows_segment :
    Follows (fun r => r.1.HasTurbofish) (segment read .type) (segment read .expression) := by
  rw [segment_eq, segment_eq]
  refine .after fun isModule => ?_
  split
  · exact .refl (.after fun i => .pure (by simp [Segment.HasTurbofish]))
  refine .after fun isSelf => ?_
  split
  · exact .after (follows_segmentRest read)
  · exact .after (follows_segmentRest read)

/-- Further segments in an expression stop before arguments without `::`. -/
theorem follows_furtherSegments :
    Follows (fun steps => ∀ r ∈ steps, r.1.HasTurbofish) (furtherSegments read .type)
      (furtherSegments read .expression) := by
  refine .repeatWhile (.after fun colons => ?_) fun ts => atFurther_eq_false
  exact (follows_segment read).map (fun r => (r.1, colons ++ r.2)) fun r => Iff.rfl

/-- A path in an expression stops before arguments without `::`. -/
theorem follows_path :
    Follows (fun p => ∀ s ∈ p.path.segments, s.HasTurbofish) (path read .type)
      (path read .expression) := by
  refine .after fun leading => (follows_segment read).bind (fun first hfirst => ?_)
    (fun first hfirst => ?_) fun first => ?_
  · refine (follows_furtherSegments read).map _ fun steps => ?_
    simp [hfirst]
  · exact .after fun steps => .pure fun h => hfirst (h first.1 (by simp))
  · exact (halts_repeatWhile fun ts => atFurther_eq_false).bind fun steps => .pure _

end

/-! ### Arguments in angle brackets -/

/-- An operator of one mark is read as it is written. -/
theorem yields_symbol {text : String} {mark : Char} (htext : text.toList = [mark]) :
    Yields (symbol text) fun ts => erase ts = operator [mark] := by
  intro c ts c' h
  obtain ⟨spacing, span, rest, -, rfl, -⟩ := exists_of_run_symbol htext h
  rfl

/-- Whatever stands between them, the arguments are read with both brackets. -/
theorem yields_angleArguments (read : Reader) :
    Yields (angleArguments read) fun ts =>
      ∃ inner, erase ts = operator ['<'] ++ inner ++ operator ['>'] := by
  have hopening : Yields (symbol "<") fun ts => erase ts = operator ['<'] := yields_symbol rfl
  have hclosing : Yields (symbol ">") fun ts => erase ts = operator ['>'] := yields_symbol rfl
  refine .bind hopening fun opening ho => .after fun arguments => ?_
  refine .bind hclosing fun closing hc => .pure ⟨erase (Argument.ordered arguments), ?_⟩
  rw [erase_append, erase_append, ho, hc]

/-- The arguments of a segment are in angle brackets. -/
theorem yields_segment (read : Reader) (style : PathStyle) :
    Yields (segment read style) fun r => ∀ a ∈ r.1.arguments, a.IsAngled := by
  have hrest (i : Ident × Span) : Yields (segmentRest read style i) fun r =>
      ∀ a ∈ r.1.arguments, a.IsAngled := by
    unfold segmentRest
    refine .after fun found => ?_
    split
    · refine .after fun colons => .bind (yields_angleArguments read) fun arguments h => .pure ?_
      simpa [GenericArguments.IsAngled] using h
    · exact .pure (by simp)
  rw [segment_eq]
  refine .after fun isModule => ?_
  split
  · exact .after fun i => .pure (by simp)
  refine .after fun isSelf => ?_
  split
  · exact .after hrest
  · exact .after hrest

/-- A path has a segment, and its arguments are in angle brackets. -/
theorem yields_path (read : Reader) (style : PathStyle) :
    Yields (path read style) fun p => p.path.IsType := by
  have hfurther : Yields (furtherSegments read style) fun steps =>
      ∀ r ∈ steps, ∀ a ∈ r.1.arguments, a.IsAngled := by
    refine .repeatWhile (.after fun colons => ?_)
    exact .bind (yields_segment read style) fun r hr => .pure hr
  refine .after fun leading => .bind (yields_segment read style) fun first hfirst => ?_
  refine .bind hfurther fun steps hsteps => .pure ⟨by simp, ?_⟩
  intro s hs
  obtain ⟨r, hr, rfl⟩ := List.mem_map.mp hs
  rcases List.mem_cons.mp hr with rfl | hr
  · exact hfirst
  · exact hsteps r hr

end Grammar

/-- The last of several parts comes after a separator. -/
theorem intercalate_concat (separator part : List α) : ∀ {parts : List (List α)}, parts ≠ [] →
    separator.intercalate (parts ++ [part]) = separator.intercalate parts ++ separator ++ part
  | [first], _ => by simp [List.intercalate]
  | first :: second :: parts, _ => by
    have ih := intercalate_concat separator part (List.cons_ne_nil second parts)
    rw [List.cons_append] at ih
    rw [List.cons_append, List.cons_append, List.intercalate_cons_cons, ih,
      List.intercalate_cons_cons]
    simp only [List.append_assoc]

namespace Path

/-- A path that is read can stand in a type. -/
theorem isType_of_read {scope : Span} {ts : Tokens} {p : Path} (h : Path.read scope ts = .ok p) :
    p.IsType := by
  have hyields : Yields (do return (← path (reader ts) .type).path) IsType :=
    .bind (yields_path (reader ts) .type) fun _ hp => .pure hp
  exact hyields.complete h

/-- Tokens that are a path are one in an expression too, and the same, if all arguments follow `::`;
otherwise they are none. -/
theorem readExpression_eq_ok_iff {scope : Span} {ts : Tokens} {p : Path}
    (h : Path.read scope ts = .ok p) (q : Path) :
    readExpression scope ts = .ok q ↔ p.IsExpression ∧ q = p := by
  have htype := isType_of_read h
  have hfollows : Follows (fun p : Path => ∀ s ∈ p.segments, s.HasTurbofish)
      (do return (← path (reader ts) .type).path)
      (do return (← path (reader ts) .expression).path) :=
    (follows_path (reader ts)).map PathPhrase.path fun _ => Iff.rfl
  obtain ⟨c, hrun, hleft, hrest⟩ := complete_eq_ok_iff.mp h
  rw [readExpression, complete_eq_ok_iff]
  obtain ⟨hgood, hexpression⟩ | ⟨hbad, b, c₁, hexpression, hangle⟩ := hfollows _ _ _ hrun
  · constructor
    · rintro ⟨c₂, hq, -, -⟩
      rw [hexpression] at hq
      obtain ⟨rfl, -⟩ := Prod.mk.inj (Except.ok.inj hq)
      exact ⟨⟨htype, hgood⟩, rfl⟩
    · rintro ⟨-, rfl⟩
      exact ⟨c, hexpression, hleft, hrest⟩
  · constructor
    · -- The bracket is left.
      rintro ⟨c₂, hq, -, hended⟩
      rw [hexpression] at hq
      obtain ⟨-, rfl⟩ := Prod.mk.inj (Except.ok.inj hq)
      rw [hended] at hangle
      cases hangle
    · rintro ⟨hp, -⟩
      exact absurd hp.turbofish hbad

/-- The standard path can stand in an expression. -/
theorem isExpression_standard : IsExpression standard := by
  refine ⟨⟨by simp [standard], ?_⟩, ?_⟩ <;> simp [standard, Segment.HasTurbofish]

/-- A path with one more segment. -/
def child (p : Path) (s : Segment) : Path := ⟨p.leading, p.segments ++ [s]⟩

/-- The tokens of one more segment follow those of the path, after `::`. -/
theorem tokens_child {p : Path} (h : p.segments ≠ []) (s : Segment) :
    (p.child s).tokens = p.tokens ++ colons ++ s.tokens := by
  have hsegments : p.segments.map (·.tokens) ≠ [] := mt List.map_eq_nil_iff.mp h
  rw [tokens, child, List.map_append, List.map_singleton, intercalate_concat _ _ hsegments, tokens]
  simp only [List.append_assoc]

/-- A path can stand in a type with one more segment. -/
theorem IsType.child {p : Path} (h : p.IsType) {s : Segment}
    (hangled : ∀ a ∈ s.arguments, a.IsAngled) : (p.child s).IsType := by
  refine ⟨List.append_ne_nil_of_left_ne_nil h.nonempty _, ?_⟩
  exact List.forall_mem_append.mpr ⟨h.angled, by simpa using hangled⟩

/-- A path can stand in an expression with one more segment just if it can without. -/
theorem isExpression_child_iff {p : Path} (h : p.IsType) {s : Segment}
    (hangled : ∀ a ∈ s.arguments, a.IsAngled) (hs : s.HasTurbofish) :
    (p.child s).IsExpression ↔ p.IsExpression := by
  constructor
  · intro hchild
    exact ⟨h, fun t ht => hchild.turbofish t (List.mem_append_left _ ht)⟩
  · intro hp
    exact ⟨h.child hangled, List.forall_mem_append.mpr ⟨hp.turbofish, by simpa using hs⟩⟩

end Path

/-! ### The path of a call -/

/-- The segment that calls a function with generic arguments, which follow `::`. -/
structure Segment.CallsGeneric (s : Segment) (name : String) : Prop where
  /-- The function has the name. -/
  name : s.ident.raw = false ∧ s.ident.name = name
  /-- The arguments follow `::`. -/
  arguments : ∃ inner, s.arguments = some ⟨true, operator ['<'] ++ inner ++ operator ['>']⟩

/-- The function that downcasts is called by the path to the support library and one more
segment. -/
theorem exists_downcast_eq {library : Path} (h : library.segments ≠ []) :
    ∃ s : Segment, s.CallsGeneric "extract" ∧ downcast library = (library.child s).tokens := by
  refine ⟨⟨.plain "extract", some ⟨true, operator ['<'] ++
    (Token.word "T" ++ comma ++ named .wildcard) ++ operator ['>']⟩⟩, ⟨⟨rfl, rfl⟩, _, rfl⟩, ?_⟩
  rw [Path.tokens_child h, downcast, Segment.tokens, Token.word]
  simp only [if_true, List.append_assoc]

/-- An arm calls a function of the support library by a path. -/
structure Code.ExtractArm.Calls (a : ExtractArm) (library callee : Path) : Prop where
  /-- What stands before the arguments of the call is the path. -/
  tokens : a.tokens library = selfCase a.case ++ a.pattern.tokens ++ fatArrow ++ callee.tokens ++
    parenthesized a.value.tokens ++ comma
  /-- The path leads to the library and from there to the function. -/
  segment : ∃ s : Segment, callee = library.child s ∧ s.CallsGeneric "extract"

/-- An arm calls by a path that can stand in an expression just if that of the library can. -/
theorem Code.ExtractArm.exists_calls {library : Path} (h : library.IsType) (a : ExtractArm) :
    ∃ callee, a.Calls library callee ∧ callee.IsType ∧
      (callee.IsExpression ↔ library.IsExpression) := by
  obtain ⟨s, hs, htokens⟩ := exists_downcast_eq h.nonempty
  obtain ⟨inner, hinner⟩ := hs.arguments
  have hangled : ∀ a ∈ s.arguments, a.IsAngled := by
    rw [hinner]
    simp [GenericArguments.IsAngled]
  have hturbofish : s.HasTurbofish := by simp [Segment.HasTurbofish, hinner]
  refine ⟨library.child s, ⟨?_, s, rfl, hs⟩, h.child hangled,
    Path.isExpression_child_iff h hangled hturbofish⟩
  rw [ExtractArm.tokens, htokens]

/-- The right one of two lists that correspond has for each member one of the left. -/
theorem exists_of_forall₂_of_mem {R : α → β → Prop} {as : List α} {bs : List β} {b : β}
    (h : List.Forall₂ R as bs) (hb : b ∈ bs) : ∃ a ∈ as, R a b := by
  induction h with
  | nil => cases hb
  | @cons a b' as bs hab _ ih =>
    rcases List.mem_cons.mp hb with rfl | hb
    · exact ⟨a, List.mem_cons_self, hab⟩
    · obtain ⟨a', ha', hab'⟩ := ih hb
      exact ⟨a', List.mem_cons_of_mem a ha', hab'⟩

/-- The path to the support library is the standard one, or an entry of a helper sets it. -/
theorem eq_standard_or_exists_sets {attributes : List Attribute} {library : Path}
    (h : libraryOf attributes = .ok library) :
    library = .standard ∨ ∃ a ∈ attributes, a.isHelper = true ∧
      ∃ entries, a.Lists entries ∧ ∃ e ∈ entries, e.Sets library := by
  obtain ⟨settings, hsettings, hlast⟩ := foldlM_library_eq_ok_iff.mp h
  have hmem : library ∈ Path.standard :: settings.flatten := by
    rw [hlast]
    exact List.getLastD_mem_cons
  rcases List.mem_cons.mp hmem with rfl | hmem
  · exact .inl rfl
  · obtain ⟨paths, hpaths, hlibrary⟩ := List.mem_flatten.mp hmem
    obtain ⟨a, ha, entries, hlists, hentries⟩ := exists_of_forall₂_of_mem hsettings hpaths
    obtain ⟨e, he, hsets⟩ := exists_of_forall₂_of_mem hentries hlibrary
    obtain ⟨ha, hhelper⟩ := List.mem_filter.mp ha
    exact .inr ⟨a, ha, hhelper, entries, hlists, e, he, hsets⟩

/-- Every path to the support library can stand in a type. -/
theorem isType_of_libraryOf {attributes : List Attribute} {library : Path}
    (h : libraryOf attributes = .ok library) : library.IsType := by
  obtain rfl | ⟨_, -, -, _, -, _, -, hsets⟩ := eq_standard_or_exists_sets h
  · exact Path.isExpression_standard.toIsType
  · obtain ⟨_, _, _, -, -, _, -, hread⟩ := hsets
    exact Path.isType_of_read hread

/-- An entry gives a string without a suffix, which has these tokens, all at the place of the
literal. -/
def Grammar.Entry.Writes (e : Entry) (span : Span) (ts : Tokens) : Prop :=
  ∃ l text us, e.Assigns l text span ∧ l.suffix = "" ∧ lex text = .ok us ∧
    ts = Token.mapAll (fun _ => span) us

/-- Whatever attributes are accepted, an arm calls by a path whose arguments are in angle brackets.
It can stand in an expression just if the path to the support library can. That is the standard
path, which can, or one that an entry writes, which can just if it is read in that style too. -/
theorem callee_isExpression_iff {attributes : List Attribute} {library : Path}
    (h : libraryOf attributes = .ok library) :
    (∀ a : ExtractArm, ∃ callee, a.Calls library callee ∧ callee.IsType ∧
      (callee.IsExpression ↔ library.IsExpression)) ∧
    ((library = .standard ∧ library.IsExpression) ∨
      ∃ a ∈ attributes, a.isHelper = true ∧ ∃ entries, a.Lists entries ∧
        ∃ e ∈ entries, ∃ span ts, e.Writes span ts ∧ Path.read span ts = .ok library ∧
          ∀ p, Path.readExpression span ts = .ok p ↔ library.IsExpression ∧ p = library) := by
  refine ⟨ExtractArm.exists_calls (isType_of_libraryOf h), ?_⟩
  obtain rfl | ⟨a, ha, hhelper, entries, hlists, e, he, hsets⟩ := eq_standard_or_exists_sets h
  · exact .inl ⟨rfl, Path.isExpression_standard⟩
  · obtain ⟨l, text, span, hassigns, hsuffix, us, hlex, hread⟩ := hsets
    exact .inr ⟨a, ha, hhelper, entries, hlists, e, he, span, _,
      ⟨l, text, us, hassigns, hsuffix, hlex, rfl⟩, hread, Path.readExpression_eq_ok_iff hread⟩

/-- An item with a helper attribute that sets the path in a text. -/
def Item.configured (text : String) : Tokens :=
  Token.mapAll (fun _ => .callSite) <|
    outerAttribute (spelled "case_detection" ++
        parenthesized (spelled "crate" ++ operator ['='] ++ constant (.ofString text))) ++
      spelled "enum" ++ spelled "Shape" ++
      braced (spelled "Circle" ++ parenthesized (spelled "u32"))

/-- Arguments after `::` are accepted, and called by. -/
theorem exists_callee_turbofish :
    ∃ i library, Item.read (Item.configured "a::<b>") = .ok i ∧
      libraryOf i.attributes = .ok library ∧
      ∀ a : ExtractArm, ∃ callee, a.Calls library callee ∧ callee.IsExpression := by
  have hsample : (do
      let i ← Item.read (Item.configured "a::<b>")
      let library ← libraryOf i.attributes
      return decide (∀ s ∈ library.segments, s.HasTurbofish)) = .ok true := by
    decide +kernel
  obtain ⟨i, hread, hsample⟩ := bind_eq_ok_iff.mp hsample
  obtain ⟨library, hlibrary, hsample⟩ := bind_eq_ok_iff.mp hsample
  have hexpression : library.IsExpression :=
    ⟨isType_of_libraryOf hlibrary, of_decide_eq_true (Except.ok.inj hsample)⟩
  refine ⟨i, library, hread, hlibrary, fun a => ?_⟩
  obtain ⟨callee, hcalls, -, hiff⟩ := (callee_isExpression_iff hlibrary).1 a
  exact ⟨callee, hcalls, hiff.mpr hexpression⟩

/-- Arguments without `::` are accepted too. The path that an arm calls by then is none of an
expression, and its tokens are refused as one at the angle bracket. -/
theorem exists_callee_angle :
    ∃ i library, Item.read (Item.configured "a<b>") = .ok i ∧
      libraryOf i.attributes = .ok library ∧
      Path.readExpression .callSite (Token.mapAll (fun _ => .callSite) (downcast library)) =
        .error ⟨.leftOver none, .callSite⟩ ∧
      ∀ a : ExtractArm, ∃ callee, a.Calls library callee ∧ ¬ callee.IsExpression := by
  have hsample : (do
      let i ← Item.read (Item.configured "a<b>")
      let library ← libraryOf i.attributes
      return (decide (∀ s ∈ library.segments, s.HasTurbofish), errorOf? (Path.readExpression
        .callSite (Token.mapAll (fun _ => .callSite) (downcast library))))) =
      .ok (false, some ⟨.leftOver none, .callSite⟩) := by
    decide +kernel
  obtain ⟨i, hread, hsample⟩ := bind_eq_ok_iff.mp hsample
  obtain ⟨library, hlibrary, hsample⟩ := bind_eq_ok_iff.mp hsample
  obtain ⟨hturbofish, herror⟩ := Prod.mk.inj (Except.ok.inj hsample)
  refine ⟨i, library, hread, hlibrary, errorOf?_eq_some_iff.mp herror, fun a => ?_⟩
  obtain ⟨callee, hcalls, -, hiff⟩ := ExtractArm.exists_calls (isType_of_libraryOf hlibrary) a
  refine ⟨callee, hcalls, fun hcallee => ?_⟩
  exact of_decide_eq_false hturbofish (hiff.mp hcallee).turbofish

end EnumCases
