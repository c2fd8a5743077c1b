import EnumCases.Proofs.Reading

/-!
# What parsers take

A parser only ever takes tokens from the front of what is ahead. `Takes least n p` says that `p`
takes `least` tokens or more wherever fewer than `n` are ahead, those in groups counted, or else
fails for another cause than the depth of rules. The bound `n` is what a rule may rely on: after a
token, and inside a group, it is less by one.

`Takes` is a class, so that what a parser takes is found from what its parts take. The instances
here are those of the combinators; the rules of the grammar have theirs in `Proofs.Depth`. `Resumes`
is the same for a parser that may go back to a cursor it started from.
-/

-- An answer is as large as the parser that it is about.
set_option synthInstance.maxSize 4000

namespace EnumCases

namespace Token

variable {α : Type}

/-- Every token counts. -/
theorem length_le_size (ts : List (Token α)) : ts.length ≤ size ts := by
  induction ts with
  | nil => exact Nat.le_refl 0
  | cons t ts ih =>
    have hpos : 0 < t.lexemes.length := by cases t <;> simp [lexemes]
    rw [size, lexemesAll, List.length_append, ← size, List.length_cons]
    omega

theorem size_append (ts us : List (Token α)) : size (ts ++ us) = size ts + size us := by
  induction ts with
  | nil => simp [size, lexemesAll]
  | cons t ts ih =>
    simp only [size, List.cons_append, lexemesAll, List.length_append] at ih ⊢
    omega

/-- Where tokens are taken from the front, each of them counts. -/
theorem size_le_of_suffix {ts us : List (Token α)} (h : ts <:+ us) :
    size ts + us.length ≤ size us + ts.length := by
  obtain ⟨before, rfl⟩ := h
  have hbefore := length_le_size before
  rw [size_append, List.length_append]
  omega

/-- A group counts for more than what is in it, and so does what comes after. -/
theorem size_lt_of_group (d : Delimiter) (body : List (Token α)) (label : α)
    (ts : List (Token α)) : size body + size ts + 1 < size (.group d body label :: ts) := by
  simp only [size, lexemesAll, lexemes, List.length_append, List.length_cons]
  omega

end Token

namespace Grammar

/-- Whether a cause is the depth of rules. -/
@[reducible]
def Cause.isDepth : Cause → Bool
  | .tooDeep => true
  | _ => false

/-- A flag that evaluates to `false`, as a condition of instances. -/
class Unset (flag : Bool) : Prop where
  /-- It is `false`. -/
  eq_false : flag = false

instance unset_false : Unset false := ⟨rfl⟩

/-- What a run from a cursor may end with. -/
inductive Reaches (least : Nat) (c : Cursor) : Except Fault (α × Cursor) → Prop where
  /-- A fault, but not for depth. -/
  | error {f : Fault} (cause : f.cause ≠ .tooDeep) : Reaches least c (.error f)
  /-- A cursor that is at least so many tokens further on. -/
  | ok {a : α} {c' : Cursor} (suffix : c'.rest <:+ c.rest)
      (length : c'.rest.length + least ≤ c.rest.length) : Reaches least c (.ok (a, c'))

/-- A parser takes at least so many tokens where fewer than `n` are ahead. -/
class Takes (least n : Nat) (p : Parser α) : Prop where
  /-- Every run ends so. -/
  reaches : ∀ c : Cursor, Token.size c.rest < n → Reaches least c (p.run c)

/-- A parser that may go back, but not before the cursor `start`, where fewer than `n` tokens are
ahead. -/
class Resumes (start : Cursor) (n : Nat) (p : Parser α) : Prop where
  /-- Every run from further on ends somewhere after `start`. -/
  reaches : Token.size start.rest < n →
    ∀ c : Cursor, c.rest <:+ start.rest → Reaches 0 start (p.run c)

section

variable {least n : Nat} {p q : Parser α} {f : α → Parser β}

/-! ### Sequences -/

/-- A run that goes on where another ended. -/
theorem Reaches.trans {i j k : Nat} {c c' : Cursor} (hsuffix : c'.rest <:+ c.rest)
    (hlength : c'.rest.length + j ≤ c.rest.length) {r : Except Fault (α × Cursor)}
    (h : Reaches k c' r) (hi : i ≤ j + k) : Reaches i c r := by
  cases h with
  | error cause => exact .error cause
  | ok suffix length => exact .ok (suffix.trans hsuffix) (by omega)

namespace Takes

/-- A sequence takes what its parts take, the second of which has less ahead. -/
theorem bind_of_le {i j k : Nat} (hp : Takes j n p) (hf : ∀ a, Takes k (n - j) (f a))
    (hi : i ≤ j + k) : Takes i n (p >>= f) where
  reaches := by
    intro c hc
    have hreaches := hp.reaches c hc
    rw [StateT.run_bind]
    generalize p.run c = r at hreaches
    cases hreaches with
    | error cause => exact .error cause
    | @ok a c' suffix length =>
      have hsize := Token.size_le_of_suffix suffix
      exact ((hf a).reaches c' (by omega)).trans suffix length hi

/-- Less may be claimed of a parser. -/
theorem mono {i j k n : Nat} (h : Takes i n p) (hj : j ≤ i) (hk : k ≤ n) : Takes j k p where
  reaches c hc :=
    (h.reaches c (by omega)).trans (j := 0) (List.suffix_refl _) (Nat.le_refl _) (by omega)

instance (priority := 10) pred [h : Takes least n p] : Takes least (n - 1) p :=
  h.mono (Nat.le_refl _) (Nat.sub_le _ _)

instance (priority := 20) of_one [h : Takes 1 n p] : Takes 0 n p :=
  h.mono (Nat.zero_le _) (Nat.le_refl _)

instance bind_zero [hp : Takes 0 n p] [hf : ∀ a, Takes 0 n (f a)] : Takes 0 n (p >>= f) :=
  hp.bind_of_le hf (by omega)

instance (priority := 2000) bind_one_left [hp : Takes 1 n p] [hf : ∀ a, Takes 0 (n - 1) (f a)] :
    Takes 1 n (p >>= f) :=
  hp.bind_of_le hf (by omega)

instance bind_one_right [hp : Takes 0 n p] [hf : ∀ a, Takes 1 n (f a)] : Takes 1 n (p >>= f) :=
  hp.bind_of_le hf (by omega)

-- The same as theorems, for parts that are looked at by hand.

theorem after [hp : Takes 0 n p] (hf : ∀ a, Takes least n (f a)) : Takes least n (p >>= f) :=
  hp.bind_of_le hf (by omega)

theorem onward [hp : Takes 1 n p] (hf : ∀ a, Takes 0 (n - 1) (f a)) : Takes 1 n (p >>= f) :=
  hp.bind_of_le hf (by omega)

theorem orElse {b : Prop} [Decidable b] [hp : Takes least n p] (hq : Takes least n q) :
    Takes least n (if b then p else q) := by
  split
  · exact hp
  · exact hq

instance pure (a : α) : Takes 0 n (Pure.pure a : Parser α) where
  reaches _ _ := .ok (List.suffix_refl _) (Nat.le_refl _)

instance map [h : Takes least n p] (g : α → β) : Takes least n (g <$> p) := by
  rw [map_eq_pure_bind]
  exact h.bind_of_le (fun _ => .pure _) (Nat.le_refl _)

instance ite {b : Prop} [Decidable b] [Takes least n p] [hq : Takes least n q] :
    Takes least n (if b then p else q) :=
  .orElse hq

instance forIn (as : List γ) (init : β) {body : γ → β → Parser (ForInStep β)}
    [h : ∀ a b, Takes 0 n (body a b)] : Takes 0 n (forIn as init body) := by
  induction as generalizing init with
  | nil => exact .pure init
  | cons a as ih =>
    rw [List.forIn_cons]
    refine .after fun step => ?_
    cases step with
    | done b => exact .pure b
    | yield b => exact ih b

/-! ### Looking and failing -/

instance get : Takes 0 n (MonadState.get : Parser Cursor) where
  reaches _ _ := .ok (List.suffix_refl _) (Nat.le_refl _)

/-- What a parser takes may be seen for each cursor that it starts from. -/
theorem get_bind {g : Cursor → Parser α}
    (h : ∀ c, Token.size c.rest < n → Reaches least c ((g c).run c)) :
    Takes least n (MonadState.get >>= g) :=
  ⟨h⟩

instance peek (ahead : Tokens → Bool) : Takes 0 n (peek ahead) := by
  dsimp only [Grammar.peek]
  infer_instance

instance here : Takes 0 n here := by
  dsimp only [Grammar.here]
  refine .after fun c => ?_
  split <;> infer_instance

instance refuse (cause : Cause) (span : Span) [h : Unset cause.isDepth] :
    Takes least n (refuse cause span : Parser α) where
  reaches _ _ := by
    refine .error ?_
    rintro rfl
    cases h.eq_false

instance refuseHere (cause : Cause) [Unset cause.isDepth] :
    Takes least n (refuseHere cause : Parser α) := by
  dsimp only [Grammar.refuseHere]
  exact .after fun span => .refuse cause span

instance want (wanted : List Terminal) : Takes least n (want wanted : Parser α) := by
  dsimp only [Grammar.want]
  exact .after fun ended => .ite

-- Nothing is done after a failure.
instance (priority := 3000) want_bind (wanted : List Terminal) :
    Takes least n (Grammar.want wanted >>= f) := by
  have hwant : Grammar.want wanted >>= f = Grammar.want wanted := by
    funext c
    obtain ⟨rest, _, _, _⟩ := c
    cases rest <;> rfl
  rw [hwant]
  infer_instance

instance lookPast : Takes 0 n (lookPast p) := by
  dsimp only [Grammar.lookPast]
  refine .after fun c => ?_
  split <;> infer_instance

/-! ### Single tokens -/

instance advance (count : Nat) : Takes 0 n (advance count) where
  reaches c _ :=
    have hsuffix := List.drop_suffix count c.rest
    .ok hsuffix hsuffix.length_le

end Takes

/-- Tokens are taken where there are some. -/
theorem Reaches.advance {c : Cursor} (hrest : c.rest ≠ []) {count : Nat} (hcount : 0 < count)
    (a : α) : Reaches 1 c ((do advance count; return a : Parser α).run c) := by
  have hlength : 0 < c.rest.length := List.length_pos_iff.mpr hrest
  refine .ok (List.drop_suffix count c.rest) ?_
  rw [List.length_drop]
  omega

/-- An operator has a mark, and the first one comes next. -/
theorem length_pos_of_atSymbol {text : String} {ts : Tokens} (h : atSymbol text ts = true) :
    0 < text.length ∧ ts ≠ [] := by
  rw [atSymbol] at h
  rw [← String.length_toList]
  revert h
  fun_cases startsWith text.toList ts <;> simp_all

namespace Takes

instance symbol (text : String) : Takes 1 n (symbol text) := by
  refine get_bind fun c hc => ?_
  split
  · rename_i h
    obtain ⟨hcount, hrest⟩ := length_pos_of_atSymbol h
    exact .advance hrest hcount _
  · exact (Takes.refuseHere _).reaches c hc

instance word (name : String) : Takes 1 n (word name) := by
  refine get_bind fun c hc => ?_
  split
  · rename_i h
    exact .advance (by rintro hrest; rw [hrest] at h; cases h) Nat.one_pos _
  · exact (Takes.want _).reaches c hc

instance anyIdent : Takes 1 n anyIdent := by
  refine get_bind fun c hc => ?_
  split
  · rename_i hrest
    exact .advance (by simp [hrest]) Nat.one_pos _
  · exact (Takes.want _).reaches c hc

instance ident : Takes 1 n ident := by
  refine get_bind fun c hc => ?_
  split
  · rename_i hrest
    split
    · exact (Takes.refuse _ _).reaches c hc
    · exact .advance (by simp [hrest]) Nat.one_pos _
  · exact (Takes.want _).reaches c hc

instance name : Takes 1 n name := by
  dsimp only [Grammar.name]
  infer_instance

instance lifetime : Takes 1 n lifetime := by
  refine get_bind fun c hc => ?_
  split
  · rename_i h
    exact .advance (by rintro hrest; rw [hrest] at h; cases h) Nat.two_pos _
  · exact (Takes.want _).reaches c hc

instance literal : Takes 1 n literal := by
  refine get_bind fun c hc => ?_
  split
  · rename_i hrest
    split
    · exact .advance (by simp [hrest]) Nat.two_pos _
    · exact (Takes.want _).reaches c hc
  · rename_i hrest
    split
    · exact .advance (by simp [hrest]) Nat.one_pos _
    · exact (Takes.want _).reaches c hc
  · exact (Takes.want _).reaches c hc

instance anyGroup : Takes 1 n anyGroup := by
  refine get_bind fun c hc => ?_
  split
  · rename_i hrest
    exact .advance (by simp [hrest]) Nat.one_pos _
  · exact (Takes.want _).reaches c hc

/-! ### Parts as they are written, and parts that may be missing -/

instance readSince (before : Tokens) : Takes 0 n (readSince before) := by
  dsimp only [Grammar.readSince]
  infer_instance

instance verbatim [h : Takes least n p] : Takes least n (verbatim p) := by
  dsimp only [Grammar.verbatim]
  refine .after fun c => ?_
  exact h.bind_of_le (fun _ => .readSince c.rest) (Nat.le_refl _)

instance orVerbatim {p : Parser (Option Tokens)} [h : Takes least n p] :
    Takes least n (orVerbatim p) := by
  dsimp only [Grammar.orVerbatim]
  refine .after fun c => h.bind_of_le (k := 0) (fun tokens? => ?_) (Nat.le_refl _)
  split <;> infer_instance

instance optional (ahead : Tokens → Bool) {p : Parser Tokens} [Takes 0 n p] :
    Takes 0 n (optional ahead p) := by
  dsimp only [Grammar.optional]
  infer_instance

instance optionalSymbol (text : String) : Takes 0 n (optionalSymbol text) := by
  dsimp only [Grammar.optionalSymbol]
  infer_instance

instance optionalWord (name : String) : Takes 0 n (optionalWord name) := by
  dsimp only [Grammar.optionalWord]
  infer_instance

/-! ### Groups -/

instance insideThen (d : Delimiter) {further : α → Span → Parser β} [hp : Takes 0 (n - 1) p]
    [hfurther : ∀ a span, Takes 0 (n - 1) (further a span)] :
    Takes 1 n (insideThen d p further) := by
  refine get_bind fun c hc => ?_
  split
  · rename_i d' body span rest hrest
    have hgroup := Token.size_lt_of_group d' body span rest
    rw [hrest] at hc
    split
    · -- The inside is read by a cursor of its own, and what follows from after the group.
      have hinside := hp.reaches ⟨body, span.tail, some d, c.leftOver⟩
        (show Token.size body < n - 1 by omega)
      generalize p.run _ = r at hinside ⊢
      cases hinside with
      | error cause => exact .error cause
      | @ok a inner =>
        have hnote (b : β) : Takes 0 (n - 1) (do
            modify fun c => { c with
              leftOver := c.leftOver <|> inner.rest.head?.map fun t => ⟨t.label, some d⟩ }
            return b : Parser β) :=
          ⟨fun _ _ => .ok (List.suffix_refl _) (Nat.le_refl _)⟩
        have hafter := (Takes.after (p := further a span) hnote).reaches
          { c with rest, leftOver := inner.leftOver } (show Token.size rest < n - 1 by omega)
        exact hafter.trans (j := 1) (hrest ▸ List.suffix_cons _ _) (by simp [hrest]) (Nat.le_refl _)
    · exact (Takes.want _).reaches c (hrest ▸ hc)
  · exact (Takes.want _).reaches c hc

instance inside (d : Delimiter) [Takes 0 (n - 1) p] : Takes 1 n (inside d p) := by
  dsimp only [Grammar.inside]
  infer_instance

instance grouped (d : Delimiter) {p : Parser Tokens} [Takes 0 (n - 1) p] :
    Takes 1 n (grouped d p) := by
  dsimp only [Grammar.grouped]
  infer_instance

/-! ### Repetition -/

/-- A loop takes what its rounds take, however many are allowed from where it starts. -/
theorem loop (rounds : Nat → Parser α) {limit : Cursor → Nat} (hzero : Takes 0 n (rounds 0))
    (hsucc : ∀ count, Takes 0 n (rounds count) → Takes 0 n (rounds (count + 1))) :
    Takes 0 n (MonadState.get >>= fun c => rounds (limit c)) := by
  have hrounds (count : Nat) : Takes 0 n (rounds count) := by
    induction count with
    | zero => exact hzero
    | succ count ih => exact hsucc count ih
  exact .after fun c => hrounds (limit c)

instance repeatWhile (ahead : Tokens → Bool) [Takes 0 n p] : Takes 0 n (repeatWhile ahead p) := by
  refine .loop (repeatWhile.rounds ahead p) (.pure []) fun count ih => ?_
  dsimp only [repeatWhile.rounds]
  infer_instance

instance separated (stop : Tokens → Bool) {separator : Parser Tokens} [Takes 0 n p]
    [Takes 0 n separator] : Takes 0 n (separated stop p separator) := by
  refine .loop (separated.rounds stop p separator) (.pure []) fun count ih => ?_
  dsimp only [separated.rounds]
  infer_instance

instance joined_rounds (operator : String) (stop : Tokens → Bool) [Takes 0 n p] (count : Nat) :
    Takes 0 n (joined.rounds operator stop p count) := by
  induction count with
  | zero => exact .pure []
  | succ count ih =>
    dsimp only [joined.rounds]
    infer_instance

instance joined (operator : String) (stop : Tokens → Bool) [Takes 0 n p] :
    Takes 0 n (joined operator stop p) :=
  .after fun _ => .joined_rounds operator stop _

/-- Items that take a token each take one, unless there are none. -/
theorem joined_bind {operator : String} {stop : Tokens → Bool} {g : List (α × Tokens) → Parser β}
    [Takes 1 n p] (hnone : Takes 1 n (g [])) (hsome : ∀ items, Takes 0 n (g items)) :
    Takes 1 n (Grammar.joined operator stop p >>= g) := by
  dsimp only [Grammar.joined]
  rw [bind_assoc]
  refine .after fun c => ?_
  dsimp only [joined.rounds]
  rw [bind_assoc]
  refine .after fun stopped => ?_
  split
  · exact hnone
  · rw [bind_assoc]
    exact .onward fun a => .after fun items => (hsome items).pred

instance terminated [Takes 0 n p] : Takes 0 n (terminated p) := by
  dsimp only [Grammar.terminated]
  infer_instance

instance terminatedWith {p : Parser (α × Tokens)} [Takes 0 n p] : Takes 0 n (terminatedWith p) := by
  dsimp only [Grammar.terminatedWith]
  infer_instance

instance terminatedTokens {p : Parser Tokens} [Takes 0 n p] : Takes 0 n (terminatedTokens p) := by
  dsimp only [Grammar.terminatedTokens]
  infer_instance

instance joinedTokens (operator : String) (stop : Tokens → Bool) {p : Parser Tokens}
    [Takes 0 n p] : Takes 0 n (joinedTokens operator stop p) := by
  dsimp only [Grammar.joinedTokens]
  infer_instance

instance repeatedTokens {p : Parser Tokens} [Takes 0 n p] : Takes 0 n (repeatedTokens p) := by
  dsimp only [Grammar.repeatedTokens]
  infer_instance

end Takes

/-- One part after the other is the first part and then the others. -/
theorem sequence_cons (p : Parser Tokens) (ps : List (Parser Tokens)) :
    sequence (p :: ps) = (do return (← p) ++ (← sequence ps)) := by
  simp [sequence]

namespace Takes

variable {p : Parser Tokens} {ps : List (Parser Tokens)}

instance sequence_nil : Takes 0 n (sequence []) := .pure []

instance sequence_zero [Takes 0 n p] [Takes 0 n (sequence ps)] :
    Takes 0 n (sequence (p :: ps)) := by
  rw [sequence_cons]
  infer_instance

instance (priority := 2000) sequence_one_left [Takes 1 n p] [Takes 0 (n - 1) (sequence ps)] :
    Takes 1 n (sequence (p :: ps)) := by
  rw [sequence_cons]
  infer_instance

instance sequence_one_right [Takes 0 n p] [Takes 1 n (sequence ps)] :
    Takes 1 n (sequence (p :: ps)) := by
  rw [sequence_cons]
  infer_instance

end Takes

/-! ### Going back -/

namespace Resumes

variable {start : Cursor}

instance (priority := 10) of_takes [h : Takes 0 n p] : Resumes start n p where
  reaches hstart c hc := by
    have hsize := Token.size_le_of_suffix hc
    have hlength := hc.length_le
    exact (h.reaches c (by omega)).trans hc hlength (Nat.le_refl _)

instance set : Resumes start n (set start : Parser Unit) where
  reaches _ _ _ := .ok (List.suffix_refl _) (Nat.le_refl _)

instance bind [hp : Resumes start n p] [hf : ∀ a, Resumes start n (f a)] :
    Resumes start n (p >>= f) where
  reaches := by
    intro hstart c hc
    have hreaches := hp.reaches hstart c hc
    rw [StateT.run_bind]
    generalize p.run c = r at hreaches
    cases hreaches with
    | error cause => exact .error cause
    | @ok a c' suffix _ => exact (hf a).reaches hstart c' suffix

instance ite {b : Prop} [Decidable b] [hp : Resumes start n p] [hq : Resumes start n q] :
    Resumes start n (if b then p else q) := by
  split
  · exact hp
  · exact hq

end Resumes

/-- A parser that goes back at most to where it starts takes tokens all the same. -/
instance (priority := 5) Takes.of_resumes {g : Cursor → Parser α}
    [h : ∀ start, Resumes start n (g start)] : Takes 0 n (MonadState.get >>= g) where
  reaches c hc := (h c).reaches hc c (List.suffix_refl _)

end

end Grammar

end EnumCases
