import EnumCases.Code.Program
import EnumCases.Code.Tokens
import EnumCases.Proofs.Bindings
import EnumCases.Proofs.Synthesis

/-!
# What is rendered is read

The tokens of derived items are read as the program that these items are (`Items.program`), whatever
the items and the path to the support library are (`Items.read?_tokens`). So a statement about the
program that is read from tokens is one about the tokens.

A scan reads a value from tokens if it does so whatever comes after them (`Scan.Reads`). What a
sequence reads follows from what its parts read, and so does what a group and a repetition read.
-/

namespace EnumCases

/-! ### Lists with commas -/

namespace Token

/-- Parts that are written with commas between them are split at these commas, unless one of them
has a comma of its own. -/
theorem splitOnP_commaSeparated {parts : List (List (Token Unit))} (hne : parts ≠ [])
    (h : ∀ p ∈ parts, ∀ t ∈ p, t.isPunct ',' = false) :
    (commaSeparated parts).splitOnP (isPunct ',') = parts := by
  induction parts with
  | nil => exact absurd rfl hne
  | cons p parts ih =>
    have hp := h p (by simp)
    cases parts with
    | nil => simpa [commaSeparated] using List.splitOnP_eq_singleton hp
    | cons q parts =>
      have hrest := ih (by simp) fun r hr => h r (List.mem_cons_of_mem p hr)
      have hcons : commaSeparated (p :: q :: parts) =
          p ++ .punct ',' .alone () :: commaSeparated (q :: parts) := by
        rw [commaSeparated, List.intercalate_cons_cons, List.append_assoc]
        rfl
      rw [hcons, List.splitOnP_append_cons_of_forall_mem hp _ rfl, hrest]

/-- Parts that are written with commas between them are these parts again, unless one of them is
empty or has a comma of its own. -/
theorem commaParts_commaSeparated {parts : List (List (Token Unit))} (hne : ∀ p ∈ parts, p ≠ [])
    (hcomma : ∀ p ∈ parts, ∀ t ∈ p, t.isPunct ',' = false) :
    commaParts (commaSeparated parts) = parts := by
  cases parts with
  -- No parts and one empty part are written alike, and are read as no parts.
  | nil => rfl
  | cons p parts =>
    have hp := hne p (by simp)
    have hfull : commaSeparated (p :: parts) ≠ [] := by
      cases parts with
      | nil => simpa [commaSeparated] using hp
      | cons q parts => simp [commaSeparated, List.intercalate_cons_cons, hp]
    rw [commaParts, if_neg (by simpa using hfull)]
    exact splitOnP_commaSeparated (by simp) hcomma

/-- What is written with commas between it is read part by part. -/
theorem mapM_commaParts {β : Type} (read : List (Token Unit) → Option β)
    (write : β → List (Token Unit)) (hread : ∀ b, read (write b) = some b)
    (hne : ∀ b, write b ≠ []) (hcomma : ∀ b, ∀ t ∈ write b, t.isPunct ',' = false) (bs : List β) :
    (commaParts (commaSeparated (bs.map write))).mapM read = some bs := by
  have hparts : commaParts (commaSeparated (bs.map write)) = bs.map write := by
    apply commaParts_commaSeparated
    · exact List.forall_mem_map.mpr fun b _ => hne b
    · exact List.forall_mem_map.mpr fun b _ => hcomma b
  rw [hparts]
  apply mapM_eq_some_of_forall₂
  rw [List.forall₂_map_left_iff, List.forall₂_same]
  exact fun b _ => hread b

end Token

open Code Token

namespace Code

/-! ### What a scan reads -/

namespace Scan

/-- A scan reads a value from tokens, whatever comes after them. -/
def Reads (p : Scan α) (ts : List (Token Unit)) (a : α) : Prop :=
  ∀ rest, p.run (ts ++ rest) = some (a, rest)

section

variable {p q : Scan α} {f : α → Scan β} {a : α} {b : β} {ts us vs : List (Token Unit)}

theorem Reads.pure (a : α) : Reads (Pure.pure a) [] a := fun _ => rfl

theorem Reads.bind (hp : Reads p ts a) (hf : Reads (f a) us b) : Reads (p >>= f) (ts ++ us) b := by
  intro rest
  rw [StateT.run_bind, List.append_assoc, hp (us ++ rest)]
  exact hf rest

/-- The same for tokens that are put together in another way. -/
theorem Reads.bind_of_eq (hp : Reads p ts a) (hf : Reads (f a) us b) (h : ts ++ us = vs) :
    Reads (p >>= f) vs b := by
  subst h
  exact hp.bind hf

/-- The end of a sequence reads the last tokens. -/
theorem Reads.last (hp : Reads p ts a) (g : α → β) :
    Reads (p >>= fun a => Pure.pure (g a)) ts (g a) := by
  intro rest
  rw [StateT.run_bind, hp rest]
  rfl

theorem Reads.map (g : α → β) (hp : Reads p ts a) : Reads (g <$> p) ts (g a) := by
  intro rest
  rw [StateT.run_map, hp rest]
  rfl

/-- Of two scans the first one counts if it reads. -/
theorem Reads.orElse_left (hp : Reads p ts a) : Reads (p <|> q) ts a := by
  intro rest
  show (p.run (ts ++ rest) <|> q.run (ts ++ rest)) = _
  rw [hp rest]
  rfl

/-- Of two scans the second one counts if the first cannot read. -/
theorem Reads.orElse_right (hp : ∀ rest, p.run (ts ++ rest) = none) (hq : Reads q ts a) :
    Reads (p <|> q) ts a := by
  intro rest
  show (p.run (ts ++ rest) <|> q.run (ts ++ rest)) = _
  rw [hp rest, hq rest]
  rfl

theorem Reads.complete (hp : Reads p ts a) : p.complete ts = some a := by
  have hrun := hp []
  rw [List.append_nil] at hrun
  rw [Scan.complete, hrun]

theorem Reads.name (i : Ident) : Reads name (named i) i := fun _ => rfl

theorem Reads.word (w : String) {h : Text.isWord w.toList = true} :
    Reads (Scan.word w) (Token.word w h) () := by
  have hplain : (Ident.plain w h).isPlain w = true := by simp [Ident.isPlain, Ident.plain]
  have hguard : Reads (guard ((Ident.plain w h).isPlain w) : Scan Unit) [] () := by
    rw [hplain]
    exact .pure ()
  exact (Reads.name _).bind hguard

theorem Reads.mark (c : Char) {joint : Bool} {spacing : Spacing}
    (h : joint = true → spacing = .joint) : Reads (mark c joint) [.punct c spacing ()] () := by
  intro rest
  show Option.map _ (if _ then _ else _) = _
  rw [if_pos ⟨rfl, h⟩]
  rfl

theorem Reads.symbol {cs : List Char} (h : cs ≠ []) : Reads (symbol cs) (operator cs) () := by
  induction cs with
  | nil => exact absurd rfl h
  | cons c cs ih =>
    cases cs with
    | nil => exact .mark c (by simp)
    | cons d cs => exact (Reads.mark c fun _ => rfl).bind (ih (by simp))

theorem Reads.exactly (ts : List (Token Unit)) : Reads (exactly ts) ts () := by
  intro rest
  show (if _ then _ else _) = _
  simp

theorem Reads.group (d : Delimiter) (h : p.complete ts = some a) :
    Reads (group d p) [.group d ts ()] a := by
  intro rest
  show ((if d = d then p.complete ts else none).map (·, rest)) = _
  rw [if_pos rfl, h]
  rfl

/-- One more item that takes tokens. -/
theorem Reads.many_append (hp : Reads p ts a) (hne : ts ≠ []) (us : List (Token Unit)) :
    many p (ts ++ us) = (many p us).map fun (as, after) => (a :: as, after) := by
  have hlength : us.length < (ts ++ us).length := by
    rw [List.length_append]
    have := List.length_pos_iff.mpr hne
    omega
  rw [many, if_neg (by simp [hne]), hp us]
  exact if_pos hlength

/-- Items one after the other, and what comes after them. -/
theorem many_flatMap_append {write : β → List (Token Unit)} {value : β → α}
    (h : ∀ b, Reads p (write b) (value b)) (hne : ∀ b, write b ≠ []) (bs : List β)
    (us : List (Token Unit)) :
    many p (bs.flatMap write ++ us) =
      (many p us).map fun (as, after) => (bs.map value ++ as, after) := by
  induction bs with
  | nil => simp
  | cons b bs ih =>
    rw [List.flatMap_cons, List.append_assoc, (h b).many_append (hne b), ih, Option.map_map]
    rfl

theorem Reads.rootPath_cons (w : String) {h : Text.isWord w.toList = true} {ws : List String}
    (hws : Reads (rootPath ws) ts ()) :
    Reads (rootPath (w :: ws)) (colons ++ (Token.word w h ++ ts)) () :=
  .bind (.symbol (by simp)) (.bind (.word w) hws)

/-- A word is no other word. -/
theorem run_word_of_ne {w v : String} (hne : v ≠ w) {h : Text.isWord v.toList = true}
    (rest : List (Token Unit)) : (Scan.word w).run (Token.word v h ++ rest) = none := by
  have hplain : (Ident.plain v h).isPlain w = false := by simp [Ident.isPlain, Ident.plain, hne]
  show (guard ((Ident.plain v h).isPlain w) : Scan Unit).run rest = none
  rw [hplain]
  rfl

/-- An attribute before an item is passed over. -/
theorem Reads.attribute {keyword : String} {f : Ident → Scan β}
    (h : Reads (item keyword >>= f) ts b) (body : List (Token Unit)) :
    Reads (item keyword >>= f) (outerAttribute body ++ ts) b := by
  intro rest
  exact h rest

/-- So is a visibility. -/
theorem Reads.item {keyword : String} {h : Text.isWord keyword.toList = true}
    (hpub : keyword ≠ "pub") {f : Ident → Scan β} (v : Visibility) {i : Ident}
    (hf : Reads (f i) us b) :
    Reads (item keyword >>= f) (v.tokens ++ (Token.word keyword h ++ (named i ++ us))) b := by
  intro rest
  have hkeyword := (Reads.word keyword (h := h)).bind (f := fun _ => Scan.name >>= f)
    (.bind (.name i) hf) rest
  have hskip : skipAttributes (v.tokens ++ (Token.word keyword h ++ (named i ++ us)) ++ rest) =
      v.tokens ++ (Token.word keyword h ++ (named i ++ us) ++ rest) := by
    cases v <;> rfl
  have hvisibility : (Scan.word "pub" <|> Pure.pure ()).run
      (v.tokens ++ (Token.word keyword h ++ (named i ++ us) ++ rest)) =
        some ((), Token.word keyword h ++ (named i ++ us) ++ rest) := by
    cases v with
    | inherited =>
      have hnone := run_word_of_ne (h := h) hpub (named i ++ us ++ rest)
      exact congrArg (· <|> some ((), _)) hnone
    | exported => exact Reads.orElse_left (.word "pub") _
  rw [Scan.item, bind_assoc, StateT.run_bind, StateT.run_modify, hskip, pure_bind, bind_assoc,
    StateT.run_bind, hvisibility]
  simpa using hkeyword

end

end Scan

/-! ### Patterns and values -/

open Scan

theorem reads_selfCase (case : Ident) : Reads hostCase (selfCase case) case := by
  rw [selfCase, List.append_assoc]
  exact .bind (.word "Self") (.bind (.symbol (by simp)) (.name case))

/-- The tokens of a pattern are a group, and this is read as the pattern. -/
theorem Pattern.exists_read? (p : Pattern) :
    ∃ d body, p.tokens = [.group d body ()] ∧ Pattern.read? body d = some p := by
  cases p with
  | positional bindings =>
    refine ⟨.parenthesis, commaSeparated (bindings.map named), rfl, ?_⟩
    rw [read?, mapM_commaParts slot? named (fun i => rfl) (by simp [named])
      (by simp [named, isPunct])]
    rfl
  | labelled fields =>
    refine ⟨.brace, commaSeparated (fields.map fun field =>
      named field.1 ++ operator [':'] ++ named field.2), rfl, ?_⟩
    rw [read?, mapM_commaParts field? _ (fun field => rfl) (by simp [named])
      (by simp [named, operator, isPunct])]
    rfl

theorem Pattern.reads_tokens (p : Pattern) : Reads pattern p.tokens p := by
  intro rest
  obtain ⟨d, body, htokens, hread⟩ := p.exists_read?
  rw [htokens]
  show (Pattern.read? body d).map (·, rest) = _
  rw [hread]
  rfl

theorem reads_cloned (binding : Ident) : Reads clone (cloned binding) binding :=
  .bind (.rootPath_cons "core" (.rootPath_cons "clone" (.rootPath_cons "Clone"
    (.rootPath_cons "clone" (.pure ()))))) (.group .parenthesis (Reads.name binding).complete)

/-- There is no comma in a clone, its parentheses apart. -/
theorem any_isPunct_cloned (binding : Ident) : (cloned binding).any (isPunct ',') = false := rfl

/-- The value that the tokens of a gathered value stand for. -/
def Gathered.meant : Gathered → Gathered
  | .single binding => .single binding
  | .tuple bindings => .ofList bindings

theorem Gathered.read?_tokens (g : Gathered) : Gathered.read? g.tokens = some g.meant := by
  cases g with
  | single binding =>
    show (clone.complete (cloned binding)).map Gathered.single = _
    rw [(reads_cloned binding).complete]
    rfl
  | tuple bindings =>
    have hparts := mapM_commaParts clone.complete cloned (fun b => (reads_cloned b).complete)
      (by simp [cloned, core, colons, operator])
      (fun b t ht => by simpa using List.any_eq_false.mp (any_isPunct_cloned b) t ht) bindings
    show ((commaParts (commaSeparated (bindings.map cloned))).mapM clone.complete).map
      Gathered.ofList = _
    rw [hparts]
    rfl

theorem Gathered.reads_tokens (g : Gathered) :
    Reads argument (parenthesized g.tokens) g.meant := by
  intro rest
  show (Gathered.read? g.tokens).map (·, rest) = _
  rw [g.read?_tokens]
  rfl

theorem reads_downcast (library : Path) : Reads (extract library) (downcast library) () := by
  simp only [downcast, List.append_assoc]
  exact .bind (.exactly _) (.bind (.symbol (by simp)) (.bind (.word "extract")
    (.bind (.symbol (by simp)) (.bind (.symbol (by simp)) (.bind (.word "T")
      (.bind (.symbol (by simp)) (.bind (.word "_") (.symbol (by simp)))))))))

/-! ### Arms -/

theorem reads_truth (answer : Bool) :
    Reads truth (if answer then Token.word "true" else Token.word "false") answer := by
  intro rest
  cases answer <;> rfl

/-- The arm for a case and the variant of that name. -/
def TestArm.ofCase (caseType case : Ident) : TestArm := ⟨some ⟨case, caseType, case⟩, true⟩

theorem CaseTest.reads_arm (caseType case : Ident) :
    Reads testArm (CaseTest.arm caseType case) (.ofCase caseType case) := by
  have hpair : Reads casePair (parenthesized (selfCase case ++ braced (operator ['.', '.']) ++
      comma ++ named caseType ++ colons ++ named case)) ⟨case, caseType, case⟩ := by
    simp only [List.append_assoc]
    refine .group .parenthesis (Reads.complete ?_)
    exact .bind (reads_selfCase case) (.bind (.group .brace (Reads.symbol (by simp)).complete)
      (.bind (.symbol (by simp)) (.bind (.name caseType) (.bind (.symbol (by simp))
        (.last (.name case) _)))))
  simp only [CaseTest.arm, List.append_assoc] at hpair ⊢
  exact .bind (.orElse_left (.map some hpair)) (.bind (.symbol (by simp))
    (.bind (reads_truth true) (.last (.symbol (by simp)) _)))

theorem CaseTest.reads_lastArm (answer : Bool) :
    Reads testArm (CaseTest.lastArm answer) ⟨none, answer⟩ := by
  -- The wildcard is no group in parentheses.
  have hwildcard : Reads (some <$> casePair <|> (fun _ => none) <$> Scan.word "_")
      (named .wildcard) none := .orElse_right (fun _ => rfl) (.map _ (.word "_"))
  simp only [CaseTest.lastArm, List.append_assoc]
  exact .bind hwildcard (.bind (.symbol (by simp))
    (.bind (reads_truth answer) (.last (.symbol (by simp)) _)))

/-- The arm that the tokens of an arm of the accessor stand for. -/
def ExtractArm.meant (a : ExtractArm) : ExtractArm := ⟨a.case, a.pattern, a.value.meant⟩

theorem ExtractArm.reads_tokens (library : Path) (a : ExtractArm) :
    Reads (accessArm library) (a.tokens library) (.payload a.meant) := by
  have harm : Reads (extractArm library) (a.tokens library) a.meant := by
    simp only [ExtractArm.tokens, List.append_assoc]
    exact .bind (reads_selfCase a.case) (.bind a.pattern.reads_tokens (.bind (.symbol (by simp))
      (.bind (reads_downcast library) (.bind a.value.reads_tokens (.last (.symbol (by simp)) _)))))
  exact .orElse_left (.map _ harm)

theorem Extractor.reads_lastArm (library : Path) :
    Reads (accessArm library) Extractor.lastArm .nothing := by
  have hempty : Reads emptyArm Extractor.lastArm () := by
    simp only [Extractor.lastArm, List.append_assoc]
    exact .bind (.word "_") (.bind (.symbol (by simp)) (.bind (.rootPath_cons "core"
      (.rootPath_cons "option" (.rootPath_cons "Option" (.rootPath_cons "None" (.pure ())))))
        (.symbol (by simp))))
  exact .orElse_right (fun _ => rfl) (.map _ hempty)

/-! ### Items -/

/-- The predicate as it is read. -/
def CaseTest.function (c : CaseTest) : TestFunction where
  name := c.name
  candidateType := c.caseType
  arms := c.arms.map (.ofCase c.caseType) ++ (c.catchAll.map fun answer => ⟨none, answer⟩).toList

/-- The accessor as it is read. -/
def Extractor.function (e : Extractor) : AccessFunction where
  name := e.name
  arms := e.arms.map (fun a => .payload a.meant) ++ if e.fallback then [.nothing] else []

/-- Derived items as they are read. -/
def Items.program (i : Items) : Program where
  caseType := i.caseType.name
  variants := i.caseType.variants
  host := i.host
  test := i.caseTest.function
  access := i.extractor.function

theorem CaseTest.many_arms (c : CaseTest) :
    many testArm (c.arms.flatMap (CaseTest.arm c.caseType) ++
      (c.catchAll.map CaseTest.lastArm).getD []) = some (c.function.arms, []) := by
  rw [many_flatMap_append (CaseTest.reads_arm c.caseType) (by simp [CaseTest.arm, parenthesized])]
  cases hlast : c.catchAll with
  | none => simp [CaseTest.function, hlast, many]
  | some answer =>
    have hmany := (CaseTest.reads_lastArm answer).many_append
      (by simp [CaseTest.lastArm, named]) []
    rw [List.append_nil] at hmany
    simp [CaseTest.function, hlast, hmany, many]

theorem Extractor.many_arms (library : Path) (e : Extractor) :
    many (accessArm library) (e.arms.flatMap (·.tokens library) ++
      if e.fallback then Extractor.lastArm else []) = some (e.function.arms, []) := by
  rw [many_flatMap_append (ExtractArm.reads_tokens library)
    (by simp [ExtractArm.tokens, selfCase, Token.word, named])]
  cases hlast : e.fallback with
  | false => simp [Extractor.function, hlast, many]
  | true =>
    have hmany := (Extractor.reads_lastArm library).many_append
      (by simp [Extractor.lastArm, named]) []
    rw [List.append_nil] at hmany
    simp [Extractor.function, hlast, hmany, many]

/-- What is read to its end by itself. -/
theorem Scan.complete_eq_some {p : Scan α} {ts : List (Token Unit)} {a : α}
    (h : p.run ts = some (a, [])) : p.complete ts = some a := by
  rw [Scan.complete, h]

theorem CaseTest.reads_tokens (c : CaseTest) : Reads testFunction c.tokens c.function := by
  have hparameters : Reads testParameters (parenthesized (operator ['&'] ++ (Token.word "self" ++
      (comma ++ (Token.word "candidate" ++ (operator [':'] ++ named c.caseType)))))) c.caseType :=
    .group .parenthesis (Reads.complete (.bind (.symbol (by simp)) (.bind (.word "self")
      (.bind (.symbol (by simp)) (.bind (.word "candidate") (.bind (.symbol (by simp))
        (.name c.caseType)))))))
  have hsubject : Reads testSubject
      (parenthesized (Token.word "self" ++ (comma ++ Token.word "candidate"))) () :=
    .group .parenthesis (Reads.complete (.bind (.word "self") (.bind (.symbol (by simp))
      (.word "candidate"))))
  have hbody : Reads testBody (braced (Token.word "match" ++ (parenthesized (Token.word "self" ++
      (comma ++ Token.word "candidate")) ++ braced (c.arms.flatMap (CaseTest.arm c.caseType) ++
        (c.catchAll.map CaseTest.lastArm).getD [])))) c.function.arms :=
    .group .brace (Reads.complete (.bind (.word "match") (.bind hsubject
      (.group .brace (complete_eq_some c.many_arms)))))
  simp only [CaseTest.tokens, List.append_assoc]
  -- Two lines of documentation and an attribute are passed over.
  refine .attribute (.attribute (.attribute (.item (by decide) _ ?_) _) _) _
  exact .bind hparameters (.bind (.symbol (by simp)) (.bind (.word "bool") (.last hbody _)))

theorem Extractor.reads_tokens (library : Path) (e : Extractor) :
    Reads (accessFunction library) (e.tokens library) e.function := by
  have hself : Reads (Scan.symbol ['&'] >>= fun _ => Scan.word "self")
      (operator ['&'] ++ Token.word "self") () := .bind (.symbol (by simp)) (.word "self")
  have hparameters : Reads accessParameters (operator ['<'] ++ (Token.word "T" ++ (operator [':'] ++
      ([Token.punct '\x27' .joint ()] ++ (Token.word "static" ++ (operator ['>'] ++
        parenthesized (operator ['&'] ++ Token.word "self"))))))) () :=
    .bind (.symbol (by simp)) (.bind (.word "T") (.bind (.symbol (by simp))
      (.bind (fun _ => rfl) (.bind (.word "static") (.bind (.symbol (by simp))
        (.group .parenthesis hself.complete))))))
  have hresult : Reads accessResult (core [Token.word "option", Token.word "Option"] ++
      (operator ['<'] ++ (Token.word "T" ++ operator ['>']))) () :=
    .bind (.rootPath_cons "core" (.rootPath_cons "option" (.rootPath_cons "Option" (.pure ()))))
      (.bind (.symbol (by simp)) (.bind (.word "T") (.symbol (by simp))))
  have hbody : Reads (accessBody library) (braced (Token.word "match" ++ (Token.word "self" ++
      braced (e.arms.flatMap (·.tokens library) ++
        if e.fallback then Extractor.lastArm else [])))) e.function.arms :=
    .group .brace (Reads.complete (.bind (.word "match") (.bind (.word "self")
      (.group .brace (complete_eq_some (e.many_arms library))))))
  unfold Extractor.tokens
  simp only [List.append_assoc]
  -- Three lines of documentation and an attribute are passed over.
  refine .attribute (.attribute (.attribute (.attribute (.item (by decide) _ ?_) _) _) _) _
  exact .bind_of_eq hparameters (.bind (.symbol (by simp)) (.bind hresult (.last hbody _)))
    (by simp only [List.append_assoc])

theorem CaseType.reads_variants (c : CaseType) :
    Reads Scan.variants (braced (commaSeparated (c.variants.map named))) c.variants := by
  intro rest
  have hvariants := mapM_commaParts slot? named (fun i => rfl) (by simp [named])
    (by simp [named, isPunct]) c.variants
  exact congrArg (Option.map (·, rest)) hvariants

theorem Items.reads_tokens (library : Path) (i : Items) :
    Reads (Scan.program library) (i.tokens library) i.program := by
  have hfunctions : Reads (functions library)
      (braced (i.caseTest.tokens ++ i.extractor.tokens library))
      (i.caseTest.function, i.extractor.function) :=
    .group .brace (Reads.complete (.bind i.caseTest.reads_tokens
      (.last (i.extractor.reads_tokens library) _)))
  simp only [Items.tokens, CaseType.tokens, List.append_assoc]
  refine .attribute (.attribute (.item (by decide) _ ?_) _) _
  exact .bind i.caseType.reads_variants (.bind (.word "impl") (.bind (.name i.host)
    (.last hfunctions _)))

/-- The tokens of any derived items are read as these items. -/
theorem Items.read?_tokens (library : Path) (i : Items) :
    Program.read? library (i.tokens library) = some i.program :=
  (i.reads_tokens library).complete

end Code

/-- The derived items of a synthesis as they are read. -/
def Synthesis.program (s : Synthesis) : Program := s.items.program

/-- The tokens of a synthesis are read as its items. -/
theorem Synthesis.read?_tokens (library : Path) (s : Synthesis) :
    Program.read? library (s.tokens library) = some s.program :=
  s.items.read?_tokens library

/-! ### The program for a list of cases -/

/-- Names in parentheses are a tuple unless there is just one. -/
theorem Code.Gathered.ofList_of_length_ne_one {bindings : List Ident} (h : bindings.length ≠ 1) :
    Gathered.ofList bindings = .tuple bindings := by
  match bindings, h with
  | [], _ => rfl
  | _ :: _ :: _, _ => rfl

/-- The value that is handed out for an arity is meant as it is written. -/
theorem Extraction.meant_gathered_ofArity (arity : Nat) :
    (Extraction.ofArity arity).gathered.meant = (Extraction.ofArity arity).gathered := by
  unfold ofArity
  split_ifs with hone
  · rfl
  · exact Gathered.ofList_of_length_ne_one (by simpa using hone)

/-- So is the arm of a case. -/
theorem Case.meant_item {c : Case} {arm : AccessorArm} (h : c.accessorArm? = some arm) :
    arm.item.meant = arm.item := by
  obtain ⟨-, rfl⟩ := Case.accessorArm?_eq_some_iff.mp h
  simp only [ExtractArm.meant, AccessorArm.item, Extraction.meant_gathered_ofArity]

section

variable (host : String) (cases : List Case) (visibility : Visibility)

/-- The variants of the discriminator are the rendered cases. -/
theorem variants_synthesize :
    (synthesize host cases visibility).program.variants = cases.map fun c => Ident.escape c.id := by
  simp [Synthesis.program, Items.program, Synthesis.items, synthesize]

/-- The predicate has an arm for each case, and a last one for two or more cases. -/
theorem testArms_synthesize :
    (synthesize host cases visibility).program.test.arms =
      (cases.map fun c => Ident.escape c.id).map
        (TestArm.ofCase (synthesize host cases visibility).program.caseType) ++
        if 1 < cases.length then [⟨none, false⟩] else [] := by
  have hnames : (synthesize host cases visibility).items.caseTest.arms =
      cases.map fun c => Ident.escape c.id := by
    simp [Synthesis.items, synthesize]
  have hlast : (synthesize host cases visibility).items.caseTest.catchAll =
      if 1 < cases.length then some false else none := rfl
  rw [Synthesis.program, Items.program, CaseTest.function, hnames, hlast]
  split_ifs <;> rfl

/-- The accessor has an arm for each case with values, and a last one if it needs one. -/
theorem accessArms_synthesize :
    (synthesize host cases visibility).program.access.arms =
      ((cases.filterMap Case.accessorArm?).map AccessorArm.item).map .payload ++
        if (synthesize host cases visibility).accessor.fallback then [.nothing] else [] := by
  have hmeant : ∀ arm ∈ cases.filterMap Case.accessorArm?, arm.item.meant = arm.item := by
    intro arm harm
    obtain ⟨c, -, hc⟩ := List.mem_filterMap.mp harm
    exact Case.meant_item hc
  have harms : (synthesize host cases visibility).program.access.arms =
      ((cases.filterMap Case.accessorArm?).map AccessorArm.item).map
        (fun arm => AccessArm.payload arm.meant) ++
        if (synthesize host cases visibility).accessor.fallback then [.nothing] else [] := rfl
  rw [harms, List.map_map, List.map_map]
  congr 1
  exact List.map_congr_left fun arm harm => congrArg AccessArm.payload (hmeant arm harm)

end

end EnumCases
