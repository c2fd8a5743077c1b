import EnumCases.Proofs.EscapeRules
import EnumCases.Proofs.Image
import EnumCases.Proofs.Names
import Mathlib.Data.List.Perm.Subperm

/-!
# What the arms of the accessor bind and use

An arm of the accessor need not come from a case: its extraction may hand out more or fewer values
than its payload has. Its tokens are an arm of a match all the same, and `MatchArm.read?` takes them
apart again: the case, the pattern, and the names that the value uses. For every arm these are what
the arm was rendered from (`ExtractArm.read?_tokens`), so what the pattern binds can be compared with
what the value uses.

Main statement: the value uses each binding once and in order, and all of them are bound unless the
payload is a record with too few labels (`AccessorArm.hygienic`).
-/

namespace EnumCases

open Code Token

/-! ### Reading an arm -/

namespace Token

mutual

/-- The names that a token uses as variables. An identifier in a path is no variable. -/
def freeNames (inPath : Bool) : Token α → List Ident
  | .ident i _ => if inPath then [] else [i]
  | .group _ body _ => freeNamesAll false body
  | _ => []

/-- The names that an expression uses as variables, in order. An identifier beside a colon belongs to
a path. -/
def freeNamesAll (afterColon : Bool) : List (Token α) → List Ident
  | [] => []
  | t :: ts =>
    -- The first identifier of a path has the colon after it, and all others have one before them.
    t.freeNames (afterColon || ts.head?.any (isPunct ':')) ++ freeNamesAll (t.isPunct ':') ts

end

end Token

namespace Code

/-- The argument of the call that an arm ends with. -/
def argument? (ts : List (Token α)) : Option (List (Token α)) :=
  match ts.reverse with
  | .punct ',' _ _ :: .group .parenthesis value _ :: _ => some value
  | _ => none

/-- An arm of a match, as it is read from tokens. -/
structure MatchArm where
  /-- The case. -/
  case : Ident
  /-- The pattern after the case. -/
  pattern : Pattern
  /-- The names that the value uses, in order. -/
  used : List Ident

namespace MatchArm

/-- The arm that tokens are: a case of the host with a pattern, and a call. -/
def read? : List (Token α) → Option MatchArm
  | .ident _ _ :: .punct ':' _ _ :: .punct ':' _ _ :: .ident case _ :: .group d body _ ::
      .punct '=' _ _ :: .punct '>' _ _ :: call => do
    let pattern ← Pattern.read? body d
    let value ← argument? call
    return ⟨case, pattern, freeNamesAll false value⟩
  | _ => none

/-- Every name that the value uses is bound by the pattern. -/
def Scoped (r : MatchArm) : Prop := ∀ name ∈ r.used, name ∈ r.pattern.bindings

/-- Each of the labels stands in its place in the pattern. -/
def Mentions (r : MatchArm) (labels : List String) : Prop :=
  ∀ (i : Nat) (label : String), labels[i]? = some label →
    r.pattern.labels[i]? = some (.escape label)

/-- How what is read relates to the arm of the accessor that it was rendered from. Nothing is asked of
that arm. -/
structure Renders (r : MatchArm) (arm : AccessorArm) : Prop where
  case : r.case = .escape arm.case
  /-- The value uses the bindings in order, each of them once. -/
  used : r.used = Ident.bindings arm.extraction.arity
  /-- A pattern by position binds the same names, whatever the payload's arity is. -/
  positional : (∀ labels, arm.payload ≠ .record labels) →
    r.pattern = .positional (Ident.bindings arm.extraction.arity)
  /-- A pattern by label binds as many names as there are both labels and bindings, each label to
  the binding of the same number. -/
  labelled : ∀ labels, arm.payload = .record labels → ∃ fields, r.pattern = .labelled fields ∧
    fields.length = min arm.extraction.arity labels.length ∧
    ∀ (i : Nat) (label : String), i < arm.extraction.arity → labels[i]? = some label →
      fields[i]? = some (.escape label, .binding i)
  /-- All names are bound unless there are fewer labels than names. -/
  scoped_iff : r.Scoped ↔
    ∀ labels, arm.payload = .record labels → arm.extraction.arity ≤ labels.length
  /-- All labels are in their places unless there are fewer names than labels. -/
  mentions_iff : ∀ labels, arm.payload = .record labels →
    (r.Mentions labels ↔ labels.length ≤ arm.extraction.arity)
  /-- Labels that are rendered differently are all there, in whatever places, unless there are fewer
  names than labels. -/
  mentioned_iff : ∀ labels, arm.payload = .record labels → arm.payload.LabelsDiffer →
    ((∀ label ∈ labels, .escape label ∈ r.pattern.labels) ↔ labels.length ≤ arm.extraction.arity)

end MatchArm

/-- The arm of a match that an arm of the accessor is meant to be. -/
def ExtractArm.matchArm (a : ExtractArm) : MatchArm := ⟨a.case, a.pattern, a.value.bindings⟩

end Code

/-- What an extraction hands to the downcast, with names out of a list: the first one by itself, or
all of them. There is no outcome if the list has no first one. -/
def Extraction.gatherFrom? (names : List Ident) : Extraction → Option Gathered
  | .value => names[0]?.map .single
  | .tuple _ => some (.tuple names)

/-- An arm of the accessor whose value takes its names out of the list of bindings, if they are
there. -/
def AccessorArm.item? (arm : AccessorArm) : Option ExtractArm :=
  (arm.extraction.gatherFrom? (Ident.bindings arm.extraction.arity)).map
    (⟨.escape arm.case, arm.payload.pattern (Ident.bindings arm.extraction.arity), ·⟩)

/-- The names of an arm, whatever its payload and its extraction are. -/
structure AccessorArm.Hygienic (arm : AccessorArm) (library : Path) : Prop where
  /-- The value finds the names that it asks for among the bindings. -/
  total : arm.item? = some arm.item
  /-- The bindings are numbered from zero. -/
  texts : (Ident.bindings arm.extraction.arity).map Ident.text =
    (List.range arm.extraction.arity).map ("__" ++ toString ·)
  /-- No two bindings are written alike. -/
  distinct : ((Ident.bindings arm.extraction.arity).map Ident.text).Nodup
  /-- The tokens are an arm of a match, with the names in their places. -/
  renders : ∃ r, MatchArm.read? (arm.item.tokens library) = some r ∧ r.Renders arm

/-- An arm whose payload and extraction fit together. -/
structure AccessorArm.Fits (arm : AccessorArm) (library : Path) : Prop where
  /-- As many values are handed out as the payload has. -/
  arity : arm.extraction.arity = arm.payload.arity
  /-- A record has one label for each of them. -/
  labels : ∀ labels, arm.payload = .record labels → arm.extraction.arity = labels.length
  /-- The tokens bind every name that they use, and mention every label. -/
  read : ∃ r, MatchArm.read? (arm.item.tokens library) = some r ∧ r.Scoped ∧
    ∀ labels, arm.payload = .record labels → r.Mentions labels

/-! ### What is rendered is read -/

namespace Token

/-- A comma ends the path before it. -/
theorem freeNamesAll_append_comma (afterColon : Bool) (ts us : List (Token Unit)) :
    freeNamesAll afterColon (ts ++ comma ++ us) =
      freeNamesAll afterColon ts ++ freeNamesAll false us := by
  induction ts generalizing afterColon with
  | nil => rfl
  | cons t ts ih =>
    have hhead : (ts ++ comma ++ us).head?.any (isPunct ':') = ts.head?.any (isPunct ':') := by
      cases ts <;> rfl
    rw [List.cons_append, List.cons_append, freeNamesAll, freeNamesAll, hhead, ih,
      List.append_assoc]

/-- Parts with commas between them use the names that each of them uses. -/
theorem freeNamesAll_commaSeparated (parts : List (List (Token Unit))) :
    freeNamesAll false (commaSeparated parts) = parts.flatMap (freeNamesAll false) := by
  induction parts with
  | nil => rfl
  | cons p parts ih =>
    cases parts with
    | nil => simp [commaSeparated]
    | cons q parts =>
      rw [commaSeparated, List.intercalate_cons_cons, freeNamesAll_append_comma, List.flatMap_cons]
      exact congrArg (freeNamesAll false p ++ ·) ih

end Token

namespace Code

/-- A clone uses the name that is cloned, and no other. -/
theorem freeNamesAll_cloned (binding : Ident) : freeNamesAll false (cloned binding) = [binding] :=
  rfl

/-- A gathered value uses its names in order, and no others. -/
theorem Gathered.freeNamesAll_tokens (g : Gathered) : freeNamesAll false g.tokens = g.bindings := by
  cases g with
  | single binding => exact freeNamesAll_cloned binding
  | tuple bindings =>
    show freeNamesAll false (commaSeparated (bindings.map cloned)) ++ [] = bindings
    rw [freeNamesAll_commaSeparated, List.append_nil, List.flatMap_map]
    simp only [freeNamesAll_cloned]
    exact List.flatMap_singleton' bindings

/-- The argument of a call is what stands in its parentheses. -/
theorem argument?_call (callee value : List (Token Unit)) :
    argument? (callee ++ (parenthesized value ++ comma)) = some value := by
  simp [argument?, parenthesized, comma, operator]

/-- The tokens of an arm are read as its case, its pattern and the names of its value. -/
theorem ExtractArm.read?_tokens (library : Path) (a : ExtractArm) :
    MatchArm.read? (a.tokens library) = some a.matchArm := by
  obtain ⟨d, body, htokens, hpattern⟩ := a.pattern.exists_read?
  have harm : a.tokens library = selfCase a.case ++ [.group d body ()] ++ fatArrow ++
      (downcast library ++ (parenthesized a.value.tokens ++ comma)) := by
    simp only [ExtractArm.tokens, htokens, List.append_assoc]
  rw [harm, selfCase]
  -- The path to the library may hold any tokens; the argument is found from the end.
  simp [MatchArm.read?, word, named, colons, fatArrow, operator, hpattern, argument?_call,
    Gathered.freeNamesAll_tokens, ExtractArm.matchArm]

end Code

/-! ### What is bound and what is used -/

namespace Ident

/-- A binding is among the first ones just if its number is. -/
theorem binding_mem_bindings_iff {i count : Nat} : binding i ∈ bindings count ↔ i < count := by
  rw [bindings, List.mem_map_of_injective binding_injective, List.mem_range]

/-- The first bindings of a list of them. -/
theorem take_bindings (few count : Nat) : (bindings count).take few = bindings (min few count) := by
  rw [bindings, ← List.map_take, List.take_range, bindings]

/-- Some bindings are among others just if there are no more of them. -/
theorem bindings_subset_iff {few many : Nat} :
    (∀ name ∈ bindings few, name ∈ bindings many) ↔ few ≤ many := by
  constructor
  · intro h
    cases few with
    | zero => exact Nat.zero_le many
    | succ last =>
      -- The last of them is enough to look at.
      exact binding_mem_bindings_iff.mp (h (binding last) (binding_mem_bindings_iff.mpr (by omega)))
  · intro h name hname
    obtain ⟨i, hi, rfl⟩ := List.mem_map.mp hname
    exact binding_mem_bindings_iff.mpr (Nat.lt_of_lt_of_le (List.mem_range.mp hi) h)

end Ident

/-- An extraction gathers all bindings in order. -/
theorem Extraction.bindings_gathered (e : Extraction) :
    e.gathered.bindings = Ident.bindings e.arity := by
  cases e <;> rfl

/-- An extraction finds the names that it asks for among as many bindings as it hands out. -/
theorem Extraction.gatherFrom?_bindings (e : Extraction) :
    e.gatherFrom? (Ident.bindings e.arity) = some e.gathered := by
  cases e <;> rfl

section Record

variable (labels : List String) (count : Nat)

/-- The pattern of a record binds the first names, as many as it has labels. -/
theorem Payload.bindings_pattern_record :
    ((Payload.record labels).pattern (Ident.bindings count)).bindings =
      Ident.bindings (min count labels.length) := by
  simp only [Payload.pattern, Pattern.bindings]
  rw [List.zip_eq_zip_take_min, List.map_snd_zip (by simp), Ident.take_bindings, List.length_map,
    Ident.length_bindings, Nat.min_eq_left (Nat.min_le_right _ _), Nat.min_comm]

/-- The pattern of a record has the first labels, as many as there are names. -/
theorem Payload.labels_pattern_record :
    ((Payload.record labels).pattern (Ident.bindings count)).labels =
      (labels.take count).map .escape := by
  simp only [Payload.pattern, Pattern.labels]
  rw [List.zip_eq_zip_take_min, List.map_fst_zip (by simp), ← List.map_take, List.length_map,
    Ident.length_bindings, Nat.min_comm, ← List.take_eq_take_min]

/-- The pattern of a record binds each label to the binding of the same number, as long as there are
both. -/
theorem Payload.exists_pattern_record :
    ∃ fields, (Payload.record labels).pattern (Ident.bindings count) = .labelled fields ∧
      fields.length = min count labels.length ∧
      ∀ (i : Nat) (label : String), i < count → labels[i]? = some label →
        fields[i]? = some (.escape label, .binding i) := by
  refine ⟨(labels.map Ident.escape).zip (Ident.bindings count), rfl, ?_, ?_⟩
  · rw [List.length_zip, List.length_map, Ident.length_bindings, Nat.min_comm]
  · intro i label hi hlabel
    rw [List.getElem?_zip_eq_some]
    constructor
    · simp [hlabel]
    · simp [Ident.bindings, hi]

end Record

namespace AccessorArm

variable (arm : AccessorArm)

/-- An arm finds the names that it asks for. -/
theorem item?_eq : arm.item? = some arm.item := by
  rw [item?, Extraction.gatherFrom?_bindings]
  rfl

/-- The pattern of an arm for a record. -/
theorem pattern_matchArm_of_eq {labels : List String} (h : arm.payload = .record labels) :
    arm.item.matchArm.pattern =
      (Payload.record labels).pattern (Ident.bindings arm.extraction.arity) := by
  rw [← h]
  rfl

/-- The pattern of an arm for any other payload. -/
theorem pattern_matchArm_of_ne (h : ∀ labels, arm.payload ≠ .record labels) :
    arm.item.matchArm.pattern = .positional (Ident.bindings arm.extraction.arity) := by
  simp only [ExtractArm.matchArm, item]
  cases hpayload : arm.payload with
  | unit | tuple arity => rfl
  | record labels => exact absurd hpayload (h labels)

/-- The names of an arm are all bound unless its payload is a record with fewer labels. -/
theorem scoped_matchArm_iff : arm.item.matchArm.Scoped ↔
    ∀ labels, arm.payload = .record labels → arm.extraction.arity ≤ labels.length := by
  have hused : arm.item.matchArm.used = Ident.bindings arm.extraction.arity :=
    arm.extraction.bindings_gathered
  rw [MatchArm.Scoped, hused]
  by_cases hrecord : ∃ labels, arm.payload = .record labels
  · obtain ⟨labels, h⟩ := hrecord
    rw [arm.pattern_matchArm_of_eq h, Payload.bindings_pattern_record, Ident.bindings_subset_iff,
      Nat.le_min]
    simp [h]
  · have hne : ∀ labels, arm.payload ≠ .record labels := fun labels h => hrecord ⟨labels, h⟩
    -- What is bound by position are the names themselves, as many as are used.
    rw [arm.pattern_matchArm_of_ne hne]
    simp [Pattern.bindings, hne]

/-- The labels of an arm for a record are the first ones of the record. -/
theorem labels_matchArm {labels : List String} (h : arm.payload = .record labels) :
    arm.item.matchArm.pattern.labels = (labels.take arm.extraction.arity).map .escape := by
  rw [arm.pattern_matchArm_of_eq h, Payload.labels_pattern_record]

/-- The labels of a record are all in their places unless there are fewer names. -/
theorem mentions_matchArm_iff {labels : List String} (h : arm.payload = .record labels) :
    arm.item.matchArm.Mentions labels ↔ labels.length ≤ arm.extraction.arity := by
  rw [MatchArm.Mentions, arm.labels_matchArm h]
  constructor
  · intro hall
    by_contra hlt
    -- The first label for which there is no name has no place.
    have hlast := List.getElem?_eq_getElem (Nat.lt_of_not_le hlt)
    have hplace := hall _ _ hlast
    rw [List.getElem?_map, List.getElem?_take_eq_none (Nat.le_refl _)] at hplace
    cases hplace
  · intro hle i label hlabel
    rw [List.take_of_length_le hle, List.getElem?_map, hlabel]
    rfl

/-- Labels that differ are all mentioned unless there are fewer names. -/
theorem forall_mem_labels_matchArm_iff {labels : List String} (h : arm.payload = .record labels)
    (hd : arm.payload.LabelsDiffer) :
    (∀ label ∈ labels, .escape label ∈ arm.item.matchArm.pattern.labels) ↔
      labels.length ≤ arm.extraction.arity := by
  rw [h] at hd
  have hnodup : (labels.map Ident.escape).Nodup := hd
  rw [arm.labels_matchArm h]
  constructor
  · intro hall
    have hsubset : labels.map Ident.escape ⊆ (labels.take arm.extraction.arity).map .escape := by
      intro i hi
      obtain ⟨label, hlabel, rfl⟩ := List.mem_map.mp hi
      exact hall label hlabel
    have hlength := (hnodup.subperm hsubset).length_le
    simp only [List.length_map, List.length_take] at hlength
    omega
  · intro hle label hlabel
    rw [List.take_of_length_le hle]
    exact List.mem_map_of_mem hlabel

/-- The arm of a match that an arm is rendered as. -/
theorem renders_matchArm : arm.item.matchArm.Renders arm := by
  constructor
  case case => rfl
  case used => exact arm.extraction.bindings_gathered
  case positional => exact arm.pattern_matchArm_of_ne
  case labelled =>
    intro labels h
    rw [arm.pattern_matchArm_of_eq h]
    exact Payload.exists_pattern_record labels arm.extraction.arity
  case scoped_iff => exact arm.scoped_matchArm_iff
  case mentions_iff => exact fun labels h => arm.mentions_matchArm_iff h
  case mentioned_iff => exact fun labels h hd => arm.forall_mem_labels_matchArm_iff h hd

/-- The arm of a case hands out as many values as its payload has. -/
theorem arity_of_mem_synthesize {host : String} {cases : List Case} {visibility : Visibility}
    {arm : AccessorArm} (h : arm ∈ (synthesize host cases visibility).accessor.arms) :
    arm.extraction.arity = arm.payload.arity := by
  obtain ⟨c, -, harm⟩ := List.mem_filterMap.mp h
  exact (Case.isFor_accessorArm harm).arity

/-- Every arm has the names that it asks for, pairwise different ones. Its value uses each of them
once and in order; its pattern binds the same ones, or for a record as many as there are labels. So
the names are all bound unless the payload is a record with fewer labels, and the labels of a record
are all mentioned unless there are fewer names. In the arms that are synthesized for cases there are
as many labels as names. -/
theorem hygienic (library : Path) :
    (∀ arm : AccessorArm, arm.Hygienic library) ∧
    ∀ (host : String) (cases : List Case) (visibility : Visibility),
      ∀ arm ∈ (synthesize host cases visibility).accessor.arms, arm.Fits library := by
  constructor
  · intro arm
    constructor
    case total => exact arm.item?_eq
    case texts =>
      rw [Ident.bindings, List.map_map]
      rfl
    case distinct =>
      exact (Ident.nodup_bindings arm.extraction.arity).map fun _ _ => Ident.text_injective
    case renders => exact ⟨_, arm.item.read?_tokens library, arm.renders_matchArm⟩
  · intro host cases visibility arm hmem
    have harity := arity_of_mem_synthesize hmem
    have hlabels : ∀ labels, arm.payload = .record labels →
        arm.extraction.arity = labels.length := by
      intro labels h
      rw [harity, h]
      rfl
    refine ⟨harity, hlabels, _, arm.item.read?_tokens library, ?_, ?_⟩
    · rw [scoped_matchArm_iff]
      exact fun labels h => Nat.le_of_eq (hlabels labels h)
    · intro labels h
      rw [mentions_matchArm_iff arm h]
      exact Nat.le_of_eq (hlabels labels h).symm

/-- The arm of a record that is synthesized, one that uses a name which is not bound, and one that
leaves a label out. -/
theorem hygienic_records :
    (⟨"At", .record ["y", "type"], .tuple 2⟩ : AccessorArm) ∈
        (synthesize "Shape" [.record "At" ["y", "type"], .unit "Empty"] .inherited).accessor.arms ∧
      Fits ⟨"At", .record ["y", "type"], .tuple 2⟩ .standard ∧
      (∃ r, MatchArm.read? ((item ⟨"At", .record ["y"], .tuple 2⟩).tokens .standard) = some r ∧
        ¬ r.Scoped ∧ r.Mentions ["y"]) ∧
      ∃ r, MatchArm.read? ((item ⟨"At", .record ["y", "type"], .value⟩).tokens .standard) = some r ∧
        r.Scoped ∧ ¬ r.Mentions ["y", "type"] := by
  obtain ⟨hall, hsynthesized⟩ := hygienic .standard
  have hmem : (⟨"At", .record ["y", "type"], .tuple 2⟩ : AccessorArm) ∈
      (synthesize "Shape" [.record "At" ["y", "type"], .unit "Empty"] .inherited).accessor.arms := by
    decide
  refine ⟨hmem, hsynthesized _ _ _ _ hmem, ?_, ?_⟩
  · obtain ⟨r, hread, hr⟩ := (hall ⟨"At", .record ["y"], .tuple 2⟩).renders
    refine ⟨r, hread, ?_, (hr.mentions_iff _ rfl).mpr (by decide)⟩
    intro hscoped
    exact absurd (hr.scoped_iff.mp hscoped _ rfl) (by decide)
  · obtain ⟨r, hread, hr⟩ := (hall ⟨"At", .record ["y", "type"], .value⟩).renders
    refine ⟨r, hread, hr.scoped_iff.mpr ?_, ?_⟩
    · intro labels h
      cases h
      decide
    · intro hmentions
      exact absurd ((hr.mentions_iff _ rfl).mp hmentions) (by decide)

end AccessorArm

end EnumCases
