import EnumCases.Proofs.Depth
import EnumCases.Proofs.Parsing

/-!
# How attributes set the support library

The helper attributes of an item are read one after the other, and the entries of each from left to
right. `Grammar.Listing` says what a list with commas is, `Entry.Sets` what a good entry is, and
`Entry.Offends` what is wrong with any other. An attribute is bad because its arguments are no list
of entries, or else because of the first of these that offends (`Attribute.IsBad`); the entries
count only if all of the list can be read.

Main statement: the last path that is set counts, the first bad helper is reported, and attributes
can be read in two goes (`libraryFrom_inOrder`).
-/

namespace EnumCases

open Grammar

/-! ### Lists with commas -/

namespace Grammar

/-- Items with commas between them, and perhaps one after the last, that are read from a cursor to
the end of its tokens. -/
inductive Listing (item : Parser α) : Cursor → List α → Cursor → Prop where
  /-- No tokens are left. -/
  | nil {c : Cursor} (ended : c.rest = []) : Listing item c [] c
  /-- An item without a comma is the last one. -/
  | last {c c' : Cursor} {a : α} (some : c.rest ≠ []) (read : item.run c = .ok (a, c'))
      (ended : c'.rest = []) : Listing item c [a] c'
  /-- After a comma there may be further items or none. -/
  | cons {c c₁ c' : Cursor} {a : α} {as : List α} {spacing : Spacing} {span : Span} {ts : Tokens}
      (some : c.rest ≠ []) (read : item.run c = .ok (a, c₁))
      (comma : c₁.rest = .punct ',' spacing span :: ts)
      (further : Listing item { c₁ with rest := ts } as c') : Listing item c (a :: as) c'

namespace Listing

variable {item : Parser α}

/-- A list is read to the end. -/
theorem rest_eq_nil {c c' : Cursor} {as : List α} (h : Listing item c as c') : c'.rest = [] := by
  induction h with
  | nil ended => exact ended
  | last _ _ ended => exact ended
  | cons _ _ _ _ ih => exact ih

/-- What some rounds read to the end is a list. -/
theorem of_run_rounds {n : Nat} {c c' : Cursor} {items : List (α × Tokens)}
    (h : (separated.rounds List.isEmpty item (symbol ",") n).run c = .ok (items, c'))
    (ended : c'.rest = []) : Listing item c (items.map Prod.fst) c' := by
  induction n generalizing c items with
  | zero =>
    obtain ⟨rfl, rfl⟩ := Prod.mk.inj (Except.ok.inj h)
    exact .nil ended
  | succ n ih =>
    -- A round looks for the end twice, before its item and after it.
    obtain ⟨stopped, c₁, hpeek, h⟩ := exists_of_run_bind h
    obtain ⟨rfl, rfl⟩ := Prod.mk.inj (Except.ok.inj hpeek)
    by_cases hrest : c.rest = []
    · rw [hrest] at h
      obtain ⟨rfl, rfl⟩ := Prod.mk.inj (Except.ok.inj h)
      exact .nil ended
    rw [if_neg (by simpa using hrest)] at h
    obtain ⟨a, c₁, hread, h⟩ := exists_of_run_bind h
    obtain ⟨stopped, c₂, hpeek, h⟩ := exists_of_run_bind h
    obtain ⟨rfl, rfl⟩ := Prod.mk.inj (Except.ok.inj hpeek)
    by_cases hrest₁ : c₁.rest = []
    · rw [hrest₁] at h
      obtain ⟨rfl, rfl⟩ := Prod.mk.inj (Except.ok.inj h)
      exact .last hrest hread ended
    rw [if_neg (by simpa using hrest₁)] at h
    obtain ⟨between, c₂, hcomma, h⟩ := exists_of_run_bind h
    have htext : ",".toList = [','] := rfl
    obtain ⟨spacing, span, ts, hts, rfl, rfl⟩ := exists_of_run_symbol htext hcomma
    obtain ⟨further, c₃, hfurther, h⟩ := exists_of_run_bind h
    obtain ⟨rfl, rfl⟩ := Prod.mk.inj (Except.ok.inj h)
    exact .cons hrest hread hts (ih hfurther)

/-- A list has no more items than there are tokens, but for one: no item puts tokens back, and each
comma takes one. -/
theorem length_le {n : Nat} [hitem : Takes 0 n item] {c c' : Cursor} {as : List α}
    (h : Listing item c as c') (hc : Token.size c.rest < n) : as.length ≤ c.rest.length + 1 := by
  induction h with
  | nil => exact Nat.zero_le _
  | last => exact Nat.le_add_left _ _
  | @cons c c₁ c' a as spacing span ts some read comma further ih =>
    have hreaches := hitem.reaches c hc
    rw [read] at hreaches
    cases hreaches with
    | ok suffix length =>
      rw [comma] at suffix length
      have hsuffix : ts <:+ c.rest := (List.suffix_cons _ ts).trans suffix
      have hsize := Token.size_le_of_suffix hsuffix
      simp only [List.length_cons] at length ⊢
      have hfurther := ih (show Token.size ts < n by omega)
      exact Nat.succ_le_succ (Nat.le_trans hfurther length)

/-- As many rounds as there are items read a list. -/
theorem exists_run_rounds {c c' : Cursor} {as : List α} (h : Listing item c as c') {n : Nat}
    (hn : as.length ≤ n) :
    ∃ items, (separated.rounds List.isEmpty item (symbol ",") n).run c = .ok (items, c') ∧
      items.map Prod.fst = as := by
  induction h generalizing n with
  | @nil c ended =>
    refine ⟨[], ?_, rfl⟩
    cases n with
    | zero => rfl
    | succ n => exact run_peek_bind (List.isEmpty_iff.mpr ended)
  | @last c c' a some read ended =>
    obtain ⟨n, rfl⟩ : ∃ m, n = m + 1 := ⟨n - 1, by simp at hn; omega⟩
    refine ⟨[(a, [])], ?_, rfl⟩
    refine (run_peek_bind (List.isEmpty_eq_false_iff.mpr some)).trans ?_
    refine (run_bind_of_run read).trans ?_
    exact run_peek_bind (List.isEmpty_iff.mpr ended)
  | @cons c c₁ c' a as spacing span ts some read comma further ih =>
    obtain ⟨n, rfl⟩ : ∃ m, n = m + 1 := ⟨n - 1, by simp at hn; omega⟩
    obtain ⟨items, hitems, hmap⟩ := ih (Nat.le_of_succ_le_succ hn)
    refine ⟨(a, [.punct ',' .alone span]) :: items, ?_, by rw [List.map_cons, hmap]⟩
    have hmore : c₁.rest.isEmpty = false := by rw [comma]; rfl
    have hcomma : (symbol ",").run c₁ = .ok ([.punct ',' .alone span], { c₁ with rest := ts }) := by
      have hnext : atSymbol "," c₁.rest = true := by rw [comma]; rfl
      rw [Reads.symbol hnext c₁ rfl, comma]
      rfl
    -- The round goes along its parts: no end, the item, no end, the comma, the rounds after it.
    refine (run_peek_bind (List.isEmpty_eq_false_iff.mpr some)).trans ?_
    refine (run_bind_of_run read).trans ?_
    refine (run_peek_bind hmore).trans ?_
    refine (run_bind_of_run hcomma).trans ?_
    exact run_bind_of_run hitems

end Listing

/-- All that is read from tokens with commas is a list: there are rounds enough for any. -/
theorem complete_terminated_eq_ok_iff {item : Parser α} {scope : Span} {ts : Tokens}
    [Takes 0 (Token.size ts + 1) item] {as : List α} :
    complete (terminated item) scope ts = .ok as ↔
      ∃ c, Listing item ⟨ts, scope, none, none⟩ as c ∧ c.leftOver = none := by
  rw [complete_eq_ok_iff]
  constructor
  · rintro ⟨c, hrun, hleft, hrest⟩
    obtain ⟨items, c₁, hseparated, hpure⟩ := exists_of_run_bind hrun
    obtain ⟨rfl, rfl⟩ := Prod.mk.inj (Except.ok.inj hpure)
    exact ⟨c₁, Listing.of_run_rounds hseparated hrest, hleft⟩
  · rintro ⟨c, hlisting, hleft⟩
    have hlength := hlisting.length_le (Nat.lt_succ_self (Token.size ts))
    obtain ⟨items, hitems, rfl⟩ := hlisting.exists_run_rounds hlength
    have hseparated : (separated List.isEmpty item (symbol ",")).run ⟨ts, scope, none, none⟩ =
        .ok (items, c) := hitems
    exact ⟨c, run_bind_of_run hseparated, hleft, hlisting.rest_eq_nil⟩

end Grammar

/-! ### Entries -/

/-- A path that is one word: an identifier that is not raw, without `::` and generic arguments. -/
def Path.IsWord (p : Path) (name : String) : Prop :=
  ∃ i : Ident, p = ⟨false, [⟨i, none⟩]⟩ ∧ i.raw = false ∧ i.name = name

/-- Whether a path is one word is seen. -/
theorem Path.isWord_iff {p : Path} {name : String} : p.isWord name = true ↔ p.IsWord name := by
  unfold Path.isWord Path.ident? Path.IsWord
  split
  · simp [Ident.isPlain]
  · rename_i hne
    constructor
    · intro h
      cases h
    · rintro ⟨i, rfl, -⟩
      exact absurd rfl (hne i)

namespace Grammar.Entry

/-- An entry that gives a string to the word `crate`: `text` is what the string literal `l` stands
for, and `span` the place of it. -/
structure Assigns (e : Entry) (l : Literal) (text : String) (span : Span) : Prop where
  /-- The path is the word. -/
  word : e.path.path.IsWord "crate"
  /-- A value follows, and it is the literal. -/
  value : ∃ equals value, e.tail = .value equals value ∧ value.form = .literal l ∧
    Token.spanOf value.tokens = span
  /-- The literal is a string. -/
  string : l.stringValue? = some text

/-- A text is a path, where it is the text of a literal at a place. -/
def IsPathAt (text : String) (span : Span) (p : Path) : Prop :=
  ∃ ts, lex text = .ok ts ∧ Path.read span (Token.mapAll (fun _ => span) ts) = .ok p

/-- A good entry: it gives a string without a suffix, and that is a path. -/
def Sets (e : Entry) (p : Path) : Prop :=
  ∃ l text span, e.Assigns l text span ∧ l.suffix = "" ∧ IsPathAt text span p

/-- What is wrong with an entry. -/
inductive Offends (e : Entry) : Fault → Prop where
  /-- No value follows the path. -/
  | notKeyValue (tail : ∀ equals value, e.tail ≠ .value equals value) :
    Offends e ⟨.notKeyValue, Token.spanOf e.tokens⟩
  /-- The path is another one. -/
  | unknownOption {equals : Span} {value : Phrase} (tail : e.tail = .value equals value)
      (word : ¬ e.path.path.IsWord "crate") : Offends e ⟨.unknownOption, Token.spanOf e.path.tokens⟩
  /-- The value is no string literal. -/
  | notString {equals : Span} {value : Phrase} (tail : e.tail = .value equals value)
      (word : e.path.path.IsWord "crate")
      (no_string : ∀ l text, value.form = .literal l → l.stringValue? ≠ some text) :
    Offends e ⟨.notString, Token.spanOf value.tokens⟩
  /-- The text of the string has no tokens. -/
  | lexical {l : Literal} {text : String} {span : Span} (assigns : e.Assigns l text span)
      {position : Position} (text : lex text = .error position) :
    Offends e ⟨.lexical, ⟨position, position⟩⟩
  /-- The tokens are no path. -/
  | noPath {l : Literal} {text : String} {span : Span} (assigns : e.Assigns l text span)
      {ts : Tokens} (text : lex text = .ok ts) {f : Fault}
      (read : Path.read span (Token.mapAll (fun _ => span) ts) = .error f) : Offends e f
  /-- The literal has a suffix. -/
  | suffixed {l : Literal} {text : String} {span : Span} (assigns : e.Assigns l text span)
      {p : Path} (text : IsPathAt text span p) (suffix : l.suffix ≠ "") :
    Offends e ⟨.suffixedString l.suffix, span⟩

/-- What an entry sets depends on the string that it gives. -/
theorem Assigns.library_eq {e : Entry} {l : Literal} {text : String} {span : Span}
    (h : e.Assigns l text span) : e.library = Path.ofLiteral l text span := by
  obtain ⟨hword, ⟨equals, value, htail, hform, rfl⟩, hstring⟩ := h
  rw [library, htail]
  simp only [Path.isWord_iff.mpr hword, if_true, hform, hstring]

/-- A string that is a path sets it, unless the literal has a suffix. -/
theorem ofLiteral_of_isPathAt {text : String} {span : Span} {p : Path} (h : IsPathAt text span p)
    (l : Literal) :
    Path.ofLiteral l text span =
      if l.suffix.isEmpty then .ok p else .error ⟨.suffixedString l.suffix, span⟩ := by
  obtain ⟨ts, hlex, hread⟩ := h
  rw [Path.ofLiteral, lexed, hlex]
  change (Path.read span (Token.mapAll (fun _ => span) ts) >>= _) = _
  rw [hread]
  rfl

/-- A good entry sets its path. -/
theorem Sets.library_eq {e : Entry} {p : Path} (h : e.Sets p) : e.library = .ok p := by
  obtain ⟨l, text, span, hassigns, hsuffix, hpath⟩ := h
  rw [hassigns.library_eq, ofLiteral_of_isPathAt hpath, hsuffix]
  rfl

/-- Any other entry is refused for what is wrong with it. -/
theorem Offends.library_eq {e : Entry} {f : Fault} (h : e.Offends f) : e.library = .error f := by
  cases h with
  | notKeyValue tail =>
    unfold library
    split
    · rename_i equals value htail
      exact absurd htail (tail equals value)
    · rfl
  | unknownOption tail word =>
    rw [library, tail]
    exact if_neg (mt Path.isWord_iff.mp word)
  | @notString equals value tail word no_string =>
    rw [library, tail]
    simp only [Path.isWord_iff.mpr word, if_true]
    split
    · rename_i l hform
      split
      · rename_i text hstring
        exact absurd hstring (no_string l text hform)
      · rfl
    · rfl
  | lexical assigns text =>
    rw [assigns.library_eq, Path.ofLiteral, lexed, text]
    rfl
  | @noPath l text span assigns ts hlex f read =>
    rw [assigns.library_eq, Path.ofLiteral, lexed, hlex]
    change (Path.read span (Token.mapAll (fun _ => span) ts) >>= _) = _
    rw [read]
    rfl
  | suffixed assigns text suffix =>
    rw [assigns.library_eq, ofLiteral_of_isPathAt text]
    exact if_neg (mt String.isEmpty_iff.mp suffix)

/-- An entry that gives a string is good, or something is wrong with the string. -/
theorem Assigns.sets_or_offends {e : Entry} {l : Literal} {text : String} {span : Span}
    (h : e.Assigns l text span) : (∃ p, e.Sets p) ∨ ∃ f, e.Offends f := by
  cases hlex : lex text with
  | error position => exact .inr ⟨_, .lexical h hlex⟩
  | ok ts =>
    cases hread : Path.read span (Token.mapAll (fun _ => span) ts) with
    | error f => exact .inr ⟨f, .noPath h hlex hread⟩
    | ok p =>
      by_cases hsuffix : l.suffix = ""
      · exact .inl ⟨p, l, text, span, h, hsuffix, ts, hlex, hread⟩
      · exact .inr ⟨_, .suffixed h ⟨ts, hlex, hread⟩ hsuffix⟩

/-- Every entry is good, or something is wrong with it. -/
theorem sets_or_offends (e : Entry) : (∃ p, e.Sets p) ∨ ∃ f, e.Offends f := by
  by_cases htail : ∃ equals value, e.tail = .value equals value
  · obtain ⟨equals, value, htail⟩ := htail
    by_cases hword : e.path.path.IsWord "crate"
    · by_cases hstring : ∃ l text, value.form = .literal l ∧ l.stringValue? = some text
      · obtain ⟨l, text, hform, hstring⟩ := hstring
        have hassigns : e.Assigns l text (Token.spanOf value.tokens) :=
          ⟨hword, ⟨equals, value, htail, hform, rfl⟩, hstring⟩
        exact hassigns.sets_or_offends
      · exact .inr ⟨_, .notString htail hword fun l text hform hs => hstring ⟨l, text, hform, hs⟩⟩
    · exact .inr ⟨_, .unknownOption htail hword⟩
  · exact .inr ⟨_, .notKeyValue fun equals value h => htail ⟨equals, value, h⟩⟩

/-- An entry sets a path just if it is good. -/
theorem library_eq_ok_iff {e : Entry} {p : Path} : e.library = .ok p ↔ e.Sets p := by
  refine ⟨fun h => ?_, Sets.library_eq⟩
  obtain ⟨q, hq⟩ | ⟨f, hf⟩ := e.sets_or_offends
  · rw [hq.library_eq] at h
    cases h
    exact hq
  · rw [hf.library_eq] at h
    cases h

/-- An entry is refused just for what is wrong with it. -/
theorem library_eq_error_iff {e : Entry} {f : Fault} : e.library = .error f ↔ e.Offends f := by
  refine ⟨fun h => ?_, Offends.library_eq⟩
  obtain ⟨q, hq⟩ | ⟨f', hf⟩ := e.sets_or_offends
  · rw [hq.library_eq] at h
    cases h
  · rw [hf.library_eq] at h
    cases h
    exact hf

end Grammar.Entry

/-! ### Attributes -/

namespace Grammar.Attribute

/-- The arguments of an attribute, in whatever brackets, are a list of entries, and no tokens are
left over in a group within it. -/
def Lists (a : Attribute) (entries : List Entry) : Prop :=
  ∃ d body span, a.entry.tail = .list d body span ∧
    ∃ c, Listing (Grammar.entry (reader body)) ⟨body, span.tail, none, none⟩ entries c ∧
      c.leftOver = none

/-- A good attribute: its arguments are a list of good entries, which set these paths. -/
def Sets (a : Attribute) (settings : List Path) : Prop :=
  ∃ entries, a.Lists entries ∧ List.Forall₂ Entry.Sets entries settings

/-- What is wrong with an attribute that is read as a helper. -/
inductive IsBad (a : Attribute) : Fault → Prop where
  /-- There are no arguments. -/
  | missing (tail : a.entry.tail = .nothing) :
    IsBad a ⟨.missingArguments, Token.spanOf a.entry.path.tokens⟩
  /-- There is a value in their place. -/
  | value {equals : Span} {value : Phrase} (tail : a.entry.tail = .value equals value) :
    IsBad a ⟨.valueForArguments, equals⟩
  /-- The arguments are no list of entries. What the entries are does not count then. -/
  | noList {d : Delimiter} {body : Tokens} {span : Span} (tail : a.entry.tail = .list d body span)
      {f : Fault} (read : complete (terminated (Grammar.entry (reader body))) span.tail body =
        .error f) : IsBad a f
  /-- They are such a list, and an entry offends after good ones. -/
  | entry {before after : List Entry} {e : Entry} (lists : a.Lists (before ++ e :: after))
      (good : ∀ e' ∈ before, ∃ p, e'.Sets p) {f : Fault} (offends : e.Offends f) : IsBad a f

/-- The entries of an attribute are those that it lists. -/
theorem entries_eq_ok_iff {a : Attribute} {entries : List Entry} :
    a.entries = .ok entries ↔ a.Lists entries := by
  unfold Attribute.entries Lists
  cases htail : a.entry.tail with
  | nothing => simp
  | value equals value => simp
  | list d body span => simp [complete_terminated_eq_ok_iff]

/-- Good entries set their paths one after the other, and the last one stays. -/
theorem foldlM_entries_eq_ok_iff {entries : List Entry} {library p : Path} :
    entries.foldlM (fun _ e => e.library) library = .ok p ↔
      ∃ settings, List.Forall₂ Entry.Sets entries settings ∧ p = settings.getLastD library := by
  induction entries generalizing library with
  | nil => simp [Pure.pure, Except.pure, eq_comm]
  | cons e entries ih =>
    rw [List.foldlM_cons, bind_eq_ok_iff]
    constructor
    · rintro ⟨q, hq, hrest⟩
      obtain ⟨settings, hsettings, rfl⟩ := ih.mp hrest
      exact ⟨q :: settings, .cons (Entry.library_eq_ok_iff.mp hq) hsettings,
        List.getLastD_cons.symm⟩
    · rintro ⟨_, hsettings, rfl⟩
      cases hsettings with
      | cons hq hrest => exact ⟨_, hq.library_eq, ih.mpr ⟨_, hrest, List.getLastD_cons⟩⟩

/-- A good attribute leaves the path that it sets last, or the one before if it sets none. -/
theorem library_eq_ok_iff {a : Attribute} {library p : Path} :
    a.library library = .ok p ↔ ∃ settings, a.Sets settings ∧ p = settings.getLastD library := by
  rw [Attribute.library, bind_eq_ok_iff]
  constructor
  · rintro ⟨entries, hentries, hfold⟩
    obtain ⟨settings, hsettings, rfl⟩ := foldlM_entries_eq_ok_iff.mp hfold
    exact ⟨settings, ⟨entries, entries_eq_ok_iff.mp hentries, hsettings⟩, rfl⟩
  · rintro ⟨settings, ⟨entries, hentries, hsettings⟩, rfl⟩
    exact ⟨entries, entries_eq_ok_iff.mpr hentries,
      foldlM_entries_eq_ok_iff.mpr ⟨settings, hsettings, rfl⟩⟩

/-- An attribute has no fault just if it is good. -/
theorem fault?_eq_none_iff {a : Attribute} : a.fault? = none ↔ ∃ settings, a.Sets settings := by
  rw [fault?, errorOf?_eq_none_iff]
  constructor
  · rintro ⟨p, hp⟩
    obtain ⟨settings, hsettings, -⟩ := library_eq_ok_iff.mp hp
    exact ⟨settings, hsettings⟩
  · rintro ⟨settings, hsettings⟩
    exact ⟨_, library_eq_ok_iff.mpr ⟨settings, hsettings, rfl⟩⟩

/-- The arguments of an attribute cannot be read because they are missing or no list. -/
theorem isBad_of_entries_eq_error {a : Attribute} {f : Fault} (h : a.entries = .error f) :
    a.IsBad f := by
  unfold Attribute.entries at h
  cases htail : a.entry.tail with
  | nothing =>
    rw [htail] at h
    cases h
    exact .missing htail
  | value equals value =>
    rw [htail] at h
    cases h
    exact .value htail
  | list d body span =>
    rw [htail] at h
    exact .noList htail h

/-- The fault of an attribute is what is wrong with it. -/
theorem fault?_eq_some_iff {a : Attribute} {f : Fault} : a.fault? = some f ↔ a.IsBad f := by
  rw [fault?, errorOf?_library_eq_match]
  constructor
  · intro h
    cases hentries : a.entries with
    | error f' =>
      rw [hentries] at h
      obtain rfl := Option.some.inj h
      exact isBad_of_entries_eq_error hentries
    | ok entries =>
      rw [hentries] at h
      obtain ⟨before, e, after, rfl, hoffends, hgood⟩ := List.findSome?_eq_some_iff.mp h
      refine .entry (entries_eq_ok_iff.mp hentries) (fun e' he' => ?_)
        (Entry.library_eq_error_iff.mp (errorOf?_eq_some_iff.mp hoffends))
      obtain ⟨p, hp⟩ := errorOf?_eq_none_iff.mp (hgood e' he')
      exact ⟨p, Entry.library_eq_ok_iff.mp hp⟩
  · intro h
    cases h with
    | missing tail => rw [Attribute.entries, tail]
    | value tail => rw [Attribute.entries, tail]
    | noList tail read => simp only [Attribute.entries, tail, read]
    | @entry before after e lists good _ offends =>
      rw [entries_eq_ok_iff.mpr lists]
      refine List.findSome?_eq_some_iff.mpr ⟨before, e, after, rfl, ?_, fun e' he' => ?_⟩
      · exact errorOf?_eq_some_iff.mpr offends.library_eq
      · obtain ⟨p, hp⟩ := good e' he'
        exact errorOf?_eq_none_iff.mpr ⟨p, hp.library_eq⟩

end Grammar.Attribute

/-! ### Lists of attributes -/

/-- The last of two lists is that of the second, or else that of the first. -/
theorem getLastD_append (as bs : List α) (a : α) :
    (as ++ bs).getLastD a = bs.getLastD (as.getLastD a) := by
  simp only [List.getLastD_eq_getLast?, List.getLast?_append, Option.getD_or]

/-- Good attributes leave the path that is set last, or the one before if none is set. -/
theorem foldlM_library_eq_ok_iff {attributes : List Attribute} {library p : Path} :
    attributes.foldlM Attribute.library library = .ok p ↔
      ∃ settings, List.Forall₂ Attribute.Sets attributes settings ∧
        p = settings.flatten.getLastD library := by
  induction attributes generalizing library with
  | nil => simp [Pure.pure, Except.pure, eq_comm]
  | cons a attributes ih =>
    rw [List.foldlM_cons, bind_eq_ok_iff]
    constructor
    · rintro ⟨q, hq, hrest⟩
      obtain ⟨paths, hpaths, rfl⟩ := Attribute.library_eq_ok_iff.mp hq
      obtain ⟨settings, hsettings, rfl⟩ := ih.mp hrest
      refine ⟨paths :: settings, .cons hpaths hsettings, ?_⟩
      rw [List.flatten_cons, getLastD_append]
    · rintro ⟨_, hsettings, rfl⟩
      cases hsettings with
      | cons hpaths hrest =>
        refine ⟨_, Attribute.library_eq_ok_iff.mpr ⟨_, hpaths, rfl⟩, ih.mpr ⟨_, hrest, ?_⟩⟩
        rw [List.flatten_cons, getLastD_append]

/-- Attributes can be read in two goes. -/
theorem libraryFrom_append (library : Path) (attributes further : List Attribute) :
    libraryFrom library (attributes ++ further) =
      libraryFrom library attributes >>= fun p => libraryFrom p further := by
  rw [libraryFrom, List.filter_append, List.foldlM_append]
  rfl

/-- The first fault among helpers is that of the first bad one, after good ones. -/
theorem helperFault?_eq_some_iff {attributes : List Attribute} {f : Fault} :
    helperFault? attributes = some f ↔
      ∃ before a after, attributes.filter (·.isHelper) = before ++ a :: after ∧
        (∀ b ∈ before, ∃ settings, b.Sets settings) ∧ a.IsBad f := by
  rw [helperFault?, List.findSome?_eq_some_iff]
  simp only [Attribute.fault?_eq_some_iff, Attribute.fault?_eq_none_iff, and_comm]

/-- How attributes are read, where the path to the support library was `library` before. -/
structure InOrder (library : Path) (attributes : List Attribute) : Prop where
  /-- All attributes but the helpers are ignored, wherever they stand. -/
  helpers : libraryFrom library attributes = libraryFrom library (attributes.filter (·.isHelper))
  /-- The helpers are those whose path is one word. -/
  named : ∀ a : Attribute, a.isHelper = true ↔ a.entry.path.path.IsWord "case_detection"
  /-- The arguments of an attribute are read just if they are a list of entries. -/
  lists : ∀ (a : Attribute) (entries : List Entry), a.entries = .ok entries ↔ a.Lists entries
  /-- Reading succeeds just if all helpers are good. The path that is set last over all of them
  counts, or the one before if none is set. -/
  succeeds : ∀ p, libraryFrom library attributes = .ok p ↔
    ∃ settings, List.Forall₂ Attribute.Sets (attributes.filter (·.isHelper)) settings ∧
      p = settings.flatten.getLastD library
  /-- Reading fails just if some helper is bad, with the fault of the first. -/
  fails : ∀ f, libraryFrom library attributes = .error f ↔
    ∃ before a after, attributes.filter (·.isHelper) = before ++ a :: after ∧
      (∀ b ∈ before, ∃ settings, b.Sets settings) ∧ a.IsBad f
  /-- If the first attributes are bad, no others help. -/
  append_error : ∀ f further, libraryFrom library attributes = .error f →
    libraryFrom library (attributes ++ further) = .error f
  /-- If they are good, others are read with their path in place of the one before. -/
  append_ok : ∀ p further, libraryFrom library attributes = .ok p →
    libraryFrom library (attributes ++ further) = libraryFrom p further

/-- Attributes are read in order, whatever the path was before; it is the standard path for those of
an item. -/
theorem libraryFrom_inOrder (attributes : List Attribute) :
    libraryOf attributes = libraryFrom .standard attributes ∧
      ∀ library, InOrder library attributes := by
  refine ⟨rfl, fun library => ⟨?_, fun a => Path.isWord_iff, fun a entries =>
    Attribute.entries_eq_ok_iff, fun p => foldlM_library_eq_ok_iff, fun f => ?_,
    fun f further h => ?_, fun p further h => ?_⟩⟩
  · rw [libraryFrom, libraryFrom, List.filter_filter]
    simp only [Bool.and_self]
  · rw [← errorOf?_eq_some_iff, errorOf?_libraryFrom, helperFault?_eq_some_iff]
  · rw [libraryFrom_append, h]
    rfl
  · rw [libraryFrom_append, h]
    rfl

end EnumCases
