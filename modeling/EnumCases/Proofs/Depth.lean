import EnumCases.Proofs.Outcome
import EnumCases.Proofs.Progress

/-!
# The depth of rules

Between two tokens only few rules refer to each other: a type may start with a bound, an expression
starts with an operand, and so on, but bounds and operands start with a token or a group.
`Nonterminal.rank` counts these steps. With three units of fuel for each token rules therefore never
run out of it (`takes_rules`), and `reader` has as many.

Every rule and every part of one has an instance of `Takes`. What it needs of the nonterminals in it
stands in its hypotheses: all of them are read where a token less is ahead, and some of them at
once. A part that is only met after a token, or in a group, has its instance there. Most instances
are found as soon as the definition is opened; written out are those that choose by a `match` and
those of loops.

Main statement: no item is refused for the depth of rules (`expand_ne_tooDeep`).
-/

set_option synthInstance.maxSize 4000

namespace EnumCases

namespace Grammar

instance Takes.tokens {least n : Nat} {read : Reader} {m : Nonterminal}
    [h : Takes least n (read m)] : Takes least n (read.tokens m) :=
  h.bind_of_le (fun _ => .pure _) (Nat.le_refl _)

instance Takes.value {n : Nat} {read : Reader} [Takes 0 n (read (.expression true))] :
    Takes 0 n read.value := by
  dsimp only [Reader.value]; infer_instance

section

variable {n : Nat} {read : Reader} [∀ m, Takes 0 (n - 1) (read m)]

/-! ### Paths -/

instance takes_modulePath : Takes 1 n modulePath := by
  dsimp only [modulePath]
  refine .after fun leading => .joined_bind ?_ fun steps => ?_
  · dsimp only [List.getLast?_nil]
    infer_instance
  · split <;> infer_instance

instance takes_constantArgument [Takes 0 n (read .body)] : Takes 0 n (constantArgument read) := by
  dsimp only [constantArgument]
  refine .after fun _ => .orElse <| .after fun _ => .orElse <| .after fun _ => .orElse <|
    .after fun c => ?_
  split <;> infer_instance

instance takes_genericArgument : Takes 0 (n - 1) (genericArgument read) := by
  dsimp only [genericArgument]; infer_instance
instance takes_angleArguments : Takes 1 n (angleArguments read) := by
  dsimp only [angleArguments]; infer_instance
instance takes_segment (style : PathStyle) : Takes 1 n (segment read style) := by
  dsimp only [segment]; infer_instance
instance takes_furtherSegments (style : PathStyle) : Takes 0 n (furtherSegments read style) := by
  dsimp only [furtherSegments]; infer_instance
instance takes_path (style : PathStyle) : Takes 1 n (path read style) := by
  dsimp only [path]; infer_instance
instance takes_qualifiedPath (style : PathStyle) : Takes 1 n (qualifiedPath read style) := by
  dsimp only [qualifiedPath]; infer_instance

/-! ### Attributes -/

instance takes_entryValue : Takes 0 (n - 1) (entryValue read) := by
  dsimp only [entryValue]; infer_instance

instance takes_entryTail : Takes 0 n (entryTail read) := by
  dsimp only [entryTail]
  refine .after fun c => ?_
  split <;> infer_instance

instance takes_entry : Takes 1 n (entry read) := by
  dsimp only [entry]; infer_instance
instance takes_anAttribute : Takes 1 n (anAttribute read) := by
  dsimp only [anAttribute]; infer_instance
instance takes_attributes : Takes 0 n (attributes read) := by
  dsimp only [attributes]; infer_instance
instance takes_attributeTokens : Takes 0 n (attributeTokens read) := by
  dsimp only [attributeTokens]; infer_instance
instance takes_innerAttributes : Takes 0 n (innerAttributes read) := by
  dsimp only [innerAttributes]; infer_instance

/-! ### Generic parameters and bounds -/

instance takes_boundsAfterColon (stop : Tokens → Bool) {p : Parser Tokens} [Takes 0 (n - 1) p] :
    Takes 0 n (boundsAfterColon stop p) := by
  dsimp only [boundsAfterColon]; infer_instance
instance takes_lifetimeParameter : Takes 1 n lifetimeParameter := by
  dsimp only [lifetimeParameter]; infer_instance
instance takes_typeParameter : Takes 1 n (typeParameter read) := by
  dsimp only [typeParameter]; infer_instance
instance takes_constantParameter : Takes 1 n (constantParameter read) := by
  dsimp only [constantParameter]; infer_instance
instance takes_genericParameter : Takes 1 n (genericParameter read) := by
  dsimp only [genericParameter]; infer_instance
instance takes_generics : Takes 0 n (generics read) := by
  dsimp only [generics]; infer_instance
instance takes_binderParameter : Takes 1 n (binderParameter read) := by
  dsimp only [binderParameter]; infer_instance
instance takes_binder : Takes 1 n (binder read) := by
  dsimp only [binder]; infer_instance
instance takes_optionalBinder : Takes 0 n (optionalBinder read) := by
  dsimp only [optionalBinder]; infer_instance
instance takes_returnType (plus : Bool) : Takes 0 n (returnType read plus) := by
  dsimp only [returnType]; infer_instance

instance takes_traitPath : Takes 1 n (traitPath read) := by
  dsimp only [traitPath]
  refine .onward fun p => .after fun parenthesized => ?_
  split <;> infer_instance

instance takes_constness (allowed : Bool) : Takes 0 n (constness allowed) := by
  dsimp only [constness]; infer_instance
instance takes_traitBound (constant : Bool) : Takes 1 n (traitBound read constant) := by
  dsimp only [traitBound]; infer_instance
instance takes_captured : Takes 1 n captured := by
  dsimp only [captured]; infer_instance
instance takes_capture : Takes 1 n capture := by
  dsimp only [capture]; infer_instance
instance takes_boundRule (capturing constant : Bool) :
    Takes 0 n (boundRule read capturing constant) := by
  dsimp only [boundRule]; infer_instance
instance takes_bounds (plus capturing constant : Bool) [∀ a b, Takes 0 n (read (.bound a b))] :
    Takes 0 n (bounds read plus capturing constant) := by
  dsimp only [bounds]; infer_instance
instance takes_listedBounds (stop : Tokens → Bool) : Takes 0 (n - 1) (listedBounds read stop) := by
  dsimp only [listedBounds]; infer_instance
instance takes_furtherBounds : Takes 0 n (furtherBounds read) := by
  dsimp only [furtherBounds]; infer_instance
instance takes_wherePredicate : Takes 0 (n - 1) (wherePredicate read) := by
  dsimp only [wherePredicate]; infer_instance
instance takes_whereClause : Takes 0 n (whereClause read) := by
  dsimp only [whereClause]; infer_instance

/-! ### Types -/

instance takes_builtin : Takes 1 n builtin := by
  -- What is in the parentheses is skipped.
  have hskip : Takes 0 (n - 1 - 1) (modify fun c => { c with rest := [] } : Parser PUnit) :=
    ⟨fun _ _ => .ok List.nil_suffix (Nat.zero_le _)⟩
  dsimp only [builtin]
  infer_instance

instance takes_callingConvention : Takes 1 n callingConvention := by
  dsimp only [callingConvention]; infer_instance
instance takes_requireTrait (keyword : Tokens) (bs : List (Phrase × Tokens)) (missing : Cause)
    [Unset missing.isDepth] : Takes 0 n (requireTrait keyword bs missing) := by
  dsimp only [requireTrait]; infer_instance
instance takes_objectType (keyword : Tokens) (plus : Bool) [∀ a b, Takes 0 n (read (.bound a b))] :
    Takes 0 n (objectType read keyword plus) := by
  dsimp only [objectType]; infer_instance
instance takes_implType (plus : Bool) : Takes 1 n (implType read plus) := by
  dsimp only [implType]; infer_instance
instance takes_parenthesizedInner (plus : Bool) :
    Takes 0 (n - 1) (parenthesizedInner read plus) := by
  dsimp only [parenthesizedInner]; infer_instance

instance takes_parenthesizedType (plus : Bool) : Takes 1 n (parenthesizedType read plus) := by
  dsimp only [parenthesizedType]
  refine .after fun c => @Takes.insideThen _ _ _ _ _ _ inferInstance fun r span => ?_
  refine .after fun further => ?_
  split <;> infer_instance

instance takes_functionArgument (first : Bool) : Takes 0 (n - 1) (functionArgument read first) := by
  dsimp only [functionArgument]; infer_instance

instance takes_functionArguments : Takes 0 (n - 1) (functionArguments read) := by
  have hrounds (count : Nat) (first : Bool) :
      Takes 0 (n - 1) (functionArguments.rounds read count first) := by
    induction count generalizing first with
    | zero => exact .pure []
    | succ count ih =>
      dsimp only [functionArguments.rounds]
      infer_instance
  exact .after fun c => hrounds _ _

instance takes_functionType : Takes 1 n (functionType read) := by
  dsimp only [functionType]; infer_instance

instance takes_pathType (lifetimes : Tokens) (plus : Bool) :
    Takes 1 n (pathType read lifetimes plus) := by
  dsimp only [pathType]
  refine .onward fun p => ?_
  split <;> infer_instance

instance takes_bracketedType : Takes 1 n (bracketedType read) := by
  dsimp only [bracketedType]; infer_instance
instance takes_pointerType : Takes 1 n (pointerType read) := by
  dsimp only [pointerType]; infer_instance
instance takes_referenceType : Takes 1 n (referenceType read) := by
  dsimp only [referenceType]; infer_instance
instance takes_dynType (plus : Bool) : Takes 1 n (dynType read plus) := by
  dsimp only [dynType]; infer_instance

instance takes_typeRule (plus : Bool) [∀ a b, Takes 0 n (read (.bound a b))] :
    Takes 0 n (typeRule read plus) := by
  dsimp only [typeRule]
  refine .after fun c => .after fun lifetimes => .after fun _ => .orElse ?_
  -- One step for each form of a type.
  repeat refine .after fun _ => .orElse ?_
  infer_instance

/-! ### Members -/

/-- The index of a field is refused for other causes. -/
theorem Index.unset_of_ofText {text : List Char} {cause : Cause}
    (h : Index.ofText text = .error cause) : Unset cause.isDepth := by
  dsimp only [Index.ofText] at h
  repeat' split at h
  all_goals cases h
  all_goals infer_instance

/-- So are several of them. -/
theorem Index.unset_of_mapM {texts : List (List Char)} {cause : Cause}
    (h : texts.mapM Index.ofText = .error cause) : Unset cause.isDepth := by
  induction texts with
  | nil => cases h
  | cons text texts ih =>
    rw [List.mapM_cons] at h
    cases htext : Index.ofText text with
    | error cause' =>
      rw [htext] at h
      cases h
      exact Index.unset_of_ofText htext
    | ok index =>
      cases htexts : texts.mapM Index.ofText with
      | error cause' =>
        rw [htext, htexts] at h
        cases h
        exact ih htexts
      | ok indices =>
        rw [htext, htexts] at h
        cases h

instance takes_index : Takes 1 n index := by
  dsimp only [index]
  refine .after fun c => ?_
  split
  · split
    · infer_instance
    · rename_i h
      have := Index.unset_of_ofText h
      infer_instance
  · infer_instance

instance takes_member : Takes 1 n member := by
  dsimp only [member]; infer_instance

instance takes_joinedIndices (dot : Span) : Takes 0 n (joinedIndices dot) := by
  dsimp only [joinedIndices]
  refine .after fun c => ?_
  split
  · split
    · infer_instance
    · rename_i h
      have := Index.unset_of_mapM h
      infer_instance
  · infer_instance

/-! ### Patterns -/

instance takes_rangeDots : Takes 1 n rangeDots := by
  dsimp only [rangeDots]; infer_instance
instance takes_patternDots : Takes 1 n patternDots := by
  dsimp only [patternDots]; infer_instance
instance takes_constantBlock : Takes 1 n (constantBlock read) := by
  dsimp only [constantBlock]; infer_instance
instance takes_patternBound : Takes 0 n (patternBound read) := by
  dsimp only [patternBound]; infer_instance
instance takes_patternRange (lower : Tokens) : Takes 1 n (patternRange read lower) := by
  dsimp only [patternRange]; infer_instance
instance takes_patternFromDots : Takes 1 n (patternFromDots read) := by
  dsimp only [patternFromDots]; infer_instance
instance takes_fieldPattern : Takes 1 n (fieldPattern read) := by
  dsimp only [fieldPattern]; infer_instance

instance takes_structurePattern : Takes 0 n (structurePattern read) := by
  refine .loop (structurePattern.rounds read) (.pure []) fun count ih => ?_
  dsimp only [structurePattern.rounds]
  infer_instance

instance takes_pathPattern : Takes 1 n (pathPattern read) := by
  dsimp only [pathPattern]; infer_instance
instance takes_boundPattern : Takes 0 n (boundPattern read) := by
  dsimp only [boundPattern]; infer_instance
instance takes_namePattern : Takes 1 n (namePattern read) := by
  dsimp only [namePattern]; infer_instance

instance takes_elementPattern : Takes 0 (n - 1) (elementPattern read) := by
  dsimp only [elementPattern]
  refine .after fun element => ?_
  split <;> infer_instance

instance takes_patternRule : Takes 0 n (patternRule read) := by
  dsimp only [patternRule]
  -- One step for each form of a pattern.
  repeat refine .after fun _ => .orElse ?_
  infer_instance

instance takes_alternativesRule [Takes 0 n (read .pattern)] :
    Takes 0 n (alternativesRule read) := by
  dsimp only [alternativesRule]; infer_instance

/-! ### Operators -/

instance takes_rangeRest (lower : Tokens) (braces : Bool) :
    Takes 1 n (rangeRest read lower braces) := by
  dsimp only [rangeRest]; infer_instance

instance takes_operatorsRule (left : Phrase) (base : Level) (braces : Bool) :
    Takes 0 n (operatorsRule read left base braces) := by
  dsimp only [operatorsRule]
  refine .orElse <| .after fun c => .orElse ?_
  -- Every kind of operator is a token at least, before anything else is read.
  split
  · infer_instance
  · refine .orElse <| .orElse <| .of_one (h := .onward fun as => ?_)
    refine .after fun type => .after fun c => ?_
    split <;> infer_instance

/-- After a part of the operand, either nothing was taken or there is less ahead. -/
instance takes_rightRestRule (operand : Phrase) (level : Level) (braces : Bool)
    [hoperators : ∀ a b, Takes 0 n (read (.operators a b braces))] :
    Takes 0 n (rightRestRule read operand level braces) := by
  dsimp only [rightRestRule]
  refine Takes.get_bind fun c hc => ?_
  split
  · have hreaches := (hoperators operand (nextLevel c.rest)).reaches c hc
    rw [StateT.run_bind]
    generalize StateT.run (read _) c = r at hreaches
    cases hreaches with
    | error cause => exact .error cause
    | @ok further c' suffix length =>
      change Reaches 0 c (StateT.run (if c'.rest.length = c.rest.length then pure further
        else read (.rightRest further level braces)) c')
      split
      · exact .ok suffix length
      · have hsize := Token.size_le_of_suffix suffix
        have hless : Token.size c'.rest < n - 1 := by omega
        have hrest : Takes 0 (n - 1) (read (.rightRest further level braces)) := inferInstance
        exact (hrest.reaches c' hless).trans suffix length (Nat.le_refl _)
  · exact (Takes.pure operand).reaches c hc

instance takes_callArguments : Takes 1 n (callArguments read) := by
  dsimp only [callArguments]; infer_instance
instance takes_memberAfter (dot : Tokens) : Takes 1 n (memberAfter read dot) := by
  dsimp only [memberAfter]; infer_instance

instance takes_memberAccess : Takes 1 n (memberAccess read) := by
  dsimp only [memberAccess]
  refine .onward fun dot => .after fun fields? => ?_
  split <;> infer_instance

instance takes_trailersRule (operand : Phrase) : Takes 0 n (trailersRule read operand) := by
  dsimp only [trailersRule]; infer_instance

/-! ### Expressions -/

instance takes_fieldValue : Takes 1 n (fieldValue read) := by
  dsimp only [fieldValue]; infer_instance

instance takes_structureFields : Takes 0 n (structureFields read) := by
  refine .loop (structureFields.rounds read) (.pure []) fun count ih => ?_
  dsimp only [structureFields.rounds]
  infer_instance

instance takes_pathOperand (braces : Bool) : Takes 1 n (pathOperand read braces) := by
  dsimp only [pathOperand]; infer_instance
instance takes_arrayOperand : Takes 1 n (arrayOperand read) := by
  dsimp only [arrayOperand]; infer_instance
instance takes_closureArgument : Takes 0 (n - 1) (closureArgument read) := by
  dsimp only [closureArgument]; infer_instance
instance takes_closure (braces : Bool) : Takes 1 n (closure read braces) := by
  dsimp only [closure]; infer_instance
instance takes_breakOperand (braces : Bool) : Takes 1 n (breakOperand read braces) := by
  dsimp only [breakOperand]; infer_instance
instance takes_letOperand (braces : Bool) : Takes 1 n (letOperand read braces) := by
  dsimp only [letOperand]; infer_instance

instance takes_ifOperand : Takes 0 n (ifOperand read) := by
  refine .loop (ifOperand.rounds read) (.pure []) fun count ih => ?_
  dsimp only [ifOperand.rounds]
  infer_instance

instance takes_matchArm : Takes 0 (n - 1) (matchArm read) := by
  dsimp only [matchArm]; infer_instance
instance takes_matchOperand : Takes 1 n (matchOperand read) := by
  dsimp only [matchOperand]; infer_instance
instance takes_labelledOperand [Takes 0 n (read .body)] : Takes 0 n (labelledOperand read) := by
  dsimp only [labelledOperand]; infer_instance
instance takes_blockOperand [Takes 0 n (read .body)] : Takes 0 n (blockOperand read) := by
  dsimp only [blockOperand]; infer_instance

instance takes_operand (braces : Bool) [Takes 0 n (read .body)] :
    Takes 0 n (operand read braces) := by
  dsimp only [operand]
  -- One step for each form of an operand.
  repeat refine .after fun _ => .orElse ?_
  infer_instance

instance takes_attributedOperand (before outer : Tokens) (braces : Bool) [Takes 0 n (read .body)]
    [∀ a, Takes 0 n (read (.trailers a))] :
    Takes 0 n (attributedOperand read before outer braces) := by
  dsimp only [attributedOperand]
  refine .after fun _ => .after fun value => ?_
  split <;> infer_instance

instance takes_unaryRule (braces : Bool) [Takes 0 n (read .body)]
    [∀ a, Takes 0 n (read (.trailers a))] : Takes 0 n (unaryRule read braces) := by
  dsimp only [unaryRule]
  refine .after fun c => .after fun outer => .after fun _ => .orElse <| .after fun found => ?_
  split <;> infer_instance

instance takes_expressionRule (braces : Bool) [Takes 0 n (read (.unary braces))]
    [∀ a, Takes 0 n (read (.operators a .lowest braces))] :
    Takes 0 n (expressionRule read braces) := by
  dsimp only [expressionRule]; infer_instance
instance takes_promptRule [Takes 0 n (read .body)] [∀ a, Takes 0 n (read (.trailers a))]
    [Takes 0 n (read (.unary true))] [∀ a, Takes 0 n (read (.operators a .lowest true))] :
    Takes 0 n (promptRule read) := by
  dsimp only [promptRule]; infer_instance

/-! ### Fields and variants -/

instance takes_within (keyword : Tokens) : Takes 1 n (visibility.within keyword) := by
  dsimp only [visibility.within]; infer_instance

instance takes_visibility : Takes 0 n visibility := by
  dsimp only [visibility]
  refine .after fun _ => .orElse <| .after fun keyword => .after fun c => ?_
  split <;> infer_instance

instance takes_positionalField : Takes 0 (n - 1) (positionalField read) := by
  dsimp only [positionalField]; infer_instance
instance takes_positionalFields : Takes 1 n (positionalFields read) := by
  dsimp only [positionalFields]; infer_instance
instance takes_labelledField {p : Parser Tokens} [Takes 0 (n - 1) p] :
    Takes 0 (n - 1) (labelledFields.labelledField read p) := by
  dsimp only [labelledFields.labelledField]; infer_instance

/-- Fields that are nested: each level is a group within the one before. -/
theorem takes_nested (depth : Nat) : Takes 1 n (labelledFields.nested read depth) := by
  induction depth generalizing n with
  | zero => exact .want _
  | succ depth ih =>
    dsimp only [labelledFields.nested]
    infer_instance

instance takes_labelledFields : Takes 1 n (labelledFields read) := .after fun _ => takes_nested _

instance takes_variant : Takes 1 n (variant read) := by
  dsimp only [variant]; infer_instance
instance takes_variants : Takes 1 n (variants read) := by
  dsimp only [variants]; infer_instance
instance takes_structBody : Takes 0 n (structBody read) := by
  dsimp only [structBody]; infer_instance

/-! ### Nested items -/

instance takes_nameOrBar : Takes 1 n nameOrBar := by
  dsimp only [nameOrBar]; infer_instance
instance takes_argument : Takes 0 (n - 1) (argument read) := by
  dsimp only [argument]; infer_instance

instance takes_signatureArguments : Takes 0 (n - 1) (signatureArguments read) := by
  have hrounds (count : Nat) (first received : Bool) :
      Takes 0 (n - 1) (signatureArguments.rounds read count first received) := by
    induction count generalizing first received with
    | zero => exact .pure []
    | succ count ih =>
      dsimp only [signatureArguments.rounds]
      refine .after fun _ => .orElse <| .after fun outer => .after fun argument => ?_
      split <;> infer_instance
  exact .after fun c => hrounds _ _ _

instance takes_signature (safe : Bool) : Takes 1 n (signature read safe) := by
  dsimp only [signature]; infer_instance
instance takes_function : Takes 1 n (function read) := by
  dsimp only [function]; infer_instance
instance takes_constant (valued : Bool) : Takes 1 n (constant read valued) := by
  dsimp only [constant]; infer_instance
instance takes_static : Takes 1 n (static read) := by
  dsimp only [static]; infer_instance
instance takes_typeAlias (clauseBefore clauseAfter : Bool) :
    Takes 1 n (typeAlias read clauseBefore clauseAfter) := by
  dsimp only [typeAlias]; infer_instance
instance takes_typeDefinition : Takes 1 n (typeDefinition read) := by
  dsimp only [typeDefinition]; infer_instance
instance takes_structDefinition : Takes 1 n (structDefinition read) := by
  dsimp only [structDefinition]; infer_instance
instance takes_enumDefinition : Takes 1 n (enumDefinition read) := by
  dsimp only [enumDefinition]; infer_instance
instance takes_unionDefinition : Takes 1 n (unionDefinition read) := by
  dsimp only [unionDefinition]; infer_instance
instance takes_useTreeRule (root : Bool) : Takes 0 n (useTreeRule read root) := by
  dsimp only [useTreeRule]; infer_instance
instance takes_useDefinition : Takes 1 n (useDefinition read) := by
  dsimp only [useDefinition]; infer_instance
instance takes_externCrate : Takes 1 n externCrate := by
  dsimp only [externCrate]; infer_instance
instance takes_itemsIn {p : Parser Tokens} [Takes 0 (n - 1) p] : Takes 1 n (itemsIn read p) := by
  dsimp only [itemsIn]; infer_instance
instance takes_moduleDefinition : Takes 1 n (moduleDefinition read) := by
  dsimp only [moduleDefinition]; infer_instance
instance takes_macroItem (named : Bool) : Takes 1 n (macroItem named) := by
  dsimp only [macroItem]; infer_instance
instance takes_declaredMacro : Takes 1 n declaredMacro := by
  dsimp only [declaredMacro]; infer_instance
instance takes_traitFunction : Takes 1 n (traitFunction read) := by
  dsimp only [traitFunction]; infer_instance
instance takes_traitItem : Takes 0 n (traitItem read) := by
  dsimp only [traitItem]; infer_instance
instance takes_implItem : Takes 0 n (implItem read) := by
  dsimp only [implItem]; infer_instance
instance takes_foreignFunction : Takes 1 n (foreignFunction read) := by
  dsimp only [foreignFunction]; infer_instance
instance takes_foreignStatic : Takes 1 n (foreignStatic read) := by
  dsimp only [foreignStatic]; infer_instance
instance takes_foreignItem : Takes 0 n (foreignItem read) := by
  dsimp only [foreignItem]; infer_instance
instance takes_foreignModule : Takes 1 n (foreignModule read) := by
  dsimp only [foreignModule]; infer_instance
instance takes_traitRest (head : Tokens) : Takes 0 (n - 1) (traitRest read head) := by
  dsimp only [traitRest]; infer_instance
instance takes_markedTrait : Takes 1 n (markedTrait read) := by
  dsimp only [markedTrait]; infer_instance
instance takes_traitOrAlias : Takes 1 n (traitOrAlias read) := by
  dsimp only [traitOrAlias]; infer_instance
instance takes_implDefinition (visible : Bool) : Takes 1 n (implDefinition read visible) := by
  dsimp only [implDefinition]; infer_instance

-- A block of foreign items goes back to before its visibility, which it may not have.
instance resumes_markedDefinition (start : Cursor) (visible : Bool) :
    Resumes start n (markedDefinition read start visible) := by
  dsimp only [markedDefinition]; infer_instance
instance resumes_definitionBody (start : Cursor) (visible : Bool) :
    Resumes start n (definitionBody read start visible) := by
  dsimp only [definitionBody]; infer_instance

instance takes_definitionRule : Takes 0 n (definitionRule read) := by
  dsimp only [definitionRule]; infer_instance

/-! ### Statements and items -/

instance takes_localVariable : Takes 1 n (localVariable read) := by
  dsimp only [localVariable]; infer_instance
instance takes_expressionStatement (outer : Tokens) :
    Takes 0 (n - 1) (expressionStatement read outer) := by
  dsimp only [expressionStatement]; infer_instance
instance takes_statement : Takes 0 (n - 1) (statement read) := by
  dsimp only [statement]; infer_instance

instance takes_statements : Takes 0 (n - 1) (statements read) := by
  refine .loop (statements.rounds read) (.pure []) fun count ih => ?_
  dsimp only [statements.rounds]
  infer_instance

instance takes_blockRule : Takes 1 n (blockRule read) := by
  dsimp only [blockRule]; infer_instance
instance takes_bodyRule : Takes 1 n (bodyRule read) := by
  dsimp only [bodyRule]; infer_instance
instance takes_item : Takes 0 n (item read) := by
  dsimp only [item]; infer_instance

end

/-! ### Fuel -/

/-- How many rules may refer to each other from that of a nonterminal on before a token is taken. -/
def Nonterminal.rank : Nonterminal → Nat
  | .type _ | .alternatives | .unary _ | .rightRest _ _ _ => 1
  | .expression _ | .prompt | .right _ _ => 2
  | _ => 0

theorem Nonterminal.rank_le (m : Nonterminal) : m.rank ≤ 2 := by
  fun_cases Nonterminal.rank m <;> omega

/-- Rules have fuel enough with three units for each token ahead and one for each step that takes
none. -/
theorem takes_rules {fuel n : Nat} {m : Nonterminal} (h : 3 * n + m.rank ≤ fuel + 2) :
    Takes 0 n (rules fuel m) := by
  induction fuel generalizing n m with
  | zero =>
    -- Without fuel there is no cursor with so little ahead.
    obtain rfl : n = 0 := by omega
    exact ⟨fun c hc => absurd hc (Nat.not_lt_zero _)⟩
  | succ fuel ih =>
    have hless (m' : Nonterminal) : Takes 0 (n - 1) (rules fuel m') := by
      have := m'.rank_le
      exact ih (by omega)
    have hlower (m' : Nonterminal) (hm : m'.rank < m.rank) : Takes 0 n (rules fuel m') :=
      ih (by omega)
    cases m with
    | type plus =>
      have hbound (a b : Bool) := hlower (.bound a b) Nat.one_pos
      exact takes_typeRule plus
    | bound capture constant => exact takes_boundRule capture constant
    | pattern => exact takes_patternRule
    | alternatives =>
      have hpattern := hlower .pattern Nat.one_pos
      exact takes_alternativesRule
    | expression braces =>
      have hunary := hlower (.unary braces) Nat.one_lt_two
      have hoperators (a : Phrase) := hlower (.operators a .lowest braces) Nat.two_pos
      exact takes_expressionRule braces
    | prompt =>
      have hbody := hlower .body Nat.two_pos
      have htrailers (a : Phrase) := hlower (.trailers a) Nat.two_pos
      have hunary := hlower (.unary true) Nat.one_lt_two
      have hoperators (a : Phrase) := hlower (.operators a .lowest true) Nat.two_pos
      exact takes_promptRule
    | block => exact takes_blockRule.of_one
    | body => exact takes_bodyRule.of_one
    | definition => exact takes_definitionRule
    | useTree root => exact takes_useTreeRule root
    | unary braces =>
      have hbody := hlower .body Nat.one_pos
      have htrailers (a : Phrase) := hlower (.trailers a) Nat.one_pos
      exact takes_unaryRule braces
    | trailers operand => exact takes_trailersRule operand
    | operators left base braces => exact takes_operatorsRule left base braces
    | right level braces =>
      have hunary := hlower (.unary braces) Nat.one_lt_two
      have hrest (a : Phrase) := hlower (.rightRest a level braces) Nat.one_lt_two
      exact .after hrest
    | rightRest operand level braces =>
      have hoperators (a : Phrase) (b : Level) := hlower (.operators a b braces) Nat.one_pos
      exact takes_rightRestRule operand level braces

/-- The reader of a text has fuel enough wherever no more is ahead than the text. -/
instance takes_reader (ts : Tokens) (m : Nonterminal) :
    Takes 0 (Token.size ts + 1) (reader ts m) := by
  have := m.rank_le
  exact takes_rules (by omega)

/-! ### Whole texts -/

/-- What is refused, if it is, for another cause than depth. -/
def NeverTooDeep (r : Except Fault α) : Prop := ∀ f, r = .error f → f.cause ≠ .tooDeep

/-- A text that a parser with fuel enough reads. -/
theorem neverTooDeep_complete {p : Parser α} {scope : Span} {ts : Tokens}
    [h : Takes 0 (Token.size ts + 1) p] : NeverTooDeep (complete p scope ts) := by
  intro f hf
  have hreaches := h.reaches ⟨ts, scope, none, none⟩ (Nat.lt_succ_self _)
  unfold complete at hf
  generalize p.run _ = r at hreaches hf
  cases hreaches with
  | error cause =>
    cases hf
    exact cause
  | @ok a c =>
    dsimp only [Bind.bind, Except.bind] at hf
    split at hf <;> cases hf <;> simp

namespace NeverTooDeep

theorem ok (a : α) : NeverTooDeep (.ok a : Except Fault α) := by
  intro f hf
  cases hf

theorem error {cause : Cause} (span : Span) [h : Unset cause.isDepth] :
    NeverTooDeep (.error ⟨cause, span⟩ : Except Fault α) := by
  intro f hf
  cases hf
  rintro rfl
  cases h.eq_false

/-- Neither part of a sequence is refused for depth. -/
theorem bind {r : Except Fault α} {g : α → Except Fault β} (hr : NeverTooDeep r)
    (hg : ∀ a, NeverTooDeep (g a)) : NeverTooDeep (r >>= g) := by
  intro f hf
  cases r with
  | error f' =>
    cases hf
    exact hr f rfl
  | ok a => exact hg a f hf

/-- Nor is a step of a fold. -/
theorem foldlM {step : β → α → Except Fault β} (hstep : ∀ b a, NeverTooDeep (step b a))
    (init : β) (as : List α) : NeverTooDeep (as.foldlM step init) := by
  induction as generalizing init with
  | nil => exact .ok init
  | cons a as ih => exact .bind (hstep init a) ih

end NeverTooDeep

end Grammar

open Grammar

theorem Item.neverTooDeep_read (ts : Tokens) : NeverTooDeep (Item.read ts) := neverTooDeep_complete

theorem Path.neverTooDeep_read (scope : Span) (ts : Tokens) : NeverTooDeep (Path.read scope ts) :=
  neverTooDeep_complete

theorem Path.neverTooDeep_ofLiteral (l : Literal) (value : String) (span : Span) :
    NeverTooDeep (Path.ofLiteral l value span) := by
  dsimp only [Path.ofLiteral, lexed]
  refine .bind ?_ fun ts => .bind (Path.neverTooDeep_read span _) fun p => ?_
  · cases lex value with
    | error position => exact .error _
    | ok ts => exact .ok ts
  · split
    · exact .ok p
    · exact .error span

/-- The path that an entry sets is read out of a text of its own. -/
theorem Grammar.Entry.neverTooDeep_library (e : Entry) : NeverTooDeep e.library := by
  dsimp only [Entry.library]
  repeat' split
  · exact Path.neverTooDeep_ofLiteral _ _ _
  all_goals exact .error _

theorem Grammar.Attribute.neverTooDeep_entries (a : Attribute) : NeverTooDeep a.entries := by
  dsimp only [Attribute.entries]
  split
  · exact .error _
  · exact .error _
  · exact neverTooDeep_complete

theorem neverTooDeep_libraryOf (attributes : List Attribute) :
    NeverTooDeep (libraryOf attributes) := by
  refine .foldlM (fun library a => ?_) _ _
  exact .bind a.neverTooDeep_entries fun entries => .foldlM (fun _ e => e.neverTooDeep_library) _ _

theorem Item.neverTooDeep_declaration (i : Item) : NeverTooDeep i.declaration := by
  dsimp only [Item.declaration]
  repeat' split
  all_goals first | exact .ok _ | exact .error _

/-- No item is refused because rules refer to each other too often. -/
theorem expand_ne_tooDeep (ts : Tokens) (span : Span) :
    expand ts ≠ .error (.refused ⟨.tooDeep, span⟩) := by
  intro h
  cases hread : Item.read ts with
  | error f =>
    rw [expand_of_read_error hread] at h
    cases h
    exact Item.neverTooDeep_read ts _ hread rfl
  | ok i =>
    rw [expand_of_read hread] at h
    cases hdeclaration : i.declaration with
    | error f =>
      rw [Item.expand_of_declaration_error hdeclaration] at h
      cases h
      exact i.neverTooDeep_declaration _ hdeclaration rfl
    | ok d =>
      rw [Item.expand_of_declaration hdeclaration] at h
      cases hlibrary : libraryOf i.attributes with
      | error f =>
        rw [hlibrary] at h
        cases h
        exact neverTooDeep_libraryOf _ _ hlibrary rfl
      | ok library =>
        -- The declaration itself is rejected, if it is, and not refused.
        rw [hlibrary] at h
        change (d.render library).mapError ExpansionError.rejected = _ at h
        cases hrender : d.render library <;> rw [hrender] at h <;> cases h

end EnumCases
