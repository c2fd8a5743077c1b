import EnumCases.Token.Basic

/-!
# Syntax errors

A syntax error is a cause and a place. Most causes say what was wanted and not found; the words for
that are in `Terminal.describe`, and all texts are in `Cause.message`.
-/

namespace EnumCases.Grammar

/-- What may be wanted at a place. -/
inductive Terminal where
  /-- A keyword or an operator, given by its text. -/
  | symbol (text : String)
  | identifier
  | lifetime
  | group (d : Delimiter)
  /-- A group with any delimiter. -/
  | anyGroup
  | expression
  | literal
  | stringLiteral
  /-- A name or an index of a field. -/
  | member
  /-- A name or `_`. -/
  | nameOrBar
  /-- The upper bound of a range in a pattern. -/
  | upperBound
  /-- What may have a label: a loop or a block. -/
  | labelled
  /-- A segment of a path that was announced by `::`. -/
  | nextSegment
deriving DecidableEq, Repr

/-- The words for what is wanted. -/
def Terminal.describe : Terminal → String
  | .symbol text => "`" ++ text ++ "`"
  | .identifier => "identifier"
  | .lifetime => "lifetime"
  | .group .parenthesis => "parentheses"
  | .group .bracket => "square brackets"
  | .group .brace => "curly braces"
  | .anyGroup => "delimiter"
  | .expression => "an expression"
  | .literal => "literal"
  | .stringLiteral => "string literal"
  | .member => "identifier or integer"
  | .nameOrBar => "identifier or underscore"
  | .upperBound => "range upper bound"
  | .labelled => "loop or block expression"
  | .nextSegment => "path segment after `::`"

/-- What kind of thing a cast cannot be followed by. -/
inductive Follower where
  | await
  | methodCall
  | fieldAccess
  | question
  | indexing
  | call
deriving DecidableEq, Repr

/-- Why a text is refused. -/
inductive Cause where
  /-- Something else was wanted here. -/
  | unexpected (wanted : List Terminal)
  /-- Something was wanted, and the text or the group ended. -/
  | unexpectedEnd (wanted : List Terminal)
  /-- A name was wanted, and there is a keyword. -/
  | keyword (name : String)
  /-- Tokens are left over at the end of a group, or of the text. -/
  | leftOver (within : Option Delimiter)
  /-- A statement does not end where the next one starts. -/
  | missingSemicolon
  /-- A quoted text is no list of tokens. -/
  | lexical
  | chainedComparison
  | castFollowedBy (what : Follower)
  | reservedWhereGenerics
  | nestedAttribute
  /-- Attributes stand before a range without a lower end. -/
  | attributedRange
  /-- A labelled loop is the value of `break`. -/
  | parenthesesRequired
  /-- The index of a field has a suffix. -/
  | suffixedIndex
  /-- The index of a field is no integer. -/
  | fractionalIndex
  /-- The index of a field has a sign. -/
  | negativeIndex
  /-- The index of a field has more than 32 bits. -/
  | hugeIndex
  /-- A range with one end stands in a slice pattern. -/
  | openRangeInSlice
  /-- A bound is constant where it may not be, in brackets or not. -/
  | constantBound (brackets : Bool)
  /-- Captured names are listed where they may not be. -/
  | capturingBound
  /-- A bound has both `for` and `?`. -/
  | binderWithQuestion
  /-- Bounds without a trait after `dyn`. -/
  | objectWithoutTrait
  /-- Bounds without a trait after `impl`. -/
  | implWithoutTrait
  /-- A receiver stands after other arguments, one of which may be a receiver. -/
  | misplacedReceiver (second : Bool)
  | negativeInherentImpl
  | genericEnum
  /-- The helper attribute has no arguments. -/
  | missingArguments
  /-- The helper attribute has a value. -/
  | valueForArguments
  /-- An argument of the helper attribute is no pair of key and value. -/
  | notKeyValue
  /-- An argument of the helper attribute has an unknown key. -/
  | unknownOption
  /-- An argument of the helper attribute is no string. -/
  | notString
  /-- A string literal has a suffix. -/
  | suffixedString (suffix : String)
  /-- Rules refer to each other more often than there is fuel for. -/
  | tooDeep
  /-- A message from elsewhere. -/
  | custom (message : String)
deriving DecidableEq, Repr

/-- What is wanted, in words. -/
def expectation : List Terminal → String
  | [a] => "expected " ++ a.describe
  | [a, b] => "expected " ++ a.describe ++ " or " ++ b.describe
  | wanted => "expected one of: " ++ ", ".intercalate (wanted.map Terminal.describe)

/-- The words for what follows a cast. -/
def Follower.describe : Follower → String
  | .await => "`.await`"
  | .methodCall => "a method call"
  | .fieldAccess => "a field access"
  | .question => "`?`"
  | .indexing => "indexing"
  | .call => "a function call"

/-- The message of a cause. -/
def Cause.message : Cause → String
  | .unexpected [] => "unexpected token"
  | .unexpected wanted => expectation wanted
  | .unexpectedEnd [] => "unexpected end of input"
  | .unexpectedEnd wanted => "unexpected end of input, " ++ expectation wanted
  | .keyword name => "expected identifier, found keyword `" ++ name ++ "`"
  | .leftOver none => "unexpected token"
  | .leftOver (some d) => "unexpected token, expected `" ++ String.singleton d.closing ++ "`"
  | .missingSemicolon => "unexpected token, expected `;`"
  | .lexical => "cannot parse string into token stream"
  | .chainedComparison => "comparison operators cannot be chained"
  | .castFollowedBy what => "casts cannot be followed by " ++ what.describe
  | .reservedWhereGenerics => "generic parameters on `where` clauses are reserved for future use"
  | .nestedAttribute => "unexpected attribute inside of attribute"
  | .attributedRange => "attributes are not allowed on range expressions starting with `..`"
  | .parenthesesRequired => "parentheses required"
  | .suffixedIndex => "expected unsuffixed integer"
  | .fractionalIndex => "expected integer literal"
  | .negativeIndex => "invalid digit found in string"
  | .hugeIndex => "number too large to fit in target type"
  | .openRangeInSlice => "range pattern is not allowed unparenthesized inside slice pattern"
  | .constantBound false => "`const` is not allowed here"
  | .constantBound true => "`[const]` is not allowed here"
  | .capturingBound => "`use<...>` precise capturing syntax is not allowed here"
  | .binderWithQuestion => "`for<...>` binder not allowed with `?` trait polarity modifier"
  | .objectWithoutTrait => "at least one trait is required for an object type"
  | .implWithoutTrait => "at least one trait must be specified"
  | .misplacedReceiver false => "unexpected method receiver"
  | .misplacedReceiver true => "unexpected second method receiver"
  | .negativeInherentImpl => "inherent impls cannot be negative"
  | .genericEnum => "generic enums are not supported"
  | .missingArguments =>
    "expected attribute arguments in parentheses: #[case_detection(...)]"
  | .valueForArguments => "expected parentheses: #[case_detection(...)]"
  | .notKeyValue => "expected `key = \"value\"` in case_detection attribute"
  | .unknownOption => "unknown case_detection option, expected `crate`"
  | .notString => "expected string literal"
  | .suffixedString suffix => "unexpected suffix `" ++ suffix ++ "` on string literal"
  | .tooDeep => "nesting is too deep"
  | .custom message => message

/-- A syntax error. -/
structure Fault where
  /-- Why the text is refused. -/
  cause : Cause
  /-- Where. -/
  span : Span
deriving DecidableEq, Repr

/-- The message of a syntax error. -/
def Fault.message (f : Fault) : String := f.cause.message

instance : ToString Fault := ⟨Fault.message⟩

end EnumCases.Grammar
