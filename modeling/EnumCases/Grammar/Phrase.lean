import EnumCases.Grammar.Parser
import EnumCases.Path

/-!
# Phrases

Types, patterns, expressions and nested items are read for their extent only. What is kept of one is a
*phrase*: its tokens, in which marks are joint just within operators, and its form as far as the
grammar asks for it afterwards.

All of these contain each other. The rules for them are therefore written over a parameter that reads
a nonterminal, and `Grammar.Rules` ties the knot.
-/

namespace EnumCases.Grammar

/-- The form of a phrase. -/
inductive Form where
  /-- A path without a qualified self type. -/
  | path (p : Path)
  /-- Bounds without `dyn` that consist of one bound, and the tokens of that bound without
  parentheses around them. -/
  | bound (inner : Tokens)
  /-- A bound that is no trait. -/
  | lifetime
  /-- A literal by itself. -/
  | literal (l : Literal)
  /-- A range of values, or a range of patterns with one end, and the place of its dots. -/
  | range (dots : Span)
  /-- A comparison. -/
  | comparison
  /-- An expression that ends with a block, and so a statement by itself. -/
  | block
  /-- A call of a macro, in braces or not. -/
  | macroCall (braces : Bool)
  /-- Tokens that are kept as they are written. -/
  | verbatim
  /-- Anything else. -/
  | other

/-- What is kept of a type, a pattern, an expression or an item. -/
structure Phrase where
  /-- The tokens. -/
  tokens : Tokens
  /-- The form. -/
  form : Form := .other
  /-- Whether the first operand is kept as it is written, so that it takes no attributes. -/
  closed : Bool := false

/-- A phrase with attributes before its first operand. A range takes them in front of parentheses. -/
def Phrase.attributed (outer : Tokens) (p : Phrase) : Phrase :=
  if outer.isEmpty || p.closed then p
  else
    match p.form with
    | .range _ => { p with tokens := outer ++ [.group .parenthesis p.tokens .callSite] }
    | _ => { p with tokens := outer ++ p.tokens }

/-- The levels of binary operators, from the loosest. -/
inductive Level where
  | lowest
  | assign
  | range
  | or
  | and
  | compare
  | bitOr
  | bitXor
  | bitAnd
  | shift
  | sum
  | product
  | cast
deriving DecidableEq, Repr

/-- The rank of a level: tighter operators have greater ranks. -/
def Level.rank : Level → Nat
  | .lowest => 0
  | .assign => 1
  | .range => 2
  | .or => 3
  | .and => 4
  | .compare => 5
  | .bitOr => 6
  | .bitXor => 7
  | .bitAnd => 8
  | .shift => 9
  | .sum => 10
  | .product => 11
  | .cast => 12

/-- What the rules refer to. A flag `braces` says whether a structure may be written where the
expression stands, and not, say, in front of the block of a loop. -/
inductive Nonterminal where
  /-- A type, in which `+` may add bounds or not. -/
  | type (plus : Bool)
  /-- A bound of a type, which may list captured names or not, and may be constant or not. -/
  | bound (capture constant : Bool)
  /-- A pattern without alternatives. -/
  | pattern
  /-- A pattern with its alternatives. -/
  | alternatives
  /-- An expression. -/
  | expression (braces : Bool)
  /-- An expression that is a statement, and ends with its block if it starts with one. -/
  | prompt
  /-- A block. -/
  | block
  /-- A block that may start with attributes. -/
  | body
  /-- An item in a block or a module. -/
  | definition
  /-- What is used of a module; `::` may stand before it or not. -/
  | useTree (root : Bool)
  /-- An operand with its unary operators. -/
  | unary (braces : Bool)
  /-- What may follow an operand directly: calls, fields, indices. -/
  | trailers (operand : Phrase)
  /-- Binary operators after a left operand that are at least as tight as a level. -/
  | operators (left : Phrase) (base : Level) (braces : Bool)
  /-- The right operand of an operator, from its beginning. -/
  | right (level : Level) (braces : Bool)
  /-- The right operand of an operator, after a part of it. -/
  | rightRest (operand : Phrase) (level : Level) (braces : Bool)

/-- Reads a nonterminal. -/
abbrev Reader := Nonterminal → Parser Phrase

/-- Reads a nonterminal, for its tokens. -/
def Reader.tokens (read : Reader) (n : Nonterminal) : Parser Tokens := return (← read n).tokens

/-- Reads an expression, for its tokens. -/
def Reader.value (read : Reader) : Parser Tokens := read.tokens (.expression true)

end EnumCases.Grammar
