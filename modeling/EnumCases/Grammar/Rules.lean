import EnumCases.Grammar.Statement

/-!
# The grammar

`rules` reads a nonterminal by its rule, in which further nonterminals are read with one unit of
fuel less. A chain of rules that refer to each other without reading a token has at most three, so
three units for each token are enough (`Proofs.Depth`); `reader` starts with that.
-/

namespace EnumCases.Grammar

/-- Reads a nonterminal with a limit on the depth of rules. -/
def rules : (fuel : Nat) → Reader
  | 0, _ => refuseHere .tooDeep
  | fuel + 1, n =>
    match n with
    | .type plus => typeRule (rules fuel) plus
    | .bound capture constant => boundRule (rules fuel) capture constant
    | .pattern => patternRule (rules fuel)
    | .alternatives => alternativesRule (rules fuel)
    | .expression braces => expressionRule (rules fuel) braces
    | .prompt => promptRule (rules fuel)
    | .block => blockRule (rules fuel)
    | .body => bodyRule (rules fuel)
    | .definition => definitionRule (rules fuel)
    | .useTree root => useTreeRule (rules fuel) root
    | .unary braces => unaryRule (rules fuel) braces
    | .trailers operand => trailersRule (rules fuel) operand
    | .operators left base braces => operatorsRule (rules fuel) left base braces
    | .right level braces => do
      rules fuel (.rightRest (← rules fuel (.unary braces)) level braces)
    | .rightRest operand level braces => rightRestRule (rules fuel) operand level braces

/-- Reads nonterminals in a text of the given tokens. -/
def reader (ts : Tokens) : Reader := rules (3 * (Token.size ts + 1))

end EnumCases.Grammar
