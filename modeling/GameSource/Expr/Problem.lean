import GameSource.Text.Basic
/-!
# Problems in expressions

What can be wrong with an expression without stopping its evaluation.  A problem is told by a message and, where one
is known, by the fragment of the text at which it is looked for.
-/
namespace GameSource

inductive Problem where
  /-- A name without a value; `rest` is the expression from the name on. -/
  | unknownToken (name rest : Text)
  /-- A run of operator characters that is no operator; `rest` is the expression from it on. -/
  | unsupportedOperator (op rest : Text)
  | mismatchedParentheses
  | divisionByZero
  | noDefinition (name : Text)
  | circularDependency (name : Text)
  deriving DecidableEq, Repr

namespace Problem

def message : Problem → String
  | unknownToken name rest =>
    "unknown token '" ++ .ofList name ++ "' found in expression '" ++ .ofList rest ++ "'"
  | unsupportedOperator op _ => "unsupported postfix operator: '" ++ .ofList op ++ "'"
  | mismatchedParentheses => "Mismatched parentheses detected in expression!"
  | divisionByZero => "division by zero"
  | noDefinition name => "no definition found for '" ++ .ofList name ++ "'"
  | circularDependency name => "circular dependency on '" ++ .ofList name ++ "'"

/-- The text at which the problem is looked for; empty where none is known. -/
def fragment : Problem → Text
  | unknownToken _ rest => rest
  | unsupportedOperator _ rest => rest
  | mismatchedParentheses => []
  | divisionByZero => []
  | noDefinition name => name
  | circularDependency name => name

end Problem

end GameSource
