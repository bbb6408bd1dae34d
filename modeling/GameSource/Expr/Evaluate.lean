import GameSource.Expr.Lexeme
/-!
# Postfix order and values

Tokens are put into postfix order on a stack of waiting operators (`Postfix.ofTokens`) and then evaluated on a stack of
values (`Evaluation.ofTokens`).  Both take any list of tokens: what does not fit is a problem or is passed over, and
the only thing that stops an evaluation is a decimal number beyond the limit of digits.
-/
namespace GameSource

/-! ## Postfix order -/

namespace Token

def isOperator (t : Token) : Bool := t.kind == .operator

def isOpening (t : Token) : Bool := t.text == ['(']

def isClosing (t : Token) : Bool := t.text == [')']

/-- A waiting operator goes to the output before the operator that comes in: it binds as tight or tighter, and no
parenthesis stands between them. -/
def releases (incoming waiting : Token) : Bool :=
  !waiting.isOpening && waiting.precedence.getD 0 ≤ incoming.precedence.getD 0

end Token

/-- Tokens in postfix order, without parentheses, and the problems met on the way. -/
structure Postfix where
  tokens : List Token
  problems : List Problem
  deriving DecidableEq, Repr

namespace Postfix

/-- Puts tokens into the output, in front of what comes after. -/
def emit (ts : List Token) (p : Postfix) : Postfix := { p with tokens := ts ++ p.tokens }

/-- Tells one parenthesis without a partner. -/
def mismatch (p : Postfix) : Postfix := { p with problems := .mismatchedParentheses :: p.problems }

/-- What is left of the waiting operators, the latest first, at the end of the tokens. -/
def finish (waiting : List Token) : Postfix :=
  let isParenthesis (t : Token) := t.isOpening || t.isClosing
  ⟨waiting.filter (!isParenthesis ·), (waiting.filter isParenthesis).map fun _ => .mismatchedParentheses⟩

/-- The postfix order of the tokens to come, given the waiting operators, the latest first. -/
def ofTokensFrom : (waiting : List Token) → List Token → Postfix
  | waiting, [] => finish waiting
  | waiting, t :: ts =>
    if !t.isOperator then emit [t] (ofTokensFrom waiting ts)
    else if t.isOpening then ofTokensFrom (t :: waiting) ts
    else if t.isClosing then
      emit (waiting.takeWhile (!·.isOpening)) <|
        match waiting.dropWhile (!·.isOpening) with
        | [] => mismatch (ofTokensFrom [] ts)
        | _ :: below => ofTokensFrom below ts
    else
      emit (waiting.takeWhile t.releases) (ofTokensFrom (t :: waiting.dropWhile t.releases) ts)

def ofTokens (ts : List Token) : Postfix := ofTokensFrom [] ts

end Postfix

/-! ## Values -/

/-- The problems that an evaluation met, and its value unless a number stopped it. -/
structure Evaluation where
  problems : List Problem
  value : Except DigitLimit Int

/-- The value of an operator's text, and the problem with it: no operator gives 0, and so does division by zero. -/
def applyText (op : Text) (left right : Int) : Int × List Problem :=
  match Operator.ofText? op with
  | none => (0, [])
  | some op =>
    match op.result? left right with
    | none => (0, [.divisionByZero])
    | some v => (v, [])

namespace Evaluation

/-- Tells problems before those of the rest of the evaluation. -/
def tell (ps : List Problem) (e : Evaluation) : Evaluation := { e with problems := ps ++ e.problems }

/-- Evaluates tokens in postfix order on a stack of values, the latest first.  Error tokens are passed over, and so are
operators that find fewer than two values. -/
def ofTokensFrom : (values : List Int) → List Token → Evaluation
  | values, [] => ⟨[], .ok (values.headD 0)⟩
  | values, t :: ts =>
    match t.kind with
    | .error => ofTokensFrom values ts
    | .operator =>
      match values with
      | right :: left :: below =>
        let (v, ps) := applyText t.text left right
        (ofTokensFrom (v :: below) ts).tell ps
      | few => ofTokensFrom few ts
    | .number =>
      match readInteger t.text with
      | .error e => ⟨[], .error e⟩
      | .ok v => ofTokensFrom (v.getD 0 :: values) ts

/-- Evaluates tokens in postfix order. -/
def ofTokens (ts : List Token) : Evaluation := ofTokensFrom [] ts

end Evaluation

end GameSource
