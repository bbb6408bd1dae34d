import GameSource.Proofs.Expr.Word
import GameSource.Proofs.Number.Literal
/-!
# Expressions as trees, and how they are written

An expression is a tree of operators over literals and names.  Its value is that of 32-bit arithmetic on words
(`Expression.word`).  `Spells` says which texts write a tree: operands and operators in order, white space anywhere
between them, and parentheses at least where the order of the operators needs them.
-/
namespace GameSource

/-- A name as C has them: word characters of ASCII, the first of which is no digit. -/
structure Identifier where
  text : Text
  isAsciiWord_of_mem : ∀ c ∈ text, isAsciiWord c
  exists_text_eq_cons : ∃ c t, text = c :: t ∧ c.isDigit = false

inductive Expression where
  | literal (l : Literal)
  | name (i : Identifier)
  | binary (op : Operator) (left right : Expression)

/-- How loosely an operator binds: `* / %`, then `+ -`, then `<< >>`, `&`, `^` and, the loosest, `|`. -/
def Operator.looseness : Operator → Nat
  | mul | div | rem => 1
  | add | sub => 2
  | shiftLeft | shiftRight => 3
  | and => 4
  | xor => 5
  | or => 6

namespace Expression

/-! ## Meaning -/

/-- The value of an expression as a 32-bit word, where `env` gives the names their values. -/
def word (env : Text → Int) : Expression → BitVec 32
  | literal l => .ofNat 32 l.value
  | name i => .ofInt 32 (env i.text)
  | binary op left right => op.onWords (left.word env) (right.word env)

/-- The number of divisions by zero that evaluating the expression meets. -/
def zeroDivisions (env : Text → Int) : Expression → Nat
  | literal _ => 0
  | name _ => 0
  | binary op left right =>
    left.zeroDivisions env + right.zeroDivisions env + if op.divides = true ∧ right.word env = 0 then 1 else 0

def names : Expression → List Text
  | literal _ => []
  | name i => [i.text]
  | binary _ left right => left.names ++ right.names

/-! ## Writing -/

/-- `Spells k t e`: the text `t` writes `e`, and outside parentheses it has no operator that binds looser than `k`.
Operators of one looseness group to the left. -/
inductive Spells : Nat → Text → Expression → Prop where
  | literal (k : Nat) (l : Literal) : Spells k l.text (.literal l)
  | name (k : Nat) (i : Identifier) : Spells k i.text (.name i)
  | parens (k : Nat) {before t after : Text} {e : Expression} (hb : ∀ c ∈ before, isSpace c)
      (ha : ∀ c ∈ after, isSpace c) (h : Spells Operator.or.looseness t e) :
      Spells k (['('] ++ before ++ t ++ after ++ [')']) e
  | binary {k : Nat} {s before after t : Text} {left right : Expression} (op : Operator) (hop : op.looseness ≤ k)
      (hb : ∀ c ∈ before, isSpace c) (ha : ∀ c ∈ after, isSpace c) (hl : Spells op.looseness s left)
      (hr : Spells (op.looseness - 1) t right) :
      Spells k (s ++ before ++ op.text ++ after ++ t) (.binary op left right)

/-- The text writes the expression, with white space around it or none. -/
def Writes (t : Text) (e : Expression) : Prop :=
  ∃ before body after, t = before ++ body ++ after ∧ (∀ c ∈ before, isSpace c) ∧ (∀ c ∈ after, isSpace c) ∧
    Spells Operator.or.looseness body e

end Expression

end GameSource
