import GameSource.Number.Int32
import GameSource.Text.Basic
/-!
# Operators

The binary operators of constant expressions.  Each has a spelling, a precedence and an exact result, which wraps to 32
bits after every step; only a division by zero has no result (`Operator.result?`).
-/
namespace GameSource

/-- The binary operators of constant expressions. -/
inductive Operator where
  | mul | div | rem | add | sub | shiftLeft | shiftRight | and | xor | or
  deriving DecidableEq, Repr

namespace Operator

def all : List Operator := [mul, div, rem, add, sub, shiftLeft, shiftRight, and, xor, or]

def text : Operator → Text
  | mul => ['*']
  | div => ['/']
  | rem => ['%']
  | add => ['+']
  | sub => ['-']
  | shiftLeft => ['<', '<']
  | shiftRight => ['>', '>']
  | and => ['&']
  | xor => ['^']
  | or => ['|']

/-- A smaller number binds tighter. -/
def precedence : Operator → Nat
  | mul | div | rem => 3
  | add | sub => 4
  | shiftLeft | shiftRight => 5
  | and => 8
  | xor => 9
  | or => 10

def ofText? (t : Text) : Option Operator := all.find? fun op => op.text == t

theorem ofText?_text (op : Operator) : ofText? op.text = some op := by
  cases op <;> rfl

/-- Works on the bits of two 32-bit words. -/
def onBits (f : BitVec 32 → BitVec 32 → BitVec 32) (left right : Int) : Int :=
  (f (.ofInt 32 left) (.ofInt 32 right)).toInt

/-- The exact result, before wrapping.  Division truncates toward zero and the remainder goes with it; a shift count
is taken modulo 32, and a shift to the right keeps the sign. -/
def exact : Operator → Int → Int → Int
  | mul, left, right => left * right
  | div, left, right => left.tdiv right
  | rem, left, right => left.tmod right
  | add, left, right => left + right
  | sub, left, right => left - right
  | shiftLeft, left, right => left <<< (right % 32).toNat
  | shiftRight, left, right => left >>> (right % 32).toNat
  | and, left, right => onBits (· &&& ·) left right
  | xor, left, right => onBits (· ^^^ ·) left right
  | or, left, right => onBits (· ||| ·) left right

/-- Whether the operator divides. -/
def divides : Operator → Bool
  | div | rem => true
  | _ => false

/-- The wrapped result, or nothing for a division by zero. -/
def result? (op : Operator) (left right : Int) : Option Int :=
  if op.divides && right == 0 then none else some (wrap32 (op.exact left right))

end Operator

end GameSource
