import GameSource.Number.Int32
import GameSource.Text.Basic
/-!
# Integers as they are written in C

A sign, then hexadecimal digits behind `0x`, octal digits behind a leading zero, or decimal digits, then any run of
suffix letters.  The value wraps to 32 bits.  A decimal number may have at most `digitLimit` digits; a longer one is a
fault of its own (`DigitLimit`) and not just no number.  The same limit holds for integers that are written in decimal.
-/
namespace GameSource

/-- A number has too many decimal digits. -/
inductive DigitLimit where
  /-- There are `count` of them in a number that is read. -/
  | reading (count : Nat)
  /-- They are those of an integer that is to be written. -/
  | writing
  deriving DecidableEq, Repr

/-- The largest number of decimal digits that is read or written. -/
def digitLimit : Nat := 4300

def DigitLimit.message (e : DigitLimit) : String :=
  let found := match e with
    | reading count => ": value has " ++ toString count ++ " digits"
    | writing => ""
  "Exceeds the limit (" ++ toString digitLimit ++ " digits) for integer string conversion" ++ found
    ++ "; use sys.set_int_max_str_digits() to increase the limit"

/-- The digits of an unsigned number and the base they are read in. -/
structure Numeral where
  base : Nat
  digits : Text
  deriving DecidableEq, Repr

namespace Numeral

def value (n : Numeral) : Nat := n.digits.foldl (fun v c => n.base * v + hexValue c) 0

/-- Decimal digits behind a leading zero are octal. -/
def ofDigits? (digits : Text) : Option Numeral :=
  match digits with
  | [] => none
  | '0' :: _ :: _ => if digits.all isOctalDigit then some ⟨8, digits⟩ else none
  | _ => some ⟨10, digits⟩

/-- The numeral that a text is, with its suffix. -/
def ofText? (t : Text) : Option Numeral :=
  let hex := if t.head? == some '0' && (t[1]? == some 'x' || t[1]? == some 'X') then t.drop 2 else []
  if hex.takeWhile isHexDigit ≠ [] then
    if (hex.dropWhile isHexDigit).all isSuffixLetter then some ⟨16, hex.takeWhile isHexDigit⟩ else none
  else if (t.dropWhile Char.isDigit).all isSuffixLetter then ofDigits? (t.takeWhile Char.isDigit)
  else none

end Numeral

/-- The sign of a number that begins a text, `-1` or `1`, and the rest. -/
def readSign : Text → Int × Text
  | '-' :: rest => (-1, rest)
  | '+' :: rest => (1, rest)
  | t => (1, t)

/-- The integer that a text is, if it is one. -/
def readInteger (t : Text) : Except DigitLimit (Option Int) :=
  let (sign, rest) := readSign (Text.trim t)
  match Numeral.ofText? rest with
  | none => .ok none
  | some n =>
    if n.base = 10 ∧ digitLimit < n.digits.length then .error (.reading n.digits.length)
    else .ok (some (wrap32 (sign * n.value)))

/-- The upper case of the letters that the two truth values are spelled with; `ſ` is a lower case `S`. -/
def truthUpper (c : Char) : Char := if c = 'ſ' then 'S' else c.toUpper

/-- An integer, or a truth value in any case: true is 1 and false is 0. -/
def readGameValue (t : Text) : Except DigitLimit (Option Int) :=
  let upper := (Text.trim t).map truthUpper
  if upper = "TRUE".toList then .ok (some 1)
  else if upper = "FALSE".toList then .ok (some 0)
  else readInteger t

/-- The number that decimal digits of any system stand for. -/
def natOfDecimals (digits : Text) : Nat := digits.foldl (fun n c => 10 * n + (decimalValue? c).getD 0) 0

/-! ## Writing -/

/-- The decimal notation of an integer. -/
def decimalText (n : Int) : Text := (toString n).toList

/-- An integer has no more decimal digits than are written. -/
def FewDigits (n : Int) : Prop := (Nat.toDigits 10 n.natAbs).length ≤ digitLimit

instance (n : Int) : Decidable (FewDigits n) := inferInstanceAs (Decidable (_ ≤ _))

/-- An integer as it is written, which is in decimal and only with few digits. -/
def writeInteger (n : Int) : Except DigitLimit Text :=
  if FewDigits n then .ok (decimalText n) else .error .writing

end GameSource
