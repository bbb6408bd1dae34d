import GameSource.Text.Basic
import GameSource.Text.UnprintedRanges
/-!
# Texts in quotes

How a text is shown inside a message: between single quotes, or double ones if it has single quotes only, with the
characters that do not print written as escapes.
-/
namespace GameSource

/-- A digit below 16, in lower case. -/
def hexDigitChar (n : Nat) : Char :=
  if n < 10 then .ofNat (48 + n) else .ofNat (87 + n)

/-- The lowest `width` hexadecimal digits of a number. -/
def hexText : (width : Nat) → Nat → Text
  | 0, _ => []
  | width + 1, n => hexText width (n / 16) ++ [hexDigitChar (n % 16)]

/-- Whether a character is shown as it is. -/
def isPrinted (c : Char) : Bool :=
  if c.toNat < 128 then 32 ≤ c.toNat && c.toNat < 127 else !inRanges CharRange.unprinted c.toNat

/-- A character inside the given quotes. -/
def quotedChar (quote c : Char) : Text :=
  if c = quote ∨ c = '\\' then ['\\', c]
  else if c = '\n' then ['\\', 'n']
  else if c = '\r' then ['\\', 'r']
  else if c = '\t' then ['\\', 't']
  else if isPrinted c then [c]
  else if c.toNat < 0x100 then '\\' :: 'x' :: hexText 2 c.toNat
  else if c.toNat < 0x10000 then '\\' :: 'u' :: hexText 4 c.toNat
  else '\\' :: 'U' :: hexText 8 c.toNat

/-- A text as messages show it. -/
def quoted (t : Text) : Text :=
  let quote := if t.contains '\'' && !t.contains '"' then '"' else '\''
  quote :: t.flatMap (quotedChar quote) ++ [quote]

end GameSource
