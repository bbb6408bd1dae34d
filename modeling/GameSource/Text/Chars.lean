import GameSource.Text.LetterRanges
import GameSource.Text.NumberRanges
/-!
# Classes of characters

The classes that the readers of source text tell apart.  Names and words follow Unicode, so `é` and `٣` belong to
words; the tokens of expressions and the labels of tables are ASCII.  Each Unicode class agrees with the usual ASCII
one below code point 128 (`isLetter_of_ascii` and its kin).
-/
namespace GameSource

/-- A code point in one of the ranges, ends included. -/
def inRanges (ranges : List (Nat × Nat)) (n : Nat) : Bool :=
  ranges.any fun r => r.1 ≤ n && n ≤ r.2

/-! ## Unicode classes -/

def isLetter (c : Char) : Bool :=
  if c.toNat < 128 then c.isAlpha else inRanges CharRange.letters c.toNat

/-- A digit of a decimal system: ten of them in a row, zero first. -/
def isDecimal (c : Char) : Bool :=
  if c.toNat < 128 then c.isDigit else inRanges CharRange.decimals c.toNat

/-- A decimal digit, or one that is not used positionally, such as `²`. -/
def isDigit (c : Char) : Bool :=
  isDecimal c || inRanges CharRange.otherDigits c.toNat

def isAlnum (c : Char) : Bool :=
  isLetter c || isDigit c || inRanges CharRange.otherNumbers c.toNat

/-- A character of a word: a letter, a digit, a number or the underscore. -/
def isWord (c : Char) : Bool :=
  c == '_' || isAlnum c

/-- The ranges of white space. -/
def spaceRanges : List (Nat × Nat) :=
  [(9, 13), (28, 32), (133, 133), (160, 160), (5760, 5760), (8192, 8202), (8232, 8233), (8239, 8239), (8287, 8287),
    (12288, 12288)]

def isSpace (c : Char) : Bool :=
  inRanges spaceRanges c.toNat

/-- White space that does not end a line. -/
def isInlineSpace (c : Char) : Bool :=
  c != '\n' && isSpace c

/-! ## ASCII classes -/

/-- A character of an ASCII word. -/
def isAsciiWord (c : Char) : Bool :=
  c.isAlphanum || c == '_'

def isHexDigit (c : Char) : Bool :=
  c.isDigit || ('a' ≤ c && c ≤ 'f') || ('A' ≤ c && c ≤ 'F')

def isOctalDigit (c : Char) : Bool :=
  '0' ≤ c && c ≤ '7'

/-- A letter of a type suffix on a number. -/
def isSuffixLetter (c : Char) : Bool :=
  c == 'u' || c == 'U' || c == 'l' || c == 'L'

/-! ## Values of digits -/

/-- The value of a decimal digit of any system: its distance from the zero of its decade. -/
def decimalValue? (c : Char) : Option Nat :=
  if c.isDigit then some (c.toNat - 48)
  else if c.toNat < 128 then none
  else (CharRange.decimals.find? fun r => r.1 ≤ c.toNat && c.toNat ≤ r.2).map fun r => (c.toNat - r.1) % 10

/-- The value of a hexadecimal digit, and 0 for any other character. -/
def hexValue (c : Char) : Nat :=
  if c.isDigit then c.toNat - 48
  else if 'a' ≤ c && c ≤ 'f' then c.toNat - 87
  else if 'A' ≤ c && c ≤ 'F' then c.toNat - 55
  else 0

/-! ## Agreement with ASCII -/

theorem isLetter_of_ascii {c : Char} (h : c.toNat < 128) : isLetter c = c.isAlpha := by
  simp [isLetter, h]

theorem isDecimal_of_ascii {c : Char} (h : c.toNat < 128) : isDecimal c = c.isDigit := by
  simp [isDecimal, h]

end GameSource
