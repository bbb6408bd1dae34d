import GameSource.Text.CharNames.From0020
import GameSource.Text.CharNames.From11700
import GameSource.Text.CharNames.From1E9E
import GameSource.Text.CharNames.From1EE8B
import GameSource.Text.CharNames.From300F
import GameSource.Text.CharNames.Further
import GameSource.Text.Basic
/-!
# Characters by name

The Unicode name of a character gives its code point.  Most names stand in tables (`NameRecord`); the names of Hangul
syllables are put together from those of their letters, and those of ideographs end with the code point itself.  Case
does not count, but for Hangul syllables and for unified ideographs.
-/
namespace GameSource

/-! ## Tables -/

/-- The names of consecutive characters: the code point of the first, and what each name is made of. -/
structure NameRecord where
  first : Nat
  lead : Text
  ends : List Text

namespace NameRecord

/-- Reads a record: a code point, a space, what all names begin with, and their ends, each behind a bar. -/
def ofText (t : Text) : NameRecord :=
  let code := t.takeWhile (· != ' ')
  match Text.splitOn '|' ((t.dropWhile (· != ' ')).drop 1) with
  | [] => ⟨0, [], []⟩
  | lead :: ends => ⟨code.foldl (fun n c => 16 * n + hexValue c) 0, lead, ends⟩

def find? (name : Text) (r : NameRecord) : Option Nat :=
  (Text.after? r.lead name).bind fun rest => (r.ends.findIdx? (· == rest)).map (r.first + ·)

end NameRecord

/-- The records of a table; the line feeds in it do not count. -/
def recordsOf (table : String) : List NameRecord :=
  (Text.splitOn ';' (table.toList.filter (· != '\n'))).map NameRecord.ofText

def nameTables : List String :=
  [CharNames.from0020, CharNames.from02DE, CharNames.from0698, CharNames.from0C05, CharNames.from1318,
    CharNames.from1B74, CharNames.from1E9E, CharNames.from213C, CharNames.from23D1, CharNames.from2702,
    CharNames.from29A5, CharNames.from2B8A, CharNames.from300F, CharNames.fromA500, CharNames.fromAA80,
    CharNames.fromFCE1, CharNames.from1003F, CharNames.from10A60, CharNames.from11700, CharNames.from122FA,
    CharNames.from14400, CharNames.from1B002, CharNames.from1D306, CharNames.from1D95D, CharNames.from1EE8B,
    CharNames.from1F503, CharNames.from1F7C1, CharNames.from1FA83, CharNames.further]

/-! ## Names that end with the code point -/

/-- The beginnings of such names, and the characters that have them. -/
def codeNames : List (Text × List (Nat × Nat)) :=
  [("CJK COMPATIBILITY IDEOGRAPH-".toList, [(0xF900, 0xFA6D), (0xFA70, 0xFAD9), (0x2F800, 0x2FA1D)]),
    ("NUSHU CHARACTER-".toList, [(0x1B170, 0x1B2FB)]),
    ("KHITAN SMALL SCRIPT CHARACTER-".toList, [(0x18B00, 0x18CD5)])]

/-- The code point that upper case hexadecimal digits give, without a leading zero. -/
def codeOf? (digits : Text) : Option Nat :=
  if digits.all (fun c => c.isDigit || ('A' ≤ c && c ≤ 'F')) && digits.head? != some '0' && !digits.isEmpty then
    some (digits.foldl (fun n c => 16 * n + hexValue c) 0)
  else none

def codeNamed? (name : Text) : Option Nat :=
  codeNames.findSome? fun (lead, ranges) => do
    let n ← codeOf? (← Text.after? lead name)
    if ranges.any fun r => r.1 ≤ n && n ≤ r.2 then some n else none

/-- The unified ideographs. -/
def unifiedRanges : List (Nat × Nat) :=
  [(0x3400, 0x4DBF), (0x4E00, 0x9FFF), (0x20000, 0x2A6DF), (0x2A700, 0x2B738), (0x2B740, 0x2B81D), (0x2B820, 0x2CEA1),
    (0x2CEB0, 0x2EBE0), (0x30000, 0x3134A)]

/-- The unified ideograph with a code point of four or five digits. -/
def unified? (digits : Text) : Option Nat :=
  let n := digits.foldl (fun n c => 16 * n + hexValue c) 0
  if (digits.length = 4 ∨ digits.length = 5) ∧ digits.all (fun c => c.isDigit || ('A' ≤ c && c ≤ 'F')) ∧
      unifiedRanges.any fun r => r.1 ≤ n && n ≤ r.2 then some n
  else none

/-! ## Hangul syllables -/

def hangulLeads : List Text :=
  ["G", "GG", "N", "D", "DD", "R", "M", "B", "BB", "S", "SS", "", "J", "JJ", "C", "K", "T", "P", "H"].map String.toList

def hangulVowels : List Text :=
  ["A", "AE", "YA", "YAE", "EO", "E", "YEO", "YE", "O", "WA", "WAE", "OE", "YO", "U", "WEO", "WE", "WI", "YU", "EU",
    "YI", "I"].map String.toList

def hangulTails : List Text :=
  ["", "G", "GG", "GS", "N", "NJ", "NH", "D", "L", "LG", "LM", "LB", "LS", "LT", "LP", "LH", "M", "B", "BS", "S", "SS",
    "NG", "J", "C", "K", "T", "P", "H"].map String.toList

/-- The place of the longest of the letters that begins a text, and what follows it. -/
def longestLetter? (letters : List Text) (t : Text) : Option (Nat × Text) :=
  (letters.zipIdx.filterMap fun (letter, i) => (Text.after? letter t).map fun rest => (i, rest)).foldl
    (fun best found => match best with
      | none => some found
      | some b => if found.2.length < b.2.length then some found else some b) none

/-- The syllable of a leading consonant, a vowel and a trailing consonant or none. -/
def hangul? (t : Text) : Option Nat := do
  let (l, t) ← longestLetter? hangulLeads t
  let (v, t) ← longestLetter? hangulVowels t
  let (e, t) ← longestLetter? hangulTails t
  if t.isEmpty then some (0xAC00 + (l * hangulVowels.length + v) * hangulTails.length + e) else none

/-! ## All names -/

/-- The code point of the character with a name. -/
def charNamed? (name : Text) : Option Nat :=
  match Text.after? "HANGUL SYLLABLE ".toList name, Text.after? "CJK UNIFIED IDEOGRAPH-".toList name with
  | some letters, _ => hangul? letters
  | none, some digits => unified? digits
  | none, none =>
    let name := name.map Char.toUpper
    (nameTables.findSome? fun table => (recordsOf table).findSome? (·.find? name)).or (codeNamed? name)

end GameSource
