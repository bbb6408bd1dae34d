import GameSource.Files.Fault
/-!
# Bytes as text
-/
namespace GameSource

abbrev Bytes := List UInt8

namespace Encoding

/-- The words of a name in lower case, joined by underscores.  A word is a run of letters, digits and points. -/
def normalName (name : Text) : Text :=
  let words := (Text.splitWhere (fun c => !(c.isAlphanum || c == '.')) name).filter (!·.isEmpty)
  ['_'].intercalate (words.map (·.map Char.toLower))

/-- The name of an encoding, which has no other spelling. -/
def ownName : Encoding → String
  | utf8 => "utf_8"
  | latin1 => "latin_1"
  | ascii => "ascii"

/-- Further names, in which a point may stand for an underscore. -/
def aliases : Encoding → List String
  | utf8 => ["utf8", "u8", "utf", "utf8_ucs2", "utf8_ucs4", "cp65001"]
  | latin1 => ["latin1", "latin", "l1", "iso_8859_1", "iso8859_1", "iso8859", "8859", "cp819", "ibm819",
      "iso_8859_1_1987", "iso_ir_100", "csisolatin1"]
  | ascii => ["us_ascii", "us", "646", "ansi_x3.4_1968", "ansi_x3_4_1968", "ansi_x3.4_1986", "cp367", "csascii",
      "ibm367", "iso646_us", "iso_646.irv_1991", "iso_ir_6"]

def isNamed (name : Text) (e : Encoding) : Bool :=
  let normal := normalName name
  let pointless := normal.map fun c => if c == '.' then '_' else c
  normal == e.ownName.toList || e.aliases.any fun a => a.toList == normal || a.toList == pointless

def ofName? (name : Text) : Option Encoding := [utf8, latin1, ascii].find? (isNamed name)

end Encoding

/-! ## UTF-8 -/

/-- The bytes that may follow a first byte, and how many follow it; nothing for a byte that is never first. -/
def utf8Second? (first : Nat) : Option (Nat × Nat × Nat) :=
  if 0xC2 ≤ first ∧ first ≤ 0xDF then some (1, 0x80, 0xBF)
  else if first = 0xE0 then some (2, 0xA0, 0xBF)
  else if first = 0xED then some (2, 0x80, 0x9F)
  else if 0xE1 ≤ first ∧ first ≤ 0xEF then some (2, 0x80, 0xBF)
  else if first = 0xF0 then some (3, 0x90, 0xBF)
  else if first = 0xF4 then some (3, 0x80, 0x8F)
  else if 0xF1 ≤ first ∧ first ≤ 0xF3 then some (3, 0x80, 0xBF)
  else none

/-- The code point of a sequence: the bits of its first byte and six of each byte behind it. -/
def utf8Value (first : Nat) (more : List Nat) : Nat :=
  more.foldl (fun n b => n * 64 + b % 64)
    (match more.length with
      | 1 => first % 32
      | 2 => first % 16
      | _ => first % 8)

/-- Reads `wanted` bytes that go on with a sequence, the next one between `low` and `high`; else says what is wrong
and how many bytes fit. -/
def utf8Tail : (wanted low high : Nat) → List Nat → Except (DecodeCause × Nat) (List Nat)
  | 0, _, _, _ => .ok []
  | _ + 1, _, _, [] => .error (.unexpectedEnd, 0)
  | wanted + 1, low, high, b :: bs =>
    if low ≤ b ∧ b ≤ high then
      match utf8Tail wanted 0x80 0xBF bs with
      | .ok more => .ok (b :: more)
      | .error (cause, n) => .error (cause, n + 1)
    else .error (.invalidContinuation, 0)

/-- Skips `skip` bytes, then decodes; `place` bytes stand before. -/
def utf8From : (skip place : Nat) → List Nat → Except DecodeFault Text
  | _, _, [] => .ok []
  | skip + 1, place, _ :: bs => utf8From skip (place + 1) bs
  | 0, place, b :: bs =>
    if b < 0x80 then (utf8From 0 (place + 1) bs).map (Char.ofNat b :: ·)
    else
      match utf8Second? b with
      | none => .error ⟨.utf8, .invalidStart, place, place, b⟩
      | some (wanted, low, high) =>
        match utf8Tail wanted low high bs with
        | .error (cause, n) => .error ⟨.utf8, cause, place, place + n, b⟩
        | .ok more => (utf8From more.length (place + 1) bs).map (Char.ofNat (utf8Value b more) :: ·)

/-! ## One byte for each character -/

def asciiFrom : (place : Nat) → List Nat → Except DecodeFault Text
  | _, [] => .ok []
  | place, b :: bs =>
    if b < 0x80 then (asciiFrom (place + 1) bs).map (Char.ofNat b :: ·)
    else .error ⟨.ascii, .notAscii, place, place, b⟩

/-- The text that bytes stand for. -/
def decode (e : Encoding) (bytes : Bytes) : Except DecodeFault Text :=
  let bs := bytes.map UInt8.toNat
  match e with
  | .utf8 => utf8From 0 0 bs
  | .ascii => asciiFrom 0 bs
  | .latin1 => .ok (bs.map Char.ofNat)

end GameSource
