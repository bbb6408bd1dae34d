import GameSource.Text.Quoted
/-!
# JSON text

Values written without blanks, in ASCII: other characters become escapes of their UTF-16 units.
-/
namespace GameSource.Json

/-- The UTF-16 units of a character. -/
def units (c : Char) : List Nat :=
  if c.toNat < 0x10000 then [c.toNat]
  else [0xD800 + (c.toNat - 0x10000) / 0x400, 0xDC00 + (c.toNat - 0x10000) % 0x400]

def escape (c : Char) : Text :=
  if c = '"' then ['\\', '"']
  else if c = '\\' then ['\\', '\\']
  else if c = '\n' then ['\\', 'n']
  else if c = '\r' then ['\\', 'r']
  else if c = '\t' then ['\\', 't']
  else if c = '\x0c' then ['\\', 'f']
  else if c = '\x08' then ['\\', 'b']
  else if 32 ≤ c.toNat ∧ c.toNat < 127 then [c]
  else (units c).flatMap fun n => '\\' :: 'u' :: hexText 4 n

def string (t : Text) : Text := '"' :: t.flatMap escape ++ ['"']

def number (n : Int) : Text := (toString n).toList

def null : Text := "null".toList

def array (items : List Text) : Text := '[' :: [','].intercalate items ++ [']']

/-- An object whose members are written already. -/
def object (members : List (Text × Text)) : Text :=
  '\x7b' :: [','].intercalate (members.map fun m => string m.1 ++ ':' :: m.2) ++ ['\x7d']

end GameSource.Json
