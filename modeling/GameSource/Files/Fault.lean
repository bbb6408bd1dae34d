import GameSource.Text.Basic
/-!
# Why a file cannot be read
-/
namespace GameSource

/-- The encodings whose codecs are given here. -/
inductive Encoding where
  | utf8 | latin1 | ascii
  deriving DecidableEq, Repr

/-- What is wrong with bytes that stand for no character. -/
inductive DecodeCause where
  | invalidStart | invalidContinuation | unexpectedEnd | notAscii
  deriving DecidableEq, Repr

def DecodeCause.message : DecodeCause → String
  | invalidStart => "invalid start byte"
  | invalidContinuation => "invalid continuation byte"
  | unexpectedEnd => "unexpected end of data"
  | notAscii => "ordinal not in range(128)"

/-- Bytes `first` to `last` of a file stand for no character; `byte` is the first of them. -/
structure DecodeFault where
  encoding : Encoding
  cause : DecodeCause
  first : Nat
  last : Nat
  byte : Nat
  deriving DecidableEq, Repr

/-- What a codec of another encoding says of bytes that it cannot decode: a word for the kind of fault, and a text. -/
structure CodecFault where
  code : String
  message : String
  deriving DecidableEq, Repr

/-- Why a path does not lead to a text. -/
inductive ReadFault where
  | notFound
  | isDirectory
  | notDirectory
  | undecodable (e : DecodeFault)
  | malformed (e : CodecFault)
  /-- A failure of the system, with its number's name and its text. -/
  | system (code message : String)
  deriving DecidableEq, Repr

/-- A byte with two hexadecimal digits. -/
def byteText (n : Nat) : String := String.ofList ((Nat.toDigits 16 (256 + n % 256)).drop 1)

def DecodeFault.message (e : DecodeFault) : String :=
  let codec := match e.encoding with
    | .utf8 => "utf-8"
    | .latin1 => "latin-1"
    | .ascii => "ascii"
  let place :=
    if e.first = e.last then "byte 0x" ++ byteText e.byte ++ " in position " ++ toString e.first
    else "bytes in position " ++ toString e.first ++ "-" ++ toString e.last
  "'" ++ codec ++ "' codec can't decode " ++ place ++ ": " ++ e.cause.message

namespace ReadFault

/-- The word by which the kind of fault is told. -/
def code : ReadFault → String
  | notFound => "FileNotFoundError"
  | isDirectory => "IsADirectoryError"
  | notDirectory => "NotADirectoryError"
  | undecodable _ => "UnicodeDecodeError"
  | malformed e => e.code
  | system code _ => code

def message : ReadFault → String
  | notFound => "No such file or directory"
  | isDirectory => "Is a directory"
  | notDirectory => "Not a directory"
  | undecodable e => e.message
  | malformed e => e.message
  | system _ message => message

end ReadFault

end GameSource
