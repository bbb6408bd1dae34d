import GameSource.Entries
import GameSource.Number.Literal
/-!
# Options

Where the sources are, how they are encoded, which values are known beforehand and how results are shown.
-/
namespace GameSource

inductive OutputFormat where
  | human | json
  deriving DecidableEq, Repr

def OutputFormat.ofName? (name : Text) : Option OutputFormat :=
  if name = "human".toList then some .human else if name = "json".toList then some .json else none

def OutputFormat.name : OutputFormat → Text
  | human => "human".toList
  | json => "json".toList

/-- What is wrong with an option. -/
inductive OptionFault where
  | badFormat (name : Text)
  | badDefine (define : Text)
  | badValue (define : Text)
  | digits (e : DigitLimit)
  deriving DecidableEq, Repr

def OptionFault.message : OptionFault → String
  | badFormat name => "Unsupported diagnostic format: " ++ .ofList name
  | badDefine define => "Invalid define: " ++ .ofList define
  | badValue define => "Invalid define value: " ++ .ofList define
  | digits e => e.message

/-! ## Values known beforehand -/

/-- A name may begin with an ASCII letter or an underscore. -/
def beginsName (c : Char) : Bool := c.isAlpha || c == '_'

/-- The name and the value of a define `NAME=VALUE`; a bare name has the value 1.  One line feed may stand behind it. -/
def readDefine (define : Text) : Except OptionFault (Text × Text) :=
  let name := define.takeWhile isWord
  let ends (t : Text) : Bool := t.isEmpty || t == ['\n']
  if name.head?.any beginsName then
    match define.dropWhile isWord with
    | '=' :: value =>
      if ends (value.dropWhile (· != '\n')) then .ok (name, value.takeWhile (· != '\n'))
      else .error (.badDefine define)
    | rest => if ends rest then .ok (name, ['1']) else .error (.badDefine define)
  else .error (.badDefine define)

/-- The value of a define. -/
def defineValue (define : Text) : Except OptionFault (Text × Int) := do
  let (name, text) ← readDefine define
  match ← (readGameValue text).mapError OptionFault.digits with
  | none => throw (.badValue define)
  | some v => return (name, v)

structure Options where
  root : Text := ['.']
  encoding : Text := "utf-8".toList
  defines : List Text := []
  format : OutputFormat := .human

namespace Options

/-- Checks the format and then the form of the defines. -/
def read (root encoding : Text) (defines : List Text) (format : Text) : Except OptionFault Options :=
  match OutputFormat.ofName? format with
  | none => .error (.badFormat format)
  | some format => do
    let _ ← defines.mapM readDefine
    return ⟨root, encoding, defines, format⟩

/-- The values of the defines; the last one of a name stands. -/
def values (o : Options) : Except OptionFault (Entries Text Int) :=
  (o.defines.mapM defineValue).map Entries.ofList

end Options

end GameSource
