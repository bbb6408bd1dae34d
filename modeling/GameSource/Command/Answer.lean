import GameSource.Diagnostic
import GameSource.Entries
import GameSource.Options
import GameSource.Text.Json
/-!
# Answers

What a command answers, and how it is shown: in lines for people, or in one line of JSON.
-/
namespace GameSource

inductive Answer where
  | number (n : Int)
  | word (t : Text)
  | words (ts : List Text)
  | rows (rs : List (List Text))
  | numbers (es : Entries Text Int)
  | texts (es : Entries Text Text)
  | lists (es : Entries Text (List Text))
  | structs (es : Entries Text (Entries Text Text))
  deriving DecidableEq, Repr

namespace Answer

def commaJoined (ts : List Text) : Text := [',', ' '].intercalate ts

/-- A row is shown as its first word and its other words, these with commas between them. -/
def rowLine : List Text → Text
  | [] => []
  | [head] => head
  | head :: params => head ++ ' ' :: commaJoined params

def keyLine (key value : Text) : Text := key ++ '=' :: value

/-- The lines that show an answer to people. -/
def lines : Answer → List Text
  | number n => [Json.number n]
  | word t => [t]
  | words ts => ts
  | rows rs => rs.map rowLine
  | numbers es => es.map fun e => keyLine e.1 (Json.number e.2)
  | texts es => es.map fun e => keyLine e.1 e.2
  | lists es => es.map fun e => keyLine e.1 (commaJoined e.2)
  | structs es => es.flatMap fun e => e.2.map fun m => keyLine (e.1 ++ '.' :: m.1) m.2

def jsonWords (ts : List Text) : Text := Json.array (ts.map Json.string)

def jsonEntries {β : Type} (write : β → Text) (es : Entries Text β) : Text :=
  Json.object (es.map fun e => (e.1, write e.2))

/-- The JSON text of an answer. -/
def json : Answer → Text
  | number n => Json.number n
  | word t => Json.string t
  | words ts => jsonWords ts
  | rows rs => Json.array (rs.map jsonWords)
  | numbers es => jsonEntries Json.number es
  | texts es => jsonEntries Json.string es
  | lists es => jsonEntries jsonWords es
  | structs es => jsonEntries (jsonEntries Json.string) es

/-- What is printed for an answer; each line ends with a line feed. -/
def printed (format : OutputFormat) (a : Answer) : Text :=
  match format with
  | .human => a.lines.flatMap (· ++ ['\n'])
  | .json => a.json ++ ['\n']

end Answer

/-- The JSON text of a diagnostic. -/
def Diagnostic.json (d : Diagnostic) : Text :=
  let string (s : String) := Json.string s.toList
  let number (n : Option Int) := n.elim Json.null Json.number
  Json.object [("stage".toList, string d.stage.text), ("filename".toList, Json.string d.filename),
    ("line".toList, number d.line), ("column".toList, number d.column),
    ("code".toList, d.code.elim Json.null string), ("message".toList, string d.message)]

/-- What is printed for a diagnostic. -/
def Diagnostic.printed (format : OutputFormat) (d : Diagnostic) : Text :=
  match format with
  | .human => d.text.toList ++ ['\n']
  | .json => d.json ++ ['\n']

end GameSource
