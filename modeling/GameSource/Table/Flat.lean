import GameSource.Entries
import GameSource.Text.Scan
/-!
# Flat arrays

An array is a label, dimensions in brackets or none, an equals sign and elements between braces.  Elements that are not
plain words, calls or addresses are left out.
-/
namespace GameSource.Table

/-- At an equals sign between white space, what stands between the braces behind it. -/
def braceBody? (t : Text) : Option (Text × Text) :=
  match t.dropWhile isSpace with
  | '=' :: rest =>
    match rest.dropWhile isSpace with
    | '\x7b' :: rest => Text.until? '\x7d' rest
    | _ => none
  | _ => none

/-- At the label given, as a whole word, the body of its array.  Anything up to the next closing bracket may stand
between the label and the equals sign. -/
def labelledBody? (label : Text) : Recognizer Text := fun before t => do
  let rest ← Text.after? label t
  if Text.boundary before t.head? && Text.boundary (label.getLast?.or before) rest.head? then
    let dimensioned := (Text.until? ']' rest).bind fun (_, rest) => braceBody? rest
    dimensioned.or (braceBody? rest)
  else none

/-- At a label of ASCII characters, as a whole word, the label and the body of its array. -/
def anyBody? : Recognizer (Text × Text) := fun before t =>
  let label := t.takeWhile isAsciiWord
  let rest := t.dropWhile isAsciiWord
  if label.isEmpty || before.any isWord || rest.head?.any isWord then none
  else
    let behind := rest.dropWhile isSpace
    let behind := match behind with
      | '[' :: inner => (Text.until? ']' inner).elim behind Prod.snd
      | _ => behind
    (braceBody? behind).map fun (body, rest) => ((label, body), rest)

/-- A character that an element may have. -/
def isElementChar (c : Char) : Bool := isAsciiWord c || c == '&' || c == '(' || c == ')' || isSpace c

/-- The elements between the commas of a body. -/
def elements (body : Text) : List Text :=
  ((Text.splitOn ',' body).map Text.trim).filter fun e => !e.isEmpty && e.all isElementChar

/-- The elements of the first array with the label, and none if there is no such array. -/
def array (t label : Text) : List Text :=
  if label.isEmpty then []
  else ((scan (labelledBody? label) t).head?.map elements).getD []

/-- The elements of every array; of a label that stands twice the later ones, in the place of the first. -/
def arrays (t : Text) : Entries Text (List Text) :=
  Entries.ofList ((scan anyBody? t).map fun e => (e.1, elements e.2))

end GameSource.Table
