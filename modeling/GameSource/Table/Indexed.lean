import GameSource.Table.Flat
/-!
# Tables with named indices

Rows `[INDEX] = VALUE` of an array; white space in it does not matter.
-/
namespace GameSource.Table

/-- At a row of a text without white space, its index and its value. -/
def indexedRow? : Recognizer (Text × Text) := fun _ t =>
  match t with
  | '[' :: rest =>
    match rest.dropWhile isAsciiWord with
    | ']' :: '=' :: behind =>
      let value := behind.dropWhile (· == '=')
      let word := Text.dropOne '&' value
      let sign := value.take (value.length - word.length)
      some ((rest.takeWhile isAsciiWord, sign ++ word.takeWhile isAsciiWord), word.dropWhile isAsciiWord)
    | _ => none
  | _ => none

/-- The rows of the first array with the label, by index. -/
def indexedArray (t label : Text) : Entries Text Text :=
  match (scan (labelledBody? label) t).head? with
  | none => []
  | some body => Entries.ofList (scan indexedRow? (body.filter (!isSpace ·)))

end GameSource.Table
