import GameSource.Table.Flat
/-!
# Included binary files

`INCBIN_U8("path")` and its kin: the paths of the files whose bytes a table is made of.
-/
namespace GameSource.Table

/-- At a call that includes a file, its path, whose characters satisfy `isPathChar`. -/
def incbinCall? (isPathChar : Char → Bool) (t : Text) : Option (Text × Text) := do
  let rest ← Text.after? "INCBIN_".toList t
  match rest with
  | sign :: digit :: rest =>
    if (sign == 'U' || sign == 'S') && digit.isDigit then
      let rest := if rest.head?.any Char.isDigit then rest.drop 1 else rest
      let rest ← Text.after? ['('] rest
      let rest ← Text.after? ['"'] (rest.dropWhile isSpace)
      let behind ← Text.after? ['"'] (rest.dropWhile isPathChar)
      let behind ← Text.after? [')'] (behind.dropWhile isSpace)
      return (rest.takeWhile isPathChar, behind)
    else none
  | _ => none

/-- Behind a label, empty brackets or parts of them, an equals sign and a call, the path of the call. -/
def incbinValue? (isPathChar : Char → Bool) (t : Text) : Option (Text × Text) := do
  let rest := Text.dropOne '[' (t.dropWhile isSpace)
  let rest := Text.dropOne ']' (rest.dropWhile isSpace)
  let rest ← Text.after? ['='] (rest.dropWhile isSpace)
  incbinCall? isPathChar (rest.dropWhile isSpace)

def isQuoteless (c : Char) : Bool := c != '"'

/-- At the label given, as a whole word, the path it stands for. -/
def labelledIncbin? (label : Text) : Recognizer Text := fun before t => do
  let rest ← Text.after? label t
  if Text.boundary before t.head? && Text.boundary (label.getLast?.or before) rest.head? then
    incbinValue? isQuoteless rest
  else none

/-- At a label of ASCII characters, the label and the path it stands for. -/
def anyIncbin? : Recognizer (Text × Text) := fun _ t => do
  let label := t.takeWhile isAsciiWord
  if label.isEmpty then none
  else
    let (path, rest) ← incbinValue? (fun c => c != '"' && c != '\\') (t.dropWhile isAsciiWord)
    return ((label, path), rest)

/-- At a label and an opening bracket, the label and what stands up to the closing brace before the next semicolon. -/
def labelGroup? : Recognizer (Text × Text) := fun _ t => do
  let label := t.takeWhile isAsciiWord
  if label.isEmpty then none
  else
    let rest ← Text.after? ['['] (t.dropWhile isAsciiWord)
    let (group, behind) ← Text.until? ';' rest
    if group.getLast? = some '\x7d' then return ((label, group.dropLast), behind) else none

/-- The path that a label stands for, empty if there is none. -/
def incbin (t label : Text) : Text :=
  if label.isEmpty then [] else (scan (labelledIncbin? label) t).head?.getD []

/-- The path of every label that stands for one. -/
def incbins (t : Text) : Entries Text Text := Entries.ofList (scan anyIncbin? t)

/-- The paths in the group of a label, and none if there is no such group. -/
def incbinArray (t label : Text) : List Text :=
  if label.isEmpty then []
  else
    match (scan labelGroup? t).find? fun e => e.1 == label with
    | none => []
    | some (_, body) => scan (fun _ => incbinCall? isQuoteless) body

end GameSource.Table
