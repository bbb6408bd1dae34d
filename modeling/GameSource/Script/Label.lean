import GameSource.Text.Comments
/-!
# Labels of scripts

A raw script defines a label by its name and a colon, or two colons if it is visible everywhere.  A script with blocks
defines it behind the word `script`, and may hold raw scripts between backquotes.  Labels in comments and string
literals do not count.
-/
namespace GameSource.Script

inductive Dialect where
  | raw
  /-- Scripts with blocks. -/
  | pory
  deriving DecidableEq, Repr

/-- The line on which a character of a text stands, from 1. -/
def lineOf (t : Text) (offset : Nat) : Nat := (t.take offset).count '\n' + 1

/-! ## Raw scripts -/

/-- At a whole word with a colon behind it, the word, which may be visible everywhere only if it has two. -/
def rawLabel? (globalOnly : Bool) : Recognizer Text := fun before t =>
  let label := t.takeWhile isWord
  if label.isEmpty || before.any isWord then none
  else
    match t.dropWhile isWord with
    | ':' :: ':' :: rest => some (label, rest)
    | ':' :: rest => if globalOnly then none else some (label, rest)
    | _ => none

/-- A raw script without comments and string literals. -/
def cleanRaw (t : Text) : Text := eraseLineComments ['@'] (eraseStringLiterals t)

/-- The line of a label's first definition in a raw script, or 0. -/
def rawLine (t label : Text) : Nat :=
  let t := cleanRaw t
  match (scanAt (rawLabel? false) t).find? fun e => e.2 == label with
  | some (offset, _) => lineOf t offset
  | none => 0

def visibleRawLabels (t : Text) : List Text := scan (rawLabel? true) (cleanRaw t)

/-! ## Scripts with blocks -/

/-- A word in parentheses, one of those given. -/
def scope? (words : List Text) (t : Text) : Option Text :=
  words.findSome? fun w => Text.after? (['('] ++ w ++ [')']) t

/-- At the word `script`, with one of the scopes given or none, the label behind it and the number of characters
before the label. -/
def blockLabel? (scopes : List Text) : Recognizer (Nat × Text) := fun before t => do
  let rest ← Text.after? "script".toList t
  if before.any isWord then none
  else
    let behind := scope? scopes rest
    let named := (behind.getD rest).dropWhile isSpace
    let label := named.takeWhile isWord
    if label.isEmpty || (behind.isNone && named.length == rest.length) then none
    else some ((t.length - named.length, label), named.dropWhile isWord)

/-- At the word `raw` and a backquote, the script behind it up to the next backquote, and the number of characters
before it. -/
def rawBlock? : Recognizer (Nat × Text) := fun before t => do
  let rest ← Text.after? "raw".toList t
  if before.any isWord then none
  else
    let body ← Text.after? ['\x60'] (rest.dropWhile isSpace)
    return ((t.length - body.length, body.takeWhile (· != '\x60')), body.dropWhile (· != '\x60'))

/-- A script with blocks, without comments and string literals. -/
def cleanBlocks (t : Text) : Text := eraseLineCommentsAll [['/', '/'], ['#']] (eraseStringLiterals t)

def allScopes : List Text := ["global".toList, "local".toList]

def globalScopes : List Text := ["global".toList]

/-- The line of a label's first definition in a script with blocks, or else in one of its raw scripts, or 0. -/
def blockLine (t label : Text) : Nat :=
  let t := cleanBlocks t
  match (scanAt (blockLabel? allScopes) t).find? fun e => e.2.2 == label with
  | some (offset, inner, _) => lineOf t (offset + inner)
  | none =>
    let lines := (scanAt rawBlock? t).map fun (offset, inner, script) =>
      (rawLine script label, (t.take (offset + inner)).count '\n')
    match lines.find? fun l => l.1 != 0 with
    | some (line, above) => above + line
    | none => 0

def visibleBlockLabels (t : Text) : List Text :=
  let t := cleanBlocks t
  (scan (blockLabel? globalScopes) t).map Prod.snd ++ (scan rawBlock? t).flatMap fun e => visibleRawLabels e.2

/-! ## Either dialect -/

/-- The line that defines a label, from 1, or 0 if none does. -/
def lineOfLabel (d : Dialect) (t label : Text) : Nat :=
  if label.isEmpty then 0
  else match d with
    | .raw => rawLine t label
    | .pory => blockLine t label

/-- The labels that are visible everywhere. -/
def visibleLabels (d : Dialect) (t : Text) : List Text :=
  match d with
  | .raw => visibleRawLabels t
  | .pory => visibleBlockLabels t

end GameSource.Script
