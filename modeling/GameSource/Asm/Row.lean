import GameSource.Text.Comments
/-!
# Rows of assembly data

A line of assembly data is a label or a macro with parameters.  A row is a list of words: the macro first, or the label
mark and the label.
-/
namespace GameSource

namespace Asm

abbrev Row := List Text

/-- The mark of a row that holds a label. -/
def labelMark : Text := ".label".toList

/-- The row of a line that is not blank. -/
def rowOfLine (line : Text) : Row :=
  if line.contains ':' then [labelMark, line.takeWhile (· != ':')]
  else
    let trimmed := Text.trim line
    let head := trimmed.takeWhile (!isSpace ·)
    let rest := (trimmed.dropWhile (!isSpace ·)).dropWhile isSpace
    if (trimmed.dropWhile (!isSpace ·)).isEmpty then [head]
    else head :: (Text.splitOn ',' rest).map Text.trim

/-- The rows of a text, without comments and blank lines. -/
def rows (t : Text) : List Row :=
  ((Text.lines (eraseLineComments ['@'] t)).filter fun line => !(Text.trim line).isEmpty).map rowOfLine

/-- A row that holds a label has none. -/
inductive LabelFault where
  | missingName
  deriving DecidableEq, Repr

def LabelFault.message : LabelFault → String
  | missingName => "list index out of range"

/-- The macro rows under a label, up to the next label behind one of them; labels that follow one another share the
rows behind them.  `inside` says that the label has been met, `found` that a row under it has been. -/
def macrosFrom (label : Text) : (inside found : Bool) → List Row → Except LabelFault (List Row)
  | _, _, [] => .ok []
  | inside, found, row :: rest =>
    if row.head? = some labelMark then
      match row.tail with
      | [] => .error .missingName
      | name :: _ =>
        if name = label then macrosFrom label true found rest
        else if inside && found then .ok []
        else macrosFrom label inside found rest
    else if inside then (macrosFrom label inside true rest).map (row :: ·)
    else macrosFrom label inside found rest

/-- The macro rows under a label. -/
def macrosUnder (rs : List Row) (label : Text) : Except LabelFault (List Row) := macrosFrom label false false rs

/-- The macros that hold no data. -/
def dataless : List Text := [".align", ".ifdef", ".ifndef"].map String.toList

/-- The parameters of the rows under a label that hold data. -/
def valuesUnder (rs : List Row) (label : Text) : Except LabelFault (List Text) :=
  (macrosUnder rs label).map fun macros =>
    (macros.filter fun row => !(row.head?.any dataless.contains)).flatMap List.tail

end Asm

end GameSource
