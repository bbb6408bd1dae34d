import GameSource.Text.Basic
/-!
# Lines, columns and line ends
-/
namespace GameSource

/-- Carriage returns, alone or before a line feed, become line feeds. -/
def unifyLineEnds : Text → Text
  | [] => []
  | '\r' :: '\n' :: cs => '\n' :: unifyLineEnds cs
  | '\r' :: cs => '\n' :: unifyLineEnds cs
  | c :: cs => c :: unifyLineEnds cs

/-- A place in a text; both numbers count from 1. -/
structure Position where
  line : Nat
  column : Nat
  deriving DecidableEq, Repr, Inhabited

namespace Position

def start : Position := ⟨1, 1⟩

/-- The place behind a character. -/
def step (p : Position) (c : Char) : Position :=
  if c = '\n' then ⟨p.line + 1, 1⟩ else ⟨p.line, p.column + 1⟩

/-- The place behind a text. -/
def after (p : Position) (t : Text) : Position := t.foldl step p

theorem after_append (p : Position) (s t : Text) : p.after (s ++ t) = (p.after s).after t := List.foldl_append

end Position

/-- The first of the lines, numbered from `n`, that contains `part`, and the column of `part` there. -/
def Position.inLines? (part : Text) : (n : Nat) → List Text → Option Position
  | _, [] => none
  | n, line :: ls =>
    match Text.indexOf? part line with
    | some i => some ⟨n, i + 1⟩
    | none => inLines? part (n + 1) ls

/-- A line ends with a carriage return or a line feed. -/
def splitLineEnds (t : Text) : List Text := Text.splitWhere (fun c => c == '\r' || c == '\n') t

/-- The place of the leftmost occurrence of `part` on the first line that contains it. -/
def Position.ofPart? (t part : Text) : Option Position := inLines? part 1 (splitLineEnds t)

/-- The same with column 0 on the last line when no line contains `part`. -/
def Position.ofPart (t part : Text) : Position :=
  (ofPart? t part).getD ⟨(splitLineEnds t).length, 0⟩

end GameSource
