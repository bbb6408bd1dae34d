import GameSource.Text.Chars
/-!
# Texts

A text is a list of characters, so that readers are recursions on it and positions count characters.  This module has
the operations that all readers share: trimming, splitting, finding.
-/
namespace GameSource

abbrev Text := List Char

namespace Text

/-! ## Trimming -/

def trimLeft (t : Text) : Text := t.dropWhile isSpace

def trimRight (t : Text) : Text := (t.reverse.dropWhile isSpace).reverse

/-- The text without the white space at its two ends. -/
def trim (t : Text) : Text := trimRight (trimLeft t)

/-! ## Splitting -/

/-- The pieces between the characters that satisfy `sep`: one more than there are such characters. -/
def splitWhere (sep : Char → Bool) : Text → List Text
  | [] => [[]]
  | c :: cs =>
    if sep c then [] :: splitWhere sep cs
    else match splitWhere sep cs with
      | [] => [[c]]
      | piece :: pieces => (c :: piece) :: pieces

def splitOn (sep : Char) (t : Text) : List Text := splitWhere (· == sep) t

/-- The lines of a text, without their line feeds; a final line feed opens an empty last line. -/
def lines (t : Text) : List Text := splitOn '\n' t

def unlines (ls : List Text) : Text := ['\n'].intercalate ls

theorem splitWhere_ne_nil (sep : Char → Bool) : ∀ t : Text, splitWhere sep t ≠ []
  | [] => by simp [splitWhere]
  | c :: cs => by
    unfold splitWhere
    split
    · simp
    · split <;> simp

/-- There is one piece more than there are separators. -/
theorem length_splitWhere (sep : Char → Bool) : ∀ t : Text, (splitWhere sep t).length = t.countP sep + 1
  | [] => rfl
  | c :: cs => by
    have ih := length_splitWhere sep cs
    unfold splitWhere
    by_cases h : sep c
    · simp [h, ih]
    · cases hs : splitWhere sep cs with
      | nil => exact absurd hs (splitWhere_ne_nil sep cs)
      | cons piece pieces =>
        rw [hs] at ih
        simpa [h] using ih

/-- **Taking lines apart loses nothing.** -/
theorem unlines_lines : ∀ t : Text, unlines (lines t) = t
  | [] => rfl
  | c :: cs => by
    have ih := unlines_lines cs
    unfold unlines lines splitOn at *
    rw [splitWhere]
    cases hs : splitWhere (· == '\n') cs with
    | nil => exact absurd hs (splitWhere_ne_nil _ cs)
    | cons piece pieces =>
      rw [hs] at ih
      by_cases h : c = '\n'
      · subst h
        simpa [List.intercalate, List.intersperse] using ih
      · cases pieces with
        | nil => simpa [h, List.intercalate] using ih
        | cons q qs => simpa [h, List.intercalate] using ih

/-! ## Finding -/

/-- What follows `lead` in a text that begins with it. -/
def after? : (lead : Text) → Text → Option Text
  | [], t => some t
  | a :: as, c :: cs => if a = c then after? as cs else none
  | _ :: _, [] => none

theorem after?_eq_some {lead t rest : Text} : after? lead t = some rest ↔ t = lead ++ rest := by
  induction lead generalizing t with
  | nil => simp [after?]
  | cons a as ih =>
    cases t with
    | nil => simp [after?]
    | cons c cs =>
      by_cases h : a = c
      · subst h; simp [after?, ih]
      · simp only [after?, if_neg h, List.cons_append, List.cons.injEq, reduceCtorEq, false_iff, not_and]
        exact fun e => absurd e.symm h

/-- The number of characters before the first place where `part` stands. -/
def indexOf? (part : Text) : Text → Option Nat
  | [] => if part.isEmpty then some 0 else none
  | c :: cs => if (after? part (c :: cs)).isSome then some 0 else (indexOf? part cs).map (· + 1)

/-- The character at which two word classes meet is a boundary: exactly one side is part of a word. -/
def boundary (before after : Option Char) : Bool :=
  before.any isWord != after.any isWord

/-- The rest of a text from the first character that does not satisfy `p`, if at least one does. -/
def dropSome? (p : Char → Bool) : Text → Option Text
  | c :: cs => if p c then some (cs.dropWhile p) else none
  | [] => none

/-- The rest of a text without its head, if that is `c`. -/
def dropOne (c : Char) : Text → Text
  | d :: ds => if d = c then ds else d :: ds
  | [] => []

/-- What stands before the first `c`, and what follows that `c`. -/
def until? (c : Char) (t : Text) : Option (Text × Text) :=
  match t.dropWhile (· != c) with
  | [] => none
  | _ :: rest => some (t.takeWhile (· != c), rest)

end Text

end GameSource
