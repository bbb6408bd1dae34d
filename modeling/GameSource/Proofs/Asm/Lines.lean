import GameSource.Asm.Row
import GameSource.Proofs.Text.Lines
import Mathlib.Data.List.Forall2
/-!
# Rows line by line

A row comes from one line of the text, and what stands behind a comment mark in that line has no part in it (`row?`).
So rows are found line by line (`rows_eq`): a line with a colon is a label with all that stands before the colon
(`row?_label`), and any other line is a macro, for which the white space at its ends does not count (`row?_of_trim`).
-/
namespace GameSource

/-! ## Texts -/

/-- White space before a text does not count for trimming. -/
theorem trim_append {before : Text} (h : ∀ c ∈ before, isSpace c) (t : Text) : Text.trim (before ++ t) = Text.trim t := by
  rw [Text.trim, Text.trim, Text.trimLeft, List.dropWhile_append_of_pos h, Text.trimLeft]

theorem isSpace_of_trim_eq_nil {t : Text} (h : Text.trim t = []) : ∀ c ∈ t, isSpace c := by
  obtain ⟨before, after, ht, hbefore, hafter⟩ := exists_trim t
  rw [h, List.append_nil] at ht
  intro c hc
  rw [ht] at hc
  exact (List.mem_append.1 hc).elim (hbefore c) (hafter c)

theorem Text.upTo_singleton (mark : Char) : ∀ line : Text, Text.upTo [mark] line = line.takeWhile (· != mark)
  | [] => rfl
  | c :: line => by
    rw [Text.upTo_cons, List.takeWhile_cons, Text.upTo_singleton mark line]
    by_cases h : mark = c
    · simp [h, Text.after?]
    · simp [h, Text.after?, Ne.symm h]

namespace Asm

/-- A line without its comment. -/
def code (line : Text) : Text := line.takeWhile (· != '@')

/-- The row of a line, unless nothing stands before its comment. -/
def row? (line : Text) : Option Row :=
  if Text.trim (code line) = [] then none else some (rowOfLine (code line))

/-- **Rows are found line by line.** -/
theorem rows_eq (t : Text) : rows t = (Text.lines t).filterMap row? := by
  have hcode : Text.upTo ['@'] = code := funext (Text.upTo_singleton '@')
  rw [rows, Text.lines_eraseLineComments (by simp) (by simp), hcode, List.filter_map, List.map_map]
  induction Text.lines t with
  | nil => rfl
  | cons line ls ih =>
    rw [List.filterMap_cons, ← ih, row?]
    by_cases h : Text.trim (code line) = []
    · rw [if_pos h, List.filter_cons_of_neg (by simp [h])]
    · rw [if_neg h, List.filter_cons_of_pos (by simp [h])]
      rfl

/-- White space on one line, or nothing. -/
def IsBlank (t : Text) : Prop := ∀ c ∈ t, isInlineSpace c

instance (t : Text) : Decidable (IsBlank t) := decidable_of_iff (t.all isInlineSpace = true) List.all_eq_true

theorem IsBlank.isSpace {t : Text} (h : IsBlank t) : ∀ c ∈ t, isSpace c := fun c hc => (isInlineSpace_iff.1 (h c hc)).2

theorem IsBlank.not_mem {t : Text} (h : IsBlank t) {c : Char} (hc : isInlineSpace c = false) : c ∉ t := fun hmem => by
  have hblank := h c hmem
  rw [hc] at hblank
  cases hblank

/-- Nothing of a text without comment marks is a comment. -/
theorem code_append {t : Text} (h : '@' ∉ t) (rest : Text) : code (t ++ rest) = t ++ code rest := by
  refine List.takeWhile_append_of_pos fun c hc => ?_
  simpa using fun heq : c = '@' => h (heq ▸ hc)

/-- A line with a colon is a label: all that stands before the colon. -/
theorem row?_label {line : Text} (h : ':' ∈ code line) :
    row? line = some [labelMark, (code line).takeWhile (· != ':')] := by
  have hne : Text.trim (code line) ≠ [] := fun hnil => by
    have hspace := isSpace_of_trim_eq_nil hnil ':' h
    revert hspace
    decide
  rw [row?, if_neg hne, rowOfLine, if_pos (List.contains_iff_mem.2 h)]

/-- For a line without a colon the white space at its ends does not count. -/
theorem row?_of_trim {line line' : Text} (h : ':' ∉ code line) (h' : ':' ∉ code line')
    (htrim : Text.trim (code line) = Text.trim (code line')) : row? line = row? line' := by
  have hlabel : (code line).contains ':' = false := by simpa using h
  have hlabel' : (code line').contains ':' = false := by simpa using h'
  simp only [row?, rowOfLine, hlabel, hlabel', htrim, Bool.false_eq_true, if_false]

end Asm

end GameSource
