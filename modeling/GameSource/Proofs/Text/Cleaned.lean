import GameSource.Proofs.Text.Joined
/-!
# Cleaning keeps the lines

What is taken out of a text is taken out of its lines: comments, string literals and comments to the end of the line
leave every line in its place, with a part of its characters in their order (`LinesWithin`).  Only a backslash can join
two lines.  So a line number of a cleaned text is one of the text itself (`linesWithin_cleaned`).
-/
namespace GameSource

/-- **The lines of a text stay where they are in another one**: both texts have as many lines, and each line of the
first is what is left of the line of the second with the same number when some of its characters are left out. -/
def LinesWithin (s t : Text) : Prop := List.Forall₂ List.Sublist (Text.lines s) (Text.lines t)

namespace LinesWithin

theorem refl (t : Text) : LinesWithin t t := List.forall₂_same.2 fun line _ => .refl line

theorem trans {r s t : Text} (h : LinesWithin r s) (h' : LinesWithin s t) : LinesWithin r t := by
  have compose : ∀ {ls ms ns : List Text}, List.Forall₂ List.Sublist ls ms → List.Forall₂ List.Sublist ms ns →
      List.Forall₂ List.Sublist ls ns := by
    intro ls ms ns h
    induction h generalizing ns with
    | nil => exact id
    | cons hline _ ih =>
      intro h'
      cases h' with
      | cons hline' h' => exact .cons (hline.trans hline') (ih h')
  exact compose h h'

/-- A text is cleaned line by line by what leaves out characters of a line. -/
theorem of_map {s t : Text} {f : Text → Text} (h : Text.lines s = (Text.lines t).map f)
    (hf : ∀ line : Text, (f line).Sublist line) : LinesWithin s t := by
  rw [LinesWithin, h, List.forall₂_map_left_iff, List.forall₂_same]
  exact fun line _ => hf line

end LinesWithin

/-! ## Comments and string literals -/

/-- Without backslashes no lines are joined. -/
theorem replace_continuation_of_not_mem_backslash : ∀ {t : Text}, '\\' ∉ t → replace continuation? t = t
  | [], _ => rfl
  | c :: t, h => by
    have hc : c ≠ '\\' := fun heq => h (heq ▸ List.mem_cons_self)
    rw [replace_keep _ (Text.continuation?_eq_none hc t),
      replace_continuation_of_not_mem_backslash fun hmem => h (List.mem_cons_of_mem c hmem)]

/-- Taking comments out makes no backslash, so it moves no line of a text that has none. -/
theorem linesWithin_eraseComments {t : Text} (h : '\\' ∉ t) : LinesWithin (eraseComments t) t := by
  have hleft : '\\' ∉ replace comment? t := fun hmem => h ((keepsLines_replace_comment t).sublist.subset hmem)
  rw [eraseComments, replace_continuation_of_not_mem_backslash hleft]
  exact Text.lines_replace_comment t

/-- What stands before the first double quote and behind the last one does not overlap. -/
theorem eraseQuoted_sublist (line : Text) : (eraseQuoted line).Sublist line := by
  unfold eraseQuoted
  split
  · rename_i hquotes
    have hmem : '"' ∈ line := List.count_pos_iff.1 (Nat.lt_of_lt_of_le Nat.zero_lt_two hquotes)
    obtain ⟨before, behind, rfl, hbefore⟩ := List.eq_append_cons_of_mem hmem
    have hrun : ∀ c ∈ before, (c != '"') = true := fun c hc => by simpa using fun heq : c = '"' => hbefore (heq ▸ hc)
    have hstops (rest : Text) : Stops (· != '"') ('"' :: rest) := .cons (by simp)
    have hlast : ((behind.reverse.takeWhile (· != '"')).reverse).Sublist behind := by
      have hprefix := (List.takeWhile_sublist (l := behind.reverse) (· != '"')).reverse
      rwa [List.reverse_reverse] at hprefix
    rw [takeWhile_run hrun (hstops behind), List.reverse_append, List.reverse_cons, List.append_assoc,
      List.singleton_append, takeWhile_append (hstops before.reverse)]
    exact (List.Sublist.refl before).append (hlast.cons '"')
  · exact .refl line

theorem linesWithin_eraseStringLiterals (t : Text) : LinesWithin (eraseStringLiterals t) t :=
  .of_map (Text.lines_eraseStringLiterals t) eraseQuoted_sublist

/-! ## Comments to the end of the line -/

theorem linesWithin_eraseLineCommentsAll {symbols : List Text}
    (h : ∀ symbol ∈ symbols, symbol ≠ [] ∧ '\n' ∉ symbol) : ∀ t, LinesWithin (eraseLineCommentsAll symbols t) t := by
  induction symbols with
  | nil => exact .refl
  | cons symbol symbols ih =>
    intro t
    obtain ⟨hne, hnewline⟩ := h symbol List.mem_cons_self
    have hone : LinesWithin (eraseLineComments symbol t) t :=
      .of_map (Text.lines_eraseLineComments hne hnewline t) fun line => (Text.prefix_upTo symbol line).sublist
    exact (ih (fun other hother => h other (List.mem_cons_of_mem symbol hother)) _).trans hone

/-- **Cleaning moves no character to another line**, whatever comments and quotes reach over lines or are left open:
taking string literals out never does, nor comments to the end of the line, which symbols without line feeds begin, and
preparing a text for defines does not unless a backslash joins lines. -/
theorem linesWithin_cleaned (t : Text) :
    ('\\' ∉ t → LinesWithin (bareText t) t) ∧ LinesWithin (eraseStringLiterals t) t ∧
    ∀ symbols : List Text, (∀ symbol ∈ symbols, symbol ≠ [] ∧ '\n' ∉ symbol) →
      ∃ s, eraseLineComments? symbols t = .ok s ∧ LinesWithin s t := by
  refine ⟨fun h => ?_, linesWithin_eraseStringLiterals t, fun symbols h => ⟨eraseLineCommentsAll symbols t, ?_, ?_⟩⟩
  · exact (linesWithin_eraseStringLiterals _).trans (linesWithin_eraseComments h)
  · have hempty : symbols.any List.isEmpty = false := by
      rw [List.any_eq_false]
      intro symbol hsymbol
      simpa using (h symbol hsymbol).1
    rw [eraseLineComments?, hempty, if_neg Bool.false_ne_true]
  · exact linesWithin_eraseLineCommentsAll h t

/-- Quotes in a comment over two lines, a literal between quotes, and a comment that is not closed. -/
theorem linesWithin_cleaned_openComment :
    LinesWithin (bareText "a /* \"\n\" */ \"b\" c\n@ d /* \"e".toList) "a /* \"\n\" */ \"b\" c\n@ d /* \"e".toList ∧
    ∃ s, eraseLineComments? ["@".toList, "/*".toList] "a /* \"\n\" */ \"b\" c\n@ d /* \"e".toList = .ok s ∧
      LinesWithin s "a /* \"\n\" */ \"b\" c\n@ d /* \"e".toList := by
  obtain ⟨hprepared, -, hsymbols⟩ := linesWithin_cleaned "a /* \"\n\" */ \"b\" c\n@ d /* \"e".toList
  exact ⟨hprepared (by decide), hsymbols ["@".toList, "/*".toList] (by decide)⟩

end GameSource
