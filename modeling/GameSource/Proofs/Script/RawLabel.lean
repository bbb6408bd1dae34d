import GameSource.Proofs.Text.Scanned
import GameSource.Proofs.Text.Whole
import GameSource.Script.Label
import Mathlib.Order.Bounds.Basic
/-!
# The line of a label in a raw script

A raw script is cleaned line by line (`lines_cleanRaw`), and a scan for labels misses none (`mem_scanAt_rawLabel`), so
the line that is answered for a label is the first that, cleaned by itself, has the label (`rawLine_least`).
-/
namespace GameSource.Script

/-! ## Lines with a label -/

/-- The text has the word followed by a colon. -/
def HasLabel (label t : Text) : Prop :=
  ∃ before behind, t = before ++ (label ++ ':' :: behind) ∧ WordBehind before label

/-- **The lines with a label** are the lines of the places at which it stands. -/
theorem hasLabel_line {t label : Text} {i : Nat} : (∃ line, (Text.lines t)[i]? = some line ∧ HasLabel label line) ↔
    ∃ before behind, t = before ++ (label ++ ':' :: behind) ∧ WordBehind before label ∧ before.count '\n' = i := by
  constructor
  · rintro ⟨line, hline, before, behind, rfl, hword⟩
    rw [← List.append_assoc] at hline
    obtain ⟨a, b, rfl, hcount, hlast, hb⟩ := Text.exists_place hline
    obtain ⟨rest, rfl⟩ := hb
    refine ⟨a, behind ++ rest, by simp, hword.of_getLast? fun c hc => (hlast c hc).imp_left ?_, hcount⟩
    rintro rfl
    decide
  · rintro ⟨before, behind, rfl, hword, rfl⟩
    have hpart : '\n' ∉ label ++ [':'] := by simp [hword.newline]
    obtain ⟨p, q, hline, hp, -⟩ := Text.exists_line hpart before behind
    refine ⟨p ++ (label ++ [':']) ++ q, ?_, p, q, by simp, hword.of_suffix hp⟩
    simpa using hline

/-! ## The scan for labels -/

theorem rawLabel?_eq (before : Option Char) (t : Text) : rawLabel? false before t =
    if (t.takeWhile isWord).isEmpty || before.any isWord then none
    else (Text.after? [':'] (t.dropWhile isWord)).map fun behind =>
      (t.takeWhile isWord, Text.dropOne ':' behind) := by
  unfold rawLabel?
  simp only
  split
  · rfl
  · cases t.dropWhile isWord with
    | nil => rfl
    | cons c cs =>
      by_cases hc : c = ':'
      · subst hc
        cases cs with
        | nil => rfl
        | cons d ds =>
          by_cases hd : d = ':'
          · subst hd
            rfl
          · simp [Text.after?, Text.dropOne, hd]
      · simp [Text.after?, hc, Ne.symm hc]

/-- A label is read at a whole word with a colon, and with it a second colon. -/
theorem rawLabel?_eq_some {before : Option Char} {t label rest : Text} :
    rawLabel? false before t = some (label, rest) ↔ label ≠ [] ∧ (∀ c ∈ label, isWord c) ∧
      before.any isWord = false ∧ ∃ behind, t = label ++ ':' :: behind ∧ rest = Text.dropOne ':' behind := by
  rw [rawLabel?_eq]
  constructor
  · intro h
    split at h
    · cases h
    · rename_i hskip
      simp only [Bool.or_eq_true, List.isEmpty_iff, not_or, Bool.not_eq_true] at hskip
      obtain ⟨behind, hcolon, heq⟩ := Option.map_eq_some_iff.1 h
      cases heq
      have hsplit : t.takeWhile isWord ++ t.dropWhile isWord = t := List.takeWhile_append_dropWhile
      rw [Text.after?_eq_some.1 hcolon] at hsplit
      exact ⟨hskip.1, List.all_eq_true.1 List.all_takeWhile, hskip.2, behind, hsplit.symm, rfl⟩
  · rintro ⟨hne, hall, hbefore, behind, rfl, rfl⟩
    have hstops : Stops isWord (':' :: behind) := .cons (by decide)
    have hempty : label.isEmpty = false := by simpa using hne
    rw [takeWhile_run hall hstops, dropWhile_run hall hstops, hempty, hbefore]
    rfl

/-- A label is read behind a text that ends no word. -/
theorem readAt_rawLabel {t label rest : Text} {i : Nat} (hi : i ≤ t.length) :
    readAt (rawLabel? false) t i = some (label, rest) ↔ ∃ before behind, t = before ++ (label ++ ':' :: behind) ∧
      WordBehind before label ∧ before.length = i ∧ rest = Text.dropOne ':' behind := by
  rw [readAt_eq_some hi]
  constructor
  · rintro ⟨before, found, rfl, rfl, hr⟩
    obtain ⟨hne, hall, hbefore, behind, rfl, rfl⟩ := rawLabel?_eq_some.1 hr
    exact ⟨before, behind, rfl, ⟨hne, hall, any_isWord_eq_false.1 hbefore⟩, rfl, rfl⟩
  · rintro ⟨before, behind, rfl, ⟨hne, hall, hbefore⟩, rfl, rfl⟩
    exact ⟨before, _, rfl, rfl, rawLabel?_eq_some.2 ⟨hne, hall, any_isWord_eq_false.2 hbefore, behind, rfl, rfl⟩⟩

/-- Within a label, or before its second colon, no other label is read. -/
theorem readsApart_rawLabel (t : Text) : ReadsApart (rawLabel? false) t := by
  intro i j label rest hread hlt hwithin
  by_contra hsome
  obtain ⟨⟨label', rest'⟩, hread'⟩ := Option.ne_none_iff_exists'.1 hsome
  obtain ⟨before, behind, rfl, hword, rfl, rfl⟩ := (readAt_rawLabel (by omega)).1 hread
  obtain ⟨before', behind', heq, hword', rfl, -⟩ := (readAt_rawLabel (by omega)).1 hread'
  obtain ⟨gap, rfl, rfl⟩ := hword.begins_behind hword' (by decide) hlt heq
  obtain ⟨c, label', rfl⟩ := List.exists_cons_of_ne_nil hword'.nonempty
  cases gap with
  | nil =>
    have hcolon : c ≠ ':' := by
      rintro rfl
      exact absurd (hword'.ofWord ':' List.mem_cons_self) (by decide)
    rw [List.nil_append, List.cons_append, Text.dropOne, if_neg hcolon] at hwithin
    simp only [List.length_append, List.length_cons, List.length_nil] at hwithin
    omega
  | cons d gap =>
    rw [List.cons_append, Text.dropOne] at hwithin
    simp only [List.length_append, List.length_cons] at hwithin
    split at hwithin <;> simp only [List.length_append, List.length_cons] at hwithin <;> omega

/-- **A scan finds every label.** -/
theorem mem_scanAt_rawLabel {t label : Text} {i : Nat} : (i, label) ∈ scanAt (rawLabel? false) t ↔
    ∃ before behind, t = before ++ (label ++ ':' :: behind) ∧ WordBehind before label ∧ before.length = i := by
  rw [mem_scanAt_iff (readsApart_rawLabel t)]
  constructor
  · rintro ⟨hi, rest, hread⟩
    obtain ⟨before, behind, heq, hword, hlength, -⟩ := (readAt_rawLabel (Nat.le_of_lt hi)).1 hread
    exact ⟨before, behind, heq, hword, hlength⟩
  · rintro ⟨before, behind, rfl, hword, rfl⟩
    have hlt : before.length < (before ++ (label ++ ':' :: behind)).length := by
      simp only [List.length_append, List.length_cons]
      omega
    exact ⟨hlt, _, (readAt_rawLabel (Nat.le_of_lt hlt)).2 ⟨before, behind, rfl, hword, rfl, rfl⟩⟩

/-! ## The first line with a label -/

/-- A line of a raw script without its string literals and its comment. -/
def bareRawLine (line : Text) : Text := Text.upTo ['@'] (eraseQuoted line)

theorem lines_cleanRaw (t : Text) : Text.lines (cleanRaw t) = (Text.lines t).map bareRawLine := by
  rw [cleanRaw, Text.lines_eraseLineComments (by decide) (by decide), Text.lines_eraseStringLiterals, List.map_map]
  rfl

/-- The numbers of the lines that define a label, from 1. -/
def definingLines (t label : Text) : Set Nat :=
  { n | ∃ i line, n = i + 1 ∧ (Text.lines t)[i]? = some line ∧ HasLabel label (bareRawLine line) }

/-- The lines that define a label are those of its places in the cleaned script. -/
theorem mem_definingLines {t label : Text} {n : Nat} : n ∈ definingLines t label ↔
    ∃ before behind, cleanRaw t = before ++ (label ++ ':' :: behind) ∧ WordBehind before label ∧
      n = before.count '\n' + 1 := by
  have hlines (i : Nat) : (∃ line, (Text.lines t)[i]? = some line ∧ HasLabel label (bareRawLine line)) ↔
      ∃ line, (Text.lines (cleanRaw t))[i]? = some line ∧ HasLabel label line := by
    rw [lines_cleanRaw]
    simp only [List.getElem?_map, Option.map_eq_some_iff]
    constructor
    · rintro ⟨line, hline, hlabel⟩
      exact ⟨_, ⟨line, hline, rfl⟩, hlabel⟩
    · rintro ⟨_, ⟨line, hline, rfl⟩, hlabel⟩
      exact ⟨line, hline, hlabel⟩
  constructor
  · rintro ⟨i, line, rfl, hline, hlabel⟩
    obtain ⟨before, behind, heq, hword, hcount⟩ := hasLabel_line.1 ((hlines i).1 ⟨line, hline, hlabel⟩)
    exact ⟨before, behind, heq, hword, by rw [hcount]⟩
  · rintro ⟨before, behind, heq, hword, rfl⟩
    obtain ⟨line, hline, hlabel⟩ := (hlines _).2 (hasLabel_line.2 ⟨before, behind, heq, hword, rfl⟩)
    exact ⟨_, line, rfl, hline, hlabel⟩

/-- A label is answered with the line of its first place, and with 0 if it has none. -/
theorem rawLine_first (t label : Text) :
    (rawLine t label = 0 ∧ ∀ e ∈ scanAt (rawLabel? false) (cleanRaw t), e.2 ≠ label) ∨
      ∃ before behind, cleanRaw t = before ++ (label ++ ':' :: behind) ∧ WordBehind before label ∧
        rawLine t label = before.count '\n' + 1 ∧
        ∀ e ∈ scanAt (rawLabel? false) (cleanRaw t), e.2 = label → before.length ≤ e.1 := by
  cases hfind : (scanAt (rawLabel? false) (cleanRaw t)).find? fun e => e.2 == label with
  | none =>
    refine .inl ⟨by rw [rawLine, hfind], fun e he => ?_⟩
    simpa using List.find?_eq_none.1 hfind e he
  | some e =>
    obtain ⟨i, found⟩ := e
    obtain ⟨hmem, hlabel, hleast⟩ := find?_scanAt hfind
    obtain rfl : found = label := by simpa using hlabel
    obtain ⟨before, behind, heq, hword, rfl⟩ := mem_scanAt_rawLabel.1 hmem
    refine .inr ⟨before, behind, heq, hword, ?_, fun e he hfound => hleast e he (by simpa using hfound)⟩
    rw [rawLine, hfind]
    simp [heq, lineOf]

theorem rawLine_mem {t label : Text} (h : rawLine t label ≠ 0) : rawLine t label ∈ definingLines t label := by
  obtain ⟨hzero, -⟩ | ⟨before, behind, heq, hword, hline, -⟩ := rawLine_first t label
  · exact absurd hzero h
  · exact mem_definingLines.2 ⟨before, behind, heq, hword, hline⟩

/-- **The line of a label in a raw script** is the first of the lines that define it, and 0 if there is none. -/
theorem rawLine_least (t label : Text) :
    (IsLeast (definingLines t label) (rawLine t label) ∨ rawLine t label = 0) ∧
      (rawLine t label = 0 ↔ definingLines t label = ∅) := by
  obtain ⟨hzero, hnone⟩ | ⟨before, behind, heq, -, hline, hfirst⟩ := rawLine_first t label
  · refine ⟨.inr hzero, fun _ => Set.eq_empty_of_forall_notMem fun n hn => ?_, fun _ => hzero⟩
    obtain ⟨before, behind, heq, hword, -⟩ := mem_definingLines.1 hn
    exact hnone _ (mem_scanAt_rawLabel.2 ⟨before, behind, heq, hword, rfl⟩) rfl
  · have hne : rawLine t label ≠ 0 := by
      rw [hline]
      exact Nat.succ_ne_zero _
    have hmem := rawLine_mem hne
    refine ⟨.inl ⟨hmem, fun n hn => ?_⟩, fun hzero => absurd hzero hne, fun hempty => ?_⟩
    · obtain ⟨before', behind', heq', hword', rfl⟩ := mem_definingLines.1 hn
      have hle := hfirst _ (mem_scanAt_rawLabel.2 ⟨before', behind', heq', hword', rfl⟩) rfl
      have hbegins : before <+: before' := List.prefix_of_prefix_length_le ⟨_, heq.symm⟩ ⟨_, heq'.symm⟩ hle
      rw [hline]
      exact Nat.add_le_add_right (hbegins.sublist.count_le _) 1
    · rw [hempty] at hmem
      exact hmem.elim

example : rawLine "s: .string \"a:\" @ a:\na::b:".toList "a".toList = 2 := by decide

end GameSource.Script
