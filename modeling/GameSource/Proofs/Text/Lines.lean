import GameSource.Text.Comments
import GameSource.Proofs.Text.Runs
/-!
# Texts line by line

String literals and comments to the end of the line are taken out of each line by itself (`lines_eraseStringLiterals`,
`lines_eraseLineComments`), so the lines of a text keep their numbers.  A place of a text stands on the line whose
number is that of the line feeds before it (`exists_line`, `exists_place`).
-/
namespace GameSource

/-! ## The lines of a text -/

/-- What of a text is on its first line, and the rest, which begins with the end of that line if there is any. -/
theorem exists_firstLine (t : Text) : ∃ line rest, t = line ++ rest ∧ '\n' ∉ line ∧ ∀ c ∈ rest.head?, c = '\n' := by
  refine ⟨t.takeWhile (· != '\n'), t.dropWhile (· != '\n'), List.takeWhile_append_dropWhile.symm, fun hmem => ?_,
    fun c hc => ?_⟩
  · have hall := List.all_eq_true.1 (List.all_takeWhile (l := t) (p := (· != '\n'))) _ hmem
    simp at hall
  · cases hdrop : t.dropWhile (· != '\n') with
    | nil =>
      rw [hdrop] at hc
      cases hc
    | cons d ds =>
      have hnot := List.head_dropWhile_not (l := t) (· != '\n') (by rw [hdrop]; simp)
      simp only [hdrop, List.head_cons] at hnot
      rw [hdrop] at hc
      cases hc
      simpa using hnot

theorem takeWhile_firstLine {line rest : Text} (hline : '\n' ∉ line) (hend : ∀ c ∈ rest.head?, c = '\n') :
    (line ++ rest).takeWhile (· != '\n') = line := by
  refine takeWhile_run (fun c hc => ?_) fun c hc => by simp [hend c hc]
  simp only [bne_iff_ne]
  exact fun h => hline (h ▸ hc)

theorem dropWhile_firstLine {line rest : Text} (hline : '\n' ∉ line) (hend : ∀ c ∈ rest.head?, c = '\n') :
    (line ++ rest).dropWhile (· != '\n') = rest := by
  refine dropWhile_run (fun c hc => ?_) fun c hc => by simp [hend c hc]
  simp only [bne_iff_ne]
  exact fun h => hline (h ▸ hc)

/-- A text that is put together ends with the last character of its last part that is not empty. -/
theorem mem_getLast?_append {s t : Text} {c : Char} :
    c ∈ (s ++ t).getLast? ↔ c ∈ t.getLast? ∨ t = [] ∧ c ∈ s.getLast? := by
  rcases List.eq_nil_or_concat t with rfl | ⟨t, d, rfl⟩
  · simp
  · rw [List.concat_eq_append, ← List.append_assoc, List.getLast?_concat, List.getLast?_concat]
    simp

namespace Text

theorem splitWhere_eq (sep : Char → Bool) : ∀ t : Text, splitWhere sep t = List.splitOnP sep t
  | [] => rfl
  | c :: cs => by
    rw [splitWhere, List.splitOnP_cons_eq_if_modifyHead, splitWhere_eq sep cs]
    split
    · rfl
    · cases h : List.splitOnP sep cs with
      | nil => exact absurd ((splitWhere_eq sep cs).trans h) (splitWhere_ne_nil sep cs)
      | cons piece pieces => rfl

theorem lines_eq (t : Text) : lines t = List.splitOn '\n' t := splitWhere_eq _ t

theorem length_lines (t : Text) : (lines t).length = t.count '\n' + 1 := length_splitWhere _ t

theorem splitOn_append (sep : Char) (s t : Text) : splitOn sep (s ++ sep :: t) = splitOn sep s ++ splitOn sep t := by
  simp only [splitOn, splitWhere_eq]
  exact List.splitOn_append_cons_self ..

theorem splitOn_of_not_mem {sep : Char} {t : Text} (h : sep ∉ t) : splitOn sep t = [t] := by
  rw [splitOn, splitWhere_eq]
  refine List.splitOnP_eq_singleton fun c hc => ?_
  simpa using fun heq : c = sep => h (heq ▸ hc)

theorem lines_append_newline (s t : Text) : lines (s ++ '\n' :: t) = lines s ++ lines t := splitOn_append '\n' s t

theorem lines_of_not_mem {t : Text} (h : '\n' ∉ t) : lines t = [t] := splitOn_of_not_mem h

theorem lines_unlines {ls : List Text} (h : ∀ line ∈ ls, '\n' ∉ line) (hne : ls ≠ []) : lines (unlines ls) = ls := by
  rw [lines_eq, unlines, List.splitOn_intercalate '\n' h hne]

theorem lines_ne_nil (t : Text) : lines t ≠ [] := splitWhere_ne_nil _ t

theorem unlines_cons_cons (line next : Text) (ls : List Text) :
    unlines (line :: next :: ls) = line ++ '\n' :: unlines (next :: ls) := by
  simp [unlines, List.intercalate]

theorem getElem?_lines_zero {line rest : Text} (hline : '\n' ∉ line) (hrest : ∀ c ∈ rest.head?, c = '\n') :
    (lines (line ++ rest))[0]? = some line := by
  cases rest with
  | nil => rw [List.append_nil, lines_of_not_mem hline]; rfl
  | cons c rest =>
    obtain rfl : c = '\n' := hrest c rfl
    rw [lines_append_newline, lines_of_not_mem hline]
    rfl

/-- **A line of a text** stands between line feeds or the ends of the text, and its number is that of the line feeds
before it. -/
theorem getElem?_lines {t line : Text} {i : Nat} : (lines t)[i]? = some line ↔ '\n' ∉ line ∧ ∃ before after,
    t = before ++ line ++ after ∧ before.count '\n' = i ∧ (∀ c ∈ before.getLast?, c = '\n') ∧
      ∀ c ∈ after.head?, c = '\n' := by
  constructor
  · intro h
    induction i generalizing t with
    | zero =>
      obtain ⟨first, rest, rfl, hfirst, hrest⟩ := exists_firstLine t
      rw [getElem?_lines_zero hfirst hrest] at h
      obtain rfl : first = line := Option.some.inj h
      exact ⟨hfirst, [], rest, rfl, rfl, by simp, hrest⟩
    | succ i ih =>
      obtain ⟨first, rest, rfl, hfirst, hrest⟩ := exists_firstLine t
      cases rest with
      | nil =>
        rw [List.append_nil, lines_of_not_mem hfirst] at h
        cases h
      | cons c rest =>
        obtain rfl : c = '\n' := hrest c rfl
        rw [lines_append_newline, lines_of_not_mem hfirst] at h
        obtain ⟨hline, before, after, rfl, hcount, hbefore, hafter⟩ := ih h
        refine ⟨hline, first ++ '\n' :: before, after, by simp, ?_, ?_, hafter⟩
        · rw [List.count_append, List.count_eq_zero.2 hfirst, List.count_cons_self, hcount, Nat.zero_add]
        · intro c hc
          rw [← List.singleton_append, mem_getLast?_append, mem_getLast?_append] at hc
          rcases hc with (hc | ⟨-, hc⟩) | ⟨hnil, -⟩
          · exact hbefore c hc
          · simpa using hc.symm
          · simp at hnil
  · rintro ⟨hline, before, after, rfl, rfl, hbefore, hafter⟩
    have hfirst := getElem?_lines_zero hline hafter
    rcases List.eq_nil_or_concat before with rfl | ⟨before, c, rfl⟩
    · exact hfirst
    · rw [List.concat_eq_append] at hbefore ⊢
      obtain rfl : c = '\n' := hbefore c (by simp)
      have hlength : (lines before).length = (before ++ ['\n']).count '\n' := by
        rw [length_lines, List.count_append]
        rfl
      have hlines : lines (before ++ ['\n'] ++ line ++ after) = lines before ++ lines (line ++ after) := by
        rw [← lines_append_newline]
        simp
      rw [hlines, ← hlength, List.getElem?_append_right (Nat.le_refl _), Nat.sub_self]
      exact hfirst

theorem not_mem_of_mem_lines {t line : Text} (h : line ∈ lines t) : '\n' ∉ line := by
  obtain ⟨i, hi⟩ := List.mem_iff_getElem?.1 h
  exact (getElem?_lines.1 hi).1

/-- The line on which a part of a text stands. -/
theorem exists_line {part : Text} (hpart : '\n' ∉ part) (a b : Text) :
    ∃ p q, (lines (a ++ part ++ b))[a.count '\n']? = some (p ++ part ++ q) ∧ p <:+ a ∧ q <+: b := by
  obtain ⟨p, before, ha, hp, hbefore⟩ := exists_firstLine a.reverse
  obtain ⟨q, after, rfl, hq, hafter⟩ := exists_firstLine b
  have ha : a = before.reverse ++ p.reverse := by rw [← List.reverse_append, ← ha, List.reverse_reverse]
  rw [ha]
  refine ⟨p.reverse, q, getElem?_lines.2 ⟨?_, before.reverse, after, by simp, ?_, by simpa using hbefore, hafter⟩,
    List.suffix_append _ _, List.prefix_append _ _⟩
  · simp [hp, hq, hpart]
  · have hzero : p.reverse.count '\n' = 0 := List.count_eq_zero.2 (by simpa using hp)
    rw [List.count_append, hzero, Nat.add_zero]

/-- The place in a text of a part of one of its lines. -/
theorem exists_place {t p part q : Text} {i : Nat} (h : (lines t)[i]? = some (p ++ part ++ q)) :
    ∃ a b, t = a ++ part ++ b ∧ a.count '\n' = i ∧ (∀ c ∈ a.getLast?, c = '\n' ∨ c ∈ p.getLast?) ∧ q <+: b := by
  obtain ⟨hline, before, after, rfl, rfl, hbefore, -⟩ := getElem?_lines.1 h
  have hp : '\n' ∉ p := fun hmem => hline (by simp [hmem])
  refine ⟨before ++ p, q ++ after, by simp, ?_, fun c hc => ?_, List.prefix_append _ _⟩
  · rw [List.count_append, List.count_eq_zero.2 hp, Nat.add_zero]
  · rcases mem_getLast?_append.1 hc with hc | ⟨-, hc⟩
    · exact .inr hc
    · exact .inl (hbefore c hc)

/-! ## Taking string literals out -/

theorem mem_eraseQuoted {line : Text} {c : Char} (h : c ∈ eraseQuoted line) : c ∈ line := by
  unfold eraseQuoted at h
  split at h
  · rcases List.mem_append.1 h with h | h
    · exact (List.takeWhile_prefix _).subset h
    · have hmem := (List.takeWhile_prefix _).subset (List.mem_reverse.1 h)
      exact List.mem_reverse.1 hmem
  · exact h

/-- **String literals are taken out line by line.** -/
theorem lines_eraseStringLiterals (t : Text) : lines (eraseStringLiterals t) = (lines t).map eraseQuoted := by
  refine lines_unlines (fun line h => ?_) (by simpa using lines_ne_nil t)
  obtain ⟨before, hbefore, rfl⟩ := List.mem_map.1 h
  exact fun hmem => not_mem_of_mem_lines hbefore (mem_eraseQuoted hmem)

/-- A line without quoted parts has at most one double quote. -/
theorem count_eraseQuoted_le (line : Text) : (eraseQuoted line).count '"' ≤ 1 := by
  have hnone (t : Text) : (t.takeWhile (· != '"')).count '"' = 0 := by
    refine List.count_eq_zero.2 fun h => ?_
    have hall := List.all_eq_true.1 (List.all_takeWhile (l := t) (p := (· != '"'))) _ h
    simp at hall
  unfold eraseQuoted
  split
  · rw [List.count_append, List.count_reverse, hnone, hnone]
    exact Nat.zero_le 1
  · omega

/-! ## Taking comments out -/

/-- What stands before the first place where `part` stands, or all of the line. -/
def upTo (part line : Text) : Text := line.take ((indexOf? part line).getD line.length)

theorem upTo_cons (part : Text) (c : Char) (cs : Text) :
    upTo part (c :: cs) = if (after? part (c :: cs)).isSome then [] else c :: upTo part cs := by
  unfold upTo
  rw [indexOf?]
  split
  · rfl
  · cases h : indexOf? part cs <;> simp

theorem prefix_upTo (part line : Text) : upTo part line <+: line := List.take_prefix _ _

/-- Behind a line feed nothing belongs to what a line begins with. -/
theorem after?_append_line {part line rest : Text} (hpart : '\n' ∉ part) (hrest : ∀ c ∈ rest.head?, c = '\n') :
    after? part (line ++ rest) = (after? part line).map (· ++ rest) := by
  induction part generalizing line with
  | nil => rfl
  | cons a part ih =>
    have ha : a ≠ '\n' := fun heq => hpart (by simp [heq])
    cases line with
    | nil =>
      cases rest with
      | nil => rfl
      | cons c rest =>
        obtain rfl : c = '\n' := hrest c rfl
        simp [after?, ha]
    | cons c line =>
      have htail : after? part (line ++ rest) = (after? part line).map (· ++ rest) :=
        ih fun hmem => hpart (List.mem_cons_of_mem a hmem)
      by_cases hac : a = c
      · simpa [after?, hac] using htail
      · simp [after?, hac]

/-- Within a line a comment is taken out up to the end of the line. -/
theorem eraseLineComments_append {symbol line rest : Text} (hsymbol : '\n' ∉ symbol)
    (hline : '\n' ∉ line) (hrest : ∀ c ∈ rest.head?, c = '\n') :
    eraseLineComments symbol (line ++ rest) = upTo symbol line ++ eraseLineComments symbol rest := by
  induction line with
  | nil => simp [upTo]
  | cons c cs ih =>
    have hafter : after? symbol (c :: cs ++ rest) = (after? symbol (c :: cs)).map (· ++ rest) :=
      after?_append_line hsymbol hrest
    have hcs : '\n' ∉ cs := fun hmem => hline (List.mem_cons_of_mem c hmem)
    rw [upTo_cons]
    cases hread : after? symbol (c :: cs) with
    | none =>
      rw [hread] at hafter
      have hkeep : lineComment? symbol (c :: (cs ++ rest)) = none := by
        rw [lineComment?, ← List.cons_append, hafter]
        rfl
      rw [eraseLineComments, List.cons_append, replace_keep _ hkeep, ← eraseLineComments, ih hcs]
      rfl
    | some behind =>
      rw [hread] at hafter
      have hbehind : '\n' ∉ behind := by
        intro hmem
        refine hline ?_
        rw [after?_eq_some.1 hread]
        exact List.mem_append_right _ hmem
      have hlast : symbol.getLast? ≠ some '\n' := fun h => hsymbol (List.mem_of_getLast? h)
      have hskip : ((behind ++ rest).dropWhile fun d => symbol.getLast? == some d).dropWhile (· != '\n') = rest := by
        have hend : rest.dropWhile (fun d => symbol.getLast? == some d) = rest := by
          cases rest with
          | nil => rfl
          | cons d rest =>
            obtain rfl : d = '\n' := hrest d rfl
            rw [List.dropWhile_cons_of_neg (by simpa using hlast)]
        have hstop : rest.dropWhile (· != '\n') = rest := by
          cases rest with
          | nil => rfl
          | cons d rest =>
            obtain rfl : d = '\n' := hrest d rfl
            rfl
        have hdrop {u : Text} (hu : '\n' ∉ u) : (u ++ rest).dropWhile (· != '\n') = rest := by
          rw [List.dropWhile_append_of_pos fun d hd => by simpa using fun heq : d = '\n' => hu (heq ▸ hd), hstop]
        rw [List.dropWhile_append]
        split
        · rw [hend, hstop]
        · exact hdrop fun hmem => hbehind ((List.dropWhile_suffix _).subset hmem)
      have hread' : lineComment? symbol (c :: cs ++ rest) = some ([], rest) := by
        rw [lineComment?, hafter, Option.map_some, Option.map_some, hskip]
      rw [eraseLineComments, replace_accept _ hread']
      rfl

/-- **Comments to the end of the line are taken out line by line.** -/
theorem lines_eraseLineComments {symbol : Text} (hne : symbol ≠ []) (hsymbol : '\n' ∉ symbol) (t : Text) :
    lines (eraseLineComments symbol t) = (lines t).map (upTo symbol) := by
  have hunlines : ∀ ls : List Text, (∀ line ∈ ls, '\n' ∉ line) →
      eraseLineComments symbol (unlines ls) = unlines (ls.map (upTo symbol)) := by
    intro ls
    induction ls with
    | nil => exact fun _ => rfl
    | cons line ls ih =>
      intro h
      have hline : '\n' ∉ line := h line List.mem_cons_self
      cases ls with
      | nil =>
        have happend : eraseLineComments symbol (line ++ []) = upTo symbol line ++ eraseLineComments symbol [] :=
          eraseLineComments_append hsymbol hline (by simp)
        simpa [unlines, List.intercalate, eraseLineComments, replace, replaceFrom] using happend
      | cons next ls =>
        have hfeed : lineComment? symbol ('\n' :: unlines (next :: ls)) = none := by
          obtain ⟨a, part, rfl⟩ := List.exists_cons_of_ne_nil hne
          have ha : a ≠ '\n' := fun heq => hsymbol (by simp [heq])
          simp [lineComment?, after?, ha]
        rw [unlines_cons_cons, eraseLineComments_append hsymbol hline (by simp), eraseLineComments,
          replace_keep _ hfeed, ← eraseLineComments, ih fun l hl => h l (List.mem_cons_of_mem line hl)]
        exact (unlines_cons_cons _ _ _).symm
  have herase := hunlines (lines t) fun _ => not_mem_of_mem_lines
  rw [unlines_lines] at herase
  rw [herase]
  refine lines_unlines (fun line h => ?_) (by simpa using lines_ne_nil t)
  obtain ⟨before, hbefore, rfl⟩ := List.mem_map.1 h
  exact fun hmem => not_mem_of_mem_lines hbefore ((prefix_upTo symbol before).subset hmem)

end Text

end GameSource
