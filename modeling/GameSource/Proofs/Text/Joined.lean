import GameSource.Proofs.Text.Lines
import Mathlib.Data.List.Forall2
/-!
# The lines that prepared text comes from

Taking comments out leaves every line of a text in its place, with a part of its characters
(`lines_replace_comment`).  Then lines that go on behind a backslash are joined: `joinedGroups` says which of them make
up one line, and each line of the prepared text is what such a group joins to, without its quoted part
(`lines_bareText`).
-/
namespace GameSource

/-! ## Replacing pieces -/

/-- Every piece that is replaced stands at the head of the text, before the rest. -/
def Consumes (r : Text → Option (Text × Text)) (P : Text → Text → Prop) : Prop :=
  ∀ c t out rest, r (c :: t) = some (out, rest) → ∃ p, c :: t = c :: p ++ rest ∧ P (c :: p) out

/-- **Replacing keeps what a relation says of a text and of what comes of it**, if it says so of every piece, every
character that is kept, and of texts put together. -/
theorem Consumes.replace {r : Text → Option (Text × Text)} {P : Text → Text → Prop} (h : Consumes r P) (hnil : P [] [])
    (hchar : ∀ c, P [c] [c]) (happend : ∀ {s s' t t'}, P s s' → P t t' → P (s ++ t) (s' ++ t')) :
    ∀ t, P t (replace r t)
  | [] => hnil
  | c :: t => by
    cases hr : r (c :: t) with
    | none =>
      rw [replace_keep r hr]
      exact happend (hchar c) (h.replace hnil hchar happend t)
    | some found =>
      obtain ⟨out, rest⟩ := found
      obtain ⟨p, hp, hout⟩ := h c t out rest hr
      have hlt : rest.length < (c :: t).length := by
        rw [hp, List.cons_append, List.length_cons, List.length_append]
        omega
      rw [hp] at hr ⊢
      rw [replace_accept r hr]
      exact happend hout (h.replace hnil hchar happend rest)
  termination_by t => t.length
  decreasing_by
  · exact Nat.lt_succ_self t.length
  · exact hlt

/-! ## Comments -/

/-- A text has a part of the characters of another one, and all its line feeds. -/
structure KeepsLines (t s : Text) : Prop where
  sublist : s.Sublist t
  count : s.count '\n' = t.count '\n'

namespace KeepsLines

theorem refl (t : Text) : KeepsLines t t := ⟨.refl t, rfl⟩

theorem append {s s' t t' : Text} (h : KeepsLines s s') (h' : KeepsLines t t') : KeepsLines (s ++ t) (s' ++ t') :=
  ⟨h.sublist.append h'.sublist, by rw [List.count_append, List.count_append, h.count, h'.count]⟩

/-- A character that is no line feed may be left out. -/
theorem drop {c : Char} {t s : Text} (hc : c ≠ '\n') (h : KeepsLines t s) : KeepsLines (c :: t) s :=
  ⟨h.sublist.cons c, by rw [List.count_cons_of_ne hc, h.count]⟩

theorem keep (c : Char) {t s : Text} (h : KeepsLines t s) : KeepsLines (c :: t) (c :: s) := (refl [c]).append h

theorem of_not_mem : ∀ {t : Text}, '\n' ∉ t → KeepsLines t []
  | [], _ => refl []
  | c :: _, h => drop (fun hc => h (hc ▸ List.mem_cons_self)) (of_not_mem fun hmem => h (List.mem_cons_of_mem c hmem))

end KeepsLines

theorem literalTail?_eq_append {t body rest : Text} (h : literalTail? t = some (body, rest)) : t = body ++ rest := by
  fun_induction literalTail? t generalizing body with
  | case1 => cases h
  | case2 => cases h; rfl
  | case3 => cases h
  | case4 => cases h
  | case5 c t ih =>
    obtain ⟨⟨body', rest'⟩, htail, heq⟩ := Option.map_eq_some_iff.1 h
    cases heq
    rw [ih htail]
    rfl
  | case6 c t _ _ _ _ ih =>
    obtain ⟨⟨body', rest'⟩, htail, heq⟩ := Option.map_eq_some_iff.1 h
    cases heq
    rw [ih htail]
    rfl

/-- A block comment leaves its line feeds. -/
theorem blockComment?_keepsLines {t kept rest : Text} (h : blockComment? t = some (kept, rest)) :
    ∃ p, t = p ++ rest ∧ KeepsLines p kept := by
  fun_induction blockComment? t generalizing kept with
  | case1 => cases h
  | case2 => cases h; exact ⟨['*', '/'], rfl, .of_not_mem (by decide)⟩
  | case3 c t _ ih =>
    obtain ⟨⟨kept', rest'⟩, htail, heq⟩ := Option.map_eq_some_iff.1 h
    cases heq
    obtain ⟨p, rfl, hp⟩ := ih htail
    refine ⟨c :: p, rfl, ?_⟩
    split
    · exact hp.keep c
    · rename_i hc
      exact hp.drop hc

/-- **Of a comment its line feeds are left, of a string literal everything.** -/
theorem consumes_comment? : Consumes comment? KeepsLines := by
  intro c t out rest h
  unfold comment? at h
  split at h
  · rename_i body heq
    cases heq
    obtain ⟨⟨tail, rest'⟩, htail, heq⟩ := Option.map_eq_some_iff.1 h
    cases heq
    exact ⟨tail, by rw [literalTail?_eq_append htail]; rfl, .refl _⟩
  · rename_i body heq
    cases heq
    cases h
    refine ⟨'/' :: body.takeWhile (· != '\n'), ?_, .of_not_mem ?_⟩
    · simp
    · intro hmem
      have hbody : '\n' ∈ body.takeWhile (· != '\n') := by simpa using hmem
      have hall := List.all_eq_true.1 (List.all_takeWhile (l := body) (p := (· != '\n'))) _ hbody
      simp at hall
  · rename_i body heq
    cases heq
    obtain ⟨p, rfl, hp⟩ := blockComment?_keepsLines h
    exact ⟨'*' :: p, rfl, (hp.drop (by decide)).drop (by decide)⟩
  · cases h

theorem keepsLines_replace_comment (t : Text) : KeepsLines t (replace comment? t) :=
  consumes_comment?.replace (.refl []) (fun c => .refl [c]) .append t

namespace Text

theorem lines_newline (t : Text) : lines ('\n' :: t) = [] :: lines t := lines_append_newline [] t

theorem lines_cons {c : Char} (hc : c ≠ '\n') (t : Text) : ∃ first rest, lines t = first :: rest ∧
    lines (c :: t) = (c :: first) :: rest := by
  obtain ⟨first, rest, hlines⟩ := List.exists_cons_of_ne_nil (lines_ne_nil t)
  refine ⟨first, rest, hlines, ?_⟩
  rw [lines, splitOn] at hlines ⊢
  rw [splitWhere, if_neg (by simpa using hc), hlines]

/-- A text with all the line feeds of another one has its lines, in part. -/
theorem lines_keepsLines {t s : Text} (h : KeepsLines t s) : List.Forall₂ List.Sublist (lines s) (lines t) := by
  obtain ⟨hsublist, hcount⟩ := h
  induction hsublist with
  | slnil => exact .cons (.refl []) .nil
  | @cons s t c hsublist ih =>
    have hle := hsublist.count_le '\n'
    have hc : c ≠ '\n' := by
      rintro rfl
      rw [List.count_cons_self] at hcount
      omega
    rw [List.count_cons_of_ne hc] at hcount
    obtain ⟨first, rest, hlines, hcons⟩ := lines_cons hc t
    obtain ⟨first', rest', hfirst, hrest, hlines'⟩ := List.forall₂_cons_right_iff.1 (hlines ▸ ih hcount)
    rw [hcons, hlines']
    exact .cons (hfirst.cons c) hrest
  | @cons_cons s t c hsublist ih =>
    rw [List.count_cons, List.count_cons, Nat.add_right_cancel_iff] at hcount
    by_cases hc : c = '\n'
    · rw [hc, lines_newline, lines_newline]
      exact .cons (.refl []) (ih hcount)
    · obtain ⟨first, rest, hlines, hcons⟩ := lines_cons hc t
      obtain ⟨first', rest', hlines', hcons'⟩ := lines_cons hc s
      obtain ⟨hfirst, hrest⟩ := List.forall₂_cons.1 (hlines ▸ hlines' ▸ ih hcount)
      rw [hcons, hcons']
      exact .cons (hfirst.cons_cons c) hrest

/-- **Taking comments out leaves every line in its place**, with a part of its characters. -/
theorem lines_replace_comment (t : Text) : List.Forall₂ List.Sublist (lines (replace comment? t)) (lines t) :=
  lines_keepsLines (keepsLines_replace_comment t)

/-! ## Continued lines -/

/-- What stands before the backslash of a line that goes on with the next one: only white space is behind it. -/
def continued? : Text → Option Text
  | [] => none
  | c :: line => if c = '\\' ∧ line.all isInlineSpace then some [] else (continued? line).map (c :: ·)

/-- The lines that are joined, together: each but the last of a group goes on with the next one. -/
def joinedGroups : List Text → List (List Text)
  | [] => []
  | line :: ls =>
    match continued? line, joinedGroups ls with
    | some _, group :: groups => (line :: group) :: groups
    | _, groups => [line] :: groups

/-- The line that a group of lines joins to. -/
def joinText : List Text → Text
  | [] => []
  | [line] => line
  | line :: next :: ls => (continued? line).getD line ++ joinText (next :: ls)

theorem continuation?_eq_none {c : Char} (hc : c ≠ '\\') (t : Text) : continuation? (c :: t) = none := by
  unfold continuation?
  split
  · rename_i heq
    exact absurd (List.cons.inj heq).1 hc
  · rfl

theorem continuation?_backslash {line : Text} (hline : '\n' ∉ line) {rest : Text} :
    continuation? ('\\' :: (line ++ '\n' :: rest)) = if line.all isInlineSpace then some ([], rest) else none := by
  induction line with
  | nil => rfl
  | cons c line ih =>
    by_cases hc : isInlineSpace c
    · have htail := ih fun hmem => hline (List.mem_cons_of_mem c hmem)
      rw [List.all_cons, hc, Bool.true_and, ← htail, continuation?, continuation?, List.cons_append,
        List.dropWhile_cons_of_pos hc]
    · have hfeed : c ≠ '\n' := fun heq => hline (heq ▸ List.mem_cons_self)
      simp [continuation?, hc, hfeed]

/-- **A line is kept, or joined with the next one.** -/
theorem replace_continuation_append {line : Text} (hline : '\n' ∉ line) (rest : Text) :
    replace continuation? (line ++ '\n' :: rest) = match continued? line with
      | none => line ++ '\n' :: replace continuation? rest
      | some stem => stem ++ replace continuation? rest := by
  induction line with
  | nil => exact replace_keep _ (continuation?_eq_none (by decide) rest)
  | cons c line ih =>
    have hline' : '\n' ∉ line := fun hmem => hline (List.mem_cons_of_mem c hmem)
    by_cases hjoins : c = '\\' ∧ line.all isInlineSpace
    · have hread : continuation? (c :: (line ++ ['\n']) ++ rest) = some ([], rest) := by
        have hbackslash := @continuation?_backslash line hline' rest
        rw [if_pos hjoins.2] at hbackslash
        rw [hjoins.1]
        simpa using hbackslash
      have haccept := replace_accept _ hread
      rw [continued?, if_pos hjoins]
      simpa using haccept
    · have hread : continuation? (c :: (line ++ '\n' :: rest)) = none := by
        by_cases hc : c = '\\'
        · rw [hc, continuation?_backslash hline', if_neg fun hall => hjoins ⟨hc, hall⟩]
        · exact continuation?_eq_none hc _
      rw [List.cons_append, replace_keep _ hread, ih hline', continued?, if_neg hjoins]
      cases continued? line with
      | none => rfl
      | some stem => rfl

/-- The last line of a text is kept. -/
theorem replace_continuation_of_not_mem : ∀ {line : Text}, '\n' ∉ line → replace continuation? line = line
  | [], _ => rfl
  | c :: line, h => by
    have hline : '\n' ∉ line := fun hmem => h (List.mem_cons_of_mem c hmem)
    have hread : continuation? (c :: line) = none := by
      unfold continuation?
      split
      · rename_i rest heq
        split
        · rename_i behind hdrop
          obtain ⟨-, rfl⟩ := List.cons.inj heq
          have hfeed : '\n' ∈ line := (List.dropWhile_suffix isInlineSpace).subset (hdrop ▸ List.mem_cons_self)
          exact absurd hfeed hline
        · rfl
      · rfl
    rw [replace_keep _ hread, replace_continuation_of_not_mem hline]

/-! ## Groups of lines -/

theorem joinedGroups_none {line : Text} (h : continued? line = none) (ls : List Text) :
    joinedGroups (line :: ls) = [line] :: joinedGroups ls := by
  rw [joinedGroups, h]

theorem joinedGroups_some {line stem : Text} {ls group : List Text} {groups : List (List Text)}
    (h : continued? line = some stem) (hls : joinedGroups ls = group :: groups) :
    joinedGroups (line :: ls) = (line :: group) :: groups := by
  rw [joinedGroups, h, hls]

theorem joinedGroups_singleton (line : Text) : joinedGroups [line] = [[line]] := by
  cases h : continued? line with
  | none => exact joinedGroups_none h []
  | some stem => rw [joinedGroups, h, joinedGroups]

/-- Of a line and what follows it either the line is a group of its own, or it goes on with the first group. -/
theorem joinedGroups_cons (line next : Text) (ls : List Text) : ∃ group groups,
    joinedGroups (next :: ls) = group :: groups ∧ group ≠ [] ∧
      ((continued? line = none ∧ joinedGroups (line :: next :: ls) = [line] :: group :: groups) ∨
        (∃ stem, continued? line = some stem) ∧ joinedGroups (line :: next :: ls) = (line :: group) :: groups) := by
  have hnext : ∃ group groups, joinedGroups (next :: ls) = group :: groups ∧ group ≠ [] := by
    cases ls with
    | nil => exact ⟨[next], [], joinedGroups_singleton next, List.cons_ne_nil _ _⟩
    | cons line ls =>
      obtain ⟨group, groups, -, -, ⟨-, h⟩ | ⟨-, h⟩⟩ := joinedGroups_cons next line ls
      · exact ⟨_, _, h, List.cons_ne_nil _ _⟩
      · exact ⟨_, _, h, List.cons_ne_nil _ _⟩
  obtain ⟨group, groups, hgroups, hne⟩ := hnext
  refine ⟨group, groups, hgroups, hne, ?_⟩
  cases h : continued? line with
  | none => exact .inl ⟨rfl, hgroups ▸ joinedGroups_none h (next :: ls)⟩
  | some stem => exact .inr ⟨⟨stem, rfl⟩, joinedGroups_some h hgroups⟩

/-- The groups are the lines in order. -/
theorem flatten_joinedGroups : ∀ ls : List Text, (joinedGroups ls).flatten = ls
  | [] => rfl
  | [line] => by rw [joinedGroups_singleton]; rfl
  | line :: next :: ls => by
    have ih := flatten_joinedGroups (next :: ls)
    obtain ⟨group, groups, hgroups, -, ⟨-, h⟩ | ⟨-, h⟩⟩ := joinedGroups_cons line next ls
    · rw [h, ← hgroups, List.flatten_cons, ih]
      rfl
    · rw [hgroups, List.flatten_cons] at ih
      rw [h, List.flatten_cons, List.cons_append, ih]

theorem joinedGroups_ne_nil {ls : List Text} (h : ls ≠ []) : joinedGroups ls ≠ [] := fun hnil => by
  have hflatten := flatten_joinedGroups ls
  rw [hnil] at hflatten
  exact h hflatten.symm

theorem joinText_cons {line : Text} {group : List Text} (h : group ≠ []) :
    joinText (line :: group) = (continued? line).getD line ++ joinText group := by
  obtain ⟨next, ls, rfl⟩ := List.exists_cons_of_ne_nil h
  rfl

/-- What stands before a line's backslash is a part of the line. -/
theorem prefix_of_continued? : ∀ {line stem : Text}, continued? line = some stem → stem <+: line
  | c :: line, stem, h => by
    rw [continued?] at h
    split at h
    · cases h
      exact List.nil_prefix
    · obtain ⟨stem', hstem, rfl⟩ := Option.map_eq_some_iff.1 h
      exact (List.prefix_cons_inj c).2 (prefix_of_continued? hstem)

theorem not_mem_joinText : ∀ {ls : List Text}, (∀ line ∈ ls, '\n' ∉ line) → '\n' ∉ joinText ls
  | [], _ => List.not_mem_nil
  | [line], h => h line (List.mem_singleton_self line)
  | line :: next :: ls, h => by
    have hrest := not_mem_joinText fun l hl => h l (List.mem_cons_of_mem line hl)
    have hline := h line List.mem_cons_self
    rw [joinText, List.mem_append]
    rintro (hmem | hmem)
    · cases hstem : continued? line with
      | none =>
        rw [hstem] at hmem
        exact hline hmem
      | some stem =>
        rw [hstem] at hmem
        exact hline ((prefix_of_continued? hstem).subset hmem)
    · exact hrest hmem

theorem replace_continuation_unlines : ∀ {ls : List Text}, (∀ line ∈ ls, '\n' ∉ line) →
    replace continuation? (unlines ls) = unlines ((joinedGroups ls).map joinText)
  | [], _ => rfl
  | [line], h => by
    have hkeep := replace_continuation_of_not_mem (h line (List.mem_singleton_self line))
    simpa [joinedGroups_singleton, unlines, joinText] using hkeep
  | line :: next :: ls, h => by
    have ih := replace_continuation_unlines fun l hl => h l (List.mem_cons_of_mem line hl)
    obtain ⟨group, groups, hgroups, hne, ⟨hnone, hcons⟩ | ⟨⟨stem, hstem⟩, hcons⟩⟩ := joinedGroups_cons line next ls
    · rw [unlines_cons_cons, replace_continuation_append (h line List.mem_cons_self), ih, hcons, hgroups, hnone]
      exact (unlines_cons_cons _ _ _).symm
    · rw [unlines_cons_cons, replace_continuation_append (h line List.mem_cons_self), ih, hcons, hgroups, hstem,
        List.map_cons, List.map_cons, joinText_cons hne, hstem]
      cases groups with
      | nil => simp [unlines]
      | cons next groups => simp [unlines_cons_cons]

/-- **The lines of the text without comments** are what the groups of lines join to. -/
theorem lines_eraseComments (t : Text) :
    lines (eraseComments t) = (joinedGroups (lines (replace comment? t))).map joinText := by
  have hlines : ∀ line ∈ lines (replace comment? t), '\n' ∉ line := fun _ => not_mem_of_mem_lines
  have hjoin := replace_continuation_unlines hlines
  rw [unlines_lines] at hjoin
  rw [eraseComments, hjoin]
  refine lines_unlines (fun line h => ?_) (by simpa using joinedGroups_ne_nil (lines_ne_nil _))
  obtain ⟨group, hgroup, rfl⟩ := List.mem_map.1 h
  refine not_mem_joinText fun l hl => hlines l ?_
  rw [← flatten_joinedGroups (lines (replace comment? t))]
  exact List.mem_flatten_of_mem hgroup hl

/-- **The lines of the prepared text**, without the quoted parts. -/
theorem lines_bareText (t : Text) :
    lines (bareText t) = (joinedGroups (lines (replace comment? t))).map fun group => eraseQuoted (joinText group) := by
  rw [bareText, lines_eraseStringLiterals, lines_eraseComments, List.map_map]
  rfl

end Text

end GameSource
