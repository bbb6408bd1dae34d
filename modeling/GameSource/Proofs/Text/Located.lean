import GameSource.Proofs.Text.Joined
import GameSource.Text.Locate
/-!
# Where a fragment of the prepared text is found

A fragment is placed on the first line of the prepared text that has it.  As long as no carriage return ends a line
before, that is the line it was taken from if and only if no line before has the fragment too (`Position.ofPart?_line`).
The numbers are those of the prepared text, in which several lines of the source may make up one (`headerLines`), so
they are those of the source if and only if no lines before were joined (`mem_headerLines`).
-/
namespace GameSource

namespace Text

/-! ## Finding a part -/

theorem indexOf?_isSome {part : Text} : ∀ {line : Text}, (indexOf? part line).isSome ↔ part <:+: line
  | [] => by
    rw [indexOf?, List.infix_nil]
    cases part <;> simp
  | c :: line => by
    have hhere : (after? part (c :: line)).isSome ↔ part <+: c :: line := by
      rw [Option.isSome_iff_exists]
      exact exists_congr fun rest => by rw [after?_eq_some, eq_comm]
    have hbehind : (indexOf? part line).isSome ↔ part <:+: line := indexOf?_isSome
    rw [indexOf?, List.infix_cons_iff, ← hhere, ← hbehind]
    split <;> simp_all

theorem indexOf?_eq_none {part line : Text} : indexOf? part line = none ↔ ¬part <:+: line := by
  rw [← indexOf?_isSome, Option.not_isSome_iff_eq_none]

/-! ## Carriage returns -/

theorem splitWhere_of_all {sep : Char → Bool} : ∀ {t : Text}, (∀ c ∈ t, sep c = false) → splitWhere sep t = [t]
  | [], _ => rfl
  | c :: t, h => by
    have htail := splitWhere_of_all fun d hd => h d (List.mem_cons_of_mem c hd)
    rw [splitWhere, if_neg (by simp [h c List.mem_cons_self]), htail]

/-- A text that is split at two kinds of ends is split at the one and then at the other. -/
theorem splitWhere_or (p q : Char → Bool) : ∀ t : Text,
    splitWhere (fun c => p c || q c) t = (splitWhere q t).flatMap (splitWhere p)
  | [] => rfl
  | c :: t => by
    have ih := splitWhere_or p q t
    obtain ⟨piece, pieces, hpieces⟩ := List.exists_cons_of_ne_nil (splitWhere_ne_nil q t)
    obtain ⟨first, rest, hfirst⟩ := List.exists_cons_of_ne_nil (splitWhere_ne_nil p piece)
    rw [hpieces, List.flatMap_cons, hfirst] at ih
    rw [splitWhere, splitWhere, hpieces]
    by_cases hq : q c
    · simp only [hq, Bool.or_true, if_true, List.flatMap_cons, ih, hfirst]
      rfl
    · by_cases hp : p c
      · simp only [hq, hp, Bool.or_false, if_true, Bool.false_eq_true, if_false, List.flatMap_cons, ih, splitWhere,
          hfirst]
        rfl
      · simp only [hq, hp, Bool.or_false, Bool.false_eq_true, if_false, List.flatMap_cons, ih, splitWhere, hfirst]
        rfl

/-- Up to the first line with a carriage return, lines end with line feeds alone. -/
theorem take_prefix_splitLineEnds {t : Text} {n : Nat} (h : ∀ line ∈ (lines t).take n, '\r' ∉ line) :
    (lines t).take n <+: splitLineEnds t := by
  have hsplit : splitLineEnds t = (lines t).flatMap (splitWhere (· == '\r')) := splitWhere_or _ _ t
  have hsame : ((lines t).take n).flatMap (splitWhere (· == '\r')) = (lines t).take n := by
    have hone : ∀ line ∈ (lines t).take n, splitWhere (· == '\r') line = [line] := fun line hline =>
      splitWhere_of_all fun c hc => by simpa using fun heq : c = '\r' => h line hline (heq ▸ hc)
    rw [List.flatMap_congr hone, List.flatMap_singleton']
  refine ⟨((lines t).drop n).flatMap (splitWhere (· == '\r')), ?_⟩
  rw [hsplit]
  conv_lhs => rw [← hsame]
  rw [← List.flatMap_append, List.take_append_drop]

end Text

/-! ## The first line that has a part -/

namespace Position

theorem inLines?_line {part line : Text} : ∀ {ls : List Text} {n k : Nat}, ls[k]? = some line → part <:+: line →
    ∃ q, inLines? part n ls = some q ∧ q.line ≤ n + k ∧ (q.line = n + k ↔ ∀ before ∈ ls.take k, ¬part <:+: before)
  | first :: ls, n, k, hline, hpart => by
    rw [inLines?]
    cases hfirst : Text.indexOf? part first with
    | some i =>
      have hwithin : part <:+: first := Text.indexOf?_isSome.1 (by rw [hfirst]; rfl)
      refine ⟨_, rfl, Nat.le_add_right n k, ?_⟩
      cases k with
      | zero => simp
      | succ k => simp [hwithin]
    | none =>
      have hwithin : ¬part <:+: first := Text.indexOf?_eq_none.1 hfirst
      cases k with
      | zero => exact absurd (Option.some.inj hline ▸ hpart) hwithin
      | succ k =>
        obtain ⟨q, hq, hle, hiff⟩ := inLines?_line (n := n + 1) (k := k) hline hpart
        have hsum : n + 1 + k = n + (k + 1) := by omega
        rw [hsum] at hle hiff
        exact ⟨q, hq, hle, by rw [hiff, List.take_succ_cons, List.forall_mem_cons, and_iff_right hwithin]⟩

/-- **A part of a line is found on that line, or on the first line before it that has the part too.** -/
theorem ofPart?_line {t part line : Text} {k : Nat} (hline : (Text.lines t)[k]? = some line) (hpart : part <:+: line)
    (hreturn : ∀ before ∈ (Text.lines t).take (k + 1), '\r' ∉ before) :
    ∃ q, ofPart? t part = some q ∧ q.line ≤ k + 1 ∧
      (q.line = k + 1 ↔ ∀ before ∈ (Text.lines t).take k, ¬part <:+: before) := by
  obtain ⟨rest, hrest⟩ := Text.take_prefix_splitLineEnds hreturn
  have hlength : k < (Text.lines t).length := (List.getElem?_eq_some_iff.1 hline).1
  have hk : k < ((Text.lines t).take (k + 1)).length := by rw [List.length_take]; omega
  have hget : (splitLineEnds t)[k]? = some line := by
    rw [← hrest, List.getElem?_append_left hk, List.getElem?_take_of_lt (Nat.lt_succ_self k), hline]
  have htake : (splitLineEnds t).take k = (Text.lines t).take k := by
    rw [← hrest, List.take_append_of_le_length (Nat.le_of_lt hk), List.take_take, Nat.min_eq_left (Nat.le_succ k)]
  obtain ⟨q, hq, hle, hiff⟩ := inLines?_line (n := 1) hget hpart
  rw [Nat.add_comm 1 k] at hle hiff
  exact ⟨q, hq, hle, htake ▸ hiff⟩

end Position

/-! ## The lines of the source -/

namespace Text

theorem ne_nil_of_mem_joinedGroups : ∀ {ls group : List Text}, group ∈ joinedGroups ls → group ≠ []
  | [], _, h => by cases h
  | [line], _, h => by
    rw [joinedGroups_singleton] at h
    exact List.mem_singleton.1 h ▸ List.cons_ne_nil _ _
  | line :: next :: ls, group, h => by
    obtain ⟨first, groups, hgroups, -, ⟨-, hcons⟩ | ⟨-, hcons⟩⟩ := joinedGroups_cons line next ls
    · rw [hcons, ← hgroups] at h
      rcases List.mem_cons.1 h with rfl | h
      · exact List.cons_ne_nil _ _
      · exact ne_nil_of_mem_joinedGroups h
    · rw [hcons] at h
      rcases List.mem_cons.1 h with rfl | h
      · exact List.cons_ne_nil _ _
      · exact ne_nil_of_mem_joinedGroups (hgroups ▸ List.mem_cons_of_mem first h)

/-- The numbers, from 1, of the lines that are in the group `k`. -/
def groupNumbers (groups : List (List Text)) (k : Nat) : List Nat :=
  List.range' ((groups.take k).flatten.length + 1) (groups[k]?.getD []).length

/-- The numbers, from 1, of the lines of the source that make up the line `k` of the prepared text. -/
def headerLines (t : Text) (k : Nat) : List Nat := groupNumbers (joinedGroups (lines (replace comment? t))) k

/-- A prepared line has the lines of its group, and each of these is a part of the source's line of that number. -/
theorem forall₂_headerLines {t line : Text} {k : Nat} (h : (lines (bareText t))[k]? = some line) :
    ∃ group, line = eraseQuoted (joinText group) ∧
      List.Forall₂ (fun l piece => ∃ source, (lines t)[l - 1]? = some source ∧ piece.Sublist source) (headerLines t k)
        group := by
  rw [lines_bareText, List.getElem?_map, Option.map_eq_some_iff] at h
  obtain ⟨group, hgroup, rfl⟩ := h
  refine ⟨group, rfl, ?_⟩
  have hflatten := flatten_joinedGroups (lines (replace comment? t))
  have hsources := lines_replace_comment t
  unfold headerLines groupNumbers
  generalize joinedGroups (lines (replace comment? t)) = groups at hgroup hflatten
  rw [hgroup, Option.getD_some]
  obtain ⟨hk, hget⟩ := List.getElem?_eq_some_iff.1 hgroup
  have hsplit : (groups.take k).flatten ++ (group ++ (groups.drop (k + 1)).flatten) = lines (replace comment? t) := by
    rw [← hflatten, ← List.flatten_cons, ← hget, List.getElem_cons_drop, ← List.flatten_append, List.take_append_drop]
  refine List.forall₂_iff_get.2 ⟨List.length_range', fun i hi hi' => ?_⟩
  have hplace : (lines (replace comment? t))[(groups.take k).flatten.length + i]? = some (group.get ⟨i, hi'⟩) := by
    rw [← hsplit, List.getElem?_append_right (Nat.le_add_right _ _), Nat.add_sub_cancel_left,
      List.getElem?_append_left hi', List.get_eq_getElem, List.getElem?_eq_getElem hi']
  obtain ⟨hlt, hpiece⟩ := List.getElem?_eq_some_iff.1 hplace
  have hlt' : (groups.take k).flatten.length + i < (lines t).length := hsources.length_eq ▸ hlt
  refine ⟨(lines t)[(groups.take k).flatten.length + i], ?_, ?_⟩
  · have hnumber : (List.range' ((groups.take k).flatten.length + 1) group.length).get ⟨i, hi⟩ - 1 =
        (groups.take k).flatten.length + i := by
      rw [List.get_eq_getElem, List.getElem_range', Nat.one_mul, Nat.add_right_comm, Nat.add_sub_cancel]
    rw [hnumber, List.getElem?_eq_getElem hlt']
  · rw [← hpiece]
    exact (List.forall₂_iff_get.1 hsources).2 _ hlt hlt'

/-- Lists that are not empty have at least as many members together as there are lists, and exactly as many if each has
one. -/
theorem length_le_length_flatten {groups : List (List Text)} (h : ∀ group ∈ groups, group ≠ []) :
    groups.length ≤ groups.flatten.length ∧
      (groups.flatten.length = groups.length ↔ ∀ group ∈ groups, group.length = 1) := by
  induction groups with
  | nil => simp
  | cons group groups ih =>
    obtain ⟨hle, hiff⟩ := ih fun g hg => h g (List.mem_cons_of_mem group hg)
    have hpos := List.length_pos_of_ne_nil (h group List.mem_cons_self)
    rw [List.flatten_cons, List.length_append, List.length_cons, List.forall_mem_cons, ← hiff]
    omega

/-- **A line of the prepared text has the number of its first source line if and only if no lines before it were
joined**; else its number is smaller. -/
theorem mem_headerLines {t line : Text} {k l : Nat} (hline : (lines (bareText t))[k]? = some line) (hl : l ≤ k + 1) :
    l ∈ headerLines t k ↔ l = k + 1 ∧ ∀ j < k, (headerLines t j).length = 1 := by
  rw [lines_bareText, List.getElem?_map, Option.map_eq_some_iff] at hline
  obtain ⟨group, hgroup, -⟩ := hline
  have hne : ∀ g ∈ joinedGroups (lines (replace comment? t)), g ≠ [] := fun _ => ne_nil_of_mem_joinedGroups
  unfold headerLines
  generalize joinedGroups (lines (replace comment? t)) = groups at hgroup hne
  simp only [groupNumbers, List.length_range', List.mem_range'_1, hgroup, Option.getD_some]
  obtain ⟨hk, hget⟩ := List.getElem?_eq_some_iff.1 hgroup
  have hpos : 0 < group.length := List.length_pos_of_ne_nil (hne group (hget ▸ List.getElem_mem hk))
  obtain ⟨hle, hiff⟩ := length_le_length_flatten fun g hg => hne g ((List.take_prefix k groups).subset hg)
  rw [List.length_take_of_le (Nat.le_of_lt hk)] at hle hiff
  have hones : (∀ g ∈ groups.take k, g.length = 1) ↔ ∀ j < k, (groups[j]?.getD []).length = 1 := by
    constructor
    · intro h j hj
      have hj' : j < groups.length := Nat.lt_trans hj hk
      rw [List.getElem?_eq_getElem hj', Option.getD_some]
      exact h _ (List.mem_take_iff_getElem.2 ⟨j, by omega, rfl⟩)
    · intro h g hg
      obtain ⟨j, hj, rfl⟩ := List.mem_take_iff_getElem.1 hg
      have hone := h j (by omega)
      rwa [List.getElem?_eq_getElem (by omega), Option.getD_some] at hone
  rw [← hones, ← hiff]
  omega

end Text

end GameSource
