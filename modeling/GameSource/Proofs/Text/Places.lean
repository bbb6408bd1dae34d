import GameSource.Proofs.Text.LineEnds
import GameSource.Proofs.Text.Located
/-!
# Places of fragments and line ends

A fragment is placed at its leftmost occurrence on the first line that has it, or at column 0 of the last line
(`Position.ofPart_eq_iff`).  The lines counted there are the pieces between carriage returns and line feeds, so a line
end that is both counts twice (`Lined.splitLineEnds_eq`).  The column of a fragment does not depend on the line ends; its
line does where an end before it is both (`Position.ofPart_unified_iff`).
-/
namespace GameSource

/-! ## The leftmost occurrence -/

namespace Text

/-- Before the leftmost occurrence of `part` in a line stand `i` characters. -/
structure FirstAt (part line : Text) (i : Nat) : Prop where
  stands : ∃ before behind, line = before ++ part ++ behind ∧ before.length = i
  least : ∀ before behind, line = before ++ part ++ behind → i ≤ before.length

theorem FirstAt.unique {part line : Text} {i j : Nat} (hi : FirstAt part line i) (hj : FirstAt part line j) :
    i = j := by
  obtain ⟨before, behind, hline, rfl⟩ := hi.stands
  obtain ⟨before', behind', hline', rfl⟩ := hj.stands
  exact Nat.le_antisymm (hi.least _ _ hline') (hj.least _ _ hline)

theorem FirstAt.infix {part line : Text} {i : Nat} (h : FirstAt part line i) : part <:+: line := by
  obtain ⟨before, behind, hline, -⟩ := h.stands
  exact ⟨before, behind, hline.symm⟩

theorem firstAt_of_indexOf? {part : Text} : ∀ {line : Text} {i : Nat}, indexOf? part line = some i →
    FirstAt part line i
  | [], i, h => by
    rw [indexOf?] at h
    split at h
    · rename_i hpart
      obtain rfl := Option.some.inj h
      exact ⟨⟨[], [], by simp [List.isEmpty_iff.1 hpart], rfl⟩, fun _ _ _ => Nat.zero_le _⟩
    · cases h
  | c :: line, i, h => by
    rw [indexOf?] at h
    split at h
    · rename_i hhere
      obtain rfl := Option.some.inj h
      obtain ⟨behind, hbehind⟩ := Option.isSome_iff_exists.1 hhere
      exact ⟨⟨[], behind, after?_eq_some.1 hbehind, rfl⟩, fun _ _ _ => Nat.zero_le _⟩
    · rename_i hhere
      obtain ⟨j, hj, rfl⟩ := Option.map_eq_some_iff.1 h
      obtain ⟨⟨before, behind, hline, hlength⟩, hleast⟩ := firstAt_of_indexOf? hj
      refine ⟨⟨c :: before, behind, by rw [hline]; rfl, by rw [List.length_cons, hlength]⟩, fun before' behind' h' => ?_⟩
      cases before' with
      | nil =>
        have hsome : after? part (c :: line) = some behind' := after?_eq_some.2 h'
        rw [hsome] at hhere
        exact absurd rfl hhere
      | cons d before' => exact Nat.succ_le_succ (hleast before' behind' (List.cons.inj h').2)

theorem indexOf?_eq_some_iff {part line : Text} {i : Nat} : indexOf? part line = some i ↔ FirstAt part line i := by
  refine ⟨firstAt_of_indexOf?, fun h => ?_⟩
  obtain ⟨j, hj⟩ := Option.isSome_iff_exists.1 (indexOf?_isSome.2 h.infix)
  rw [hj, h.unique (firstAt_of_indexOf? hj)]

end Text

/-! ## The first line -/

/-- The place of `part` in lines: the leftmost occurrence on the first line that has it, and column 0 of the last line
if none has. -/
inductive Locates (part : Text) (ls : List Text) : Position → Prop
  | on {earlier later : List Text} {line : Text} {i : Nat} (hls : ls = earlier ++ line :: later)
      (hnone : ∀ before ∈ earlier, ¬part <:+: before) (hfirst : Text.FirstAt part line i) :
      Locates part ls ⟨earlier.length + 1, i + 1⟩
  | nowhere (hnone : ∀ line ∈ ls, ¬part <:+: line) : Locates part ls ⟨ls.length, 0⟩

theorem exists_locates (part : Text) (ls : List Text) : ∃ q, Locates part ls q := by
  induction ls with
  | nil => exact ⟨_, .nowhere fun _ h => by cases h⟩
  | cons line ls ih =>
    by_cases hline : part <:+: line
    · obtain ⟨i, hi⟩ := Option.isSome_iff_exists.1 (Text.indexOf?_isSome.2 hline)
      exact ⟨_, .on (List.nil_append _).symm (fun _ h => by cases h) (Text.firstAt_of_indexOf? hi)⟩
    · obtain ⟨q, hq⟩ := ih
      cases hq with
      | on hls hnone hfirst =>
        exact ⟨_, .on (congrArg (line :: ·) hls) (List.forall_mem_cons.2 ⟨hline, hnone⟩) hfirst⟩
      | nowhere hnone => exact ⟨_, .nowhere (List.forall_mem_cons.2 ⟨hline, hnone⟩)⟩

namespace Position

theorem inLines?_append {part : Text} {ls : List Text} (hnone : ∀ line ∈ ls, ¬part <:+: line) (n : Nat)
    (later : List Text) : inLines? part n (ls ++ later) = inLines? part (n + ls.length) later := by
  induction ls generalizing n with
  | nil => rfl
  | cons line ls ih =>
    obtain ⟨hline, hls⟩ := List.forall_mem_cons.1 hnone
    rw [List.cons_append, inLines?, Text.indexOf?_eq_none.2 hline]
    simp only
    rw [ih hls, List.length_cons, Nat.add_assoc, Nat.add_comm 1]

/-- **A fragment is placed where it stands first.** -/
theorem ofPart_eq_iff {t part : Text} {q : Position} : ofPart t part = q ↔ Locates part (splitLineEnds t) q := by
  have heq {q : Position} (h : Locates part (splitLineEnds t) q) : ofPart t part = q := by
    cases h with
    | @on earlier later line i hls hnone hfirst =>
      rw [ofPart, ofPart?, hls, inLines?_append hnone, inLines?, Text.indexOf?_eq_some_iff.2 hfirst, Nat.add_comm]
      rfl
    | nowhere hnone =>
      have hsearch := inLines?_append hnone 1 []
      rw [List.append_nil] at hsearch
      rw [ofPart, ofPart?, hsearch]
      rfl
  refine ⟨fun h => ?_, heq⟩
  obtain ⟨p, hp⟩ := exists_locates part (splitLineEnds t)
  rwa [← h, heq hp]

end Position

/-! ## Split at every character that ends a line -/

/-- A line and, behind it, the empty piece between the carriage return and the line feed of one end. -/
def piecesOf (l : Text × LineEnd) : List Text := if l.2 = .both then [l.1, []] else [l.1]

theorem mem_piecesOf {l : Text × LineEnd} {piece : Text} (h : piece ∈ piecesOf l) : piece = l.1 ∨ piece = [] := by
  unfold piecesOf at h
  split at h
  · simpa using h
  · exact .inl (List.mem_singleton.1 h)

theorem length_piecesOf (ended : List (Text × LineEnd)) :
    (ended.flatMap piecesOf).length = ended.length + (ended.map Prod.snd).count .both := by
  induction ended with
  | nil => rfl
  | cons l ended ih =>
    obtain ⟨line, e⟩ := l
    rw [List.flatMap_cons, List.length_append, ih, List.length_cons, List.map_cons, List.count_cons]
    cases e <;> simp [piecesOf] <;> omega

theorem splitLineEnds_line {line : Text} (h : IsLine line) : splitLineEnds line = [line] :=
  Text.splitWhere_of_all fun c hc => by simpa using h.ne hc

theorem splitLineEnds_append {line : Text} (h : IsLine line) {c : Char} (hc : c = '\r' ∨ c = '\n') (rest : Text) :
    splitLineEnds (line ++ c :: rest) = line :: splitLineEnds rest := by
  simp only [splitLineEnds, Text.splitWhere_eq]
  exact List.splitOnP_append_cons_of_forall_mem (fun d hd => by simpa using h.ne hd) c (by simpa using hc) rest

/-- **A text is split into its lines, with an empty piece behind each that ends with both.** -/
theorem Lined.splitLineEnds_eq {t last : Text} {ended : List (Text × LineEnd)} (h : Lined t ended last) :
    splitLineEnds t = ended.flatMap piecesOf ++ [last] := by
  induction h with
  | last hline => exact splitLineEnds_line hline
  | @ended line rest last e ended hline hend _ ih =>
    rw [List.flatMap_cons, List.append_assoc, ← ih]
    cases e with
    | feed => exact splitLineEnds_append hline (.inr rfl) rest
    | carriage => exact splitLineEnds_append hline (.inl rfl) rest
    | both =>
      have hfeed : splitLineEnds ([] ++ '\n' :: rest) = [] :: splitLineEnds rest :=
        splitLineEnds_append .nil (.inr rfl) rest
      exact (splitLineEnds_append hline (.inl rfl) ('\n' :: rest)).trans (congrArg (line :: ·) hfeed)

theorem Lined.splitLineEnds_unified {t last : Text} {ended : List (Text × LineEnd)} (h : Lined t ended last) :
    splitLineEnds (unifyLineEnds t) = ended.map Prod.fst ++ [last] := by
  rw [h.unified.splitLineEnds_eq, List.flatMap_map]
  exact congrArg (· ++ [last]) (List.flatMap_pure_eq_map ..)

/-! ## Places of the same fragment -/

section
variable {part last : Text} {ended : List (Text × LineEnd)}

/-- A part that is missing in some lines is not empty, so it is missing in the pieces of these lines. -/
theorem not_infix_piecesOf (h : ∀ line ∈ ended.map Prod.fst, ¬part <:+: line) :
    ∀ piece ∈ ended.flatMap piecesOf, ¬part <:+: piece := by
  intro piece hpiece hpart
  obtain ⟨l, hl, hpiece⟩ := List.mem_flatMap.1 hpiece
  have hline : ¬part <:+: l.1 := h l.1 (List.mem_map_of_mem hl)
  rcases mem_piecesOf hpiece with rfl | rfl
  · exact hline hpart
  · rw [List.infix_nil] at hpart
    exact hline (hpart ▸ List.nil_infix)

/-- The pieces of the lines before a line stand before that line. -/
theorem exists_later {earlier later : List Text} {line : Text}
    (h : ended.map Prod.fst ++ [last] = earlier ++ line :: later) :
    (ended.take earlier.length).length = earlier.length ∧ (ended.take earlier.length).map Prod.fst = earlier ∧
      ∃ later', ended.flatMap piecesOf ++ [last] = (ended.take earlier.length).flatMap piecesOf ++ line :: later' := by
  have hle : earlier.length ≤ ended.length := by
    have hlength := congrArg List.length h
    simp only [List.length_append, List.length_map, List.length_cons, List.length_nil] at hlength
    omega
  have htake : (ended.take earlier.length).length = earlier.length := List.length_take_of_le hle
  have hsplit : (ended.take earlier.length).map Prod.fst ++ ((ended.drop earlier.length).map Prod.fst ++ [last]) =
      earlier ++ line :: later := by
    rw [← List.append_assoc, ← List.map_append, List.take_append_drop, h]
  obtain ⟨hearlier, hbehind⟩ := List.append_inj hsplit (by rw [List.length_map, htake])
  refine ⟨htake, hearlier, ?_⟩
  have hpieces : ended.flatMap piecesOf ++ [last] = (ended.take earlier.length).flatMap piecesOf ++
      ((ended.drop earlier.length).flatMap piecesOf ++ [last]) := by
    rw [← List.append_assoc, ← List.flatMap_append, List.take_append_drop]
  rw [hpieces]
  -- the line is the first of those that are left, and a line is the first of its pieces
  cases hdrop : ended.drop earlier.length with
  | nil =>
    rw [hdrop] at hbehind
    obtain ⟨rfl, -⟩ := List.cons.inj hbehind
    exact ⟨[], rfl⟩
  | cons l behind =>
    rw [hdrop] at hbehind
    obtain ⟨rfl, -⟩ := List.cons.inj hbehind
    have hfirst : ∃ pieces, piecesOf l = l.1 :: pieces := by
      unfold piecesOf
      split <;> exact ⟨_, rfl⟩
    obtain ⟨pieces, hpieces⟩ := hfirst
    exact ⟨pieces ++ (behind.flatMap piecesOf ++ [last]), by rw [List.flatMap_cons, hpieces]; simp⟩

/-- **Among the pieces of lines a fragment is as many lines further as ends before it are both.** -/
theorem Locates.pieces {q : Position} (h : Locates part (ended.map Prod.fst ++ [last]) q) :
    Locates part (ended.flatMap piecesOf ++ [last])
      ⟨q.line + ((ended.take (q.line - 1)).map Prod.snd).count .both, q.column⟩ := by
  cases h with
  | @on earlier later line i hls hnone hfirst =>
    obtain ⟨hlength, hearlier, later', hpieces⟩ := exists_later hls
    have hplace := Locates.on hpieces (not_infix_piecesOf (hearlier.symm ▸ hnone)) hfirst
    rwa [length_piecesOf, hlength, Nat.add_right_comm] at hplace
  | nowhere hnone =>
    obtain ⟨hended, hlast⟩ := List.forall_mem_append.1 hnone
    have hplace := Locates.nowhere (List.forall_mem_append.2 ⟨not_infix_piecesOf hended, hlast⟩)
    rw [List.length_append, length_piecesOf, Nat.add_right_comm] at hplace
    rwa [List.length_append, List.length_map, List.length_singleton, Nat.add_sub_cancel, List.take_length]

end

namespace Position

/-- **The place of a fragment depends on how lines end only if an end before it is both.**  A text is lines with their
ends.  Once line ends are uniform, a fragment is placed at its leftmost occurrence on the first of these lines that has
it, or at column 0 of the last of them if none has it.  In the text as it is, it is placed at the same column, as many
lines further as ends before that line are a carriage return and a line feed; so at the same place if and only if there
is no such end. -/
theorem ofPart_unified_iff (t part : Text) :
    ∃ ended last, Lined t ended last ∧
      let q := ofPart (unifyLineEnds t) part
      let ends := (ended.take (q.line - 1)).map Prod.snd
      Locates part (ended.map Prod.fst ++ [last]) q ∧ ofPart t part = ⟨q.line + ends.count .both, q.column⟩ ∧
        (ofPart t part = q ↔ .both ∉ ends) := by
  obtain ⟨ended, last, h⟩ := exists_lined t
  refine ⟨ended, last, h, ?_⟩
  intro q ends
  have hq : Locates part (ended.map Prod.fst ++ [last]) q := h.splitLineEnds_unified ▸ ofPart_eq_iff.1 rfl
  have hplace : ofPart t part = ⟨q.line + ends.count .both, q.column⟩ :=
    ofPart_eq_iff.2 (h.splitLineEnds_eq ▸ hq.pieces)
  refine ⟨hq, hplace, ?_⟩
  rw [hplace]
  constructor
  · intro heq
    have hline : q.line + ends.count .both = q.line := congrArg Position.line heq
    exact List.count_eq_zero.1 (by omega)
  · intro hnone
    rw [List.count_eq_zero.2 hnone, Nat.add_zero]

/-- A line end that is both puts the fragment one line further. -/
theorem ofPart_unified_both : IsLine "b".toList ∧ ofPart (unifyLineEnds "a\r\nb".toList) "b".toList = ⟨2, 1⟩ ∧
    ofPart "a\r\nb".toList "b".toList = ⟨3, 1⟩ := ⟨by decide, rfl, rfl⟩

end Position

end GameSource
