import GameSource.Text.Scan
import Mathlib.Data.Nat.Find
/-!
# What a scan finds

A scan finds pieces from left to right, each where the recognizer reads it (`readAt_of_mem_scanAt`), and none over
another (`scanAt_apart`).  It finds a piece unless it finds one that begins before it and reaches over its place
(`mem_scanAt_or_reached`).  So the first piece that a scan finds is
the leftmost that there is (`head?_scanAt`), and a recognizer that reads nothing within its own pieces is found wherever
it reads (`mem_scanAt_iff`).
-/
namespace GameSource

variable {α : Type}

/-- What a recognizer reads at a place of a text, and the rest behind it. -/
def readAt (r : Recognizer α) (t : Text) (i : Nat) : Option (α × Text) := r (t.take i).getLast? (t.drop i)

theorem readAt_append (r : Recognizer α) (before t : Text) :
    readAt r (before ++ t) before.length = r before.getLast? t := by
  rw [readAt, List.take_left, List.drop_left]

/-- A place in a text parts it into what stands before it and what is read at it. -/
theorem readAt_eq_some {r : Recognizer α} {t rest : Text} {i : Nat} {a : α} (hi : i ≤ t.length) :
    readAt r t i = some (a, rest) ↔
      ∃ before behind, t = before ++ behind ∧ before.length = i ∧ r before.getLast? behind = some (a, rest) := by
  constructor
  · intro h
    exact ⟨t.take i, t.drop i, (List.take_append_drop i t).symm, List.length_take_of_le hi, h⟩
  · rintro ⟨before, behind, rfl, rfl, h⟩
    rw [readAt_append, h]

/-! ## Pieces from left to right -/

section
variable {r : Recognizer α}

theorem le_of_mem_scanFrom {e : Nat × α} : ∀ {t : Text} {skip i : Nat} {before : Option Char},
    e ∈ scanFrom r skip i before t → i + skip ≤ e.1
  | [], skip, i, before, h => by cases skip <;> cases h
  | c :: cs, skip + 1, i, before, h => by
    have hle := le_of_mem_scanFrom (t := cs) h
    omega
  | c :: cs, 0, i, before, h => by
    rw [scanFrom] at h
    split at h
    · have hle := le_of_mem_scanFrom h
      omega
    · rcases List.mem_cons.1 h with rfl | h
      · exact Nat.le_refl _
      · have hle := le_of_mem_scanFrom h
        omega

theorem pairwise_scanFrom : ∀ (t : Text) (skip i : Nat) (before : Option Char),
    (scanFrom r skip i before t).Pairwise fun e e' => e.1 < e'.1
  | [], skip, i, before => by cases skip <;> exact .nil
  | c :: cs, skip + 1, i, before => pairwise_scanFrom cs skip (i + 1) (some c)
  | c :: cs, 0, i, before => by
    rw [scanFrom]
    split
    · exact pairwise_scanFrom cs 0 (i + 1) (some c)
    · refine .cons (fun e he => ?_) (pairwise_scanFrom cs _ (i + 1) (some c))
      have hle := le_of_mem_scanFrom he
      omega

theorem readAt_of_mem_scanFrom {e : Nat × α} : ∀ (before t : Text) (skip : Nat),
    e ∈ scanFrom r skip before.length before.getLast? t →
    e.1 < (before ++ t).length ∧ ∃ rest, readAt r (before ++ t) e.1 = some (e.2, rest)
  | before, [], skip, h => by cases skip <;> cases h
  | before, c :: cs, skip + 1, h => by
    have hnext := readAt_of_mem_scanFrom (before ++ [c]) cs skip (by simpa [scanFrom] using h)
    simpa using hnext
  | before, c :: cs, 0, h => by
    have hnext {skip : Nat} (h : e ∈ scanFrom r skip (before.length + 1) (some c) cs) :
        e.1 < (before ++ c :: cs).length ∧ ∃ rest, readAt r (before ++ c :: cs) e.1 = some (e.2, rest) := by
      have hlater := readAt_of_mem_scanFrom (before ++ [c]) cs skip (by simpa using h)
      simpa using hlater
    rw [scanFrom] at h
    split at h
    · exact hnext h
    · rename_i a rest hread
      rcases List.mem_cons.1 h with rfl | h
      · refine ⟨by simp, rest, ?_⟩
        rw [readAt_append, hread]
      · exact hnext h

/-- The piece that begins at `j` is read there and reaches over the place `i`. -/
def ReachesOver (r : Recognizer α) (t : Text) (j i : Nat) (b : α) : Prop :=
  j < i ∧ ∃ behind, readAt r t j = some (b, behind) ∧ i + behind.length < t.length

/-- **What is read at a place is found there**, or a piece is found that reaches over it. -/
theorem mem_scanFrom_or_reached {i : Nat} {a : α} {rest : Text} : ∀ (before t : Text) (skip : Nat),
    before.length + skip ≤ i → i < (before ++ t).length → readAt r (before ++ t) i = some (a, rest) →
    (i, a) ∈ scanFrom r skip before.length before.getLast? t ∨
      ∃ e ∈ scanFrom r skip before.length before.getLast? t, ReachesOver r (before ++ t) e.1 i e.2
  | before, [], skip, hle, hlt, _ => by
    rw [List.append_nil] at hlt
    omega
  | before, c :: cs, skip + 1, hle, hlt, hread => by
    have hlength : (before ++ [c]).length = before.length + 1 := by simp
    have hnext := mem_scanFrom_or_reached (before ++ [c]) cs skip (by omega : _ ≤ i) (by simpa using hlt)
      (by simpa using hread)
    simpa [scanFrom] using hnext
  | before, c :: cs, 0, hle, hlt, hread => by
    have hnext {skip : Nat} (hskip : before.length + 1 + skip ≤ i) :
        (i, a) ∈ scanFrom r skip (before.length + 1) (some c) cs ∨
          ∃ e ∈ scanFrom r skip (before.length + 1) (some c) cs, ReachesOver r (before ++ c :: cs) e.1 i e.2 := by
      have hlength : (before ++ [c]).length = before.length + 1 := by simp
      have hlater := mem_scanFrom_or_reached (before ++ [c]) cs skip (by omega : _ ≤ i) (by simpa using hlt)
        (by simpa using hread)
      simpa using hlater
    rw [scanFrom]
    by_cases hi : i = before.length
    · subst hi
      rw [readAt_append] at hread
      simp only [hread]
      exact .inl List.mem_cons_self
    · cases hhere : r before.getLast? (c :: cs) with
      | none => exact hnext (by omega)
      | some found =>
        obtain ⟨b, behind⟩ := found
        by_cases hover : i + behind.length < (before ++ c :: cs).length
        · exact .inr ⟨_, List.mem_cons_self, by omega, behind, by rw [readAt_append, hhere], hover⟩
        · simp only [List.length_append, List.length_cons] at hover
          refine (hnext (by omega)).imp (List.mem_cons_of_mem _) ?_
          rintro ⟨e, he, hreach⟩
          exact ⟨e, List.mem_cons_of_mem _ he, hreach⟩

/-- **Pieces that are found do not overlap.** -/
theorem scanFrom_apart {e e' : Nat × α} : ∀ (before t : Text) (skip : Nat),
    e ∈ scanFrom r skip before.length before.getLast? t → e' ∈ scanFrom r skip before.length before.getLast? t →
    ¬ ReachesOver r (before ++ t) e.1 e'.1 e.2
  | before, [], skip, h, _ => by cases skip <;> cases h
  | before, c :: cs, skip + 1, h, h' => by
    have hnext := scanFrom_apart (before ++ [c]) cs skip (by simpa [scanFrom] using h) (by simpa [scanFrom] using h')
    simpa using hnext
  | before, c :: cs, 0, h, h' => by
    have hnext {skip : Nat} (h : e ∈ scanFrom r skip (before.length + 1) (some c) cs)
        (h' : e' ∈ scanFrom r skip (before.length + 1) (some c) cs) : ¬ ReachesOver r (before ++ c :: cs) e.1 e'.1 e.2 := by
      have hlater := scanFrom_apart (before ++ [c]) cs skip (by simpa using h) (by simpa using h')
      simpa using hlater
    rw [scanFrom] at h h'
    cases hhere : r before.getLast? (c :: cs) with
    | none =>
      rw [hhere] at h h'
      exact hnext h h'
    | some found =>
      obtain ⟨b, behind⟩ := found
      rw [hhere] at h h'
      rcases List.mem_cons.1 h with rfl | h
      · rintro ⟨hlt, rest, hread, hover⟩
        rw [readAt_append, hhere] at hread
        obtain ⟨-, rfl⟩ := Prod.mk.inj (Option.some.inj hread)
        rcases List.mem_cons.1 h' with rfl | h'
        · exact Nat.lt_irrefl _ hlt
        · -- The scan goes on behind the piece.
          have hle := le_of_mem_scanFrom h'
          simp only [List.length_append, List.length_cons] at hover
          omega
      · rcases List.mem_cons.1 h' with rfl | h'
        · have hle := le_of_mem_scanFrom h
          exact fun hreach => absurd hreach.1 (by simp only; omega)
        · exact hnext h h'

end

/-! ## A scan of a whole text -/

variable {r : Recognizer α} {t : Text}

theorem pairwise_scanAt (r : Recognizer α) (t : Text) : (scanAt r t).Pairwise fun e e' => e.1 < e'.1 :=
  pairwise_scanFrom t 0 0 none

theorem readAt_of_mem_scanAt {e : Nat × α} (h : e ∈ scanAt r t) :
    e.1 < t.length ∧ ∃ rest, readAt r t e.1 = some (e.2, rest) := by
  exact readAt_of_mem_scanFrom [] t 0 h

theorem mem_scanAt_or_reached {i : Nat} {a : α} {rest : Text} (hi : i < t.length)
    (h : readAt r t i = some (a, rest)) :
    (i, a) ∈ scanAt r t ∨ ∃ e ∈ scanAt r t, ReachesOver r t e.1 i e.2 :=
  mem_scanFrom_or_reached [] t 0 (Nat.zero_le i) hi h

theorem scanAt_apart {e e' : Nat × α} (h : e ∈ scanAt r t) (h' : e' ∈ scanAt r t) : ¬ ReachesOver r t e.1 e'.1 e.2 :=
  scanFrom_apart [] t 0 h h'

/-- **A scan finds a piece** if no piece that begins before it reaches into it. -/
theorem mem_scanAt_of_readAt {i : Nat} {a : α} {rest : Text} (hi : i < t.length) (h : readAt r t i = some (a, rest))
    (hfree : ∀ j b behind, j < i → readAt r t j = some (b, behind) → t.length ≤ i + behind.length) :
    (i, a) ∈ scanAt r t := by
  rcases mem_scanAt_or_reached hi h with hmem | ⟨e, -, hlt, behind, hread, hover⟩
  · exact hmem
  · exact absurd hover (Nat.not_lt.2 (hfree e.1 e.2 behind hlt hread))

/-- Where something is read there is a leftmost place at which something is. -/
theorem exists_leftmost {i : Nat} (h : readAt r t i ≠ none) :
    ∃ j ≤ i, (∃ a rest, readAt r t j = some (a, rest)) ∧ ∀ k < j, readAt r t k = none := by
  classical
  have hsome : ∃ j, readAt r t j ≠ none := ⟨i, h⟩
  obtain ⟨⟨a, rest⟩, hread⟩ := Option.ne_none_iff_exists'.1 (Nat.find_spec hsome)
  exact ⟨Nat.find hsome, Nat.find_min' hsome h, ⟨a, rest, hread⟩, fun k hk => not_not.1 (Nat.find_min hsome hk)⟩

/-- **The first piece that a scan finds is the leftmost one.** -/
theorem head?_scanAt {i : Nat} {a : α} : (scanAt r t).head? = some (i, a) ↔
    i < t.length ∧ (∃ rest, readAt r t i = some (a, rest)) ∧ ∀ j < i, readAt r t j = none := by
  have hfirst {i : Nat} {a : α} {rest : Text} (hi : i < t.length) (h : readAt r t i = some (a, rest))
      (hnone : ∀ j < i, readAt r t j = none) : (scanAt r t).head? = some (i, a) := by
    have hmem : (i, a) ∈ scanAt r t := mem_scanAt_of_readAt hi h fun j b behind hj hb => by
      rw [hnone j hj] at hb
      cases hb
    obtain ⟨e, es, hes⟩ := List.exists_cons_of_ne_nil (List.ne_nil_of_mem hmem)
    have hsorted := pairwise_scanAt r t
    rw [hes] at hmem hsorted ⊢
    rcases List.mem_cons.1 hmem with rfl | hmem
    · rfl
    · -- What would stand in front begins before the leftmost piece.
      have hlt := (List.pairwise_cons.1 hsorted).1 _ hmem
      obtain ⟨-, rest', hread⟩ := readAt_of_mem_scanAt (hes ▸ List.mem_cons_self : e ∈ scanAt r t)
      rw [hnone e.1 hlt] at hread
      cases hread
  constructor
  · intro h
    have hmem : (i, a) ∈ scanAt r t := List.mem_of_head? h
    obtain ⟨hi, rest, hread⟩ := readAt_of_mem_scanAt hmem
    refine ⟨hi, ⟨rest, hread⟩, fun j hj => Classical.byContradiction fun hne => ?_⟩
    obtain ⟨k, hk, ⟨b, behind, hb⟩, hnone⟩ := exists_leftmost hne
    have hleft := hfirst (by omega) hb hnone
    rw [h] at hleft
    have heq : i = k := congrArg Prod.fst (Option.some.inj hleft)
    omega
  · rintro ⟨hi, ⟨rest, hread⟩, hnone⟩
    exact hfirst hi hread hnone

theorem scanAt_eq_nil : scanAt r t = [] ↔ ∀ i < t.length, readAt r t i = none := by
  constructor
  · intro h i hi
    by_contra hne
    obtain ⟨j, hj, ⟨a, rest, hread⟩, hnone⟩ := exists_leftmost hne
    have hhead := head?_scanAt.2 ⟨Nat.lt_of_le_of_lt hj hi, ⟨rest, hread⟩, hnone⟩
    rw [h] at hhead
    cases hhead
  · intro h
    refine List.eq_nil_iff_forall_not_mem.2 fun e he => ?_
    obtain ⟨hi, rest, hread⟩ := readAt_of_mem_scanAt he
    rw [h e.1 hi] at hread
    cases hread

/-- Nothing is read within a piece. -/
def ReadsApart (r : Recognizer α) (t : Text) : Prop :=
  ∀ i j a rest, readAt r t i = some (a, rest) → i < j → j + rest.length < t.length → readAt r t j = none

/-- **What reads nothing within its own pieces is found wherever it reads.** -/
theorem mem_scanAt_iff (h : ReadsApart r t) {i : Nat} {a : α} :
    (i, a) ∈ scanAt r t ↔ i < t.length ∧ ∃ rest, readAt r t i = some (a, rest) := by
  constructor
  · exact fun hmem => readAt_of_mem_scanAt hmem
  · rintro ⟨hi, rest, hread⟩
    refine mem_scanAt_of_readAt hi hread fun j b behind hj hb => ?_
    by_contra hlt
    rw [h j i b behind hb hj (by omega)] at hread
    cases hread

/-- The first piece with a property is left of all others with it. -/
theorem find?_scanAt {p : Nat × α → Bool} {e : Nat × α} (h : (scanAt r t).find? p = some e) :
    e ∈ scanAt r t ∧ p e ∧ ∀ e' ∈ scanAt r t, p e' → e.1 ≤ e'.1 := by
  obtain ⟨hp, before, behind, hsplit, hbefore⟩ := List.find?_eq_some_iff_append.1 h
  refine ⟨List.mem_of_find?_eq_some h, hp, fun e' he' hpe' => ?_⟩
  have hsorted := pairwise_scanAt r t
  rw [hsplit] at he' hsorted
  rcases List.mem_append.1 he' with hmem | hmem
  · have hnot := hbefore e' hmem
    rw [hpe'] at hnot
    cases hnot
  · rcases List.mem_cons.1 hmem with rfl | hmem
    · exact Nat.le_refl _
    · exact Nat.le_of_lt ((List.pairwise_cons.1 (List.pairwise_append.1 hsorted).2.1).1 e' hmem)

end GameSource
