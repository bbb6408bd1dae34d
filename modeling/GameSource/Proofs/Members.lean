import Mathlib.Control.Monad.Basic
import Mathlib.Data.List.Forall2
/-!
# Lists that are read member by member

Reading a list gives the list of what its members are read as (`mapM_eq_ok_iff`).  It is stopped by the first member that
cannot be read, and by nothing else (`mapM_eq_error_iff`).
-/
namespace GameSource

variable {ε α β : Type} {f : α → Except ε β}

theorem bind_eq_ok {γ : Type} {x : Except ε γ} {g : γ → Except ε β} {b : β} :
    (x >>= g) = .ok b ↔ ∃ a, x = .ok a ∧ g a = .ok b := by
  cases x <;> simp [bind, Except.bind]

/-- What members are read as does not depend on how other things are read. -/
theorem mapM_congr {g : α → Except ε β} {xs : List α} (h : ∀ x ∈ xs, f x = g x) : xs.mapM f = xs.mapM g := by
  induction xs with
  | nil => rfl
  | cons x xs ih =>
    obtain ⟨hx, hxs⟩ := List.forall_mem_cons.1 h
    rw [List.mapM_cons, List.mapM_cons, hx, ih hxs]

/-- **A list is read as the list of what its members are read as.** -/
theorem mapM_eq_ok_iff : ∀ {xs : List α} {ys : List β},
    xs.mapM f = .ok ys ↔ List.Forall₂ (fun x y => f x = .ok y) xs ys
  | [], ys => by
    rw [List.mapM_nil, List.forall₂_nil_left_iff]
    exact ⟨fun h => (Except.ok.inj h).symm, fun h => congrArg _ h.symm⟩
  | x :: xs, ys => by
    rw [List.mapM_cons, List.forall₂_cons_left_iff, bind_eq_ok]
    refine exists_congr fun y => ?_
    rw [bind_eq_ok]
    constructor
    · rintro ⟨hy, zs, hzs, h⟩
      exact ⟨zs, hy, mapM_eq_ok_iff.1 hzs, (Except.ok.inj h).symm⟩
    · rintro ⟨zs, hy, hzs, rfl⟩
      exact ⟨hy, zs, mapM_eq_ok_iff.2 hzs, rfl⟩

theorem exists_of_mem_mapM {xs : List α} {ys : List β} (h : xs.mapM f = .ok ys) : ∀ y ∈ ys, ∃ x ∈ xs, f x = .ok y := by
  induction mapM_eq_ok_iff.1 h with
  | nil => simp
  | cons hx _ ih =>
    intro y hy
    rcases List.mem_cons.1 hy with rfl | hy
    · exact ⟨_, List.mem_cons_self, hx⟩
    · obtain ⟨x, hmem, hfx⟩ := ih (mapM_eq_ok_iff.2 ‹_›) y hy
      exact ⟨x, List.mem_cons_of_mem _ hmem, hfx⟩

/-- **The first member that cannot be read is what stops the reading.** -/
theorem mapM_eq_error_iff {e : ε} : ∀ {xs : List α}, xs.mapM f = .error e ↔
    ∃ before x after, xs = before ++ x :: after ∧ (∀ w ∈ before, ∃ b, f w = .ok b) ∧ f x = .error e
  | [] => by
    rw [List.mapM_nil]
    exact ⟨fun h => (by cases h), fun ⟨before, x, after, h, _⟩ => by cases before <;> cases h⟩
  | x :: xs => by
    rw [List.mapM_cons]
    cases hx : f x with
    | error e' =>
      constructor
      · rintro ⟨⟩
        exact ⟨[], x, xs, rfl, by simp, hx⟩
      · rintro ⟨before, y, after, h, hbefore, hy⟩
        cases before with
        | nil =>
          cases h
          cases hx.symm.trans hy
          rfl
        | cons w before =>
          obtain ⟨rfl, rfl⟩ := List.cons.inj h
          obtain ⟨b, hb⟩ := hbefore x List.mem_cons_self
          cases hx.symm.trans hb
    | ok y =>
      have hrest : (do
          let ys ← xs.mapM f
          pure (y :: ys) : Except ε (List β)) = .error e ↔ xs.mapM f = .error e := by
        cases xs.mapM f <;> simp [bind, Except.bind, pure, Except.pure]
      refine hrest.trans (mapM_eq_error_iff.trans ?_)
      constructor
      · rintro ⟨before, w, after, rfl, hbefore, hw⟩
        exact ⟨x :: before, w, after, rfl, List.forall_mem_cons.2 ⟨⟨y, hx⟩, hbefore⟩, hw⟩
      · rintro ⟨before, w, after, h, hbefore, hw⟩
        cases before with
        | nil =>
          cases h
          cases hx.symm.trans hw
        | cons v before =>
          obtain ⟨rfl, rfl⟩ := List.cons.inj h
          exact ⟨before, w, after, rfl, (List.forall_mem_cons.1 hbefore).2, hw⟩

theorem exists_mapM_eq_ok {xs : List α} (h : ∀ x ∈ xs, ∃ y, f x = .ok y) : ∃ ys, xs.mapM f = .ok ys := by
  cases hread : xs.mapM f with
  | ok ys => exact ⟨ys, rfl⟩
  | error e =>
    obtain ⟨before, x, after, rfl, -, hx⟩ := mapM_eq_error_iff.1 hread
    obtain ⟨y, hy⟩ := h x (by simp)
    cases hx.symm.trans hy

end GameSource
