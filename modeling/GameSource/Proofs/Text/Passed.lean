import GameSource.Text.Scan
/-!
# A scan part by part

A scan goes over the parts of a text from left to right: over a part at no place of which the recognizer reads anything
(`scanBehind_passed`), and behind a part that it reads (`scanBehind_read`).
-/
namespace GameSource

theorem getLast?_cons_or {α : Type} (a : α) (as : List α) (before : Option α) :
    (a :: as).getLast?.or before = as.getLast?.or (some a) := by
  rw [List.getLast?_cons]
  cases as.getLast? <;> rfl

variable {α : Type} {r : Recognizer α} {before : Option Char}

/-- What is found in a text that stands behind a character or at the beginning. -/
def scanBehind (r : Recognizer α) (before : Option Char) (t : Text) : List α := (scanFrom r 0 0 before t).map Prod.snd

theorem scan_eq (r : Recognizer α) (t : Text) : scan r t = scanBehind r none t := rfl

/-- Where the count of characters starts makes no difference to the pieces. -/
theorem map_snd_scanFrom (r : Recognizer α) : ∀ (t : Text) (skip i j : Nat) (before : Option Char),
    (scanFrom r skip i before t).map Prod.snd = (scanFrom r skip j before t).map Prod.snd
  | [], skip, _, _, _ => by cases skip <;> rfl
  | c :: t, skip + 1, i, j, _ => map_snd_scanFrom r t skip (i + 1) (j + 1) (some c)
  | c :: t, 0, i, j, before => by
    rw [scanFrom, scanFrom]
    split
    · exact map_snd_scanFrom r t 0 (i + 1) (j + 1) (some c)
    · rw [List.map_cons, List.map_cons, map_snd_scanFrom r t _ (i + 1) (j + 1) (some c)]

theorem scanBehind_skip {c : Char} {t : Text} (h : r before (c :: t) = none) :
    scanBehind r before (c :: t) = scanBehind r (some c) t := by
  unfold scanBehind
  rw [scanFrom_keep r h]
  exact map_snd_scanFrom r t 0 1 0 (some c)

/-- **Behind a part that is read** the scan goes on with the rest. -/
theorem scanBehind_read {a : α} {p rest : Text} (hne : p ≠ []) (h : r before (p ++ rest) = some (a, rest)) :
    scanBehind r before (p ++ rest) = a :: scanBehind r (p.getLast?.or before) rest := by
  obtain ⟨c, p, rfl⟩ := List.exists_cons_of_ne_nil hne
  unfold scanBehind
  rw [scanFrom_accept r h, List.map_cons, map_snd_scanFrom r rest 0 _ 0]

theorem head?_scanBehind_read {a : α} {c : Char} {t rest : Text} (h : r before (c :: t) = some (a, rest)) :
    (scanBehind r before (c :: t)).head? = some a := by
  unfold scanBehind
  rw [scanFrom, h]
  rfl

/-- **Over a part where nothing is read** the scan goes on with the rest. -/
theorem scanBehind_passed {rest : Text} : ∀ {p : Text} {before : Option Char},
    (∀ s q, p = s ++ q → q ≠ [] → r (s.getLast?.or before) (q ++ rest) = none) →
    scanBehind r before (p ++ rest) = scanBehind r (p.getLast?.or before) rest
  | [], _, _ => rfl
  | c :: p, before, h => by
    have hhead : r before (c :: (p ++ rest)) = none := h [] (c :: p) rfl (by simp)
    rw [List.cons_append, scanBehind_skip hhead, getLast?_cons_or]
    refine scanBehind_passed fun s q hsplit hne => ?_
    rw [← getLast?_cons_or c s before]
    exact h (c :: s) q (by rw [hsplit, List.cons_append]) hne

theorem scanBehind_class {p rest : Text} (h : ∀ c ∈ p, ∀ before t, r before (c :: t) = none) :
    scanBehind r before (p ++ rest) = scanBehind r (p.getLast?.or before) rest := by
  refine scanBehind_passed fun s q hsplit hne => ?_
  obtain ⟨c, q, rfl⟩ := List.exists_cons_of_ne_nil hne
  exact h c (by simp [hsplit]) _ _

end GameSource
