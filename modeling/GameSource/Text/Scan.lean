import GameSource.Text.Basic
/-!
# Scanning a text for what a recognizer accepts

A `Recognizer` looks at the head of a text.  `scan` tries it at every place from left to right and goes on behind each
piece that it accepts, so the pieces found do not overlap; `replace` puts a text in the place of each.  Both are
structural recursions: behind a piece they count down the characters that belong to it (`scanFrom_skip`,
`replaceFrom_skip` say that this is the same as going on with the rest).
-/
namespace GameSource

/-- Sees the character before the text and the text; answers with what it read and the rest of the text. -/
abbrev Recognizer (α : Type) := Option Char → Text → Option (α × Text)

variable {α : Type}

/-! ## Finding pieces -/

/-- The pieces found from a place on, each with the number of characters before it. -/
def scanFrom (r : Recognizer α) : (skip offset : Nat) → Option Char → Text → List (Nat × α)
  | _, _, _, [] => []
  | skip + 1, i, _, c :: cs => scanFrom r skip (i + 1) (some c) cs
  | 0, i, before, c :: cs =>
    match r before (c :: cs) with
    | none => scanFrom r 0 (i + 1) (some c) cs
    | some (a, rest) => (i, a) :: scanFrom r (cs.length - rest.length) (i + 1) (some c) cs

/-- The pieces of a text that `r` accepts, leftmost first, each with the number of characters before it. -/
def scanAt (r : Recognizer α) (t : Text) : List (Nat × α) := scanFrom r 0 0 none t

def scan (r : Recognizer α) (t : Text) : List α := (scanAt r t).map Prod.snd

theorem scanFrom_skip (r : Recognizer α) :
    ∀ (p rest : Text) (i : Nat) (before : Option Char),
      scanFrom r p.length i before (p ++ rest) = scanFrom r 0 (i + p.length) (p.getLast?.or before) rest
  | [], rest, i, before => by simp
  | c :: cs, rest, i, before => by
    simp only [List.length_cons, List.cons_append, scanFrom]
    rw [scanFrom_skip r cs rest (i + 1) (some c)]
    congr 1
    · omega
    · cases h : cs.getLast? <;> simp [List.getLast?_cons, h]

/-- **Behind a piece, scanning goes on with the rest.** -/
theorem scanFrom_accept (r : Recognizer α) {a : α} {c : Char} {p rest : Text} {i : Nat} {before : Option Char}
    (h : r before (c :: p ++ rest) = some (a, rest)) :
    scanFrom r 0 i before (c :: p ++ rest) =
      (i, a) :: scanFrom r 0 (i + (p.length + 1)) ((c :: p).getLast?.or before) rest := by
  rw [List.cons_append] at h ⊢
  rw [scanFrom, h]
  simp only [List.length_append, Nat.add_sub_cancel]
  rw [scanFrom_skip]
  congr 1
  congr 1
  · omega
  · cases h : p.getLast? <;> simp [List.getLast?_cons, h]

theorem scanFrom_keep (r : Recognizer α) {c : Char} {cs : Text} {before : Option Char} (h : r before (c :: cs) = none)
    (i : Nat) : scanFrom r 0 i before (c :: cs) = scanFrom r 0 (i + 1) (some c) cs := by
  rw [scanFrom, h]

/-- A piece is found, and then those of the rest, whose head no piece begins with. -/
theorem scanFrom_piece (r : Recognizer α) {a : α} {p : Text} {d : Char} {rest : Text} {before : Option Char}
    (hp : p ≠ []) (h : r before (p ++ d :: rest) = some (a, d :: rest)) (hd : ∀ before, r before (d :: rest) = none)
    (i : Nat) : ∃ j, scanFrom r 0 i before (p ++ d :: rest) = (i, a) :: scanFrom r 0 j (some d) rest := by
  obtain ⟨c, p, rfl⟩ := List.exists_cons_of_ne_nil hp
  exact ⟨_, by rw [scanFrom_accept r h, scanFrom_keep r (hd _)]⟩

/-! ## Replacing pieces -/

/-- The text with each piece that `r` accepts replaced by what `r` answers, from a place on. -/
def replaceFrom (r : Text → Option (Text × Text)) : (skip : Nat) → Text → Text
  | _, [] => []
  | skip + 1, _ :: cs => replaceFrom r skip cs
  | 0, c :: cs =>
    match r (c :: cs) with
    | none => c :: replaceFrom r 0 cs
    | some (out, rest) => out ++ replaceFrom r (cs.length - rest.length) cs

/-- The text with each piece that `r` accepts replaced by what `r` answers. -/
def replace (r : Text → Option (Text × Text)) (t : Text) : Text := replaceFrom r 0 t

theorem replaceFrom_skip (r : Text → Option (Text × Text)) :
    ∀ p rest : Text, replaceFrom r p.length (p ++ rest) = replaceFrom r 0 rest
  | [], rest => by simp
  | c :: cs, rest => by
    simp only [List.length_cons, List.cons_append, replaceFrom]
    exact replaceFrom_skip r cs rest

/-- **Behind a replaced piece, replacing goes on with the rest.** -/
theorem replace_accept (r : Text → Option (Text × Text)) {out : Text} {c : Char} {p rest : Text}
    (h : r (c :: p ++ rest) = some (out, rest)) : replace r (c :: p ++ rest) = out ++ replace r rest := by
  unfold replace
  rw [List.cons_append] at h ⊢
  rw [replaceFrom, h]
  simp only [List.length_append, Nat.add_sub_cancel]
  rw [replaceFrom_skip]

theorem replace_keep (r : Text → Option (Text × Text)) {c : Char} {cs : Text} (h : r (c :: cs) = none) :
    replace r (c :: cs) = c :: replace r cs := by
  unfold replace
  rw [replaceFrom, h]

end GameSource
