import GameSource.Text.Basic
/-!
# Runs of characters, and classes that exclude each other

A reader takes the longest run of a class.  What it takes of `run ++ rest` is `run` exactly when `rest` does not go on
with the class (`Stops`).  White space belongs to no word (`isWord_of_isSpace`), so a blank ends every run of word
characters.
-/
namespace GameSource

/-! ## Classes -/

/-- The code points of ranges, one by one. -/
def codePoints (ranges : List (Nat × Nat)) : List Nat := ranges.flatMap fun r => List.range' r.1 (r.2 + 1 - r.1)

theorem mem_codePoints {ranges : List (Nat × Nat)} {n : Nat} (h : inRanges ranges n) : n ∈ codePoints ranges := by
  obtain ⟨r, hr, hn⟩ := List.any_eq_true.1 h
  simp only [Bool.and_eq_true, decide_eq_true_eq] at hn
  refine List.mem_flatMap.2 ⟨r, hr, ?_⟩
  rw [List.mem_range'_1]
  omega

/-- A property of the finitely many white space characters holds of white space. -/
theorem of_isSpace {p : Char → Bool} (hp : ∀ n ∈ codePoints spaceRanges, p (Char.ofNat n)) {c : Char}
    (h : isSpace c) : p c := by
  have := hp _ (mem_codePoints h)
  rwa [Char.ofNat_toNat] at this

/-- **White space belongs to no word.** -/
theorem isWord_of_isSpace {c : Char} (h : isSpace c) : isWord c = false := by
  have : (!isWord c) = true := of_isSpace (p := fun c => !isWord c) (by decide +kernel) h
  simpa using this

theorem isInlineSpace_iff {c : Char} : isInlineSpace c ↔ c ≠ '\n' ∧ isSpace c := by simp [isInlineSpace]

/-- A property of the 128 ASCII characters holds of an ASCII character. -/
theorem of_ascii {p : Char → Bool} (hp : ∀ n < 128, p (Char.ofNat n)) {c : Char} (h : c.toNat < 128) : p c := by
  have := hp _ h
  rwa [Char.ofNat_toNat] at this

theorem toNat_lt_of_isAlphanum {c : Char} (h : c.isAlphanum) : c.toNat < 128 := by
  unfold Char.isAlphanum Char.isAlpha Char.isUpper Char.isLower Char.isDigit at h
  simp only [Bool.or_eq_true, Bool.and_eq_true, decide_eq_true_eq, ge_iff_le, UInt32.le_iff_toNat_le] at h
  have hc : c.toNat = c.val.toNat := rfl
  rcases h with (⟨-, h⟩ | ⟨-, h⟩) | ⟨-, h⟩ <;> rw [hc] <;> exact Nat.lt_of_le_of_lt h (by decide)

theorem isWord_of_isAsciiWord {c : Char} (h : isAsciiWord c) : isWord c := by
  simp only [isAsciiWord, Bool.or_eq_true, beq_iff_eq] at h
  rcases h with h | rfl
  · have hlt := toNat_lt_of_isAlphanum h
    simp only [Char.isAlphanum, Bool.or_eq_true] at h
    rcases h with h | h
    · simp [isWord, isAlnum, isLetter_of_ascii hlt, h]
    · simp [isWord, isAlnum, isDigit, isDecimal_of_ascii hlt, h]
  · rfl

theorem isSpace_of_isWord {c : Char} (h : isWord c) : isSpace c = false := by
  cases hs : isSpace c with
  | false => rfl
  | true =>
    rw [isWord_of_isSpace hs] at h
    cases h

theorem isSpace_of_isAsciiWord {c : Char} (h : isAsciiWord c) : isSpace c = false :=
  isSpace_of_isWord (isWord_of_isAsciiWord h)

theorem isAsciiWord_of_isSpace {c : Char} (h : isSpace c) : isAsciiWord c = false := by
  cases hw : isAsciiWord c with
  | false => rfl
  | true =>
    rw [isSpace_of_isAsciiWord hw] at h
    cases h

theorem ne_of_isWord {c d : Char} (hc : isWord c) (hd : isWord d = false) : c ≠ d := by
  rintro rfl
  rw [hc] at hd
  cases hd

theorem ne_of_isSpace {c d : Char} (hc : isSpace c) (hd : isSpace d = false) : c ≠ d := by
  rintro rfl
  rw [hc] at hd
  cases hd

/-! ## Runs -/

section
variable {α : Type} {p : α → Bool}

/-- The list does not begin with a member of the class. -/
def Stops (p : α → Bool) (t : List α) : Prop := ∀ c ∈ t.head?, p c = false

theorem Stops.nil (p : α → Bool) : Stops p [] := fun _ h => by cases h

theorem Stops.cons {c : α} {t : List α} (h : p c = false) : Stops p (c :: t) := by
  intro d hd
  obtain rfl : c = d := by simpa using hd
  exact h

theorem Stops.of_all {t : List α} (h : ∀ c ∈ t, p c = false) : Stops p t :=
  fun c hc => h c (List.mem_of_mem_head? hc)

theorem Stops.mono {q : α → Bool} {t : List α} (hpq : ∀ c, p c = false → q c = false) (h : Stops p t) : Stops q t :=
  fun c hc => hpq c (h c hc)

theorem Stops.append_stops {s t : List α} (hs : Stops p s) (ht : Stops p t) : Stops p (s ++ t) := by
  cases s with
  | nil => exact ht
  | cons c s => exact Stops.cons (hs c rfl)

theorem Stops.append {s t : List α} (hs : ∀ c ∈ s, p c = false) (ht : Stops p t) : Stops p (s ++ t) :=
  (Stops.of_all hs).append_stops ht

theorem Stops.append_left {s : List α} (hne : s ≠ []) (h : Stops p s) (t : List α) : Stops p (s ++ t) := by
  obtain ⟨c, s, rfl⟩ := List.exists_cons_of_ne_nil hne
  exact Stops.cons (h c (by simp))

theorem Stops.of_append {s t : List α} (h : Stops p (s ++ t)) : Stops p s := by
  cases s with
  | nil => exact .nil p
  | cons c s => exact .cons (h c rfl)

/-- Where the class stops, a longest run in front is what it would be at the end. -/
theorem takeWhile_append {rest : List α} (h : Stops p rest) : ∀ t : List α, (t ++ rest).takeWhile p = t.takeWhile p
  | [] => by
    cases rest with
    | nil => rfl
    | cons c rest => simp [h c (by simp)]
  | c :: t => by
    rw [List.cons_append, List.takeWhile_cons, List.takeWhile_cons, takeWhile_append h t]

theorem dropWhile_append {rest : List α} (h : Stops p rest) : ∀ t : List α,
    (t ++ rest).dropWhile p = t.dropWhile p ++ rest
  | [] => by
    cases rest with
    | nil => rfl
    | cons c rest => simp [h c (by simp)]
  | c :: t => by
    rw [List.cons_append, List.dropWhile_cons, List.dropWhile_cons, dropWhile_append h t]
    split <;> rfl

theorem takeWhile_run : ∀ {run rest : List α}, (∀ c ∈ run, p c) → Stops p rest → (run ++ rest).takeWhile p = run
  | [], [], _, _ => rfl
  | [], c :: rest, _, h => by simp [h c (by simp)]
  | c :: run, rest, hr, h => by
    have hc : p c = true := hr c (by simp)
    rw [List.cons_append, List.takeWhile_cons_of_pos hc, takeWhile_run (fun d hd => hr d (by simp [hd])) h]

theorem dropWhile_run : ∀ {run rest : List α}, (∀ c ∈ run, p c) → Stops p rest → (run ++ rest).dropWhile p = rest
  | [], [], _, _ => rfl
  | [], c :: rest, _, h => by simp [h c (by simp)]
  | c :: run, rest, hr, h => by
    have hc : p c = true := hr c (by simp)
    rw [List.cons_append, List.dropWhile_cons_of_pos hc, dropWhile_run (fun d hd => hr d (by simp [hd])) h]

/-- What a text begins with is told by where the class stops. -/
theorem run_unique {v w behind behind' : List α} (hv : ∀ c ∈ v, p c) (hw : ∀ c ∈ w, p c) (hb : Stops p behind)
    (hb' : Stops p behind') (h : v ++ behind = w ++ behind') : v = w ∧ behind = behind' := by
  have hsame : v = w := by rw [← takeWhile_run hv hb, h, takeWhile_run hw hb']
  subst hsame
  exact ⟨rfl, List.append_cancel_left h⟩

end

/-- Where no word goes on, no class of ASCII word characters does. -/
theorem Stops.of_isWord {p : Char → Bool} (hp : ∀ c, p c → isAsciiWord c) {t : Text} (h : Stops isWord t) :
    Stops p t := by
  intro c hc
  cases hpc : p c with
  | false => rfl
  | true =>
    have := h c hc
    rw [isWord_of_isAsciiWord (hp c hpc)] at this
    cases this

theorem stops_dropWhile {α : Type} (p : α → Bool) (t : List α) : Stops p (t.dropWhile p) := by
  intro c hc
  have hhead := List.head?_dropWhile_not p t
  rw [Option.mem_def.1 hc] at hhead
  exact hhead

/-- What stands before a character and behind it. -/
theorem Text.until?_eq_some {c : Char} {t before behind : Text} :
    Text.until? c t = some (before, behind) ↔ t = before ++ c :: behind ∧ c ∉ before := by
  constructor
  · intro h
    have hsplit : t.takeWhile (· != c) ++ t.dropWhile (· != c) = t := List.takeWhile_append_dropWhile
    have hnot : c ∉ t.takeWhile (· != c) := fun hmem => by
      have hne := List.all_eq_true.1 List.all_takeWhile c hmem
      simp at hne
    unfold Text.until? at h
    split at h
    · cases h
    · rename_i d rest hdrop
      cases h
      have hd : (d != c) = false := stops_dropWhile (· != c) t d (by rw [hdrop]; rfl)
      obtain rfl : d = c := by simpa using hd
      rw [hdrop] at hsplit
      exact ⟨hsplit.symm, hnot⟩
  · rintro ⟨rfl, hnot⟩
    have hall : ∀ d ∈ before, (d != c) = true := fun d hd => by
      simpa using fun heq : d = c => hnot (heq ▸ hd)
    have hstops : Stops (· != c) (c :: behind) := .cons (by simp)
    rw [Text.until?, takeWhile_run hall hstops, dropWhile_run hall hstops]

/-- What a run of the class leaves, if it has at least one character. -/
theorem Text.dropSome?_eq_some {p : Char → Bool} {t rest : Text} :
    dropSome? p t = some rest ↔ ∃ run, t = run ++ rest ∧ run ≠ [] ∧ (∀ c ∈ run, p c) ∧ Stops p rest := by
  cases t with
  | nil => simp [dropSome?]
  | cons c t =>
    rw [dropSome?]
    constructor
    · intro h
      obtain ⟨hc, heq⟩ := Option.ite_none_right_eq_some.1 h
      cases heq
      refine ⟨c :: t.takeWhile p, by simp, by simp, fun d hd => ?_, stops_dropWhile p t⟩
      rcases List.mem_cons.1 hd with rfl | hd
      · exact hc
      · exact List.all_eq_true.1 List.all_takeWhile d hd
    · rintro ⟨run, hsplit, hne, hrun, hstops⟩
      obtain ⟨d, run, rfl⟩ := List.exists_cons_of_ne_nil hne
      rw [List.cons_append, List.cons.injEq] at hsplit
      obtain ⟨rfl, rfl⟩ := hsplit
      rw [if_pos (hrun c List.mem_cons_self), dropWhile_run (fun d hd => hrun d (List.mem_cons_of_mem c hd)) hstops]

/-! ## Trimming -/

/-- **Trimming takes off the white space around a text** that begins and ends with another character. -/
theorem trim_blanks (before after : Text) {t : Text} (hb : ∀ c ∈ before, isSpace c) (ha : ∀ c ∈ after, isSpace c)
    (hh : Stops isSpace t) (hl : Stops isSpace t.reverse) (hne : t ≠ []) :
    Text.trim (before ++ t ++ after) = t := by
  unfold Text.trim Text.trimLeft Text.trimRight
  have hta : Stops isSpace (t ++ after) := by
    obtain ⟨c, s, rfl⟩ := List.exists_cons_of_ne_nil hne
    exact Stops.cons (hh c (by simp))
  rw [List.append_assoc, dropWhile_run hb hta, List.reverse_append,
    dropWhile_run (fun c hc => ha c (List.mem_reverse.1 hc)) hl, List.reverse_reverse]

theorem trim_of_not_isSpace {t : Text} (h : ∀ c ∈ t, isSpace c = false) : Text.trim t = t := by
  have hl : ∀ c ∈ t.reverse, isSpace c = false := fun c hc => h c (List.mem_reverse.1 hc)
  cases t with
  | nil => rfl
  | cons c t => simpa using trim_blanks [] [] (by simp) (by simp) (.of_all h) (.of_all hl) (by simp)

/-- A text that is no longer than what is left behind its white space does not begin with any. -/
theorem stops_of_length_le {t : Text} (h : t.length ≤ (t.dropWhile isSpace).length) : Stops isSpace t := by
  cases t with
  | nil => exact .nil _
  | cons c t =>
    cases hc : isSpace c with
    | false => exact .cons hc
    | true =>
      have hle := (List.dropWhile_suffix isSpace (l := t)).length_le
      rw [List.dropWhile_cons_of_pos hc, List.length_cons] at h
      omega

/-- A text that trimming leaves as it is neither begins nor ends with white space. -/
theorem stops_of_trim {t : Text} (h : Text.trim t = t) : Stops isSpace t ∧ Stops isSpace t.reverse := by
  have hright (u : Text) : (Text.trimRight u).length ≤ u.length := by
    have hle := (List.dropWhile_suffix isSpace (l := u.reverse)).length_le
    rwa [List.length_reverse, ← List.length_reverse] at hle
  have hleft : Stops isSpace t := by
    refine stops_of_length_le ?_
    have hle := hright (Text.trimLeft t)
    rwa [← Text.trim, h] at hle
  refine ⟨hleft, stops_of_length_le ?_⟩
  have hself : Text.trimLeft t = t := @dropWhile_run _ _ [] t (by simp) hleft
  have hlength : (Text.trimRight t).length = t.length := by
    rw [Text.trim, hself] at h
    rw [h]
  rw [Text.trimRight, List.length_reverse] at hlength
  exact Nat.le_of_eq (List.length_reverse.trans hlength.symm)

theorem trim_of_isSpace {t : Text} (h : ∀ c ∈ t, isSpace c) : Text.trim t = [] := by
  have hleft := dropWhile_run h (.nil isSpace)
  rw [List.append_nil] at hleft
  rw [Text.trim, Text.trimLeft, hleft]
  rfl

theorem trim_prefix_trimLeft (t : Text) : Text.trim t <+: Text.trimLeft t := by
  rw [Text.trim, Text.trimRight, ← List.reverse_suffix, List.reverse_reverse]
  exact List.dropWhile_suffix isSpace

/-- Trimming takes white space off the two ends, and nothing else. -/
theorem exists_trim (t : Text) : ∃ before after, t = before ++ Text.trim t ++ after ∧ (∀ c ∈ before, isSpace c) ∧
    ∀ c ∈ after, isSpace c := by
  have hspace (u : Text) : ∀ c ∈ u.takeWhile isSpace, isSpace c := List.all_eq_true.1 List.all_takeWhile
  refine ⟨t.takeWhile isSpace, ((Text.trimLeft t).reverse.takeWhile isSpace).reverse, ?_, hspace t,
    fun c hc => hspace _ c (List.mem_reverse.1 hc)⟩
  rw [Text.trim, Text.trimRight, List.append_assoc, ← List.reverse_append, List.takeWhile_append_dropWhile,
    List.reverse_reverse, Text.trimLeft, List.takeWhile_append_dropWhile]

/-- Trimming leaves a part of the text. -/
theorem trim_within (t : Text) : Text.trim t <:+: t := by
  obtain ⟨before, after, h, -, -⟩ := exists_trim t
  exact ⟨before, after, h.symm⟩

/-- Trimming a trimmed text changes nothing. -/
theorem trim_trim (t : Text) : Text.trim (Text.trim t) = Text.trim t := by
  by_cases hne : Text.trim t = []
  · rw [hne]
    rfl
  have hlast : Stops isSpace (Text.trim t).reverse := by
    rw [Text.trim, Text.trimRight, List.reverse_reverse]
    exact stops_dropWhile isSpace _
  have hfirst : Stops isSpace (Text.trim t) := by
    obtain ⟨rest, hrest⟩ := trim_prefix_trimLeft t
    have hstop : Stops isSpace (Text.trim t ++ rest) := by
      rw [hrest]
      exact stops_dropWhile isSpace t
    obtain ⟨c, cs, hcs⟩ := List.exists_cons_of_ne_nil hne
    rw [hcs] at hstop ⊢
    exact .cons (hstop c rfl)
  simpa using trim_blanks [] [] (by simp) (by simp) hfirst hlast hne

/-- Trimming takes the white space off a trimmed text. -/
theorem trim_around {before t after : Text} (ht : Text.trim t = t) (hb : ∀ c ∈ before, isSpace c)
    (ha : ∀ c ∈ after, isSpace c) : Text.trim (before ++ t ++ after) = t := by
  by_cases hne : t = []
  · subst hne
    refine trim_of_isSpace fun c hc => ?_
    rw [List.append_nil] at hc
    exact (List.mem_append.1 hc).elim (hb c) (ha c)
  · exact trim_blanks before after hb ha (stops_of_trim ht).1 (stops_of_trim ht).2 hne

end GameSource
