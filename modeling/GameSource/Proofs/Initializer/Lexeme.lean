import GameSource.Initializer.Token
import GameSource.Proofs.Text.Runs
/-!
# The texts of tokens

What the text of a token is, kind by kind, whatever stands around it (`IsLexeme`), and that reading only makes such
tokens (`isLexeme_of_piece?`).
-/
namespace GameSource.Initializer

/-! ## Quoted texts -/

theorem readQuoted_quote (quote : Char) : ∀ t : Text, readQuoted quote (quote :: t) = (true, 1)
  | [] => by simp [readQuoted]
  | d :: ds => by simp [readQuoted]

theorem readQuoted_escape {quote : Char} (hq : quote ≠ '\\') (d : Char) (t : Text) :
    readQuoted quote ('\\' :: d :: t) = ((readQuoted quote t).1, (readQuoted quote t).2 + 2) := by
  rw [readQuoted, if_neg (Ne.symm hq), if_neg (by decide), if_pos rfl]

theorem readQuoted_other {quote c : Char} (hq : c ≠ quote) (hn : c ≠ '\n') (hb : c ≠ '\\') : ∀ t : Text,
    readQuoted quote (c :: t) = ((readQuoted quote t).1, (readQuoted quote t).2 + 1)
  | [] => by simp [readQuoted, hq]
  | d :: ds => by rw [readQuoted, if_neg hq, if_neg hn, if_neg hb]

theorem readQuoted_newline {quote : Char} (hq : quote ≠ '\n') : ∀ t : Text, readQuoted quote ('\n' :: t) = (false, 1)
  | [] => by simp [readQuoted, Ne.symm hq]
  | d :: ds => by rw [readQuoted, if_neg (Ne.symm hq), if_pos rfl]

/-- Every line feed of a text stands directly behind a backslash of its own. -/
def joinsLines : Text → Bool
  | '\\' :: '\n' :: cs => joinsLines cs
  | c :: cs => c != '\n' && joinsLines cs
  | [] => true

theorem joinsLines_cons {c : Char} {t : Text} (hn : c ≠ '\n') (h : joinsLines t) : joinsLines (c :: t) := by
  unfold joinsLines
  split
  · rename_i cs heq
    cases heq
    simp [joinsLines] at h
  · rename_i heq
    cases heq
    simp [hn, h]
  · rfl

/-- **What was read up to a closing quote is read so whatever stands behind it**, and it has no line feed but behind a
backslash. -/
theorem readQuoted_take {quote : Char} (hq : quote ≠ '\\') (hn : quote ≠ '\n') : ∀ {t : Text} {n : Nat},
    readQuoted quote t = (true, n) →
      n ≤ t.length ∧ (∀ r, readQuoted quote (t.take n ++ r) = (true, n)) ∧ joinsLines (t.take n)
  | [], n, h => by cases h
  | c :: t, n, h => by
    by_cases hc : c = quote
    · subst hc
      rw [readQuoted_quote] at h
      cases h
      exact ⟨by simp, fun r => readQuoted_quote c r, joinsLines_cons hn rfl⟩
    by_cases hnl : c = '\n'
    · rw [hnl, readQuoted_newline hn] at h
      cases h
    by_cases hb : c = '\\'
    · subst hb
      cases t with
      | nil => simp [readQuoted, hc] at h
      | cons d ds =>
        rcases hds : readQuoted quote ds with ⟨closed, n⟩
        rw [readQuoted_escape hq, hds] at h
        cases h
        obtain ⟨hle, hread, hjoins⟩ := readQuoted_take hq hn hds
        refine ⟨by simp only [List.length_cons]; omega, fun r => ?_, ?_⟩
        · rw [List.take_succ_cons, List.take_succ_cons, List.cons_append, List.cons_append, readQuoted_escape hq, hread]
        · rw [List.take_succ_cons, List.take_succ_cons]
          by_cases hd : d = '\n'
          · rw [hd, joinsLines]
            exact hjoins
          · exact joinsLines_cons (by decide) (joinsLines_cons hd hjoins)
    · rcases ht : readQuoted quote t with ⟨closed, n⟩
      rw [readQuoted_other hc hnl hb, ht] at h
      cases h
      obtain ⟨hle, hread, hjoins⟩ := readQuoted_take hq hn ht
      refine ⟨by simp only [List.length_cons]; omega, fun r => ?_, ?_⟩
      · rw [List.take_succ_cons, List.cons_append, readQuoted_other hc hnl hb, hread]
      · rw [List.take_succ_cons]
        exact joinsLines_cons hnl hjoins

/-! ## Numbers -/

def continuesNumber (c : Char) : Bool := isWord c || c == '.'

/-- The last character of a text is an exponent mark. -/
def endsWithMark (t : Text) : Bool := t.getLast?.any isExponentMark

/-- The text goes on with a sign. -/
def beginsWithSign (t : Text) : Bool := t.head?.any isSign

theorem numberTail_cons_sign {c d : Char} (hc : isExponentMark c) (hd : isSign d) (t : Text) :
    numberTail (c :: d :: t) = numberTail t + 2 := by
  rw [numberTail, hc, hd]
  rfl

theorem numberTail_cons {c : Char} {t : Text} (h : (isExponentMark c && beginsWithSign t) = false) :
    numberTail (c :: t) = if continuesNumber c then numberTail t + 1 else 0 := by
  cases t with
  | nil => rw [numberTail]; rfl
  | cons d ds =>
    have hd : (isExponentMark c && isSign d) = false := h
    rw [numberTail, hd]
    rfl

theorem numberTail_ne_zero {c : Char} (hc : continuesNumber c) (t : Text) : numberTail (c :: t) ≠ 0 := by
  cases hm : isExponentMark c && beginsWithSign t with
  | false =>
    rw [numberTail_cons hm, if_pos hc]
    exact Nat.succ_ne_zero _
  | true =>
    obtain ⟨hc, ht⟩ := Bool.and_eq_true_iff.1 hm
    cases t with
    | nil => cases ht
    | cons d ds =>
      rw [numberTail_cons_sign hc ht]
      exact Nat.succ_ne_zero _

/-- An exponent mark goes on with a number. -/
theorem continuesNumber_of_isExponentMark {c : Char} (h : isExponentMark c) : continuesNumber c := by
  simp only [isExponentMark, Bool.or_eq_true, beq_iff_eq] at h
  rcases h with ((rfl | rfl) | rfl) | rfl <;> rfl

/-- A sign is no exponent mark. -/
theorem isExponentMark_of_isSign {c : Char} (h : isSign c) : isExponentMark c = false := by
  simp only [isSign, Bool.or_eq_true, beq_iff_eq] at h
  rcases h with rfl | rfl <;> rfl

theorem numberTail_ne_one {c : Char} {t : Text} (hc : isExponentMark c) (ht : beginsWithSign t) :
    numberTail (c :: t) ≠ 1 := by
  cases t with
  | nil => cases ht
  | cons d ds =>
    rw [numberTail_cons_sign hc ht]
    omega

/-- **A number that was read goes on only with what stands behind it**: with a sign behind an exponent mark, else as
that text goes on by itself. -/
theorem numberTail_append : ∀ {s rest : Text}, numberTail (s ++ rest) = s.length → ∀ r : Text,
    numberTail (s ++ r) = s.length + if endsWithMark s && beginsWithSign r then numberTail r.tail + 1 else numberTail r
  | [], _, _, r => by simp [endsWithMark]
  | [c], rest, h, r => by
    have hplain : (isExponentMark c && beginsWithSign rest) = false := by
      cases hm : isExponentMark c && beginsWithSign rest with
      | false => rfl
      | true =>
        obtain ⟨hc, hr⟩ := Bool.and_eq_true_iff.1 hm
        exact absurd h (numberTail_ne_one hc hr)
    have hc : continuesNumber c = true := by
      rw [List.singleton_append, numberTail_cons hplain] at h
      cases hc : continuesNumber c with
      | true => rfl
      | false => simp [hc] at h
    have hmark : endsWithMark [c] = isExponentMark c := rfl
    rw [List.singleton_append, hmark]
    cases hm : isExponentMark c && beginsWithSign r with
    | false =>
      rw [numberTail_cons hm, hc, if_pos rfl, if_neg Bool.false_ne_true, List.length_singleton, Nat.add_comm]
    | true =>
      obtain ⟨hc, hr⟩ := Bool.and_eq_true_iff.1 hm
      cases r with
      | nil => cases hr
      | cons d ds =>
        rw [numberTail_cons_sign hc hr, if_pos rfl, List.tail_cons, List.length_singleton]
        omega
  | c :: d :: s, rest, h, r => by
    cases hm : isExponentMark c && isSign d with
    | true =>
      obtain ⟨hc, hd⟩ := Bool.and_eq_true_iff.1 hm
      simp only [List.cons_append, numberTail_cons_sign hc hd, List.length_cons] at h ⊢
      have hmark : endsWithMark (c :: d :: s) = endsWithMark s := by
        cases s with
        | nil => exact isExponentMark_of_isSign hd
        | cons e es => simp [endsWithMark]
      have htail : numberTail (s ++ rest) = s.length := by omega
      rw [hmark, numberTail_append htail r]
      omega
    | false =>
      have hc : continuesNumber c = true := by
        rw [List.cons_append, numberTail_cons (t := d :: s ++ rest) hm] at h
        cases hc : continuesNumber c with
        | true => rfl
        | false => simp [hc] at h
      have hmark : endsWithMark (c :: d :: s) = endsWithMark (d :: s) := by simp [endsWithMark]
      rw [List.cons_append, numberTail_cons (t := d :: s ++ rest) hm, hc, if_pos rfl] at h
      have htail : numberTail (d :: s ++ rest) = (d :: s).length := by simpa using h
      rw [List.cons_append, numberTail_cons (t := d :: s ++ r) hm, hc, if_pos rfl, hmark, numberTail_append htail r]
      simp only [List.length_cons]
      omega

theorem numberTail_le : ∀ t : Text, numberTail t ≤ t.length
  | [] => Nat.le_refl _
  | [c] => by
    rw [numberTail]
    split <;> simp
  | c :: d :: t => by
    have h := numberTail_le t
    have h' := numberTail_le (d :: t)
    simp only [List.length_cons] at h' ⊢
    rw [numberTail]
    split
    · omega
    split
    · omega
    · omega

/-- The characters of a number are those of words, points and signs. -/
theorem mem_take_numberTail {e : Char} : ∀ {t : Text}, e ∈ t.take (numberTail t) → continuesNumber e ∨ isSign e
  | [], h => by cases h
  | [c], h => by
    rw [numberTail] at h
    split at h
    · exact .inl (List.mem_singleton.1 h ▸ ‹_›)
    · cases h
  | c :: d :: t, h => by
    rw [numberTail] at h
    split at h
    · rename_i hm
      obtain ⟨hc, hd⟩ := Bool.and_eq_true_iff.1 hm
      simp only [List.take_succ_cons, List.mem_cons] at h
      rcases h with rfl | rfl | h
      · exact .inl (continuesNumber_of_isExponentMark hc)
      · exact .inr hd
      · exact mem_take_numberTail h
    split at h
    · rename_i hc
      rcases List.mem_cons.1 h with rfl | h
      · exact .inl hc
      · exact mem_take_numberTail (t := d :: t) h
    · cases h

/-! ## Lexemes -/

/-- What the text of a token is, kind by kind. -/
inductive IsLexeme : TokenKind → Text → Prop where
  | identifier {c : Char} {s : Text} (hc : (c == '_' || isLetter c) = true) (hd : isDigit c = false)
      (h : ∀ d ∈ s, isWord d) : IsLexeme .identifier (c :: s)
  | number {c : Char} {s : Text} (hc : beginsNumber (c :: s)) (h : numberTail s = s.length) :
      IsLexeme .number (c :: s)
  | charConstant {s : Text} (h : ∀ r, readQuoted '\'' (s ++ r) = (true, s.length)) (hj : joinsLines s) :
      IsLexeme .charConstant ('\'' :: s)
  | string {s : Text} (h : ∀ r, readQuoted '"' (s ++ r) = (true, s.length)) (hj : joinsLines s) :
      IsLexeme .string ('"' :: s)
  | punctuator {t : Text} (h : t ∈ punctuators) : IsLexeme .punctuator t

theorem isWord_of_isDigit {c : Char} (h : isDigit c) : isWord c := by
  simp [isWord, isAlnum, h]

theorem isWord_of_isLetter {c : Char} (h : (c == '_' || isLetter c) = true) : isWord c := by
  rcases Bool.or_eq_true_iff.1 h with h | h
  · rw [eq_of_beq h]
    rfl
  · simp [isWord, isAlnum, h]

/-- The part of a number behind its first character reads as itself. -/
theorem numberTail_take (t : Text) : numberTail (t.take (numberTail t)) = (t.take (numberTail t)).length := by
  have hle := numberTail_le t
  have hsplit : numberTail (t.take (numberTail t) ++ t.drop (numberTail t)) = (t.take (numberTail t)).length := by
    rw [List.take_append_drop, List.length_take, Nat.min_eq_left hle]
  have hread := numberTail_append hsplit []
  rw [List.append_nil] at hread
  simpa [beginsWithSign, numberTail] using hread

theorem beginsNumber_take {c : Char} {t : Text} (h : beginsNumber (c :: t)) :
    beginsNumber (c :: t.take (numberTail t)) := by
  simp only [beginsNumber, Bool.or_eq_true, Bool.and_eq_true] at h ⊢
  rcases h with h | ⟨hc, h⟩
  · exact .inl h
  · refine .inr ⟨hc, ?_⟩
    cases t with
    | nil => cases h
    | cons d ds =>
      have hd : isDigit d = true := h
      have hpos := numberTail_ne_zero (c := d) (by simp [continuesNumber, isWord_of_isDigit hd]) ds
      obtain ⟨n, hn⟩ := Nat.exists_eq_succ_of_ne_zero hpos
      rw [hn, List.take_succ_cons]
      exact hd

/-- **Every token has the text of a lexeme.** -/
theorem isLexeme_of_piece? {lineStart : Bool} {t : Text} {k : TokenKind} {n : Nat}
    (h : piece? lineStart t = .ok (.token k, n)) : IsLexeme k (t.take n) ∧ n ≠ 0 := by
  unfold piece? at h
  split at h
  · cases h
  rename_i c cs
  simp only at h
  split at h
  · cases h
  split at h
  · cases h
  split at h
  · cases h
  split at h
  · split at h <;> cases h
  split at h
  · rename_i hq
    subst hq
    rcases hr : readQuoted '"' cs with ⟨closed, m⟩
    rw [hr] at h
    cases closed with
    | false => cases h
    | true =>
      cases h
      obtain ⟨hle, hread, hj⟩ := readQuoted_take (by decide) (by decide) hr
      refine ⟨?_, by simp⟩
      rw [List.take_succ_cons]
      exact .string (by rwa [List.length_take, Nat.min_eq_left hle]) hj
  split at h
  · rename_i hq
    subst hq
    rcases hr : readQuoted '\'' cs with ⟨closed, m⟩
    rw [hr] at h
    cases closed with
    | false => cases h
    | true =>
      cases h
      obtain ⟨hle, hread, hj⟩ := readQuoted_take (by decide) (by decide) hr
      refine ⟨?_, by simp⟩
      rw [List.take_succ_cons]
      exact .charConstant (by rwa [List.length_take, Nat.min_eq_left hle]) hj
  split at h
  · rename_i hnumber
    cases h
    refine ⟨?_, by simp⟩
    rw [List.take_succ_cons]
    exact .number (beginsNumber_take hnumber) (numberTail_take cs)
  rename_i hnumber
  split at h
  · rename_i hc
    cases h
    have hd : isDigit c = false := by
      cases hd : isDigit c with
      | false => rfl
      | true => exact absurd (by simp [beginsNumber, hd]) hnumber
    have htake : (c :: cs).takeWhile isWord = c :: cs.takeWhile isWord :=
      List.takeWhile_cons_of_pos (isWord_of_isLetter hc)
    rw [htake]
    refine ⟨?_, by simp⟩
    rw [List.length_cons, List.take_succ_cons]
    have hprefix := List.prefix_iff_eq_take.1 (List.takeWhile_prefix (l := cs) isWord)
    rw [← hprefix]
    exact .identifier hc hd fun d hd => List.all_eq_true.1 (List.all_takeWhile (l := cs)) d hd
  split at h
  · rename_i p hp
    cases h
    have hmem := List.mem_of_find?_eq_some hp
    have hsome : (Text.after? p (c :: cs)).isSome = true := List.find?_some (p := fun p => (Text.after? p _).isSome) hp
    obtain ⟨rest, hrest⟩ := Option.isSome_iff_exists.1 hsome
    rw [Text.after?_eq_some.1 hrest, List.take_left]
    refine ⟨.punctuator hmem, ?_⟩
    have hpos : ∀ p ∈ punctuators, p.length ≠ 0 := by decide
    exact hpos p hmem
  · cases h

/-! ## Reading a lexeme again -/

/-- What begins a word or a number begins no other piece. -/
theorem plainHead {c : Char} (h : (c == '_' || isLetter c || isDigit c || c == '.') = true) :
    isBlank c = false ∧ c ≠ '#' ∧ c ≠ '/' ∧ c ≠ '"' ∧ c ≠ '\'' := by
  have hspecial : [' ', '\t', '\x0b', '\x0c', '\n', '#', '/', '"', '\''].all
      (fun d => !(d == '_' || isLetter d || isDigit d || d == '.')) = true := by decide
  have hne : ∀ d ∈ [' ', '\t', '\x0b', '\x0c', '\n', '#', '/', '"', '\''], c ≠ d := by
    rintro d hd rfl
    have hnot := List.all_eq_true.1 hspecial c hd
    rw [h] at hnot
    cases hnot
  simp only [List.mem_cons, List.not_mem_nil, or_false, forall_eq_or_imp, forall_eq] at hne
  obtain ⟨h1, h2, h3, h4, h5, h6, h7, h8, h9⟩ := hne
  exact ⟨by simp [isBlank, h1, h2, h3, h4, h5], h6, h7, h8, h9⟩

/-- A number is read as far as it goes on. -/
theorem piece?_number {c : Char} {s : Text} (hc : beginsNumber (c :: s)) (lineStart : Bool) (r : Text) :
    piece? lineStart (c :: s ++ r) = .ok (.token .number, numberTail (s ++ r) + 1) := by
  have hbegins : beginsNumber (c :: (s ++ r)) = true := by
    simp only [beginsNumber, Bool.or_eq_true, Bool.and_eq_true] at hc ⊢
    refine hc.imp_right fun ⟨hp, hd⟩ => ⟨hp, ?_⟩
    cases s with
    | nil => cases hd
    | cons d ds => exact hd
  have hhead : (c == '_' || isLetter c || isDigit c || c == '.') = true := by
    simp only [beginsNumber, Bool.or_eq_true, Bool.and_eq_true] at hc
    rcases hc with h | ⟨h, -⟩ <;> simp [h]
  obtain ⟨h1, h2, h3, h4, h5⟩ := plainHead hhead
  rw [List.cons_append, piece?]
  simp only [h1, h2, h3, h4, h5, hbegins, Bool.false_eq_true, false_and, if_false, if_true]

theorem piece?_identifier {c : Char} {s : Text} (hc : (c == '_' || isLetter c) = true) (hd : isDigit c = false)
    (h : ∀ d ∈ s, isWord d) (lineStart : Bool) {r : Text} (hr : Stops isWord r) :
    piece? lineStart (c :: s ++ r) = .ok (.token .identifier, (c :: s).length) := by
  have hpoint : (c == '.') = false := by
    cases hp : c == '.' with
    | false => rfl
    | true =>
      rw [eq_of_beq hp] at hc
      exact absurd hc (by decide)
  have hbegins : beginsNumber (c :: (s ++ r)) = false := by simp [beginsNumber, hd, hpoint]
  have htake : (c :: s ++ r).takeWhile isWord = c :: s :=
    takeWhile_run (List.forall_mem_cons.2 ⟨isWord_of_isLetter hc, h⟩) hr
  obtain ⟨h1, h2, h3, h4, h5⟩ := plainHead (c := c) (by simp only [hc, Bool.true_or])
  rw [List.cons_append] at htake ⊢
  rw [piece?]
  simp only [h1, h2, h3, h4, h5, hbegins, hc, htake, Bool.false_eq_true, false_and, if_false, if_true]

theorem piece?_string {s : Text} (h : ∀ r, readQuoted '"' (s ++ r) = (true, s.length)) (lineStart : Bool) (r : Text) :
    piece? lineStart ('"' :: s ++ r) = .ok (.token .string, ('"' :: s).length) := by
  have hblank : isBlank '"' = false := rfl
  rw [List.cons_append, piece?]
  simp only [hblank, h r, Bool.false_eq_true, if_false, if_true, List.length_cons]
  rfl

theorem piece?_charConstant {s : Text} (h : ∀ r, readQuoted '\'' (s ++ r) = (true, s.length)) (lineStart : Bool)
    (r : Text) : piece? lineStart ('\'' :: s ++ r) = .ok (.token .charConstant, ('\'' :: s).length) := by
  have hblank : isBlank '\'' = false := rfl
  rw [List.cons_append, piece?]
  simp only [hblank, h r, Bool.false_eq_true, if_false, if_true, List.length_cons]
  rfl

/-! ## Reading a punctuator again -/

/-- A longer punctuator begins with `p` and goes on as `r` does. -/
def Extends (p r : Text) : Prop := ∃ q, q ≠ [] ∧ p ++ q ∈ punctuators ∧ q <+: r

/-- The punctuators that are tried before `p`. -/
def triedBefore (p : Text) : List Text := punctuators.takeWhile (· != p)

theorem punctuators_eq {p : Text} (hp : p ∈ punctuators) : ∃ others, punctuators = triedBefore p ++ p :: others := by
  have hsplit : ∀ p ∈ punctuators, punctuators = triedBefore p ++ p :: (punctuators.dropWhile (· != p)).tail := by decide
  exact ⟨_, hsplit p hp⟩

/-- What is tried before a punctuator is no part of it, and everything that it begins is tried before it. -/
theorem triedBefore_spec {p : Text} (hp : p ∈ punctuators) :
    (∀ e ∈ triedBefore p, ¬ e <+: p) ∧ ∀ e ∈ punctuators, p <+: e → e ≠ p → e ∈ triedBefore p := by
  have hspec : ∀ p ∈ punctuators, (∀ e ∈ triedBefore p, e.isPrefixOf p = false) ∧
      ∀ e ∈ punctuators, p.isPrefixOf e = true → e ≠ p → e ∈ triedBefore p := by decide
  obtain ⟨h1, h2⟩ := hspec p hp
  refine ⟨fun e he hpre => ?_, fun e he hpre => h2 e he (List.isPrefixOf_iff_prefix.2 hpre)⟩
  rw [← List.isPrefixOf_iff_prefix, h1 e he] at hpre
  cases hpre

theorem isSome_after?_iff {p t : Text} : (Text.after? p t).isSome = true ↔ p <+: t := by
  rw [Option.isSome_iff_exists]
  constructor
  · rintro ⟨rest, h⟩
    exact ⟨rest, (Text.after?_eq_some.1 h).symm⟩
  · rintro ⟨rest, h⟩
    exact ⟨rest, Text.after?_eq_some.2 h.symm⟩

/-- What is tried before a punctuator and is there goes on with it. -/
theorem prefix_of_triedBefore {p e r : Text} (hp : p ∈ punctuators) (he : e ∈ triedBefore p) (h : e <+: p ++ r) :
    p <+: e ∧ p.length < e.length := by
  have hnot := (triedBefore_spec hp).1 e he
  have hpre : p <+: e := (List.prefix_or_prefix_of_prefix h (List.prefix_append p r)).resolve_left hnot
  refine ⟨hpre, Nat.lt_of_not_le fun hle => hnot ?_⟩
  obtain rfl := hpre.eq_of_length_le hle
  exact List.prefix_rfl

theorem find?_punctuator {p r : Text} (hp : p ∈ punctuators) (h : ¬ Extends p r) :
    punctuators.find? (fun q => (Text.after? q (p ++ r)).isSome) = some p := by
  obtain ⟨others, heq⟩ := punctuators_eq hp
  refine List.find?_eq_some_iff_append.2 ⟨isSome_after?_iff.2 (List.prefix_append p r), triedBefore p, others, heq, ?_⟩
  intro e he
  rw [Bool.not_eq_true']
  refine Bool.eq_false_iff.2 fun hsome => h ?_
  obtain ⟨⟨q, rfl⟩, hlt⟩ := prefix_of_triedBefore hp he (isSome_after?_iff.1 hsome)
  refine ⟨q, ?_, ?_, (List.prefix_append_right_inj p).1 (isSome_after?_iff.1 hsome)⟩
  · rintro rfl
    simp at hlt
  · exact (List.takeWhile_sublist _).subset he

theorem find?_punctuator_longer {p r : Text} (hp : p ∈ punctuators) (h : Extends p r) :
    ∃ e, punctuators.find? (fun q => (Text.after? q (p ++ r)).isSome) = some e ∧ p.length < e.length := by
  obtain ⟨q, hq, hmem, hpre⟩ := h
  obtain ⟨others, heq⟩ := punctuators_eq hp
  have hbefore : p ++ q ∈ triedBefore p :=
    (triedBefore_spec hp).2 (p ++ q) hmem (List.prefix_append p q) (by simpa using hq)
  have hsome : ((triedBefore p).find? fun q => (Text.after? q (p ++ r)).isSome).isSome :=
    List.find?_isSome.2 ⟨p ++ q, hbefore, isSome_after?_iff.2 ((List.prefix_append_right_inj p).2 hpre)⟩
  obtain ⟨e, he⟩ := Option.isSome_iff_exists.1 hsome
  have hthere : (Text.after? e (p ++ r)).isSome = true :=
    List.find?_some (p := fun q => (Text.after? q (p ++ r)).isSome) he
  refine ⟨e, ?_, (prefix_of_triedBefore hp (List.mem_of_find?_eq_some he) (isSome_after?_iff.1 hthere)).2⟩
  rw [heq, List.find?_append, he, Option.some_or]

/-- A punctuator begins a comment or a number only if it is a slash or a point. -/
theorem piece?_punctuator {p : Text} (hp : p ∈ punctuators) (lineStart : Bool) {r : Text}
    (hslash : p = ['/'] → r.head? ≠ some '/' ∧ r.head? ≠ some '*') (hpoint : p = ['.'] → r.head?.any isDigit = false)
    {q : Text} (hq : punctuators.find? (fun q => (Text.after? q (p ++ r)).isSome) = some q) :
    piece? lineStart (p ++ r) = .ok (.token .punctuator, q.length) := by
  have hheads : ∀ p ∈ punctuators, p ≠ [] ∧ (p.head?.all fun c => !isBlank c && c != '#' && c != '"' && c != '\'' &&
      !isDigit c && !(c == '_' || isLetter c)) ∧ (p.head? = some '/' → p = ['/']) ∧
      (p.head? = some '.' → p = ['.'] ∨ p[1]? = some '.') := by decide
  obtain ⟨hne, hhead, hslash', hpoint'⟩ := hheads p hp
  obtain ⟨c, s, rfl⟩ := List.exists_cons_of_ne_nil hne
  simp only [List.head?_cons, Option.all_some, Bool.and_eq_true, Bool.not_eq_true', bne_iff_ne] at hhead
  obtain ⟨⟨⟨⟨⟨h1, h2⟩, h3⟩, h4⟩, h5⟩, h6⟩ := hhead
  have hcomment (d : Char) (hd : d = '/' ∨ d = '*') : ¬ (c = '/' ∧ (s ++ r).head? = some d) := by
    rintro ⟨rfl, hr⟩
    have hs := hslash' rfl
    obtain ⟨rfl⟩ : s = [] := (List.cons.inj hs).2
    rcases hd with rfl | rfl
    · exact (hslash hs).1 hr
    · exact (hslash hs).2 hr
  have hbegins : beginsNumber (c :: (s ++ r)) = false := by
    rw [beginsNumber, h5, Bool.false_or, Bool.and_eq_false_iff]
    by_cases hc : c = '.'
    · refine .inr ?_
      subst hc
      rcases hpoint' rfl with hs | hs
      · obtain rfl : s = [] := (List.cons.inj hs).2
        exact hpoint hs
      · cases s with
        | nil => cases hs
        | cons d ds =>
          cases hs
          rfl
    · exact .inl (by simpa using hc)
  rw [List.cons_append] at hq ⊢
  rw [piece?]
  simp only [h1, h2, h3, h4, h6, hcomment '/' (.inl rfl), hcomment '*' (.inr rfl), hbegins, hq, Bool.false_eq_true,
    false_and, if_false]

end GameSource.Initializer
