import GameSource.Proofs.Number.Literal
/-!
# Which texts are integers

An integer is a sign or none and a numeral, with white space around them.  Reading a text gives the value of the
integer that it writes, wrapped, and nothing if it writes none; what cannot be read is a decimal numeral with too many
digits (`readInteger_integer_iff`).  So an integer is read back in whatever style it was printed
(`IntegerStyle.readInteger_print`), also where a truth value may stand.
-/
namespace GameSource

/-! ## The grammar -/

/-- A sign or none, and the factor that it stands for. -/
inductive IsSign : Text → Int → Prop where
  | none : IsSign [] 1
  | plus : IsSign ['+'] 1
  | minus : IsSign ['-'] (-1)

/-- `WritesInteger t z n`: the text is the numeral `n` behind a sign that stands for `z`, with white space around. -/
def WritesInteger (t : Text) (z : Int) (n : Numeral) : Prop :=
  ∃ before sign body after, t = before ++ (sign ++ body) ++ after ∧ (∀ c ∈ before, isSpace c) ∧
    (∀ c ∈ after, isSpace c) ∧ IsSign sign z ∧ Numeral.Spells body n

/-- A sign and a numeral have no white space. -/
theorem isSpace_signed {sign body : Text} {z : Int} {n : Numeral} (hsign : IsSign sign z)
    (hbody : Numeral.Spells body n) : ∀ c ∈ sign ++ body, isSpace c = false := by
  intro c hc
  rcases List.mem_append.1 hc with hc | hc
  · cases hsign with
    | none => cases hc
    | plus => rw [List.mem_singleton.1 hc]; rfl
    | minus => rw [List.mem_singleton.1 hc]; rfl
  · exact isSpace_of_isAsciiWord (hbody.isAsciiWord c hc)

/-- A numeral does not begin with a sign, so that the sign is what stands before it. -/
theorem readSign_signed {sign body : Text} {z : Int} {n : Numeral} (hsign : IsSign sign z)
    (hbody : Numeral.Spells body n) : readSign (sign ++ body) = (z, body) := by
  cases hsign with
  | plus => rfl
  | minus => rfl
  | none =>
    obtain ⟨c, u, rfl, hc⟩ := hbody.exists_eq_cons
    rw [List.nil_append, readSign]
    · rintro rest heq
      cases heq
      cases hc
    · rintro rest heq
      cases heq
      cases hc

theorem exists_sign (t : Text) : ∃ sign, IsSign sign (readSign t).1 ∧ t = sign ++ (readSign t).2 := by
  unfold readSign
  split
  · exact ⟨_, .minus, rfl⟩
  · exact ⟨_, .plus, rfl⟩
  · exact ⟨_, .none, rfl⟩

theorem trim_of_writesInteger {t : Text} {z : Int} {n : Numeral} (h : WritesInteger t z n) :
    ∃ sign body, Text.trim t = sign ++ body ∧ IsSign sign z ∧ Numeral.Spells body n := by
  obtain ⟨before, sign, body, after, rfl, hb, ha, hsign, hbody⟩ := h
  refine ⟨sign, body, ?_, hsign, hbody⟩
  exact trim_around (trim_of_not_isSpace (isSpace_signed hsign hbody)) hb ha

/-! ## Reading -/

/-- What an integer is read as. -/
def integerValue (z : Int) (n : Numeral) : Except DigitLimit (Option Int) :=
  if n.base = 10 ∧ digitLimit < n.digits.length then .error (.reading n.digits.length) else .ok (some (wrap32 (z * n.value)))

theorem readInteger_of_writesInteger {t : Text} {z : Int} {n : Numeral} (h : WritesInteger t z n) :
    readInteger t = integerValue z n := by
  obtain ⟨sign, body, htrim, hsign, hbody⟩ := trim_of_writesInteger h
  unfold readInteger
  rw [htrim, readSign_signed hsign hbody]
  simp only [hbody.ofText?]
  rfl

/-- **A text is read as the integer that it writes**, and as nothing if it writes none. -/
theorem readInteger_cases (t : Text) : (∃ z n, WritesInteger t z n ∧ readInteger t = integerValue z n) ∨
    (readInteger t = .ok none ∧ ∀ z n, ¬ WritesInteger t z n) := by
  obtain ⟨sign, hsign, hsplit⟩ := exists_sign (Text.trim t)
  cases hn : Numeral.ofText? (readSign (Text.trim t)).2 with
  | some n =>
    left
    obtain ⟨before, after, ht, hb, ha⟩ := exists_trim t
    rw [hsplit] at ht
    have hwrites : WritesInteger t (readSign (Text.trim t)).1 n :=
      ⟨before, sign, _, after, ht, hb, ha, hsign, Numeral.ofText?_eq_some_iff.1 hn⟩
    exact ⟨_, n, hwrites, readInteger_of_writesInteger hwrites⟩
  | none =>
    right
    refine ⟨?_, ?_⟩
    · unfold readInteger
      simp only [hn]
    · intro z n h
      obtain ⟨sign, body, htrim, hsign, hbody⟩ := trim_of_writesInteger h
      rw [htrim, readSign_signed hsign hbody, hbody.ofText?] at hn
      cases hn

theorem readInteger_eq_some_iff {t : Text} {v : Int} : readInteger t = .ok (some v) ↔
    ∃ z n, WritesInteger t z n ∧ (n.base = 10 → n.digits.length ≤ digitLimit) ∧ v = wrap32 (z * n.value) := by
  constructor
  · intro h
    rcases readInteger_cases t with ⟨z, n, hwrites, hread⟩ | ⟨hnone, -⟩
    · rw [hread, integerValue] at h
      split at h
      · cases h
      · rename_i hlong
        cases h
        exact ⟨z, n, hwrites, fun hbase => Nat.not_lt.1 fun hlt => hlong ⟨hbase, hlt⟩, rfl⟩
    · rw [hnone] at h
      cases h
  · rintro ⟨z, n, hwrites, hshort, rfl⟩
    rw [readInteger_of_writesInteger hwrites, integerValue, if_neg fun h => Nat.not_lt.2 (hshort h.1) h.2]

theorem readInteger_eq_error_iff {t : Text} {e : DigitLimit} : readInteger t = .error e ↔
    ∃ z n, WritesInteger t z n ∧ n.base = 10 ∧ digitLimit < n.digits.length ∧ e = .reading n.digits.length := by
  constructor
  · intro h
    rcases readInteger_cases t with ⟨z, n, hwrites, hread⟩ | ⟨hnone, -⟩
    · rw [hread, integerValue] at h
      split at h
      · rename_i hlong
        cases h
        exact ⟨z, n, hwrites, hlong.1, hlong.2, rfl⟩
      · cases h
    · rw [hnone] at h
      cases h
  · rintro ⟨z, n, hwrites, hbase, hlong, rfl⟩
    rw [readInteger_of_writesInteger hwrites, integerValue, if_pos ⟨hbase, hlong⟩]

/-- An integer is no truth value. -/
theorem readGameValue_of_writesInteger {t : Text} {z : Int} {n : Numeral} (h : WritesInteger t z n) :
    readGameValue t = readInteger t := by
  obtain ⟨sign, body, htrim, hsign, hbody⟩ := trim_of_writesInteger h
  have hhead : ∃ c u, sign ++ body = c :: u ∧ truthUpper c ≠ 'T' ∧ truthUpper c ≠ 'F' := by
    cases hsign with
    | plus => exact ⟨'+', body, rfl, by decide⟩
    | minus => exact ⟨'-', body, rfl, by decide⟩
    | none =>
      obtain ⟨c, u, rfl, hc⟩ := hbody.exists_eq_cons
      have hclass := of_ascii (p := fun c => !c.isDigit || (truthUpper c != 'T' && truthUpper c != 'F')) (by decide)
        (isHexDigit_ascii (isHexDigit_of_isDigit hc))
      exact ⟨c, u, rfl, by simpa [hc] using hclass⟩
  obtain ⟨c, u, hcut, ht, hf⟩ := hhead
  unfold readGameValue
  rw [htrim, hcut]
  have htrue : (c :: u).map truthUpper ≠ "TRUE".toList := fun heq => ht (List.head_eq_of_cons_eq heq)
  have hfalse : (c :: u).map truthUpper ≠ "FALSE".toList := fun heq => hf (List.head_eq_of_cons_eq heq)
  simp only [if_neg htrue, if_neg hfalse]

/-! ## Printing -/

/-- How an integer is printed. -/
structure IntegerStyle where
  radix : Radix
  /-- How many zeros stand in front of the digits; a decimal number has none. -/
  zeros : Nat
  /-- Letters among the digits are capital. -/
  capital : Bool
  /-- A number that is not negative has a sign, too. -/
  plus : Bool
  suffix : Text
  zeros_eq_zero : radix = .decimal → zeros = 0
  isSuffixLetter_of_mem : ∀ c ∈ suffix, isSuffixLetter c

/-- A property of all digits of a base holds of the digits of a number. -/
theorem forall_mem_toDigits {b : Nat} (hb : 1 < b) {p : Char → Prop} (hp : ∀ d < b, p d.digitChar) (n : Nat) :
    ∀ c ∈ Nat.toDigits b n, p c := by
  induction n using Nat.strongRecOn with
  | _ n ih =>
    intro c hc
    by_cases hn : n < b
    · rw [Nat.toDigits_of_lt_base hn] at hc
      rw [List.mem_singleton.1 hc]
      exact hp n hn
    · rw [Nat.toDigits_of_base_le hb (Nat.le_of_not_lt hn)] at hc
      rcases List.mem_append.1 hc with hc | hc
      · exact ih (n / b) (Nat.div_lt_self (by omega) hb) c hc
      · rw [List.mem_singleton.1 hc]
        exact hp (n % b) (Nat.mod_lt n (by omega))

/-- Zeros in front do not change what digits stand for. -/
theorem value_replicate_zero (b k : Nat) (ds : Text) :
    Numeral.value ⟨b, List.replicate k '0' ++ ds⟩ = Numeral.value ⟨b, ds⟩ := by
  unfold Numeral.value
  have hzeros : (List.replicate k '0').foldl (fun v c => b * v + hexValue c) 0 = 0 := by
    induction k with
    | zero => rfl
    | succ k ih => simpa [List.replicate_succ, hexValue] using ih
  simp only [List.foldl_append, hzeros]

namespace IntegerStyle

variable (f : IntegerStyle)

def letter (c : Char) : Char := if f.capital then c.toUpper else c

def digits (n : Nat) : Text := List.replicate f.zeros '0' ++ (Nat.toDigits f.radix.base n).map f.letter

def sign (v : Int) : Text := if v < 0 then ['-'] else if f.plus then ['+'] else []

def print (v : Int) : Text := f.sign v ++ (f.radix.lead ++ f.digits v.natAbs ++ f.suffix)

theorem base_bounds (r : Radix) : 1 < r.base ∧ r.base ≤ 16 := by
  cases r <;> simp [Radix.base]

theorem hexValue_letter : ∀ d < 16, hexValue (f.letter d.digitChar) = hexValue d.digitChar := by
  unfold letter
  cases f.capital <;> decide

theorem isDigit_letter : ∀ d < f.radix.base, f.radix.isDigit (f.letter d.digitChar) := by
  unfold letter
  cases f.radix with
  | decimal => cases f.capital <;> decide
  | octal => cases f.capital <;> decide
  | hexadecimal x => cases x <;> cases f.capital <;> decide

theorem letter_decimal : ∀ d < 10, f.letter d.digitChar = d.digitChar := by
  unfold letter
  cases f.capital <;> decide

theorem digits_decimal (h : f.radix = .decimal) (n : Nat) : f.digits n = Nat.toDigits 10 n := by
  have hletter : ∀ c ∈ Nat.toDigits 10 n, f.letter c = id c :=
    forall_mem_toDigits (p := fun c => f.letter c = c) (by decide) f.letter_decimal n
  have hletters : (Nat.toDigits 10 n).map f.letter = Nat.toDigits 10 n := by
    rw [List.map_congr_left hletter, List.map_id]
  rw [digits, f.zeros_eq_zero h, h, List.replicate_zero, List.nil_append, Radix.base, hletters]

/-- **The digits of a number stand for it**, in every style. -/
theorem value_digits (n : Nat) : Numeral.value ⟨f.radix.base, f.digits n⟩ = n := by
  obtain ⟨hbase, hle⟩ := base_bounds f.radix
  have hsame : ∀ c ∈ Nat.toDigits f.radix.base n, hexValue (f.letter c) = hexValue c :=
    forall_mem_toDigits hbase (fun d hd => f.hexValue_letter d (Nat.lt_of_lt_of_le hd hle)) n
  calc Numeral.value ⟨f.radix.base, f.digits n⟩
      = Numeral.value ⟨f.radix.base, (Nat.toDigits f.radix.base n).map f.letter⟩ := value_replicate_zero _ _ _
    _ = Numeral.value ⟨f.radix.base, Nat.toDigits f.radix.base n⟩ := by
      unfold Numeral.value
      rw [List.foldl_map]
      exact List.foldl_ext _ _ _ fun v c hc => by rw [hsame c hc]
    _ = n := value_toDigits hbase hle n

/-- The digits of a number with the lead of the radix and the suffix. -/
def literal (n : Nat) (h : f.radix = .decimal → (Nat.toDigits 10 n).length ≤ digitLimit) : Literal where
  radix := f.radix
  digits := f.digits n
  suffix := f.suffix
  digits_ne_nil := by simp [digits]
  isDigit_of_mem c hc := by
    rcases List.mem_append.1 hc with hc | hc
    · rw [List.eq_of_mem_replicate hc]
      cases f.radix <;> rfl
    · obtain ⟨d, hd, rfl⟩ := List.mem_map.1 hc
      exact forall_mem_toDigits (p := fun c => f.radix.isDigit (f.letter c)) (base_bounds f.radix).1 f.isDigit_letter n d hd
  isSuffixLetter_of_mem := f.isSuffixLetter_of_mem
  length_le hr := by
    rw [f.digits_decimal hr]
    exact h hr
  eq_zero_of_head hr hhead := by
    rw [f.digits_decimal hr] at hhead ⊢
    exact toDigits_eq_zero hhead

theorem exists_isSign (v : Int) : ∃ z, IsSign (f.sign v) z ∧ z * v.natAbs = v := by
  unfold sign
  by_cases hv : v < 0
  · rw [if_pos hv]
    exact ⟨-1, .minus, by omega⟩
  · rw [if_neg hv]
    have habs : 1 * (v.natAbs : Int) = v := by omega
    split
    · exact ⟨1, .plus, habs⟩
    · exact ⟨1, .none, habs⟩

/-- **A printed integer is read back**, wrapped, also where a truth value may stand. -/
theorem readInteger_print {v : Int} (hfew : f.radix = .decimal → FewDigits v) {before after : Text}
    (hb : ∀ c ∈ before, isSpace c) (ha : ∀ c ∈ after, isSpace c) :
    readInteger (before ++ f.print v ++ after) = .ok (some (wrap32 v)) ∧
      readGameValue (before ++ f.print v ++ after) = .ok (some (wrap32 v)) := by
  obtain ⟨z, hsign, hz⟩ := f.exists_isSign v
  obtain ⟨n, hspells, hvalue, hshort⟩ := (f.literal v.natAbs hfew).spells
  have hwrites : WritesInteger (before ++ f.print v ++ after) z n :=
    ⟨before, f.sign v, _, after, rfl, hb, ha, hsign, hspells⟩
  have hnumber : n.value = v.natAbs := by
    rw [hvalue, Literal.value, ← Numeral.value_eq ⟨_, _⟩]
    exact f.value_digits v.natAbs
  have hread : readInteger (before ++ f.print v ++ after) = .ok (some (wrap32 v)) :=
    readInteger_eq_some_iff.2 ⟨z, n, hwrites, hshort, by rw [hnumber, hz]⟩
  exact ⟨hread, (readGameValue_of_writesInteger hwrites).trans hread⟩

end IntegerStyle

/-- **A text is read as an integer exactly if it is one**: a sign or none, then digits behind `0x`, octal digits behind
a zero, or decimal digits, then a suffix, with white space around.  The value is that of the digits in their base, with
the sign and wrapped; only a decimal number with more digits than are read is a fault instead.  So an integer is read
back in every style in which it may be printed, also where a truth value may stand. -/
theorem readInteger_integer_iff (t : Text) :
    (∀ v, readInteger t = .ok (some v) ↔ ∃ z n, WritesInteger t z n ∧ (n.base = 10 → n.digits.length ≤ digitLimit) ∧
      v = wrap32 (z * Nat.ofDigits n.base (n.digits.reverse.map hexValue))) ∧
    (∀ e, readInteger t = .error e ↔ ∃ z n, WritesInteger t z n ∧ n.base = 10 ∧ digitLimit < n.digits.length ∧
      e = .reading n.digits.length) ∧
    ∀ (f : IntegerStyle) (v : Int), (f.radix = .decimal → FewDigits v) → ∀ before after : Text,
      (∀ c ∈ before, isSpace c) → (∀ c ∈ after, isSpace c) →
      readInteger (before ++ f.print v ++ after) = .ok (some (wrap32 v)) ∧
        readGameValue (before ++ f.print v ++ after) = .ok (some (wrap32 v)) := by
  refine ⟨fun v => ?_, fun e => readInteger_eq_error_iff, fun f v hfew before after hb ha => f.readInteger_print hfew hb ha⟩
  rw [readInteger_eq_some_iff]
  simp only [Numeral.value_eq]

/-- `-0X0080000001uL` is printed for an integer below the 32-bit range, and read as the one congruent to it. -/
theorem readInteger_integer_negative :
    readInteger "\t-0X0080000001uL ".toList = .ok (some 2147483647) ∧
      readGameValue "\t-0X0080000001uL ".toList = .ok (some 2147483647) := by
  let f : IntegerStyle := ⟨.hexadecimal true, 2, true, false, ['u', 'L'], by simp, List.all_eq_true.1 rfl⟩
  obtain ⟨-, -, hprint⟩ := readInteger_integer_iff "\t-0X0080000001uL ".toList
  have hread := hprint f (-2147483649) (by simp [f]) ['\t'] [' '] (List.all_eq_true.1 rfl) (List.all_eq_true.1 rfl)
  have htext : ['\t'] ++ f.print (-2147483649) ++ [' '] = "\t-0X0080000001uL ".toList := by decide
  have hwrap : wrap32 (-2147483649) = 2147483647 := by decide
  rwa [htext, hwrap] at hread

end GameSource
