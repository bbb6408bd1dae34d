import GameSource.Number.Literal
import GameSource.Proofs.Text.Runs
import Mathlib.Data.List.Basic
import Mathlib.Data.Nat.Digits.Defs
/-!
# Integer literals, and integers in decimal, are read back

A numeral is digits in one of three radixes with a run of suffix letters, and no other text is read as one
(`Numeral.ofText?_eq_some_iff`).  Reading the text of a literal gives the value of its digits, wrapped
(`readInteger_literal`).  An integer is written in decimal if it has few digits, and read back, wrapped
(`readInteger_of_writeInteger`).
-/
namespace GameSource

/-! ## Classes of digits -/

theorem isHexDigit_ascii {c : Char} (h : isHexDigit c) : c.toNat < 128 := by
  simp only [isHexDigit, Char.isDigit, Bool.or_eq_true, Bool.and_eq_true, decide_eq_true_eq, Char.le_def, ge_iff_le,
    UInt32.le_iff_toNat_le] at h
  have hc : c.toNat = c.val.toNat := rfl
  rcases h with (⟨-, h⟩ | ⟨-, h⟩) | ⟨-, h⟩ <;> rw [hc] <;> exact Nat.lt_of_le_of_lt h (by decide)

theorem isHexDigit_of_isDigit {c : Char} (h : c.isDigit) : isHexDigit c := by
  simp [isHexDigit, h]

theorem isDigit_of_isOctalDigit {c : Char} (h : isOctalDigit c) : c.isDigit := by
  simp only [isOctalDigit, Bool.and_eq_true, decide_eq_true_eq, Char.le_def, UInt32.le_iff_toNat_le] at h
  simp only [Char.isDigit, Bool.and_eq_true, decide_eq_true_eq, ge_iff_le, UInt32.le_iff_toNat_le]
  have : '7'.val.toNat ≤ '9'.val.toNat := by decide
  exact ⟨h.1, Nat.le_trans h.2 this⟩

/-- A digit of any radix is a word character and begins no other class that readers of numbers ask for. -/
theorem hexDigit_classes {c : Char} (h : isHexDigit c) :
    isSpace c = false ∧ isAsciiWord c = true ∧ isSuffixLetter c = false ∧ c ≠ '-' ∧ c ≠ '+' ∧ c ≠ 'x' ∧ c ≠ 'X' := by
  have := of_ascii (p := fun c => !isHexDigit c || (!isSpace c && isAsciiWord c && !isSuffixLetter c && c != '-' &&
    c != '+' && c != 'x' && c != 'X')) (by decide) (isHexDigit_ascii h)
  simpa [h, and_assoc] using this

theorem suffixLetter_classes {c : Char} (h : isSuffixLetter c) :
    isSpace c = false ∧ isAsciiWord c = true ∧ c.isDigit = false ∧ isHexDigit c = false ∧ c ≠ 'x' ∧ c ≠ 'X' := by
  simp only [isSuffixLetter, Bool.or_eq_true, beq_iff_eq] at h
  rcases h with ((rfl | rfl) | rfl) | rfl <;> decide

/-! ## Numerals -/

theorem Numeral.value_eq (n : Numeral) : n.value = Nat.ofDigits n.base (n.digits.reverse.map hexValue) := by
  rw [Nat.ofDigits_eq_foldr, List.foldr_map, List.foldr_reverse]
  unfold Numeral.value
  congr 1
  funext v c
  exact Nat.add_comm _ _

/-- The numeral of decimal or octal digits with a suffix. -/
theorem Numeral.ofText?_digits {digits suffix : Text} (hd : ∀ c ∈ digits, c.isDigit)
    (hs : ∀ c ∈ suffix, isSuffixLetter c) :
    Numeral.ofText? (digits ++ suffix) = Numeral.ofDigits? digits := by
  have hstop : Stops Char.isDigit suffix := .of_all fun c hc => (suffixLetter_classes (hs c hc)).2.2.1
  have hx : ((digits ++ suffix)[1]? == some 'x' || (digits ++ suffix)[1]? == some 'X') = false := by
    rw [Bool.or_eq_false_iff, beq_eq_false_iff_ne, beq_eq_false_iff_ne]
    have hmem : ∀ c ∈ digits ++ suffix, c ≠ 'x' ∧ c ≠ 'X' := by
      intro c hc
      rcases List.mem_append.1 hc with hc | hc
      · exact (hexDigit_classes (isHexDigit_of_isDigit (hd c hc))).2.2.2.2.2
      · exact (suffixLetter_classes (hs c hc)).2.2.2.2
    exact ⟨fun h => (hmem _ (List.mem_of_getElem? h)).1 rfl, fun h => (hmem _ (List.mem_of_getElem? h)).2 rfl⟩
  unfold Numeral.ofText?
  rw [hx, Bool.and_false, if_neg Bool.false_ne_true, takeWhile_run hd hstop, dropWhile_run hd hstop]
  simp [List.all_eq_true.2 hs]

theorem Numeral.ofText?_hexDigits {digits suffix : Text} (x : Char) (hx : x = 'x' ∨ x = 'X') (hne : digits ≠ [])
    (hd : ∀ c ∈ digits, isHexDigit c) (hs : ∀ c ∈ suffix, isSuffixLetter c) :
    Numeral.ofText? ('0' :: x :: (digits ++ suffix)) = some ⟨16, digits⟩ := by
  have hstop : Stops isHexDigit suffix := .of_all fun c hc => (suffixLetter_classes (hs c hc)).2.2.2.1
  have hlead : (('0' :: x :: (digits ++ suffix)).head? == some '0' && (('0' :: x :: (digits ++ suffix))[1]? == some 'x'
      || ('0' :: x :: (digits ++ suffix))[1]? == some 'X')) = true := by
    rcases hx with rfl | rfl <;> rfl
  unfold Numeral.ofText?
  rw [hlead, if_pos rfl]
  simp only [List.drop_succ_cons, List.drop_zero, takeWhile_run hd hstop, dropWhile_run hd hstop]
  simp [hne, List.all_eq_true.2 hs]

/-- Octal digits behind a zero, which is one of them. -/
theorem Numeral.ofDigits?_octal {digits : Text} (hne : digits ≠ []) (hd : ∀ c ∈ digits, isOctalDigit c) :
    ofDigits? ('0' :: digits) = some ⟨8, '0' :: digits⟩ := by
  have hall : ∀ c ∈ '0' :: digits, isOctalDigit c := List.forall_mem_cons.2 ⟨rfl, hd⟩
  obtain ⟨d, ds, rfl⟩ := List.exists_cons_of_ne_nil hne
  rw [ofDigits?, if_pos (List.all_eq_true.2 hall)]

/-- Digits that do not begin with a zero, or are one. -/
theorem Numeral.ofDigits?_decimal {digits : Text} (hne : digits ≠ [])
    (hzero : digits.head? = some '0' → digits = ['0']) : ofDigits? digits = some ⟨10, digits⟩ := by
  match digits, hne, hzero with
  | [c], _, _ => simp [ofDigits?]
  | c :: d :: ds, _, hzero =>
    have hc : c ≠ '0' := by
      intro hc
      rw [hc] at hzero
      cases hzero rfl
    simp [ofDigits?, hc]

/-- `Spells t n`: the text is the numeral, with a suffix.  A decimal one begins with a zero only if it has no other
digit, since digits behind a zero are octal. -/
inductive Numeral.Spells : Text → Numeral → Prop where
  | hexadecimal {x : Char} {digits suffix : Text} (hx : x = 'x' ∨ x = 'X') (hne : digits ≠ [])
      (hd : ∀ c ∈ digits, isHexDigit c) (hs : ∀ c ∈ suffix, isSuffixLetter c) :
      Spells ('0' :: x :: (digits ++ suffix)) ⟨16, digits⟩
  | octal {digits suffix : Text} (hne : digits ≠ []) (hd : ∀ c ∈ digits, isOctalDigit c)
      (hs : ∀ c ∈ suffix, isSuffixLetter c) : Spells ('0' :: digits ++ suffix) ⟨8, '0' :: digits⟩
  | decimal {digits suffix : Text} (hne : digits ≠ []) (hd : ∀ c ∈ digits, c.isDigit)
      (hzero : digits.head? = some '0' → digits = ['0']) (hs : ∀ c ∈ suffix, isSuffixLetter c) :
      Spells (digits ++ suffix) ⟨10, digits⟩

theorem Numeral.Spells.ofText? {t : Text} {n : Numeral} (h : Spells t n) : Numeral.ofText? t = some n := by
  cases h with
  | hexadecimal hx hne hd hs => exact ofText?_hexDigits _ hx hne hd hs
  | octal hne hd hs =>
    have hdigit : ∀ c ∈ '0' :: _, c.isDigit :=
      List.forall_mem_cons.2 ⟨rfl, fun c hc => isDigit_of_isOctalDigit (hd c hc)⟩
    rw [ofText?_digits hdigit hs, ofDigits?_octal hne hd]
  | decimal hne hd hzero hs => rw [ofText?_digits hd hs, ofDigits?_decimal hne hzero]

/-- The characters of a numeral are word characters. -/
theorem Numeral.Spells.isAsciiWord {t : Text} {n : Numeral} (h : Spells t n) : ∀ c ∈ t, isAsciiWord c := by
  have hparts {p : Char → Bool} {digits suffix : Text} (hd : ∀ c ∈ digits, p c) (hp : ∀ c, p c → isHexDigit c)
      (hs : ∀ c ∈ suffix, isSuffixLetter c) : ∀ c ∈ digits ++ suffix, GameSource.isAsciiWord c := by
    intro c hc
    rcases List.mem_append.1 hc with hc | hc
    · exact (hexDigit_classes (hp c (hd c hc))).2.1
    · exact (suffixLetter_classes (hs c hc)).2.1
  cases h with
  | @hexadecimal x digits suffix hx _ hd hs =>
    have hxw : GameSource.isAsciiWord x := by rcases hx with rfl | rfl <;> rfl
    exact List.forall_mem_cons.2 ⟨rfl, List.forall_mem_cons.2 ⟨hxw, hparts hd (fun _ => id) hs⟩⟩
  | octal _ hd hs =>
    exact List.forall_mem_cons.2 ⟨rfl, hparts hd (fun c hc => isHexDigit_of_isDigit (isDigit_of_isOctalDigit hc)) hs⟩
  | decimal _ hd _ hs => exact hparts hd (fun c => isHexDigit_of_isDigit) hs

/-- A numeral begins with a decimal digit. -/
theorem Numeral.Spells.exists_eq_cons {t : Text} {n : Numeral} (h : Spells t n) : ∃ c u, t = c :: u ∧ c.isDigit := by
  cases h with
  | hexadecimal => exact ⟨'0', _, rfl, rfl⟩
  | octal => exact ⟨'0', _, rfl, rfl⟩
  | decimal hne hd =>
    obtain ⟨d, ds, rfl⟩ := List.exists_cons_of_ne_nil hne
    exact ⟨d, _, rfl, hd d List.mem_cons_self⟩

theorem Numeral.spells_of_ofDigits? {digits suffix : Text} {n : Numeral} (hd : ∀ c ∈ digits, c.isDigit)
    (hs : ∀ c ∈ suffix, isSuffixLetter c) (h : ofDigits? digits = some n) : Spells (digits ++ suffix) n := by
  unfold ofDigits? at h
  split at h
  · cases h
  · rename_i d ds
    split at h
    · rename_i hoctal
      cases h
      exact .octal (List.cons_ne_nil d ds) (List.forall_mem_cons.1 (List.all_eq_true.1 hoctal)).2 hs
    · cases h
  · rename_i hne hzero
    cases h
    refine .decimal hne hd ?_ hs
    intro hhead
    match digits, hne, hhead with
    | [c], _, hhead => rw [Option.some.inj hhead]
    | c :: d :: ds, _, hhead => exact absurd (Option.some.inj hhead ▸ rfl) (hzero d ds)

/-- A text that begins as a hexadecimal number does. -/
theorem exists_of_hexLead {t : Text} (h : (t.head? == some '0' && (t[1]? == some 'x' || t[1]? == some 'X')) = true) :
    ∃ x u, t = '0' :: x :: u ∧ (x = 'x' ∨ x = 'X') := by
  rcases t with _ | ⟨c, _ | ⟨x, u⟩⟩
  · simp at h
  · simp at h
  · simp only [List.head?_cons, List.getElem?_cons_succ, List.getElem?_cons_zero, Option.some_beq_some, beq_iff_eq,
      Bool.and_eq_true, Bool.or_eq_true] at h
    obtain ⟨rfl, hx⟩ := h
    exact ⟨x, u, rfl, hx⟩

/-- **A text is a numeral exactly if it spells it.** -/
theorem Numeral.ofText?_eq_some_iff {t : Text} {n : Numeral} : Numeral.ofText? t = some n ↔ Spells t n := by
  refine ⟨fun h => ?_, Spells.ofText?⟩
  have hplain (h : (if (t.dropWhile Char.isDigit).all isSuffixLetter then ofDigits? (t.takeWhile Char.isDigit)
      else none) = some n) : Spells t n := by
    obtain ⟨hs, h⟩ := Option.ite_none_right_eq_some.1 h
    have hd : ∀ c ∈ t.takeWhile Char.isDigit, c.isDigit := List.all_eq_true.1 List.all_takeWhile
    rw [← List.takeWhile_append_dropWhile (p := Char.isDigit) (l := t)]
    exact spells_of_ofDigits? hd (List.all_eq_true.1 hs) h
  unfold Numeral.ofText? at h
  by_cases hlead : (t.head? == some '0' && (t[1]? == some 'x' || t[1]? == some 'X')) = true
  · rw [hlead] at h
    by_cases hhex : (t.drop 2).takeWhile isHexDigit = []
    · simp only [if_true, hhex, ne_eq, not_true_eq_false, if_false] at h
      exact hplain h
    · simp only [if_true, ne_eq, hhex, not_false_eq_true] at h
      obtain ⟨hs, h⟩ := Option.ite_none_right_eq_some.1 h
      cases h
      obtain ⟨x, u, rfl, hx⟩ := exists_of_hexLead hlead
      have hspells := Spells.hexadecimal hx hhex (List.all_eq_true.1 List.all_takeWhile) (List.all_eq_true.1 hs)
      rwa [List.drop_succ_cons, List.drop_succ_cons, List.drop_zero, List.takeWhile_append_dropWhile] at hspells
  · rw [if_neg hlead] at h
    exact hplain h

/-! ## Literals -/

inductive Radix where
  | decimal | octal | hexadecimal (capital : Bool)
  deriving DecidableEq, Repr

namespace Radix

def base : Radix → Nat
  | decimal => 10
  | octal => 8
  | hexadecimal _ => 16

/-- What tells the radix of a literal. -/
def lead : Radix → Text
  | decimal => []
  | octal => ['0']
  | hexadecimal false => ['0', 'x']
  | hexadecimal true => ['0', 'X']

def isDigit : Radix → Char → Bool
  | decimal => Char.isDigit
  | octal => isOctalDigit
  | hexadecimal _ => isHexDigit

end Radix

/-- An unsigned integer literal.  A decimal one does not begin with a zero, which would make it octal, and has at most
`digitLimit` digits. -/
structure Literal where
  radix : Radix
  digits : Text
  suffix : Text
  digits_ne_nil : digits ≠ []
  isDigit_of_mem : ∀ c ∈ digits, radix.isDigit c
  isSuffixLetter_of_mem : ∀ c ∈ suffix, isSuffixLetter c
  length_le : radix = .decimal → digits.length ≤ digitLimit
  eq_zero_of_head : radix = .decimal → digits.head? = some '0' → digits = ['0']

namespace Literal

def text (l : Literal) : Text := l.radix.lead ++ l.digits ++ l.suffix

/-- The number that the digits stand for, the last one being the unit. -/
def value (l : Literal) : Nat := Nat.ofDigits l.radix.base (l.digits.reverse.map hexValue)

end Literal

/-! ## Reading literals -/

namespace Literal

/-- **The text of a literal spells a numeral of its value**, short enough to be read. -/
theorem spells (l : Literal) : ∃ n, Numeral.Spells l.text n ∧ n.value = l.value ∧
    (n.base = 10 → n.digits.length ≤ digitLimit) := by
  obtain ⟨radix, digits, suffix, hne, hd, hs, hlen, hzero⟩ := l
  cases radix with
  | decimal => exact ⟨⟨10, digits⟩, .decimal hne hd (hzero rfl) hs, Numeral.value_eq _, fun _ => hlen rfl⟩
  | octal =>
    refine ⟨⟨8, '0' :: digits⟩, .octal hne hd hs, ?_, fun h => by cases h⟩
    rw [Numeral.value_eq]
    simp [value, Radix.base, Nat.ofDigits_append, hexValue]
  | hexadecimal capital =>
    refine ⟨⟨16, digits⟩, ?_, Numeral.value_eq _, fun h => by cases h⟩
    cases capital with
    | false => exact .hexadecimal (.inl rfl) hne hd hs
    | true => exact .hexadecimal (.inr rfl) hne hd hs

/-- The characters of a literal are word characters. -/
theorem isAsciiWord_of_mem (l : Literal) {c : Char} (hc : c ∈ l.text) : isAsciiWord c := by
  obtain ⟨n, hn, -⟩ := l.spells
  exact hn.isAsciiWord c hc

/-- A literal begins with a decimal or hexadecimal digit. -/
theorem exists_text_eq_cons (l : Literal) : ∃ c t, l.text = c :: t ∧ c.isDigit := by
  obtain ⟨n, hn, -⟩ := l.spells
  exact hn.exists_eq_cons

end Literal

/-! ## Reading integers -/

/-- A text without white space and sign is read as the numeral that it is. -/
theorem readInteger_word {t : Text} (hw : ∀ c ∈ t, isAsciiWord c) :
    readInteger t = match Numeral.ofText? t with
      | none => .ok none
      | some n =>
        if n.base = 10 ∧ digitLimit < n.digits.length then .error (.reading n.digits.length)
        else .ok (some (wrap32 n.value)) := by
  have hsign : readSign t = (1, t) := by
    unfold readSign
    split
    · exact absurd (hw '-' (by simp)) (by decide)
    · exact absurd (hw '+' (by simp)) (by decide)
    · rfl
  unfold readInteger
  rw [trim_of_not_isSpace fun c hc => isSpace_of_isAsciiWord (hw c hc), hsign]
  cases ht : Numeral.ofText? t with
  | none => simp only [ht]
  | some n => simp only [ht, Int.one_mul]

theorem readInteger_unsigned {t : Text} {n : Numeral} (hw : ∀ c ∈ t, isAsciiWord c) (ht : Numeral.ofText? t = some n)
    (hn : n.base = 10 → n.digits.length ≤ digitLimit) : readInteger t = .ok (some (wrap32 n.value)) := by
  have hshort : ¬ (n.base = 10 ∧ digitLimit < n.digits.length) := fun h => Nat.not_lt.2 (hn h.1) h.2
  simp only [readInteger_word hw, ht, if_neg hshort]

/-- **A literal is read as its value**, wrapped. -/
theorem readInteger_literal (l : Literal) : readInteger l.text = .ok (some (wrap32 l.value)) := by
  obtain ⟨n, ht, hv, hlen⟩ := l.spells
  rw [readInteger_unsigned (fun c => l.isAsciiWord_of_mem) ht.ofText? hlen, hv]

/-! ## Integers in decimal -/

theorem head?_toDigits {n : Nat} (hn : n ≠ 0) : (Nat.toDigits 10 n).head? ≠ some '0' := by
  induction n using Nat.strongRecOn with
  | _ n ih =>
    by_cases h : 10 ≤ n
    · have hrest := ih (n / 10) (by omega) (by omega)
      rw [Nat.toDigits_of_base_le (by decide) h]
      cases hd : Nat.toDigits 10 (n / 10) with
      | nil => exact absurd hd Nat.toDigits_ne_nil
      | cons d ds => rwa [hd] at hrest
    · have hdigit : ∀ n < 10, n ≠ 0 → [n.digitChar].head? ≠ some '0' := by decide
      rw [Nat.toDigits_of_lt_base (by omega)]
      exact hdigit n (by omega) hn

theorem toDigits_eq_zero {n : Nat} (h : (Nat.toDigits 10 n).head? = some '0') : Nat.toDigits 10 n = ['0'] := by
  by_cases hn : n = 0
  · rw [hn]
    rfl
  · exact absurd h (head?_toDigits hn)

theorem ofDigits?_toDigits (n : Nat) : Numeral.ofDigits? (Nat.toDigits 10 n) = some ⟨10, Nat.toDigits 10 n⟩ :=
  Numeral.ofDigits?_decimal Nat.toDigits_ne_nil toDigits_eq_zero

theorem hexValue_digitChar : ∀ d < 16, hexValue d.digitChar = d := by decide

/-- The digits of a number stand for it, in any base that has digits. -/
theorem value_toDigits {b : Nat} (hb : 1 < b) (hle : b ≤ 16) (n : Nat) :
    Numeral.value ⟨b, Nat.toDigits b n⟩ = n := by
  induction n using Nat.strongRecOn with
  | _ n ih =>
    by_cases hn : n < b
    · rw [Nat.toDigits_of_lt_base hn, Numeral.value, List.foldl_cons, hexValue_digitChar n (by omega)]
      simp
    · have hrest := ih (n / b) (Nat.div_lt_self (by omega) hb)
      unfold Numeral.value at hrest ⊢
      rw [Nat.toDigits_of_base_le hb (Nat.le_of_not_lt hn), List.foldl_append, hrest, List.foldl_cons, List.foldl_nil,
        hexValue_digitChar _ (Nat.lt_of_lt_of_le (Nat.mod_lt n (by omega)) hle), Nat.div_add_mod]

theorem decimalText_eq (n : Int) :
    decimalText n = if 0 ≤ n then Nat.toDigits 10 n.natAbs else '-' :: Nat.toDigits 10 n.natAbs := by
  rw [decimalText, Int.toString_eq_repr, Int.repr_eq_if]
  split
  · rw [Nat.toList_repr, show n.toNat = n.natAbs by omega]
  · rw [String.toList_append, Nat.toList_repr, show (-n).toNat = n.natAbs by omega]
    rfl

theorem fewDigits_of_lt {n : Int} {k : Nat} (hk : 0 < k) (hle : k ≤ digitLimit) (h : n.natAbs < 10 ^ k) :
    FewDigits n := Nat.le_trans ((Nat.length_toDigits_le_iff (by decide) hk).2 h) hle

theorem fewDigits_iff {n : Int} : FewDigits n ↔ n.natAbs < 10 ^ digitLimit :=
  Nat.length_toDigits_le_iff (by decide) (by decide)

/-- The least integer that has more digits than are written. -/
theorem not_fewDigits_limit : ¬ FewDigits (Nat.pow 10 digitLimit) := by
  rw [fewDigits_iff, Int.natAbs_natCast, Nat.pow_eq]
  generalize 10 ^ digitLimit = n
  exact Nat.lt_irrefl n

/-- A 32-bit word has few digits. -/
theorem fewDigits_toInt (w : BitVec 32) : FewDigits w.toInt := by
  have hlow := w.le_toInt
  have hhigh := w.toInt_lt
  exact fewDigits_of_lt (k := 10) (by decide) (by decide) (by omega)

/-- **An integer written in decimal is read back**, wrapped, if it is short enough to be read. -/
theorem readInteger_decimalText {n : Int} (h : FewDigits n) :
    readInteger (decimalText n) = .ok (some (wrap32 n)) := by
  have hdigit : ∀ c ∈ Nat.toDigits 10 n.natAbs, c.isDigit :=
    fun c hc => Nat.isDigit_of_mem_toDigits (by decide) (by decide) hc
  have hword : ∀ c ∈ Nat.toDigits 10 n.natAbs, isAsciiWord c :=
    fun c hc => (hexDigit_classes (isHexDigit_of_isDigit (hdigit c hc))).2.1
  have hnum : Numeral.ofText? (Nat.toDigits 10 n.natAbs) = some ⟨10, Nat.toDigits 10 n.natAbs⟩ := by
    have := Numeral.ofText?_digits hdigit (show ∀ c ∈ ([] : Text), isSuffixLetter c by simp)
    rw [List.append_nil] at this
    rw [this, ofDigits?_toDigits]
  rw [decimalText_eq]
  split
  · rw [readInteger_unsigned hword hnum (fun _ => h), value_toDigits (by decide) (by decide), Int.natAbs_of_nonneg ‹_›]
  · have hspace : ∀ c ∈ '-' :: Nat.toDigits 10 n.natAbs, isSpace c = false := by
      intro c hc
      rcases List.mem_cons.1 hc with rfl | hc
      · rfl
      · exact isSpace_of_isAsciiWord (hword c hc)
    unfold readInteger
    rw [trim_of_not_isSpace hspace]
    simp only [readSign, hnum, true_and, if_neg (Nat.not_lt.2 h),
      value_toDigits (b := 10) (by decide) (by decide)]
    congr 3
    omega

/-- What stops the reading of a number is the number. -/
theorem exists_reading {t : Text} {e : DigitLimit} (h : readInteger t = .error e) : ∃ count, e = .reading count := by
  unfold readInteger at h
  simp only at h
  split at h
  · cases h
  · split at h
    · exact ⟨_, (Except.error.inj h).symm⟩
    · cases h

/-! ## Integers that are written -/

theorem writeInteger_eq_ok_iff {n : Int} {t : Text} : writeInteger n = .ok t ↔ FewDigits n ∧ t = decimalText n := by
  unfold writeInteger
  split
  · rename_i h
    exact ⟨fun heq => ⟨h, (Except.ok.inj heq).symm⟩, fun heq => congrArg _ heq.2.symm⟩
  · rename_i h
    exact ⟨fun heq => (by cases heq), fun heq => absurd heq.1 h⟩

theorem writeInteger_eq_error_iff {n : Int} {e : DigitLimit} :
    writeInteger n = .error e ↔ ¬ FewDigits n ∧ e = .writing := by
  unfold writeInteger
  split
  · rename_i h
    exact ⟨fun heq => (by cases heq), fun heq => absurd h heq.1⟩
  · rename_i h
    exact ⟨fun heq => ⟨h, (Except.error.inj heq).symm⟩, fun heq => congrArg _ heq.2.symm⟩

/-- **An integer that is written is read back**, wrapped. -/
theorem readInteger_of_writeInteger {n : Int} {t : Text} (h : writeInteger n = .ok t) :
    readInteger t = .ok (some (wrap32 n)) := by
  obtain ⟨hfew, rfl⟩ := writeInteger_eq_ok_iff.1 h
  exact readInteger_decimalText hfew

end GameSource
