import GameSource.Expr.Evaluate
/-!
# Operators on 32-bit words

What a 32-bit machine makes of two words (`Operator.onWords`), and that an operator of expressions does the same with
the signed values of the words (`applyText_toInt`).  Every value of an expression is the signed value of a word, since
wrapping an integer is reading it as a word (`wrap32_eq_toInt`).
-/
namespace GameSource

theorem wrap32_eq_toInt (n : Int) : wrap32 n = (BitVec.ofInt 32 n).toInt := by
  rw [BitVec.toInt_ofInt]
  rfl

@[simp] theorem wrap32_toInt (x : BitVec 32) : wrap32 x.toInt = x.toInt := by
  rw [wrap32_eq_toInt, BitVec.ofInt_toInt]

namespace Operator

/-- The machine operation.  Division is signed and truncates, a shift counts by the five low bits of the right word,
and dividing by zero gives zero. -/
def onWords : Operator → BitVec 32 → BitVec 32 → BitVec 32
  | mul, x, y => x * y
  | div, x, y => if y = 0 then 0 else x.sdiv y
  | rem, x, y => if y = 0 then 0 else x.srem y
  | add, x, y => x + y
  | sub, x, y => x - y
  | shiftLeft, x, y => x <<< (y &&& 31).toNat
  | shiftRight, x, y => x.sshiftRight (y &&& 31).toNat
  | and, x, y => x &&& y
  | xor, x, y => x ^^^ y
  | or, x, y => x ||| y

/-- The shift count of a word is its signed value modulo 32. -/
theorem shiftCount (y : BitVec 32) : (y.toInt % 32).toNat = (y &&& 31).toNat := by
  have hmask : (y &&& 31).toNat = y.toNat % 32 := by
    rw [BitVec.toNat_and]
    exact Nat.and_two_pow_sub_one_eq_mod y.toNat 5
  rw [hmask, BitVec.toInt_eq_toNat_cond]
  split <;> omega

theorem ofInt_shiftLeft (n : Int) (k : Nat) : BitVec.ofInt 32 (n <<< k) = BitVec.ofInt 32 n <<< k := by
  have hpow : BitVec.ofInt 32 (2 ^ k) = BitVec.twoPow 32 k := by
    rw [show (2 ^ k : Int) = ((2 ^ k : Nat) : Int) by simp, BitVec.ofInt_natCast]
    apply BitVec.eq_of_toNat_eq
    rw [BitVec.toNat_ofNat, BitVec.toNat_twoPow]
  rw [Int.shiftLeft_eq, BitVec.ofInt_mul, hpow, BitVec.shiftLeft_eq_mul_twoPow]

theorem wrap32_shiftLeft (x : BitVec 32) (k : Nat) : wrap32 (x.toInt <<< k) = (x <<< k).toInt := by
  rw [wrap32_eq_toInt, ofInt_shiftLeft, BitVec.ofInt_toInt]

theorem wrap32_onBits (f : BitVec 32 → BitVec 32 → BitVec 32) (x y : BitVec 32) :
    wrap32 (onBits f x.toInt y.toInt) = (f x y).toInt := by
  rw [onBits, wrap32_toInt, BitVec.ofInt_toInt, BitVec.ofInt_toInt]

theorem toInt_eq_zero_iff (y : BitVec 32) : y.toInt = 0 ↔ y = 0 := by
  rw [← BitVec.toInt_inj]
  rfl

/-- **The wrapped result of an operator is the machine's**, unless it divides by zero. -/
theorem wrap32_exact (op : Operator) (x y : BitVec 32) (h : op.divides = true → y ≠ 0) :
    wrap32 (op.exact x.toInt y.toInt) = (op.onWords x y).toInt := by
  cases op with
  | mul => exact (BitVec.toInt_mul x y).symm
  | add => exact (BitVec.toInt_add x y).symm
  | sub => exact BitVec.toInt_sub.symm
  | div => rw [onWords, if_neg (h rfl), BitVec.toInt_sdiv]; rfl
  | rem => rw [onWords, if_neg (h rfl), exact, ← BitVec.toInt_srem, wrap32_toInt]
  | shiftLeft => rw [exact, shiftCount, wrap32_shiftLeft]; rfl
  | shiftRight => rw [exact, shiftCount, ← BitVec.toInt_sshiftRight, wrap32_toInt]; rfl
  | and => exact wrap32_onBits _ x y
  | xor => exact wrap32_onBits _ x y
  | or => exact wrap32_onBits _ x y

theorem onWords_zero : ∀ {op : Operator}, op.divides = true → ∀ x : BitVec 32, op.onWords x 0 = 0
  | div, _, _ => rfl
  | rem, _, _ => rfl

end Operator

/-- **An operator works on signed values as the machine does on words**, and tells a division by zero. -/
theorem applyText_toInt (op : Operator) (x y : BitVec 32) :
    applyText op.text x.toInt y.toInt =
      ((op.onWords x y).toInt, if op.divides = true ∧ y = 0 then [.divisionByZero] else []) := by
  unfold applyText
  rw [Operator.ofText?_text]
  by_cases h : op.divides = true ∧ y = 0
  · obtain ⟨hd, rfl⟩ := h
    rw [Operator.onWords_zero hd, if_pos ⟨hd, rfl⟩]
    simp [Operator.result?, hd]
  · have hr : (op.divides && y.toInt == 0) = false := by
      rw [← Bool.not_eq_true, Bool.and_eq_true, beq_iff_eq, Operator.toInt_eq_zero_iff]
      exact h
    simp only [Operator.result?, hr, Bool.false_eq_true, if_false, if_neg h]
    rw [Operator.wrap32_exact op x y fun hd hy => h ⟨hd, hy⟩]

end GameSource
