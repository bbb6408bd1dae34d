import GameSource.Proofs.Expr.Reading
import Mathlib.Data.Int.Bitwise
import Mathlib.Data.Int.ModEq
/-!
# The arithmetic of expressions

An operator gives on 32-bit integers what the machine gives on words (`applyText_machine`).  Seven of the ten look at
their operands modulo 2³² only, so that an expression over them may be worked out with integers without bounds and
wrapped at the end (`evaluation_unbounded`).
-/
namespace GameSource

/-! ## 32-bit integers -/

def IsInt32 (n : Int) : Prop := -2147483648 ≤ n ∧ n ≤ 2147483647

instance (n : Int) : Decidable (IsInt32 n) := inferInstanceAs (Decidable (_ ∧ _))

theorem IsInt32.toInt_ofInt {n : Int} (h : IsInt32 n) : (BitVec.ofInt 32 n).toInt = n := by
  have hbounds := wrap32_bounds n
  have hmod := wrap32_emod n
  rw [← wrap32_eq_toInt]
  unfold IsInt32 at h
  omega

namespace Operator

/-- An operator on two 32-bit integers. -/
theorem applyText_int32 (op : Operator) {left right : Int} (hl : IsInt32 left) (hr : IsInt32 right) :
    applyText op.text left right = if op.divides = true ∧ right = 0 then (0, [.divisionByZero]) else
      ((op.onWords (.ofInt 32 left) (.ofInt 32 right)).toInt, []) := by
  have hzero : BitVec.ofInt 32 right = 0 ↔ right = 0 := by rw [← toInt_eq_zero_iff, hr.toInt_ofInt]
  have happly := applyText_toInt op (.ofInt 32 left) (.ofInt 32 right)
  rw [hl.toInt_ofInt, hr.toInt_ofInt] at happly
  rw [happly]
  by_cases h : op.divides = true ∧ right = 0
  · rw [if_pos h, if_pos ⟨h.1, hzero.2 h.2⟩, hzero.2 h.2, onWords_zero h.1]
    rfl
  · rw [if_neg h, if_neg fun hdiv => h ⟨hdiv.1, hzero.1 hdiv.2⟩]

/-- Division truncates, and only its result is wrapped; the remainder goes with the exact quotient. -/
theorem applyText_divides {left right : Int} (hl : IsInt32 left) (hr : IsInt32 right) (hne : right ≠ 0) :
    applyText div.text left right = (wrap32 (left.tdiv right), []) ∧
      applyText rem.text left right = (left.tmod right, []) := by
  have hword : BitVec.ofInt 32 right ≠ 0 := by rwa [ne_eq, ← toInt_eq_zero_iff, hr.toInt_ofInt]
  rw [applyText_int32 div hl hr, applyText_int32 rem hl hr, if_neg fun h => hne h.2, if_neg fun h => hne h.2, onWords,
    onWords, if_neg hword, if_neg hword, BitVec.toInt_sdiv, BitVec.toInt_srem, hl.toInt_ofInt, hr.toInt_ofInt]
  exact ⟨rfl, rfl⟩

end Operator

open Operator in
/-- **An operator works on 32-bit integers as the machine does on words**, but for a division by zero, which gives 0
and is told.  So the least integer divided by -1 is itself, without a remainder; and a remainder has the sign of the
operand it is of, is smaller than the one that divides, and makes up for what the quotient leaves, modulo 2³². -/
theorem applyText_machine (op : Operator) {left right : Int} (hl : IsInt32 left) (hr : IsInt32 right) :
    applyText op.text left right = (if op.divides = true ∧ right = 0 then (0, [.divisionByZero]) else
      ((op.onWords (.ofInt 32 left) (.ofInt 32 right)).toInt, [])) ∧
    applyText div.text (-2147483648) (-1) = (-2147483648, []) ∧ applyText rem.text (-2147483648) (-1) = (0, []) ∧
    (right ≠ 0 → ∃ quotient remainder, applyText div.text left right = (quotient, []) ∧
      applyText rem.text left right = (remainder, []) ∧ (remainder = 0 ∨ remainder.sign = left.sign) ∧
      remainder.natAbs < right.natAbs ∧ quotient * right + remainder ≡ left [ZMOD 4294967296]) := by
  refine ⟨applyText_int32 op hl hr, by decide, by decide, fun hne => ?_⟩
  obtain ⟨hdiv, hrem⟩ := applyText_divides hl hr hne
  refine ⟨_, _, hdiv, hrem, ?_, ?_, ?_⟩
  · rw [Int.sign_tmod, ← Int.sign_eq_zero_iff_zero, Int.sign_tmod]
    split
    · exact .inl rfl
    · exact .inr rfl
  · rw [Int.natAbs_tmod]
    exact Nat.mod_lt _ (Int.natAbs_pos.2 hne)
  · calc wrap32 (left.tdiv right) * right + left.tmod right
        ≡ left.tdiv right * right + left.tmod right [ZMOD 4294967296] :=
          (Int.ModEq.mul_right right (wrap32_emod (left.tdiv right))).add_right _
      _ = left := Int.tdiv_mul_add_tmod left right

/-- `-7 % 3`, with the quotient -2 beside it. -/
theorem applyText_machine_negative : IsInt32 (-7) ∧ IsInt32 3 ∧ applyText Operator.rem.text (-7) 3 = (-1, []) ∧
    ∃ quotient remainder, applyText Operator.div.text (-7) 3 = (quotient, []) ∧
      applyText Operator.rem.text (-7) 3 = (remainder, []) ∧ (remainder = 0 ∨ remainder.sign = (-7 : Int).sign) ∧
      remainder.natAbs < (3 : Int).natAbs ∧ quotient * 3 + remainder ≡ -7 [ZMOD 4294967296] := by
  have hleft : IsInt32 (-7) := by decide
  have hright : IsInt32 3 := by decide
  obtain ⟨hrem, -, -, hdivides⟩ := applyText_machine .rem hleft hright
  rw [if_neg (by decide)] at hrem
  exact ⟨hleft, hright, hrem.trans (by decide), hdivides (by decide)⟩

/-! ## Integers without bounds -/

/-- The bits of a word are those of the integer in two's complement. -/
theorem getLsbD_ofInt (n : Int) {i : Nat} (hi : i < 32) : (BitVec.ofInt 32 n).getLsbD i = n.testBit i := by
  cases n with
  | ofNat n =>
    rw [Int.ofNat_eq_natCast, BitVec.ofInt_natCast, BitVec.getLsbD_ofNat, decide_eq_true hi, Bool.true_and]
    rfl
  | negSucc n =>
    rw [BitVec.ofInt_negSucc_eq_not_ofNat, BitVec.getLsbD_not, BitVec.getLsbD_ofNat, decide_eq_true hi, Bool.true_and]
    rfl

namespace Operator

/-- The result over all integers, which have infinitely many bits in two's complement.  A shift count is taken modulo
32. -/
def unbounded : Operator → Int → Int → Int
  | mul, left, right => left * right
  | div, left, right => left.tdiv right
  | rem, left, right => left.tmod right
  | add, left, right => left + right
  | sub, left, right => left - right
  | shiftLeft, left, right => left * 2 ^ (right % 32).toNat
  | shiftRight, left, right => left / 2 ^ (right % 32).toNat
  | and, left, right => left.land right
  | xor, left, right => left.xor right
  | or, left, right => left.lor right

/-- The operators that look at their operands modulo 2³² only. -/
def modular : List Operator := [add, sub, mul, shiftLeft, and, xor, or]

theorem shiftCount_ofInt (n : Int) : (BitVec.ofInt 32 n &&& 31).toNat = (n % 32).toNat := by
  have hmod := wrap32_emod n
  rw [← shiftCount, ← wrap32_eq_toInt]
  omega

/-- An operator on bits does the same to those of words. -/
theorem ofInt_bitwise {f : Int → Int → Int} {g : BitVec 32 → BitVec 32 → BitVec 32} {b : Bool → Bool → Bool}
    (hf : ∀ m n i, (f m n).testBit i = b (m.testBit i) (n.testBit i))
    (hg : ∀ x y i, (g x y).getLsbD i = b (x.getLsbD i) (y.getLsbD i)) (left right : Int) :
    BitVec.ofInt 32 (f left right) = g (.ofInt 32 left) (.ofInt 32 right) := by
  refine BitVec.eq_of_getLsbD_eq fun i hi => ?_
  rw [hg, getLsbD_ofInt _ hi, getLsbD_ofInt _ hi, getLsbD_ofInt _ hi, hf]

/-- **Wrapping before a modular operator changes nothing**: it is the machine's on the words of its operands. -/
theorem ofInt_unbounded {op : Operator} (h : op ∈ modular) (left right : Int) :
    BitVec.ofInt 32 (op.unbounded left right) = op.onWords (.ofInt 32 left) (.ofInt 32 right) := by
  cases op with
  | add => exact BitVec.ofInt_add left right
  | sub =>
    rw [unbounded, Int.sub_eq_add_neg, BitVec.ofInt_add, BitVec.ofInt_neg, ← BitVec.sub_eq_add_neg]
    rfl
  | mul => exact BitVec.ofInt_mul left right
  | shiftLeft => rw [unbounded, ← Int.shiftLeft_eq, ofInt_shiftLeft, onWords, shiftCount_ofInt]
  | and => exact ofInt_bitwise Int.testBit_land (fun x y i => BitVec.getLsbD_and) left right
  | xor => exact ofInt_bitwise Int.testBit_lxor (fun x y i => BitVec.getLsbD_xor) left right
  | or => exact ofInt_bitwise Int.testBit_lor (fun x y i => BitVec.getLsbD_or) left right
  | div => simp [modular] at h
  | rem => simp [modular] at h
  | shiftRight => simp [modular] at h

theorem not_divides_of_modular {op : Operator} (h : op ∈ modular) : op.divides = false := by
  cases op <;> simp [modular, divides] at h ⊢

end Operator

namespace Expression

def operators : Expression → List Operator
  | literal _ => []
  | name _ => []
  | binary op left right => op :: (left.operators ++ right.operators)

theorem forall_operators_binary {p : Operator → Prop} {op : Operator} {left right : Expression} :
    (∀ o ∈ (binary op left right).operators, p o) ↔
      p op ∧ (∀ o ∈ left.operators, p o) ∧ ∀ o ∈ right.operators, p o := by
  rw [operators, List.forall_mem_cons, List.forall_mem_append]

/-- The value over all integers, where `env` gives the names their values. -/
def unbounded (env : Text → Int) : Expression → Int
  | literal l => l.value
  | name i => env i.text
  | binary op left right => op.unbounded (left.unbounded env) (right.unbounded env)

variable {env : Text → Int}

/-- **Wrapping once at the end agrees with wrapping at every step**, if all operators are modular. -/
theorem ofInt_unbounded : ∀ {e : Expression}, (∀ op ∈ e.operators, op ∈ Operator.modular) →
    BitVec.ofInt 32 (e.unbounded env) = e.word env
  | literal l, _ => BitVec.ofInt_natCast 32 l.value
  | name _, _ => rfl
  | binary op left right, h => by
    obtain ⟨hop, hleft, hright⟩ := forall_operators_binary.1 h
    rw [unbounded, Operator.ofInt_unbounded hop, ofInt_unbounded hleft, ofInt_unbounded hright, word]

theorem zeroDivisions_eq_zero : ∀ {e : Expression}, (∀ op ∈ e.operators, op ∈ Operator.modular) →
    e.zeroDivisions env = 0
  | literal _, _ => rfl
  | name _, _ => rfl
  | binary op left right, h => by
    obtain ⟨hop, hleft, hright⟩ := forall_operators_binary.1 h
    simp [zeroDivisions, zeroDivisions_eq_zero hleft, zeroDivisions_eq_zero hright,
      Operator.not_divides_of_modular hop]

end Expression

/-- **An expression over modular operators is worked out as if integers had no bounds**, and its value is wrapped once:
reading its text, putting it into order and evaluating it meet no problem, and come to that value. -/
theorem evaluation_unbounded {t : Text} {e : Expression} {values : Text → Option Int} {env : Text → Int}
    (h : e.Writes t) (hops : ∀ op ∈ e.operators, op ∈ Operator.modular)
    (hvalues : ∀ n ∈ e.names, values n = some (env n)) (hfew : ∀ n ∈ e.names, FewDigits (env n)) :
    (tokenize values t).outcome = .ok (tokenize values t).tokens ∧ (tokenize values t).problems = [] ∧ (tokenize values t).rest = [] ∧
    (Postfix.ofTokens (tokenize values t).tokens).problems = [] ∧
    Evaluation.ofTokens (Postfix.ofTokens (tokenize values t).tokens).tokens =
      ⟨[], .ok (wrap32 (e.unbounded env))⟩ := by
  obtain ⟨ts, hread, hinfix⟩ := h.tokenize hvalues hfew
  have hvalue := Evaluation.ofTokensFrom_postfix hfew [] []
  rw [List.append_nil, Expression.zeroDivisions_eq_zero hops, List.replicate_zero,
    ← Expression.ofInt_unbounded hops, ← wrap32_eq_toInt] at hvalue
  have htokens : (tokenize values t).tokens = ts := by rw [hread]; rfl
  rw [htokens, hread, Postfix.ofTokens_infix hinfix]
  exact ⟨rfl, rfl, rfl, rfl, hvalue⟩

/-- `(0-1) ^ 4294967297<<33`: bits of a negative number, a literal beyond 32 bits and a shift by one. -/
theorem evaluation_unbounded_shift :
    (tokenize (fun _ => none) "(0-1) ^ 4294967297<<33".toList).outcome =
      .ok (tokenize (fun _ => none) "(0-1) ^ 4294967297<<33".toList).tokens ∧
    (tokenize (fun _ => none) "(0-1) ^ 4294967297<<33".toList).problems = [] ∧
    (tokenize (fun _ => none) "(0-1) ^ 4294967297<<33".toList).rest = [] ∧
    (Postfix.ofTokens (tokenize (fun _ => none) "(0-1) ^ 4294967297<<33".toList).tokens).problems = [] ∧
    Evaluation.ofTokens (Postfix.ofTokens (tokenize (fun _ => none) "(0-1) ^ 4294967297<<33".toList).tokens).tokens =
      ⟨[], .ok (-3)⟩ := by
  let zero : Literal :=
    ⟨.decimal, ['0'], [], by decide, List.all_eq_true.1 rfl, List.all_eq_true.1 rfl, by decide, by decide⟩
  let one : Literal :=
    ⟨.decimal, ['1'], [], by decide, List.all_eq_true.1 rfl, List.all_eq_true.1 rfl, by decide, by decide⟩
  let large : Literal :=
    ⟨.decimal, "4294967297".toList, [], by decide, List.all_eq_true.1 rfl, List.all_eq_true.1 rfl, by decide, by decide⟩
  let count : Literal :=
    ⟨.decimal, "33".toList, [], by decide, List.all_eq_true.1 rfl, List.all_eq_true.1 rfl, by decide, by decide⟩
  let e : Expression := .binary .xor (.binary .sub (.literal zero) (.literal one))
    (.binary .shiftLeft (.literal large) (.literal count))
  have hnone : ∀ c ∈ ([] : Text), isSpace c := by simp
  have hblank : ∀ c ∈ [' '], isSpace c := List.all_eq_true.1 rfl
  have hminus : Expression.Spells Operator.xor.looseness "(0-1)".toList (.binary .sub (.literal zero) (.literal one)) :=
    .parens _ hnone hnone (.binary .sub (by decide) hnone hnone (.literal _ zero) (.literal _ one))
  have hshift : Expression.Spells (Operator.xor.looseness - 1) "4294967297<<33".toList
      (.binary .shiftLeft (.literal large) (.literal count)) :=
    .binary .shiftLeft (by decide) hnone hnone (.literal _ large) (.literal _ count)
  have hbody : Expression.Spells Operator.or.looseness "(0-1) ^ 4294967297<<33".toList e :=
    .binary .xor (by decide) hblank hblank hminus hshift
  have hvalue : wrap32 (e.unbounded fun _ => 0) = -3 := by decide
  have hnames : e.names = [] := rfl
  have hvalues : ∀ n ∈ e.names, (none : Option Int) = some ((fun _ => 0 : Text → Int) n) := by simp [hnames]
  have hworked := evaluation_unbounded ⟨[], _, [], rfl, hnone, hnone, hbody⟩ (by decide) hvalues (by simp [hnames])
  rw [hvalue] at hworked
  exact hworked

end GameSource
