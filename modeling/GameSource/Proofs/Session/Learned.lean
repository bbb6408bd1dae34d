import GameSource.Proofs.Expr.Arithmetic
import GameSource.Proofs.Number.Integer
import GameSource.Proofs.Session.Kept
import GameSource.Proofs.Session.Valued
/-!
# What a session learns

Any tokens have a 32-bit value, or are stopped by a decimal number with too many digits (`Token.IsLong`).  A session
learns nothing but such values, whatever integers it knows to begin with (`evaluation_int32`): those go into expressions
as texts, and are wrapped where they are read.
-/
namespace GameSource

open SessionStep

theorem isWord_iff_isInt32 {v : Int} : IsWord v ↔ IsInt32 v := by
  constructor
  · rintro ⟨w, rfl⟩
    have hbounds := wrap32_bounds w.toInt
    rw [wrap32_toInt] at hbounds
    unfold IsInt32
    omega
  · intro h
    exact ⟨.ofInt 32 v, h.toInt_ofInt.symm⟩

/-! ## Values of tokens -/

/-- A decimal numeral of several digits does not begin with a zero. -/
theorem Numeral.Spells.head?_ne_zero {t digits : Text} (h : Spells t ⟨10, digits⟩) (hmany : 1 < digits.length) :
    digits.head? ≠ some '0' := by
  intro hhead
  cases h with
  | decimal _ _ hzero _ =>
    rw [hzero hhead] at hmany
    exact absurd hmany (by decide)

/-- The token is a decimal number of `count` digits, the first of them no zero, and these are more than are read. -/
def Token.IsLong (t : Token) (count : Nat) : Prop :=
  t.kind = .number ∧ digitLimit < count ∧
    ∃ z digits, WritesInteger t.text z ⟨10, digits⟩ ∧ digits.head? ≠ some '0' ∧ digits.length = count

theorem Token.isLong_iff {t : Token} {count : Nat} : t.IsLong count ↔ t.fault? = some (.reading count) := by
  rw [fault?_eq_some_iff, readInteger_eq_error_iff]
  refine and_congr_right fun _ => ?_
  constructor
  · rintro ⟨hlimit, z, digits, hwrites, -, rfl⟩
    exact ⟨z, ⟨10, digits⟩, hwrites, rfl, hlimit, rfl⟩
  · rintro ⟨z, ⟨base, digits⟩, hwrites, rfl, hlimit, heq⟩
    cases heq
    have hmany : 1 < digits.length := Nat.lt_trans (by decide) hlimit
    obtain ⟨sign, body, -, -, hspells⟩ := trim_of_writesInteger hwrites
    exact ⟨hlimit, z, digits, hwrites, hspells.head?_ne_zero hmany, rfl⟩

/-- **A value is a 32-bit integer, and only a number that is too long is in its way.** -/
theorem Evaluation.ofTokens_int32 (ts : List Token) :
    (∃ v, (ofTokens ts).value = .ok v ∧ IsInt32 v ∧ ∀ t ∈ ts, ∀ count, ¬ t.IsLong count) ∨
      ∃ t ∈ ts, ∃ count, t.IsLong count ∧ (ofTokens ts).value = .error (.reading count) := by
  rcases ofTokensFrom_value ts [] with ⟨e, he, herror⟩ | ⟨hnone, v, hv⟩
  · right
    obtain ⟨t, ht, hfault⟩ := List.exists_of_findSome?_eq_some he
    obtain ⟨count, rfl⟩ := exists_reading (Token.fault?_eq_some_iff.1 hfault).2
    exact ⟨t, ht, count, Token.isLong_iff.2 hfault, herror⟩
  · left
    refine ⟨v, hv, isWord_iff_isInt32.1 (ofTokens_word hv), ?_⟩
    intro t ht count hlong
    rw [Token.isLong_iff, List.findSome?_eq_none_iff.1 hnone t ht] at hlong
    cases hlong

/-! ## Values that are learned -/

namespace Session

/-- What the second session knows and the first does not are 32-bit integers. -/
def Learns (s s' : Session) : Prop := ∀ e ∈ s'.known, e ∈ s.known ∨ IsInt32 e.2

namespace Learns

variable {s s₁ s' : Session}

theorem of_known (h : s'.known = s.known) : s.Learns s' := by
  intro e he
  rw [h] at he
  exact .inl he

theorem trans (h : s.Learns s₁) (h' : s₁.Learns s') : s.Learns s' := by
  intro e he
  rcases h' e he with he | hint
  · exact h e he
  · exact .inr hint

theorem told (s : Session) (name : Text) : s.Learns (s.told name) := .of_known (told_known s name)

theorem learnt (h : s.Learns s') (name : Text) {v : Int} (hv : IsInt32 v) : s.Learns (s'.learnt name v) := by
  intro e he
  rcases Entries.mem_of_mem_put he with rfl | he
  · exact .inr hv
  · exact h e he

end Learns

end Session

theorem Runs.isInt32_of_evaluate {context expression : Text} {s s' : Session} {r : Except DigitLimit Int}
    (h : Runs (.evaluate context expression) s r s') {v : Int} (hv : r = .ok v) : IsInt32 v := by
  cases h with
  | value _ => exact isWord_iff_isInt32.1 (Evaluation.ofTokens_word hv)
  | unread _ => cases hv

/-- **A task learns 32-bit integers only**, whatever is known: only an expression that was evaluated is learned. -/
theorem Runs.learns {t : Task} {s s' : Session} {r : Except DigitLimit t.Result} (h : Runs t s r s') :
    s.Learns s' := by
  induction h with
  | circular => exact .of_known rfl
  | settled => exact .of_known Session.answered_known
  | resolved _ _ _ ih => exact ih.trans (.of_known Session.answered_known)
  | unresolved _ _ _ ih => exact ih
  | nil => exact .of_known rfl
  | sign _ _ _ ih => exact (Session.Learns.of_known (Session.recordedAll_known _ _ _)).trans ih
  | name _ _ _ _ iha ihs => exact iha.trans ((Session.Learns.of_known (Session.recordedAll_known _ _ _)).trans ihs)
  | unwritten _ _ _ ih => exact ih
  | unanswered _ _ ih => exact ih
  | value _ ih => exact ih.trans (.of_known Session.concluded_known)
  | unread _ ih => exact ih
  | known => exact .of_known rfl
  | undefined => exact .of_known rfl
  | learned _ _ hv ih => exact Session.Learns.learnt ih _ (hv.isInt32_of_evaluate rfl)
  | failed _ _ _ ih => exact ih

theorem RunsAll.learns {names : List Text} {values : Entries Text Int} {s s' : Session}
    {r : Except DigitLimit (Entries Text Int)} (h : RunsAll names values s r s') : s.Learns s' := by
  induction h with
  | nil => exact .of_known rfl
  | blank _ _ _ ih => exact ih
  | missing _ _ _ ih => exact ih
  | value _ hv _ ih => exact Session.Learns.trans hv.learns ((Session.Learns.told _ _).trans ih)
  | stopped _ hv => exact hv.learns

theorem Serves.learns {q : Request} {s s' : Session} {r : Except DigitLimit Reply} (h : Serves q s r s') :
    s.Learns s' := by
  cases h with
  | resolve h => exact h.learns
  | resolveAll h => exact h.learns
  | evaluate h => exact h.learns
  | tellProblems => exact .told _ _

theorem Session.learns_after : ∀ (qs : List Request) (s : Session), s.Learns (s.after qs)
  | [], s => .of_known rfl
  | q :: qs, s => by
    have hone : s.Learns (q.step.run.run s).2 := (serves_iff.2 rfl : Serves q s _ _).learns
    rw [after_cons]
    exact hone.trans (learns_after qs _)

/-- **Every value is a 32-bit integer.**  Any tokens whatsoever come to one, unless one of their numbers is decimal,
not led by a zero and of more digits than are read; and what a session learns is one, whatever it knew before, whatever
it is asked for and whatever is stopped. -/
theorem evaluation_int32 :
    (∀ ts : List Token, (∃ v, (Evaluation.ofTokens ts).value = .ok v ∧ IsInt32 v ∧ ∀ t ∈ ts, ∀ count, ¬ t.IsLong count) ∨
      ∃ t ∈ ts, ∃ count, t.IsLong count ∧ (Evaluation.ofTokens ts).value = .error (.reading count)) ∧
    ∀ (s : Session) (requests : List Request), ∀ e ∈ (s.after requests).known, e ∈ s.known ∨ IsInt32 e.2 :=
  ⟨Evaluation.ofTokens_int32, fun s requests => Session.learns_after requests s⟩

/-- `B` is known from outside and no 32-bit integer; `A`, which is `B*2`, is one. -/
theorem evaluation_int32_seeded :
    let s := Session.start [("A".toList, "B*2".toList)] [("B".toList, 2147483649)] [] []
    ("A".toList, 2) ∉ s.known ∧ ("A".toList, 2) ∈ (s.after [.resolve "A".toList none]).known ∧ IsInt32 2 := by
  intro s
  have hnew : ("A".toList, 2) ∉ s.known := by decide
  have hlearned : ("A".toList, 2) ∈ (s.after [.resolve "A".toList none]).known := by decide +kernel
  exact ⟨hnew, hlearned, (evaluation_int32.2 s _ _ hlearned).resolve_left hnew⟩

end GameSource
