import GameSource.Proofs.Expr.Partnered
/-!
# Names without a value are passed over

A name without a value is an error token.  It goes to the output like a value, with nothing released before it and
nothing put to wait, and the evaluation passes it over there.  So the tokens without their error tokens come to the same
value with the same problems (`evaluation_withoutErrors`), whatever the tokens are.
-/
namespace GameSource

namespace Token

def isError (t : Token) : Bool := t.kind == .error

theorem kind_of_isError {t : Token} (h : t.isError = true) : t.kind = .error := beq_iff_eq.1 h

theorem isOperator_of_isError {t : Token} (h : t.isError = true) : t.isOperator = false := by
  simp [isOperator, kind_of_isError h]

theorem isError_of_isOperator {t : Token} (h : t.isOperator = true) : t.isError = false := by
  have hkind : t.kind = .operator := beq_iff_eq.1 h
  simp [isError, hkind]

end Token

/-- The tokens but those of names without a value. -/
def withoutErrors (ts : List Token) : List Token := ts.filter (!·.isError)

@[simp] theorem withoutErrors_append (ts us : List Token) :
    withoutErrors (ts ++ us) = withoutErrors ts ++ withoutErrors us := List.filter_append ts us

theorem withoutErrors_cons_of_isError {t : Token} (h : t.isError = true) (ts : List Token) :
    withoutErrors (t :: ts) = withoutErrors ts := List.filter_cons_of_neg (by simp [h])

theorem withoutErrors_cons {t : Token} (h : t.isError = false) (ts : List Token) :
    withoutErrors (t :: ts) = t :: withoutErrors ts := List.filter_cons_of_pos (by simp [h])

theorem withoutErrors_eq_self {ts : List Token} (h : ∀ t ∈ ts, t.isError = false) : withoutErrors ts = ts :=
  List.filter_eq_self.2 fun t ht => by rw [h t ht]; rfl

namespace Postfix

theorem Waits.withoutErrors {waiting : List Token} (hw : Waits waiting) : withoutErrors waiting = waiting :=
  withoutErrors_eq_self fun w h => Token.isError_of_isOperator (hw w h).1

/-- A step puts only what waited and its token into the output. -/
theorem Step.subset {waiting out left : List Token} {t : Token} {told : List Problem}
    (h : Step waiting t out left told) : ∀ u ∈ out, u = t ∨ u ∈ waiting := by
  intro u hu
  cases h with
  | value _ => exact .inl (List.mem_singleton.1 hu)
  | opening _ => cases hu
  | closing _ hsplit _ _ => exact .inr (hsplit ▸ List.mem_append_left _ hu)
  | mismatch _ _ => exact .inr hu
  | operator _ _ hsplit _ => exact .inr (hsplit ▸ List.mem_append_left _ hu)

theorem Step.withoutErrors {waiting out left : List Token} {t : Token} {told : List Problem}
    (h : Step waiting t out left told) (hw : Waits waiting) (ht : t.isError = false) : withoutErrors out = out := by
  apply withoutErrors_eq_self
  intro u hu
  rcases h.subset u hu with rfl | hmem
  · exact ht
  · exact Token.isError_of_isOperator (hw u hmem).1

/-- **Two runs side by side**, one of them without the error tokens: before every other token the same waits in both,
so that they put out the same but for the error tokens, and tell the same. -/
theorem ofTokensFrom_withoutErrors (ts : List Token) : ∀ waiting : List Token, Waits waiting →
    ofTokensFrom waiting (withoutErrors ts) =
      ⟨withoutErrors (ofTokensFrom waiting ts).tokens, (ofTokensFrom waiting ts).problems⟩ := by
  induction ts with
  | nil =>
    intro waiting hw
    have hfinish : withoutErrors (finish waiting).tokens = (finish waiting).tokens :=
      (hw.subset (List.filter_subset_self waiting)).withoutErrors
    unfold ofTokensFrom
    rw [hfinish]
    rfl
  | cons t ts ih =>
    intro waiting hw
    by_cases ht : t.isError = true
    · rw [withoutErrors_cons_of_isError ht, ofTokensFrom_number (Token.isOperator_of_isError ht), ih waiting hw, emit,
        List.singleton_append, withoutErrors_cons_of_isError ht]
    · rw [Bool.not_eq_true] at ht
      obtain ⟨out, left, told, hstep, hrun⟩ := exists_step waiting t
      rw [withoutErrors_cons ht, hrun, hrun, ih left (hstep.waits hw), withoutErrors_append,
        hstep.withoutErrors hw ht]

theorem ofTokens_withoutErrors (ts : List Token) :
    ofTokens (withoutErrors ts) = ⟨withoutErrors (ofTokens ts).tokens, (ofTokens ts).problems⟩ :=
  ofTokensFrom_withoutErrors ts [] (by simp [Waits])

end Postfix

namespace Evaluation

theorem ofTokensFrom_error {t : Token} (h : t.isError = true) (values : List Int) (ts : List Token) :
    ofTokensFrom values (t :: ts) = ofTokensFrom values ts := by
  conv_lhs => unfold ofTokensFrom
  rw [Token.kind_of_isError h]

/-- What a token does to the values does not depend on the tokens behind it. -/
theorem ofTokensFrom_cons_congr {t : Token} {ts us : List Token}
    (h : ∀ values, ofTokensFrom values ts = ofTokensFrom values us) (values : List Int) :
    ofTokensFrom values (t :: ts) = ofTokensFrom values (t :: us) := by
  unfold ofTokensFrom
  split
  · exact h values
  · split
    · exact congrArg (tell _) (h _)
    · exact h values
  · split
    · rfl
    · exact h _

theorem ofTokensFrom_withoutErrors (ts : List Token) : ∀ values : List Int,
    ofTokensFrom values (withoutErrors ts) = ofTokensFrom values ts := by
  induction ts with
  | nil => exact fun values => rfl
  | cons t ts ih =>
    intro values
    by_cases ht : t.isError = true
    · rw [withoutErrors_cons_of_isError ht, ofTokensFrom_error ht, ih]
    · rw [withoutErrors_cons (Bool.not_eq_true _ ▸ ht)]
      exact ofTokensFrom_cons_congr ih values

end Evaluation

/-- **Error tokens make no difference**, wherever they stand: without them the tokens come to the same value, the same
parentheses are told and so are the same divisions by zero. -/
theorem evaluation_withoutErrors (ts : List Token) :
    (Postfix.ofTokens (withoutErrors ts)).problems = (Postfix.ofTokens ts).problems ∧
    Evaluation.ofTokens (Postfix.ofTokens (withoutErrors ts)).tokens =
      Evaluation.ofTokens (Postfix.ofTokens ts).tokens := by
  rw [Postfix.ofTokens_withoutErrors]
  exact ⟨rfl, Evaluation.ofTokensFrom_withoutErrors _ []⟩

end GameSource
