import GameSource.Proofs.Expr.Reading
import GameSource.Proofs.Session.Stopped
/-!
# The value of a written expression

A session without defines answers a name by its value and changes nothing but its journal.  So an expression that is
written out is read, put into postfix order and evaluated as its tree says, and what is told are its divisions by zero
(`evaluateOverValues_writes`).
-/
namespace GameSource

open SessionStep

namespace Session

/-- Nothing but the journal differs, and it has no new notices. -/
def Unchanged (s s' : Session) : Prop := ∃ events, s' = { s with journal := events } ∧ s'.notices = s.notices

theorem Unchanged.refl (s : Session) : s.Unchanged s := ⟨s.journal, rfl, rfl⟩

theorem Unchanged.trans {s₁ s₂ s₃ : Session} (h : s₁.Unchanged s₂) (h' : s₂.Unchanged s₃) : s₁.Unchanged s₃ := by
  obtain ⟨events, rfl, hn⟩ := h
  obtain ⟨events', rfl, hn'⟩ := h'
  exact ⟨events', rfl, hn'.trans hn⟩

theorem Unchanged.happen {s : Session} {e : SessionEvent} (h : ∀ n, e ≠ .noticed n) :
    s.Unchanged { s with journal := e :: s.journal } := by
  refine ⟨_, rfl, ?_⟩
  cases e with
  | noticed n => exact absurd rfl (h n)
  | _ => simp [notices]

/-- There is nothing to resolve and nothing wrong. -/
structure Idle (s : Session) : Prop where
  pending : s.pending = []
  resolving : s.resolving = []
  errors : s.errors = []

theorem Idle.of_unchanged {s s' : Session} (h : s.Idle) (hu : s.Unchanged s') : s'.Idle := by
  obtain ⟨events, rfl, -⟩ := hu
  exact ⟨h.pending, h.resolving, h.errors⟩

end Session

namespace SessionStep

/-- A known name is answered by its value. -/
theorem lookup_idle {s : Session} (hs : s.Idle) {name : Text} {v : Int} (hv : s.known.find? name = some v)
    (depth : Nat) (context : Text) :
    Ensures (lookup depth context name) s fun r s' => r = .ok (some v) ∧ s.Unchanged s' := by
  have hresolving : s.resolving.contains name = false := by rw [hs.resolving]; rfl
  have hpending : s.pending.contains name = false := by rw [hs.pending]; rfl
  have herrors : s.errors.find? name = none := by rw [hs.errors]; rfl
  have hlook (resolve : Text → SessionStep Int) :
      Ensures (lookupWith resolve context name) s fun r s' => r = .ok (some v) ∧ s' = s := by
    refine .of_get_bind ?_
    simp only [hresolving, hpending, Bool.false_eq_true, if_false]
    refine .of_get_bind ?_
    simp only [hv, herrors]
    split
    · exact .of_bind_ok (P := (· = s)) (.of_pure ⟨rfl, rfl⟩) fun s' hs' => .of_pure ⟨rfl, hs'⟩
    · exact .of_pure ⟨rfl, rfl⟩
  have hnoted (resolve : Text → SessionStep Int) :
      Ensures (noted (lookupWith resolve) context name) s fun r s' => r = .ok (some v) ∧ s.Unchanged s' := by
    refine .of_bind_ok (hlook resolve) fun s' hs' => ?_
    rw [hs']
    exact .of_bind_ok .happen fun s' hs' => .of_pure ⟨rfl, hs' ▸ .happen fun n h => by cases h⟩
  cases depth with
  | zero => exact hnoted _
  | succ depth => exact hnoted _

open Expression in
/-- Lexemes with which nothing is wrong are made tokens. -/
theorem tokens_idle {env : Text → Int} {context : Text} {depth : Nat} : ∀ {ls : List Lexeme} {ts : List Token},
    List.Forall₂ (fun l t => Token.ofLexeme l (answered env l) = .ok t) ls ts → ∀ {s : Session}, s.Idle →
    (∀ l ∈ ls, l.kind = .identifier → s.known.find? l.text = some (env l.text)) →
    (∀ l ∈ ls, Problem.ofLexeme? l (answered env l) = none) →
    Ensures (tokens (lookup depth context) context ls) s fun r s' => r = .ok ts ∧ s.Unchanged s'
  | [], [], .nil, s, _, _, _ => .of_pure ⟨rfl, .refl s⟩
  | l :: ls, t :: ts, .cons ht hts, s, hs, hknown, hplain => by
    have hanswer : Ensures (if l.kind = .identifier then lookup depth context l.text else pure none :
        SessionStep (Option Int)) s fun r s₁ => r = .ok (answered env l) ∧ s.Unchanged s₁ := by
      unfold answered Lexeme.answer
      by_cases hk : l.kind = .identifier
      · simp only [hk, if_true]
        exact lookup_idle hs (hknown l List.mem_cons_self hk) depth context
      · simp only [hk, if_false]
        exact .of_pure ⟨rfl, .refl s⟩
    refine .of_tokens_cons hanswer ?_ ?_ ?_
    · rintro e s₁ ⟨⟨⟩, _⟩
    · rintro a e s₁ ⟨⟨⟩, _⟩ herror
      cases ht.symm.trans herror
    · rintro a t' s₁ ⟨⟨⟩, h₁⟩ htoken
      cases ht.symm.trans htoken
      rw [hplain l List.mem_cons_self]
      have hknown₁ : ∀ l ∈ ls, l.kind = .identifier → s₁.known.find? l.text = some (env l.text) := by
        obtain ⟨events, rfl, -⟩ := h₁
        exact fun l hl => hknown l (List.mem_cons_of_mem _ hl)
      refine (tokens_idle hts (hs.of_unchanged h₁) hknown₁ fun l hl => hplain l (List.mem_cons_of_mem _ hl)).mono ?_
      rintro r s₂ ⟨rfl, h₂⟩
      exact ⟨rfl, h₁.trans h₂⟩

open Expression in
/-- **An expression that is written out is evaluated as its tree**; its problems are its divisions by zero. -/
theorem evaluateWith_idle {t : Text} {e : Expression} {env : Text → Int} (h : e.Writes t)
    (hfew : ∀ n ∈ e.names, FewDigits (env n)) {s : Session} (hs : s.Idle)
    (hknown : ∀ n ∈ e.names, s.known.find? n = some (env n)) (depth : Nat) (context : Text) :
    Ensures (evaluateWith (lookup depth) context t) s fun r s' => r = .ok (e.word env).toInt ∧
      ∃ s₁, s.Unchanged s₁ ∧
        s' = s₁.recordedAll context (List.replicate (e.zeroDivisions env) .divisionByZero) := by
  obtain ⟨ls, ts, hlexemes, hread⟩ := h.lexemes hfew
  have hvalue := Evaluation.ofTokensFrom_postfix hfew [] []
  rw [List.append_nil] at hvalue
  have hbegan : s.Unchanged { s with journal := .began context t :: s.journal } :=
    .happen fun n h => by cases h
  refine .of_bind_ok .happen fun s₀ hs₀ => ?_
  rw [← hs₀] at hbegan
  have hknown₀ : ∀ l ∈ ls, l.kind = .identifier → s₀.known.find? l.text = some (env l.text) := by
    rw [hs₀]
    exact fun l hl hk => hknown _ (hread.names l hl hk)
  simp only [hlexemes]
  refine .of_bind_ok (tokens_idle hread.tokens (hs.of_unchanged hbegan) hknown₀ hread.problems) fun s₁ h₁ => ?_
  simp only [List.isEmpty_nil, Bool.not_true, Bool.false_eq_true, if_false, Postfix.ofTokens_infix hread.order,
    Evaluation.ofTokens, hvalue, Evaluation.tell, Evaluation.ofTokensFrom, List.append_nil]
  refine .of_bind_ok .recordAll fun s₂ hs₂ => .of_bind_ok .recordAll fun s₃ hs₃ => ?_
  exact .of_pure ⟨rfl, s₁, hbegan.trans h₁, by rw [hs₃, hs₂]; rfl⟩

end SessionStep

/-! ## Evaluation over values -/

/-- The value of a name over values given by name: the one given, else that of a constant. -/
def givenValue? (values : Entries Text Int) (name : Text) : Option Int :=
  ((Entries.ofList values).find? name).or (Session.constants.find? name)

/-- What is told of a division by zero in an expression. -/
def zeroDivision : Diagnostic := { stage := .define, filename := "<input>".toList, cause := .problem .divisionByZero }

/-- **The value of a written expression is that of its tree in 32-bit arithmetic**, and what is told are its divisions
by zero, one each.  A value that is given to a name is written out in decimal before it is read, so it must not have
more digits than are written. -/
theorem evaluateOverValues_writes {t : Text} {e : Expression} {values : Entries Text Int} {env : Text → Int}
    (h : e.Writes t) (hgiven : ∀ n ∈ e.names, givenValue? values n = some (env n))
    (hfew : ∀ n ∈ e.names, FewDigits (env n)) :
    (evaluateOverValues t values).1 = .ok (e.word env).toInt ∧
    (evaluateOverValues t values).2.errors = (if e.zeroDivisions env = 0 then [] else
      [("<expression>".toList, List.replicate (e.zeroDivisions env) zeroDivision)]) ∧
    (evaluateOverValues t values).2.notices = (if e.zeroDivisions env = 0 then [] else
      [.defineProblems "<expression>".toList (List.replicate (e.zeroDivisions env) zeroDivision)]) := by
  have hknown : ∀ n ∈ e.names, (Session.constants.putAll values).find? n = some (env n) := fun n hn => by
    rw [Entries.find?_putAll]
    exact hgiven n hn
  change Ensures (evaluate t >>= fun v => tellProblems "<expression>".toList >>= fun _ => pure v)
    (Session.start [] values [] "<input>".toList) fun r s' => r = _ ∧ s'.errors = _ ∧ s'.notices = _
  refine .of_bind_ok (.of_get_bind (evaluateWith_idle h hfew ⟨rfl, rfl, rfl⟩ hknown _ _)) ?_
  rintro s' ⟨s₁, ⟨events, rfl, hnotices⟩, rfl⟩
  refine .of_bind_ok .tellProblems ?_
  rintro s' ⟨herrors, hnotices'⟩
  rw [Session.notices_recordedAll, hnotices] at hnotices'
  refine .of_pure ⟨rfl, ?_⟩
  by_cases hzero : e.zeroDivisions env = 0
  · rw [hzero, List.replicate_zero] at herrors hnotices'
    rw [hzero, herrors, hnotices']
    exact ⟨rfl, rfl⟩
  · have hne : List.replicate (e.zeroDivisions env) Problem.divisionByZero ≠ [] := by simpa using hzero
    rw [Session.recordedAll_errors _ _ _ hne, List.map_replicate] at herrors hnotices'
    rw [Entries.find?_put_self] at hnotices'
    rw [if_neg hzero, if_neg hzero, herrors, hnotices']
    have hne' : List.replicate (e.zeroDivisions env) zeroDivision ≠ [] := by simpa using hzero
    exact ⟨rfl, if_neg hne'⟩

/-- `(A + 2) / 0`, where `A` is given. -/
theorem evaluateOverValues_sum_over_zero :
    (evaluateOverValues "( A+2)/0u ".toList [("A".toList, 3)]).1 = .ok 0 ∧
    (evaluateOverValues "( A+2)/0u ".toList [("A".toList, 3)]).2.errors = [("<expression>".toList, [zeroDivision])] ∧
    (evaluateOverValues "( A+2)/0u ".toList [("A".toList, 3)]).2.notices =
      [.defineProblems "<expression>".toList [zeroDivision]] := by
  let a : Identifier := ⟨['A'], List.all_eq_true.1 rfl, 'A', [], rfl, rfl⟩
  let two : Literal := ⟨.decimal, ['2'], [], by decide, List.all_eq_true.1 rfl, List.all_eq_true.1 rfl, by decide, by decide⟩
  let zero : Literal := ⟨.decimal, ['0'], ['u'], by decide, List.all_eq_true.1 rfl, List.all_eq_true.1 rfl, by decide, by decide⟩
  let e : Expression := .binary .div (.binary .add (.name a) (.literal two)) (.literal zero)
  have hnone : ∀ c ∈ ([] : Text), isSpace c := by simp
  have hblank : ∀ c ∈ [' '], isSpace c := List.all_eq_true.1 rfl
  have hsum : Expression.Spells Operator.or.looseness "A+2".toList (.binary .add (.name a) (.literal two)) :=
    .binary .add (by decide) hnone hnone (.name _ a) (.literal _ two)
  have hparens : Expression.Spells Operator.div.looseness "( A+2)".toList (.binary .add (.name a) (.literal two)) :=
    .parens _ hblank hnone hsum
  have hbody : Expression.Spells Operator.or.looseness "( A+2)/0u".toList e :=
    .binary .div (by decide) hnone hnone hparens (.literal _ zero)
  have hwritten : Expression.Writes "( A+2)/0u ".toList e := ⟨[], _, [' '], rfl, hnone, hblank, hbody⟩
  have hgiven : ∀ n ∈ e.names, givenValue? [("A".toList, 3)] n = some ((fun _ => 3 : Text → Int) n) := by decide
  have hword : e.word (fun _ => 3) = 0 := by decide
  have hzero : e.zeroDivisions (fun _ => 3) = 1 := by decide
  have hwrites := evaluateOverValues_writes hwritten hgiven fun _ _ => fewDigits_toInt 3
  rw [hword, hzero] at hwrites
  simpa using hwrites

/-- A name has no value in an expression if it is given one of 4301 digits, or is no name of ASCII letters. -/
theorem evaluateOverValues_unwritten :
    (evaluateOverValues ['A'] [(['A'], Nat.pow 10 digitLimit)]).1 = .error .writing ∧
    (evaluateOverValues ['é'] [(['é'], 5)]).1 = .ok 0 ∧
    (evaluateOverValues ['é'] [(['é'], 5)]).2.notices = [.untokenized ['é']] := by
  have hlexemes : (lexemes ['A']).1 = [⟨.identifier, ['A'], ['A']⟩] := rfl
  have hstopped := @Runs.evaluate_unwritten "<expression>".toList ['A']
    (Session.start [] [(['A'], Nat.pow 10 digitLimit)] [] "<input>".toList) _ _ _ hlexemes rfl List.not_mem_nil rfl rfl
    not_fewDigits_limit
  exact ⟨fst_evaluateIn hstopped, rfl, rfl⟩

end GameSource
