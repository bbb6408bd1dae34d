import GameSource.Proofs.Expr.Token
import GameSource.Proofs.Session.Request
/-!
# What a task of a session comes to

A session looks names up, reads the lexemes of expressions, evaluates expressions and resolves names, and each of these
tasks leads to others.  `Runs` says what a task comes to, with no bound on how deep resolutions are nested: a derivation
is the finite tree of the tasks that are done.  There is one for every task (`exists_runs`), since a nested resolution
begins with fewer pending names, and its outcome is that of the step whose depth is bounded (`runs_iff`).  So what holds
of every step of a session is proved by induction on `Runs`, one case for each way in which a task can go.
-/
namespace GameSource

open SessionStep

/-! ## Tasks -/

/-- What there is to do, on behalf of a name. -/
inductive Task where
  | look (context name : Text)
  | read (context : Text) (ls : List Lexeme)
  | evaluate (context expression : Text)
  | resolve (name : Text) (expression : Option Text)

/-- What a task gives that nothing stops. -/
abbrev Task.Result : Task → Type
  | look _ _ => Option Int
  | read _ _ => List Token
  | evaluate _ _ => Int
  | resolve _ _ => Int

namespace Session

/-- The session after a name was taken out of the pending ones. -/
@[simps]
def taken (s : Session) (name : Text) : Session := { s with pending := s.pending.erase name }

/-- The session when a name is no longer under evaluation. -/
@[simps]
def left (s : Session) (name : Text) : Session := { s with resolving := s.resolving.filter (· ≠ name) }

/-- The session after a value was learned. -/
@[simps]
def learnt (s : Session) (name : Text) (v : Int) : Session := { s with known := s.known.put name v }

/-- The session after a known name was answered: the diagnostics of another name are copied to those of the one under
evaluation. -/
def copied (s : Session) (context name : Text) : Session :=
  if (s.known.find? name).isSome ∧ name ≠ context then
    match s.errors.find? name with
    | none => s
    | some ds => { s with errors := s.errors.put context ((s.errors.find? context).getD [] ++ ds) }
  else s

/-- The session after a name was answered that is not pending, or no longer. -/
def answered (s : Session) (context name : Text) : Session :=
  (s.copied context name).happened (.answered context name (s.known.find? name))

/-- The session after an expression was evaluated: what is left unread and the problems with its tokens are told. -/
def concluded (s : Session) (context rest : Text) (ts : List Token) : Session :=
  let s := if rest.isEmpty then s else s.happened (.noticed (.untokenized rest))
  (s.recordedAll context (Postfix.ofTokens ts).problems).recordedAll context
    (Evaluation.ofTokens (Postfix.ofTokens ts).tokens).problems

end Session

/-- `Runs t s r s'`: the task, begun in `s`, ends with the outcome `r` in `s'`. -/
inductive Runs : (t : Task) → Session → Except DigitLimit t.Result → Session → Prop where
  /-- A name under evaluation counts as 0. -/
  | circular {s : Session} {context name : Text} (h : name ∈ s.resolving) :
      Runs (.look context name) s (.ok (some 0))
        ((s.recorded context (.circularDependency name)).happened (.answered context name (some 0)))
  | settled {s : Session} {context name : Text} (h : name ∉ s.resolving) (hp : s.pending.contains name = false) :
      Runs (.look context name) s (.ok (s.known.find? name)) (s.answered context name)
  /-- A pending name is resolved first. -/
  | resolved {s s' : Session} {context name : Text} {v : Int} (h : name ∉ s.resolving)
      (hp : s.pending.contains name) (hr : Runs (.resolve name none) s (.ok v) s') :
      Runs (.look context name) s (.ok (s'.known.find? name)) (s'.answered context name)
  | unresolved {s s' : Session} {context name : Text} {e : DigitLimit} (h : name ∉ s.resolving)
      (hp : s.pending.contains name) (hr : Runs (.resolve name none) s (.error e) s') :
      Runs (.look context name) s (.error e) s'
  | nil {s : Session} {context : Text} : Runs (.read context []) s (.ok []) s
  /-- A lexeme that is no name needs no answer. -/
  | sign {s s' : Session} {context : Text} {l : Lexeme} {ls : List Lexeme} {t : Token}
      {r : Except DigitLimit (List Token)} (h : l.kind ≠ .identifier) (ht : Token.ofLexeme l none = .ok t)
      (hs : Runs (.read context ls) (s.recordedAll context (Problem.ofLexeme? l none).toList) r s') :
      Runs (.read context (l :: ls)) s (r.map (t :: ·)) s'
  | name {s s₁ s' : Session} {context : Text} {l : Lexeme} {ls : List Lexeme} {a : Option Int} {t : Token}
      {r : Except DigitLimit (List Token)} (h : l.kind = .identifier) (ha : Runs (.look context l.text) s (.ok a) s₁)
      (ht : Token.ofLexeme l a = .ok t)
      (hs : Runs (.read context ls) (s₁.recordedAll context (Problem.ofLexeme? l a).toList) r s') :
      Runs (.read context (l :: ls)) s (r.map (t :: ·)) s'
  /-- A value with too many digits is not written. -/
  | unwritten {s s' : Session} {context : Text} {l : Lexeme} {ls : List Lexeme} {a : Option Int} {e : DigitLimit}
      (h : l.kind = .identifier) (ha : Runs (.look context l.text) s (.ok a) s') (ht : Token.ofLexeme l a = .error e) :
      Runs (.read context (l :: ls)) s (.error e) s'
  | unanswered {s s' : Session} {context : Text} {l : Lexeme} {ls : List Lexeme} {e : DigitLimit}
      (h : l.kind = .identifier) (ha : Runs (.look context l.text) s (.error e) s') :
      Runs (.read context (l :: ls)) s (.error e) s'
  | value {s s' : Session} {context expression : Text} {ts : List Token}
      (h : Runs (.read context (lexemes expression).1) (s.happened (.began context expression)) (.ok ts) s') :
      Runs (.evaluate context expression) s (Evaluation.ofTokens (Postfix.ofTokens ts).tokens).value
        (s'.concluded context (lexemes expression).2 ts)
  | unread {s s' : Session} {context expression : Text} {e : DigitLimit}
      (h : Runs (.read context (lexemes expression).1) (s.happened (.began context expression)) (.error e) s') :
      Runs (.evaluate context expression) s (.error e) s'
  | known {s : Session} {name : Text} {expression : Option Text} {v : Int} (h : s.known.find? name = some v) :
      Runs (.resolve name expression) s (.ok v) (s.taken name)
  | undefined {s : Session} {name : Text} (h : s.known.find? name = none) (hp : s.pending.find? name = none) :
      Runs (.resolve name none) s (.ok 0) ((s.taken name).recorded name (.noDefinition name))
  /-- The value of an expression, given or pending, is kept. -/
  | learned {s s' : Session} {name expression : Text} {given : Option Text} {v : Int} (h : s.known.find? name = none)
      (he : given.or (s.pending.find? name) = some expression)
      (hv : Runs (.evaluate name expression) (s.entered name) (.ok v) s') :
      Runs (.resolve name given) s (.ok v) ((s'.left name).learnt name v)
  | failed {s s' : Session} {name expression : Text} {given : Option Text} {e : DigitLimit}
      (h : s.known.find? name = none) (he : given.or (s.pending.find? name) = some expression)
      (hv : Runs (.evaluate name expression) (s.entered name) (.error e) s') :
      Runs (.resolve name given) s (.error e) (s'.left name)

/-! ## What stays of a session -/

namespace Session

variable {s : Session} {context name rest : Text} {ts : List Token}

@[simp] theorem recordedAll_pending (context : Text) : ∀ (s : Session) (ps : List Problem),
    (s.recordedAll context ps).pending = s.pending
  | _, [] => rfl
  | s, p :: ps => recordedAll_pending context (s.recorded context p) ps

@[simp] theorem recordedAll_known (context : Text) : ∀ (s : Session) (ps : List Problem),
    (s.recordedAll context ps).known = s.known
  | _, [] => rfl
  | s, p :: ps => recordedAll_known context (s.recorded context p) ps

@[simp] theorem recordedAll_resolving (context : Text) : ∀ (s : Session) (ps : List Problem),
    (s.recordedAll context ps).resolving = s.resolving
  | _, [] => rfl
  | s, p :: ps => recordedAll_resolving context (s.recorded context p) ps

theorem copied_eq (s : Session) (context name : Text) :
    ∃ errors, s.copied context name = { s with errors } := by
  unfold copied
  split
  · split
    · exact ⟨s.errors, rfl⟩
    · exact ⟨_, rfl⟩
  · exact ⟨s.errors, rfl⟩

@[simp] theorem answered_pending : (s.answered context name).pending = s.pending := by
  obtain ⟨errors, h⟩ := copied_eq s context name
  rw [answered, h, happened_pending]

@[simp] theorem answered_known : (s.answered context name).known = s.known := by
  obtain ⟨errors, h⟩ := copied_eq s context name
  rw [answered, h, happened_known]

@[simp] theorem answered_resolving : (s.answered context name).resolving = s.resolving := by
  obtain ⟨errors, h⟩ := copied_eq s context name
  rw [answered, h, happened_resolving]

@[simp] theorem concluded_pending : (s.concluded context rest ts).pending = s.pending := by
  unfold concluded
  split <;> simp

@[simp] theorem concluded_known : (s.concluded context rest ts).known = s.known := by
  unfold concluded
  split <;> simp

@[simp] theorem concluded_resolving : (s.concluded context rest ts).resolving = s.resolving := by
  unfold concluded
  split <;> simp

end Session

/-- **Pending names are only taken out.** -/
theorem Runs.pending_sublist {t : Task} {s s' : Session} {r : Except DigitLimit t.Result} (h : Runs t s r s') :
    s'.pending.Sublist s.pending := by
  induction h with
  | circular => exact .refl _
  | settled => simp
  | resolved _ _ _ ih => rwa [Session.answered_pending]
  | unresolved _ _ _ ih => exact ih
  | nil => exact .refl _
  | sign _ _ _ ih => rwa [Session.recordedAll_pending] at ih
  | name _ _ _ _ iha ihs =>
    rw [Session.recordedAll_pending] at ihs
    exact ihs.trans iha
  | unwritten _ _ _ ih => exact ih
  | unanswered _ _ ih => exact ih
  | value _ ih => rwa [Session.concluded_pending]
  | unread _ ih => exact ih
  | known => exact List.filter_sublist
  | undefined => exact List.filter_sublist
  | learned _ _ _ ih => exact ih.trans List.filter_sublist
  | failed _ _ _ ih => exact ih.trans List.filter_sublist

/-! ## Every task comes to something -/

section
variable {n : Nat}

theorem exists_read (hlook : ∀ (s : Session) (context name : Text), s.pending.length ≤ n →
    ∃ r s', Runs (.look context name) s r s') (context : Text) : ∀ (ls : List Lexeme) (s : Session),
    s.pending.length ≤ n → ∃ r s', Runs (.read context ls) s r s'
  | [], s, _ => ⟨_, _, .nil⟩
  | l :: ls, s, hs => by
    by_cases hk : l.kind = .identifier
    · obtain ⟨r, s₁, ha⟩ := hlook s context l.text hs
      cases r with
      | error e => exact ⟨_, _, .unanswered hk ha⟩
      | ok a =>
        cases ht : Token.ofLexeme l a with
        | error e => exact ⟨_, _, .unwritten hk ha ht⟩
        | ok t =>
          have hle : (s₁.recordedAll context (Problem.ofLexeme? l a).toList).pending.length ≤ n := by
            rw [Session.recordedAll_pending]
            exact Nat.le_trans ha.pending_sublist.length_le hs
          obtain ⟨r, s', h⟩ := exists_read hlook context ls _ hle
          exact ⟨_, _, .name hk ha ht h⟩
    · have hle : (s.recordedAll context (Problem.ofLexeme? l none).toList).pending.length ≤ n := by
        rwa [Session.recordedAll_pending]
      obtain ⟨r, s', h⟩ := exists_read hlook context ls _ hle
      obtain ⟨t, ht⟩ := Token.exists_ofLexeme_sign hk none
      exact ⟨_, _, .sign hk ht h⟩

theorem exists_evaluate (hlook : ∀ (s : Session) (context name : Text), s.pending.length ≤ n →
    ∃ r s', Runs (.look context name) s r s') (s : Session) (hs : s.pending.length ≤ n) (context expression : Text) :
    ∃ r s', Runs (.evaluate context expression) s r s' := by
  obtain ⟨r, s', h⟩ := exists_read hlook context (lexemes expression).1 (s.happened (.began context expression)) hs
  cases r with
  | ok ts => exact ⟨_, _, .value h⟩
  | error e => exact ⟨_, _, .unread h⟩

theorem exists_resolve (hlook : ∀ (s : Session) (context name : Text), s.pending.length ≤ n →
    ∃ r s', Runs (.look context name) s r s') (s : Session) (name : Text) (given : Option Text)
    (hs : (s.pending.erase name).length ≤ n) : ∃ r s', Runs (.resolve name given) s r s' := by
  cases hk : s.known.find? name with
  | some v => exact ⟨_, _, .known hk⟩
  | none =>
    cases he : given.or (s.pending.find? name) with
    | none =>
      obtain ⟨rfl, hp⟩ := Option.or_eq_none_iff.1 he
      exact ⟨_, _, .undefined hk hp⟩
    | some expression =>
      obtain ⟨r, s', h⟩ := exists_evaluate hlook (s.entered name) hs name expression
      cases r with
      | ok v => exact ⟨_, _, .learned hk he h⟩
      | error e => exact ⟨_, _, .failed hk he h⟩

end

/-- Looking up a name comes to something, by induction on the number of pending names: a nested resolution takes one
out. -/
theorem exists_look : ∀ (n : Nat) (s : Session) (context name : Text), s.pending.length ≤ n →
    ∃ r s', Runs (.look context name) s r s'
  | n, s, context, name, hs => by
    by_cases hres : name ∈ s.resolving
    · exact ⟨_, _, .circular hres⟩
    cases hp : s.pending.contains name with
    | false => exact ⟨_, _, .settled hres hp⟩
    | true =>
      have hlt := Entries.length_erase_lt hp
      cases n with
      | zero => omega
      | succ n =>
        obtain ⟨r, s', h⟩ := exists_resolve (exists_look n) s name none (by omega)
        cases r with
        | ok v => exact ⟨_, _, .resolved hres hp h⟩
        | error e => exact ⟨_, _, .unresolved hres hp h⟩

/-- **Every task comes to something.** -/
theorem exists_runs (t : Task) (s : Session) : ∃ r s', Runs t s r s' := by
  cases t with
  | look context name => exact exists_look _ s context name (Nat.le_refl _)
  | read context ls => exact exists_read (exists_look _) context ls s (Nat.le_refl _)
  | evaluate context expression => exact exists_evaluate (exists_look _) s (Nat.le_refl _) context expression
  | resolve name given => exact exists_resolve (exists_look _) s name given (Nat.le_refl _)

/-! ## The steps of a session -/

namespace SessionStep

variable {α : Type} {s s₁ : Session}

theorem knownAnswer_eq {context name : Text} : Ensures (knownAnswer context name) s fun r u =>
    r = .ok (s.known.find? name) ∧ u = s.copied context name := by
  refine .of_get_bind ?_
  unfold Session.copied
  cases hv : s.known.find? name with
  | none => exact .of_pure ⟨rfl, rfl⟩
  | some v =>
    by_cases hne : name = context
    · simp only [hne, ne_eq, not_true_eq_false, and_false, if_false]
      exact .of_pure ⟨rfl, rfl⟩
    · simp only [hne, ne_eq, not_false_eq_true, and_true, if_true, Option.isSome_some]
      cases hds : s.errors.find? name with
      | none => exact .of_bind_eq (.of_pure ⟨rfl, rfl⟩) (.of_pure ⟨rfl, rfl⟩)
      | some ds => exact .of_modify_bind (.of_pure ⟨rfl, rfl⟩)

theorem noted_eq {look : Text → Text → SessionStep (Option Int)} {context name : Text} {a : Option Int}
    (h : Ensures (look context name) s fun r u => r = .ok a ∧ u = s₁) :
    Ensures (noted look context name) s fun r u => r = .ok a ∧ u = s₁.happened (.answered context name a) :=
  .of_bind_eq h (.of_bind_eq .happen (.of_pure ⟨rfl, rfl⟩))

theorem noted_error {look : Text → Text → SessionStep (Option Int)} {context name : Text} {e : DigitLimit}
    (h : Ensures (look context name) s fun r u => r = .error e ∧ u = s₁) :
    Ensures (noted look context name) s fun r u => r = .error e ∧ u = s₁ :=
  .of_bind_error h ⟨rfl, rfl⟩

section
variable {next : Text → SessionStep Int} {context name : Text}

theorem lookupWith_circular (h : name ∈ s.resolving) : Ensures (lookupWith next context name) s fun r u =>
    r = .ok (some 0) ∧ u = s.recorded context (.circularDependency name) := by
  refine .of_get_bind ?_
  have hres : s.resolving.contains name = true := by simpa using h
  simp only [hres, if_true]
  exact .of_bind_eq .record (.of_pure ⟨rfl, rfl⟩)

theorem lookupWith_settled (h : name ∉ s.resolving) (hp : s.pending.contains name = false) :
    Ensures (lookupWith next context name) s fun r u =>
      r = .ok (s.known.find? name) ∧ u = s.copied context name := by
  refine .of_get_bind ?_
  have hres : s.resolving.contains name = false := by simpa using h
  simp only [hres, hp, Bool.false_eq_true, if_false]
  exact knownAnswer_eq

theorem lookupWith_resolved (h : name ∉ s.resolving) (hp : s.pending.contains name) {v : Int}
    (hnext : Ensures (next name) s fun r u => r = .ok v ∧ u = s₁) : Ensures (lookupWith next context name) s fun r u =>
      r = .ok (s₁.known.find? name) ∧ u = s₁.copied context name := by
  refine .of_get_bind ?_
  have hres : s.resolving.contains name = false := by simpa using h
  simp only [hres, hp, Bool.false_eq_true, if_false, if_true]
  exact .of_bind_eq hnext knownAnswer_eq

theorem lookupWith_unresolved (h : name ∉ s.resolving) (hp : s.pending.contains name) {e : DigitLimit}
    (hnext : Ensures (next name) s fun r u => r = .error e ∧ u = s₁) :
    Ensures (lookupWith next context name) s fun r u => r = .error e ∧ u = s₁ := by
  refine .of_get_bind ?_
  have hres : s.resolving.contains name = false := by simpa using h
  simp only [hres, hp, Bool.false_eq_true, if_false, if_true]
  exact .of_bind_error hnext ⟨rfl, rfl⟩

end

/-- A name is left after the step, whether or not something stopped it. -/
theorem resolving_eq {step : SessionStep Int} {name : Text} {r : Except DigitLimit Int}
    (h : Ensures step (s.entered name) fun q u => q = r ∧ u = s₁) :
    Ensures (resolving name step) (s.taken name) fun q u => q = r ∧ u = s₁.left name :=
  .of_modify_bind (.of_tryFinally (h.mono fun q u hu => ⟨hu.1, by rw [hu.2]; rfl⟩))

/-- What a step comes to is the one outcome that it computes, if all that it may come to is ensured. -/
theorem outcome_iff {step : SessionStep α} {R : Except DigitLimit α → Session → Prop}
    (hR : ∀ {r s'}, R r s' → Ensures step s fun q u => q = r ∧ u = s') (hsome : ∃ r s', R r s')
    {r : Except DigitLimit α} : R r s₁ ↔ step.run.run s = (r, s₁) := by
  refine ⟨fun h => Prod.ext_iff.2 (hR h), fun h => ?_⟩
  obtain ⟨q, u, hq⟩ := hsome
  have heq : (q, u) = (r, s₁) := (Prod.ext_iff.2 (hR hq)).symm.trans h
  cases heq
  exact hq

end SessionStep

namespace Task

/-- The step that does a task, where `look` looks up names. -/
def step (look : Text → Text → SessionStep (Option Int)) : (t : Task) → SessionStep t.Result
  | .look context name => look context name
  | read context ls => tokens (look context) context ls
  | evaluate context expression => evaluateWith look context expression
  | resolve name expression => resolveWith look name expression

/-- The number of names that are pending when the task looks up its first name. -/
def pendingBelow (s : Session) : Task → Nat
  | resolve name _ => (s.pending.erase name).length
  | _ => s.pending.length

end Task

/-- Behind the lexemes of an expression, what is left of its text is told, and its tokens are evaluated. -/
theorem evaluateWith_eq {look : Text → Text → SessionStep (Option Int)} {context expression : Text} {s s' : Session}
    {ts : List Token} (h : Ensures (tokens (look context) context (lexemes expression).1)
      (s.happened (.began context expression)) fun q u => q = .ok ts ∧ u = s') :
    Ensures (evaluateWith look context expression) s fun q u =>
      q = (Evaluation.ofTokens (Postfix.ofTokens ts).tokens).value ∧ u = s'.concluded context (lexemes expression).2 ts := by
  have hvalue (s₁ : Session) : Ensures (do
      recordAll context (Postfix.ofTokens ts).problems
      recordAll context (Evaluation.ofTokens (Postfix.ofTokens ts).tokens).problems
      SessionStep.ofExcept (Evaluation.ofTokens (Postfix.ofTokens ts).tokens).value) s₁ fun q u =>
        q = (Evaluation.ofTokens (Postfix.ofTokens ts).tokens).value ∧
          u = (s₁.recordedAll context (Postfix.ofTokens ts).problems).recordedAll context
            (Evaluation.ofTokens (Postfix.ofTokens ts).tokens).problems :=
    .of_bind_eq .recordAll (.of_bind_eq .recordAll .ofExcept)
  refine .of_bind_eq .happen (.of_bind_eq h ?_)
  unfold Session.concluded lexemes
  cases hrest : (lexemesFrom 0 (Text.trim expression)).2.isEmpty with
  | true =>
    simp only [Bool.not_true, Bool.false_eq_true, if_false, if_true]
    exact hvalue _
  | false =>
    simp only [Bool.not_false, Bool.false_eq_true, if_false, if_true]
    exact .of_bind_eq .happen (hvalue _)

/-- **What a task comes to is what its step computes**, where lookups may be nested deeper than names are pending. -/
theorem Runs.ensures {t : Task} {s s' : Session} {r : Except DigitLimit t.Result} (h : Runs t s r s') :
    ∀ depth, t.pendingBelow s < depth → Ensures (t.step (lookup depth)) s fun q u => q = r ∧ u = s' := by
  -- A resolution takes its name out, so that one nesting less is enough for the names below.
  have hnested {s : Session} {name : Text} {depth : Nat} (hp : s.pending.contains name)
      (hdepth : s.pending.length < depth + 1) : (s.pending.erase name).length < depth :=
    Nat.lt_of_lt_of_le (Entries.length_erase_lt hp) (Nat.le_of_lt_succ hdepth)
  induction h with
  | circular hn =>
    rintro (_ | depth) hdepth
    · exact absurd hdepth (Nat.not_lt_zero _)
    · exact noted_eq (lookupWith_circular hn)
  | settled hn hp =>
    rintro (_ | depth) hdepth
    · exact absurd hdepth (Nat.not_lt_zero _)
    · exact noted_eq (lookupWith_settled hn hp)
  | resolved hn hp _ ih =>
    rintro (_ | depth) hdepth
    · exact absurd hdepth (Nat.not_lt_zero _)
    · exact noted_eq (lookupWith_resolved hn hp (ih depth (hnested hp hdepth)))
  | unresolved hn hp _ ih =>
    rintro (_ | depth) hdepth
    · exact absurd hdepth (Nat.not_lt_zero _)
    · exact noted_error (lookupWith_unresolved hn hp (ih depth (hnested hp hdepth)))
  | nil => exact fun _ _ => .of_pure ⟨rfl, rfl⟩
  | @sign s s' context l ls t r h ht _ ih =>
    intro depth hdepth
    have hrest := ih depth (by simpa [Task.pendingBelow] using hdepth)
    change Ensures (tokens (lookup depth context) context (l :: ls)) s _
    rw [tokens_cons, if_neg h]
    refine .of_bind_eq (.of_pure ⟨rfl, rfl⟩) ?_
    rw [ht]
    refine .of_bind_eq .ofExcept (.of_bind_eq .recordAll ?_)
    cases r with
    | ok ts => exact .of_bind_eq hrest (.of_pure ⟨rfl, rfl⟩)
    | error e => exact .of_bind_error hrest ⟨rfl, rfl⟩
  | @name s s₁ s' context l ls a t r h ha ht _ iha ihs =>
    intro depth hdepth
    have hle := ha.pending_sublist.length_le
    have hrest := ihs depth (by simpa [Task.pendingBelow] using Nat.lt_of_le_of_lt hle hdepth)
    change Ensures (tokens (lookup depth context) context (l :: ls)) s _
    rw [tokens_cons, if_pos h]
    refine .of_bind_eq (iha depth hdepth) ?_
    rw [ht]
    refine .of_bind_eq .ofExcept (.of_bind_eq .recordAll ?_)
    cases r with
    | ok ts => exact .of_bind_eq hrest (.of_pure ⟨rfl, rfl⟩)
    | error e => exact .of_bind_error hrest ⟨rfl, rfl⟩
  | @unwritten s s' context l ls a e h _ ht ih =>
    intro depth hdepth
    change Ensures (tokens (lookup depth context) context (l :: ls)) s _
    rw [tokens_cons, if_pos h]
    refine .of_bind_eq (ih depth hdepth) ?_
    rw [ht]
    exact .of_bind_error .ofExcept ⟨rfl, rfl⟩
  | @unanswered s s' context l ls e h _ ih =>
    intro depth hdepth
    change Ensures (tokens (lookup depth context) context (l :: ls)) s _
    rw [tokens_cons, if_pos h]
    exact .of_bind_error (ih depth hdepth) ⟨rfl, rfl⟩
  | @value s s' context expression ts _ ih =>
    intro depth hdepth
    exact evaluateWith_eq (ih depth hdepth)
  | @unread s s' context expression e _ ih =>
    intro depth hdepth
    exact .of_bind_eq .happen (.of_bind_error (ih depth hdepth) ⟨rfl, rfl⟩)
  | @known s name expression v h =>
    intro depth _
    refine .of_get_bind (.of_modify_bind (.of_get_bind ?_))
    simp only [h]
    exact .of_pure ⟨rfl, rfl⟩
  | @undefined s name h hp =>
    intro depth _
    refine .of_get_bind (.of_modify_bind (.of_get_bind ?_))
    simp only [h, hp, Option.or_none]
    exact .of_bind_eq .record (.of_pure ⟨rfl, rfl⟩)
  | learned hk he _ ih =>
    intro depth hdepth
    refine .of_get_bind (.of_modify_bind (.of_get_bind ?_))
    simp only [hk, he]
    exact .of_bind_eq (resolving_eq (ih depth hdepth)) (.of_modify_bind (.of_pure ⟨rfl, rfl⟩))
  | failed hk he _ ih =>
    intro depth hdepth
    refine .of_get_bind (.of_modify_bind (.of_get_bind ?_))
    simp only [hk, he]
    exact .of_bind_error (resolving_eq (ih depth hdepth)) ⟨rfl, rfl⟩

/-- **A task comes to the one outcome that its step computes.** -/
theorem runs_iff {t : Task} {s s' : Session} {r : Except DigitLimit t.Result} {depth : Nat}
    (hdepth : t.pendingBelow s < depth) : Runs t s r s' ↔ (t.step (lookup depth)).run.run s = (r, s') :=
  outcome_iff (R := Runs t s) (fun h => h.ensures depth hdepth) (exists_runs t s)

end GameSource
