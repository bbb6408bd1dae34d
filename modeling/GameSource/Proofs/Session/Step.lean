import GameSource.Define.Session
import Mathlib.Tactic.Simps.Basic
/-!
# Rules for the steps of a session

`Ensures step s Q` says that the step, begun in the session `s`, ends in an outcome and a session that satisfy `Q`.
There is one rule for each way in which steps are put together and one for each basic step, so that a property of a
step is proved along its text.
-/
namespace GameSource

open SessionStep

namespace Session

/-! ## What the basic steps do -/

/-- The session after a problem was recorded for a name. -/
@[simps]
def recorded (context : Text) (s : Session) (p : Problem) : Session :=
  { s with
    errors := s.errors.put context ((s.errors.find? context).getD [] ++ [diagnose s p])
    journal := .recorded context (diagnose s p) :: s.journal }

/-- The session after several problems were recorded for a name, in order. -/
def recordedAll (context : Text) (s : Session) (ps : List Problem) : Session := ps.foldl (recorded context) s

theorem recordedAll_cons (context : Text) (s : Session) (p : Problem) (ps : List Problem) :
    s.recordedAll context (p :: ps) = (s.recorded context p).recordedAll context ps := rfl

/-- The diagnostics of a name are followed by those of its new problems. -/
theorem recordedAll_errors (context : Text) : ∀ (s : Session) (ps : List Problem), ps ≠ [] →
    (s.recordedAll context ps).errors =
      s.errors.put context ((s.errors.find? context).getD [] ++ ps.map (diagnose s))
  | _, [], h => absurd rfl h
  | s, [p], _ => rfl
  | s, p :: q :: ps, _ => by
    have ih := recordedAll_errors context (s.recorded context p) (q :: ps) (List.cons_ne_nil q ps)
    have hplace : diagnose (s.recorded context p) = diagnose s := rfl
    rw [recordedAll_cons, ih, hplace]
    simp only [recorded, Entries.find?_put_self, Option.getD_some, Entries.put_put, List.append_assoc,
      List.singleton_append, List.map_cons]

/-- The session after something happened. -/
@[simps]
def happened (s : Session) (e : SessionEvent) : Session := { s with journal := e :: s.journal }

/-- The session while a name is under evaluation, and no longer pending. -/
@[simps]
def entered (s : Session) (name : Text) : Session :=
  { s with pending := s.pending.erase name, resolving := name :: s.resolving }

theorem notices_recordedAll (context : Text) : ∀ (s : Session) (ps : List Problem),
    (s.recordedAll context ps).notices = s.notices
  | _, [] => rfl
  | s, p :: ps => by
    rw [recordedAll_cons, notices_recordedAll context (s.recorded context p) ps]
    simp [notices, recorded]

end Session

namespace SessionStep

/-- What a lookup answers for a name that is not pending, or no longer. -/
def knownAnswer (context name : Text) : SessionStep (Option Int) := do
  let s ← get
  match s.known.find? name with
  | none => return none
  | some v =>
    if name ≠ context then
      match s.errors.find? name with
      | none => pure ()
      | some ds => addErrors context ds
    return some v

variable {α β : Type}

theorem run_bind (step : SessionStep α) (f : α → SessionStep β) (s : Session) :
    (step >>= f).run.run s = match step.run.run s with
      | (.ok a, s') => (f a).run.run s'
      | (.error e, s') => (.error e, s') := by
  change (ExceptT.bindCont f (step.run.run s).1).run (step.run.run s).2 = _
  cases step.run.run s with
  | mk r s' => cases r <;> rfl

/-- The outcome of a step and the session after it satisfy `Q`. -/
def Ensures (step : SessionStep α) (s : Session) (Q : Except DigitLimit α → Session → Prop) : Prop :=
  Q (step.run.run s).1 (step.run.run s).2

/-- `Q` behind a step that has given its value; an outcome that stops the work is passed on. -/
def andThen (f : α → SessionStep β) (Q : Except DigitLimit β → Session → Prop) :
    Except DigitLimit α → Session → Prop
  | .ok a, s => Ensures (f a) s Q
  | .error e, s => Q (.error e) s

namespace Ensures

variable {s s₁ : Session}

/-! ## Rules for putting steps together -/

theorem mono {step : SessionStep α} {P Q : Except DigitLimit α → Session → Prop} (h : Ensures step s P)
    (hPQ : ∀ r s', P r s' → Q r s') : Ensures step s Q := hPQ _ _ h

theorem and {step : SessionStep α} {P Q : Except DigitLimit α → Session → Prop} (hP : Ensures step s P)
    (hQ : Ensures step s Q) : Ensures step s fun r s' => P r s' ∧ Q r s' := ⟨hP, hQ⟩

theorem of_pure {a : α} {Q : Except DigitLimit α → Session → Prop} (h : Q (.ok a) s) :
    Ensures (pure a : SessionStep α) s Q := h

theorem of_throw {e : DigitLimit} {Q : Except DigitLimit α → Session → Prop} (h : Q (.error e) s) :
    Ensures (throw e : SessionStep α) s Q := h

theorem of_bind_andThen {step : SessionStep α} {f : α → SessionStep β} {Q : Except DigitLimit β → Session → Prop}
    (h : Ensures step s (andThen f Q)) : Ensures (step >>= f) s Q := by
  unfold Ensures at *
  rw [run_bind]
  cases hstep : step.run.run s with
  | mk r s' =>
    rw [hstep] at h
    cases r with
    | ok a => exact h
    | error e => exact h

/-- Behind a step that gives a value the next one goes on, and what stops the step stops the work. -/
theorem of_bind {step : SessionStep α} {f : α → SessionStep β} {P : Except DigitLimit α → Session → Prop}
    {Q : Except DigitLimit β → Session → Prop} (h : Ensures step s P)
    (hok : ∀ a s', P (.ok a) s' → Ensures (f a) s' Q) (herror : ∀ e s', P (.error e) s' → Q (.error e) s') :
    Ensures (step >>= f) s Q :=
  of_bind_andThen (h.mono fun r s' hp => by
    cases r with
    | ok a => exact hok a s' hp
    | error e => exact herror e s' hp)

/-- A step that is known to give a value is followed by the next one. -/
theorem of_bind_ok {step : SessionStep α} {f : α → SessionStep β} {a : α} {P : Session → Prop}
    {Q : Except DigitLimit β → Session → Prop} (h : Ensures step s fun r s' => r = .ok a ∧ P s')
    (hf : ∀ s', P s' → Ensures (f a) s' Q) : Ensures (step >>= f) s Q := by
  refine of_bind h ?_ ?_
  · rintro b s' ⟨hr, hp⟩
    cases hr
    exact hf s' hp
  · rintro e s' ⟨hr, -⟩
    cases hr

theorem of_bind_eq {step : SessionStep α} {f : α → SessionStep β} {a : α} {Q : Except DigitLimit β → Session → Prop}
    (h : Ensures step s fun r u => r = .ok a ∧ u = s₁) (hf : Ensures (f a) s₁ Q) : Ensures (step >>= f) s Q :=
  of_bind_ok h fun _ hu => hu ▸ hf

theorem of_bind_error {step : SessionStep α} {f : α → SessionStep β} {e : DigitLimit}
    {Q : Except DigitLimit β → Session → Prop} (h : Ensures step s fun r u => r = .error e ∧ u = s₁)
    (hQ : Q (.error e) s₁) : Ensures (step >>= f) s Q := by
  refine of_bind h ?_ ?_
  · rintro a u ⟨hr, -⟩
    cases hr
  · rintro _ _ ⟨hr, rfl⟩
    cases hr
    exact hQ

theorem of_get_bind {f : Session → SessionStep β} {Q : Except DigitLimit β → Session → Prop}
    (h : Ensures (f s) s Q) : Ensures (get >>= f) s Q := of_bind_andThen h

theorem of_modify_bind {f : Session → Session} {g : Unit → SessionStep β}
    {Q : Except DigitLimit β → Session → Prop} (h : Ensures (g ()) (f s) Q) :
    Ensures (modify f >>= g) s Q := of_bind_andThen h

/-- The last step is made whether or not the work was stopped. -/
theorem of_tryFinally {step : SessionStep α} {f : Session → Session} {Q : Except DigitLimit α → Session → Prop}
    (h : Ensures step s fun r s' => Q r (f s')) : Ensures (tryFinally step (modify f)) s Q := by
  have hrun : (tryFinally step (modify f) : SessionStep α).run.run s =
      ((step.run.run s).1, f (step.run.run s).2) := by
    dsimp only [tryFinally, MonadFinally.tryFinally', Functor.map, ExceptT.map, ExceptT.mk, ExceptT.run, StateT.run,
      bind, StateT.bind, Id, pure, StateT.pure]
    rcases step s with ⟨r, s'⟩
    cases r <;> rfl
  unfold Ensures at *
  rw [hrun]
  exact h

/-! ## Rules for the basic steps -/

theorem happen {e : SessionEvent} :
    Ensures (happen e) s fun r s' => r = .ok () ∧ s' = { s with journal := e :: s.journal } := ⟨rfl, rfl⟩

theorem record {context : Text} {p : Problem} :
    Ensures (record context p) s fun r s' => r = .ok () ∧ s' = s.recorded context p := ⟨rfl, rfl⟩

theorem recordAll {context : Text} : ∀ {ps : List Problem} {s : Session},
    Ensures (recordAll context ps) s fun r s' => r = .ok () ∧ s' = s.recordedAll context ps
  | [], _ => ⟨rfl, rfl⟩
  | p :: ps, s => by
    change Ensures (SessionStep.record context p >>= fun _ => SessionStep.recordAll context ps) s _
    exact of_bind_ok record fun s' hs' => hs' ▸ recordAll

theorem ofExcept {v : Except DigitLimit α} : Ensures (ofExcept v) s fun r s' => r = v ∧ s' = s := by
  cases v with
  | ok v => exact of_pure ⟨rfl, rfl⟩
  | error e => exact of_throw ⟨rfl, rfl⟩

/-- The diagnostics of a name are told if there are any, and kept. -/
theorem tellProblems {name : Text} : Ensures (tellProblems name) s fun r s' => r = .ok () ∧ s'.errors = s.errors ∧
    s'.notices = s.notices ++ if (s.errors.find? name).getD [] = [] then [] else
      [.defineProblems name ((s.errors.find? name).getD [])] := by
  refine of_get_bind ?_
  split
  · rename_i h
    exact of_pure ⟨rfl, rfl, by simp [h]⟩
  · rename_i h
    exact of_pure ⟨rfl, rfl, by simp [h]⟩
  · rename_i ds hne h
    have hds : ds ≠ [] := hne
    refine happen.mono ?_
    rintro r s' ⟨hr, rfl⟩
    exact ⟨hr, rfl, by simp [Session.notices, h, hds]⟩

end Ensures

/-! ## Reading lexemes -/

theorem tokens_cons (lookup : Text → SessionStep (Option Int)) (context : Text) (l : Lexeme) (ls : List Lexeme) :
    tokens lookup context (l :: ls) = (do
      let answer ← (if l.kind = .identifier then lookup l.text else pure none : SessionStep (Option Int))
      let t ← SessionStep.ofExcept (Token.ofLexeme l answer)
      SessionStep.recordAll context (Problem.ofLexeme? l answer).toList
      let ts ← tokens lookup context ls
      pure (t :: ts)) := by
  conv => lhs; unfold tokens
  by_cases hk : l.kind = .identifier
  · simp only [hk, if_true]
  · simp only [hk, if_false]

/-- **A lexeme is answered, made a token and its problem recorded** before the lexemes behind it are read.  An answer
that cannot be written stops the reading there. -/
theorem Ensures.of_tokens_cons {lookup : Text → SessionStep (Option Int)} {context : Text} {l : Lexeme}
    {ls : List Lexeme} {s : Session} {P : Except DigitLimit (Option Int) → Session → Prop}
    {Q : Except DigitLimit (List Token) → Session → Prop}
    (hanswer : Ensures (if l.kind = .identifier then lookup l.text else pure none : SessionStep (Option Int)) s P)
    (hstopped : ∀ e s₁, P (.error e) s₁ → Q (.error e) s₁)
    (hunwritten : ∀ a e s₁, P (.ok a) s₁ → Token.ofLexeme l a = .error e → Q (.error e) s₁)
    (hrest : ∀ a t s₁, P (.ok a) s₁ → Token.ofLexeme l a = .ok t → Ensures (tokens lookup context ls)
      (s₁.recordedAll context (Problem.ofLexeme? l a).toList) fun r s' => Q (r.map (t :: ·)) s') :
    Ensures (tokens lookup context (l :: ls)) s Q := by
  rw [tokens_cons]
  refine .of_bind hanswer (fun a s₁ ha => ?_) hstopped
  cases htoken : Token.ofLexeme l a with
  | error e => exact .of_bind_error .ofExcept (hunwritten a e s₁ ha htoken)
  | ok t =>
    refine .of_bind_eq .ofExcept (.of_bind_eq .recordAll ?_)
    exact .of_bind (hrest a t s₁ ha htoken) (fun ts s' h => .of_pure h) fun e s' h => h

end SessionStep

end GameSource
