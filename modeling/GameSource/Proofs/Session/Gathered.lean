import GameSource.Proofs.Session.Kept
import Mathlib.Control.Monad.Basic
/-!
# The diagnostics of a name are complete

Diagnostics travel from a name that was resolved to the one that looked it up, by being copied.  Nothing is lost on the
way: when a task has come to a value, whatever was recorded in it, for any name, is among the diagnostics of the name it
was done for (`Runs.gathers`).  What a lookup copies is all there will be, since the name was under evaluation no longer,
and a circular lookup copies nothing because what the name under evaluation gathers comes to the same place in the end.
So in a fresh session the diagnostics of a name are the ones recorded, and no others (`resolve_gathers`).
-/
namespace GameSource

open SessionStep

/-- The name whose diagnostics a task adds to. -/
def Task.context : Task → Text
  | look context _ => context
  | read context _ => context
  | evaluate context _ => context
  | resolve name _ => name

/-- A task is done for a name under evaluation, or begins one. -/
def Task.IsFor (s : Session) : Task → Prop
  | look context _ | read context _ | evaluate context _ => context ∈ s.resolving
  | resolve _ _ => True

namespace Session

variable {s s₁ s₂ s' : Session} {context name : Text}

/-- Whatever was recorded since is among the diagnostics of the name. -/
def Gathers (context : Text) (s s' : Session) : Prop :=
  ∀ c d, .recorded c d ∈ s'.journal → .recorded c d ∈ s.journal ∨ d ∈ s'.diagnosticsOf context

theorem Gathers.refl (context : Text) (s : Session) : Gathers context s s := fun _ _ => .inl

/-- What was gathered before stays gathered. -/
theorem Gathers.trans (h : Gathers context s₁ s₂) (h' : Gathers context s₂ s') (hk : s₂.Keeps s') :
    Gathers context s₁ s' := fun c d hd => by
  rcases h' c d hd with hd | hd
  · exact (h c d hd).imp id ((hk.errors context).subset ·)
  · exact .inr hd

theorem Gathers.happened (s : Session) (e : SessionEvent) (h : ∀ c d, e ≠ .recorded c d) :
    Gathers context s (s.happened e) :=
  fun c d hd => .inl ((List.mem_cons.1 hd).resolve_left fun heq => h c d heq.symm)

theorem Gathers.recorded (s : Session) (context : Text) (p : Problem) : Gathers context s (s.recorded context p) :=
  fun c d hd => by
    rcases List.mem_cons.1 hd with heq | hd
    · cases heq
      refine .inr ?_
      rw [diagnosticsOf, recorded_errors, Entries.find?_put_self, Option.getD_some]
      exact List.mem_append_right _ (List.mem_singleton_self _)
    · exact .inl hd

theorem Gathers.recordedAll (context : Text) : ∀ (s : Session) (ps : List Problem),
    Gathers context s (s.recordedAll context ps)
  | s, [] => .refl context s
  | s, p :: ps =>
    .trans (.recorded s context p) (recordedAll context (s.recorded context p) ps) (.recordedAll context _ ps)

theorem journal_answered (s : Session) (context name : Text) :
    (s.answered context name).journal = .answered context name (s.known.find? name) :: s.journal := by
  obtain ⟨errors, h⟩ := copied_eq s context name
  rw [answered, h, happened_journal]

theorem Gathers.answered (s : Session) (context name : Text) : Gathers context s (s.answered context name) :=
  fun c d hd => by
    rw [journal_answered] at hd
    exact .inl ((List.mem_cons.1 hd).resolve_left (by simp))

/-- The answer to a known name carries all its diagnostics over. -/
theorem diagnosticsOf_answered (hk : s.known.find? name ≠ none) (hne : name ≠ context) {d : Diagnostic}
    (hd : d ∈ s.diagnosticsOf name) : d ∈ (s.answered context name).diagnosticsOf context := by
  have hcopied : (s.known.find? name).isSome ∧ name ≠ context := ⟨Option.isSome_iff_ne_none.2 hk, hne⟩
  rw [diagnosticsOf] at hd
  cases hds : s.errors.find? name with
  | none =>
    rw [hds] at hd
    cases hd
  | some ds =>
    rw [hds] at hd
    simp only [Session.answered, copied, if_pos hcopied, hds, diagnosticsOf, happened_errors, Entries.find?_put_self,
      Option.getD_some]
    exact List.mem_append_right _ hd

theorem Gathers.concluded (s : Session) (context rest : Text) (ts : List Token) :
    Gathers context s (s.concluded context rest ts) := by
  have htokens (s : Session) : Gathers context s ((s.recordedAll context (Postfix.ofTokens ts).problems).recordedAll
      context (Evaluation.ofTokens (Postfix.ofTokens ts).tokens).problems) :=
    .trans (.recordedAll context s _) (.recordedAll context _ _) (.recordedAll context _ _)
  unfold Session.concluded
  split
  · exact htokens s
  · exact .trans (.happened _ _ (by simp)) (htokens _)
      ((Keeps.recordedAll context _ _).trans (.recordedAll context _ _))

end Session

/-- **A name that was resolved and pending, or given an expression, is known.** -/
theorem Runs.known_of_resolve {name : Text} {given : Option Text} {s s' : Session} {v : Int}
    (h : Runs (.resolve name given) s (.ok v) s') (hp : s.pending.contains name) : s'.known.find? name = some v := by
  cases h with
  | known hk => exact hk
  | undefined _ hnone => simp [Entries.contains, hnone] at hp
  | learned => exact Entries.find?_put_self _ _ _

/-- **Every task that comes to a value gathers what was recorded in it.** -/
theorem Runs.gathers {t : Task} {s s' : Session} {r : Except DigitLimit t.Result} (h : Runs t s r s')
    (ht : t.IsFor s) {answer : t.Result} (hr : r = .ok answer) : Session.Gathers t.context s s' := by
  induction h with
  | circular =>
    exact .trans (.recorded _ _ _) (.happened _ _ (by simp)) (.happened _ _)
  | settled => exact .answered _ _ _
  | @resolved s s' context name v hn hp hrun ih =>
    -- The name that asks is under evaluation, so that it is another one, to which the diagnostics are copied.
    have hne : name ≠ context := fun heq => hn (heq ▸ ht)
    have hknown : s'.known.find? name ≠ none := by simp [hrun.known_of_resolve hp]
    intro c d hd
    rw [Session.journal_answered] at hd
    rcases ih trivial rfl c d ((List.mem_cons.1 hd).resolve_left (by simp)) with hd | hd
    · exact .inl hd
    · exact .inr (Session.diagnosticsOf_answered hknown hne hd)
  | unresolved => cases hr
  | nil => exact .refl _ _
  | @sign s s' context l ls t r _ _ hs ih =>
    cases r with
    | error e => cases hr
    | ok ts =>
      have hopen : (Task.read context ls).IsFor (s.recordedAll context (Problem.ofLexeme? l none).toList) := by
        rw [Task.IsFor, Session.recordedAll_resolving]
        exact ht
      exact .trans (.recordedAll context s _) (ih hopen rfl) (hs.keeps trivial)
  | @name s s₁ s' context l ls a t r _ ha _ hs iha ihs =>
    cases r with
    | error e => cases hr
    | ok ts =>
      have hopen : (Task.read context ls).IsFor (s₁.recordedAll context (Problem.ofLexeme? l a).toList) := by
        rw [Task.IsFor, Session.recordedAll_resolving, (ha.keeps trivial).resolving]
        exact ht
      have hrest := hs.keeps trivial
      exact .trans (iha ht rfl) (.trans (.recordedAll context s₁ _) (ihs hopen rfl) hrest)
        ((Session.Keeps.recordedAll _ _ _).trans hrest)
  | unwritten => cases hr
  | unanswered => cases hr
  | @value s s' context expression ts hread ih =>
    exact .trans (.happened _ _ (by simp))
      (.trans (ih ht rfl) (.concluded _ _ _ _) (.concluded _ _ _ _))
      ((hread.keeps trivial).trans (.concluded _ _ _ _))
  | unread => cases hr
  | known => exact .refl _ _
  | @undefined s name _ _ => exact .recorded (s.taken name) name _
  | @learned s s' name expression given v _ _ _ ih => exact ih List.mem_cons_self rfl
  | failed => cases hr

/-- **The diagnostics of a name are those recorded on its behalf.**  When a fresh session has resolved a name, what was
recorded in any context is among the diagnostics of the name, and these hold nothing else. -/
theorem resolve_gathers {table : Entries Text Text} {values : Entries Text Int} {text filename root : Text}
    {given : Option Text} {v : Int} {s : Session}
    (h : (resolve root given).run.run (Session.start table values text filename) = (.ok v, s)) (d : Diagnostic) :
    d ∈ s.diagnosticsOf root ↔ ∃ context, .recorded context d ∈ s.journal := by
  have hrun : Runs (.resolve root given) (Session.start table values text filename) (.ok v) s :=
    resolve_iff.2 h
  refine ⟨fun hd => ?_, ?_⟩
  · exact (hrun.keeps (by simp [Task.MayBegin, Session.start])).logged (fun _ _ => nofun) root d hd
  · rintro ⟨context, hd⟩
    exact (hrun.gathers trivial rfl context d hd).resolve_left (by simp [Session.start])

/-- `A` leads to `B` and `C`, `B` to `C` again, and `C` back to `A`; nothing defines `X`. -/
def tangled : Entries Text Text :=
  [("A".toList, "B+C".toList), ("B".toList, "C*X".toList), ("C".toList, "A+1".toList)]

/-- What is wrong with `B` and `C`, which are evaluated for `A`, is told of `A`, what is wrong with `C` twice. -/
theorem resolve_gathers_tangled :
    ∃ s, (resolve "A".toList none).run.run (Session.start tangled [] [] []) = (.ok 2, s) ∧
      (s.diagnosticsOf "A".toList).map (·.cause) = [.problem (.circularDependency "A".toList),
        .problem (.unknownToken "X".toList "X".toList), .problem (.circularDependency "A".toList)] ∧
      ∀ d, d ∈ s.diagnosticsOf "A".toList ↔ ∃ context, .recorded context d ∈ s.journal := by
  have hresult : let o := (resolve "A".toList none).run.run (Session.start tangled [] [] [])
      o.1 = .ok 2 ∧ (o.2.diagnosticsOf "A".toList).map (·.cause) = [.problem (.circularDependency "A".toList),
        .problem (.unknownToken "X".toList "X".toList), .problem (.circularDependency "A".toList)] := by decide +kernel
  generalize hrun : (resolve "A".toList none).run.run (Session.start tangled [] [] []) = o at hresult
  obtain ⟨r, s⟩ := o
  obtain ⟨rfl, hcauses⟩ := hresult
  exact ⟨s, rfl, hcauses, resolve_gathers hrun⟩

end GameSource
