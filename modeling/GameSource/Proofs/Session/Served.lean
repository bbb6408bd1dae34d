import GameSource.Proofs.Session.Call
/-!
# What a request comes to

A request is a task of the session or, for several names, one task after the other.  `Serves` says what it comes to, with
no bound on how deep resolutions are nested, and that is what the step of the request computes (`serves_iff`).  So every
request ends, also one that a number stops.
-/
namespace GameSource

open SessionStep

namespace Session

/-- The session after the problems of a name were told, if it has any. -/
def told (s : Session) (name : Text) : Session :=
  match s.errors.find? name with
  | none | some [] => s
  | some ds => s.happened (.noticed (.defineProblems name ds))

/-- A name that is requested has a value: its pending expression is not blank, or it is known. -/
def HasValue (s : Session) (name : Text) : Prop :=
  (∃ expression, s.pending.find? name = some expression ∧ Text.trim expression ≠ []) ∨
    (s.pending.find? name = none ∧ ∃ v, s.known.find? name = some v)

theorem told_eq (s : Session) (name : Text) : s.told name = s ∨
    ∃ ds, s.told name = s.happened (.noticed (.defineProblems name ds)) := by
  unfold told
  split
  · exact .inl rfl
  · exact .inl rfl
  · exact .inr ⟨_, rfl⟩

theorem told_known (s : Session) (name : Text) : (s.told name).known = s.known := by
  rcases told_eq s name with h | ⟨ds, h⟩
  · rw [h]
  · rw [h, happened_known]

theorem told_pending (s : Session) (name : Text) : (s.told name).pending = s.pending := by
  rcases told_eq s name with h | ⟨ds, h⟩
  · rw [h]
  · rw [h, happened_pending]

end Session

/-! ## Requests for several names -/

/-- `RunsAll names values s r s'`: requesting the names one after the other adds their values to those there are. -/
inductive RunsAll : List Text → Entries Text Int → Session → Except DigitLimit (Entries Text Int) → Session →
    Prop where
  | nil {s : Session} {values : Entries Text Int} : RunsAll [] values s (.ok values) s
  | blank {s s' : Session} {name expression : Text} {names : List Text} {values : Entries Text Int}
      {r : Except DigitLimit (Entries Text Int)} (he : s.pending.find? name = some expression)
      (hb : Text.trim expression = []) (h : RunsAll names values (s.taken name) r s') :
      RunsAll (name :: names) values s r s'
  | missing {s s' : Session} {name : Text} {names : List Text} {values : Entries Text Int}
      {r : Except DigitLimit (Entries Text Int)} (hp : s.pending.find? name = none) (hk : s.known.find? name = none)
      (h : RunsAll names values ((s.taken name).happened (.noticed (.noDefinition name))) r s') :
      RunsAll (name :: names) values s r s'
  | value {s s₁ s' : Session} {name : Text} {names : List Text} {values : Entries Text Int} {v : Int}
      {r : Except DigitLimit (Entries Text Int)} (hn : s.HasValue name)
      (hv : Runs (.resolve name (s.pending.find? name)) (s.taken name) (.ok v) s₁)
      (h : RunsAll names (values.put name v) (s₁.told name) r s') : RunsAll (name :: names) values s r s'
  | stopped {s s₁ : Session} {name : Text} {names : List Text} {values : Entries Text Int} {e : DigitLimit}
      (hn : s.HasValue name) (hv : Runs (.resolve name (s.pending.find? name)) (s.taken name) (.error e) s₁) :
      RunsAll (name :: names) values s (.error e) s₁

/-- `Serves q s r s'`: the request, made in `s`, is answered by `r` and leaves `s'`. -/
inductive Serves : Request → Session → Except DigitLimit Reply → Session → Prop where
  | resolve {name : Text} {given : Option Text} {s s' : Session} {r : Except DigitLimit Int}
      (h : Runs (.resolve name given) s r s') : Serves (.resolve name given) s (r.map .value) s'
  | resolveAll {names : List Text} {s s' : Session} {r : Except DigitLimit (Entries Text Int)}
      (h : RunsAll names [] s r s') : Serves (.resolveAll names) s (r.map .values) s'
  | evaluate {expression context : Text} {s s' : Session} {r : Except DigitLimit Int}
      (h : Runs (.evaluate context expression) s r s') : Serves (.evaluate expression context) s (r.map .value) s'
  | tellProblems {name : Text} {s : Session} : Serves (.tellProblems name) s (.ok .told) (s.told name)

/-! ## Every request ends -/

theorem exists_runsAll : ∀ (names : List Text) (values : Entries Text Int) (s : Session),
    ∃ r s', RunsAll names values s r s'
  | [], _, _ => ⟨_, _, .nil⟩
  | name :: names, values, s => by
    have hgiven (hn : s.HasValue name) : ∃ r s', RunsAll (name :: names) values s r s' := by
      obtain ⟨r, s₁, hv⟩ := exists_runs (.resolve name (s.pending.find? name)) (s.taken name)
      cases r with
      | error e => exact ⟨_, _, .stopped hn hv⟩
      | ok v =>
        obtain ⟨r, s', h⟩ := exists_runsAll names (values.put name v) (s₁.told name)
        exact ⟨_, _, .value hn hv h⟩
    cases he : s.pending.find? name with
    | some expression =>
      by_cases hb : Text.trim expression = []
      · obtain ⟨r, s', h⟩ := exists_runsAll names values (s.taken name)
        exact ⟨_, _, .blank he hb h⟩
      · exact hgiven (.inl ⟨expression, he, hb⟩)
    | none =>
      cases hk : s.known.find? name with
      | none =>
        obtain ⟨r, s', h⟩ :=
          exists_runsAll names values ((s.taken name).happened (.noticed (.noDefinition name)))
        exact ⟨_, _, .missing he hk h⟩
      | some v => exact hgiven (.inr ⟨he, v, hk⟩)

/-- **Every request comes to something.** -/
theorem exists_serves (q : Request) (s : Session) : ∃ r s', Serves q s r s' := by
  cases q with
  | resolve name given =>
    obtain ⟨r, s', h⟩ := exists_runs (.resolve name given) s
    exact ⟨_, _, .resolve h⟩
  | resolveAll names =>
    obtain ⟨r, s', h⟩ := exists_runsAll names [] s
    exact ⟨_, _, .resolveAll h⟩
  | evaluate expression context =>
    obtain ⟨r, s', h⟩ := exists_runs (.evaluate context expression) s
    exact ⟨_, _, .evaluate h⟩
  | tellProblems name => exact ⟨_, _, .tellProblems⟩

/-! ## The steps of requests -/

namespace SessionStep

variable {s s' : Session}

theorem resolve_eq {name : Text} {given : Option Text} {r : Except DigitLimit Int}
    (h : Runs (.resolve name given) s r s') : Ensures (resolve name given) s fun q u => q = r ∧ u = s' := by
  have hdepth : (s.pending.erase name).length < s.depth := Nat.lt_succ_of_le (List.length_filter_le _ _)
  exact .of_get_bind (h.ensures s.depth hdepth)

/-- **Resolving a name comes to the one outcome that its step computes.** -/
theorem resolve_iff {name : Text} {given : Option Text} {r : Except DigitLimit Int} :
    Runs (.resolve name given) s r s' ↔ (resolve name given).run.run s = (r, s') :=
  outcome_iff (R := Runs (.resolve name given) s) resolve_eq (exists_runs _ s)

theorem evaluate_eq {expression context : Text} {r : Except DigitLimit Int}
    (h : Runs (.evaluate context expression) s r s') :
    Ensures (evaluate expression context) s fun q u => q = r ∧ u = s' :=
  .of_get_bind (h.ensures s.depth (Nat.lt_succ_self _))

theorem tellProblems_eq {name : Text} : Ensures (tellProblems name) s fun q u => q = .ok () ∧ u = s.told name := by
  refine .of_get_bind ?_
  unfold Session.told
  cases s.errors.find? name with
  | none => exact .of_pure ⟨rfl, rfl⟩
  | some ds =>
    cases ds with
    | nil => exact .of_pure ⟨rfl, rfl⟩
    | cons d ds => exact .happen

/-- A name that has a value is resolved, and its problems are told. -/
theorem request_eq {name : Text} {values : Entries Text Int} {Q : Except DigitLimit (Entries Text Int) → Session → Prop}
    (hn : s.HasValue name) (h : Ensures (do
      let v ← resolve name (s.pending.find? name)
      tellProblems name
      return values.put name v) (s.taken name) Q) : Ensures (request name values) s Q := by
  refine .of_get_bind (.of_modify_bind ?_)
  rcases hn with ⟨expression, he, hne⟩ | ⟨hp, v, hv⟩
  · have hblank : (Text.trim expression).isEmpty = false := by simpa using hne
    rw [he] at h
    simp only [he, hblank, Bool.false_eq_true, if_false]
    exact h
  · have hknown : s.known.contains name = true := by rw [Entries.contains, hv]; rfl
    rw [hp] at h
    simp only [hp, hknown, if_true]
    exact h

theorem requests_eq {names : List Text} {values : Entries Text Int} {r : Except DigitLimit (Entries Text Int)}
    (h : RunsAll names values s r s') :
    Ensures (names.foldlM (fun values name => request name values) values) s fun q u => q = r ∧ u = s' := by
  induction h with
  | nil => exact .of_pure ⟨rfl, rfl⟩
  | @blank s s' name expression names values r he hb _ ih =>
    rw [List.foldlM_cons]
    have hrequest : Ensures (request name values) s fun q u => q = .ok values ∧ u = s.taken name := by
      refine .of_get_bind (.of_modify_bind ?_)
      simp only [he, hb, List.isEmpty_nil, if_true]
      exact .of_pure ⟨rfl, rfl⟩
    exact .of_bind_eq hrequest ih
  | @missing s s' name names values r hp hk _ ih =>
    rw [List.foldlM_cons]
    have hrequest : Ensures (request name values) s fun q u =>
        q = .ok values ∧ u = (s.taken name).happened (.noticed (.noDefinition name)) := by
      refine .of_get_bind (.of_modify_bind ?_)
      simp only [hp, Entries.contains, hk, Option.isSome_none, Bool.false_eq_true, if_false]
      exact .of_bind_eq .happen (.of_pure ⟨rfl, rfl⟩)
    exact .of_bind_eq hrequest ih
  | value hn hv _ ih =>
    rw [List.foldlM_cons]
    exact .of_bind_eq (request_eq hn
      (.of_bind_eq (resolve_eq hv) (.of_bind_eq tellProblems_eq (.of_pure ⟨rfl, rfl⟩)))) ih
  | stopped hn hv =>
    rw [List.foldlM_cons]
    exact .of_bind_error (request_eq hn (.of_bind_error (resolve_eq hv) ⟨rfl, rfl⟩)) ⟨rfl, rfl⟩

/-- **Requesting names in order comes to the one outcome that its step computes.** -/
theorem requests_iff {names : List Text} {values : Entries Text Int} {r : Except DigitLimit (Entries Text Int)} :
    RunsAll names values s r s' ↔
      (names.foldlM (fun values name => request name values) values).run.run s = (r, s') :=
  outcome_iff (R := RunsAll names values s) requests_eq (exists_runsAll names values s)

end SessionStep

theorem Serves.ensures {q : Request} {s s' : Session} {r : Except DigitLimit Reply} (h : Serves q s r s') :
    Ensures q.step s fun q u => q = r ∧ u = s' := by
  cases h with
  | @resolve name given s s' r h =>
    cases r with
    | ok v => exact .of_bind_eq (resolve_eq h) (.of_pure ⟨rfl, rfl⟩)
    | error e => exact .of_bind_error (resolve_eq h) ⟨rfl, rfl⟩
  | @resolveAll names s s' r h =>
    cases r with
    | ok vs => exact .of_bind_eq (requests_eq h) (.of_pure ⟨rfl, rfl⟩)
    | error e => exact .of_bind_error (requests_eq h) ⟨rfl, rfl⟩
  | @evaluate expression context s s' r h =>
    cases r with
    | ok v => exact .of_bind_eq (evaluate_eq h) (.of_pure ⟨rfl, rfl⟩)
    | error e => exact .of_bind_error (evaluate_eq h) ⟨rfl, rfl⟩
  | tellProblems => exact .of_bind_eq tellProblems_eq (.of_pure ⟨rfl, rfl⟩)

/-- **A request comes to the one outcome that its step computes.** -/
theorem serves_iff {q : Request} {s s' : Session} {r : Except DigitLimit Reply} :
    Serves q s r s' ↔ q.step.run.run s = (r, s') :=
  outcome_iff (R := Serves q s) Serves.ensures (exists_serves q s)

end GameSource
