import GameSource.Proofs.Session.Served
/-!
# What a session keeps

Whatever a session does, a value that it knows stays, names only go from the pending ones, diagnostics are only added to,
and no name is left under evaluation (`Session.Keeps`).  An expression that a name has pending is begun at most once:
what was begun so far and what is still to be begun never grows but by what a request itself gives
(`Runs.starts_le`).  A session keeps all this over any requests, whatever stops some of them (`serve_keeps`).
-/
namespace GameSource

open SessionStep

namespace Session

/-- The diagnostics of a name. -/
def diagnosticsOf (s : Session) (name : Text) : List Diagnostic := (s.errors.find? name).getD []

/-- Every diagnostic that a name has was recorded. -/
def Logged (s : Session) : Prop := ∀ n d, d ∈ s.diagnosticsOf n → ∃ context, .recorded context d ∈ s.journal

/-- **What every step keeps.** -/
structure Keeps (s s' : Session) : Prop where
  known : s.known <+: s'.known
  pending : ∃ stays : Text → Bool, s'.pending = s.pending.filter fun e => stays e.1
  resolving : s'.resolving = s.resolving
  /-- What is still pending has not been learned. -/
  unlearned : ∀ n e, s'.pending.find? n = some e → s.known.find? n = none → s'.known.find? n = none
  /-- A name under evaluation is not learned before it is left. -/
  opened : ∀ n ∈ s.resolving, s.known.find? n = none → s'.known.find? n = none
  journal : s.journal <:+ s'.journal
  errors : ∀ n, s.diagnosticsOf n <+: s'.diagnosticsOf n
  logged : s.Logged → s'.Logged

namespace Keeps

variable {s s₁ s₂ s' : Session} {name : Text}

theorem pending_eq_some (h : s.Keeps s') {n e : Text} (he : s'.pending.find? n = some e) :
    s.pending.find? n = some e := by
  obtain ⟨stays, hstays⟩ := h.pending
  rw [hstays] at he
  exact Entries.find?_filter_eq_some he

theorem pending_eq_none (h : s.Keeps s') {n : Text} (hn : s.pending.find? n = none) : s'.pending.find? n = none := by
  cases he : s'.pending.find? n with
  | none => rfl
  | some e =>
    rw [h.pending_eq_some he] at hn
    cases hn

theorem known_eq_some (h : s.Keeps s') {n : Text} {v : Int} (hv : s.known.find? n = some v) :
    s'.known.find? n = some v := Entries.find?_of_prefix h.known hv

/-- What is said of a name changes none of the names. -/
theorem of_told (hk : s'.known = s.known) (hp : s'.pending = s.pending) (hr : s'.resolving = s.resolving)
    (hj : s.journal <:+ s'.journal) (he : ∀ n, s.diagnosticsOf n <+: s'.diagnosticsOf n)
    (hl : s.Logged → s'.Logged) : s.Keeps s' where
  known := hk ▸ List.prefix_refl _
  pending := ⟨fun _ => true, by rw [hp]; exact (List.filter_eq_self.2 fun _ _ => rfl).symm⟩
  resolving := hr
  unlearned n e _ hn := by rwa [hk]
  opened n _ hn := by rwa [hk]
  journal := hj
  errors := he
  logged := hl

theorem refl (s : Session) : s.Keeps s := of_told rfl rfl rfl (List.suffix_refl _) (fun _ => List.prefix_refl _) id

theorem trans (h : s₁.Keeps s₂) (h' : s₂.Keeps s') : s₁.Keeps s' where
  known := h.known.trans h'.known
  pending := by
    obtain ⟨p, hp⟩ := h.pending
    obtain ⟨q, hq⟩ := h'.pending
    exact ⟨fun n => q n && p n, by rw [hq, hp, List.filter_filter]⟩
  resolving := h'.resolving.trans h.resolving
  unlearned n e he hn := h'.unlearned n e he (h.unlearned n e (h'.pending_eq_some he) hn)
  opened n hn hk := h'.opened n (h.resolving ▸ hn) (h.opened n hn hk)
  journal := h.journal.trans h'.journal
  errors n := (h.errors n).trans (h'.errors n)
  logged hl := h'.logged (h.logged hl)

theorem happened (s : Session) (e : SessionEvent) : s.Keeps (s.happened e) :=
  of_told rfl rfl rfl (List.suffix_cons _ _) (fun _ => List.prefix_refl _) fun hl n d hd => by
    obtain ⟨context, h⟩ := hl n d hd
    exact ⟨context, List.mem_cons_of_mem e h⟩

/-- Further diagnostics come behind those of a name. -/
theorem diagnosticsOf_put (s : Session) (context n : Text) (ds : List Diagnostic) (journal : List SessionEvent) :
    ({ s with errors := s.errors.put context (s.diagnosticsOf context ++ ds), journal } : Session).diagnosticsOf n =
      s.diagnosticsOf n ++ if n = context then ds else [] := by
  unfold diagnosticsOf
  by_cases h : n = context
  · rw [h, if_pos rfl, Entries.find?_put_self]
    rfl
  · rw [if_neg h, Entries.find?_put_of_ne h, List.append_nil]

/-- Diagnostics that are recorded are added to those of a name. -/
theorem added (s : Session) (context : Text) (ds : List Diagnostic) (events : List SessionEvent)
    (h : s.Logged → ∀ d ∈ ds, ∃ c, .recorded c d ∈ events ++ s.journal) :
    s.Keeps { s with errors := s.errors.put context (s.diagnosticsOf context ++ ds), journal := events ++ s.journal } := by
  refine of_told rfl rfl rfl (List.suffix_append _ _) (fun n => ?_) fun hl n d hd => ?_
  · rw [diagnosticsOf_put]
    exact List.prefix_append _ _
  · rw [diagnosticsOf_put] at hd
    rcases List.mem_append.1 hd with hd | hd
    · obtain ⟨c, hc⟩ := hl n d hd
      exact ⟨c, List.mem_append_right _ hc⟩
    · split at hd
      · exact h hl d hd
      · cases hd

theorem recorded (s : Session) (context : Text) (p : Problem) : s.Keeps (s.recorded context p) :=
  added s context [diagnose s p] [.recorded context (diagnose s p)] fun _ d hd =>
    ⟨context, by rw [List.mem_singleton.1 hd]; exact List.mem_cons_self⟩

theorem recordedAll (context : Text) : ∀ (s : Session) (ps : List Problem), s.Keeps (s.recordedAll context ps)
  | s, [] => .refl s
  | s, p :: ps => (recorded s context p).trans (recordedAll context (s.recorded context p) ps)

theorem copied (s : Session) (context name : Text) : s.Keeps (s.copied context name) := by
  unfold Session.copied
  split
  · cases hds : s.errors.find? name with
    | none => exact .refl s
    | some ds => exact added s context ds [] fun hl d hd => hl name d (by rwa [diagnosticsOf, hds])
  · exact .refl s

theorem answered (s : Session) (context name : Text) : s.Keeps (s.answered context name) :=
  (copied s context name).trans (happened _ _)

theorem concluded (s : Session) (context rest : Text) (ts : List Token) : s.Keeps (s.concluded context rest ts) := by
  have htokens (s : Session) : s.Keeps ((s.recordedAll context (Postfix.ofTokens ts).problems).recordedAll context
      (Evaluation.ofTokens (Postfix.ofTokens ts).tokens).problems) :=
    (recordedAll context s _).trans (recordedAll context _ _)
  unfold Session.concluded
  split
  · exact htokens s
  · exact (happened s _).trans (htokens _)

theorem told (s : Session) (name : Text) : s.Keeps (s.told name) := by
  rcases told_eq s name with h | ⟨ds, h⟩
  · rw [h]
    exact .refl s
  · rw [h]
    exact happened s _

theorem taken (s : Session) (name : Text) : s.Keeps (s.taken name) where
  known := List.prefix_refl _
  pending := ⟨fun n => n ≠ name, rfl⟩
  resolving := rfl
  unlearned _ _ _ := id
  opened _ _ := id
  journal := List.suffix_refl _
  errors _ := List.prefix_refl _
  logged := id

/-- What is kept while a name is under evaluation is kept when it is left. -/
theorem leave (h : (s.entered name).Keeps s') (hn : name ∉ s.resolving) : s.Keeps (s'.left name) where
  known := h.known
  pending := by
    obtain ⟨p, hp⟩ := h.pending
    exact ⟨fun n => n ≠ name && p n, by
      rw [left_pending, hp, entered_pending, Entries.erase, List.filter_filter]
      simp only [ne_eq, Bool.and_comm]⟩
  resolving := by
    have hfilter : s.resolving.filter (· ≠ name) = s.resolving :=
      List.filter_eq_self.2 fun n hmem => decide_eq_true fun h => hn (h ▸ hmem)
    rw [left_resolving, h.resolving, entered_resolving, List.filter_cons_of_neg (by simp), hfilter]
  unlearned n e he hk := h.unlearned n e he hk
  opened n hmem hk := h.opened n (List.mem_cons_of_mem name hmem) hk
  journal := h.journal
  errors := h.errors
  logged := h.logged

/-- A value may be learned of a name that is neither known nor pending nor under evaluation. -/
theorem learn (h : s.Keeps s') (hk : s'.known.find? name = none) (hp : s'.pending.find? name = none)
    (hn : name ∉ s.resolving) (v : Int) : s.Keeps (s'.learnt name v) where
  known := by
    rw [learnt_known, Entries.put_of_find? hk]
    exact h.known.trans (List.prefix_append _ _)
  pending := h.pending
  resolving := h.resolving
  unlearned n e he hunknown := by
    have hne : n ≠ name := by
      rintro rfl
      exact absurd (hp.symm.trans he) (by simp)
    rw [learnt_known, Entries.find?_put_of_ne hne]
    exact h.unlearned n e he hunknown
  opened n hmem hunknown := by
    have hne : n ≠ name := fun heq => hn (heq ▸ hmem)
    rw [learnt_known, Entries.find?_put_of_ne hne]
    exact h.opened n hmem hunknown
  journal := h.journal
  errors := h.errors
  logged := h.logged

end Keeps

end Session

/-- A name is not resolved while it is under evaluation. -/
def Task.MayBegin (s : Session) : Task → Prop
  | resolve name _ => name ∉ s.resolving
  | _ => True

/-- **Every task keeps the session**, whether or not it is stopped. -/
theorem Runs.keeps {t : Task} {s s' : Session} {r : Except DigitLimit t.Result} (h : Runs t s r s')
    (ht : t.MayBegin s) : s.Keeps s' := by
  induction h with
  | circular => exact (Session.Keeps.recorded _ _ _).trans (.happened _ _)
  | settled => exact .answered _ _ _
  | resolved hn _ _ ih => exact (ih hn).trans (.answered _ _ _)
  | unresolved hn _ _ ih => exact ih hn
  | nil => exact .refl _
  | sign _ _ _ ih => exact (Session.Keeps.recordedAll _ _ _).trans (ih trivial)
  | name _ _ _ _ iha ihs => exact (iha trivial).trans ((Session.Keeps.recordedAll _ _ _).trans (ihs trivial))
  | unwritten _ _ _ ih => exact ih trivial
  | unanswered _ _ ih => exact ih trivial
  | value _ ih => exact (Session.Keeps.happened _ _).trans ((ih trivial).trans (.concluded _ _ _ _))
  | unread _ ih => exact (Session.Keeps.happened _ _).trans (ih trivial)
  | known => exact .taken _ _
  | undefined => exact (Session.Keeps.taken _ _).trans (.recorded _ _ _)
  | @learned s s' name expression given v hk _ _ ih =>
    -- Nothing that is done below learns the name, which is under evaluation, or makes it pending again.
    have hopen : (s.entered name).Keeps s' := ih trivial
    have hunknown : s'.known.find? name = none := hopen.opened name List.mem_cons_self hk
    have hgone : s'.pending.find? name = none := hopen.pending_eq_none (by simp [Entries.find?_erase])
    exact (hopen.leave ht).learn hunknown hgone ht v
  | failed _ _ _ ih => exact (ih trivial).leave ht

/-- A name is not learned below its own evaluation. -/
theorem Runs.known_of_entered {name expression : Text} {s s' : Session} {r : Except DigitLimit Int}
    (h : Runs (.evaluate name expression) (s.entered name) r s') (hk : s.known.find? name = none) :
    s'.known.find? name = none := (h.keeps trivial).opened name List.mem_cons_self hk

/-- **What is learned comes behind what was known**, in any session, also where the name is under evaluation already. -/
theorem Runs.known_prefix {t : Task} {s s' : Session} {r : Except DigitLimit t.Result} (h : Runs t s r s') :
    s.known <+: s'.known := by
  cases t with
  | look context name => exact (h.keeps trivial).known
  | read context ls => exact (h.keeps trivial).known
  | evaluate context expression => exact (h.keeps trivial).known
  | resolve name given =>
    cases h with
    | known => exact List.prefix_refl _
    | undefined => exact List.prefix_refl _
    | @learned _ s' _ expression _ v hk _ hv =>
      rw [Session.learnt_known, Session.left_known, Entries.put_of_find? (hv.known_of_entered hk)]
      exact (hv.keeps trivial).known.trans (List.prefix_append _ _)
    | failed _ _ hv => exact (hv.keeps trivial).known

/-- A task changes no value that is known. -/
theorem Runs.known_eq_some {t : Task} {s s' : Session} {r : Except DigitLimit t.Result} (h : Runs t s r s') {n : Text}
    {v : Int} (hv : s.known.find? n = some v) : s'.known.find? n = some v := Entries.find?_of_prefix h.known_prefix hv

/-! ## How often an expression is begun -/

namespace Session

/-- How often the evaluation of an expression was begun for a name, and once more if it is still pending. -/
def starts (s : Session) (name expression : Text) : Nat :=
  s.journal.count (.began name expression) + if s.pending.find? name = some expression then 1 else 0

variable {s : Session} {n e : Text}

theorem starts_happened {ev : SessionEvent} (h : ev ≠ .began n e) : (s.happened ev).starts n e = s.starts n e := by
  rw [starts, happened_journal, List.count_cons_of_ne h, happened_pending, starts]

theorem starts_began (context expression : Text) : (s.happened (.began context expression)).starts n e =
    s.starts n e + if context = n ∧ expression = e then 1 else 0 := by
  by_cases h : context = n ∧ expression = e
  · obtain ⟨rfl, rfl⟩ := h
    rw [starts, happened_journal, List.count_cons_self, happened_pending, starts]
    simp only [and_self, if_true]
    omega
  · have hne : SessionEvent.began context expression ≠ .began n e := fun heq => h (by simpa using heq)
    rw [starts_happened hne, if_neg h, Nat.add_zero]

theorem starts_recordedAll (context : Text) : ∀ (s : Session) (ps : List Problem),
    (s.recordedAll context ps).starts n e = s.starts n e
  | _, [] => rfl
  | s, p :: ps => by
    have hone : (s.recorded context p).starts n e = s.starts n e := by
      rw [starts, recorded_journal, List.count_cons_of_ne (by simp), recorded_pending, starts]
    rw [recordedAll_cons, starts_recordedAll context (s.recorded context p) ps, hone]

theorem starts_answered (context name : Text) : (s.answered context name).starts n e = s.starts n e := by
  obtain ⟨errors, h⟩ := copied_eq s context name
  rw [answered, starts_happened (by simp), h]
  rfl

theorem starts_concluded (context rest : Text) (ts : List Token) :
    (s.concluded context rest ts).starts n e = s.starts n e := by
  unfold concluded
  split
  · rw [starts_recordedAll, starts_recordedAll]
  · rw [starts_recordedAll, starts_recordedAll, starts_happened (by simp)]

theorem starts_told (name : Text) : (s.told name).starts n e = s.starts n e := by
  rcases told_eq s name with h | ⟨ds, h⟩
  · rw [h]
  · rw [h, starts_happened (by simp)]

theorem starts_taken_le (name : Text) : (s.taken name).starts n e ≤ s.starts n e := by
  rw [starts, starts, taken_pending, taken_journal, Entries.find?_erase]
  split <;> simp

end Session

/-- The starts of an expression for a name that a task itself asks for. -/
def Task.gives (n e : Text) : Task → Nat
  | evaluate context expression => if context = n ∧ expression = e then 1 else 0
  | resolve name (some expression) => if name = n ∧ expression = e then 1 else 0
  | _ => 0

/-- Taking out a name gives its pending expression. -/
theorem Session.starts_taken_add (s : Session) (name n e : Text) :
    (s.taken name).starts n e + (Task.resolve name (s.pending.find? name)).gives n e = s.starts n e := by
  rw [starts, starts, taken_pending, taken_journal, Entries.find?_erase]
  by_cases hn : n = name
  · subst hn
    cases hp : s.pending.find? n with
    | none => simp [Task.gives]
    | some expression => simp [Task.gives]
  · have hgives : (Task.resolve name (s.pending.find? name)).gives n e = 0 := by
      cases s.pending.find? name with
      | none => rfl
      | some expression => exact if_neg fun h => hn h.1.symm
    rw [if_neg hn, hgives, Nat.add_zero]

/-- **The starts of an expression, made or still to be made, do not grow** but by what the task itself asks for. -/
theorem Runs.starts_le {t : Task} {s s' : Session} {r : Except DigitLimit t.Result} (h : Runs t s r s') (n e : Text) :
    s'.starts n e ≤ s.starts n e + t.gives n e := by
  have hentered (s : Session) (name expression : Text) (given : Option Text)
      (he : given.or (s.pending.find? name) = some expression) :
      (s.entered name).starts n e + (Task.evaluate name expression).gives n e ≤
        s.starts n e + (Task.resolve name given).gives n e := by
    have htaken : (s.entered name).starts n e = (s.taken name).starts n e := rfl
    rw [htaken]
    cases given with
    | some x =>
      cases he
      exact Nat.add_le_add_right (s.starts_taken_le name) _
    | none =>
      have hadd := s.starts_taken_add name n e
      rw [show s.pending.find? name = some expression from he] at hadd
      exact Nat.le_of_eq hadd
  induction h with
  | @circular s context name _ =>
    rw [Session.starts_happened (by simp)]
    exact Nat.le_of_eq (Session.starts_recordedAll context s [_])
  | settled => exact Nat.le_of_eq (Session.starts_answered _ _)
  | resolved _ _ _ ih =>
    rw [Session.starts_answered]
    exact ih
  | unresolved _ _ _ ih => exact ih
  | nil => exact Nat.le_refl _
  | sign _ _ _ ih =>
    rw [Session.starts_recordedAll] at ih
    exact ih
  | name _ _ _ _ iha ihs =>
    rw [Session.starts_recordedAll] at ihs
    exact Nat.le_trans ihs iha
  | unwritten _ _ _ ih => exact ih
  | unanswered _ _ ih => exact ih
  | value _ ih =>
    rw [Session.starts_began] at ih
    rw [Session.starts_concluded]
    exact ih
  | unread _ ih =>
    rw [Session.starts_began] at ih
    exact ih
  | known => exact Nat.le_trans (Session.starts_taken_le _) (Nat.le_add_right _ _)
  | @undefined s name _ _ =>
    have hrecorded := Session.starts_recordedAll (n := n) (e := e) name (s.taken name) [.noDefinition name]
    exact Nat.le_trans (Nat.le_of_eq hrecorded) (Nat.le_trans (s.starts_taken_le name) (Nat.le_add_right _ _))
  | learned _ he _ ih => exact Nat.le_trans ih (hentered _ _ _ _ he)
  | failed _ he _ ih => exact Nat.le_trans ih (hentered _ _ _ _ he)

/-! ## Requests -/

/-- Whether the request gives an expression for a name. -/
def Request.gives (n e : Text) : Request → Bool
  | resolve name (some expression) => name = n ∧ expression = e
  | evaluate expression context => context = n ∧ expression = e
  | _ => false

theorem RunsAll.keeps {names : List Text} {values : Entries Text Int} {s s' : Session}
    {r : Except DigitLimit (Entries Text Int)} (h : RunsAll names values s r s') (hs : s.resolving = []) :
    s.Keeps s' := by
  induction h with
  | nil => exact .refl _
  | blank _ _ _ ih => exact (Session.Keeps.taken _ _).trans (ih hs)
  | missing _ _ _ ih => exact ((Session.Keeps.taken _ _).trans (.happened _ _)).trans (ih hs)
  | @value s s₁ s' name names values v r hp hv _ ih =>
    have hone : s.Keeps (s₁.told name) :=
      (Session.Keeps.taken s name).trans ((hv.keeps (by simp [Task.MayBegin, hs])).trans (.told s₁ name))
    exact hone.trans (ih (hone.resolving.trans hs))
  | stopped _ hv => exact (Session.Keeps.taken _ _).trans (hv.keeps (by simp [Task.MayBegin, hs]))

theorem RunsAll.starts_le {names : List Text} {values : Entries Text Int} {s s' : Session}
    {r : Except DigitLimit (Entries Text Int)} (h : RunsAll names values s r s') (n e : Text) :
    s'.starts n e ≤ s.starts n e := by
  induction h with
  | nil => exact Nat.le_refl _
  | blank _ _ _ ih => exact Nat.le_trans ih (Session.starts_taken_le _)
  | missing _ _ _ ih =>
    rw [Session.starts_happened (by simp)] at ih
    exact Nat.le_trans ih (Session.starts_taken_le _)
  | @value s s₁ s' name names values v r _ hv _ ih =>
    rw [Session.starts_told] at ih
    exact Nat.le_trans ih (Nat.le_trans (hv.starts_le n e) (Nat.le_of_eq (s.starts_taken_add name n e)))
  | @stopped s s₁ name names values err _ hv =>
    exact Nat.le_trans (hv.starts_le n e) (Nat.le_of_eq (s.starts_taken_add name n e))

theorem Serves.keeps {q : Request} {s s' : Session} {r : Except DigitLimit Reply} (h : Serves q s r s')
    (hs : s.resolving = []) : s.Keeps s' := by
  cases h with
  | resolve h => exact h.keeps (by simp [Task.MayBegin, hs])
  | resolveAll h => exact h.keeps hs
  | evaluate h => exact h.keeps trivial
  | tellProblems => exact .told _ _

theorem Serves.starts_le {q : Request} {s s' : Session} {r : Except DigitLimit Reply} (h : Serves q s r s')
    (n e : Text) : s'.starts n e ≤ s.starts n e + if q.gives n e then 1 else 0 := by
  cases h with
  | @resolve name given s s' r h =>
    have hle := h.starts_le n e
    cases given with
    | none => exact hle
    | some expression => simpa [Task.gives, Request.gives] using hle
  | resolveAll h => exact h.starts_le n e
  | evaluate h =>
    have hle := h.starts_le n e
    simpa [Task.gives, Request.gives] using hle
  | tellProblems => exact Nat.le_of_eq (Session.starts_told _)

namespace Session

/-- The session after requests. -/
def after (s : Session) (requests : List Request) : Session := (s.serve requests).2

theorem after_cons (s : Session) (q : Request) (qs : List Request) :
    s.after (q :: qs) = (q.step.run.run s).2.after qs := rfl

theorem keeps_after : ∀ {qs : List Request} {s : Session}, s.resolving = [] → s.Keeps (s.after qs)
  | [], s, _ => .refl s
  | q :: qs, s, hs => by
    have hone : s.Keeps (q.step.run.run s).2 := (serves_iff.2 rfl : Serves q s _ _).keeps hs
    rw [after_cons]
    exact hone.trans (keeps_after (hone.resolving.trans hs))

theorem starts_after (n e : Text) : ∀ (qs : List Request) (s : Session),
    (s.after qs).starts n e ≤ s.starts n e + qs.countP (·.gives n e)
  | [], s => Nat.le_refl _
  | q :: qs, s => by
    have hone := (serves_iff.2 rfl : Serves q s _ (q.step.run.run s).2).starts_le n e
    have hrest := starts_after n e qs (q.step.run.run s).2
    rw [after_cons, List.countP_cons]
    omega

theorem after_append (s : Session) : ∀ (earlier later : List Request),
    s.after (earlier ++ later) = (s.after earlier).after later
  | [], _ => rfl
  | q :: qs, later => by
    rw [List.cons_append, after_cons, after_cons, after_append]

theorem starts_start (table : Entries Text Text) (values : Entries Text Int) (text filename n e : Text) :
    (start table values text filename).starts n e = if table.find? n = some e then 1 else 0 :=
  Nat.zero_add _

end Session

/-- **What a session keeps, from any moment on.**  Whatever was requested before and is requested from then on, and
whether or not some of it is stopped: every request ends, with the one outcome that its step computes, values that are
known stay, names only go from the pending ones, what is learned is not pending, the expression that a name had in the
table is begun at most once but for the requests that give it themselves, and no name is left under evaluation. -/
theorem serve_keeps (table : Entries Text Text) (values : Entries Text Int) (text filename : Text)
    (earlier later : List Request) :
    let s := (Session.start table values text filename).after earlier
    let s' := s.after later
    (∀ q r u, Serves q s r u ↔ q.step.run.run s = (r, u)) ∧
    s.known <+: s'.known ∧
    (∃ stays : Text → Bool, s'.pending = s.pending.filter fun e => stays e.1) ∧
    (∀ n, s.known.find? n = none → s'.known.find? n ≠ none → s'.pending.find? n = none) ∧
    (∀ n e, s'.journal.count (.began n e) ≤
      (if table.find? n = some e then 1 else 0) + (earlier ++ later).countP (·.gives n e)) ∧
    s.resolving = [] ∧ s'.resolving = [] := by
  intro s s'
  have hbefore : (Session.start table values text filename).Keeps s := Session.keeps_after rfl
  have hopen : s.resolving = [] := hbefore.resolving
  have hafter : s.Keeps s' := Session.keeps_after hopen
  refine ⟨fun q r u => serves_iff, hafter.known, hafter.pending, fun n hunknown hlearned => ?_, fun n e => ?_, hopen,
    hafter.resolving.trans hopen⟩
  · cases hp : s'.pending.find? n with
    | none => rfl
    | some e => exact absurd (hafter.unlearned n e hp hunknown) hlearned
  · have hstarts := Session.starts_after n e (earlier ++ later) (Session.start table values text filename)
    rw [Session.after_append, Session.starts_start] at hstarts
    exact Nat.le_trans (Nat.le_add_right _ _) hstarts

end GameSource
