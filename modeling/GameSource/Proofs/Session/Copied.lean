import GameSource.Proofs.Session.Circular
import GameSource.Proofs.Session.Gathered
import Mathlib.Algebra.BigOperators.Group.Finset.Piecewise
/-!
# How long the list of a name's diagnostics is

Every lookup that is answered with the kept value of a name copies the diagnostics of that name, also when they were
copied before.  So a list of diagnostics does not hold each recorded one once: each further answer to a name adds all
that the name has (`resolve_entries`), and what is copied twice at every level doubles from level to level
(`resolve_entries_doubled`).  The count is a balance (`Session.Accounted`): all lists together have one entry for each
recording and, for each copy of a name, as many as the name has.
-/
namespace GameSource

open SessionStep

/-! ## Counting -/

instance (x : Text) : DecidablePred (SessionEvent.TellsCircular x)
  | .recorded _ d => inferInstanceAs (Decidable (d.cause = .problem (.circularDependency x)))
  | .began _ _ | .answered _ _ _ | .noticed _ => inferInstanceAs (Decidable False)

namespace SessionEvent

def isRecording : SessionEvent → Bool
  | recorded _ _ => true
  | _ => false

/-- A lookup of the name was answered with a value. -/
def answersTo (name : Text) : SessionEvent → Bool
  | answered _ n (some _) => n == name
  | _ => false

/-- The event counts for nothing. -/
def isSilent : SessionEvent → Bool
  | recorded _ _ | answered _ _ (some _) => false
  | _ => true

end SessionEvent

namespace Session

/-- How many diagnostics were recorded, for any name. -/
def recordings (s : Session) : Nat := s.journal.countP (·.isRecording)

/-- How many lookups of the name were answered with a value. -/
def answers (s : Session) (name : Text) : Nat := s.journal.countP (·.answersTo name)

/-- How many lookups met the name while it was under evaluation. -/
def circles (s : Session) (name : Text) : Nat := s.journal.countP fun e => e.TellsCircular name

/-- How many lookups were answered with the kept value of the name: not the ones that met it while it was under
evaluation, which were answered with 0. -/
def copies (s : Session) (name : Text) : Nat := s.answers name - s.circles name

theorem recordings_happened (s : Session) (e : SessionEvent) :
    (s.happened e).recordings = s.recordings + if e.isRecording then 1 else 0 := List.countP_cons

theorem answers_happened (s : Session) (e : SessionEvent) (n : Text) :
    (s.happened e).answers n = s.answers n + if e.answersTo n then 1 else 0 := List.countP_cons

theorem circles_happened (s : Session) (e : SessionEvent) (n : Text) :
    (s.happened e).circles n = s.circles n + if e.TellsCircular n then 1 else 0 := by
  unfold circles
  rw [happened_journal, List.countP_cons]
  simp

theorem recordings_recorded (s : Session) (context : Text) (p : Problem) :
    (s.recorded context p).recordings = s.recordings + 1 := recordings_happened s (.recorded context (diagnose s p))

theorem answers_recorded (s : Session) (context : Text) (p : Problem) (n : Text) :
    (s.recorded context p).answers n = s.answers n := answers_happened s (.recorded context (diagnose s p)) n

theorem circles_recorded (s : Session) (context : Text) (p : Problem) (n : Text) :
    (s.recorded context p).circles n = s.circles n + if p = .circularDependency n then 1 else 0 := by
  have htells : SessionEvent.TellsCircular n (.recorded context (diagnose s p)) ↔ p = .circularDependency n := by
    simp [SessionEvent.TellsCircular, diagnose]
  have h := circles_happened s (.recorded context (diagnose s p)) n
  simp only [htells] at h
  exact h

theorem diagnosticsOf_recorded (s : Session) (context n : Text) (p : Problem) :
    (s.recorded context p).diagnosticsOf n = s.diagnosticsOf n ++ if n = context then [diagnose s p] else [] :=
  Keeps.diagnosticsOf_put s context n [diagnose s p] _

/-- The diagnostics of a name that is known go to another one. -/
theorem diagnosticsOf_answered_known {s : Session} {context name : Text} (hk : s.known.find? name ≠ none)
    (hne : name ≠ context) (n : Text) : (s.answered context name).diagnosticsOf n =
      s.diagnosticsOf n ++ if n = context then s.diagnosticsOf name else [] := by
  have hcopied : (s.known.find? name).isSome ∧ name ≠ context := ⟨Option.isSome_iff_ne_none.2 hk, hne⟩
  have hsame : (s.answered context name).diagnosticsOf n = (s.copied context name).diagnosticsOf n := rfl
  rw [hsame, copied, if_pos hcopied]
  cases hds : s.errors.find? name with
  | none => simp [diagnosticsOf, hds]
  | some ds =>
    have hput := Keeps.diagnosticsOf_put s context n ds s.journal
    simpa [diagnosticsOf, hds] using hput

theorem diagnosticsOf_answered_unknown {s : Session} {context name : Text} (hk : s.known.find? name = none) (n : Text) :
    (s.answered context name).diagnosticsOf n = s.diagnosticsOf n := by
  have hsame : (s.answered context name).diagnosticsOf n = (s.copied context name).diagnosticsOf n := rfl
  rw [hsame, copied, if_neg (by simp [hk])]

/-! ## The balance -/

/-- The books of a session are in order, but that the copying of the diagnostics of `x` may be still to come: what is
under evaluation is not known, only known names are copied, a name with diagnostics that is under evaluation no longer
was copied, and the lists of the names `F` add up to what was recorded and what was copied. -/
structure Accounted (F : Finset Text) (x : Text) (s : Session) : Prop where
  outside : ∀ n, n ∉ F → s.diagnosticsOf n = []
  pending : ∀ n, s.pending.contains n → n ∈ F
  opened : ∀ n ∈ s.resolving, s.known.find? n = none
  circles_le : ∀ n, s.circles n ≤ s.answers n
  uncopied : ∀ n, s.known.find? n = none → s.copies n = 0
  copied : ∀ n, n ∉ s.resolving → n ≠ x → s.diagnosticsOf n ≠ [] → s.copies n ≠ 0
  balance : ∑ n ∈ F, (s.diagnosticsOf n).length = s.recordings + ∑ n ∈ F, s.copies n * (s.diagnosticsOf n).length

variable {F : Finset Text} {x context name : Text} {s s' : Session}

namespace Accounted

/-- Whose copying may be still to come does not matter of a name under evaluation. -/
theorem exempt (h : s.Accounted F x) (hx : x ∈ s.resolving) (y : Text) : s.Accounted F y :=
  { h with copied := fun n hn _ hne => h.copied n hn (fun heq => hn (heq ▸ hx)) hne }

/-- **One entry in the books.**  Diagnostics are added to those of a name that is not known, and `k` says how often each
name is copied with it. -/
theorem add (h : s.Accounted F x) (hc : context ∈ F) (hunknown : s.known.find? context = none) (ds : List Diagnostic)
    (k : Text → Nat) (hp : s'.pending = s.pending) (hr : s'.resolving = s.resolving) (hk : s'.known = s.known)
    (herrors : ∀ n, s'.diagnosticsOf n = s.diagnosticsOf n ++ if n = context then ds else [])
    (hcircles : ∀ n, s'.circles n ≤ s'.answers n) (hcopies : ∀ n, s'.copies n = s.copies n + k n)
    (hknown : ∀ n, k n ≠ 0 → s.known.find? n ≠ none) (hx : x = context ∨ k x ≠ 0)
    (hsum : s.recordings + ds.length = s'.recordings + ∑ n ∈ F, k n * (s.diagnosticsOf n).length) :
    s'.Accounted F context where
  outside n hn := by
    have hne : n ≠ context := fun heq => hn (heq ▸ hc)
    rw [herrors, h.outside n hn, if_neg hne, List.append_nil]
  pending n hn := h.pending n (hp ▸ hn)
  opened n hn := by
    rw [hk]
    exact h.opened n (hr ▸ hn)
  circles_le := hcircles
  uncopied n hn := by
    rw [hk] at hn
    have hzero : k n = 0 := Classical.byContradiction fun hne => hknown n hne hn
    rw [hcopies, h.uncopied n hn, hzero]
  copied n hn hne hds := by
    rw [hr] at hn
    rw [herrors, if_neg hne, List.append_nil] at hds
    rw [hcopies]
    by_cases hnx : n = x
    · have hkx : k x ≠ 0 := hx.resolve_left fun heq => hne (hnx.trans heq)
      rw [hnx]
      omega
    · have hbefore := h.copied n hn hnx hds
      omega
  balance := by
    have hcontext : s.copies context + k context = 0 := by
      have hzero : k context = 0 := Classical.byContradiction fun hne => hknown context hne hunknown
      rw [h.uncopied context hunknown, hzero]
    have hlength (n : Text) : (s'.diagnosticsOf n).length =
        (s.diagnosticsOf n).length + if n = context then ds.length else 0 := by
      rw [herrors, List.length_append]
      split <;> rfl
    have hproduct (n : Text) : s'.copies n * (s'.diagnosticsOf n).length =
        s.copies n * (s.diagnosticsOf n).length + k n * (s.diagnosticsOf n).length := by
      rw [hcopies, hlength]
      by_cases hn : n = context
      · rw [hn, hcontext, Nat.zero_mul, ← Nat.add_mul, hcontext, Nat.zero_mul]
      · rw [if_neg hn, Nat.add_zero, Nat.add_mul]
    have hbefore := h.balance
    rw [Finset.sum_congr rfl fun n _ => hproduct n, Finset.sum_congr rfl fun n _ => hlength n, Finset.sum_add_distrib,
      Finset.sum_add_distrib, Finset.sum_ite_eq', if_pos hc]
    omega

theorem of_counts (h : s.Accounted F x) (hp : ∀ n, s'.pending.contains n → s.pending.contains n)
    (hr : s'.resolving = s.resolving) (hk : s'.known = s.known) (he : ∀ n, s'.diagnosticsOf n = s.diagnosticsOf n)
    (hrecordings : s'.recordings = s.recordings) (hanswers : ∀ n, s'.answers n = s.answers n)
    (hcircles : ∀ n, s'.circles n = s.circles n) : s'.Accounted F x := by
  have hcopies (n : Text) : s'.copies n = s.copies n := by rw [copies, hanswers, hcircles, copies]
  constructor
  · intro n hn
    rw [he, h.outside n hn]
  · exact fun n hn => h.pending n (hp n hn)
  · rw [hr, hk]
    exact h.opened
  · intro n
    rw [hanswers, hcircles]
    exact h.circles_le n
  · intro n hn
    rw [hcopies, h.uncopied n (hk ▸ hn)]
  · intro n hn hne hds
    rw [hcopies]
    exact h.copied n (hr ▸ hn) hne (he n ▸ hds)
  · simp only [he, hcopies, hrecordings]
    exact h.balance

theorem happened (h : s.Accounted F x) {e : SessionEvent} (he : e.isSilent) : (s.happened e).Accounted F x := by
  refine h.of_counts (fun _ hn => hn) rfl rfl (fun _ => rfl) ?_ (fun n => ?_) fun n => ?_
  · rw [recordings_happened]
    cases e <;> first | rfl | cases he
  · rw [answers_happened]
    rcases e with _ | _ | ⟨_, _, _ | _⟩ | _ <;> first | rfl | cases he
  · rw [circles_happened]
    cases e <;> first | rfl | cases he

theorem taken (h : s.Accounted F x) (name : Text) : (s.taken name).Accounted F x := by
  refine h.of_counts (fun n hn => ?_) rfl rfl (fun _ => rfl) rfl (fun _ => rfl) fun _ => rfl
  rw [taken_pending, Entries.contains, Entries.find?_erase] at hn
  split at hn
  · cases hn
  · exact hn

/-- A problem that is no circular dependency is recorded. -/
theorem recorded (h : s.Accounted F context) (hc : context ∈ F) (hunknown : s.known.find? context = none) {p : Problem}
    (hp : p.IsLocal) : (s.recorded context p).Accounted F context := by
  have hcircles (n : Text) : (s.recorded context p).circles n = s.circles n := by
    rw [circles_recorded, if_neg (hp n), Nat.add_zero]
  refine h.add hc hunknown [diagnose s p] (fun _ => 0) rfl rfl rfl
    (fun n => diagnosticsOf_recorded s context n p) (fun n => ?_) (fun n => ?_) (by simp) (.inl rfl) ?_
  · rw [hcircles, answers_recorded]
    exact h.circles_le n
  · rw [copies, hcircles, answers_recorded, copies, Nat.add_zero]
  · simp [recordings_recorded]

theorem recordedAll (hc : context ∈ F) : ∀ {s : Session} {ps : List Problem}, s.Accounted F context →
    s.known.find? context = none → (∀ p ∈ ps, p.IsLocal) → (s.recordedAll context ps).Accounted F context
  | _, [], h, _, _ => h
  | s, p :: ps, h, hunknown, hlocal => by
    have hone : (s.recorded context p).Accounted F context := h.recorded hc hunknown (hlocal p List.mem_cons_self)
    rw [recordedAll_cons]
    exact recordedAll hc hone hunknown fun q hq => hlocal q (List.mem_cons_of_mem p hq)

/-- A circular lookup is recorded and answered, and copies nothing. -/
theorem circular (h : s.Accounted F context) (hc : context ∈ F) (hunknown : s.known.find? context = none)
    (name : Text) : ((s.recorded context (.circularDependency name)).happened
      (.answered context name (some 0))).Accounted F context := by
  have hanswers (n : Text) : ((s.recorded context (.circularDependency name)).happened
      (.answered context name (some 0))).answers n = s.answers n + if name = n then 1 else 0 := by
    rw [answers_happened, answers_recorded]
    simp [SessionEvent.answersTo]
  have hcircles (n : Text) : ((s.recorded context (.circularDependency name)).happened
      (.answered context name (some 0))).circles n = s.circles n + if name = n then 1 else 0 := by
    rw [circles_happened, circles_recorded]
    simp [SessionEvent.TellsCircular]
  refine h.add hc hunknown [diagnose s (.circularDependency name)] (fun _ => 0) rfl rfl rfl
    (fun n => diagnosticsOf_recorded s context n _) (fun n => ?_) (fun n => ?_) (by simp) (.inl rfl) ?_
  · rw [hanswers, hcircles]
    exact Nat.add_le_add_right (h.circles_le n) _
  · rw [copies, hanswers, hcircles, Nat.add_sub_add_right, copies, Nat.add_zero]
  · rw [recordings_happened, recordings_recorded]
    simp [SessionEvent.isRecording]

/-- The answer to a name copies its diagnostics if it is known. -/
theorem answered (h : s.Accounted F x) (hc : context ∈ F) (hunknown : s.known.find? context = none)
    (hne : name ≠ context) (hx : x = context ∨ x = name ∧ s.known.find? name ≠ none) :
    (s.answered context name).Accounted F context := by
  cases hk : s.known.find? name with
  | none =>
    have hx : x = context := hx.resolve_right fun h => h.2 hk
    subst hx
    have hsilent : (SessionEvent.answered x name (s.known.find? name)).isSilent := by rw [hk]; rfl
    refine (h.happened hsilent).of_counts (fun n hn => ?_) answered_resolving answered_known
      (diagnosticsOf_answered_unknown hk) ?_ (fun n => ?_) fun n => ?_
    · rwa [answered_pending] at hn
    · rw [recordings, journal_answered]
      rfl
    · rw [answers, journal_answered]
      rfl
    · rw [circles, journal_answered]
      rfl
  | some v =>
    have hknown : s.known.find? name ≠ none := by rw [hk]; exact Option.some_ne_none v
    have hanswers (n : Text) : (s.answered context name).answers n = s.answers n + if name = n then 1 else 0 := by
      rw [answers, journal_answered, List.countP_cons, hk]
      simp [SessionEvent.answersTo, answers]
    have hcircles (n : Text) : (s.answered context name).circles n = s.circles n := by
      have hsilent : ¬ SessionEvent.TellsCircular n (.answered context name (some v)) := id
      rw [circles, journal_answered, List.countP_cons, hk, if_neg (by simpa using hsilent)]
      rfl
    have hrecordings : (s.answered context name).recordings = s.recordings := by
      rw [recordings, journal_answered, List.countP_cons, hk]
      rfl
    refine h.add hc hunknown (s.diagnosticsOf name) (fun n => if name = n then 1 else 0) answered_pending
      answered_resolving answered_known (diagnosticsOf_answered_known hknown hne) (fun n => ?_) (fun n => ?_)
      (fun n hn => ?_) (hx.imp_right fun h => ?_) ?_
    · rw [hanswers, hcircles]
      exact Nat.le_trans (h.circles_le n) (Nat.le_add_right _ _)
    · have hle := h.circles_le n
      rw [copies, hanswers, hcircles, copies]
      omega
    · obtain rfl : name = n := by simpa using hn
      exact hknown
    · simp [h.1]
    · have hsingle : ∑ n ∈ F, (if name = n then 1 else 0) * (s.diagnosticsOf n).length =
          (s.diagnosticsOf name).length := by
        simp only [ite_mul, one_mul, zero_mul, Finset.sum_ite_eq]
        split
        · rfl
        · rename_i hout
          rw [h.outside name hout]
          rfl
      rw [hrecordings, hsingle]

theorem concluded (h : s.Accounted F context) (hc : context ∈ F) (hunknown : s.known.find? context = none) (rest : Text)
    (ts : List Token) : (s.concluded context rest ts).Accounted F context := by
  have htokens {s : Session} (h : s.Accounted F context) (hunknown : s.known.find? context = none) :
      ((s.recordedAll context (Postfix.ofTokens ts).problems).recordedAll context
        (Evaluation.ofTokens (Postfix.ofTokens ts).tokens).problems).Accounted F context :=
    recordedAll hc (recordedAll hc h hunknown fun _ => Postfix.isLocal) (by rwa [recordedAll_known])
      fun _ => Evaluation.isLocal
  unfold Session.concluded
  split
  · exact htokens h hunknown
  · exact htokens (h.happened rfl) hunknown

/-- A name that is not known may be entered. -/
theorem entered (h : s.Accounted F name) (hk : s.known.find? name = none) : (s.entered name).Accounted F name :=
  { h.taken name with
    opened := fun n hn => (List.mem_cons.1 hn).elim (fun heq => heq ▸ hk) (h.opened n)
    copied := fun n hn hne => h.copied n (fun hmem => hn (List.mem_cons_of_mem name hmem)) hne }

/-- What was evaluated is learned. -/
theorem learnt (h : s.Accounted F name) (v : Int) : ((s.left name).learnt name v).Accounted F name :=
  { h with
    opened := fun n hn => by
      obtain ⟨hmem, hne⟩ := List.mem_filter.1 hn
      rw [learnt_known, Entries.find?_put_of_ne (by simpa using hne)]
      exact h.opened n hmem
    uncopied := fun n hn => by
      refine h.uncopied n ?_
      rw [learnt_known] at hn
      by_cases hne : n = name
      · rw [hne, Entries.find?_put_self] at hn
        cases hn
      · rwa [Entries.find?_put_of_ne hne] at hn
    copied := fun n hn hne => h.copied n (fun hmem => hn (List.mem_filter.2 ⟨hmem, by simpa using hne⟩)) hne }

end Accounted

end Session

/-- **Every task that comes to a value keeps the books in order.** -/
theorem Runs.accounted {F : Finset Text} {t : Task} {s s' : Session} {r : Except DigitLimit t.Result}
    (h : Runs t s r s') (ht : t.IsFor s) (hc : t.context ∈ F) (hs : s.Accounted F t.context) {answer : t.Result}
    (hr : r = .ok answer) : s'.Accounted F t.context := by
  induction h with
  | circular => exact hs.circular hc (hs.opened _ ht) _
  | @settled s context name hn _ =>
    have hne : name ≠ context := fun heq => hn (heq ▸ ht)
    exact hs.answered hc (hs.opened _ ht) hne (.inl rfl)
  | @resolved s s' context name v hn hp hrun ih =>
    have hne : name ≠ context := fun heq => hn (heq ▸ ht)
    have hopen : context ∈ s'.resolving := by
      rw [(hrun.keeps hn).resolving]
      exact ht
    have hknown : s'.known.find? name ≠ none := by simp [hrun.known_of_resolve hp]
    have hafter : s'.Accounted F name := ih trivial (hs.pending name hp) (hs.exempt ht name) rfl
    exact hafter.answered hc (hafter.opened _ hopen) hne (.inr ⟨rfl, hknown⟩)
  | unresolved => cases hr
  | nil => exact hs
  | @sign s s' context l ls t r _ _ _ ih =>
    cases r with
    | error e => cases hr
    | ok ts =>
      have hopen : (Task.read context ls).IsFor (s.recordedAll context (Problem.ofLexeme? l none).toList) := by
        rw [Task.IsFor, Session.recordedAll_resolving]
        exact ht
      exact ih hopen hc (.recordedAll hc hs (hs.opened _ ht) fun _ => Problem.isLocal_ofLexeme) rfl
  | @name s s₁ s' context l ls a t r _ ha _ _ iha ihs =>
    cases r with
    | error e => cases hr
    | ok ts =>
      have hmem : context ∈ s₁.resolving := by
        rw [(ha.keeps trivial).resolving]
        exact ht
      have hopen : (Task.read context ls).IsFor (s₁.recordedAll context (Problem.ofLexeme? l a).toList) := by
        rw [Task.IsFor, Session.recordedAll_resolving]
        exact hmem
      have hafter : s₁.Accounted F context := iha ht hc hs rfl
      exact ihs hopen hc (.recordedAll hc hafter (hafter.opened _ hmem) fun _ => Problem.isLocal_ofLexeme) rfl
  | unwritten => cases hr
  | unanswered => cases hr
  | @value s s' context expression ts hread ih =>
    have hmem : context ∈ s'.resolving := by
      rw [(hread.keeps trivial).resolving]
      exact ht
    have hafter : s'.Accounted F context := ih ht hc (hs.happened rfl) rfl
    exact hafter.concluded hc (hafter.opened _ hmem) _ _
  | unread => cases hr
  | known => exact hs.taken _
  | undefined hk _ => exact (hs.taken _).recorded hc hk fun _ h => by cases h
  | learned hk _ _ ih => exact (ih List.mem_cons_self hc (hs.entered hk) rfl).learnt _
  | failed => cases hr

/-! ## A fresh session -/

namespace Session

theorem Accounted.start (table : Entries Text Text) (values : Entries Text Int) (text filename root : Text) :
    (start table values text filename).Accounted (insert root (table.map Prod.fst).toFinset) root where
  outside _ _ := rfl
  pending n hn := by
    obtain ⟨e, he⟩ := Option.isSome_iff_exists.1 hn
    have hmem : n ∈ table.map Prod.fst := List.mem_map.2 ⟨_, Entries.mem_of_find? he, rfl⟩
    simp [List.mem_toFinset.2 hmem]
  opened _ hn := by cases hn
  circles_le _ := Nat.le_refl _
  uncopied _ _ := rfl
  copied _ _ _ hds := absurd rfl hds
  balance := by simp [diagnosticsOf, Session.start, recordings, Entries.find?]

/-- The name that is resolved first is not copied: whoever looks it up meets it under evaluation. -/
theorem Accounted.copies_eq_zero {F : Finset Text} {root : Text} {given : Option Text} {v : Int} {s s' : Session}
    (h : s.Accounted F root) (hc : root ∈ F) (hzero : s.copies root = 0)
    (hrun : Runs (.resolve root given) s (.ok v) s') : s'.copies root = 0 := by
  cases hrun with
  | known => exact hzero
  | undefined =>
    rw [copies, answers_recorded, circles_recorded]
    simpa [copies, answers, circles] using hzero
  | @learned _ s₁ _ expression _ _ hk _ hv =>
    have hmem : root ∈ s₁.resolving := by
      rw [(hv.keeps trivial).resolving]
      exact List.mem_cons_self
    have hafter : s₁.Accounted F root := hv.accounted List.mem_cons_self hc (h.entered hk) rfl
    exact hafter.uncopied root (hafter.opened root hmem)

/-- Where all but one list were copied, the one makes up for the rest of the balance. -/
theorem Accounted.length_eq {F : Finset Text} {root : Text} {s : Session} (h : s.Accounted F root) (hc : root ∈ F)
    (hr : s.resolving = []) (hzero : s.copies root = 0) :
    (s.diagnosticsOf root).length = s.recordings + ∑ n ∈ F, (s.copies n - 1) * (s.diagnosticsOf n).length := by
  have hname (n : Text) : s.copies n * (s.diagnosticsOf n).length + (if n = root then (s.diagnosticsOf root).length
      else 0) = (s.copies n - 1) * (s.diagnosticsOf n).length + (s.diagnosticsOf n).length := by
    by_cases hn : n = root
    · simp [hn, hzero]
    · rw [if_neg hn, Nat.add_zero]
      by_cases hds : s.diagnosticsOf n = []
      · rw [hds]
        rfl
      · have hcopied := h.copied n (by simp [hr]) hn hds
        obtain ⟨k, hk⟩ := Nat.exists_eq_succ_of_ne_zero hcopied
        rw [hk, Nat.succ_mul, Nat.succ_sub_one]
  have hsum := Finset.sum_congr rfl fun n (_ : n ∈ F) => hname n
  rw [Finset.sum_add_distrib, Finset.sum_add_distrib, Finset.sum_ite_eq', if_pos hc] at hsum
  have hbalance := h.balance
  omega

end Session

/-- **How many diagnostics a name has in the end.**  When a fresh session has resolved a name, the name has one
diagnostic for each that was recorded, and for each further answer to another name as many as that one has.  So there
are no more of them than were recorded if and only if no name with diagnostics was answered more than once. -/
theorem resolve_entries {table : Entries Text Text} {values : Entries Text Int} {text filename root : Text}
    {given : Option Text} {v : Int} {s : Session}
    (h : (resolve root given).run.run (Session.start table values text filename) = (.ok v, s)) :
    (s.diagnosticsOf root).length = s.recordings +
      ∑ n ∈ (table.map Prod.fst).toFinset, (s.copies n - 1) * (s.diagnosticsOf n).length ∧
    ((s.diagnosticsOf root).length ≤ s.recordings ↔ ∀ n, s.diagnosticsOf n ≠ [] → s.copies n ≤ 1) := by
  have hrun : Runs (.resolve root given) (Session.start table values text filename) (.ok v) s := resolve_iff.2 h
  have hstart := Session.Accounted.start table values text filename root
  have hmem := Finset.mem_insert_self root (table.map Prod.fst).toFinset
  have hzero : s.copies root = 0 := hstart.copies_eq_zero hmem rfl hrun
  have hresolving : s.resolving = [] := (hrun.keeps (by simp [Task.MayBegin, Session.start])).resolving
  have hbooks : s.Accounted (insert root (table.map Prod.fst).toFinset) root := hrun.accounted trivial hmem hstart rfl
  have hlength := hbooks.length_eq hmem hresolving hzero
  constructor
  · rw [hlength, Finset.sum_insert_of_eq_zero_if_notMem fun _ => by simp [hzero]]
  · have hle (a b : Nat) : a + b ≤ a ↔ b = 0 := by omega
    rw [hlength, hle, Finset.sum_eq_zero_iff]
    constructor
    · intro hnone n hds
      have hn : n ∈ insert root (table.map Prod.fst).toFinset :=
        Classical.byContradiction fun hn => hds (hbooks.outside n hn)
      have hfactor := (Nat.mul_eq_zero.1 (hnone n hn)).resolve_right fun hlen => hds (List.length_eq_zero_iff.1 hlen)
      omega
    · intro hone n _
      by_cases hds : s.diagnosticsOf n = []
      · rw [hds, List.length_nil, Nat.mul_zero]
      · have hle := hone n hds
        rw [Nat.sub_eq_zero_of_le hle, Nat.zero_mul]

/-- What is recorded for `B` and `C` comes to `A` at once and, for `C`, through `B` as well. -/
theorem resolve_entries_tangled :
    ∃ s, (resolve "A".toList none).run.run (Session.start tangled [] [] []) = (.ok 2, s) ∧
      (s.diagnosticsOf "A".toList).length = 3 ∧ s.recordings = 2 ∧ s.copies "C".toList = 2 ∧
      ((s.diagnosticsOf "A".toList).length = s.recordings +
        ∑ n ∈ (tangled.map Prod.fst).toFinset, (s.copies n - 1) * (s.diagnosticsOf n).length ∧
      ((s.diagnosticsOf "A".toList).length ≤ s.recordings ↔ ∀ n, s.diagnosticsOf n ≠ [] → s.copies n ≤ 1)) := by
  have hresult : let o := (resolve "A".toList none).run.run (Session.start tangled [] [] [])
      o.1 = .ok 2 ∧ (o.2.diagnosticsOf "A".toList).length = 3 ∧ o.2.recordings = 2 ∧ o.2.copies "C".toList = 2 := by
    decide +kernel
  generalize hrun : (resolve "A".toList none).run.run (Session.start tangled [] [] []) = o at hresult
  obtain ⟨r, s⟩ := o
  obtain ⟨rfl, hlength, hrecordings, hcopies⟩ := hresult
  exact ⟨s, rfl, hlength, hrecordings, hcopies, resolve_entries hrun⟩

/-- Each name is mentioned twice by the one before it; nothing defines `X`. -/
def doubled : Entries Text Text :=
  [("A".toList, "B+B".toList), ("B".toList, "C+C".toList), ("C".toList, "X".toList)]

/-- One diagnostic is recorded, for `C`; `B` has it twice and `A` four times. -/
theorem resolve_entries_doubled :
    ∃ s, (resolve "A".toList none).run.run (Session.start doubled [] [] []) = (.ok 0, s) ∧ s.recordings = 1 ∧
      (s.diagnosticsOf "C".toList).length = 1 ∧ (s.diagnosticsOf "B".toList).length = 2 ∧
      (s.diagnosticsOf "A".toList).length = 4 ∧ ¬ (s.diagnosticsOf "A".toList).length ≤ s.recordings := by
  have hresult : let o := (resolve "A".toList none).run.run (Session.start doubled [] [] [])
      o.1 = .ok 0 ∧ o.2.recordings = 1 ∧ (o.2.diagnosticsOf "C".toList).length = 1 ∧
      (o.2.diagnosticsOf "B".toList).length = 2 ∧ (o.2.diagnosticsOf "A".toList).length = 4 := by decide +kernel
  generalize (resolve "A".toList none).run.run (Session.start doubled [] [] []) = o at hresult
  obtain ⟨r, s⟩ := o
  dsimp only at hresult
  obtain ⟨rfl, hrecordings, hc, hb, ha⟩ := hresult
  exact ⟨s, rfl, hrecordings, hc, hb, ha, by omega⟩

end GameSource
