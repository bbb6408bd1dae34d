import GameSource.Proofs.Session.Copied
import GameSource.Proofs.Session.Requested
/-!
# Values that override definitions

A name that is given a value from outside needs none of its own.  Wherever a session comes to look at it, the value wins
over what the table has for it: it is what lookups are answered, and the name's expression is never evaluated
(`Runs.overrides`).  Only what a request evaluates on behalf of the name is told of it.  Requests for several names
answer it too, but for a name whose expression is blank: that one is passed over once, while it is pending
(`known_overrides`).
-/
namespace GameSource

open SessionStep

namespace Session

/-- An answer adds nothing to the diagnostics of other names than the one that asks. -/
theorem diagnosticsOf_answered_of_ne {s : Session} {context name : Text} (hne : name ≠ context) (n : Text) :
    (s.answered context n).diagnosticsOf name = s.diagnosticsOf name := by
  have hsame : (s.answered context n).diagnosticsOf name = (s.copied context n).diagnosticsOf name := rfl
  rw [hsame, copied]
  split
  · split
    · rfl
    · rw [diagnosticsOf, Entries.find?_put_of_ne hne, diagnosticsOf]
  · rfl

/-- From the first session to the other one the value of a name wins over its definition, where only the expressions of
`own` are evaluated on behalf of the name. -/
structure Overrides (name : Text) (v : Int) (own : Text → Prop) (s s' : Session) : Prop where
  answered : ∀ context a, .answered context name a ∈ s'.journal → .answered context name a ∈ s.journal ∨ a = some v
  began : ∀ e, .began name e ∈ s'.journal → .began name e ∈ s.journal ∨ own e
  recorded : ∀ d, .recorded name d ∈ s'.journal → .recorded name d ∈ s.journal ∨ ∃ e, own e
  diagnostics : s'.diagnosticsOf name = s.diagnosticsOf name ∨ ∃ e, own e

namespace Overrides

variable {name context n rest : Text} {v : Int} {own own' : Text → Prop} {s s₁ s₂ s' : Session}

theorem of_same (hj : s'.journal = s.journal) (he : s'.errors = s.errors) : Overrides name v own s s' where
  answered c a ha := .inl (hj ▸ ha)
  began e he := .inl (hj ▸ he)
  recorded d hd := .inl (hj ▸ hd)
  diagnostics := .inl (by rw [diagnosticsOf, he, diagnosticsOf])

theorem refl (s : Session) : Overrides name v own s s := of_same rfl rfl

theorem trans (h : Overrides name v own s₁ s₂) (h' : Overrides name v own s₂ s') : Overrides name v own s₁ s' where
  answered c a ha := (h'.answered c a ha).elim (h.answered c a) .inr
  began e he := (h'.began e he).elim (h.began e) .inr
  recorded d hd := (h'.recorded d hd).elim (h.recorded d) .inr
  diagnostics := h'.diagnostics.elim (fun heq => h.diagnostics.imp_left heq.trans) .inr

theorem mono (h : Overrides name v own s s') (hown : ∀ e, own e → own' e) : Overrides name v own' s s' where
  answered := h.answered
  began e he := (h.began e he).imp_right (hown e)
  recorded d hd := (h.recorded d hd).imp_right (Exists.imp hown)
  diagnostics := h.diagnostics.imp_right (Exists.imp hown)

theorem happened (s : Session) {ev : SessionEvent} (ha : ∀ c a, ev = .answered c name a → a = some v)
    (hb : ∀ e, ev = .began name e → own e) (hd : ∀ d, ev ≠ .recorded name d) :
    Overrides name v own s (s.happened ev) where
  answered c a hmem := (List.mem_cons.1 hmem).elim (fun heq => .inr (ha c a heq.symm)) .inl
  began e hmem := (List.mem_cons.1 hmem).elim (fun heq => .inr (hb e heq.symm)) .inl
  recorded d hmem := .inl ((List.mem_cons.1 hmem).resolve_left fun heq => hd d heq.symm)
  diagnostics := .inl rfl

theorem noticed (s : Session) (notice : Notice) : Overrides name v own s (s.happened (.noticed notice)) :=
  happened s (by simp) (by simp) (by simp)

theorem record (s : Session) (p : Problem) (hc : context = name → ∃ e, own e) :
    Overrides name v own s (s.recorded context p) where
  answered c a ha := .inl ((List.mem_cons.1 ha).resolve_left (by simp))
  began e he := .inl ((List.mem_cons.1 he).resolve_left (by simp))
  recorded d hd := by
    rcases List.mem_cons.1 hd with heq | hd
    · cases heq
      exact .inr (hc rfl)
    · exact .inl hd
  diagnostics := by
    by_cases heq : context = name
    · exact .inr (hc heq)
    · rw [diagnosticsOf_recorded, if_neg (Ne.symm heq), List.append_nil]
      exact .inl rfl

theorem recordAll (hc : context = name → ∃ e, own e) : ∀ (s : Session) (ps : List Problem),
    Overrides name v own s (s.recordedAll context ps)
  | s, [] => refl s
  | s, p :: ps => (record s p hc).trans (recordAll hc (s.recorded context p) ps)

theorem answer (hk : s.known.find? name = some v) (hc : context = name → ∃ e, own e) (n : Text) :
    Overrides name v own s (s.answered context n) where
  answered c a ha := by
    rw [journal_answered] at ha
    rcases List.mem_cons.1 ha with heq | ha
    · cases heq
      exact .inr hk
    · exact .inl ha
  began e he := .inl (by simpa [journal_answered] using he)
  recorded d hd := .inl (by simpa [journal_answered] using hd)
  diagnostics := by
    by_cases heq : context = name
    · exact .inr (hc heq)
    · exact .inl (diagnosticsOf_answered_of_ne (Ne.symm heq) n)

theorem conclude (s : Session) (hc : context = name → ∃ e, own e) (rest : Text) (ts : List Token) :
    Overrides name v own s (s.concluded context rest ts) := by
  have htokens (s : Session) : Overrides name v own s ((s.recordedAll context (Postfix.ofTokens ts).problems).recordedAll
      context (Evaluation.ofTokens (Postfix.ofTokens ts).tokens).problems) :=
    (recordAll hc s _).trans (recordAll hc _ _)
  unfold concluded
  split
  · exact htokens s
  · exact (noticed s _).trans (htokens _)

theorem tell (s : Session) (n : Text) : Overrides name v own s (s.told n) := by
  rcases told_eq s n with h | ⟨ds, h⟩
  · rw [h]
    exact refl s
  · rw [h]
    exact noticed s _

end Overrides

end Session

/-- On behalf of the name a task evaluates only expressions of `own`. -/
def Task.Evaluates (name : Text) (own : Text → Prop) : Task → Prop
  | look context _ | read context _ => context = name → ∃ e, own e
  | evaluate context expression => context = name → own expression
  | resolve _ _ => True

/-- **A value that is known overrides the definition of the name**, in every task of a session where the name is not
under evaluation. -/
theorem Runs.overrides {t : Task} {s s' : Session} {r : Except DigitLimit t.Result} {name : Text} {v : Int}
    {own : Text → Prop} (h : Runs t s r s') (hk : s.known.find? name = some v) (hn : name ∉ s.resolving)
    (ht : t.Evaluates name own) : Session.Overrides name v own s s' := by
  -- Another name than the known one is evaluated on its own behalf.
  have hother {n : Text} {s : Session} (hk : s.known.find? name = some v) (hunknown : s.known.find? n = none) :
      n ≠ name := by
    rintro rfl
    rw [hunknown] at hk
    cases hk
  have hnested {n expression : Text} {s s' : Session} (hne : n ≠ name) (hn : name ∉ s.resolving)
      (h : name ∉ (s.entered n).resolving → (Task.evaluate n expression).Evaluates name own →
        Session.Overrides name v own (s.entered n) s') : Session.Overrides name v own s s' := by
    have hentered : Session.Overrides name v own s (s.entered n) := .of_same rfl rfl
    exact hentered.trans (h (fun hmem => (List.mem_cons.1 hmem).elim (Ne.symm hne) hn) fun heq => absurd heq hne)
  induction h with
  | @circular s context n hmem =>
    have hne : n ≠ name := fun heq => hn (heq ▸ hmem)
    exact (Session.Overrides.record s _ ht).trans
      (.happened _ (fun c a heq => absurd (SessionEvent.answered.inj heq).2.1 hne) (by simp) (by simp))
  | settled => exact .answer hk ht _
  | resolved _ _ hr ih => exact (ih hk hn trivial).trans (.answer (hr.known_eq_some hk) ht _)
  | unresolved _ _ _ ih => exact ih hk hn trivial
  | nil => exact .refl _
  | sign _ _ _ ih =>
    refine (Session.Overrides.recordAll ht _ _).trans (ih ?_ ?_ ht)
    · rwa [Session.recordedAll_known]
    · rwa [Session.recordedAll_resolving]
  | name _ ha _ _ iha ihs =>
    refine (iha hk hn ht).trans ((Session.Overrides.recordAll ht _ _).trans (ihs ?_ ?_ ht))
    · rw [Session.recordedAll_known]
      exact ha.known_eq_some hk
    · rwa [Session.recordedAll_resolving, (ha.keeps trivial).resolving]
  | unwritten _ _ _ ih => exact ih hk hn ht
  | unanswered _ _ ih => exact ih hk hn ht
  | @value s s' context expression ts _ ih =>
    have hbegan : Session.Overrides name v own s (s.happened (.began context expression)) :=
      .happened s (by simp) (fun e heq => by cases heq; exact ht rfl) (by simp)
    have hread : context = name → ∃ e, own e := fun heq => ⟨expression, ht heq⟩
    exact hbegan.trans ((ih hk hn hread).trans (.conclude _ hread _ _))
  | @unread s s' context expression e _ ih =>
    have hbegan : Session.Overrides name v own s (s.happened (.began context expression)) :=
      .happened s (by simp) (fun e heq => by cases heq; exact ht rfl) (by simp)
    exact hbegan.trans (ih hk hn fun heq => ⟨expression, ht heq⟩)
  | known => exact .of_same rfl rfl
  | @undefined s n hunknown _ =>
    have htaken : Session.Overrides name v own s (s.taken n) := .of_same rfl rfl
    exact htaken.trans (.record _ _ fun heq => absurd heq (hother hk hunknown))
  | @learned s s' n expression given w hunknown _ _ ih =>
    have hopen : Session.Overrides name v own s s' := hnested (hother hk hunknown) hn (ih hk)
    exact hopen.trans (.of_same rfl rfl)
  | @failed s s' n expression given e hunknown _ _ ih =>
    have hopen : Session.Overrides name v own s s' := hnested (hother hk hunknown) hn (ih hk)
    exact hopen.trans (.of_same rfl rfl)

/-! ## Requests -/

section
variable {name : Text} {v : Int} {own : Text → Prop} {s s' : Session}

theorem RunsAll.overrides {names : List Text} {values : Entries Text Int} {r : Except DigitLimit (Entries Text Int)}
    (h : RunsAll names values s r s') (hk : s.known.find? name = some v) (hs : s.resolving = []) :
    Session.Overrides name v own s s' := by
  have htaken (s : Session) (n : Text) : Session.Overrides name v own s (s.taken n) := .of_same rfl rfl
  induction h with
  | nil => exact .refl _
  | @blank s s' n expression names values r _ _ _ ih => exact (htaken s n).trans (ih hk hs)
  | @missing s s' n names values r _ _ _ ih =>
    exact (htaken s n).trans ((Session.Overrides.noticed _ _).trans (ih hk hs))
  | @value s s₁ s' n names values w r _ hv _ ih =>
    have hresolve : Session.Overrides name v own s s₁ := (htaken s n).trans (hv.overrides hk (by simp [hs]) trivial)
    have hknown : (s₁.told n).known.find? name = some v := by
      rw [Session.told_known]
      exact hv.known_eq_some hk
    have hidle : (s₁.told n).resolving = [] :=
      ((hv.keeps (by simp [Task.MayBegin, hs])).trans (.told s₁ n)).resolving.trans hs
    exact hresolve.trans ((Session.Overrides.tell s₁ n).trans (ih hknown hidle))
  | @stopped s s₁ n names values e _ hv => exact (htaken s n).trans (hv.overrides hk (by simp [hs]) trivial)

/-- A request evaluates on behalf of a name what it gives to be evaluated. -/
theorem Serves.overrides {q : Request} {r : Except DigitLimit Reply} (h : Serves q s r s')
    (hk : s.known.find? name = some v) (hs : s.resolving = []) :
    Session.Overrides name v (fun e => q = .evaluate e name) s s' := by
  have hn : name ∉ s.resolving := by simp [hs]
  cases h with
  | resolve h => exact h.overrides hk hn trivial
  | resolveAll h => exact h.overrides hk hs
  | evaluate h =>
    refine h.overrides hk hn ?_
    rintro rfl
    rfl
  | tellProblems => exact .tell s _

theorem Session.overrides_after : ∀ {qs : List Request} {s : Session}, s.known.find? name = some v →
    s.resolving = [] → Session.Overrides name v (fun e => .evaluate e name ∈ qs) s (s.after qs)
  | [], s, _, _ => .refl s
  | q :: qs, s, hk, hs => by
    have hserves : Serves q s (q.step.run.run s).1 (q.step.run.run s).2 := serves_iff.2 rfl
    have hkeeps := hserves.keeps hs
    have hrest : Overrides name v (fun e => .evaluate e name ∈ qs) (q.step.run.run s).2
        ((q.step.run.run s).2.after qs) := overrides_after (hkeeps.known_eq_some hk) (hkeeps.resolving.trans hs)
    rw [after_cons]
    exact ((hserves.overrides hk hs).mono fun e he => he ▸ List.mem_cons_self).trans
      (hrest.mono fun e he => List.mem_cons_of_mem q he)

end

/-! ## Answers -/

namespace Session

variable {name : Text} {v : Int}

theorem mem_served_of_known : ∀ {names : List Text} {s : Session}, s.resolving = [] →
    s.known.find? name = some v → s.pending.find? name = none → name ∈ names → name ∈ s.served names
  | n :: names, s, hs, hk, hp, hmem => by
    rw [served_cons]
    by_cases hn : n = name
    · subst hn
      rw [if_pos (.inr ⟨hp, v, hk⟩)]
      exact List.mem_cons_self
    · have hone := keeps_requested hs n
      have hrest : name ∈ (s.requested n).served names :=
        mem_served_of_known (hone.resolving.trans hs) (hone.known_eq_some hk) (hone.pending_eq_none hp)
          ((List.mem_cons.1 hmem).resolve_left (Ne.symm hn))
      split
      · exact List.mem_cons_of_mem n hrest
      · exact hrest

/-- **A known name has no value at its turns exactly if it has one turn only, and is pending there with a blank
expression.** -/
theorem not_mem_served_iff : ∀ {names : List Text} {s : Session}, s.resolving = [] →
    s.known.find? name = some v → name ∈ names → (name ∉ s.served names ↔
      names.count name = 1 ∧ ∃ u e, (name, u) ∈ s.turns names ∧ u.pending.find? name = some e ∧ Text.trim e = [])
  | n :: names, s, hs, hk, hmem => by
    have hone := keeps_requested hs n
    have hopen : (s.requested n).resolving = [] := hone.resolving.trans hs
    have hknown : (s.requested n).known.find? name = some v := hone.known_eq_some hk
    rw [served_cons, turns]
    by_cases hn : n = name
    · subst hn
      by_cases hagain : n ∈ names
      · -- At a second turn the name is known and not pending.
        have hserved := mem_served_of_known hopen hknown (s.pending_requested n) hagain
        have hcount : 0 < names.count n := List.count_pos_iff.2 hagain
        have hin : n ∈ if s.HasValue n then n :: (s.requested n).served names else (s.requested n).served names := by
          split
          · exact List.mem_cons_self
          · exact hserved
        rw [List.count_cons_self]
        exact ⟨fun h => absurd hin h, fun h => by omega⟩
      · have hnot : n ∉ (s.requested n).served names := fun h => hagain (mem_of_mem_served h)
        have hcount : (n :: names).count n = 1 := by rw [List.count_cons_self, List.count_eq_zero_of_not_mem hagain]
        by_cases hvalue : s.HasValue n
        · rw [if_pos hvalue]
          refine ⟨fun h => absurd List.mem_cons_self h, ?_⟩
          rintro ⟨-, u, e, hu, he, hblank⟩
          rcases List.mem_cons.1 hu with heq | hu
          · cases heq
            simp [HasValue, he, hblank] at hvalue
          · exact absurd (mem_of_mem_turns hu) hagain
        · rw [if_neg hvalue]
          refine ⟨fun _ => ⟨hcount, ?_⟩, fun _ => hnot⟩
          rcases not_hasValue hvalue with ⟨e, he, hblank⟩ | ⟨-, hunknown⟩
          · exact ⟨s, e, List.mem_cons_self, he, hblank⟩
          · rw [hunknown] at hk
            cases hk
    · have hrest := not_mem_served_iff hopen hknown ((List.mem_cons.1 hmem).resolve_left (Ne.symm hn))
      have hserved : (name ∉ if s.HasValue n then n :: (s.requested n).served names else (s.requested n).served names) ↔
          name ∉ (s.requested n).served names := by
        split
        · simp [Ne.symm hn]
        · rfl
      have hturns (u : Session) : (name, u) ∈ (n, s) :: (s.requested n).turns names ↔
          (name, u) ∈ (s.requested n).turns names := by simp [Ne.symm hn]
      rw [hserved, hrest, List.count_cons_of_ne hn]
      simp only [hturns]

end Session

/-- **Values from outside override the definitions**, in every session and after any requests: a lookup of the name is
answered with its value, and resolving it gives the value, whatever expression is given or pending.  No expression is
begun for the name but those that a request evaluates on its behalf, and without such requests nothing is recorded of it.
A request for several names that is not stopped answers it with the value, unless it names it once only and its blank
expression from the table is still pending at its turn. -/
theorem known_overrides {table : Entries Text Text} {values : Entries Text Int} {text filename name : Text} {v : Int}
    (hv : (Session.constants.putAll values).find? name = some v) (earlier : List Request) :
    let s := (Session.start table values text filename).after earlier
    (∀ context a, .answered context name a ∈ s.journal → a = some v) ∧
    (∀ given, (resolve name given).run.run s = (.ok v, s.taken name)) ∧
    (∀ e, .began name e ∈ s.journal → .evaluate e name ∈ earlier) ∧
    ((∀ e, .evaluate e name ∉ earlier) → s.diagnosticsOf name = [] ∧ ∀ d, .recorded name d ∉ s.journal) ∧
    ∀ names answers s', name ∈ names → (requestAll names).run.run s = (.ok answers, s') →
      (∀ a, answers.find? name = some a → a = v) ∧
      (answers.find? name = none ↔ names.count name = 1 ∧ ∃ u e, (name, u) ∈ s.turns names ∧
        u.pending.find? name = some e ∧ table.find? name = some e ∧ Text.trim e = []) := by
  intro s
  have hbefore : (Session.start table values text filename).Keeps s := Session.keeps_after rfl
  have hk : s.known.find? name = some v := hbefore.known_eq_some hv
  have hs : s.resolving = [] := hbefore.resolving
  have hover : Session.Overrides name v (fun e => .evaluate e name ∈ earlier) (Session.start table values text filename)
      s := Session.overrides_after hv rfl
  refine ⟨fun c a ha => (hover.answered c a ha).resolve_left (by simp [Session.start]),
    fun given => resolve_iff.1 (.known hk),
    fun e he => (hover.began e he).resolve_left (by simp [Session.start]), fun hnone => ?_,
    fun names answers s' hname hrun => ?_⟩
  · have hown : ¬ ∃ e, Request.evaluate e name ∈ earlier := not_exists.2 hnone
    exact ⟨hover.diagnostics.resolve_right hown,
      fun d hd => List.not_mem_nil ((hover.recorded d hd).resolve_right hown)⟩
  · have hruns : RunsAll names [] s (.ok answers) s' := requests_iff.2 hrun
    have hanswers : answers.map Prod.fst = (s.served names).eraseDups := by simpa using hruns.map_fst_eq
    have hafter : s'.known.find? name = some v := (hruns.keeps hs).known_eq_some hk
    refine ⟨fun a ha => ?_, ?_⟩
    · have hlast : s'.known.find? name = some a := hruns.known_of_mem (by simp) _ (Entries.mem_of_find? ha)
      exact Option.some.inj (hlast.symm.trans hafter)
    · have hnone : answers.find? name = none ↔ name ∉ s.served names := by
        rw [← List.mem_eraseDups, ← hanswers, ← Entries.isSome_find?, Option.not_isSome_iff_eq_none]
      rw [hnone, Session.not_mem_served_iff hs hk hname]
      refine and_congr_right fun _ => ⟨?_, ?_⟩
      · rintro ⟨u, e, hu, he, hblank⟩
        have hkeeps := hbefore.trans (Session.keeps_turns hs _ hu)
        exact ⟨u, e, hu, he, hkeeps.pending_eq_some he, hblank⟩
      · rintro ⟨u, e, hu, he, -, hblank⟩
        exact ⟨u, e, hu, he, hblank⟩

/-- `A` has a value from outside beside an expression that would have none, and so has `E`, whose expression is blank. -/
def overridden : Entries Text Text :=
  [("A".toList, "A/0".toList), ("B".toList, "A+E".toList), ("E".toList, [])]

/-- `B` is evaluated with the values from outside and `A` is answered with its own, but `E`, which is requested first, is
left out. -/
theorem known_overrides_overridden :
    let s := (Session.start overridden [("A".toList, 5), ("E".toList, 7)] [] []).after
      [.evaluate "A*A".toList "X".toList, .resolve "A".toList (some "8".toList)]
    (Session.constants.putAll [("A".toList, 5), ("E".toList, 7)]).find? "A".toList = some 5 ∧
    (∀ context a, .answered context "A".toList a ∈ s.journal → a = some 5) ∧
    (resolve "A".toList none).run.run s = (.ok 5, s.taken "A".toList) ∧
    s.diagnosticsOf "A".toList = [] ∧
    ((requestAll ["E".toList, "B".toList, "A".toList]).run.run s).1 = .ok [("B".toList, 12), ("A".toList, 5)] := by
  intro s
  have hv : (Session.constants.putAll [("A".toList, 5), ("E".toList, 7)]).find? "A".toList = some 5 := by decide
  have hanswers : ((requestAll ["E".toList, "B".toList, "A".toList]).run.run s).1 =
      .ok [("B".toList, 12), ("A".toList, 5)] := by decide +kernel
  obtain ⟨hanswered, hresolve, -, hnone, -⟩ := @known_overrides overridden _ [] [] _ _ hv
    [.evaluate "A*A".toList "X".toList, .resolve "A".toList (some "8".toList)]
  exact ⟨hv, hanswered, hresolve none, (hnone (by simp)).1, hanswers⟩

/-- The value from outside is no answer for a name that is requested once and has a blank expression. -/
theorem known_overrides_blank :
    (Session.constants.putAll [("A".toList, 5)]).find? "A".toList = some 5 ∧
    ((requestAll ["A".toList]).run.run (Session.start [("A".toList, [])] [("A".toList, 5)] [] [])).1 = .ok [] := by
  decide +kernel

end GameSource
