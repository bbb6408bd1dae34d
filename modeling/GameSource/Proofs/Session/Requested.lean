import GameSource.Proofs.Session.Gathered
import Mathlib.Data.List.Nodup
/-!
# What a request for several names comes to

The names of a list are requested in order, and each is taken off the list at its turn (`drain`).  What a turn finds
differs from what there was at the start, since the resolutions before it have taken names out of the pending ones and
learned values of some; `Session.turns` has the names with the sessions that they find.  A turn gives a value exactly if
`Session.HasValue` holds of what it finds, so that the answers are the names of those turns, each at its first one
(`RunsAll.map_fst_eq`), with the values that are known in the end (`requestAll_turns`).
-/
namespace GameSource

open SessionStep

namespace Session

theorem hasValue_iff (s : Session) (name : Text) : s.HasValue name ↔
    (match s.pending.find? name with
    | some expression => !(Text.trim expression).isEmpty
    | none => s.known.contains name) = true := by
  unfold HasValue Entries.contains
  cases s.pending.find? name with
  | some expression => simp
  | none => simp [Option.isSome_iff_exists]

instance (s : Session) (name : Text) : Decidable (s.HasValue name) := decidable_of_iff _ (s.hasValue_iff name).symm

/-- A name has no value at its turn if its pending expression is blank, or if it is neither pending nor known. -/
theorem not_hasValue {s : Session} {name : Text} (h : ¬ s.HasValue name) :
    (∃ expression, s.pending.find? name = some expression ∧ Text.trim expression = []) ∨
      (s.pending.find? name = none ∧ s.known.find? name = none) := by
  cases hp : s.pending.find? name with
  | some expression => exact .inl ⟨expression, rfl, by_contra fun hne => h (.inl ⟨expression, hp, hne⟩)⟩
  | none =>
    cases hk : s.known.find? name with
    | some v => exact absurd (.inr ⟨hp, v, hk⟩) h
    | none => exact .inr ⟨rfl, rfl⟩

/-- The session after one name was requested. -/
def requested (s : Session) (name : Text) : Session := ((requestAll [name]).run.run s).2

/-- The names of a list, each with the session that it finds at its turn. -/
def turns : Session → List Text → List (Text × Session)
  | _, [] => []
  | s, name :: names => (name, s) :: (s.requested name).turns names

theorem map_fst_turns : ∀ (s : Session) (names : List Text), (s.turns names).map Prod.fst = names
  | _, [] => rfl
  | s, name :: names => by rw [turns, List.map_cons, map_fst_turns]

/-- The names whose turns find a value. -/
def served (s : Session) (names : List Text) : List Text :=
  ((s.turns names).filter fun t => t.2.HasValue t.1).map Prod.fst

theorem served_cons (s : Session) (name : Text) (names : List Text) : s.served (name :: names) =
    if s.HasValue name then name :: (s.requested name).served names else (s.requested name).served names := by
  unfold served
  rw [turns, List.filter_cons]
  split <;> rename_i h
  · rw [if_pos (of_decide_eq_true h), List.map_cons]
  · rw [if_neg fun hn => h (decide_eq_true hn)]

end Session

/-- A name that has a value at its turn is known behind it. -/
theorem Runs.known_of_requested {s s' : Session} {name : Text} {v : Int} (hn : s.HasValue name)
    (h : Runs (.resolve name (s.pending.find? name)) (s.taken name) (.ok v) s') : s'.known.find? name = some v := by
  rcases hn with ⟨expression, he, -⟩ | ⟨hp, u, hu⟩
  · rw [he] at h
    cases h with
    | known hk => exact hk
    | learned => exact Entries.find?_put_self _ _ _
  · rw [hp] at h
    have hknown : (s.taken name).known.find? name = some u := hu
    cases h with
    | known hk => exact hk
    | undefined hk =>
      rw [hk] at hknown
      cases hknown
    | learned => exact Entries.find?_put_self _ _ _

namespace RunsAll

variable {names : List Text} {values vs : Entries Text Int} {s s' : Session} {r : Except DigitLimit (Entries Text Int)}

theorem pending_sublist (h : RunsAll names values s r s') : s'.pending.Sublist s.pending := by
  induction h with
  | nil => exact .refl _
  | blank _ _ _ ih => exact ih.trans List.filter_sublist
  | missing _ _ _ ih => exact ih.trans List.filter_sublist
  | value _ hv _ ih =>
    rw [Session.told_pending] at ih
    exact ih.trans (hv.pending_sublist.trans List.filter_sublist)
  | stopped _ hv => exact hv.pending_sublist.trans List.filter_sublist

theorem pending_eq_none (h : RunsAll names values s (.ok vs) s') {n : Text} (hn : n ∈ names) :
    s'.pending.find? n = none := by
  have hgone {names : List Text} {values : Entries Text Int} {u : Session} {r : Except DigitLimit (Entries Text Int)}
      (h : RunsAll names values u r s') (hu : u.pending.find? n = none) : s'.pending.find? n = none :=
    Entries.find?_eq_none_of_sublist h.pending_sublist hu
  have herased (u : Session) : (u.taken n).pending.find? n = none := by simp [Entries.find?_erase]
  generalize hr : Except.ok vs = r at h
  induction h with
  | nil => cases hn
  | @blank s s' name expression names values r _ _ h ih =>
    rcases List.mem_cons.1 hn with rfl | hn
    · exact hgone h (herased s)
    · exact ih hn hgone hr
  | @missing s s' name names values r _ _ h ih =>
    rcases List.mem_cons.1 hn with rfl | hn
    · exact hgone h (herased s)
    · exact ih hn hgone hr
  | @value s s₁ s' name names values v r _ hv h ih =>
    rcases List.mem_cons.1 hn with rfl | hn
    · refine hgone h ?_
      rw [Session.told_pending]
      exact Entries.find?_eq_none_of_sublist hv.pending_sublist (herased s)
    · exact ih hn hgone hr
  | stopped => cases hr

/-- **What is answered stays known**, with the value it was answered with. -/
theorem known_of_mem (h : RunsAll names values s (.ok vs) s') (hs : ∀ e ∈ values, s.known.find? e.1 = some e.2) :
    ∀ e ∈ vs, s'.known.find? e.1 = some e.2 := by
  generalize hr : Except.ok vs = r at h
  induction h with
  | nil =>
    cases hr
    exact hs
  | blank _ _ _ ih => exact ih hs hr
  | missing _ _ _ ih => exact ih hs hr
  | @value s s₁ s' name names values v r hn hv _ ih =>
    refine ih (fun e he => ?_) hr
    rw [Session.told_known]
    rcases Entries.mem_of_mem_put he with rfl | he
    · exact hv.known_of_requested hn
    · exact hv.known_eq_some (hs e he)
  | stopped => cases hr

theorem nodup (h : RunsAll names values s (.ok vs) s') (hs : (values.map Prod.fst).Nodup) :
    (vs.map Prod.fst).Nodup := by
  generalize hr : Except.ok vs = r at h
  induction h with
  | nil =>
    cases hr
    exact hs
  | blank _ _ _ ih => exact ih hs hr
  | missing _ _ _ ih => exact ih hs hr
  | @value s s₁ s' name names values v r _ _ _ ih =>
    exact ih (Entries.nodup_put hs v) hr
  | stopped => cases hr

end RunsAll

/-- One turn: a list of one name comes to what the name comes to. -/
theorem RunsAll.requested_eq {name : Text} {s s' : Session} {r : Except DigitLimit (Entries Text Int)}
    (h : RunsAll [name] [] s r s') : s.requested name = s' := (requests_eq h).2

namespace Session

variable {s : Session} {n : Text} {names : List Text}

theorem requested_spec (s : Session) (n : Text) : ∃ r, RunsAll [n] [] s r (s.requested n) := by
  obtain ⟨r, s', h⟩ := exists_runsAll [n] [] s
  exact ⟨r, h.requested_eq ▸ h⟩

theorem keeps_requested (hs : s.resolving = []) (n : Text) : s.Keeps (s.requested n) := by
  obtain ⟨r, h⟩ := s.requested_spec n
  exact h.keeps hs

theorem pending_requested (s : Session) (n : Text) : (s.requested n).pending.find? n = none := by
  have htaken : (s.taken n).pending.find? n = none := by simp [Entries.find?_erase]
  obtain ⟨r, h⟩ := s.requested_spec n
  generalize s.requested n = s' at h
  cases h with
  | blank _ _ h =>
    cases h
    exact htaken
  | missing _ _ h =>
    cases h
    exact htaken
  | value _ hv h =>
    cases h
    rw [told_pending]
    exact Entries.find?_eq_none_of_sublist hv.pending_sublist htaken
  | stopped _ hv => exact Entries.find?_eq_none_of_sublist hv.pending_sublist htaken

theorem keeps_turns : ∀ {names : List Text} {s : Session}, s.resolving = [] → ∀ t ∈ s.turns names, s.Keeps t.2
  | [], _, _, t, ht => by cases ht
  | n :: names, s, hs, t, ht => by
    rcases List.mem_cons.1 ht with rfl | ht
    · exact .refl s
    · have hone := keeps_requested hs n
      exact hone.trans (keeps_turns (hone.resolving.trans hs) t ht)

theorem mem_of_mem_turns {u : Session} (h : (n, u) ∈ s.turns names) : n ∈ names := by
  rw [← s.map_fst_turns names]
  exact List.mem_map.2 ⟨_, h, rfl⟩

theorem mem_of_mem_served (h : n ∈ s.served names) : n ∈ names := by
  obtain ⟨⟨_, u⟩, hu, rfl⟩ := List.mem_map.1 h
  exact mem_of_mem_turns (List.mem_filter.1 hu).1

end Session

/-- **The answers are the names of the turns that find a value**, each at its first such turn, behind those there are. -/
theorem RunsAll.map_fst_eq {names : List Text} {values vs : Entries Text Int} {s s' : Session}
    (h : RunsAll names values s (.ok vs) s') : vs.map Prod.fst = values.map Prod.fst ++
      ((s.served names).filter fun n => n ∉ values.map Prod.fst).eraseDups := by
  generalize hr : Except.ok vs = r at h
  induction h with
  | nil =>
    cases hr
    exact (List.append_nil _).symm
  | @blank s s' name expression names values r he hb _ ih =>
    have hvalue : ¬ s.HasValue name := by simp [Session.HasValue, he, hb]
    rw [Session.served_cons, if_neg hvalue, (blank he hb nil : RunsAll [name] [] s _ _).requested_eq]
    exact ih hr
  | @missing s s' name names values r hp hk _ ih =>
    have hvalue : ¬ s.HasValue name := by simp [Session.HasValue, hp, hk]
    rw [Session.served_cons, if_neg hvalue, (missing hp hk nil : RunsAll [name] [] s _ _).requested_eq]
    exact ih hr
  | @value s s₁ s' name names values v r hn hv _ ih =>
    rw [Session.served_cons, if_pos hn, (value hn hv nil : RunsAll [name] [] s _ _).requested_eq, ih hr,
      Entries.map_fst_put]
    by_cases hmem : name ∈ values.map Prod.fst
    · rw [if_pos hmem, List.filter_cons_of_neg (by simpa using hmem)]
    · -- The name is new, so that only its first turn counts.
      rw [if_neg hmem, List.filter_cons_of_pos (by simpa using hmem), List.eraseDups_cons, List.filter_filter,
        List.append_assoc, List.singleton_append]
      congr 3
      refine List.filter_congr fun n _ => ?_
      simp only [List.mem_append, List.mem_singleton]
      grind
  | stopped => cases hr

/-! ## The list that is drained -/

/-- Requests the names of a list, each of which is taken off the list at its turn: what it comes to, and the names that
are left. -/
def drain : List Text → Entries Text Int → Session → (Except DigitLimit (Entries Text Int) × Session) × List Text
  | [], values, s => ((.ok values, s), [])
  | name :: names, values, s =>
    match (request name values).run.run s with
    | (.ok values, s') => drain names values s'
    | (.error e, s') => ((.error e, s'), names)

theorem fst_drain : ∀ (names : List Text) (values : Entries Text Int) (s : Session), (drain names values s).1 =
    (names.foldlM (fun values name => request name values) values).run.run s
  | [], _, _ => rfl
  | name :: names, values, s => by
    rw [drain, List.foldlM_cons]
    generalize hstep : (request name values).run.run s = o
    obtain ⟨r, s'⟩ := o
    cases r with
    | ok values' =>
      have hbind : Ensures (request name values >>= fun values => names.foldlM (fun values name => request name values)
          values) s fun q u => (q, u) = (drain names values' s').1 :=
        .of_bind_eq (Prod.ext_iff.1 hstep) (fst_drain names values' s').symm
      exact hbind.symm
    | error e =>
      have hbind : Ensures (request name values >>= fun values => names.foldlM (fun values name => request name values)
          values) s fun q u => (q, u) = (.error e, s') :=
        .of_bind_error (Prod.ext_iff.1 hstep) rfl
      exact hbind.symm

theorem snd_drain {vs : Entries Text Int} : ∀ {names : List Text} {values : Entries Text Int} {s : Session},
    (drain names values s).1.1 = .ok vs → (drain names values s).2 = []
  | [], _, _, _ => rfl
  | name :: names, values, s, h => by
    rw [drain] at h ⊢
    split at h
    · exact snd_drain h
    · cases h

/-- **A request for several names, in any session.**  If nothing stops it, every name is taken off the list and none is
pending any more.  Its answers are the names whose turns find a value, each once and in the order of their first such
turns, with the values that are known in the end; a name without an answer had a blank pending expression or was neither
pending nor known at each of its turns. -/
theorem requestAll_turns {names : List Text} {values : Entries Text Int} {s s' : Session}
    (h : (requestAll names).run.run s = (.ok values, s')) :
    drain names [] s = ((.ok values, s'), []) ∧
    (∀ n ∈ names, s'.pending.find? n = none) ∧
    (values.map Prod.fst).Nodup ∧
    values.map Prod.fst = (((s.turns names).filter fun t => t.2.HasValue t.1).map Prod.fst).eraseDups ∧
    (∀ e ∈ values, s'.known.find? e.1 = some e.2) ∧
    (s.turns names).map Prod.fst = names ∧
    ∀ n ∈ names, n ∉ values.map Prod.fst → ∀ u, (n, u) ∈ s.turns names →
      (∃ expression, u.pending.find? n = some expression ∧ Text.trim expression = []) ∨
        (u.pending.find? n = none ∧ u.known.find? n = none) := by
  have hruns : RunsAll names [] s (.ok values) s' := requests_iff.2 h
  have hdrain : (drain names [] s).1 = (.ok values, s') := (fst_drain names [] s).trans h
  have hanswers : values.map Prod.fst = (s.served names).eraseDups := by simpa using hruns.map_fst_eq
  refine ⟨Prod.ext hdrain (snd_drain (congrArg Prod.fst hdrain)), fun n => hruns.pending_eq_none,
    hruns.nodup List.nodup_nil, hanswers, hruns.known_of_mem (by simp), s.map_fst_turns names,
    fun n _ hnot u hu => Session.not_hasValue fun hvalue => hnot ?_⟩
  rw [hanswers, List.mem_eraseDups]
  exact List.mem_map.2 ⟨(n, u), List.mem_filter.2 ⟨hu, decide_eq_true hvalue⟩, rfl⟩

/-- `A` and `B` lead to each other, `E` is blank, and `K` has an expression beside the value that it is given. -/
def crossing : Entries Text Text :=
  [("A".toList, "B+1".toList), ("B".toList, "A+2".toList), ("E".toList, []), ("K".toList, "A".toList)]

/-- The request for `A` has evaluated `B`, which keeps its place among the answers nevertheless; `E` is blank at its
first turn and gone at its second, and nothing defines `U`. -/
theorem requestAll_turns_crossing :
    let names := ["A".toList, "E".toList, "U".toList, "B".toList, "A".toList, "K".toList, "E".toList]
    let s := Session.start crossing [("K".toList, 5)] [] []
    let values := [("A".toList, 3), ("B".toList, 2), ("K".toList, 5)]
    ∃ s', (requestAll names).run.run s = (.ok values, s') ∧ drain names [] s = ((.ok values, s'), []) ∧
      (∀ n ∈ names, s'.pending.find? n = none) ∧ (∀ e ∈ values, s'.known.find? e.1 = some e.2) ∧
      values.map Prod.fst = (s.served names).eraseDups ∧
      s.served names = ["A".toList, "B".toList, "A".toList, "K".toList] := by
  intro names s values
  have hserved : s.served names = ["A".toList, "B".toList, "A".toList, "K".toList] := by decide +kernel
  have hresult : ((requestAll names).run.run s).1 = .ok values := by decide +kernel
  generalize hrun : (requestAll names).run.run s = o at hresult
  obtain ⟨r, s'⟩ := o
  obtain rfl : r = .ok values := hresult
  obtain ⟨hdrain, hpending, -, hanswers, hknown, -⟩ := requestAll_turns hrun
  exact ⟨s', rfl, hdrain, hpending, hknown, hanswers, hserved⟩

end GameSource
