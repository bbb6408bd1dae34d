import GameSource.Proofs.Session.Coherent
/-!
# What a resolution drains

Resolving a name takes the names that it leads to out of the pending ones, and only those.  `Touches` is the frame:
nothing changes outside a set of names that holds whatever its names mention.  `Drained` is the other half: what a name
mentions is no longer pending when the name itself is done.  Both are proved along the text of an evaluation by one rule
for steps put together (`bind_works`).
-/
namespace GameSource

open SessionStep

namespace Session

/-! ## Frame and draining -/

/-- From the first session to the other one only names of `R` were resolved or looked up, and none is newly pending. -/
structure Touches (R : Text → Prop) (s s' : Session) : Prop where
  resolving : s'.resolving = s.resolving
  length_le : s'.pending.length ≤ s.pending.length
  pending : ∀ n e, s'.pending.find? n = some e → s.pending.find? n = some e
  outside : ∀ n, ¬ R n → s'.pending.find? n = s.pending.find? n ∧ s'.known.find? n = s.known.find? n
  answered : ∀ context n a, .answered context n a ∈ s'.journal → R n ∨ .answered context n a ∈ s.journal

namespace Touches

variable {R : Text → Prop} {s s₁ s₂ s₃ : Session}

theorem of_sameNames (h : s₁.SameNames s₂) : Touches R s₁ s₂ where
  resolving := h.resolving
  length_le := by rw [h.pending]
  pending n e he := by rwa [h.pending] at he
  outside n _ := by rw [h.pending, h.known]; exact ⟨rfl, rfl⟩
  answered c n a ha := .inr (h.answered c n a ha)

theorem refl (s : Session) : Touches R s s := .of_sameNames (.refl s)

theorem trans (h : Touches R s₁ s₂) (h' : Touches R s₂ s₃) : Touches R s₁ s₃ where
  resolving := h'.resolving.trans h.resolving
  length_le := h'.length_le.trans h.length_le
  pending n e he := h.pending n e (h'.pending n e he)
  outside n hn := ⟨(h'.outside n hn).1.trans (h.outside n hn).1, (h'.outside n hn).2.trans (h.outside n hn).2⟩
  answered c n a ha := (h'.answered c n a ha).elim .inl (h.answered c n a)

/-- A name that is not pending does not become so. -/
theorem find?_eq_none (h : Touches R s₁ s₂) {n : Text} (hn : s₁.pending.find? n = none) :
    s₂.pending.find? n = none := by
  cases he : s₂.pending.find? n with
  | none => rfl
  | some e => exact absurd (hn.symm.trans (h.pending n e he)) (by simp)

/-- A name of the set may be taken out of the pending ones. -/
theorem erase {name : Text} (hname : R name) (s : Session) :
    Touches R s { s with pending := s.pending.erase name } where
  resolving := rfl
  length_le := List.length_filter_le _ _
  pending n e he := by
    rw [Entries.find?_erase] at he
    split at he
    · cases he
    · exact he
  outside n hn := by
    have hne : n ≠ name := fun h => hn (h ▸ hname)
    rw [Entries.find?_erase, if_neg hne]
    exact ⟨rfl, rfl⟩
  answered _ _ _ := .inr

/-- A value of a name of the set may be learned. -/
theorem learn {name : Text} (hname : R name) (v : Int) (s : Session) :
    Touches R s { s with known := s.known.put name v } where
  resolving := rfl
  length_le := Nat.le_refl _
  pending _ _ := id
  outside n hn := by
    have hne : n ≠ name := fun h => hn (h ▸ hname)
    rw [Entries.find?_put_of_ne hne]
    exact ⟨rfl, rfl⟩
  answered _ _ _ := .inr

end Touches

/-- Evaluating a name of the set touches only names of it. -/
theorem Touches.of_entered {R : Text → Prop} {name : Text} (hname : R name) {s s' : Session}
    (h : Touches R (s.entered name) s') : Touches R s { s' with resolving := s.resolving } :=
  (Touches.erase hname s).trans ⟨rfl, h.length_le, h.pending, h.outside, h.answered⟩

/-- The set holds whatever the pending expressions of its names mention. -/
def ClosedOver (R : Text → Prop) (s : Session) : Prop :=
  ∀ n e, s.pending.find? n = some e → R n → ∀ m ∈ mentioned e, R m

theorem ClosedOver.of_touches {R : Text → Prop} {s s' : Session} (h : s.ClosedOver R) (ht : Touches R s s') :
    s'.ClosedOver R := fun n e he => h n e (ht.pending n e he)

/-- **A name that is done leaves nothing pending that its expression mentions.** -/
structure Drained (table : Entries Text Text) (s : Session) : Prop where
  pending : ∀ n e, s.pending.find? n = some e → table.find? n = some e
  unknown : ∀ n e, s.pending.find? n = some e → s.known.find? n = none
  resolving : ∀ n ∈ s.resolving, s.pending.find? n = none
  mentioned : ∀ n e, table.find? n = some e → s.pending.find? n = none →
    n ∈ s.resolving ∨ ∀ m ∈ GameSource.mentioned e, s.pending.find? m = none

namespace Drained

variable {table : Entries Text Text} {s s' : Session} {name : Text}

theorem of_sameNames (h : s.Drained table) (hs : s.SameNames s') : s'.Drained table where
  pending := by rw [hs.pending]; exact h.pending
  unknown := by rw [hs.pending, hs.known]; exact h.unknown
  resolving := by rw [hs.pending, hs.resolving]; exact h.resolving
  mentioned := by rw [hs.pending, hs.resolving]; exact h.mentioned

/-- A name that is being evaluated is no longer pending. -/
theorem enter (h : s.Drained table) (name : Text) : (s.entered name).Drained table where
  pending n e he := h.pending n e ((Touches.erase trivial s : Touches (fun _ => True) s _).pending n e he)
  unknown n e he := h.unknown n e ((Touches.erase trivial s : Touches (fun _ => True) s _).pending n e he)
  resolving n hn := by
    rw [entered, Entries.find?_erase]
    split
    · rfl
    · rename_i hne
      exact h.resolving n ((List.mem_cons.1 hn).resolve_left hne)
  mentioned n e he hn := by
    by_cases hne : n = name
    · exact .inl (hne ▸ List.mem_cons_self)
    · rw [entered, Entries.find?_erase, if_neg hne] at hn
      refine (h.mentioned n e he hn).imp (List.mem_cons_of_mem name) fun hm m hmem => ?_
      rw [entered, Entries.find?_erase]
      split
      · rfl
      · exact hm m hmem

/-- A name may be left when nothing is pending that its expression mentions. -/
theorem leave {resolving : List Text} {v : Int} (h : s.Drained table) (hs : s.resolving = name :: resolving)
    (hname : ∀ e, table.find? name = some e → ∀ m ∈ GameSource.mentioned e, s.pending.find? m = none) :
    ({ s with resolving, known := s.known.put name v } : Session).Drained table where
  pending := h.pending
  unknown n e he := by
    have hne : n ≠ name := by
      rintro rfl
      have hnone := h.resolving n (hs ▸ List.mem_cons_self)
      exact absurd (he.symm.trans hnone) (by simp)
    rw [Entries.find?_put_of_ne hne]
    exact h.unknown n e he
  resolving n hn := h.resolving n (hs ▸ List.mem_cons_of_mem name hn)
  mentioned n e he hn := by
    rcases h.mentioned n e he hn with hmem | hm
    · rw [hs] at hmem
      rcases List.mem_cons.1 hmem with rfl | hmem
      · exact .inr (hname e he)
      · exact .inl hmem
    · exact .inr hm

end Drained

/-- **What a step does to the names of a session**: it touches only those of `R`, and when it gives a result, all of
`names` are done. -/
structure Works (table : Entries Text Text) (R : Text → Prop) (s : Session) (names : List Text) {α : Type}
    (r : Except DigitLimit α) (s' : Session) : Prop where
  touches : Touches R s s'
  drained : ∀ a, r = .ok a → s.Drained table → s'.Drained table ∧ ∀ n ∈ names, s'.pending.find? n = none

end Session

namespace SessionStep

open Session

section
variable {table : Entries Text Text} {R : Text → Prop} {α β : Type} {s : Session}

/-- **Steps one after the other do what each of them does.** -/
theorem bind_works {step : SessionStep α} {f : α → SessionStep β} {ns ms : List Text}
    (h : Ensures step s (Works table R s ns))
    (hf : ∀ a s', Touches R s s' → Ensures (f a) s' (Works table R s' ms)) :
    Ensures (step >>= f) s (Works table R s (ns ++ ms)) := by
  refine .of_bind h (fun a s₁ h₁ => (hf a s₁ h₁.touches).mono fun r s₂ h₂ => ?_) fun e s₁ h₁ => ?_
  · refine ⟨h₁.touches.trans h₂.touches, fun b hb hs => ?_⟩
    obtain ⟨hs₁, hns⟩ := h₁.drained a rfl hs
    obtain ⟨hs₂, hms⟩ := h₂.drained b hb hs₁
    refine ⟨hs₂, fun n hn => ?_⟩
    rcases List.mem_append.1 hn with hn | hn
    · exact h₂.touches.find?_eq_none (hns n hn)
    · exact hms n hn
  · exact ⟨h₁.touches, fun b hb => by cases hb⟩

theorem sameNames_works {step : SessionStep α} (h : Ensures step s fun _ s' => s.SameNames s') :
    Ensures step s (Works table R s []) :=
  h.mono fun _ _ hs => ⟨.of_sameNames hs, fun _ _ hd => ⟨hd.of_sameNames hs, by simp⟩⟩

theorem pure_works (a : α) : Ensures (pure a : SessionStep α) s (Works table R s []) :=
  sameNames_works (.of_pure (.refl s))

theorem happen_works {e : SessionEvent} (h : ∀ c n a, e ≠ .answered c n a) :
    Ensures (happen e) s (Works table R s []) :=
  sameNames_works (Ensures.happen.mono fun _ _ hs => hs.2 ▸ .happen s h)

theorem recordAll_works {context : Text} {ps : List Problem} :
    Ensures (recordAll context ps) s (Works table R s []) :=
  sameNames_works (Ensures.recordAll.mono fun _ _ hs => hs.2 ▸ .recordedAll context s ps)

theorem ofExcept_works {α : Type} {v : Except DigitLimit α} : Ensures (ofExcept v) s (Works table R s []) :=
  sameNames_works (Ensures.ofExcept.mono fun _ _ hs => hs.2 ▸ .refl s)

end

/-! ## Evaluating -/

variable {table : Entries Text Text} {R : Text → Prop} {depth : Nat} {s : Session}

/-- Looking up a name of `R` with `look`, where fewer than `depth` names are pending, leaves it done. -/
def WorksOn (table : Entries Text Text) (R : Text → Prop) (depth : Nat)
    (look : Text → Text → SessionStep (Option Int)) : Prop :=
  ∀ (s : Session) (context name : Text), R name → s.ClosedOver R → s.pending.length < depth →
    Ensures (look context name) s (Works table R s [name])

variable {look : Text → Text → SessionStep (Option Int)}

/-- The names among lexemes. -/
def namesOf (ls : List Lexeme) : List Text := (ls.filter fun l => l.kind = .identifier).map fun l => l.text

theorem tokens_works (hlook : WorksOn table R depth look) (context : Text) : ∀ {ls : List Lexeme} {s : Session},
    (∀ n ∈ namesOf ls, R n) → s.ClosedOver R → s.pending.length < depth →
    Ensures (tokens (look context) context ls) s (Works table R s (namesOf ls))
  | [], s, _, _, _ => pure_works []
  | l :: ls, s, hR, hclosed, hdepth => by
    have hcons : namesOf (l :: ls) = namesOf [l] ++ namesOf ls := by
      rw [← List.singleton_append, namesOf, namesOf, namesOf, List.filter_append, List.map_append]
    have hnames : namesOf (l :: ls) = namesOf [l] ++ ([] ++ ([] ++ (namesOf ls ++ []))) := by simp [hcons]
    have hanswer : Ensures (if l.kind = .identifier then look context l.text else pure none : SessionStep (Option Int)) s
        (Works table R s (namesOf [l])) := by
      by_cases hk : l.kind = .identifier
      · have hone : namesOf [l] = [l.text] := by simp [namesOf, hk]
        rw [if_pos hk, hone]
        exact hlook s context l.text (hR l.text (by simp [hcons, hone])) hclosed hdepth
      · have hone : namesOf [l] = [] := by simp [namesOf, hk]
        rw [if_neg hk, hone]
        exact pure_works none
    rw [tokens_cons, hnames]
    refine bind_works hanswer fun a s₁ h₁ => bind_works ofExcept_works fun t s₂ h₂ => ?_
    refine bind_works recordAll_works fun _ s₃ h₃ => bind_works ?_ fun ts s₄ _ => pure_works _
    have hbehind := h₁.trans (h₂.trans h₃)
    exact tokens_works hlook context (fun n hn => hR n (by simp [hcons, hn])) (hclosed.of_touches hbehind)
      (Nat.lt_of_le_of_lt hbehind.length_le hdepth)

/-- **Evaluating an expression leaves the names that it mentions done.** -/
theorem evaluateWith_works (hlook : WorksOn table R depth look) {expression : Text}
    (hR : ∀ n ∈ mentioned expression, R n) (hclosed : s.ClosedOver R) (hdepth : s.pending.length < depth)
    (context : Text) :
    Ensures (evaluateWith look context expression) s (Works table R s (mentioned expression)) := by
  have hvalue (ts : List Token) (s₁ : Session) : Ensures (do
      recordAll context (Postfix.ofTokens ts).problems
      recordAll context (Evaluation.ofTokens (Postfix.ofTokens ts).tokens).problems
      ofExcept (Evaluation.ofTokens (Postfix.ofTokens ts).tokens).value) s₁ (Works table R s₁ ([] ++ ([] ++ []))) :=
    bind_works recordAll_works fun _ _ _ => bind_works recordAll_works fun _ _ _ => ofExcept_works
  have hnames : mentioned expression = [] ++ (mentioned expression ++ ([] ++ ([] ++ []))) := by simp
  rw [hnames]
  refine bind_works (happen_works fun c n a h => by cases h) fun _ s₁ h₁ => ?_
  refine bind_works (tokens_works hlook context hR (hclosed.of_touches h₁)
    (Nat.lt_of_le_of_lt h₁.length_le hdepth)) fun ts s₂ _ => ?_
  simp only
  split
  · exact bind_works (happen_works fun c n a h => by cases h) fun _ s₃ _ => hvalue ts s₃
  · exact hvalue ts s₂

/-! ## Resolving -/

/-- **A pending name that is resolved is done.** -/
theorem resolveWith_works (hlook : WorksOn table R depth look) {name expression : Text}
    (he : s.pending.find? name = some expression) (hname : R name) (hres : name ∉ s.resolving)
    (hclosed : s.ClosedOver R) (hdepth : (s.pending.erase name).length < depth) :
    Ensures (resolveWith look name none) s (Works table R s [name]) := by
  have herase : (s.pending.erase name).find? name = none := by simp [Entries.find?_erase]
  refine .of_get_bind (.of_modify_bind (.of_get_bind ?_))
  simp only [Option.none_or]
  split
  · -- A known name is not evaluated, so what it mentions would stay pending: but a pending name is not known.
    rename_i v hv
    refine .of_pure ⟨.erase hname s, fun a _ hs => ?_⟩
    exact absurd (hv.symm.trans (hs.unknown name expression he)) (by simp)
  · rename_i hnone
    exact absurd (hnone.symm.trans he) (by simp)
  · rename_i expression' hv he'
    obtain rfl : expression = expression' := Option.some.inj (he.symm.trans he')
    have henter : (s.entered name).ClosedOver R :=
      fun n e he => hclosed n e ((Touches.erase hname s).pending n e he)
    have hfilter : s.resolving.filter (· ≠ name) = s.resolving :=
      List.filter_eq_self.2 fun n hn => decide_eq_true fun h => hres (h ▸ hn)
    refine .of_bind (P := fun r s₃ => ∃ s₂, s₃ = { s₂ with resolving := s.resolving } ∧
      Works table R (s.entered name) (mentioned expression) r s₂) (.of_modify_bind (.of_tryFinally ?_)) ?_ ?_
    · refine (evaluateWith_works hlook (hclosed name expression he hname) henter hdepth name).mono fun r s₂ h₂ => ?_
      refine ⟨s₂, ?_, h₂⟩
      rw [h₂.touches.resolving, entered, List.filter_cons_of_neg (by simp), hfilter]
    · rintro v _ ⟨s₂, rfl, h₂⟩
      refine .of_modify_bind (.of_pure ⟨(h₂.touches.of_entered hname).trans (.learn hname v _), fun a _ hs => ?_⟩)
      obtain ⟨hs₂, hmentioned⟩ := h₂.drained v rfl (hs.enter name)
      refine ⟨hs₂.leave h₂.touches.resolving fun e hname' => ?_, ?_⟩
      · obtain rfl : expression = e := Option.some.inj ((hs.pending name expression he).symm.trans hname')
        exact hmentioned
      · rw [List.forall_mem_singleton]
        exact h₂.touches.find?_eq_none herase
    · rintro e _ ⟨s₂, rfl, h₂⟩
      exact ⟨h₂.touches.of_entered hname, fun a ha => by cases ha⟩

theorem lookupWith_works (hlook : WorksOn table R depth look) :
    WorksOn table R (depth + 1) (lookupWith fun name => resolveWith look name none) := by
  intro s context name hname hclosed hdepth
  have hanswer (s₁ : Session) : Ensures (knownAnswer context name) s₁ (Works table R s₁ ([] ++ [])) := by
    refine .of_get_bind ?_
    split
    · exact pure_works _
    · rename_i v hv
      split
      · split
        · change Ensures (pure () >>= fun _ => pure (some v)) s₁ _
          exact bind_works (pure_works ()) fun _ s₂ _ => pure_works (some v)
        · refine sameNames_works (.of_modify_bind (.of_pure ⟨rfl, rfl, rfl, fun _ _ _ => id⟩))
      · exact pure_works _
  refine .of_get_bind ?_
  by_cases hres : s.resolving.contains name
  · have hmem : name ∈ s.resolving := by simpa using hres
    simp only [hres, if_true]
    refine .of_bind_ok .record fun s₁ hs₁ => .of_pure ?_
    have hsame : s.SameNames s₁ := hs₁ ▸ .recordedAll context s [_]
    refine ⟨.of_sameNames hsame, fun a _ hs => ⟨hs.of_sameNames hsame, ?_⟩⟩
    rw [List.forall_mem_singleton, hsame.pending]
    exact hs.resolving name hmem
  · have hmem : name ∉ s.resolving := by simpa using hres
    simp only [hres, Bool.false_eq_true, if_false]
    by_cases hpending : s.pending.contains name
    · simp only [hpending, if_true]
      have hlength := Entries.length_erase_lt hpending
      obtain ⟨e, he⟩ := Option.isSome_iff_exists.1 hpending
      have hnames : [name] = [name] ++ [] := rfl
      rw [hnames]
      exact bind_works (resolveWith_works hlook he hname hmem hclosed (by omega)) fun _ s₁ _ => hanswer s₁
    · simp only [hpending, Bool.false_eq_true, if_false]
      have hnone : s.pending.find? name = none := by simpa [Entries.contains] using hpending
      refine (hanswer s).mono fun r s' h => ⟨h.touches, fun a ha hs => ⟨(h.drained a ha hs).1, ?_⟩⟩
      rw [List.forall_mem_singleton]
      exact h.touches.find?_eq_none hnone

theorem noted_works (hlook : WorksOn table R depth look) : WorksOn table R depth (noted look) := by
  intro s context name hname hclosed hdepth
  have hnames : [name] = [name] ++ ([] ++ []) := rfl
  rw [hnames]
  refine bind_works (hlook s context name hname hclosed hdepth) fun a s₁ _ => ?_
  refine bind_works (Ensures.happen.mono ?_) fun _ _ _ => pure_works _
  rintro r s₂ ⟨-, rfl⟩
  refine ⟨⟨rfl, Nat.le_refl _, fun _ _ => id, fun _ _ => ⟨rfl, rfl⟩, fun c n b hb => ?_⟩, fun _ _ hs =>
    ⟨⟨hs.pending, hs.unknown, hs.resolving, hs.mentioned⟩, by simp⟩⟩
  rcases List.mem_cons.1 hb with heq | hb
  · cases heq
    exact .inl hname
  · exact .inr hb

/-- **Every lookup touches only what its name leads to, and leaves the name done.** -/
theorem lookup_works : ∀ depth : Nat, WorksOn table R depth (lookup depth)
  | 0 => fun _ _ _ _ _ hdepth => absurd hdepth (Nat.not_lt_zero _)
  | depth + 1 => noted_works (lookupWith_works (lookup_works depth))

end SessionStep

end GameSource
