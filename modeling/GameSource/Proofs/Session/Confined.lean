import GameSource.Proofs.Session.Drained
/-!
# Requests for names

A session that is asked for a name with a blank expression gives it no value, and no longer has it pending: from then on
the session is as if the name had no expression (`Session.Confined.forget`).  That changes nothing for the names that do
not lead to it, so requested names of which none leads to a blank one are given their right answers, in whatever order
they are requested (`requests_confined`).
-/
namespace GameSource

open Relation (ReflTransGen TransGen)
open SessionStep

/-! ## Tables that agree -/

section
variable {table table' : Entries Text Text} {known : Entries Text Int} {R : Text → Prop}

/-- **The value of a name depends only on the names that it leads to.** -/
theorem Reference.congr (hclosed : ∀ n m, R n → Mentions table known n m → R m)
    (hsame : ∀ n, R n → table'.find? n = table.find? n) {n : Text} {v : Int} (h : Reference table known n v)
    (hn : R n) : Reference table' known n v := by
  induction h with
  | known h => exact .known h
  | @defined n e v answers hnone he _ hundefined hv ih =>
    have hmentioned : ∀ m ∈ mentioned e, R m := fun m hm => hclosed n m hn ⟨hnone, e, he, hm⟩
    refine .defined answers hnone ((hsame n hn).trans he) (fun m hm w hw => ih m hm w hw (hmentioned m hm)) ?_ hv
    exact fun m hm ha => ⟨(hundefined m hm ha).1, (hsame m (hmentioned m hm)).trans (hundefined m hm ha).2⟩

theorem Settles.congr (hclosed : ∀ n m, R n → Mentions table known n m → R m)
    (hsame : ∀ n, R n → table'.find? n = table.find? n) {n : Text} (hn : R n) : ∀ {a : Option Int},
    Settles table known n a → Settles table' known n a
  | some _, h => Reference.congr hclosed hsame h hn
  | none, h => ⟨h.1, (hsame n hn).trans h.2⟩

/-- The name has an expression, and nothing is in it. -/
def BlankIn (table : Entries Text Text) (n : Text) : Prop :=
  ∃ expression, table.find? n = some expression ∧ Text.trim expression = []

theorem BlankIn.not_mentions {n m : Text} (h : BlankIn table n) : ¬ Mentions table known n m := by
  rintro ⟨-, e, he, hm⟩
  obtain ⟨e', he', hblank⟩ := h
  obtain rfl : e' = e := Option.some.inj (he'.symm.trans he)
  rw [mentioned, lexemes, hblank] at hm
  cases hm

/-- Taking out another name leaves a name blank or not. -/
theorem blankIn_erase {b n : Text} (hne : n ≠ b) : BlankIn (table.erase b) n ↔ BlankIn table n := by
  unfold BlankIn
  rw [Entries.find?_erase, if_neg hne]

theorem Mentions.of_erase {b n m : Text} (h : Mentions (table.erase b) known n m) : Mentions table known n m := by
  obtain ⟨hn, e, he, hm⟩ := h
  rw [Entries.find?_erase] at he
  split at he
  · cases he
  · exact ⟨hn, e, he, hm⟩

theorem find?_erase_outside {b n : Text} (hb : ¬ R b) (hn : R n) : (table.erase b).find? n = table.find? n := by
  have hne : n ≠ b := fun h => hb (h ▸ hn)
  rw [Entries.find?_erase, if_neg hne]

/-- **Taking out a name outside changes no right answer.** -/
theorem settles_erase {b n : Text} {a : Option Int} (hclosed : ∀ n m, R n → Mentions table known n m → R m) (hb : ¬ R b)
    (hn : R n) : Settles (table.erase b) known n a ↔ Settles table known n a where
  mp h := h.congr (fun n m hn hm => hclosed n m hn hm.of_erase) (fun _ hm => (find?_erase_outside hb hm).symm) hn
  mpr h := h.congr hclosed (fun _ hm => find?_erase_outside hb hm) hn

end

/-! ## Requests -/

namespace SessionStep

variable {s : Session} {name : Text} {values : Entries Text Int}

/-- What resolving a name comes to when it has been taken out of the pending ones and `found` is its expression. -/
def resolveFound (look : Text → Text → SessionStep (Option Int)) (name : Text) (found : Option Text) :
    SessionStep Int := do
  match (← get).known.find? name, found with
  | some v, _ => return v
  | none, none =>
    record name (.noDefinition name)
    return 0
  | none, some expression =>
    let v ← resolving name (evaluateWith look name expression)
    modify fun s => { s with known := s.known.put name v }
    return v

theorem resolveWith_found (look : Text → Text → SessionStep (Option Int)) (name : Text) (expression : Option Text)
    (s : Session) : (resolveWith look name expression).run.run s =
      (resolveFound look name (expression.or (s.pending.find? name))).run.run
        { s with pending := s.pending.erase name } := rfl

/-- A name is resolved from its pending expression as from one that is given. -/
theorem resolveWith_given (look : Text → Text → SessionStep (Option Int)) {expression : Text}
    (he : s.pending.find? name = some expression) :
    (resolveWith look name (some expression)).run.run { s with pending := s.pending.erase name } =
      (resolveWith look name none).run.run s := by
  rw [resolveWith_found, resolveWith_found, he, Entries.erase_erase]
  rfl

/-- Telling the problems of a name changes nothing but the journal. -/
theorem tellProblems_sameNames : Ensures (tellProblems name) s fun r s' => r = .ok () ∧ s.SameNames s' := by
  refine .of_get_bind ?_
  split
  · exact .of_pure ⟨rfl, .refl s⟩
  · exact .of_pure ⟨rfl, .refl s⟩
  · refine Ensures.happen.mono ?_
    rintro r s' ⟨hr, rfl⟩
    exact ⟨hr, .happen s fun c n a h => by cases h⟩

/-- **A pending name that is not blank is resolved**, and given the value that resolving it gives. -/
theorem request_pending {expression : Text} (he : s.pending.find? name = some expression)
    (hne : Text.trim expression ≠ []) {P : Except DigitLimit Int → Session → Prop}
    (h : Ensures (resolveWith (lookup ((s.pending.erase name).length + 1)) name none) s P) :
    Ensures (request name values) s fun r s' =>
      ∃ r₀ s₀, P r₀ s₀ ∧ r = r₀.map (values.put name) ∧ s₀.SameNames s' := by
  have hresolve : Ensures (resolve name expression) { s with pending := s.pending.erase name } P := by
    refine .of_get_bind ?_
    unfold Ensures at h ⊢
    rwa [← resolveWith_given _ he] at h
  have hblank : (Text.trim expression).isEmpty = false := by simpa using hne
  refine .of_get_bind (.of_modify_bind ?_)
  simp only [he, hblank, Bool.false_eq_true, if_false]
  refine .of_bind hresolve (fun v s₀ h₀ => ?_) fun e s₀ h₀ => ⟨_, s₀, h₀, rfl, .refl s₀⟩
  exact .of_bind_ok tellProblems_sameNames fun s' hs' => .of_pure ⟨_, s₀, h₀, rfl, hs'⟩

/-- A pending name that is blank is given no value, and is no longer pending. -/
theorem request_blank {expression : Text} (he : s.pending.find? name = some expression)
    (hblank : Text.trim expression = []) : Ensures (request name values) s fun r s' =>
      r = .ok values ∧ s' = { s with pending := s.pending.erase name } := by
  refine .of_get_bind (.of_modify_bind ?_)
  simp only [he, hblank, List.isEmpty_nil, if_true]
  exact .of_pure ⟨rfl, rfl⟩

/-- A name that is not pending is given the value that is known of it, if there is one. -/
theorem request_known (hpending : s.pending.find? name = none) : Ensures (request name values) s fun r s' =>
    r = .ok ((s.known.find? name).elim values (values.put name)) ∧ s.SameNames s' := by
  refine .of_get_bind (.of_modify_bind ?_)
  rw [Entries.erase_of_find? hpending]
  simp only [hpending]
  cases hv : s.known.find? name with
  | none =>
    simp only [Entries.contains, hv, Option.isSome_none, Bool.false_eq_true, if_false]
    refine .of_bind_ok .happen fun s' hs' => .of_pure ⟨rfl, ?_⟩
    exact hs' ▸ .happen s fun c n a h => by cases h
  | some v =>
    have hresolve : Ensures (resolve name) s fun r s' => r = .ok v ∧ s' = s := by
      refine .of_get_bind (.of_get_bind (.of_modify_bind ?_))
      rw [Entries.erase_of_find? hpending]
      refine .of_get_bind ?_
      simp only [hv]
      exact .of_pure ⟨rfl, rfl⟩
    simp only [Entries.contains, hv, Option.isSome_some, if_true]
    refine .of_bind_ok hresolve fun s₁ hs₁ => ?_
    rw [hs₁]
    exact .of_bind_ok tellProblems_sameNames fun s' hs' => .of_pure ⟨rfl, hs'⟩

/-- A request changes no other value. -/
theorem request_other {n : Text} (hn : n ≠ name) : Ensures (request name values) s fun r _ =>
    ∀ vs, r = .ok vs → vs.find? n = values.find? n := by
  have hput (v : Int) : ∀ vs, (.ok (values.put name v) : Except DigitLimit _) = .ok vs →
      vs.find? n = values.find? n := by
    rintro vs ⟨⟩
    exact Entries.find?_put_of_ne hn v values
  cases he : s.pending.find? name with
  | none =>
    refine (request_known he).mono ?_
    rintro r s' ⟨rfl, -⟩
    cases hv : s.known.find? name with
    | none =>
      rintro vs ⟨⟩
      rfl
    | some v => exact hput v
  | some expression =>
    by_cases hblank : Text.trim expression = []
    · refine (request_blank he hblank).mono ?_
      rintro r s' ⟨rfl, -⟩ vs ⟨⟩
      rfl
    · refine (request_pending he hblank (P := fun _ _ => True) trivial).mono ?_
      rintro r s' ⟨r₀, s₀, -, rfl, -⟩
      cases r₀ with
      | ok v => exact hput v
      | error e =>
        rintro vs ⟨⟩

/-- **A requested name that has a value is given it**, and the session stays coherent. -/
theorem request_reference {table : Entries Text Text} {known : Entries Text Int} (hs : s.Coherent table known)
    (hres : s.resolving = []) (hblank : ∀ e, table.find? name = some e → Text.trim e ≠ []) {v : Int}
    (hv : Reference table known name v) : Ensures (request name values) s fun r s' =>
      r = .ok (values.put name v) ∧ s'.Coherent table known ∧ s'.resolving = [] := by
  cases he : s.pending.find? name with
  | some expression =>
    have hne : Text.trim expression ≠ [] := hblank expression (hs.pending name expression he)
    have hnot : name ∉ s.resolving := by simp [hres]
    have hlength : (s.pending.erase name).length < (s.pending.erase name).length + 1 := Nat.lt_succ_self _
    have hresolve := resolveWith_coherent (lookup_coherent _) hs hnot hlength (by simp [hres])
    refine (request_pending he hne hresolve).mono ?_
    rintro r s' ⟨r₀, s₀, ⟨hstable, hvalue⟩, rfl, hsame⟩
    refine ⟨by rw [(hvalue v hv).1]; rfl, hstable.coherent.of_sameNames hsame, ?_⟩
    rw [hsame.resolving, hstable.resolving, hres]
  | none =>
    have hknown : s.known.find? name = some v :=
      known_of_settles hs (by simp [hres]) (by simp [Entries.contains, he]) (a := some v) hv
    refine (request_known he).mono ?_
    rintro r s' ⟨rfl, hsame⟩
    exact ⟨by rw [hknown]; rfl, hs.of_sameNames hsame, hsame.resolving.trans hres⟩

/-- **Requested names that have values are given them**, in any order. -/
theorem requests_reference {table : Entries Text Text} {known : Entries Text Int} : ∀ {names : List Text} {s : Session}
    {values : Entries Text Int}, s.Coherent table known → s.resolving = [] →
    (∀ n ∈ names, ∀ e, table.find? n = some e → Text.trim e ≠ []) → (∀ n ∈ names, ∃ v, Reference table known n v) →
    Ensures (names.foldlM (fun values name => request name values) values) s fun r _ =>
      ∃ vs, r = .ok vs ∧ (∀ n, n ∉ names → vs.find? n = values.find? n) ∧
        ∀ n ∈ names, ∀ v, Reference table known n v → vs.find? n = some v
  | [], s, values, _, _, _, _ => .of_pure ⟨values, rfl, fun _ _ => rfl, fun _ hn => by cases hn⟩
  | name :: names, s, values, hs, hres, hblank, hvalues => by
    obtain ⟨v, hv⟩ := hvalues name List.mem_cons_self
    rw [List.foldlM_cons]
    refine .of_bind_ok (request_reference hs hres (hblank name List.mem_cons_self) hv) ?_
    rintro s₁ ⟨hs₁, hres₁⟩
    refine (requests_reference hs₁ hres₁ (fun n hn => hblank n (List.mem_cons_of_mem name hn))
      fun n hn => hvalues n (List.mem_cons_of_mem name hn)).mono ?_
    rintro r s' ⟨vs, rfl, hother, hgiven⟩
    refine ⟨vs, rfl, fun n hn => ?_, fun n hn w hw => ?_⟩
    · rw [List.mem_cons, not_or] at hn
      rw [hother n hn.2, Entries.find?_put_of_ne hn.1]
    · by_cases hmem : n ∈ names
      · exact hgiven n hmem w hw
      · obtain rfl := (List.mem_cons.1 hn).resolve_right hmem
        rw [hother n hmem, Entries.find?_put_self, Reference.unique hv hw]

/-- Requests change no other values. -/
theorem requests_other {n : Text} : ∀ {names : List Text} {s : Session} {values : Entries Text Int}, n ∉ names →
    Ensures (names.foldlM (fun values name => request name values) values) s fun r _ =>
      ∀ vs, r = .ok vs → vs.find? n = values.find? n
  | [], s, values, _ => .of_pure (by rintro vs ⟨⟩; rfl)
  | name :: names, s, values, hn => by
    rw [List.mem_cons, not_or] at hn
    rw [List.foldlM_cons]
    refine .of_bind (request_other hn.1) (fun vs₁ s₁ h₁ => ?_) fun e s₁ _ vs h => by cases h
    exact (requests_other hn.2).mono fun r _ h vs hr => (h vs hr).trans (h₁ vs₁ rfl)

end SessionStep

/-! ## Sessions confined to what is requested -/

namespace Session

/-- The session is coherent, and outside the names of `R` it is as it began. -/
structure Confined (table : Entries Text Text) (known : Entries Text Int) (R : Text → Prop) (s : Session) : Prop where
  coherent : s.Coherent table known
  resolving : s.resolving = []
  outside_pending : ∀ n, ¬ R n → s.pending.find? n = table.find? n
  outside_known : ∀ n, ¬ R n → s.known.find? n = known.find? n
  answered : ∀ context n a, .answered context n a ∈ s.journal → R n

namespace Confined

variable {table : Entries Text Text} {known : Entries Text Int} {R : Text → Prop} {s s' : Session}

theorem start (R : Text → Prop) (table : Entries Text Text) (values : Entries Text Int) (text filename : Text) :
    (Session.start table values text filename).Confined table (constants.putAll values) R where
  coherent := .start table values text filename
  resolving := rfl
  outside_pending _ _ := rfl
  outside_known _ _ := rfl
  answered _ _ _ h := by cases h

theorem of_touches (h : s.Confined table known R) (hcoherent : s'.Coherent table known) (ht : Touches R s s') :
    s'.Confined table known R where
  coherent := hcoherent
  resolving := ht.resolving.trans h.resolving
  outside_pending n hn := (ht.outside n hn).1.trans (h.outside_pending n hn)
  outside_known n hn := (ht.outside n hn).2.trans (h.outside_known n hn)
  answered c n a ha := (ht.answered c n a ha).elim id (h.answered c n a)

theorem of_sameNames (h : s.Confined table known R) (hs : s.SameNames s') : s'.Confined table known R :=
  h.of_touches (h.coherent.of_sameNames hs) (.of_sameNames hs)

theorem closedOver (h : s.Confined table known R) (hclosed : ∀ n m, R n → Mentions table known n m → R m)
    (hunknown : ∀ n e, table.find? n = some e → known.find? n = none) : s.ClosedOver R := by
  intro n e he hn m hm
  have htable := h.coherent.pending n e he
  exact hclosed n m hn ⟨hunknown n e htable, e, htable, hm⟩

/-- Forgetting a pending name outside keeps the session coherent, as if the name had no expression. -/
theorem forget_coherent {b : Text} (h : s.Confined table known R)
    (hclosed : ∀ n m, R n → Mentions table known n m → R m) (hb : ¬ R b) :
    ({ s with pending := s.pending.erase b } : Session).Coherent (table.erase b) known where
  keeps := h.coherent.keeps
  knows n v a hv ha := by
    -- Inside, the two tables give the same values; outside, only what was known at first is known.
    by_cases hn : R n
    · exact h.coherent.knows n v a hv ((settles_erase hclosed hb hn).1 ha)
    · rw [h.outside_known n hn] at hv
      exact Settles.unique ha (b := some v) (.known hv)
  pending n e he := by
    rw [Entries.find?_erase] at he ⊢
    split at he
    · cases he
    · rename_i hne
      rw [if_neg hne]
      exact h.coherent.pending n e he
  drained n v hv := by
    cases hk : known.find? n with
    | some w => exact .inl (by rw [h.coherent.keeps n w hk]; rfl)
    | none =>
      obtain ⟨e, he⟩ : ∃ e, (table.erase b).find? n = some e := by
        cases hv with
        | known h => exact absurd (hk.symm.trans h) (by simp)
        | defined _ _ he => exact ⟨_, he⟩
      have hne : n ≠ b := by
        rintro rfl
        simp [Entries.find?_erase] at he
      simp only [Entries.contains, Entries.find?_erase, if_neg hne]
      by_cases hn : R n
      · exact h.coherent.drained n v ((settles_erase (a := some v) hclosed hb hn).1 hv)
      · rw [Entries.find?_erase, if_neg hne] at he
        exact .inr (.inl (by rw [h.outside_pending n hn, he]; rfl))
  chain := by simp [h.resolving]
  answered c n a a' ha ha' :=
    h.coherent.answered c n a a' ha ((settles_erase hclosed hb (h.answered c n a ha)).1 ha')

/-- **A pending name outside may be forgotten**: the session is then confined as if the name had no expression. -/
theorem forget {b : Text} (h : s.Confined table known R) (hclosed : ∀ n m, R n → Mentions table known n m → R m)
    (hb : ¬ R b) : ({ s with pending := s.pending.erase b } : Session).Confined (table.erase b) known R where
  coherent := h.forget_coherent hclosed hb
  resolving := h.resolving
  outside_pending n hn := by
    rw [Entries.find?_erase, Entries.find?_erase, h.outside_pending n hn]
  outside_known := h.outside_known
  answered := h.answered

end Confined

end Session

namespace SessionStep

variable {table : Entries Text Text} {known : Entries Text Int} {R : Text → Prop} {s : Session} {name : Text}
  {values : Entries Text Int}

/-- **A pending name that is requested has its value**, is done, and only what it leads to was touched. -/
theorem request_works {expression : Text} (hs : s.Coherent table known) (hres : s.resolving = [])
    (he : s.pending.find? name = some expression) (hne : Text.trim expression ≠ []) (hname : R name)
    (hclosed : s.ClosedOver R) : Ensures (request name values) s fun r s' =>
      s'.Coherent table known ∧ Session.Works table R s [name] r s' ∧
        ∀ a, Settles table known name a → r = .ok (a.elim values (values.put name)) := by
  have hlength : (s.pending.erase name).length < (s.pending.erase name).length + 1 := Nat.lt_succ_self _
  have hnot : name ∉ s.resolving := by simp [hres]
  have hcoherent := resolveWith_coherent (lookup_coherent _) hs hnot hlength (by simp [hres])
  have hworks := resolveWith_works (@lookup_works table R _) he hname hnot hclosed hlength
  refine (request_pending he hne (hcoherent.and hworks)).mono ?_
  rintro r s' ⟨r₀, s₀, ⟨⟨hstable, hvalue⟩, hdone⟩, rfl, hsame⟩
  refine ⟨hstable.coherent.of_sameNames hsame, ⟨hdone.touches.trans (.of_sameNames hsame), fun vs hvs hd => ?_⟩,
    fun a ha => ?_⟩
  · cases r₀ with
    | error e => cases hvs
    | ok v =>
      obtain ⟨hd₀, hnone⟩ := hdone.drained v rfl hd
      exact ⟨hd₀.of_sameNames hsame, hsame.pending ▸ hnone⟩
  · cases a with
    | none => exact absurd ((hs.pending name expression he).symm.trans ha.2) (by simp)
    | some v =>
      rw [(hvalue v ha).1]
      rfl

/-- The right answer to a request: none for a blank name, else the value of the name. -/
def Requested (table : Entries Text Text) (known : Entries Text Int) (n : Text) (a : Option Int) : Prop :=
  (BlankIn table n ∧ a = none) ∨ (¬ BlankIn table n ∧ Settles table known n a)

/-- Taking out a name outside changes no right answer. -/
theorem Requested.erase {b n : Text} {a : Option Int} (hclosed : ∀ n m, R n → Mentions table known n m → R m)
    (hb : ¬ R b) (hn : R n ↔ ¬ BlankIn table n) (hne : n ≠ b) (h : Requested table known n a) :
    Requested (table.erase b) known n a := by
  rcases h with ⟨hblank, ha⟩ | ⟨hblank, ha⟩
  · exact .inl ⟨(blankIn_erase hne).2 hblank, ha⟩
  · exact .inr ⟨fun hb => hblank ((blankIn_erase hne).1 hb), (settles_erase hclosed hb (hn.2 hblank)).2 ha⟩

theorem request_confined (hclosed : ∀ n m, R n → Mentions table known n m → R m)
    (hunknown : ∀ n e, table.find? n = some e → known.find? n = none) (hs : s.Confined table known R)
    (hname : R name) (hblank : ¬ BlankIn table name) {a : Option Int} (ha : Settles table known name a) :
    Ensures (request name values) s fun r s' =>
      r = .ok (a.elim values (values.put name)) ∧ s'.Confined table known R := by
  cases he : s.pending.find? name with
  | some expression =>
    have hne : Text.trim expression ≠ [] := fun h => hblank ⟨expression, hs.coherent.pending name expression he, h⟩
    refine (request_works hs.coherent hs.resolving he hne hname (hs.closedOver hclosed hunknown)).mono ?_
    exact fun r s' h => ⟨h.2.2 a ha, hs.of_touches h.1 h.2.1.touches⟩
  | none =>
    have hknown : s.known.find? name = a :=
      known_of_settles hs.coherent (by simp [hs.resolving]) (by simp [Entries.contains, he]) ha
    refine (request_known he).mono ?_
    rintro r s' ⟨rfl, hsame⟩
    exact ⟨by rw [hknown], hs.of_sameNames hsame⟩

/-- **Requested names are given their right answers in any order**, if none leads to a blank one. -/
theorem requests_confined : ∀ {names : List Text} {table : Entries Text Text} {s : Session}
    {values : Entries Text Int}, names.Nodup → (∀ n m, R n → Mentions table known n m → R m) →
    (∀ n e, table.find? n = some e → known.find? n = none) → s.Confined table known R →
    (∀ n ∈ names, R n ↔ ¬ BlankIn table n) → (∀ n ∈ names, ∃ a, Requested table known n a) →
    Ensures (names.foldlM (fun values name => request name values) values) s fun r _ =>
      ∃ vs, r = .ok vs ∧ (∀ n, n ∉ names → vs.find? n = values.find? n) ∧
        ∀ n ∈ names, ∀ a, Requested table known n a → vs.find? n = a.or (values.find? n)
  | [], _, _, values, _, _, _, _, _, _ => .of_pure ⟨values, rfl, fun _ _ => rfl, fun _ hn => by cases hn⟩
  | name :: names, table, s, values, hnodup, hclosed, hunknown, hs, hR, hanswers => by
    obtain ⟨hnot, hnodup⟩ := List.nodup_cons.1 hnodup
    rw [List.foldlM_cons]
    have hne {n : Text} (hn : n ∈ names) : n ≠ name := fun h => hnot (h ▸ hn)
    by_cases hblank : BlankIn table name
    · -- The others are requested as of the table without this name, which is another table for the induction.
      obtain ⟨e, he, htrim⟩ := hblank
      have hout : ¬ R name := fun h => (hR name List.mem_cons_self).1 h ⟨e, he, htrim⟩
      have hpending := (hs.outside_pending name hout).trans he
      refine .of_bind_ok (request_blank hpending htrim) fun s₁ hs₁ => ?_
      have hrequested {n : Text} (hn : n ∈ names) {a : Option Int} (h : Requested table known n a) :
          Requested (table.erase name) known n a :=
        h.erase hclosed hout (hR n (List.mem_cons_of_mem _ hn)) (hne hn)
      refine (requests_confined hnodup (fun n m hn hm => hclosed n m hn hm.of_erase) (fun n e hn => ?_)
        (hs₁ ▸ hs.forget hclosed hout) (fun n hn => ?_) fun n hn => ?_).mono ?_
      · rw [Entries.find?_erase] at hn
        split at hn
        · cases hn
        · exact hunknown n e hn
      · rw [blankIn_erase (hne hn)]
        exact hR n (List.mem_cons_of_mem _ hn)
      · exact (hanswers n (List.mem_cons_of_mem _ hn)).imp fun a => hrequested hn
      · rintro r s' ⟨vs, rfl, hother, hvalues⟩
        refine ⟨vs, rfl, fun n hn => hother n fun h => hn (List.mem_cons_of_mem _ h), fun n hn a ha => ?_⟩
        rcases List.mem_cons.1 hn with rfl | hn
        · rcases ha with ⟨-, rfl⟩ | ⟨hb, -⟩
          · exact hother n hnot
          · exact absurd ⟨e, he, htrim⟩ hb
        · exact hvalues n hn a (hrequested hn ha)
    · have hin : R name := (hR name List.mem_cons_self).2 hblank
      obtain ⟨a, ha⟩ := hanswers name List.mem_cons_self
      have ha : Settles table known name a := ha.elim (fun h => absurd h.1 hblank) And.right
      refine .of_bind_ok (request_confined hclosed hunknown hs hin hblank ha) fun s₁ hs₁ => ?_
      refine (requests_confined hnodup hclosed hunknown hs₁ (fun n hn => hR n (List.mem_cons_of_mem _ hn))
        fun n hn => hanswers n (List.mem_cons_of_mem _ hn)).mono ?_
      have hput {n : Text} (hn : n ≠ name) : (a.elim values (values.put name)).find? n = values.find? n := by
        cases a with
        | none => rfl
        | some v => exact Entries.find?_put_of_ne hn v values
      rintro r s' ⟨vs, rfl, hother, hvalues⟩
      refine ⟨vs, rfl, fun n hn => ?_, fun n hn b hb => ?_⟩
      · rw [List.mem_cons, not_or] at hn
        rw [hother n hn.2, hput hn.1]
      · rcases List.mem_cons.1 hn with rfl | hn
        · have hb : Settles table known n b := hb.elim (fun h => absurd h.1 hblank) And.right
          rw [hother n hnot, Settles.unique hb ha]
          cases a with
          | none => rfl
          | some v => exact Entries.find?_put_self n v values
        · rw [hvalues n hn b hb, hput (hne hn)]

end SessionStep

end GameSource
