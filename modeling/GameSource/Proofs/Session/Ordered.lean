import GameSource.Proofs.Session.Confined
/-!
# The order in which names are requested

A name that leads to a blank one finds it undefined where the blank one was requested before, and gives it the value 0
where it was not.  Without cycles this is all that the order of the requests can change: any two orders give the same
values if and only if no requested name leads to a requested blank one (`requestedIn_order_iff`).
-/
namespace GameSource

open Relation (ReflTransGen TransGen)
open SessionStep

/-! ## Two orders -/

theorem Session.Drained.start {table : Entries Text Text} {values : Entries Text Int}
    (hunknown : ∀ e ∈ table, (Session.constants.putAll values).find? e.1 = none) (text filename : Text) :
    (Session.start table values text filename).Drained table where
  pending _ _ := id
  unknown n e he := hunknown _ (Entries.mem_of_find? he)
  resolving n hn := by cases hn
  mentioned n e he hn := absurd (hn.symm.trans he) (by simp)

/-- Nothing is pending below a name that is done. -/
theorem Session.Drained.find?_below {table : Entries Text Text} {known : Entries Text Int} {s : Session}
    (h : s.Drained table) (hres : s.resolving = []) {n m : Text} (hn : s.pending.find? n = none)
    (hm : TransGen (Mentions table known) n m) : s.pending.find? m = none := by
  have hstep {a b : Text} (ha : s.pending.find? a = none) (hab : Mentions table known a b) :
      s.pending.find? b = none := by
    obtain ⟨-, e, he, hb⟩ := hab
    rcases h.mentioned a e he ha with hmem | hdone
    · rw [hres] at hmem
      cases hmem
    · exact hdone b hb
  induction hm with
  | single h => exact hstep hn h
  | tail _ h ih => exact hstep ih h

section
variable {table : Entries Text Text} {values : Entries Text Int} {names : List Text}

/-- The values of names that are requested one after the other in a new session. -/
def requestedIn (table : Entries Text Text) (values : Entries Text Int) (text filename : Text) (names : List Text) :
    Except DigitLimit (Entries Text Int) :=
  ((SessionStep.requestAll names).run.run (Session.start table values text filename)).1

/-- The name has a right answer, if no number is in the way of it. -/
theorem exists_requested {known : Entries Text Int} {n : Text} (hacyclic : ∀ n, ¬ TransGen (Mentions table known) n n)
    (hshort : ∀ e ∈ table, HasShortNumbers e.2)
    (hfew : ∀ m v, TransGen (Mentions table known) n m → known.find? m = some v → FewDigits v) :
    ∃ a, Requested table known n a := by
  by_cases hblank : BlankIn table n
  · exact ⟨none, .inl ⟨hblank, rfl⟩⟩
  · by_cases hn : n ∈ table.map Prod.fst
    · obtain ⟨v, hv⟩ := exists_reference hn (fun m _ => hacyclic m) hshort hfew
      exact ⟨some v, .inr ⟨hblank, hv⟩⟩
    · cases hk : known.find? n with
      | some v => exact ⟨some v, .inr ⟨hblank, .known hk⟩⟩
      | none => exact ⟨none, .inr ⟨hblank, hk, Entries.find?_eq_none_of_not_mem hn⟩⟩

/-- **Each requested name is given its right answer**, if none leads to a requested blank one. -/
theorem requestedIn_requested (hnodup : names.Nodup)
    (hunknown : ∀ e ∈ table, (Session.constants.putAll values).find? e.1 = none)
    (hfree : ∀ a ∈ names, ∀ b ∈ names, TransGen (Mentions table (Session.constants.putAll values)) a b →
      ¬ BlankIn table b)
    (hanswers : ∀ n ∈ names, ∃ a, Requested table (Session.constants.putAll values) n a) (text filename : Text) :
    ∃ vs, requestedIn table values text filename names = .ok vs ∧ (∀ n, n ∉ names → vs.find? n = none) ∧
      ∀ n ∈ names, ∀ a, Requested table (Session.constants.putAll values) n a → vs.find? n = a := by
  let R : Text → Prop := fun n => ∃ r ∈ names, ¬ BlankIn table r ∧
    ReflTransGen (Mentions table (Session.constants.putAll values)) r n
  have hR : ∀ n ∈ names, R n ↔ ¬ BlankIn table n := by
    intro n hn
    refine ⟨?_, fun h => ⟨n, hn, h, .refl⟩⟩
    rintro ⟨r, hr, hblank, hreach⟩
    rcases Relation.reflTransGen_iff_eq_or_transGen.1 hreach with rfl | hreach
    · exact hblank
    · exact hfree r hr n hn hreach
  have hclosed : ∀ n m, R n → Mentions table (Session.constants.putAll values) n m → R m := by
    rintro n m ⟨r, hr, hblank, hreach⟩ hmention
    exact ⟨r, hr, hblank, hreach.tail hmention⟩
  have hrun : Ensures (requestAll names) (Session.start table values text filename) _ :=
    requests_confined hnodup hclosed (fun n e he => hunknown _ (Entries.mem_of_find? he))
      (.start R table values text filename) hR hanswers
  obtain ⟨vs, hvs, hother, hvalues⟩ := hrun
  exact ⟨vs, hvs, hother, fun n hn a ha => (hvalues n hn a ha).trans (Option.or_none)⟩

/-- A blank name that is requested first is given no value. -/
theorem requestedIn_blank {b : Text} (hb : BlankIn table b) (hnot : b ∉ names) {text filename : Text}
    {vs : Entries Text Int} (h : requestedIn table values text filename (b :: names) = .ok vs) : vs.find? b = none := by
  obtain ⟨e, he, hblank⟩ := hb
  have hensures : Ensures (requestAll (b :: names)) (Session.start table values text filename) fun r _ =>
      ∀ vs, r = .ok vs → vs.find? b = none := by
    rw [requestAll, List.foldlM_cons]
    refine .of_bind_ok (request_blank he hblank) fun s₁ _ => ?_
    exact requests_other hnot
  exact hensures vs h

/-- A name that is requested next to one that leads to it is given a value, blank or not. -/
theorem requestedIn_below {a b : Text} {v : Int}
    (hunknown : ∀ e ∈ table, (Session.constants.putAll values).find? e.1 = none)
    (hab : TransGen (Mentions table (Session.constants.putAll values)) a b)
    (hv : Reference table (Session.constants.putAll values) b v) (hnot : b ∉ names) {text filename : Text}
    {vs : Entries Text Int} (h : requestedIn table values text filename (a :: b :: names) = .ok vs) :
    vs.find? b = some v := by
  have hensures : Ensures (requestAll (a :: b :: names)) (Session.start table values text filename) fun r _ =>
      ∀ vs, r = .ok vs → vs.find? b = some v := by
    rw [requestAll, List.foldlM_cons]
    obtain ⟨m, hmention, -⟩ := TransGen.head'_iff.1 hab
    have hne := fun h => BlankIn.not_mentions h hmention
    obtain ⟨-, e, he, -⟩ := hmention
    refine .of_bind (request_works (R := fun _ => True) (.start table values text filename) rfl he
      (fun htrim => hne ⟨e, he, htrim⟩) trivial fun _ _ _ _ _ _ => trivial) ?_ fun e s₁ _ vs h => by cases h
    rintro vs₁ s₁ ⟨hcoherent, hworks, -⟩
    obtain ⟨hdrained, hdone⟩ := hworks.drained vs₁ rfl (.start hunknown text filename)
    have hres : s₁.resolving = [] := hworks.touches.resolving
    have hpending : s₁.pending.find? b = none := hdrained.find?_below hres (hdone a (by simp)) hab
    have hknown : s₁.known.find? b = some v :=
      known_of_settles hcoherent (by simp [hres]) (by simp [Entries.contains, hpending]) (a := some v) hv
    rw [List.foldlM_cons]
    refine .of_bind_ok (request_known hpending) fun s₂ _ => ?_
    rw [hknown]
    exact (requests_other hnot).mono fun r _ h vs hr => (h vs hr).trans (Entries.find?_put_self b v vs₁)
  exact hensures vs h

/-- **Any two orders of the same requests give the same values if and only if no requested name leads to a requested
blank one**, in a table without cycles whose names have no values at first and whose numbers can be read. -/
theorem requestedIn_order_iff (hnodup : names.Nodup)
    (hacyclic : ∀ n, ¬ TransGen (Mentions table (Session.constants.putAll values)) n n)
    (hshort : ∀ e ∈ table, HasShortNumbers e.2)
    (hunknown : ∀ e ∈ table, (Session.constants.putAll values).find? e.1 = none)
    (hfew : ∀ n ∈ names, ∀ m v, TransGen (Mentions table (Session.constants.putAll values)) n m →
      (Session.constants.putAll values).find? m = some v → FewDigits v) (text filename : Text) :
    (∀ first second, first.Perm names → second.Perm names →
      ∃ vs ws, requestedIn table values text filename first = .ok vs ∧
        requestedIn table values text filename second = .ok ws ∧ ∀ n, vs.find? n = ws.find? n) ↔
      ∀ a ∈ names, ∀ b ∈ names, TransGen (Mentions table (Session.constants.putAll values)) a b →
        ¬ BlankIn table b := by
  have hanswers : ∀ n ∈ names, ∃ a, Requested table (Session.constants.putAll values) n a :=
    fun n hn => exists_requested hacyclic hshort (hfew n hn)
  constructor
  · intro hsame a ha b hb hab hblank
    have hne : b ≠ a := by
      rintro rfl
      exact hacyclic b hab
    have hperm : names.Perm (a :: b :: (names.erase a).erase b) :=
      (List.perm_cons_erase ha).trans (.cons a (List.perm_cons_erase ((List.mem_erase_of_ne hne).2 hb)))
    have hnot : b ∉ a :: (names.erase a).erase b := by
      have h := hperm.nodup_iff.1 hnodup
      rw [List.nodup_cons, List.nodup_cons] at h
      simp [hne, h.2.1]
    -- Requested behind `a` the blank name has a value, requested before it has none.
    obtain ⟨vs, ws, hvs, hws, hequal⟩ := hsame _ _ hperm.symm ((List.Perm.swap a b _).trans hperm.symm)
    obtain ⟨e, he, -⟩ := id hblank
    have hmem : b ∈ table.map Prod.fst := List.mem_map.2 ⟨_, Entries.mem_of_find? he, rfl⟩
    obtain ⟨v, hv⟩ := exists_reference hmem (fun m _ => hacyclic m) hshort fun m w hm => hfew a ha m w (hab.trans hm)
    have hfirst := requestedIn_below hunknown hab hv (fun h => hnot (List.mem_cons_of_mem a h)) hvs
    have hsecond := requestedIn_blank hblank hnot hws
    rw [hequal b, hsecond] at hfirst
    cases hfirst
  · intro hfree first second hfirst hsecond
    have hrun {order : List Text} (horder : order.Perm names) := requestedIn_requested (horder.nodup_iff.2 hnodup)
      hunknown (fun a ha b hb => hfree a (horder.subset ha) b (horder.subset hb))
      (fun n hn => hanswers n (horder.subset hn)) text filename
    obtain ⟨vs, hvs, hother, hvalues⟩ := hrun hfirst
    obtain ⟨ws, hws, hother', hvalues'⟩ := hrun hsecond
    refine ⟨vs, ws, hvs, hws, fun n => ?_⟩
    by_cases hn : n ∈ names
    · obtain ⟨a, ha⟩ := hanswers n hn
      rw [hvalues n (hfirst.mem_iff.2 hn) a ha, hvalues' n (hsecond.mem_iff.2 hn) a ha]
    · rw [hother n fun h => hn (hfirst.subset h), hother' n fun h => hn (hsecond.subset h)]

end

/-! ## A blank name between others -/

/-- A table in which `C` leads to `A` and that to the blank `B`. -/
def blankBelow : Entries Text Text := [("A".toList, "2*B".toList), ("B".toList, []), ("C".toList, "A+1".toList)]

theorem blankBelow_mentions {known : Entries Text Int} {n m : Text} (h : Mentions blankBelow known n m) :
    (n = "A".toList ∧ m = "B".toList) ∨ (n = "C".toList ∧ m = "A".toList) := by
  obtain ⟨-, e, he, hm⟩ := h
  have hall : ∀ p ∈ blankBelow, ∀ m ∈ mentioned p.2,
      (p.1 = "A".toList ∧ m = "B".toList) ∨ (p.1 = "C".toList ∧ m = "A".toList) := by decide
  exact hall _ (Entries.mem_of_find? he) m hm

theorem blankBelow_acyclic {known : Entries Text Int} (n : Text) : ¬ TransGen (Mentions blankBelow known) n n := by
  let rank : Text → Nat := fun n => if n = "C".toList then 0 else if n = "A".toList then 1 else 2
  have hrank {n m : Text} (h : TransGen (Mentions blankBelow known) n m) : rank n < rank m := by
    induction h with
    | single h =>
      rcases blankBelow_mentions h with ⟨rfl, rfl⟩ | ⟨rfl, rfl⟩ <;> decide
    | tail _ h ih =>
      refine ih.trans ?_
      rcases blankBelow_mentions h with ⟨rfl, rfl⟩ | ⟨rfl, rfl⟩ <;> decide
  exact fun h => Nat.lt_irrefl _ (hrank h)

theorem blankBelow_shortNumbers : ∀ e ∈ blankBelow, HasShortNumbers e.2 := by
  intro e he l hl hkind n hn _
  have hnumbers : ∀ e ∈ blankBelow, ∀ l ∈ (lexemes e.2).1, l.kind = .number →
      ((Numeral.ofText? l.text).map fun n => n.digits.length).all (· < 2) := by decide
  have hlength := hnumbers e he l hl hkind
  rw [hn, Option.map_some, Option.all_some, decide_eq_true_iff] at hlength
  exact Nat.le_trans (Nat.le_of_lt hlength) (by decide)

theorem blankBelow_unknown : ∀ e ∈ blankBelow, (Session.constants.putAll []).find? e.1 = none := by decide

/-- `A` and `C`, without the blank name to which they lead. -/
theorem requestedIn_order_besideBlank :
    ∃ vs ws, requestedIn blankBelow [] [] [] ["A".toList, "C".toList] = .ok vs ∧
      requestedIn blankBelow [] [] [] ["C".toList, "A".toList] = .ok ws ∧ ∀ n, vs.find? n = ws.find? n := by
  have hsmall : ∀ e ∈ Session.constants.putAll [], e.2.natAbs < 10 ^ 10 := by decide
  have hnodup : ["A".toList, "C".toList].Nodup := by decide
  refine (requestedIn_order_iff hnodup blankBelow_acyclic blankBelow_shortNumbers blankBelow_unknown
    (fun n _ m v _ h => fewDigits_of_lt (by decide) (by decide) (hsmall _ (Entries.mem_of_find? h))) [] []).2 ?_
    _ _ (.refl _) (.swap _ _ _)
  rintro a - b hb - ⟨e, he, hblank⟩
  have hexpressions : ∀ b ∈ ["A".toList, "C".toList], (blankBelow.find? b).all fun e => Text.trim e ≠ [] := by decide
  have hne := hexpressions b hb
  rw [he] at hne
  simp [hblank] at hne

/-- `A` and the blank `B` to which it leads. -/
theorem requestedIn_order_withBlank :
    (∀ n, ¬ TransGen (Mentions blankBelow (Session.constants.putAll [])) n n) ∧
    (∀ e ∈ blankBelow, HasShortNumbers e.2) ∧
    (∀ e ∈ blankBelow, (Session.constants.putAll []).find? e.1 = none) ∧
    requestedIn blankBelow [] [] [] ["A".toList, "B".toList] = .ok [("A".toList, 0), ("B".toList, 0)] ∧
    requestedIn blankBelow [] [] [] ["B".toList, "A".toList] = .ok [("A".toList, 2)] :=
  ⟨blankBelow_acyclic, blankBelow_shortNumbers, blankBelow_unknown, by decide +kernel⟩

end GameSource
