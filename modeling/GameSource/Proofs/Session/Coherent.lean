import GameSource.Proofs.Define.Reference
import GameSource.Proofs.Session.Stopped
/-!
# A session gives names their values

The values that a session keeps, the names that it still has pending and those under evaluation are at all times such
that a name with a value is answered by it (`Coherent`): it is known, or pending, or under evaluation, and then it is
not looked up, since that would close a cycle.  Names on cycles are answered by whatever is known of them, and that
never gets into the value of a name from which no cycle can be reached (`serve_reference`).
-/
namespace GameSource

open Relation (ReflTransGen TransGen)
open SessionStep

variable {table : Entries Text Text} {known : Entries Text Int}

theorem Settles.not_cyclic {n : Text} : ∀ {a : Option Int}, Settles table known n a →
    ¬ TransGen (Mentions table known) n n
  | some _, h => Reference.not_cyclic h
  | none, h => fun hcycle => by
    obtain ⟨m, hm, -⟩ := TransGen.head'_iff.1 hcycle
    exact not_mentions_of_undefined h hm

namespace Session

/-! ## The invariant -/

/-- Names, their values and the answers to them are the same. -/
structure SameNames (s s' : Session) : Prop where
  known : s'.known = s.known
  pending : s'.pending = s.pending
  resolving : s'.resolving = s.resolving
  answered : ∀ context n a, .answered context n a ∈ s'.journal → .answered context n a ∈ s.journal

theorem SameNames.refl (s : Session) : s.SameNames s := ⟨rfl, rfl, rfl, fun _ _ _ => id⟩

theorem SameNames.trans {s₁ s₂ s₃ : Session} (h : s₁.SameNames s₂) (h' : s₂.SameNames s₃) : s₁.SameNames s₃ :=
  ⟨h'.known.trans h.known, h'.pending.trans h.pending, h'.resolving.trans h.resolving,
    fun c n a ha => h.answered c n a (h'.answered c n a ha)⟩

theorem SameNames.happen (s : Session) {e : SessionEvent} (h : ∀ c n a, e ≠ .answered c n a) :
    s.SameNames { s with journal := e :: s.journal } :=
  ⟨rfl, rfl, rfl, fun c n a ha => (List.mem_cons.1 ha).resolve_left fun heq => h c n a heq.symm⟩

theorem SameNames.recordedAll (context : Text) : ∀ (s : Session) (ps : List Problem),
    s.SameNames (s.recordedAll context ps)
  | s, [] => .refl s
  | s, p :: ps => by
    have hone : s.SameNames (s.recorded context p) :=
      ⟨rfl, rfl, rfl, fun c n a ha => (List.mem_cons.1 ha).resolve_left fun heq => by cases heq⟩
    exact hone.trans (.recordedAll context (s.recorded context p) ps)

/-- **What holds of a session at all times**, also while names are under evaluation. -/
structure Coherent (table : Entries Text Text) (known : Entries Text Int) (s : Session) : Prop where
  /-- A value that a name had at first is kept. -/
  keeps : ∀ n v, known.find? n = some v → s.known.find? n = some v
  /-- A known value is the right one, where there is one. -/
  knows : ∀ n v a, s.known.find? n = some v → Settles table known n a → a = some v
  pending : ∀ n e, s.pending.find? n = some e → table.find? n = some e
  /-- No name with a value is lost. -/
  drained : ∀ n v, Reference table known n v →
    (s.known.find? n).isSome ∨ s.pending.contains n ∨ n ∈ s.resolving
  /-- Each name under evaluation is mentioned by the one before it. -/
  chain : s.resolving.IsChain fun inner outer => Mentions table known outer inner
  answered : ∀ context n a b, .answered context n a ∈ s.journal → Settles table known n b → a = b

namespace Coherent

theorem of_sameNames {s s' : Session} (h : s.Coherent table known) (hs : s.SameNames s') : s'.Coherent table known where
  keeps := by rw [hs.known]; exact h.keeps
  knows := by rw [hs.known]; exact h.knows
  pending := by rw [hs.pending]; exact h.pending
  drained := by rw [hs.known, hs.pending, hs.resolving]; exact h.drained
  chain := by rw [hs.resolving]; exact h.chain
  answered c n a b ha := h.answered c n a b (hs.answered c n a ha)

/-- A session begins coherent. -/
theorem start (table : Entries Text Text) (values : Entries Text Int) (text filename : Text) :
    (Session.start table values text filename).Coherent table (constants.putAll values) where
  keeps n v h := h
  knows n v a h ha := Settles.unique ha (b := some v) (.known h)
  pending n e h := h
  drained n v h := by
    cases h with
    | known h => exact .inl (by rw [Session.start, h]; rfl)
    | defined _ _ he => exact .inr (.inl (by rw [Session.start, Entries.contains, he]; rfl))
  chain := .nil
  answered c n a b ha := by cases ha

/-- The innermost name under evaluation is reached from every other one. -/
theorem reach {n : Text} : ∀ {resolving : List Text} {r : Text},
    (r :: resolving).IsChain (fun inner outer => Mentions table known outer inner) → n ∈ r :: resolving →
      ReflTransGen (Mentions table known) n r
  | [], r, _, hn => by
    rw [List.mem_singleton.1 hn]
  | r' :: resolving, r, hchain, hn => by
    obtain ⟨hmention, hchain⟩ := List.isChain_cons_cons.1 hchain
    rcases List.mem_cons.1 hn with rfl | hn
    · exact .refl
    · exact (reach hchain hn).tail hmention

/-- **A name with a right answer is not under evaluation when it is looked up.** -/
theorem not_mem_resolving {s : Session} (h : s.Coherent table known) {n : Text}
    (hn : ∀ r ∈ s.resolving.head?, Mentions table known r n) {a : Option Int} (ha : Settles table known n a) :
    n ∉ s.resolving := by
  intro hmem
  have hchain := h.chain
  cases hres : s.resolving with
  | nil =>
    rw [hres] at hmem
    cases hmem
  | cons r resolving =>
    rw [hres] at hn hmem hchain
    exact ha.not_cyclic (TransGen.tail' (reach hchain hmem) (hn r rfl))

end Coherent

/-- The session is still coherent and has the same names under evaluation and no new ones pending. -/
structure Stable (table : Entries Text Text) (known : Entries Text Int) (s s' : Session) : Prop where
  coherent : s'.Coherent table known
  resolving : s'.resolving = s.resolving
  length_le : s'.pending.length ≤ s.pending.length

theorem Coherent.stable {s s' : Session} (h : s.Coherent table known) (hs : s.SameNames s') :
    s.Stable table known s' := ⟨h.of_sameNames hs, hs.resolving, by rw [hs.pending]⟩

theorem Stable.trans {s₁ s₂ s₃ : Session} (h : s₁.Stable table known s₂) (h' : s₂.Stable table known s₃) :
    s₁.Stable table known s₃ := ⟨h'.coherent, h'.resolving.trans h.resolving, h'.length_le.trans h.length_le⟩

end Session

/-! ## Evaluating -/

namespace SessionStep

/-- Looking up a name with `look`, where the innermost name under evaluation mentions it and fewer than `depth` names are
pending, keeps the session coherent and gives the right answer if there is one. -/
def LooksUp (table : Entries Text Text) (known : Entries Text Int) (depth : Nat)
    (look : Text → Text → SessionStep (Option Int)) : Prop :=
  ∀ (s : Session) (context name : Text), s.Coherent table known → s.pending.length < depth →
    (∀ r ∈ s.resolving.head?, Mentions table known r name) →
    Ensures (look context name) s fun r s' => s.Stable table known s' ∧ ∀ a, Settles table known name a → r = .ok a

variable {depth : Nat} {look : Text → Text → SessionStep (Option Int)} {s : Session}

theorem tokens_coherent (hlook : LooksUp table known depth look) (context : Text) : ∀ {ls : List Lexeme} {s : Session},
    s.Coherent table known → s.pending.length < depth →
    (∀ l ∈ ls, l.kind = .identifier → ∀ r ∈ s.resolving.head?, Mentions table known r l.text) →
    Ensures (tokens (look context) context ls) s fun r s' => s.Stable table known s' ∧
      ∀ answers, (∀ l ∈ ls, l.kind = .identifier → Settles table known l.text (answers l.text)) →
        r = ls.mapM fun l => Token.ofLexeme l (l.answer answers)
  | [], s, hs, _, _ => .of_pure ⟨hs.stable (.refl s), fun _ _ => rfl⟩
  | l :: ls, s, hs, hdepth, hmentions => by
    have hanswer : Ensures (if l.kind = .identifier then look context l.text else pure none : SessionStep (Option Int)) s
        fun r s₁ => s.Stable table known s₁ ∧ ∀ answers,
          (l.kind = .identifier → Settles table known l.text (answers l.text)) → r = .ok (l.answer answers) := by
      unfold Lexeme.answer
      by_cases hk : l.kind = .identifier
      · simp only [hk, if_true, true_implies]
        refine (hlook s context l.text hs hdepth (hmentions l List.mem_cons_self hk)).mono ?_
        exact fun r s₁ h => ⟨h.1, fun answers => h.2 (answers l.text)⟩
      · simp only [hk, if_false]
        exact .of_pure ⟨hs.stable (.refl s), fun _ _ => rfl⟩
    refine .of_tokens_cons hanswer ?_ ?_ ?_
    · rintro e s₁ ⟨h₁, ha⟩
      refine ⟨h₁, fun answers hsettles => ?_⟩
      cases ha answers (hsettles l List.mem_cons_self)
    · rintro a e s₁ ⟨h₁, ha⟩ htoken
      refine ⟨h₁, fun answers hsettles => ?_⟩
      cases ha answers (hsettles l List.mem_cons_self)
      rw [List.mapM_cons, htoken]
      rfl
    · rintro a t s₁ ⟨h₁, ha⟩ htoken
      have h₂ : s.Stable table known (s₁.recordedAll context (Problem.ofLexeme? l a).toList) :=
        h₁.trans (h₁.coherent.stable (.recordedAll context s₁ _))
      refine (tokens_coherent hlook context h₂.coherent (Nat.lt_of_le_of_lt h₂.length_le hdepth) ?_).mono ?_
      · rw [h₂.resolving]
        exact fun l hl => hmentions l (List.mem_cons_of_mem _ hl)
      · rintro r s₃ ⟨h₃, hts⟩
        refine ⟨h₂.trans h₃, fun answers hsettles => ?_⟩
        cases ha answers (hsettles l List.mem_cons_self)
        rw [List.mapM_cons, htoken, hts answers fun l hl => hsettles l (List.mem_cons_of_mem _ hl)]
        cases ls.mapM fun l => Token.ofLexeme l (l.answer answers) <;> rfl

/-- **An expression whose names have right answers has the value that it has over these.** -/
theorem evaluateWith_coherent (hlook : LooksUp table known depth look) (hs : s.Coherent table known)
    (hdepth : s.pending.length < depth) {expression : Text}
    (hmentions : ∀ m ∈ mentioned expression, ∀ r ∈ s.resolving.head?, Mentions table known r m) (context : Text) :
    Ensures (evaluateWith look context expression) s fun r s' => s.Stable table known s' ∧
      ∀ answers, (∀ m ∈ mentioned expression, Settles table known m (answers m)) →
        r = valueOver answers expression := by
  refine .of_bind_ok .happen fun s₁ hs₁ => ?_
  have h₁ : s.Stable table known s₁ := hs.stable (hs₁ ▸ .happen s fun c n a h => by cases h)
  refine .of_bind (tokens_coherent hlook context h₁.coherent (Nat.lt_of_le_of_lt h₁.length_le hdepth) ?_) ?_ ?_
  · rw [h₁.resolving]
    exact fun l hl hk => hmentions _ (mem_mentioned.2 ⟨l, hl, hk, rfl⟩)
  · rintro ts s₂ ⟨h₂, hts⟩
    have hvalue (s₃ : Session) (h₃ : s₂.Stable table known s₃) : Ensures (do
        recordAll context (Postfix.ofTokens ts).problems
        recordAll context (Evaluation.ofTokens (Postfix.ofTokens ts).tokens).problems
        ofExcept (Evaluation.ofTokens (Postfix.ofTokens ts).tokens).value) s₃ fun r s' => s.Stable table known s' ∧
          ∀ answers, (∀ m ∈ mentioned expression, Settles table known m (answers m)) →
            r = valueOver answers expression := by
      refine .of_bind_ok .recordAll fun s₄ hs₄ => ?_
      have h₄ : s₃.Stable table known s₄ := h₃.coherent.stable (hs₄ ▸ .recordedAll context s₃ _)
      refine .of_bind_ok .recordAll fun s₅ hs₅ => ?_
      have h₅ : s₄.Stable table known s₅ := h₄.coherent.stable (hs₅ ▸ .recordedAll context s₄ _)
      refine Ensures.ofExcept.mono ?_
      rintro r s' ⟨rfl, rfl⟩
      refine ⟨h₁.trans (h₂.trans (h₃.trans (h₄.trans h₅))), fun answers hsettles => ?_⟩
      have hread : Except.ok ts = (tokenize answers expression).outcome :=
        hts answers fun l hl hk => hsettles _ (mem_mentioned.2 ⟨l, hl, hk, rfl⟩)
      rw [valueOver, ← hread]
      rfl
    simp only
    split
    · exact .of_bind_ok .happen fun s₃ hs₃ =>
        hvalue s₃ (h₂.coherent.stable (hs₃ ▸ .happen s₂ fun c n a h => by cases h))
    · exact hvalue s₂ (h₂.coherent.stable (.refl s₂))
  · rintro e s₂ ⟨h₂, hts⟩
    refine ⟨h₁.trans h₂, fun answers hsettles => ?_⟩
    have hread : Except.error e = (tokenize answers expression).outcome :=
      hts answers fun l hl hk => hsettles _ (mem_mentioned.2 ⟨l, hl, hk, rfl⟩)
    rw [valueOver, ← hread]
    rfl

/-! ## Resolving -/

end SessionStep

namespace Session.Coherent

variable {s : Session} {name : Text}

/-- A name that is being evaluated is no longer pending. -/
theorem enter (h : s.Coherent table known) (hmentions : ∀ r ∈ s.resolving.head?, Mentions table known r name) :
    ({ s with pending := s.pending.erase name, resolving := name :: s.resolving } : Session).Coherent table known where
  keeps := h.keeps
  knows := h.knows
  pending n e he := by
    rw [Entries.find?_erase] at he
    split at he
    · cases he
    · exact h.pending n e he
  drained n v hv := by
    by_cases hn : n = name
    · exact .inr (.inr (by simp [hn]))
    · rw [Entries.contains, Entries.find?_erase, if_neg hn]
      exact (h.drained n v hv).imp_right (.imp_right (List.mem_cons_of_mem name))
  chain := by
    have hchain := h.chain
    cases hres : s.resolving with
    | nil => exact .singleton name
    | cons r rest =>
      rw [hres] at hmentions hchain
      exact List.isChain_cons_cons.2 ⟨hmentions r rfl, hchain⟩
  answered := h.answered

/-- A name that has been evaluated may be left, unless it has a value that is not yet known. -/
theorem leave {resolving : List Text} (h : s.Coherent table known) (hs : s.resolving = name :: resolving)
    (hname : ∀ v, Reference table known name v → (s.known.find? name).isSome) :
    ({ s with resolving } : Session).Coherent table known where
  keeps := h.keeps
  knows := h.knows
  pending := h.pending
  drained n v hv := by
    have hdrained := h.drained n v hv
    rw [hs, List.mem_cons] at hdrained
    rcases hdrained with hknown | hpending | rfl | hmem
    · exact .inl hknown
    · exact .inr (.inl hpending)
    · exact .inl (hname v hv)
    · exact .inr (.inr hmem)
  chain := by
    have hchain := h.chain
    rw [hs] at hchain
    exact hchain.tail
  answered := h.answered

/-- A right value may be learned. -/
theorem learn {v : Int} (h : s.Coherent table known) (hknown : known.find? name = none)
    (hv : ∀ a, Settles table known name a → a = some v) :
    ({ s with known := s.known.put name v } : Session).Coherent table known where
  keeps n w hw := by
    have hn : n ≠ name := by
      rintro rfl
      exact absurd (hw.symm.trans hknown) (by simp)
    rw [Entries.find?_put_of_ne hn]
    exact h.keeps n w hw
  knows n w a hw ha := by
    by_cases hn : n = name
    · subst hn
      rw [Entries.find?_put_self] at hw
      rw [hv a ha, hw]
    · rw [Entries.find?_put_of_ne hn] at hw
      exact h.knows n w a hw ha
  pending := h.pending
  drained n w hw := by
    refine (h.drained n w hw).imp_left fun hsome => ?_
    by_cases hn : n = name
    · rw [hn, Entries.find?_put_self]
      rfl
    · rwa [Entries.find?_put_of_ne hn]
  chain := h.chain
  answered := h.answered

end Session.Coherent

namespace SessionStep

variable {depth : Nat} {look : Text → Text → SessionStep (Option Int)} {s : Session}

/-- **A name that is resolved has its value, and is known by it.** -/
theorem resolveWith_coherent (hlook : LooksUp table known depth look) (hs : s.Coherent table known) {name : Text}
    (hname : name ∉ s.resolving) (hdepth : (s.pending.erase name).length < depth)
    (hmentions : ∀ r ∈ s.resolving.head?, Mentions table known r name) :
    Ensures (resolveWith look name none) s fun r s' => s.Stable table known s' ∧
      ∀ v, Reference table known name v → r = .ok v ∧ s'.known.find? name = some v := by
  have hlength : (s.pending.erase name).length ≤ s.pending.length := List.length_filter_le _ _
  have henter := hs.enter hmentions
  refine .of_get_bind (.of_modify_bind (.of_get_bind ?_))
  simp only [Option.none_or]
  split
  · rename_i v hv
    have hstable : s.Stable table known { s with pending := s.pending.erase name } :=
      ⟨henter.leave rfl fun _ _ => by rw [hv]; rfl, rfl, hlength⟩
    refine .of_pure ⟨hstable, fun w hw => ?_⟩
    cases hs.knows name v (some w) hv hw
    exact ⟨rfl, hv⟩
  · rename_i hv hown
    have hlost : ∀ v, ¬ Reference table known name v := by
      intro v hw
      rcases hs.drained name v hw with h | h | h
      · rw [hv] at h
        cases h
      · rw [Entries.contains, hown] at h
        cases h
      · exact hname h
    have hstable : s.Stable table known { s with pending := s.pending.erase name } :=
      ⟨henter.leave rfl fun v hw => absurd hw (hlost v), rfl, hlength⟩
    refine .of_bind_ok .record fun s' hs' => .of_pure ⟨?_, fun v hw => absurd hw (hlost v)⟩
    exact hstable.trans (hstable.coherent.stable (hs' ▸ .recordedAll name _ [_]))
  · rename_i expression hv hown
    have hknown : known.find? name = none := by
      cases hk : known.find? name with
      | none => rfl
      | some v => exact absurd ((hs.keeps name v hk).symm.trans hv) (by simp)
    have he := hs.pending name expression hown
    have hright (r : Except DigitLimit Int) (hr : ∀ answers,
        (∀ m ∈ mentioned expression, Settles table known m (answers m)) → r = valueOver answers expression)
        (v : Int) (hw : Reference table known name v) : r = .ok v := by
      obtain ⟨answers, hsettles, hvalue⟩ := hw.exists_answers hknown he
      rw [hr answers hsettles, hvalue]
    refine .of_bind (P := fun r s₃ => ∃ s₂, s₃ = { s₂ with resolving := s.resolving } ∧
        Session.Stable table known { s with pending := s.pending.erase name, resolving := name :: s.resolving } s₂ ∧
        ∀ v, Reference table known name v → r = .ok v) (.of_modify_bind (.of_tryFinally ?_)) ?_ ?_
    · refine (evaluateWith_coherent hlook henter hdepth ?_ name).mono ?_
      · intro m hm r hr
        cases hr
        exact ⟨hknown, expression, he, hm⟩
      · rintro r s₂ ⟨h₂, hr⟩
        refine ⟨s₂, ?_, h₂, hright r hr⟩
        have hfilter : s.resolving.filter (· ≠ name) = s.resolving :=
          List.filter_eq_self.2 fun n hn => decide_eq_true fun h => hname (h ▸ hn)
        rw [h₂.resolving, List.filter_cons_of_neg (by simp), hfilter]
    · rintro v _ ⟨s₂, rfl, h₂, hr⟩
      have hlearn := h₂.coherent.learn (v := v) hknown fun a ha => by
        cases a with
        | none => exact absurd (ha.2.symm.trans he) (by simp)
        | some w =>
          cases hr w ha
          rfl
      refine .of_modify_bind (.of_pure ⟨⟨hlearn.leave h₂.resolving fun _ _ => ?_, rfl, h₂.length_le.trans hlength⟩,
        fun w hw => ⟨hr w hw, ?_⟩⟩)
      · rw [Entries.find?_put_self]
        rfl
      · cases hr w hw
        exact Entries.find?_put_self name v s₂.known
    · rintro e _ ⟨s₂, rfl, h₂, hr⟩
      have hlost : ∀ v, ¬ Reference table known name v := fun v hw => by cases hr v hw
      exact ⟨⟨h₂.coherent.leave h₂.resolving fun v hw => absurd hw (hlost v), rfl, h₂.length_le.trans hlength⟩,
        fun v hw => absurd hw (hlost v)⟩

/-- A name that is not pending has been settled: what is known of it is the right answer. -/
theorem known_of_settles (hs : s.Coherent table known) {name : Text} (hname : name ∉ s.resolving)
    (hpending : s.pending.contains name = false) : ∀ {a : Option Int}, Settles table known name a →
      s.known.find? name = a
  | some v, ha => by
    rcases hs.drained name v ha with h | h | h
    · obtain ⟨w, hw⟩ := Option.isSome_iff_exists.1 h
      rw [hw, hs.knows name w (some v) hw ha]
    · rw [hpending] at h
      cases h
    · exact absurd h hname
  | none, ha => by
    cases hw : s.known.find? name with
    | none => rfl
    | some w => exact absurd (hs.knows name w none hw ha) (by simp)

/-- **A name that is looked up is given its right answer**, resolved first where it is pending. -/
theorem lookupWith_coherent (hlook : LooksUp table known depth look) :
    LooksUp table known (depth + 1) (lookupWith fun name => resolveWith look name none) := by
  intro s context name hs hdepth hmentions
  have hanswer (s₁ : Session) (h₁ : s.Stable table known s₁)
      (hknown : ∀ a, Settles table known name a → s₁.known.find? name = a) :
      Ensures (knownAnswer context name) s₁ fun r s' =>
        s.Stable table known s' ∧ ∀ a, Settles table known name a → r = .ok a := by
    refine .of_get_bind ?_
    split
    · rename_i hv
      exact .of_pure ⟨h₁, fun a ha => by rw [← hknown a ha, hv]⟩
    · rename_i v hv
      have hright : ∀ a, Settles table known name a → (.ok (some v) : Except DigitLimit (Option Int)) = .ok a :=
        fun a ha => by rw [← hknown a ha, hv]
      split
      · split
        · exact .of_bind_ok (P := (· = s₁)) (.of_pure ⟨rfl, rfl⟩) fun s₂ hs₂ => .of_pure ⟨hs₂ ▸ h₁, hright⟩
        · refine .of_modify_bind (.of_pure ⟨h₁.trans (h₁.coherent.stable ?_), hright⟩)
          exact ⟨rfl, rfl, rfl, fun _ _ _ => id⟩
      · exact .of_pure ⟨h₁, hright⟩
  refine .of_get_bind ?_
  by_cases hres : s.resolving.contains name
  · have hmem : name ∈ s.resolving := by simpa using hres
    simp only [hres, if_true]
    refine .of_bind_ok .record fun s₁ hs₁ => .of_pure ⟨hs.stable (hs₁ ▸ .recordedAll context s [_]), fun a ha => ?_⟩
    exact absurd hmem (hs.not_mem_resolving hmentions ha)
  · have hmem : name ∉ s.resolving := by simpa using hres
    simp only [hres, Bool.false_eq_true, if_false]
    by_cases hpending : s.pending.contains name
    · simp only [hpending, if_true]
      have hundefined : ¬ Undefined table known name := by
        obtain ⟨e, he⟩ := Option.isSome_iff_exists.1 hpending
        exact fun h => absurd ((hs.pending name e he).symm.trans h.2) (by simp)
      have hlength := Entries.length_erase_lt hpending
      refine .of_bind (resolveWith_coherent hlook hs hmem (by omega) hmentions) ?_ ?_
      · rintro v s₁ ⟨h₁, hv⟩
        refine hanswer s₁ h₁ fun a ha => ?_
        cases a with
        | none => exact absurd ha hundefined
        | some w => exact (hv w ha).2
      · rintro e s₁ ⟨h₁, hv⟩
        refine ⟨h₁, fun a ha => ?_⟩
        cases a with
        | none => exact absurd ha hundefined
        | some w => cases (hv w ha).1
    · simp only [hpending, Bool.false_eq_true, if_false]
      exact hanswer s (hs.stable (.refl s)) fun a ha => known_of_settles hs hmem (by simpa using hpending) ha

/-- Keeping the answer in the journal changes nothing. -/
theorem noted_coherent (hlook : LooksUp table known depth look) : LooksUp table known depth (noted look) := by
  intro s context name hs hdepth hmentions
  refine .of_bind (hlook s context name hs hdepth hmentions) ?_ fun e s₁ h => ⟨h.1, fun a ha => by cases h.2 a ha⟩
  rintro a s₁ ⟨h₁, ha⟩
  refine .of_bind_ok .happen fun s₂ hs₂ => .of_pure ⟨h₁.trans ?_, ha⟩
  subst hs₂
  have h := h₁.coherent
  refine ⟨⟨h.keeps, h.knows, h.pending, h.drained, h.chain, fun c n b b' hb hb' => ?_⟩, rfl, Nat.le_refl _⟩
  rcases List.mem_cons.1 hb with heq | hb
  · cases heq
    exact Except.ok.inj (ha b' hb')
  · exact h.answered c n b b' hb hb'

/-- **Every lookup keeps a session coherent and gives the right answer**, if there is one. -/
theorem lookup_coherent : ∀ depth : Nat, LooksUp table known depth (lookup depth)
  | 0 => fun _ _ _ _ hdepth => absurd hdepth (Nat.not_lt_zero _)
  | depth + 1 => noted_coherent (lookupWith_coherent (lookup_coherent depth))

/-! ## Serving requests -/

theorem resolve_coherent (hs : s.Coherent table known) (hres : s.resolving = []) (name : Text) :
    Ensures (resolve name) s fun r s' => s.Stable table known s' ∧
      ∀ v, Reference table known name v → r = .ok v := by
  have hlength : (s.pending.erase name).length ≤ s.pending.length := List.length_filter_le _ _
  refine .of_get_bind ((resolveWith_coherent (lookup_coherent s.depth) hs ?_ (Nat.lt_succ_of_le hlength) ?_).mono ?_)
  · simp [hres]
  · simp [hres]
  · exact fun r s' h => ⟨h.1, fun v hv => (h.2 v hv).1⟩

theorem evaluate_coherent (hs : s.Coherent table known) (hres : s.resolving = []) (expression context : Text) :
    Ensures (evaluate expression context) s fun r s' => s.Stable table known s' ∧
      ∀ answers, (∀ m ∈ mentioned expression, Settles table known m (answers m)) →
        r = valueOver answers expression :=
  .of_get_bind (evaluateWith_coherent (lookup_coherent s.depth) hs (Nat.lt_succ_self _) (by simp [hres]) context)

/-- **A plain request keeps a session coherent**, with no name under evaluation behind it, and a name that it resolves is
given its value. -/
theorem request_coherent {q : Request} (hq : q.IsPlain) (hs : s.Coherent table known) (hres : s.resolving = []) :
    Ensures q.step s fun r s' => (∀ n v, q = .resolve n none → Reference table known n v → r = .ok (.value v)) ∧
      s'.Coherent table known ∧ s'.resolving = [] := by
  match q, hq with
  | .resolve name none, _ =>
    refine .of_bind (resolve_coherent hs hres name) ?_ ?_
    · rintro v s' ⟨h, hv⟩
      refine .of_pure ⟨fun n w hn hw => ?_, h.coherent, h.resolving.trans hres⟩
      cases hn
      rw [Except.ok.inj (hv w hw)]
    · rintro e s' ⟨h, hv⟩
      refine ⟨fun n w hn hw => ?_, h.coherent, h.resolving.trans hres⟩
      cases hn
      cases hv w hw
  | .evaluate expression context, _ =>
    refine .of_bind (evaluate_coherent hs hres expression context) ?_ ?_
    · exact fun v s' h => .of_pure ⟨fun _ _ hq => absurd hq (by simp), h.1.coherent, h.1.resolving.trans hres⟩
    · exact fun e s' h => ⟨fun _ _ hq => absurd hq (by simp), h.1.coherent, h.1.resolving.trans hres⟩

end SessionStep

/-- **A name from which no cycle can be reached has one value**, and whatever a session is asked for, in any order and
whatever cycles are elsewhere in its table, the name is resolved to that value and looked up as that value. -/
theorem serve_reference {table : Entries Text Text} {values : Entries Text Int} {name : Text}
    (hname : name ∈ table.map Prod.fst) (hacyclic : Acyclic table (Session.constants.putAll values) name)
    (hshort : ∀ e ∈ table, HasShortNumbers e.2)
    (hfew : ∀ m v, TransGen (Mentions table (Session.constants.putAll values)) name m →
      (Session.constants.putAll values).find? m = some v → FewDigits v) (text filename : Text) :
    ∃ v, Reference table (Session.constants.putAll values) name v ∧
      ∀ requests : List Request, (∀ q ∈ requests, q.IsPlain) →
        (∀ r, (.resolve name none, r) ∈ ((Session.start table values text filename).serve requests).1 →
          r = .ok (.value v)) ∧
        (∀ context a, .answered context name a ∈ ((Session.start table values text filename).serve requests).2.journal →
          a = some v) := by
  obtain ⟨v, hv⟩ := exists_reference hname hacyclic hshort hfew
  refine ⟨v, hv, fun requests hplain => ?_⟩
  obtain ⟨hanswers, hcoherent, -⟩ := Session.serve_ensures
    (fun q hq s (hs : s.Coherent table (Session.constants.putAll values) ∧ s.resolving = []) =>
      request_coherent (hplain q hq) hs.1 hs.2) ⟨.start table values text filename, rfl⟩
  refine ⟨fun r hr => hanswers _ hr name v rfl hv, fun context a ha => ?_⟩
  exact hcoherent.answered context name a (some v) ha hv

/-- A table in which a cycle reaches `A`, and none is reached from it. -/
def besideCycle : Entries Text Text :=
  [("C".toList, "D".toList), ("D".toList, "C+A".toList), ("A".toList, "B*X".toList), ("B".toList, "2".toList)]

theorem serve_reference_besideCycle :
    ∃ v, Reference besideCycle (Session.constants.putAll [("X".toList, 5)]) "A".toList v ∧
      ∀ requests : List Request, (∀ q ∈ requests, q.IsPlain) →
        (∀ r, (.resolve "A".toList none, r) ∈
          ((Session.start besideCycle [("X".toList, 5)] [] []).serve requests).1 → r = .ok (.value v)) ∧
        (∀ context a, .answered context "A".toList a ∈
          ((Session.start besideCycle [("X".toList, 5)] [] []).serve requests).2.journal → a = some v) := by
  have hmentions : ∀ n ∈ ["A".toList, "B".toList, "X".toList], ∀ m,
      Mentions besideCycle (Session.constants.putAll [("X".toList, 5)]) n m →
        n = "A".toList ∧ m ∈ ["B".toList, "X".toList] := by
    rintro n hn m ⟨hk, e, he, hm⟩
    simp only [List.mem_cons, List.not_mem_nil, or_false] at hn
    rcases hn with rfl | rfl | rfl
    · cases (he : some "B*X".toList = some e)
      rw [show mentioned "B*X".toList = ["B".toList, "X".toList] by decide] at hm
      exact ⟨rfl, hm⟩
    · cases (he : some "2".toList = some e)
      rw [show mentioned "2".toList = [] by decide] at hm
      cases hm
    · cases (he : none = some e)
  have hnumbers : ∀ e ∈ besideCycle, ∀ l ∈ (lexemes e.2).1, l.kind = .number →
      Numeral.ofText? l.text = some ⟨10, ['2']⟩ := by decide
  have hsmall : ∀ e ∈ Session.constants.putAll [("X".toList, 5)], e.2.natAbs < 10 ^ 10 := by decide
  refine serve_reference (by decide) ?_ ?_ ?_ [] []
  · intro m hm
    have hreach : m ∈ ["A".toList, "B".toList, "X".toList] := by
      induction hm with
      | refl => simp
      | tail _ h ih => exact List.mem_cons_of_mem _ (hmentions _ ih _ h).2
    intro hcycle
    obtain ⟨k, hk, hback⟩ := TransGen.head'_iff.1 hcycle
    obtain ⟨rfl, hmem⟩ := hmentions m hreach k hk
    rcases hback.cases_head with rfl | ⟨j, hj, -⟩
    · exact absurd hmem (by decide)
    · rw [(hmentions k (List.mem_cons_of_mem _ hmem) j hj).1] at hmem
      exact absurd hmem (by decide)
  · intro e he l hl hkind n hn _
    cases (hnumbers e he l hl hkind).symm.trans hn
    decide
  · exact fun m v _ h => fewDigits_of_lt (by decide) (by decide) (hsmall _ (Entries.mem_of_find? h))

/-- A name that mentions a value of 4301 digits has no value, and what is no ASCII letter is not looked up. -/
theorem serve_reference_unwritten :
    ((Session.start [(['X'], "BIG+1".toList)] [("BIG".toList, Nat.pow 10 digitLimit)] [] []).serve
      [.resolve ['X'] none]).1 = [(.resolve ['X'] none, .error .writing)] ∧
    ((Session.start [(['X'], "é+1".toList), (['é'], ['5'])] [] [] []).serve [.resolve ['X'] none]).1 =
      [(.resolve ['X'] none, .ok (.value 0))] := by
  constructor
  · let s := Session.start [(['X'], "BIG+1".toList)] [("BIG".toList, Nat.pow 10 digitLimit)] [] []
    have hlexemes : (lexemes "BIG+1".toList).1 = [⟨.identifier, "BIG".toList, "BIG+1".toList⟩,
        ⟨.operator, "+".toList, "+1".toList⟩, ⟨.number, "1".toList, "1".toList⟩] := rfl
    have hopen : "BIG".toList ∉ (s.entered ['X']).resolving := show "BIG".toList ∉ [['X']] by decide
    have hevaluate := @Runs.evaluate_unwritten ['X'] _ _ _ _ _ hlexemes rfl hopen rfl rfl not_fewDigits_limit
    have hserves : Serves (.resolve ['X'] none) s (.error .writing) _ := .resolve (.failed rfl rfl hevaluate)
    rw [Session.serve_cons, serves_iff.1 hserves]
    rfl
  · rfl

end GameSource
