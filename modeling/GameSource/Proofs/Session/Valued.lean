import GameSource.Proofs.Expr.Outcome
import GameSource.Proofs.Session.Gathered
/-!
# What the values of a session depend on

Diagnostics and what happened earlier have no part in them: in sessions that agree on their names every task has the
same outcome (`Runs.agree`).  And only a long decimal number is in the way of a value: where there is none, every task
comes to values, all of them 32-bit words, cycles or not (`Runs.gives`).
-/
namespace GameSource

open SessionStep

/-! ## Sessions that agree -/

namespace Session

variable {s u : Session}

/-- The sessions have the same names pending, known and under evaluation. -/
structure Agrees (s u : Session) : Prop where
  pending : u.pending = s.pending
  known : u.known = s.known
  resolving : u.resolving = s.resolving

namespace Agrees

theorem recordedAll (h : s.Agrees u) (context : Text) (ps : List Problem) :
    (s.recordedAll context ps).Agrees (u.recordedAll context ps) :=
  ⟨by simp [h.pending], by simp [h.known], by simp [h.resolving]⟩

theorem happened (h : s.Agrees u) (e : SessionEvent) : (s.happened e).Agrees (u.happened e) := ⟨h.1, h.2, h.3⟩

theorem answered (h : s.Agrees u) (context name : Text) : (s.answered context name).Agrees (u.answered context name) :=
  ⟨by simp [h.pending], by simp [h.known], by simp [h.resolving]⟩

theorem concluded (h : s.Agrees u) (context rest : Text) (ts : List Token) :
    (s.concluded context rest ts).Agrees (u.concluded context rest ts) :=
  ⟨by simp [h.pending], by simp [h.known], by simp [h.resolving]⟩

theorem taken (h : s.Agrees u) (name : Text) : (s.taken name).Agrees (u.taken name) :=
  ⟨by simp [h.pending], h.known, h.resolving⟩

theorem entered (h : s.Agrees u) (name : Text) : (s.entered name).Agrees (u.entered name) :=
  ⟨by simp [h.pending], h.known, by simp [h.resolving]⟩

theorem left (h : s.Agrees u) (name : Text) : (s.left name).Agrees (u.left name) :=
  ⟨h.pending, h.known, by simp [h.resolving]⟩

theorem learnt (h : s.Agrees u) (name : Text) (v : Int) : (s.learnt name v).Agrees (u.learnt name v) :=
  ⟨h.pending, by simp [h.known], h.resolving⟩

end Agrees

end Session

/-- **Diagnostics and the journal have no part in values**: from sessions that agree a task comes to the same outcome,
and to sessions that agree. -/
theorem Runs.agree {t : Task} {s s' : Session} {r : Except DigitLimit t.Result} (h : Runs t s r s') :
    ∀ {u : Session}, s.Agrees u → ∃ u', Runs t u r u' ∧ s'.Agrees u' := by
  induction h with
  | circular hn => exact fun hu => ⟨_, .circular (hu.resolving ▸ hn), (hu.recordedAll _ [_]).happened _⟩
  | @settled s context name hn hp =>
    intro u hu
    have hrun : Runs (.look context name) u (.ok (u.known.find? name)) (u.answered context name) :=
      .settled (hu.resolving ▸ hn) (hu.pending ▸ hp)
    exact ⟨_, hu.known ▸ hrun, hu.answered _ _⟩
  | @resolved s s' context name v hn hp _ ih =>
    intro u hu
    obtain ⟨u', hr, hu'⟩ := ih hu
    have hrun : Runs (.look context name) u (.ok (u'.known.find? name)) (u'.answered context name) :=
      .resolved (hu.resolving ▸ hn) (hu.pending ▸ hp) hr
    exact ⟨_, hu'.known ▸ hrun, hu'.answered _ _⟩
  | unresolved hn hp _ ih =>
    intro u hu
    obtain ⟨u', hr, hu'⟩ := ih hu
    exact ⟨u', .unresolved (hu.resolving ▸ hn) (hu.pending ▸ hp) hr, hu'⟩
  | nil => exact fun hu => ⟨_, .nil, hu⟩
  | sign hk ht _ ih =>
    intro u hu
    obtain ⟨u', hs, hu'⟩ := ih (hu.recordedAll _ _)
    exact ⟨u', .sign hk ht hs, hu'⟩
  | name hk _ ht _ iha ihs =>
    intro u hu
    obtain ⟨u₁, ha, hu₁⟩ := iha hu
    obtain ⟨u', hs, hu'⟩ := ihs (hu₁.recordedAll _ _)
    exact ⟨u', .name hk ha ht hs, hu'⟩
  | unwritten hk _ ht ih =>
    intro u hu
    obtain ⟨u', ha, hu'⟩ := ih hu
    exact ⟨u', .unwritten hk ha ht, hu'⟩
  | unanswered hk _ ih =>
    intro u hu
    obtain ⟨u', ha, hu'⟩ := ih hu
    exact ⟨u', .unanswered hk ha, hu'⟩
  | value _ ih =>
    intro u hu
    obtain ⟨u', hs, hu'⟩ := ih (hu.happened _)
    exact ⟨_, .value hs, hu'.concluded _ _ _⟩
  | unread _ ih =>
    intro u hu
    obtain ⟨u', hs, hu'⟩ := ih (hu.happened _)
    exact ⟨u', .unread hs, hu'⟩
  | known hv => exact fun hu => ⟨_, .known (hu.known ▸ hv), hu.taken _⟩
  | undefined hk hp =>
    exact fun hu => ⟨_, .undefined (hu.known ▸ hk) (hu.pending ▸ hp), (hu.taken _).recordedAll _ [_]⟩
  | learned hk he _ ih =>
    intro u hu
    obtain ⟨u', hv, hu'⟩ := ih (hu.entered _)
    exact ⟨_, .learned (hu.known ▸ hk) (hu.pending ▸ he) hv, (hu'.left _).learnt _ _⟩
  | failed hk he _ ih =>
    intro u hu
    obtain ⟨u', hv, hu'⟩ := ih (hu.entered _)
    exact ⟨_, .failed (hu.known ▸ hk) (hu.pending ▸ he) hv, hu'.left _⟩

/-- Whether a pending name is resolved, or taken out and resolved from its expression, is the same. -/
theorem Runs.of_pending {name expression : Text} {s s' : Session} {r : Except DigitLimit Int}
    (h : Runs (.resolve name none) s r s') (he : s.pending.find? name = some expression) :
    Runs (.resolve name (some expression)) (s.taken name) r s' := by
  have htaken : (s.taken name).taken name = s.taken name := by
    simp only [Session.taken, Entries.erase_erase]
  have hentered : (s.taken name).entered name = s.entered name := by
    simp only [Session.taken, Session.entered, Entries.erase_erase]
  cases h with
  | known hk =>
    have hrun : Runs (.resolve name (some expression)) (s.taken name) _ _ := .known (s := s.taken name) hk
    rwa [htaken] at hrun
  | undefined _ hp => rw [hp] at he; cases he
  | learned hk hown hv =>
    rw [Option.none_or, he] at hown
    cases hown
    exact .learned (s := s.taken name) hk rfl (hentered ▸ hv)
  | failed hk hown hv =>
    rw [Option.none_or, he] at hown
    cases hown
    exact .failed (s := s.taken name) hk rfl (hentered ▸ hv)

/-! ## Sessions in which everything has a value -/

/-- An integer is the value of a 32-bit word. -/
def IsWord (v : Int) : Prop := ∃ w : BitVec 32, v = w.toInt

theorem IsWord.fewDigits {v : Int} (h : IsWord v) : FewDigits v := by
  obtain ⟨w, rfl⟩ := h
  exact fewDigits_toInt w

theorem IsWord.readInteger {v : Int} (h : IsWord v) : readInteger (decimalText v) = .ok (some v) := by
  obtain ⟨w, rfl⟩ := h
  rw [readInteger_decimalText (fewDigits_toInt w), wrap32_toInt]

/-- The numbers among the tokens can be read. -/
def ReadableTokens (ts : List Token) : Prop := ∀ t ∈ ts, t.kind = .number → ∃ v, readInteger t.text = .ok v

namespace Session

/-- The pending expressions have no long numbers, and what is known are words. -/
structure Readable (s : Session) : Prop where
  pending : ∀ n e, s.pending.find? n = some e → HasShortNumbers e
  known : ∀ n v, s.known.find? n = some v → IsWord v

namespace Readable

variable {s s' : Session}

theorem of_names (h : s.Readable) (hp : s'.pending = s.pending) (hk : s'.known = s.known) : s'.Readable where
  pending := hp ▸ h.pending
  known := hk ▸ h.known

theorem recordedAll (h : s.Readable) (context : Text) (ps : List Problem) : (s.recordedAll context ps).Readable :=
  h.of_names (by simp) (by simp)

theorem answered (h : s.Readable) (context name : Text) : (s.answered context name).Readable :=
  h.of_names (by simp) (by simp)

theorem concluded (h : s.Readable) (context rest : Text) (ts : List Token) : (s.concluded context rest ts).Readable :=
  h.of_names (by simp) (by simp)

theorem taken (h : s.Readable) (name : Text) : (s.taken name).Readable where
  pending n e he := by
    rw [taken_pending, Entries.find?_erase] at he
    split at he
    · cases he
    · exact h.pending n e he
  known := h.known

theorem entered (h : s.Readable) (name : Text) : (s.entered name).Readable := (h.taken name).of_names rfl rfl

theorem learnt (h : s.Readable) (name : Text) {v : Int} (hv : IsWord v) : (s.learnt name v).Readable where
  pending := h.pending
  known n w hw := by
    rw [learnt_known] at hw
    by_cases hn : n = name
    · rw [hn, Entries.find?_put_self] at hw
      exact Option.some.inj hw ▸ hv
    · rw [Entries.find?_put_of_ne hn] at hw
      exact h.known n w hw

end Readable

end Session

namespace Task

/-- The numbers that the task meets itself can be read. -/
def Readable : Task → Prop
  | look _ _ => True
  | read _ ls => ∀ l ∈ ls, l.kind = .number → ∃ v, readInteger l.text = .ok v
  | evaluate _ expression => HasShortNumbers expression
  | resolve _ given => ∀ expression ∈ given, HasShortNumbers expression

/-- The values that the task gives are words, and so are those in the tokens it reads. -/
def Gives : (t : Task) → t.Result → Prop
  | look _ _, answer => ∀ v ∈ answer, IsWord v
  | read _ _, ts => ReadableTokens ts
  | evaluate _ _, v => IsWord v
  | resolve _ _, v => IsWord v

end Task

/-- The expression from which a name is resolved, given or pending, has no long numbers. -/
theorem Session.Readable.of_resolve {s : Session} (hs : s.Readable) {name expression : Text} {given : Option Text}
    (ht : (Task.resolve name given).Readable) (he : given.or (s.pending.find? name) = some expression) :
    HasShortNumbers expression := by
  rcases Option.or_eq_some_iff.1 he with he | ⟨-, he⟩
  · exact ht expression he
  · exact hs.pending name expression he

theorem ReadableTokens.cons {l : Lexeme} {answer : Option Int} {t : Token} {ts : List Token} (hts : ReadableTokens ts)
    (hl : l.kind = .number → ∃ v, readInteger l.text = .ok v) (ht : Token.ofLexeme l answer = .ok t) :
    ReadableTokens (t :: ts) := by
  intro u hu hk
  rcases List.mem_cons.1 hu with rfl | hu
  · rcases Token.number_of_ofLexeme ht hk with ⟨hkind, htext⟩ | ⟨-, v, -, hv⟩
    · rw [htext]
      exact hl hkind
    · exact ⟨_, readInteger_of_writeInteger hv⟩
  · exact hts u hu hk

/-- Tokens with readable numbers have a value, which is a word. -/
theorem ReadableTokens.exists_value {ts : List Token} (h : ReadableTokens ts) :
    ∃ v, (Evaluation.ofTokens (Postfix.ofTokens ts).tokens).value = .ok v ∧ IsWord v := by
  obtain ⟨v, hv⟩ := Evaluation.exists_value (fun t ht => h t (Postfix.mem_ofTokens ht)) []
  exact ⟨v, hv, Evaluation.ofTokens_word hv⟩

/-- **Where no number is too long every task comes to values**, and these are words. -/
theorem Runs.gives {t : Task} {s s' : Session} {r : Except DigitLimit t.Result} (h : Runs t s r s') (ht : t.Readable)
    (hs : s.Readable) : (∃ a, r = .ok a ∧ t.Gives a) ∧ s'.Readable := by
  induction h with
  | circular =>
    refine ⟨⟨_, rfl, ?_⟩, hs.of_names rfl rfl⟩
    rintro v ⟨⟩
    exact ⟨0, rfl⟩
  | settled => exact ⟨⟨_, rfl, fun v hv => hs.known _ v hv⟩, hs.answered _ _⟩
  | resolved _ _ _ ih =>
    have hs' := (ih (by simp [Task.Readable]) hs).2
    exact ⟨⟨_, rfl, fun v hv => hs'.known _ v hv⟩, hs'.answered _ _⟩
  | unresolved _ _ _ ih =>
    obtain ⟨⟨v, hv, -⟩, -⟩ := ih (by simp [Task.Readable]) hs
    cases hv
  | nil => exact ⟨⟨_, rfl, by simp [Task.Gives, ReadableTokens]⟩, hs⟩
  | @sign s s' context l ls t r hk htoken _ ih =>
    obtain ⟨⟨ts, rfl, hts⟩, hs'⟩ := ih (fun l hl => ht l (List.mem_cons_of_mem _ hl)) (hs.recordedAll _ _)
    exact ⟨⟨_, rfl, hts.cons (ht l List.mem_cons_self) htoken⟩, hs'⟩
  | @name s s₁ s' context l ls a t r hk _ htoken _ iha ihs =>
    obtain ⟨-, hs₁⟩ := iha trivial hs
    obtain ⟨⟨ts, rfl, hts⟩, hs'⟩ := ihs (fun l hl => ht l (List.mem_cons_of_mem _ hl)) (hs₁.recordedAll _ _)
    exact ⟨⟨_, rfl, hts.cons (ht l List.mem_cons_self) htoken⟩, hs'⟩
  | unwritten _ _ htoken ih =>
    obtain ⟨⟨_, ⟨⟩, hanswer⟩, -⟩ := ih trivial hs
    obtain ⟨-, -, v, hv, hlong⟩ := Token.ofLexeme_eq_error_iff.1 htoken
    exact absurd (hanswer v hv).fewDigits hlong
  | unanswered _ _ ih =>
    obtain ⟨⟨a, ha, -⟩, -⟩ := ih trivial hs
    cases ha
  | value _ ih =>
    obtain ⟨⟨_, ⟨⟩, hts⟩, hs'⟩ := ih (fun l hl hk => ht.readInteger hl hk) (hs.of_names rfl rfl)
    exact ⟨hts.exists_value, hs'.concluded _ _ _⟩
  | unread _ ih =>
    obtain ⟨⟨ts, hts, -⟩, -⟩ := ih (fun l hl hk => ht.readInteger hl hk) (hs.of_names rfl rfl)
    cases hts
  | known hv => exact ⟨⟨_, rfl, hs.known _ _ hv⟩, hs.taken _⟩
  | undefined => exact ⟨⟨_, rfl, 0, rfl⟩, (hs.taken _).recordedAll _ [_]⟩
  | @learned s s' name expression given v _ he _ ih =>
    obtain ⟨⟨_, ⟨⟩, hv⟩, hs'⟩ := ih (hs.of_resolve ht he) (hs.entered name)
    exact ⟨⟨_, rfl, hv⟩, (hs'.of_names rfl rfl : (s'.left name).Readable).learnt name hv⟩
  | failed _ he _ ih =>
    obtain ⟨⟨_, hv, -⟩, -⟩ := ih (hs.of_resolve ht he) (hs.entered _)
    cases hv

end GameSource
