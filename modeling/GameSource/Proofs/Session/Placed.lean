import GameSource.Proofs.Session.Kept
import GameSource.Proofs.Expr.Outcome
/-!
# Problems with a name's own expression

Whatever is requested of a session, what it records of a name it met in the expression of that name, or there was none
to meet it in: the fragment at which the problem is looked for is a part of the expression (`Session.Confines.after`).
This takes that no request gives the name another expression than the one it has pending (`Request.Leaves`).
-/
namespace GameSource

open SessionStep

/-- The problem is met in the expression, or that the name has none. -/
def Problem.IsWith (name expression : Text) (p : Problem) : Prop :=
  p.fragment <:+: expression ∨ p = .noDefinition name

namespace Session

/-- The name has no other expression pending, and what was recorded of it was met in that one and looked for in the
text. -/
structure Confines (text name expression : Text) (s : Session) : Prop where
  text : s.text = text
  pending : ∀ x, s.pending.find? name = some x → x = expression
  recorded : ∀ d, .recorded name d ∈ s.journal → ∃ p, p.IsWith name expression ∧ d = diagnose s p

end Session

/-- A task for the name is about a part of its expression. -/
def Task.IsWithin (name expression : Text) : Task → Prop
  | look context n => context = name → n <:+: expression
  | read context ls => context = name → ∀ l ∈ ls, l.text <:+: expression ∧ l.rest <:+: expression
  | evaluate context x => context = name → x = expression
  | resolve n given => n = name → ∀ x, given = some x → x = expression

/-- A lexeme of an expression, and the expression from it on, are parts of it. -/
theorem infix_of_mem_lexemes {l : Lexeme} {t : Text} (h : l ∈ (lexemes t).1) : l.text <:+: t ∧ l.rest <:+: t := by
  obtain ⟨hrest, htext⟩ := suffix_of_mem_lexemesFrom h
  have hwithin : l.rest <:+: t := hrest.isInfix.trans (trim_within t)
  exact ⟨htext.isInfix.trans hwithin, hwithin⟩

namespace Session.Confines

variable {text name expression context n rest : Text} {s : Session}

/-- What is said of other names changes nothing. -/
theorem of_same {s' : Session} (h : s.Confines text name expression) (hp : s'.pending = s.pending)
    (ht : s'.text = s.text) (hf : s'.filename = s.filename)
    (hj : ∀ d, .recorded name d ∈ s'.journal → .recorded name d ∈ s.journal) : s'.Confines text name expression where
  text := ht.trans h.text
  pending x hx := h.pending x (hp ▸ hx)
  recorded d hd := by
    obtain ⟨p, hp, rfl⟩ := h.recorded d (hj d hd)
    exact ⟨p, hp, by simp only [diagnose, ht, hf]⟩

theorem happened (h : s.Confines text name expression) {e : SessionEvent} (he : ∀ c d, e ≠ .recorded c d) :
    (s.happened e).Confines text name expression :=
  h.of_same rfl rfl rfl fun d hd => (List.mem_cons.1 hd).resolve_left fun heq => he name d heq.symm

theorem record (h : s.Confines text name expression) {p : Problem} (hp : context = name → p.IsWith name expression) :
    (s.recorded context p).Confines text name expression where
  text := h.text
  pending := h.pending
  recorded d hd := by
    rcases List.mem_cons.1 hd with heq | hd
    · cases heq
      exact ⟨p, hp rfl, rfl⟩
    · exact h.recorded d hd

theorem recordAll : ∀ {ps : List Problem} {s : Session}, s.Confines text name expression →
    (∀ p ∈ ps, context = name → p.IsWith name expression) → (s.recordedAll context ps).Confines text name expression
  | [], _, h, _ => h
  | p :: _, _, h, hps => by
    rw [recordedAll_cons]
    exact (h.record (hps p List.mem_cons_self)).recordAll fun q hq => hps q (List.mem_cons_of_mem p hq)

theorem lexeme (h : s.Confines text name expression) {l : Lexeme} {answer : Option Int}
    (hl : context = name → l.rest <:+: expression) :
    (s.recordedAll context (Problem.ofLexeme? l answer).toList).Confines text name expression := by
  refine h.recordAll fun p hp hc => .inl ?_
  unfold Problem.ofLexeme? at hp
  split at hp
  · rw [List.mem_singleton.1 hp]
    exact hl hc
  · split at hp
    · cases hp
    · rw [List.mem_singleton.1 hp]
      exact hl hc
  · cases hp

theorem answered (h : s.Confines text name expression) (context n : Text) :
    (s.answered context n).Confines text name expression := by
  obtain ⟨errors, hcopied⟩ := copied_eq s context n
  rw [Session.answered, hcopied]
  exact h.of_same rfl rfl rfl fun d hd => (List.mem_cons.1 hd).resolve_left (by simp)

/-- Problems with the order and the values of tokens are looked for nowhere. -/
theorem concluded (h : s.Confines text name expression) (context rest : Text) (ts : List Token) :
    (s.concluded context rest ts).Confines text name expression := by
  have hempty {p : Problem} (hp : p.fragment = []) : context = name → p.IsWith name expression :=
    fun _ => .inl (hp ▸ List.nil_infix)
  have htokens {s : Session} (h : s.Confines text name expression) :
      ((s.recordedAll context (Postfix.ofTokens ts).problems).recordedAll context
        (Evaluation.ofTokens (Postfix.ofTokens ts).tokens).problems).Confines text name expression :=
    (h.recordAll fun p hp => hempty (Postfix.eq_of_mem_problems hp ▸ rfl)).recordAll fun p hp =>
      hempty (Evaluation.eq_of_mem_problems hp ▸ rfl)
  unfold Session.concluded
  split
  · exact htokens h
  · exact htokens (h.happened (by simp))

theorem taken (h : s.Confines text name expression) (n : Text) : (s.taken n).Confines text name expression where
  text := h.text
  pending x hx := h.pending x ((Keeps.taken s n).pending_eq_some hx)
  recorded := h.recorded

theorem told (h : s.Confines text name expression) (n : Text) : (s.told n).Confines text name expression := by
  rcases told_eq s n with heq | ⟨ds, heq⟩
  · rwa [heq]
  · rw [heq]
    exact h.happened (by simp)

end Session.Confines

/-- **What a task records of a name was met in its expression.** -/
theorem Runs.confines {t : Task} {s s' : Session} {r : Except DigitLimit t.Result} {text name expression : Text}
    (h : Runs t s r s') (hs : s.Confines text name expression) (ht : t.IsWithin name expression) :
    s'.Confines text name expression := by
  -- A pending name is resolved from its own expression.
  have hown {n e : Text} {given : Option Text} {s : Session} (hs : s.Confines text name expression)
      (ht : (Task.resolve n given).IsWithin name expression) (he : given.or (s.pending.find? n) = some e) :
      (Task.evaluate n e).IsWithin name expression := by
    intro hn
    rcases Option.or_eq_some_iff.1 he with hgiven | ⟨-, hpending⟩
    · exact ht hn e hgiven
    · exact hs.pending e (hn ▸ hpending)
  induction h with
  | @circular s context n _ =>
    have hmet (hc : context = name) : (Problem.circularDependency n).IsWith name expression := .inl (ht hc)
    exact (hs.record hmet).happened (by simp)
  | settled => exact hs.answered _ _
  | resolved _ _ _ ih => exact (ih hs fun _ _ h => by cases h).answered _ _
  | unresolved _ _ _ ih => exact ih hs fun _ _ h => by cases h
  | nil => exact hs
  | @sign s s' context l ls t r _ _ _ ih =>
    exact ih (hs.lexeme fun hc => (ht hc l List.mem_cons_self).2)
      fun hc l' hl' => ht hc l' (List.mem_cons_of_mem l hl')
  | @name s s₁ s' context l ls a t r _ _ _ _ iha ihs =>
    exact ihs ((iha hs fun hc => (ht hc l List.mem_cons_self).1).lexeme fun hc => (ht hc l List.mem_cons_self).2)
      fun hc l' hl' => ht hc l' (List.mem_cons_of_mem l hl')
  | @unwritten s s' context l ls a e _ _ _ ih => exact ih hs fun hc => (ht hc l List.mem_cons_self).1
  | @unanswered s s' context l ls e _ _ ih => exact ih hs fun hc => (ht hc l List.mem_cons_self).1
  | value _ ih =>
    exact (ih (hs.happened (by simp)) fun hc l hl => ht hc ▸ infix_of_mem_lexemes hl).concluded _ _ _
  | unread _ ih => exact ih (hs.happened (by simp)) fun hc l hl => ht hc ▸ infix_of_mem_lexemes hl
  | known => exact hs.taken _
  | undefined => exact (hs.taken _).record fun hn => .inr (hn ▸ rfl)
  | learned _ he _ ih =>
    have hlearned := ih ((hs.taken _).of_same rfl rfl rfl fun _ => id) (hown hs ht he)
    exact hlearned.of_same rfl rfl rfl fun _ => id
  | failed _ he _ ih =>
    have hfailed := ih ((hs.taken _).of_same rfl rfl rfl fun _ => id) (hown hs ht he)
    exact hfailed.of_same rfl rfl rfl fun _ => id

/-! ## Requests -/

/-- The request gives the name no other expression. -/
def Request.Leaves (name expression : Text) : Request → Prop
  | resolve n given => n = name → ∀ x, given = some x → x = expression
  | evaluate x context => context = name → x = expression
  | _ => True

theorem RunsAll.confines {names : List Text} {values : Entries Text Int} {s s' : Session} {text name expression : Text}
    {r : Except DigitLimit (Entries Text Int)} (h : RunsAll names values s r s')
    (hs : s.Confines text name expression) : s'.Confines text name expression := by
  have hpending {n : Text} {s : Session} (hs : s.Confines text name expression) :
      (Task.resolve n (s.pending.find? n)).IsWithin name expression := fun hn x hx => hs.pending x (hn ▸ hx)
  induction h with
  | nil => exact hs
  | blank _ _ _ ih => exact ih (hs.taken _)
  | missing _ _ _ ih => exact ih ((hs.taken _).happened (by simp))
  | value _ hv _ ih => exact ih ((hv.confines (hs.taken _) (hpending hs)).told _)
  | stopped _ hv => exact hv.confines (hs.taken _) (hpending hs)

theorem Serves.confines {q : Request} {s s' : Session} {r : Except DigitLimit Reply} {text name expression : Text}
    (h : Serves q s r s') (hs : s.Confines text name expression) (hq : q.Leaves name expression) :
    s'.Confines text name expression := by
  cases h with
  | resolve h => exact h.confines hs hq
  | resolveAll h => exact h.confines hs
  | evaluate h => exact h.confines hs hq
  | tellProblems => exact hs.told _

namespace Session

variable {text name expression : Text}

theorem Confines.after : ∀ {qs : List Request} {s : Session}, s.Confines text name expression →
    (∀ q ∈ qs, q.Leaves name expression) → (s.after qs).Confines text name expression
  | [], _, hs, _ => hs
  | q :: _, s, hs, hqs => by
    have hone : (q.step.run.run s).2.Confines text name expression :=
      (serves_iff.2 rfl : Serves q s _ _).confines hs (hqs q List.mem_cons_self)
    exact hone.after fun q' hq' => hqs q' (List.mem_cons_of_mem q hq')

end Session

end GameSource
