import GameSource.Proofs.Session.Served
import GameSource.Proofs.Session.Valued
/-!
# What stops a session

A number that is too long stops every evaluation of an expression that has it (`Runs.evaluate_long`), and so a name
that is pending with such an expression stops what asks for it (`Runs.read_blocked`).  An expression without long
numbers whose names are all known is not stopped, whatever is pending (`Runs.settles`).  Whole evaluations come to the
same (`evaluateIn_long`, `evaluateIn_settled`, `DefineTable.evaluate_settled`).
-/
namespace GameSource

open SessionStep

/-! ## Long numbers -/

/-- A number in the tokens is put out, wherever it stands. -/
theorem Postfix.mem_ofTokensFrom_number {t : Token} (hk : t.kind = .number) : ∀ {waiting ts : List Token}, t ∈ ts →
    t ∈ (ofTokensFrom waiting ts).tokens
  | _, [], h => by cases h
  | waiting, u :: ts, h => by
    unfold ofTokensFrom
    rcases List.mem_cons.1 h with rfl | h
    · rw [if_pos (by simp [Token.isOperator, hk])]
      exact List.mem_append_left _ (List.mem_singleton_self t)
    have ih (waiting : List Token) : t ∈ (ofTokensFrom waiting ts).tokens := mem_ofTokensFrom_number hk h
    split
    · exact List.mem_append_right _ (ih _)
    split
    · exact ih _
    split
    · refine List.mem_append_right _ ?_
      split <;> exact ih _
    · exact List.mem_append_right _ (ih _)

/-- A number that cannot be read stops an evaluation, wherever it stands. -/
theorem Evaluation.exists_error {t : Token} (hk : t.kind = .number) {e : DigitLimit}
    (ht : readInteger t.text = .error e) :
    ∀ {ts : List Token} (values : List Int), t ∈ ts → ∃ e', (ofTokensFrom values ts).value = .error e'
  | [], _, h => by cases h
  | u :: ts, values, h => by
    unfold ofTokensFrom
    rcases List.mem_cons.1 h with rfl | h
    · rw [hk]
      simp only [ht]
      exact ⟨e, rfl⟩
    have ih (values : List Int) := exists_error hk ht values h
    split
    · exact ih values
    · split
      · exact ih _
      · exact ih _
    · split
      · exact ⟨_, rfl⟩
      · exact ih _

/-- An expression with long numbers has a lexeme that cannot be read. -/
theorem exists_unreadable {expression : Text} (h : ¬ HasShortNumbers expression) :
    ∃ l ∈ (lexemes expression).1, l.kind = .number ∧ ∃ e, readInteger l.text = .error e := by
  unfold HasShortNumbers at h
  push Not at h
  obtain ⟨l, hl, hk, n, hn, hbase, hlong⟩ := h
  refine ⟨l, hl, hk, .reading n.digits.length, ?_⟩
  rw [readInteger_word (isAsciiWord_of_number hl hk), hn]
  exact if_pos ⟨hbase, hlong⟩

/-- The numbers of lexemes are among their tokens. -/
theorem Runs.exists_token {context : Text} {l : Lexeme} (hk : l.kind = .number) : ∀ {ls : List Lexeme} {s s' : Session}
    {r : Except DigitLimit (List Token)}, Runs (.read context ls) s r s' → l ∈ ls → ∀ ts, r = .ok ts →
      ∃ t ∈ ts, t.kind = .number ∧ t.text = l.text
  | [], _, _, _, _, h => by cases h
  | m :: ms, s, s', r, hruns, h => by
    intro ts hr
    cases hruns with
    | unanswered => cases hr
    | unwritten => cases hr
    | @sign _ _ _ _ _ t r hm ht hs =>
      cases r with
      | error e => cases hr
      | ok us =>
        cases hr
        rcases List.mem_cons.1 h with rfl | h
        · rw [Token.ofLexeme_number hk] at ht
          cases ht
          exact ⟨_, List.mem_cons_self, rfl, rfl⟩
        · obtain ⟨t, ht, htoken⟩ := exists_token hk hs h us rfl
          exact ⟨t, List.mem_cons_of_mem _ ht, htoken⟩
    | @name _ _ _ _ _ _ a t r hm ha _ hs =>
      cases r with
      | error e => cases hr
      | ok us =>
        cases hr
        rcases List.mem_cons.1 h with rfl | h
        · rw [hk] at hm
          cases hm
        · obtain ⟨t, ht, htoken⟩ := exists_token hk hs h us rfl
          exact ⟨t, List.mem_cons_of_mem _ ht, htoken⟩

/-- **A long number stops the evaluation of an expression.** -/
theorem Runs.evaluate_long {context expression : Text} {s s' : Session} {r : Except DigitLimit Int}
    (h : Runs (.evaluate context expression) s r s') (hlong : ¬ HasShortNumbers expression) : ∃ e, r = .error e := by
  obtain ⟨l, hl, hk, e, he⟩ := exists_unreadable hlong
  cases h with
  | unread => exact ⟨_, rfl⟩
  | value hread =>
    obtain ⟨t, ht, htk, htext⟩ := hread.exists_token hk hl _ rfl
    exact Evaluation.exists_error htk (htext ▸ he) [] (Postfix.mem_ofTokensFrom_number htk ht)

section
variable {name expression : Text} {s s' : Session}

/-- A name that is not known cannot be resolved if its expression has a long number. -/
theorem Runs.resolve_long {given : Option Text} {r : Except DigitLimit Int} (h : Runs (.resolve name given) s r s')
    (hk : s.known.find? name = none) (he : given.or (s.pending.find? name) = some expression)
    (hlong : ¬ HasShortNumbers expression) : ∃ e, r = .error e := by
  cases h with
  | known hv =>
    rw [hk] at hv
    cases hv
  | undefined _ hp =>
    rw [hp] at he
    cases he
  | learned _ he' hv =>
    obtain rfl := Option.some.inj (he'.symm.trans he)
    obtain ⟨e, h⟩ := hv.evaluate_long hlong
    cases h
  | failed => exact ⟨_, rfl⟩

/-- One name is pending, it is not known, and its expression has a long number. -/
structure Session.Blocked (s : Session) (name expression : Text) : Prop where
  pending : s.pending = [(name, expression)]
  known : s.known.find? name = none
  resolving : s.resolving = []
  long : ¬ HasShortNumbers expression

namespace Session.Blocked

theorem of_names (h : s.Blocked name expression) (hp : s'.pending = s.pending) (hk : s'.known = s.known)
    (hr : s'.resolving = s.resolving) : s'.Blocked name expression :=
  ⟨hp ▸ h.pending, hk ▸ h.known, hr ▸ h.resolving, h.long⟩

/-- Looking up another name changes nothing. -/
theorem look_other (h : s.Blocked name expression) {context other : Text} (hne : other ≠ name)
    {r : Except DigitLimit (Option Int)} (hruns : Runs (.look context other) s r s') : s'.Blocked name expression := by
  have hpending : s.pending.contains other = false := by
    rw [h.pending, Entries.contains, Entries.find?, if_neg (Ne.symm hne)]
    rfl
  cases hruns with
  | circular hr =>
    rw [h.resolving] at hr
    cases hr
  | settled => exact h.of_names (by simp) (by simp) (by simp)
  | resolved _ hp =>
    rw [hpending] at hp
    cases hp
  | unresolved _ hp =>
    rw [hpending] at hp
    cases hp

/-- Looking up the name itself is stopped. -/
theorem look_self (h : s.Blocked name expression) {context : Text} {r : Except DigitLimit (Option Int)}
    (hruns : Runs (.look context name) s r s') : ∃ e, r = .error e := by
  have hpending : s.pending.find? name = some expression := by rw [h.pending, Entries.find?, if_pos rfl]
  cases hruns with
  | circular hr =>
    rw [h.resolving] at hr
    cases hr
  | settled _ hp =>
    rw [Entries.contains, hpending] at hp
    cases hp
  | resolved _ _ hr =>
    obtain ⟨e, he⟩ := hr.resolve_long h.known hpending h.long
    cases he
  | unresolved => exact ⟨_, rfl⟩

end Session.Blocked

/-- **Lexemes among which the name is cannot be read.** -/
theorem Runs.read_blocked {context : Text} {l : Lexeme} (hk : l.kind = .identifier) : ∀ {ls : List Lexeme}
    {s s' : Session} {r : Except DigitLimit (List Token)}, s.Blocked l.text expression →
      Runs (.read context ls) s r s' → l ∈ ls → ∃ e, r = .error e
  | [], _, _, _, _, _, h => by cases h
  | m :: ms, s, s', r, hs, hruns, h => by
    cases hruns with
    | unanswered | unwritten => exact ⟨_, rfl⟩
    | sign hm _ hread =>
      rcases List.mem_cons.1 h with rfl | h
      · exact absurd hk hm
      · obtain ⟨e, rfl⟩ := read_blocked hk (hs.of_names (by simp) (by simp) (by simp)) hread h
        exact ⟨e, rfl⟩
    | name hm ha _ hread =>
      by_cases hself : m.text = l.text
      · rw [hself] at ha
        obtain ⟨e, he⟩ := hs.look_self ha
        cases he
      · rcases List.mem_cons.1 h with rfl | h
        · exact absurd rfl hself
        · obtain ⟨e, rfl⟩ :=
            read_blocked hk ((hs.look_other hself ha).of_names (by simp) (by simp) (by simp)) hread h
          exact ⟨e, rfl⟩

end

/-! ## Values with too many digits -/

/-- **A known value that cannot be written stops the evaluation of an expression that begins with it.** -/
theorem Runs.evaluate_unwritten {context expression : Text} {s : Session} {l : Lexeme} {ls : List Lexeme} {v : Int}
    (hl : (lexemes expression).1 = l :: ls) (hk : l.kind = .identifier) (hres : l.text ∉ s.resolving)
    (hp : s.pending.contains l.text = false) (hv : s.known.find? l.text = some v) (hlong : ¬ FewDigits v) :
    Runs (.evaluate context expression) s (.error .writing)
      ((s.happened (.began context expression)).answered context l.text) := by
  have hlook : Runs (.look context l.text) (s.happened (.began context expression)) (.ok (s.known.find? l.text))
      ((s.happened (.began context expression)).answered context l.text) := .settled hres hp
  rw [hv] at hlook
  refine .unread ?_
  rw [hl]
  exact .unwritten hk hlook (Token.ofLexeme_eq_error_iff.2 ⟨hk, rfl, v, rfl, hlong⟩)

/-! ## Names that are known -/

/-- All names that the task asks for are known, and its numbers can be read. -/
def Task.SettledBy (known : Entries Text Int) : Task → Prop
  | look _ name => known.contains name
  | read _ ls => ∀ l ∈ ls, (l.kind = .identifier → known.contains l.text) ∧
      (l.kind = .number → ∃ v, readInteger l.text = .ok v)
  | evaluate _ expression => HasShortNumbers expression ∧
      ∀ l ∈ (lexemes expression).1, l.kind = .identifier → known.contains l.text
  | resolve name _ => known.contains name

/-- **A task that asks for known names only is not stopped**, whatever is pending, and nothing is learned. -/
theorem Runs.settles {t : Task} {s s' : Session} {r : Except DigitLimit t.Result} (h : Runs t s r s')
    (ht : t.SettledBy s.known) (hs : ∀ e ∈ s.known, IsWord e.2) : (∃ a, r = .ok a ∧ t.Gives a) ∧ s'.known = s.known := by
  induction h with
  | circular =>
    refine ⟨⟨_, rfl, ?_⟩, rfl⟩
    rintro v ⟨⟩
    exact ⟨0, rfl⟩
  | settled => exact ⟨⟨_, rfl, fun v hv => hs _ (Entries.mem_of_find? hv)⟩, by simp⟩
  | resolved _ _ _ ih =>
    obtain ⟨-, hknown⟩ := ih ht hs
    refine ⟨⟨_, rfl, fun v hv => ?_⟩, by simpa using hknown⟩
    rw [hknown] at hv
    exact hs _ (Entries.mem_of_find? hv)
  | unresolved _ _ _ ih =>
    obtain ⟨⟨v, hv, -⟩, -⟩ := ih ht hs
    cases hv
  | nil => exact ⟨⟨_, rfl, by simp [Task.Gives, ReadableTokens]⟩, rfl⟩
  | @sign s s' context l ls t r hk htoken _ ih =>
    have htail : (Task.read context ls).SettledBy s.known := fun l hl => ht l (List.mem_cons_of_mem _ hl)
    obtain ⟨⟨ts, rfl, hts⟩, hknown⟩ := ih (by simpa using htail) (by simpa using hs)
    exact ⟨⟨_, rfl, hts.cons (ht l List.mem_cons_self).2 htoken⟩, by simpa using hknown⟩
  | @name s s₁ s' context l ls a t r hk _ htoken _ iha ihs =>
    have htail : (Task.read context ls).SettledBy s.known := fun l hl => ht l (List.mem_cons_of_mem _ hl)
    obtain ⟨-, hknown₁⟩ := iha ((ht l List.mem_cons_self).1 hk) hs
    obtain ⟨⟨ts, rfl, hts⟩, hknown⟩ := ihs (by simpa [hknown₁] using htail) (by simpa [hknown₁] using hs)
    exact ⟨⟨_, rfl, hts.cons (ht l List.mem_cons_self).2 htoken⟩, by simpa [hknown₁] using hknown⟩
  | @unwritten s s' context l ls a e hk _ htoken ih =>
    obtain ⟨⟨_, ⟨⟩, hanswer⟩, -⟩ := ih ((ht l List.mem_cons_self).1 hk) hs
    obtain ⟨-, -, v, hv, hlong⟩ := Token.ofLexeme_eq_error_iff.1 htoken
    exact absurd (hanswer v hv).fewDigits hlong
  | @unanswered s s' context l ls e hk _ ih =>
    obtain ⟨⟨a, ha, -⟩, -⟩ := ih ((ht l List.mem_cons_self).1 hk) hs
    cases ha
  | value _ ih =>
    obtain ⟨⟨_, ⟨⟩, hts⟩, hknown⟩ := ih (fun l hl => ⟨ht.2 l hl, ht.1.readInteger hl⟩) hs
    exact ⟨hts.exists_value, by simpa using hknown⟩
  | unread _ ih =>
    obtain ⟨⟨ts, hts, -⟩, -⟩ := ih (fun l hl => ⟨ht.2 l hl, ht.1.readInteger hl⟩) hs
    cases hts
  | known hv => exact ⟨⟨_, rfl, hs _ (Entries.mem_of_find? hv)⟩, rfl⟩
  | undefined hk | learned hk | failed hk =>
    have hcontains : Entries.contains _ _ = true := ht
    rw [Entries.contains, hk] at hcontains
    cases hcontains

/-! ## Requests -/

/-- Requests for known names are not stopped. -/
theorem RunsAll.settles {names : List Text} {values : Entries Text Int} {s s' : Session}
    {r : Except DigitLimit (Entries Text Int)} (h : RunsAll names values s r s') (hn : ∀ n ∈ names, s.known.contains n)
    (hs : ∀ e ∈ s.known, IsWord e.2) : ∃ vs, r = .ok vs := by
  induction h with
  | nil => exact ⟨_, rfl⟩
  | blank _ _ _ ih => exact ih (fun n hmem => hn n (List.mem_cons_of_mem _ hmem)) hs
  | missing _ _ _ ih => exact ih (fun n hmem => hn n (List.mem_cons_of_mem _ hmem)) hs
  | @value s s₁ s' name names values v r _ hv _ ih =>
    obtain ⟨-, hknown⟩ := hv.settles (hn name List.mem_cons_self) hs
    have htold : (s₁.told name).known = s.known := by rw [Session.told_known, hknown, Session.taken_known]
    rw [htold] at ih
    exact ih (fun n hmem => hn n (List.mem_cons_of_mem _ hmem)) hs
  | @stopped s s₁ name names values e _ hv =>
    obtain ⟨⟨v, hv, -⟩, -⟩ := hv.settles (hn name List.mem_cons_self) hs
    cases hv

/-! ## Whole evaluations -/

/-- What evaluating an expression comes to, it comes to as a whole. -/
theorem fst_evaluateIn {s s' : Session} {expression : Text} {r : Except DigitLimit Int}
    (h : Runs (.evaluate "<expression>".toList expression) s r s') : (evaluateIn s expression).1 = r := by
  have hsteps : Ensures (do
      let v ← evaluate expression
      tellProblems "<expression>".toList
      return v) s fun q _ => q = r := by
    cases r with
    | ok v => exact .of_bind_eq (evaluate_eq h) (.of_bind_eq tellProblems_eq (.of_pure rfl))
    | error e => exact .of_bind_error (evaluate_eq h) rfl
  exact hsteps

theorem fst_evaluate {table : DefineTable} {values : Entries Text Int} {text filename : Text} {s' : Session}
    {r : Except DigitLimit (Entries Text Int)}
    (h : RunsAll table.matched [] (.start table.expressions values text filename) r s') :
    (table.evaluate values text filename).1 = r := (requests_eq h).1

/-- A long number stops the evaluation in every session. -/
theorem evaluateIn_long {expression : Text} (h : ¬ HasShortNumbers expression) (s : Session) :
    ∃ e, (evaluateIn s expression).1 = .error e := by
  obtain ⟨r, s', hruns⟩ := exists_runs (.evaluate "<expression>".toList expression) s
  rw [fst_evaluateIn hruns]
  exact hruns.evaluate_long h

/-- An expression that mentions the blocked name is not evaluated. -/
theorem Session.Blocked.evaluateIn {s : Session} {name definition expression : Text} (h : s.Blocked name definition)
    {l : Lexeme} (hl : l ∈ (lexemes expression).1) (hk : l.kind = .identifier) (hname : l.text = name) :
    ∃ e, (evaluateIn s expression).1 = .error e := by
  subst hname
  obtain ⟨r, s', hruns⟩ := exists_runs (.evaluate "<expression>".toList expression) s
  rw [fst_evaluateIn hruns]
  have hbegan : (s.happened (.began "<expression>".toList expression)).Blocked l.text definition :=
    h.of_names (by simp) (by simp) (by simp)
  cases hruns with
  | unread => exact ⟨_, rfl⟩
  | value hread =>
    obtain ⟨e, he⟩ := hread.read_blocked hk hbegan hl
    cases he

/-- An expression that asks for known names only is evaluated, whatever is pending. -/
theorem evaluateIn_settled {s : Session} {expression : Text}
    (h : (Task.evaluate "<expression>".toList expression).SettledBy s.known) (hwords : ∀ e ∈ s.known, IsWord e.2) :
    ∃ v, (evaluateIn s expression).1 = .ok v := by
  obtain ⟨r, s', hruns⟩ := exists_runs (.evaluate "<expression>".toList expression) s
  rw [fst_evaluateIn hruns]
  obtain ⟨⟨v, hv, -⟩, -⟩ := hruns.settles h hwords
  exact ⟨v, hv⟩

/-- A table of which only known names are asked for is evaluated. -/
theorem DefineTable.evaluate_settled {table : DefineTable} {values : Entries Text Int} {text filename : Text}
    (hn : ∀ n ∈ table.matched, (Session.constants.putAll values).contains n)
    (hwords : ∀ e ∈ Session.constants.putAll values, IsWord e.2) :
    ∃ vs, (table.evaluate values text filename).1 = .ok vs := by
  obtain ⟨r, s', hruns⟩ := exists_runsAll table.matched [] (.start table.expressions values text filename)
  rw [fst_evaluate hruns]
  exact hruns.settles hn hwords

end GameSource
