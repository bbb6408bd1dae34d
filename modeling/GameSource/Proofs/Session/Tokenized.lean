import GameSource.Proofs.Define.Named
import GameSource.Proofs.Session.Stopped
/-!
# How an expression becomes tokens

The lexemes of an expression become its tokens one after the other, and their problems are told on the way.  Only names
ask for something: whoever answers them may do so as it likes each time (`Resolver`).  So the tokens are the lexemes into
which the text is cut, but for the names that are answered, whether values are given or a session looks them up
(`tokenize_cuts`); and what is left of the text is told, once.
-/
namespace GameSource

open SessionStep

/-! ## Operators -/

theorem Operator.ofText?_eq_some_iff {t : Text} {op : Operator} : ofText? t = some op ↔ t = op.text := by
  constructor
  · exact fun h => (beq_iff_eq.1 (List.find?_some (p := fun op : Operator => op.text == t) h)).symm
  · rintro rfl
    exact ofText?_text op

theorem Operator.ofText?_eq_none_iff {t : Text} : ofText? t = none ↔ ∀ op : Operator, t ≠ op.text := by
  simp only [Option.eq_none_iff_forall_ne_some, ne_eq, ofText?_eq_some_iff]

/-! ## Resolvers -/

/-- Who answers names and is told problems.  Both may leave it in another state, on which the next answers depend. -/
structure Resolver (σ : Type) where
  /-- Asked for the name, it may give the answer, or be stopped, and be in the second state then. -/
  Answers : σ → Text → Except DigitLimit (Option Int) → σ → Prop
  tell : σ → Problem → σ

namespace Resolver

variable {σ : Type}

/-- Values that are given; the problems told are kept in order. -/
def ofValues (values : Text → Option Int) : Resolver (List Problem) where
  Answers told name answer told' := answer = .ok (values name) ∧ told' = told
  tell told p := told ++ [p]

/-- A session that looks names up and records problems for `context`. -/
def ofLookup (lookup : Text → SessionStep (Option Int)) (context : Text) : Resolver Session where
  Answers s name answer s' := (lookup name).run.run s = (answer, s')
  tell := Session.recorded context

/-- Nothing stops an answer, and the values have few digits. -/
def Brief (r : Resolver σ) : Prop :=
  ∀ s name answer s', r.Answers s name answer s' → ∃ a, answer = .ok a ∧ ∀ v ∈ a, FewDigits v

/-- `r.Step s l t s'`: the lexeme becomes the token.  That is the same text, but for a name that has a value; a name
without one and a run of operator characters that is no operator are told. -/
inductive Step (r : Resolver σ) : σ → Lexeme → Token → σ → Prop where
  | number {s : σ} {w t : Text} : Step r s ⟨.number, w, t⟩ ⟨w, .number, none⟩ s
  | answered {s s' : σ} {w t : Text} {v : Int} (h : r.Answers s w (.ok (some v)) s') (hv : FewDigits v) :
      Step r s ⟨.identifier, w, t⟩ ⟨decimalText v, .number, none⟩ s'
  | unanswered {s s' : σ} {w t : Text} (h : r.Answers s w (.ok none) s') :
      Step r s ⟨.identifier, w, t⟩ ⟨w, .error, none⟩ (r.tell s' (.unknownToken w t))
  | operator {s : σ} {t : Text} (op : Operator) :
      Step r s ⟨.operator, op.text, t⟩ ⟨op.text, .operator, some op.precedence⟩ s
  | unsupported {s : σ} {w t : Text} (h : ∀ op : Operator, w ≠ op.text) :
      Step r s ⟨.operator, w, t⟩ ⟨w, .operator, none⟩ (r.tell s (.unsupportedOperator w t))
  | parenthesis {s : σ} {w t : Text} : Step r s ⟨.parenthesis, w, t⟩ ⟨w, .operator, none⟩ s

/-- `r.Halts s l e s'`: the lexeme is a name that becomes no token, since its answer was stopped or has too many
digits. -/
inductive Halts (r : Resolver σ) : σ → Lexeme → DigitLimit → σ → Prop where
  | stopped {s s' : σ} {w t : Text} {e : DigitLimit} (h : r.Answers s w (.error e) s') :
      Halts r s ⟨.identifier, w, t⟩ e s'
  | unwritten {s s' : σ} {w t : Text} {v : Int} (h : r.Answers s w (.ok (some v)) s') (hv : ¬ FewDigits v) :
      Halts r s ⟨.identifier, w, t⟩ .writing s'

/-- `r.Reads s ls outcome s'`: the lexemes become the tokens, one by one, up to the first that becomes none. -/
inductive Reads (r : Resolver σ) : σ → List Lexeme → Except DigitLimit (List Token) → σ → Prop where
  | nil {s : σ} : Reads r s [] (.ok []) s
  | cons {s s₁ s' : σ} {l : Lexeme} {t : Token} {ls : List Lexeme} {outcome : Except DigitLimit (List Token)}
      (h : r.Step s l t s₁) (hs : Reads r s₁ ls outcome s') : Reads r s (l :: ls) (outcome.map (t :: ·)) s'
  | halted {s s' : σ} {l : Lexeme} {ls : List Lexeme} {e : DigitLimit} (h : r.Halts s l e s') :
      Reads r s (l :: ls) (.error e) s'

/-- Lexemes whose names have short answers all become tokens. -/
theorem Reads.exists_tokens {r : Resolver σ} (hr : r.Brief) {s s' : σ} {ls : List Lexeme}
    {outcome : Except DigitLimit (List Token)} (h : r.Reads s ls outcome s') : ∃ tokens, outcome = .ok tokens := by
  induction h with
  | nil => exact ⟨[], rfl⟩
  | cons _ _ ih =>
    obtain ⟨tokens, rfl⟩ := ih
    exact ⟨_, rfl⟩
  | halted h =>
    cases h with
    | stopped h =>
      obtain ⟨a, ha, -⟩ := hr _ _ _ _ h
      cases ha
    | unwritten h hv =>
      obtain ⟨a, ⟨⟩, ha⟩ := hr _ _ _ _ h
      exact absurd (ha _ rfl) hv

/-! ## One lexeme -/

/-- The answer to a name; other lexemes ask for none. -/
def AnswersTo (r : Resolver σ) (s : σ) (l : Lexeme) (answer : Except DigitLimit (Option Int)) (s' : σ) : Prop :=
  if l.kind = .identifier then r.Answers s l.text answer s' else answer = .ok none ∧ s' = s

theorem step_iff {r : Resolver σ} {s s' : σ} {l : Lexeme} {t : Token} : r.Step s l t s' ↔
    ∃ answer s₁, r.AnswersTo s l (.ok answer) s₁ ∧ Token.ofLexeme l answer = .ok t ∧
      s' = (Problem.ofLexeme? l answer).toList.foldl r.tell s₁ := by
  constructor
  · intro h
    cases h with
    | number => exact ⟨none, s, ⟨rfl, rfl⟩, rfl, rfl⟩
    | answered h hv => exact ⟨_, s', h, Token.ofLexeme_name rfl hv, rfl⟩
    | unanswered h => exact ⟨none, _, h, rfl, rfl⟩
    | operator op =>
      refine ⟨none, s, ⟨rfl, rfl⟩, ?_, ?_⟩
      · simp [Token.ofLexeme, Operator.ofText?_text]
      · simp [Problem.ofLexeme?, Operator.ofText?_text]
    | unsupported h =>
      have hnone := Operator.ofText?_eq_none_iff.2 h
      refine ⟨none, s, ⟨rfl, rfl⟩, ?_, ?_⟩
      · simp [Token.ofLexeme, hnone]
      · simp [Problem.ofLexeme?, hnone]
    | parenthesis => exact ⟨none, s, ⟨rfl, rfl⟩, rfl, rfl⟩
  · rintro ⟨answer, s₁, hanswer, ht, rfl⟩
    obtain ⟨kind, w, rest⟩ := l
    cases kind with
    | number =>
      obtain ⟨⟨⟩, rfl⟩ := hanswer
      cases ht
      exact .number
    | identifier =>
      cases answer with
      | none =>
        cases ht
        exact .unanswered hanswer
      | some v =>
        by_cases hv : FewDigits v
        · rw [Token.ofLexeme_name rfl hv] at ht
          cases ht
          exact .answered hanswer hv
        · cases ht.symm.trans (Token.ofLexeme_eq_error_iff.2 ⟨rfl, rfl, v, rfl, hv⟩)
    | operator =>
      obtain ⟨⟨⟩, rfl⟩ := hanswer
      cases ht
      cases hop : Operator.ofText? w with
      | none =>
        simp only [Problem.ofLexeme?, hop]
        exact .unsupported (Operator.ofText?_eq_none_iff.1 hop)
      | some op =>
        obtain rfl := Operator.ofText?_eq_some_iff.1 hop
        simp only [Problem.ofLexeme?, hop]
        exact .operator op
    | parenthesis =>
      obtain ⟨⟨⟩, rfl⟩ := hanswer
      cases ht
      exact .parenthesis

theorem halts_iff {r : Resolver σ} {s s' : σ} {l : Lexeme} {e : DigitLimit} : r.Halts s l e s' ↔
    r.AnswersTo s l (.error e) s' ∨ ∃ answer, r.AnswersTo s l (.ok answer) s' ∧ Token.ofLexeme l answer = .error e := by
  constructor
  · intro h
    cases h with
    | stopped h => exact .inl h
    | unwritten h hv => exact .inr ⟨_, h, Token.ofLexeme_eq_error_iff.2 ⟨rfl, rfl, _, rfl, hv⟩⟩
  · obtain ⟨kind, w, rest⟩ := l
    rintro (h | ⟨answer, h, ht⟩)
    · cases kind with
      | identifier => exact .stopped h
      | number | operator | parenthesis => cases h.1
    · obtain ⟨hk, rfl, v, rfl, hv⟩ := Token.ofLexeme_eq_error_iff.1 ht
      cases hk
      exact .unwritten h hv

/-! ## Values that are given -/

theorem answersTo_ofValues_iff {values : Text → Option Int} {told told' : List Problem} {l : Lexeme}
    {answer : Except DigitLimit (Option Int)} :
    (ofValues values).AnswersTo told l answer told' ↔ answer = .ok (l.answer values) ∧ told' = told := by
  unfold AnswersTo Lexeme.answer
  by_cases hk : l.kind = .identifier
  · rw [if_pos hk, if_pos hk]
    exact Iff.rfl
  · rw [if_neg hk, if_neg hk]

theorem foldl_tell_ofValues (values : Text → Option Int) (told : List Problem) : ∀ p : Option Problem,
    p.toList.foldl (ofValues values).tell told = told ++ p.toList
  | none => (List.append_nil told).symm
  | some _ => rfl

section
variable (values : Text → Option Int)

/-- The token of a lexeme over given values. -/
def token (l : Lexeme) : Except DigitLimit Token := Token.ofLexeme l (l.answer values)

/-- The problems of the lexemes that are read. -/
def problemsOf (ls : List Lexeme) : List Problem :=
  (ls.takeWhile fun l => (token values l).isOk).filterMap fun l => Problem.ofLexeme? l (l.answer values)

variable {values}

theorem step_ofValues_iff {told told' : List Problem} {l : Lexeme} {t : Token} :
    (ofValues values).Step told l t told' ↔
      token values l = .ok t ∧ told' = told ++ (Problem.ofLexeme? l (l.answer values)).toList := by
  rw [step_iff]
  constructor
  · rintro ⟨answer, told₁, hanswer, ht, rfl⟩
    obtain ⟨⟨⟩, rfl⟩ := answersTo_ofValues_iff.1 hanswer
    exact ⟨ht, foldl_tell_ofValues values told₁ _⟩
  · rintro ⟨ht, rfl⟩
    exact ⟨_, told, answersTo_ofValues_iff.2 ⟨rfl, rfl⟩, ht, (foldl_tell_ofValues values told _).symm⟩

theorem halts_ofValues_iff {told told' : List Problem} {l : Lexeme} {e : DigitLimit} :
    (ofValues values).Halts told l e told' ↔ token values l = .error e ∧ told' = told := by
  rw [halts_iff]
  constructor
  · rintro (hanswer | ⟨answer, hanswer, ht⟩)
    · cases (answersTo_ofValues_iff.1 hanswer).1
    · obtain ⟨⟨⟩, rfl⟩ := answersTo_ofValues_iff.1 hanswer
      exact ⟨ht, rfl⟩
  · rintro ⟨ht, rfl⟩
    exact .inr ⟨_, answersTo_ofValues_iff.2 ⟨rfl, rfl⟩, ht⟩

/-- Values given once and for all make every lexeme a token of its own, up to one that becomes none. -/
theorem reads_ofValues_iff {ls : List Lexeme} : ∀ {told told' : List Problem}
    {outcome : Except DigitLimit (List Token)}, (ofValues values).Reads told ls outcome told' ↔
      outcome = ls.mapM (token values) ∧ told' = told ++ problemsOf values ls := by
  induction ls with
  | nil =>
    intro told told' outcome
    constructor
    · intro h
      cases h with
      | nil => exact ⟨rfl, (List.append_nil told).symm⟩
    · rintro ⟨rfl, rfl⟩
      rw [problemsOf, List.takeWhile_nil, List.filterMap_nil, List.append_nil]
      exact .nil
  | cons l ls ih =>
    intro told told' outcome
    cases ht : token values l with
    | ok t =>
      have hproblems : problemsOf values (l :: ls) = (Problem.ofLexeme? l (l.answer values)).toList ++
          problemsOf values ls := by
        unfold problemsOf
        rw [List.takeWhile_cons_of_pos (by rw [ht]; rfl)]
        cases hp : Problem.ofLexeme? l (l.answer values) <;> simp [hp]
      have houtcome : (l :: ls).mapM (token values) = (ls.mapM (token values)).map (t :: ·) := by
        rw [List.mapM_cons, ht]
        cases ls.mapM (token values) <;> rfl
      rw [hproblems, houtcome, ← List.append_assoc]
      constructor
      · intro h
        cases h with
        | cons h hs =>
          obtain ⟨htoken, rfl⟩ := step_ofValues_iff.1 h
          cases ht.symm.trans htoken
          obtain ⟨rfl, rfl⟩ := ih.1 hs
          exact ⟨rfl, rfl⟩
        | halted h => cases ht.symm.trans (halts_ofValues_iff.1 h).1
      · rintro ⟨rfl, rfl⟩
        exact .cons (step_ofValues_iff.2 ⟨ht, rfl⟩) (ih.2 ⟨rfl, rfl⟩)
    | error e =>
      have hproblems : problemsOf values (l :: ls) = [] := by
        unfold problemsOf
        rw [List.takeWhile_cons_of_neg (by rw [ht]; exact Bool.false_ne_true), List.filterMap_nil]
      have houtcome : (l :: ls).mapM (token values) = .error e := by
        rw [List.mapM_cons, ht]
        rfl
      rw [hproblems, houtcome, List.append_nil]
      constructor
      · intro h
        cases h with
        | cons h hs => cases ht.symm.trans (step_ofValues_iff.1 h).1
        | halted h =>
          obtain ⟨htoken, rfl⟩ := halts_ofValues_iff.1 h
          cases ht.symm.trans htoken
          exact ⟨rfl, rfl⟩
      · rintro ⟨rfl, rfl⟩
        exact .halted (halts_ofValues_iff.2 ⟨ht, rfl⟩)

theorem tokenize_eq_iff {expression rest : Text} {outcome : Except DigitLimit (List Token)}
    {problems : List Problem} : tokenize values expression = ⟨outcome, problems, rest⟩ ↔
      ∃ ls, Cuts (Text.trim expression) ls rest ∧ (ofValues values).Reads [] ls outcome problems := by
  have htokenize : tokenize values expression = ⟨(lexemes expression).1.mapM (token values),
      problemsOf values (lexemes expression).1, (lexemes expression).2⟩ := rfl
  rw [htokenize, Tokenized.mk.injEq]
  constructor
  · rintro ⟨rfl, rfl, rfl⟩
    exact ⟨_, lexemes_eq_iff.1 rfl, reads_ofValues_iff.2 ⟨rfl, rfl⟩⟩
  · rintro ⟨ls, hcuts, hreads⟩
    obtain ⟨rfl, rfl⟩ := reads_ofValues_iff.1 hreads
    rw [lexemes_eq_iff.2 hcuts]
    exact ⟨rfl, rfl, rfl⟩

end

/-! ## Names that are looked up -/

variable {lookup : Text → SessionStep (Option Int)}

theorem run_answer_iff (context : Text) {s s' : Session} {l : Lexeme} {answer : Except DigitLimit (Option Int)} :
    (if l.kind = .identifier then lookup l.text else pure none : SessionStep (Option Int)).run.run s = (answer, s') ↔
      (ofLookup lookup context).AnswersTo s l answer s' := by
  unfold AnswersTo
  by_cases hk : l.kind = .identifier
  · rw [if_pos hk, if_pos hk]
    exact Iff.rfl
  · rw [if_neg hk, if_neg hk]
    constructor
    · rintro ⟨⟩
      exact ⟨rfl, rfl⟩
    · rintro ⟨rfl, rfl⟩
      rfl

theorem ensures_reads (context : Text) : ∀ {ls : List Lexeme} {s : Session},
    Ensures (tokens lookup context ls) s ((ofLookup lookup context).Reads s ls)
  | [], s => .of_pure .nil
  | l :: ls, s => by
    have hanswer : Ensures (if l.kind = .identifier then lookup l.text else pure none : SessionStep (Option Int)) s
        ((ofLookup lookup context).AnswersTo s l) := (run_answer_iff context).1 rfl
    refine .of_tokens_cons hanswer (fun e s₁ h => .halted (halts_iff.2 (.inl h)))
      (fun a e s₁ h ht => .halted (halts_iff.2 (.inr ⟨a, h, ht⟩))) fun a t s₁ h ht => ?_
    exact (ensures_reads context).mono fun r s' hs => .cons (step_iff.2 ⟨a, s₁, h, ht, rfl⟩) hs

theorem Reads.ensures {context : Text} {s s' : Session} {ls : List Lexeme} {outcome : Except DigitLimit (List Token)}
    (h : (ofLookup lookup context).Reads s ls outcome s') :
    Ensures (tokens lookup context ls) s fun r u => r = outcome ∧ u = s' := by
  have hanswered {s s₁ : Session} {l : Lexeme} {answer : Except DigitLimit (Option Int)}
      (h : (ofLookup lookup context).AnswersTo s l answer s₁) : Ensures (if l.kind = .identifier then lookup l.text
        else pure none : SessionStep (Option Int)) s fun r u => r = answer ∧ u = s₁ :=
    Prod.ext_iff.1 ((run_answer_iff context).2 h)
  induction h with
  | nil => exact .of_pure ⟨rfl, rfl⟩
  | @cons s s₁ s' l t ls outcome h _ ih =>
    obtain ⟨answer, s₂, hanswer, ht, rfl⟩ := step_iff.1 h
    rw [tokens_cons]
    refine .of_bind_eq (hanswered hanswer) ?_
    rw [ht]
    refine .of_bind_eq .ofExcept (.of_bind_eq .recordAll ?_)
    cases outcome with
    | ok ts => exact .of_bind_eq ih (.of_pure ⟨rfl, rfl⟩)
    | error e => exact .of_bind_error ih ⟨rfl, rfl⟩
  | halted h =>
    rw [tokens_cons]
    rcases halts_iff.1 h with hanswer | ⟨answer, hanswer, ht⟩
    · exact .of_bind_error (hanswered hanswer) ⟨rfl, rfl⟩
    · refine .of_bind_eq (hanswered hanswer) ?_
      rw [ht]
      exact .of_bind_error .ofExcept ⟨rfl, rfl⟩

/-- **Reading lexemes in a session makes them tokens one by one**, whatever the lookups do to the session. -/
theorem run_tokens_iff {context : Text} {ls : List Lexeme} {s s' : Session} {outcome : Except DigitLimit (List Token)} :
    (tokens lookup context ls).run.run s = (outcome, s') ↔ (ofLookup lookup context).Reads s ls outcome s' := by
  constructor
  · intro h
    have hreads : (ofLookup lookup context).Reads s ls ((tokens lookup context ls).run.run s).1
        ((tokens lookup context ls).run.run s).2 := ensures_reads context
    rwa [h] at hreads
  · exact fun h => Prod.ext_iff.2 h.ensures

end Resolver

/-! ## What is left unread -/

namespace Session

theorem notices_noticed (s : Session) (n : Notice) : (s.happened (.noticed n)).notices = s.notices ++ [n] := by
  simp [notices]

/-- What is left unread is told, if there is any. -/
theorem notices_concluded (s : Session) (context rest : Text) (ts : List Token) :
    (s.concluded context rest ts).notices = s.notices ++ if rest = [] then [] else [.untokenized rest] := by
  unfold concluded
  rw [notices_recordedAll, notices_recordedAll]
  cases rest with
  | nil => exact (List.append_nil _).symm
  | cons c cs => exact notices_noticed s _

end Session

/-- **An expression is cut into tokens, and nothing of it is lost.**  It is lexemes with white space behind each, and a
rest that is empty or begins with what begins no lexeme.  Each lexeme is a token; a name with a value is the number in
decimal, and told are the names without a value and the runs of operator characters that are no operators, in order.
So it is for values that are given, and for whatever lookups do in a session.  There a rest that is not empty is told
once, behind the lexemes, and the value is that of the tokens before it.  A name whose lookup is stopped, or whose value
has more digits than are written, stops the reading: what was told stays, and nothing behind it is looked up or told.
Where there is no such name all lexemes become tokens. -/
theorem tokenize_cuts :
    (∀ values expression outcome problems rest, tokenize values expression = ⟨outcome, problems, rest⟩ ↔
      ∃ ls, Cuts (Text.trim expression) ls rest ∧ (Resolver.ofValues values).Reads [] ls outcome problems) ∧
    (∀ lookup context expression s outcome s',
      (SessionStep.tokens lookup context (lexemes expression).1).run.run s = (outcome, s') ↔
        ∃ ls rest, Cuts (Text.trim expression) ls rest ∧ (Resolver.ofLookup lookup context).Reads s ls outcome s') ∧
    (∀ look context expression s ls rest outcome s₁, Cuts (Text.trim expression) ls rest →
      (Resolver.ofLookup (look context) context).Reads (s.happened (.began context expression)) ls outcome s₁ →
      (∀ e, outcome = .error e → (evaluateWith look context expression).run.run s = (.error e, s₁)) ∧
      ∀ tokens, outcome = .ok tokens → ∃ s', (evaluateWith look context expression).run.run s =
          ((Evaluation.ofTokens (Postfix.ofTokens tokens).tokens).value, s') ∧
        s'.notices = s₁.notices ++ if rest = [] then [] else [.untokenized rest]) ∧
    ∀ (σ : Type) (r : Resolver σ) s ls outcome s', r.Brief → r.Reads s ls outcome s' →
      ∃ tokens, outcome = .ok tokens := by
  refine ⟨fun values expression outcome problems rest => Resolver.tokenize_eq_iff, ?_, ?_,
    fun σ r s ls outcome s' hr h => h.exists_tokens hr⟩
  · intro lookup context expression s outcome s'
    rw [Resolver.run_tokens_iff]
    constructor
    · intro hreads
      exact ⟨_, _, lexemes_eq_iff.1 rfl, hreads⟩
    · rintro ⟨ls, rest, hcuts, hreads⟩
      rwa [lexemes_eq_iff.2 hcuts]
  · intro look context expression s ls rest outcome s₁ hcuts hreads
    have hlexemes : lexemes expression = (ls, rest) := lexemes_eq_iff.2 hcuts
    have hread : Ensures (SessionStep.tokens (look context) context (lexemes expression).1)
        (s.happened (.began context expression)) fun r u => r = outcome ∧ u = s₁ := by
      rw [hlexemes]
      exact hreads.ensures
    constructor
    · rintro e rfl
      have hstopped : Ensures (evaluateWith look context expression) s fun r u => r = .error e ∧ u = s₁ :=
        .of_bind_eq .happen (.of_bind_error hread ⟨rfl, rfl⟩)
      exact Prod.ext_iff.2 hstopped
    · rintro tokens rfl
      refine ⟨s₁.concluded context (lexemes expression).2 tokens, Prod.ext_iff.2 (evaluateWith_eq hread), ?_⟩
      rw [Session.notices_concluded, hlexemes]

/-- `10é`: what looks like a number goes on with a letter that is not ASCII.  So it is a name, and what is left begins
with the letter. -/
theorem tokenize_cuts_notAscii :
    let s := Session.start [] [] [] []
    let began := s.happened (.began "A".toList "10é".toList)
    let told := began.recorded "A".toList (.unknownToken "10".toList "10é".toList)
    let nothing := Resolver.ofLookup (fun _ => pure none) "A".toList
    Cuts (Text.trim "10é".toList) [⟨.identifier, "10".toList, "10é".toList⟩] "é".toList ∧
    nothing.Reads began [⟨.identifier, "10".toList, "10é".toList⟩] (.ok [⟨"10".toList, .error, none⟩]) told ∧
    (∃ s', (evaluateWith (fun _ _ => pure none) "A".toList "10é".toList).run.run s = (.ok 0, s') ∧
      s'.notices = [.untokenized "é".toList]) ∧
    nothing.Brief ∧ ∃ tokens, Except.ok [⟨"10".toList, .error, none⟩] = (.ok tokens : Except DigitLimit (List Token)) := by
  intro s began told nothing
  have hcuts : Cuts (Text.trim "10é".toList) [⟨.identifier, "10".toList, "10é".toList⟩] "é".toList :=
    lexemes_eq_iff.1 rfl
  have hreads : nothing.Reads began [⟨.identifier, "10".toList, "10é".toList⟩] (.ok [⟨"10".toList, .error, none⟩])
      told := .cons (.unanswered rfl) .nil
  have hbrief : nothing.Brief := by
    rintro u name answer u' ⟨⟩
    exact ⟨none, rfl, by simp⟩
  obtain ⟨-, hvalue⟩ := tokenize_cuts.2.2.1 (fun _ _ => pure none) _ _ s _ _ _ _ hcuts hreads
  exact ⟨hcuts, hreads, hvalue _ rfl, hbrief, tokenize_cuts.2.2.2 _ nothing _ _ _ _ hbrief hreads⟩

/-- A value of 4301 digits becomes no token, and neither does a name whose lookup is stopped by such a number. -/
theorem tokenize_cuts_stopped :
    tokenize (fun _ => some (Nat.pow 10 digitLimit)) ['A'] = ⟨.error .writing, [], []⟩ ∧
    ∃ e s', (SessionStep.tokens (lookup 2 "<expression>".toList) "<expression>".toList (lexemes ['B']).1).run.run
      (Session.start [(['B'], longDigits)] [] [] []) = (.error e, s') := by
  constructor
  · refine Resolver.tokenize_eq_iff.2 ⟨[⟨.identifier, ['A'], ['A']⟩], lexemes_eq_iff.1 rfl, .halted ?_⟩
    exact .unwritten ⟨rfl, rfl⟩ not_fewDigits_limit
  · let s := Session.start [(['B'], longDigits)] [] [] []
    have hblocked : s.Blocked ['B'] longDigits := ⟨rfl, by decide, rfl, not_hasShortNumbers_longDigits⟩
    obtain ⟨r, s', hlook⟩ := exists_runs (.look "<expression>".toList ['B']) s
    obtain ⟨e, rfl⟩ := hblocked.look_self hlook
    have hread : Runs (.read "<expression>".toList (lexemes ['B']).1) s (.error e) s' := .unanswered rfl hlook
    have hdepth : (Task.read "<expression>".toList (lexemes ['B']).1).pendingBelow s < 2 := Nat.lt_succ_self 1
    exact ⟨e, s', (runs_iff hdepth).1 hread⟩

end GameSource
