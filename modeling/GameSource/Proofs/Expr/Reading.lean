import GameSource.Proofs.Expr.Lexeme
import GameSource.Proofs.Expr.Order
import GameSource.Proofs.Expr.Token
/-!
# The lexemes of a written expression

Reading a text that writes an expression gives one lexeme for each operand, operator and parenthesis, whatever white
space stands between them, and leaves nothing over (`lexemesFrom_spells`).  What ends a lexeme is what may stand behind
it: behind an operand comes no word character, behind an operator an operand begins.
-/
namespace GameSource

/-! ## Lexemes -/

theorem Literal.isNumber (l : Literal) : IsNumber l.text := by
  obtain ⟨radix, digits, suffix, hne, hd, hs, -, -⟩ := l
  cases radix with
  | decimal => exact .decimal hne hd hs
  | octal =>
    have hall : ∀ c ∈ '0' :: digits, c.isDigit :=
      List.forall_mem_cons.2 ⟨rfl, fun c hc => isDigit_of_isOctalDigit (hd c hc)⟩
    exact .decimal (List.cons_ne_nil '0' digits) hall hs
  | hexadecimal capital =>
    cases capital with
    | false => exact .hexadecimal (.inl rfl) hne hd hs
    | true => exact .hexadecimal (.inr rfl) hne hd hs

theorem Literal.takes (l : Literal) {rest : Text} (hr : Stops isWord rest) :
    LexemeKind.number.Takes l.text rest := .number l.isNumber hr

/-- A name does not begin with a digit, so that it is no number. -/
theorem Identifier.takes (i : Identifier) {rest : Text} (hr : Stops isWord rest) :
    LexemeKind.identifier.Takes i.text rest := by
  obtain ⟨c, t, ht, hc⟩ := i.exists_text_eq_cons
  have hne : i.text ≠ [] := by rw [ht]; exact List.cons_ne_nil c t
  refine .identifier hne i.isAsciiWord_of_mem (hr.of_isWord fun _ h => h) ?_
  rintro ⟨hnumber, -⟩
  obtain ⟨d, u, hd, hdigit⟩ := hnumber.exists_eq_cons
  rw [ht] at hd
  cases hd
  rw [hc] at hdigit
  cases hdigit

theorem Operator.takes (op : Operator) {rest : Text} (hr : Stops isOperatorChar rest) :
    LexemeKind.operator.Takes op.text rest := by
  have hchars : op.text ≠ [] ∧ ∀ c ∈ op.text, isOperatorChar c := by
    cases op <;> exact ⟨List.cons_ne_nil _ _, List.all_eq_true.1 rfl⟩
  exact .operator hchars.1 hchars.2 hr

theorem Operator.stops_isWord (op : Operator) (t : Text) : Stops isWord (op.text ++ t) := by
  cases op <;> exact .cons (by decide)

/-! ## Written expressions -/

namespace Expression

/-- What the reader of a text says of a lexeme when `env` answers the names. -/
def answered (env : Text → Int) (l : Lexeme) : Option Int := l.answer fun n => some (env n)

/-- The lexemes read as the tokens, which are those of the expression: the names are its names, and there is no
problem. -/
structure ReadAs (env : Text → Int) (k : Nat) (ls : List Lexeme) (ts : List Token) (e : Expression) : Prop where
  tokens : List.Forall₂ (fun l t => Token.ofLexeme l (answered env l) = .ok t) ls ts
  order : Infix env k ts e
  names : ∀ l ∈ ls, l.kind = .identifier → l.text ∈ e.names
  problems : ∀ l ∈ ls, Problem.ofLexeme? l (answered env l) = none

theorem word_ends {w : Text} (hne : w ≠ []) (hw : ∀ c ∈ w, isAsciiWord c) :
    w ≠ [] ∧ Stops (fun c => isOperatorChar c || isSpace c) w ∧ Stops isSpace w.reverse :=
  ⟨hne, .of_all fun c hc => by rw [isOperatorChar_of_isAsciiWord (hw c hc), isSpace_of_isAsciiWord (hw c hc)]; rfl,
    .of_all fun c hc => isSpace_of_isAsciiWord (hw c (List.mem_reverse.1 hc))⟩

/-- A text that spells an expression begins and ends with a character of an operand or a parenthesis. -/
theorem Spells.ends {k : Nat} {t : Text} {e : Expression} (h : Spells k t e) :
    t ≠ [] ∧ Stops (fun c => isOperatorChar c || isSpace c) t ∧ Stops isSpace t.reverse := by
  induction h with
  | literal k l =>
    obtain ⟨c, t, ht, -⟩ := l.exists_text_eq_cons
    exact word_ends (by rw [ht]; exact List.cons_ne_nil c t) fun c => l.isAsciiWord_of_mem
  | name k i =>
    obtain ⟨c, t, ht, -⟩ := i.exists_text_eq_cons
    exact word_ends (by rw [ht]; exact List.cons_ne_nil c t) i.isAsciiWord_of_mem
  | parens k hb ha h ih =>
    refine ⟨by simp, .cons (by decide), ?_⟩
    rw [List.reverse_append]
    exact .cons (by decide)
  | @binary k s before after t left right op hop hb ha hl hr ihl ihr =>
    refine ⟨by simp [ihl.1], ?_, ?_⟩
    · simp only [List.append_assoc]
      exact ihl.2.1.append_left ihl.1 _
    · rw [List.reverse_append]
      exact ihr.2.2.append_left (by simp [ihr.1]) _

theorem ReadAs.parens {env : Text → Int} {k : Nat} {ls : List Lexeme} {ts : List Token} {e : Expression}
    (h : ReadAs env Operator.or.looseness ls ts e) (r r' : Text) :
    ReadAs env k (⟨.parenthesis, ['('], r⟩ :: (ls ++ [⟨.parenthesis, [')'], r'⟩])) (.opening :: (ts ++ [.closing])) e where
  tokens := .cons rfl (List.rel_append h.tokens (.cons rfl .nil))
  order := .parens k h.order
  names := by
    intro l hl hk
    simp only [List.mem_cons, List.mem_append, List.not_mem_nil, or_false] at hl
    rcases hl with rfl | hl | rfl
    · cases hk
    · exact h.names l hl hk
    · cases hk
  problems := by
    intro l hl
    simp only [List.mem_cons, List.mem_append, List.not_mem_nil, or_false] at hl
    rcases hl with rfl | hl | rfl
    · rfl
    · exact h.problems l hl
    · rfl

theorem ReadAs.binary {env : Text → Int} {k : Nat} {ls ms : List Lexeme} {ts us : List Token}
    {left right : Expression} (op : Operator) (hop : op.looseness ≤ k) (hl : ReadAs env op.looseness ls ts left)
    (hr : ReadAs env (op.looseness - 1) ms us right) (r : Text) :
    ReadAs env k (ls ++ ⟨.operator, op.text, r⟩ :: ms) (ts ++ .ofOperator op :: us) (.binary op left right) where
  tokens := by
    have htoken : Token.ofLexeme ⟨.operator, op.text, r⟩ none = .ok (.ofOperator op) := by
      simp [Token.ofLexeme, Operator.ofText?_text, Token.ofOperator]
    exact List.rel_append hl.tokens (.cons htoken hr.tokens)
  order := .binary op hop hl.order hr.order
  names := by
    intro l hm hk
    rw [Expression.names]
    rcases List.mem_append.1 hm with hm | hm
    · exact List.mem_append_left _ (hl.names l hm hk)
    · rcases List.mem_cons.1 hm with rfl | hm
      · cases hk
      · exact List.mem_append_right _ (hr.names l hm hk)
  problems := by
    intro l hm
    rcases List.mem_append.1 hm with hm | hm
    · exact hl.problems l hm
    · rcases List.mem_cons.1 hm with rfl | hm
      · simp [Problem.ofLexeme?, Operator.ofText?_text]
      · exact hr.problems l hm

/-- **A text that spells an expression is read as its tokens**, and reading goes on with what stands behind it.  The
values of its names are written out. -/
theorem lexemesFrom_spells {env : Text → Int} {k : Nat} {t : Text} {e : Expression} (h : Spells k t e) :
    (∀ n ∈ e.names, FewDigits (env n)) → ∀ rest : Text, Stops isWord rest → ∃ ls ts,
      lexemesFrom 0 (t ++ rest) = (ls ++ (lexemesFrom 0 rest).1, (lexemesFrom 0 rest).2) ∧ ReadAs env k ls ts e := by
  induction h with
  | literal k l =>
    intro _ rest hr
    exact ⟨[⟨.number, l.text, l.text ++ rest⟩], _, (l.takes hr).lexemesFrom,
      ⟨.cons rfl .nil, .literal k l, by simp, by simp [Problem.ofLexeme?]⟩⟩
  | name k i =>
    intro hfew rest hr
    have htoken := Token.ofLexeme_name (l := ⟨.identifier, i.text, i.text ++ rest⟩) rfl (hfew i.text (by simp [names]))
    exact ⟨[⟨.identifier, i.text, i.text ++ rest⟩], _, (i.takes hr).lexemesFrom,
      ⟨.cons htoken .nil, .name k i, by simp [names], by simp [Problem.ofLexeme?, answered, Lexeme.answer]⟩⟩
  | @parens k before t after e hb ha h ih =>
    intro hfew rest hr
    have hstop : Stops isWord (after ++ ')' :: rest) :=
      .append (fun c hc => isWord_of_isSpace (ha c hc)) (.cons (by decide))
    obtain ⟨ls, ts, hls, hread⟩ := ih hfew (after ++ ')' :: rest) hstop
    have hopen : ∀ u : Text, lexemesFrom 0 ('(' :: u) =
        (⟨.parenthesis, ['('], '(' :: u⟩ :: (lexemesFrom 0 u).1, (lexemesFrom 0 u).2) := fun u =>
      (LexemeKind.Takes.parenthesis (.inl rfl)).lexemesFrom
    have hclose : lexemesFrom 0 (')' :: rest) =
        (⟨.parenthesis, [')'], ')' :: rest⟩ :: (lexemesFrom 0 rest).1, (lexemesFrom 0 rest).2) :=
      (LexemeKind.Takes.parenthesis (.inr rfl)).lexemesFrom
    refine ⟨_, _, ?_, hread.parens ('(' :: (before ++ (t ++ (after ++ ')' :: rest)))) (')' :: rest)⟩
    simp only [List.append_assoc, List.cons_append, List.nil_append]
    rw [hopen, lexemesFrom_blanks hb, hls, lexemesFrom_blanks ha, hclose]
  | @binary k s before after t left right op hop hb ha hl hr ihl ihr =>
    intro hfew rest hrest
    have hstop : Stops isWord (before ++ (op.text ++ (after ++ (t ++ rest)))) :=
      .append (fun c hc => isWord_of_isSpace (hb c hc)) (op.stops_isWord _)
    obtain ⟨ls, ts, hls, hleft⟩ := ihl (fun n hn => hfew n (by simp [names, hn])) _ hstop
    obtain ⟨ms, us, hms, hright⟩ := ihr (fun n hn => hfew n (by simp [names, hn])) rest hrest
    have hends := hr.ends
    have hafter : Stops isOperatorChar (after ++ (t ++ rest)) := by
      refine .append (fun c hc => ?_) ((hends.2.1.append_left hends.1 rest).mono fun c hc => ?_)
      · simpa using of_isSpace (p := fun c => !isOperatorChar c) (by decide) (ha c hc)
      · exact (Bool.or_eq_false_iff.1 hc).1
    refine ⟨_, _, ?_, hleft.binary op hop hright (op.text ++ (after ++ (t ++ rest)))⟩
    simp only [List.append_assoc]
    rw [hls, lexemesFrom_blanks hb, (op.takes hafter).lexemesFrom, lexemesFrom_blanks ha, hms, List.cons_append]

/-- **A text that writes an expression is read to its end**, as the tokens of the expression. -/
theorem Writes.lexemes {t : Text} {e : Expression} (h : e.Writes t) {env : Text → Int}
    (hfew : ∀ n ∈ e.names, FewDigits (env n)) :
    ∃ ls ts, GameSource.lexemes t = (ls, []) ∧ ReadAs env Operator.or.looseness ls ts e := by
  obtain ⟨before, body, after, rfl, hb, ha, hbody⟩ := h
  obtain ⟨hne, hhead, hlast⟩ := hbody.ends
  have htrim : Text.trim (before ++ body ++ after) = body :=
    trim_blanks before after hb ha (hhead.mono fun c hc => (Bool.or_eq_false_iff.1 hc).2) hlast hne
  obtain ⟨ls, ts, hls, hread⟩ := lexemesFrom_spells hbody hfew [] (.nil _)
  refine ⟨ls, ts, ?_, hread⟩
  rw [GameSource.lexemes, htrim, ← List.append_nil body, hls]
  simp [lexemesFrom]

/-- **An expression whose names are answered becomes its tokens**, and nothing is wrong with it. -/
theorem Writes.tokenize {t : Text} {e : Expression} (h : e.Writes t) {env : Text → Int} {values : Text → Option Int}
    (hvalues : ∀ n ∈ e.names, values n = some (env n)) (hfew : ∀ n ∈ e.names, FewDigits (env n)) :
    ∃ ts, GameSource.tokenize values t = ⟨.ok ts, [], []⟩ ∧ Infix env Operator.or.looseness ts e := by
  obtain ⟨ls, ts, hls, hread⟩ := h.lexemes hfew
  have hanswer : ∀ l ∈ ls, l.answer values = answered env l := fun l hl => by
    unfold answered Lexeme.answer
    split
    · exact hvalues _ (hread.names l hl ‹_›)
    · rfl
  have htokens : ls.mapM (fun l => Token.ofLexeme l (l.answer values)) = .ok ts :=
    (mapM_congr fun l hl => by rw [hanswer l hl]).trans (mapM_eq_ok_iff.2 hread.tokens)
  refine ⟨ts, ?_, hread.order⟩
  have hproblems (p : Lexeme → Bool) : ((ls.takeWhile p).filterMap fun l => Problem.ofLexeme? l (l.answer values)) = [] :=
    List.filterMap_eq_nil_iff.2 fun l hl => by
      have hmem := (List.takeWhile_sublist p).subset hl
      rw [hanswer l hmem, hread.problems l hmem]
  rw [GameSource.tokenize, hls]
  simp only [htokens, hproblems]

end Expression

end GameSource
