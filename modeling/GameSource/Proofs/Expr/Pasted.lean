import GameSource.Define.Table
import GameSource.Proofs.Define.Reference
/-!
# Expressions that are counted on from

A text that is put in parentheses and counted on from, `((text)+k)`, has the value of the text and `k` more, wrapped
(`valueOver_offsetExpression`).  The text need not spell an expression: its operators may lack operands, so that
evaluating it leaves any number of values behind.  What it takes is that its parentheses have their partners within it
(`Parenthesized`), so that the ones around it do, and that all of it is read.
-/
namespace GameSource

/-! ## Parentheses -/

/-- Every closing member has an opening one before it and the other way round, where `opened` stand open before the
list. -/
def balancedFrom {α : Type} (opens closes : α → Bool) : (opened : Nat) → List α → Bool
  | opened, [] => opened == 0
  | opened, a :: as =>
    if opens a then balancedFrom opens closes (opened + 1) as
    else if closes a then opened != 0 && balancedFrom opens closes (opened - 1) as
    else balancedFrom opens closes opened as

/-- The text is properly parenthesized. -/
def Parenthesized (t : Text) : Prop := balancedFrom (· == '(') (· == ')') 0 t

instance (t : Text) : Decidable (Parenthesized t) := inferInstanceAs (Decidable (_ = true))

example : Parenthesized "-(A<<(2))".toList ∧ ¬ Parenthesized ")(".toList ∧ ¬ Parenthesized "(1".toList := by decide

/-! ## The lexemes before a closing parenthesis -/

/-- The lexeme with something behind the expression. -/
def Lexeme.before (rest : Text) (l : Lexeme) : Lexeme := { l with rest := l.rest ++ rest }

theorem Token.ofLexeme_before (rest : Text) (l : Lexeme) (answer : Option Int) :
    Token.ofLexeme (l.before rest) answer = Token.ofLexeme l answer := by
  cases l with
  | mk kind text rest' => cases kind <;> rfl

/-- A lexeme is the same before a closing parenthesis as at the end. -/
theorem lexeme?_closing (rest : Text) {t : Text} (hne : t ≠ []) : lexeme? (t ++ ')' :: rest) = lexeme? t := by
  by_cases hstop : Stops beginsLexeme t
  · rw [lexeme?_eq_none hstop, lexeme?_eq_none (hstop.append_left hne _)]
  · obtain ⟨kind, w, behind, rfl, htakes⟩ := exists_takes hstop
    have hword : Stops isWord (')' :: rest) := .cons (by decide)
    have hoperator : Stops isOperatorChar (')' :: rest) := .cons (by decide)
    rw [List.append_assoc, (htakes.append hword hoperator).lexeme?, htakes.lexeme?]

/-- A lexeme is a parenthesis, or has none. -/
theorem lexeme?_cases {c : Char} {cs : Text} {kind : LexemeKind} {n : Nat} (h : lexeme? (c :: cs) = some (kind, n)) :
    (kind = .parenthesis ∧ n = 1 ∧ (c = '(' ∨ c = ')')) ∨
      (kind ≠ .parenthesis ∧ 0 < n ∧ n ≤ (c :: cs).length ∧ ∀ d ∈ (c :: cs).take n, d ≠ '(' ∧ d ≠ ')') := by
  obtain ⟨w, behind, hsplit, rfl, htakes⟩ := lexeme?_eq_some_iff.1 h
  have hle : w.length ≤ (c :: cs).length := by
    rw [hsplit, List.length_append]
    exact Nat.le_add_right _ _
  have hplain {p : Char → Bool} (hne : w ≠ []) (hw : ∀ d ∈ w, p d) (hopen : p '(' = false) (hclose : p ')' = false) :
      0 < w.length ∧ w.length ≤ (c :: cs).length ∧ ∀ d ∈ (c :: cs).take w.length, d ≠ '(' ∧ d ≠ ')' := by
    refine ⟨List.length_pos_of_ne_nil hne, hle, fun d hd => ?_⟩
    rw [hsplit, List.take_left] at hd
    refine ⟨?_, ?_⟩
    · rintro rfl
      exact absurd (hopen.symm.trans (hw _ hd)) Bool.false_ne_true
    · rintro rfl
      exact absurd (hclose.symm.trans (hw _ hd)) Bool.false_ne_true
  cases htakes with
  | number hw _ => exact .inr ⟨by simp, hplain hw.ne_nil hw.isAsciiWord (by decide) (by decide)⟩
  | identifier hne hw _ _ => exact .inr ⟨by simp, hplain hne hw (by decide) (by decide)⟩
  | operator hne hw _ => exact .inr ⟨by simp, hplain hne hw (by decide) (by decide)⟩
  | parenthesis hc =>
    cases hsplit
    exact .inl ⟨rfl, rfl, hc⟩

/-- **A text that is read to its end is read so before a closing parenthesis**, and reading goes on there. -/
theorem lexemesFrom_closing (rest : Text) : ∀ {skip : Nat} {t : Text}, skip ≤ t.length → (lexemesFrom skip t).2 = [] →
    lexemesFrom skip (t ++ ')' :: rest) = ((lexemesFrom skip t).1.map (Lexeme.before (')' :: rest)) ++
      (lexemesFrom 0 (')' :: rest)).1, (lexemesFrom 0 (')' :: rest)).2)
  | 0, [], _, _ => by simp [lexemesFrom]
  | skip + 1, [], hskip, _ => absurd hskip (by simp)
  | skip + 1, c :: cs, hskip, hread => by
    rw [lexemesFrom] at hread
    rw [List.cons_append, lexemesFrom, lexemesFrom]
    exact lexemesFrom_closing rest (Nat.le_of_succ_le_succ hskip) hread
  | 0, c :: cs, _, hread => by
    have hlexeme : lexeme? (c :: (cs ++ ')' :: rest)) = lexeme? (c :: cs) :=
      lexeme?_closing rest (List.cons_ne_nil c cs)
    rw [lexemesFrom] at hread
    rw [List.cons_append, lexemesFrom, lexemesFrom, hlexeme]
    split
    · rename_i hspace
      rw [if_pos hspace] at hread
      exact lexemesFrom_closing rest (Nat.zero_le _) hread
    · rename_i hspace
      rw [if_neg hspace] at hread
      cases hl : lexeme? (c :: cs) with
      | none =>
        rw [hl] at hread
        cases hread
      | some found =>
        obtain ⟨kind, n⟩ := found
        rw [hl] at hread
        have hle : n ≤ (c :: cs).length := by
          rcases lexeme?_cases hl with ⟨-, rfl, -⟩ | ⟨-, -, hle, -⟩
          · simp
          · exact hle
        have hnext : n - 1 ≤ cs.length := by
          rw [List.length_cons] at hle
          omega
        have htake : (c :: (cs ++ ')' :: rest)).take n = (c :: cs).take n := by
          rw [← List.cons_append, List.take_append_of_le_length hle]
        simp only [htake, lexemesFrom_closing rest hnext hread, List.map_cons, List.cons_append, Lexeme.before]

/-! ## Tokens -/

namespace Token

/-- The token opens a parenthesis. -/
def opens (t : Token) : Bool := t.isOperator && t.isOpening

def closes (t : Token) : Bool := t.isOperator && t.isClosing

/-- Only a lexeme that begins with a parenthesis becomes one. -/
theorem ofLexeme_plain {l : Lexeme} (hk : l.kind ≠ .parenthesis) (hl : l.text ≠ ['('] ∧ l.text ≠ [')'])
    {answer : Option Int} {t : Token} (h : ofLexeme l answer = .ok t) : t.opens = false ∧ t.closes = false := by
  unfold ofLexeme at h
  split at h
  · cases h
    exact ⟨rfl, rfl⟩
  · cases h
    exact ⟨rfl, rfl⟩
  · rename_i v _
    cases hw : writeInteger v with
    | error e =>
      rw [hw] at h
      cases h
    | ok w =>
      rw [hw] at h
      cases h
      exact ⟨rfl, rfl⟩
  · cases h
    simp [opens, closes, isOperator, isOpening, isClosing, hl]
  · exact absurd ‹_› hk

end Token

/-- **The parentheses of a text that is read to its end are those of its tokens.** -/
theorem balancedFrom_tokens (answer : Lexeme → Option Int) : ∀ {skip : Nat} {t : Text} {ts : List Token} (opened : Nat),
    (∀ c ∈ t.take skip, c ≠ '(' ∧ c ≠ ')') → (lexemesFrom skip t).2 = [] →
    List.Forall₂ (fun l t => Token.ofLexeme l (answer l) = .ok t) (lexemesFrom skip t).1 ts →
    balancedFrom Token.opens Token.closes opened ts = balancedFrom (· == '(') (· == ')') opened t
  | 0, [], _, _, _, _, .nil => rfl
  | skip + 1, [], _, _, _, _, .nil => rfl
  | skip + 1, c :: cs, ts, opened, hskip, hread, hts => by
    rw [lexemesFrom] at hread hts
    have hc := hskip c List.mem_cons_self
    rw [balancedFrom_tokens answer opened (fun d hd => hskip d (List.mem_cons_of_mem c hd)) hread hts]
    simp [balancedFrom, hc]
  | 0, c :: cs, ts, opened, _, hread, hts => by
    rw [lexemesFrom] at hread hts
    split at hread
    · rename_i hspace
      rw [if_pos hspace] at hts
      have hc : c ≠ '(' ∧ c ≠ ')' := by
        refine ⟨?_, ?_⟩ <;> (rintro rfl; exact absurd hspace (by decide))
      rw [balancedFrom_tokens answer opened (by simp) hread hts]
      simp [balancedFrom, hc]
    · rename_i hspace
      rw [if_neg hspace] at hts
      cases hl : lexeme? (c :: cs) with
      | none =>
        rw [hl] at hread
        cases hread
      | some found =>
        obtain ⟨kind, n⟩ := found
        rw [hl] at hread hts
        obtain ⟨t, us, htoken, hus, rfl⟩ := List.forall₂_cons_left_iff.1 hts
        rcases lexeme?_cases hl with ⟨rfl, rfl, hc⟩ | ⟨hk, hpos, -, hplain⟩
        · have ih (opened : Nat) := balancedFrom_tokens answer opened (by simp) hread hus
          cases htoken
          simp only [List.take_succ_cons, List.take_zero]
          rcases hc with rfl | rfl
          · exact ih (opened + 1)
          · exact congrArg (opened != 0 && ·) (ih (opened - 1))
        · obtain ⟨m, rfl⟩ : ∃ m, n = m + 1 := ⟨n - 1, by omega⟩
          have hc := hplain c (by simp)
          have htext : c :: cs.take m ≠ ['('] ∧ c :: cs.take m ≠ [')'] := by simp [hc]
          obtain ⟨hopens, hcloses⟩ := Token.ofLexeme_plain hk htext htoken
          have ih := balancedFrom_tokens answer opened (fun d hd => hplain d (List.mem_cons_of_mem c hd)) hread hus
          simp only [balancedFrom, hopens, hcloses]
          simp [hc]
          exact ih

/-! ## Postfix order -/

/-- Dropping other members changes no count. -/
theorem countP_dropWhile {α : Type} {p q : α → Bool} (h : ∀ a, q a → p a = false) : ∀ as : List α,
    (as.dropWhile q).countP p = as.countP p
  | [] => rfl
  | a :: as => by
    rw [List.dropWhile_cons]
    split
    · rename_i hq
      rw [countP_dropWhile h as, List.countP_cons_of_neg (by simp [h a hq])]
    · rfl

namespace Postfix

/-- **Tokens whose parentheses have their partners among them** come out between two parentheses as they do alone. -/
theorem ofTokensFrom_parenthesized : ∀ {ts waiting : List Token},
    balancedFrom Token.opens Token.closes (waiting.countP Token.isOpening) ts →
    (∀ w ∈ waiting, w.isClosing = false) → ∀ below rest : List Token,
    ofTokensFrom (waiting ++ .opening :: below) (ts ++ .closing :: rest) =
      emit (ofTokensFrom waiting ts).tokens (ofTokensFrom below rest)
  | [], waiting, hbalanced, hclosing, below, rest => by
    have hplain : ∀ w ∈ waiting, w.isOpening = false := by
      have hnone : waiting.countP Token.isOpening = 0 := by simpa [balancedFrom] using hbalanced
      simpa using List.countP_eq_zero.1 hnone
    have hstop : Stops (fun t : Token => !t.isOpening) (.opening :: below) := .cons rfl
    have hall : ∀ w ∈ waiting, (!w.isOpening) = true := fun w hw => by rw [hplain w hw]; rfl
    have hclose : ofTokensFrom (waiting ++ .opening :: below) (.closing :: rest) =
        emit waiting (ofTokensFrom below rest) := by
      rw [ofTokensFrom, takeWhile_run hall hstop, dropWhile_run hall hstop]
      rfl
    have hfinish : (finish waiting).tokens = waiting :=
      List.filter_eq_self.2 fun w hw => by simp [hplain w hw, hclosing w hw]
    rw [List.nil_append, hclose, ofTokensFrom, hfinish]
  | t :: ts, waiting, hbalanced, hclosing, below, rest => by
    have hopen : Stops (fun t : Token => !t.isOpening) (.opening :: below) := .cons rfl
    rw [List.cons_append, ofTokensFrom, ofTokensFrom]
    rw [balancedFrom, Token.opens, Token.closes] at hbalanced
    cases hoperator : t.isOperator with
    | false =>
      simp only [hoperator, Bool.false_and, Bool.false_eq_true, if_false] at hbalanced
      simp only [Bool.not_false, if_true, ofTokensFrom_parenthesized hbalanced hclosing]
      exact emit_emit _ _ _
    | true =>
      simp only [hoperator, Bool.true_and] at hbalanced
      simp only [Bool.not_true, Bool.false_eq_true, if_false]
      cases hopening : t.isOpening with
      | true =>
        have htext : t.text = ['('] := by simpa [Token.isOpening] using hopening
        have hcount : (t :: waiting).countP Token.isOpening = waiting.countP Token.isOpening + 1 :=
          List.countP_cons_of_pos hopening
        simp only [hopening, if_true, ← hcount] at hbalanced ⊢
        have hwaiting : ∀ w ∈ t :: waiting, w.isClosing = false := fun w hw => by
          rcases List.mem_cons.1 hw with rfl | hw
          · simp [Token.isClosing, htext]
          · exact hclosing w hw
        have hrest := ofTokensFrom_parenthesized hbalanced hwaiting below rest
        exact hrest
      | false =>
        simp only [hopening, Bool.false_eq_true, if_false] at hbalanced ⊢
        cases hcloses : t.isClosing with
        | true =>
          simp only [hcloses, if_true, Bool.and_eq_true, bne_iff_ne, ne_eq] at hbalanced ⊢
          -- As many parentheses wait as are open, so that this one finds its partner before the one around.
          have hcount := countP_dropWhile (p := Token.isOpening) (q := fun t => !t.isOpening) (by simp) waiting
          rw [takeWhile_append hopen, dropWhile_append hopen]
          cases hbelow : waiting.dropWhile (fun t => !t.isOpening) with
          | nil =>
            rw [hbelow] at hcount
            exact absurd hcount.symm hbalanced.1
          | cons o inner =>
            have ho : o.isOpening = true := by
              simpa [hbelow] using List.head?_dropWhile_not (fun t : Token => !t.isOpening) waiting
            rw [hbelow, List.countP_cons_of_pos ho] at hcount
            rw [← hcount, Nat.add_sub_cancel] at hbalanced
            have hinner : ∀ w ∈ inner, w.isClosing = false := fun w hw => by
              have hmem : w ∈ waiting.dropWhile (fun t => !t.isOpening) := hbelow ▸ List.mem_cons_of_mem o hw
              exact hclosing w ((List.dropWhile_sublist _).subset hmem)
            simp only [List.cons_append, ofTokensFrom_parenthesized hbalanced.2 hinner]
            exact emit_emit _ _ _
        | false =>
          have hstop : Stops t.releases (.opening :: below) := .cons (Token.releases_opening t)
          have hcount : (t :: waiting.dropWhile t.releases).countP Token.isOpening = waiting.countP Token.isOpening := by
            rw [List.countP_cons_of_neg (by simp [hopening]), countP_dropWhile fun w hw => ?_]
            simp only [Token.releases, Bool.and_eq_true, Bool.not_eq_true'] at hw
            exact hw.1
          have hwaiting : ∀ w ∈ t :: waiting.dropWhile t.releases, w.isClosing = false := fun w hw => by
            rcases List.mem_cons.1 hw with rfl | hw
            · exact hcloses
            · exact hclosing w ((List.dropWhile_sublist _).subset hw)
          simp only [hcloses, Bool.false_eq_true, if_false] at hbalanced ⊢
          rw [← hcount] at hbalanced
          rw [takeWhile_append hstop, dropWhile_append hstop, ← List.cons_append,
            ofTokensFrom_parenthesized hbalanced hwaiting]
          exact emit_emit _ _ _

end Postfix

/-! ## Values -/

namespace Evaluation

/-- A token leaves a stack of values for those behind it, unless it is a number that stops the evaluation. -/
theorem exists_stack_cons (t : Token) (values : List Int) :
    (∃ e, ∀ ts, (ofTokensFrom values (t :: ts)).value = .error e) ∨
      ∃ stack, ∀ ts, (ofTokensFrom values (t :: ts)).value = (ofTokensFrom stack ts).value := by
  cases hk : t.kind with
  | error =>
    refine .inr ⟨values, fun ts => ?_⟩
    conv => lhs; unfold ofTokensFrom
    simp [hk]
  | operator =>
    obtain _ | ⟨right, _ | ⟨left, below⟩⟩ := values
    · refine .inr ⟨[], fun ts => ?_⟩
      conv => lhs; unfold ofTokensFrom
      simp [hk]
    · refine .inr ⟨[right], fun ts => ?_⟩
      conv => lhs; unfold ofTokensFrom
      simp [hk]
    · refine .inr ⟨(applyText t.text left right).1 :: below, fun ts => ?_⟩
      rw [ofTokensFrom_operator hk]
      rfl
  | number =>
    cases hread : readInteger t.text with
    | error e =>
      refine .inl ⟨e, fun ts => ?_⟩
      unfold ofTokensFrom
      simp [hk, hread]
    | ok v => exact .inr ⟨v.getD 0 :: values, fun ts => by rw [ofTokensFrom_number hk hread]⟩

/-- **So do any tokens.** -/
theorem exists_stack : ∀ (ts : List Token) (values : List Int),
    (∃ e, ∀ us, (ofTokensFrom values (ts ++ us)).value = .error e) ∨
      ∃ stack, ∀ us, (ofTokensFrom values (ts ++ us)).value = (ofTokensFrom stack us).value
  | [], values => .inr ⟨values, fun _ => rfl⟩
  | t :: ts, values => by
    rcases exists_stack_cons t values with ⟨e, he⟩ | ⟨stack, hstack⟩
    · exact .inl ⟨e, fun us => he (ts ++ us)⟩
    · rcases exists_stack ts stack with ⟨e, he⟩ | ⟨last, hlast⟩
      · exact .inl ⟨e, fun us => (hstack (ts ++ us)).trans (he us)⟩
      · exact .inr ⟨last, fun us => (hstack (ts ++ us)).trans (hlast us)⟩

/-- **A value is counted on from whatever tokens come to**, also if they leave none or several behind. -/
theorem ofTokensFrom_counted {ts : List Token} {n : Token} {k w : Int} (hn : n.kind = .number)
    (hk : ∀ v, readInteger n.text = .ok v → v = some (wrap32 k))
    (h : (ofTokensFrom [] (ts ++ [n, .ofOperator .add])).value = .ok w) :
    ∃ v, (ofTokensFrom [] ts).value = .ok v ∧ w = wrap32 (v + k) := by
  have hwrap (v : Int) : wrap32 (v + wrap32 k) = wrap32 (v + k) := Int.add_bmod_bmod
  have hadd (v : Int) : (applyText Operator.add.text v (wrap32 k)).1 = wrap32 (v + k) := by
    unfold applyText
    rw [Operator.ofText?_text]
    exact hwrap v
  rcases exists_stack ts [] with ⟨e, he⟩ | ⟨stack, hstack⟩
  · rw [he] at h
    cases h
  · have hvalue := hstack []
    rw [List.append_nil] at hvalue
    rw [hstack] at h
    refine ⟨stack.headD 0, hvalue, ?_⟩
    cases hread : readInteger n.text with
    | error e =>
      unfold ofTokensFrom at h
      simp [hn, hread] at h
    | ok v =>
      rw [ofTokensFrom_number hn hread, hk v hread, Option.getD_some] at h
      cases stack with
      | nil =>
        have hw : w = wrap32 k := (Except.ok.inj h).symm
        rw [hw]
        exact congrArg wrap32 (Int.zero_add k).symm
      | cons v below =>
        rw [ofTokensFrom_operator rfl] at h
        exact (Except.ok.inj h).symm.trans (hadd v)

end Evaluation

section
variable {x : Text} {k : Nat} {answers : Text → Option Int}

theorem trim_offsetExpression (x : Text) (k : Nat) : Text.trim (offsetExpression x k) = offsetExpression x k := by
  have hlast : Stops isSpace (offsetExpression x k).reverse := by
    rw [offsetExpression, List.reverse_append]
    exact .cons (by decide)
  have hfirst : Stops isSpace (offsetExpression x k) := .cons (by decide)
  simpa using trim_blanks [] [] (by simp) (by simp) hfirst hlast (List.cons_ne_nil _ _)

/-- What is pasted around a text that is read to its end becomes lexemes of its own. -/
theorem lexemes_offsetExpression (hx : Text.trim x = x) (hread : (lexemes x).2 = []) (k : Nat) :
    ∃ u r₁ r₂ r₃ r₄ r₅ r₆, (lexemes (offsetExpression x k)).1 = ⟨.parenthesis, ['('], r₁⟩ :: ⟨.parenthesis, ['('], r₂⟩ ::
      ((lexemes x).1.map (Lexeme.before u) ++ [⟨.parenthesis, [')'], r₃⟩, ⟨.operator, Operator.add.text, r₄⟩,
        ⟨.number, Nat.toDigits 10 k, r₅⟩, ⟨.parenthesis, [')'], r₆⟩]) := by
  have hcut : offsetExpression x k = '(' :: '(' :: (x ++ ')' :: '+' :: (Nat.toDigits 10 k ++ [')'])) := by
    simp [offsetExpression]
  have hparenthesis {c : Char} (hc : c = '(' ∨ c = ')') (u : Text) : lexemesFrom 0 (c :: u) =
      (⟨.parenthesis, [c], c :: u⟩ :: (lexemesFrom 0 u).1, (lexemesFrom 0 u).2) :=
    (LexemeKind.Takes.parenthesis hc).lexemesFrom
  have hdigits : ∀ c ∈ Nat.toDigits 10 k, c.isDigit := fun c hc =>
    Nat.isDigit_of_mem_toDigits (by decide) (by decide) hc
  have hnumber : lexemesFrom 0 (Nat.toDigits 10 k ++ [')']) =
      (⟨.number, Nat.toDigits 10 k, Nat.toDigits 10 k ++ [')']⟩ :: (lexemesFrom 0 [')']).1, (lexemesFrom 0 [')']).2) :=
    (LexemeKind.Takes.number (.of_digits Nat.toDigits_ne_nil hdigits) (.cons (by decide))).lexemesFrom
  have hplus : lexemesFrom 0 ('+' :: (Nat.toDigits 10 k ++ [')'])) =
      (⟨.operator, ['+'], '+' :: (Nat.toDigits 10 k ++ [')'])⟩ :: (lexemesFrom 0 (Nat.toDigits 10 k ++ [')'])).1,
        (lexemesFrom 0 (Nat.toDigits 10 k ++ [')'])).2) := by
    refine (Operator.add.takes (.append (fun c hc => ?_) (.cons (by decide)))).lexemesFrom
    exact isOperatorChar_of_isAsciiWord (isAsciiWord_of_isDigit c (hdigits c hc))
  have hwhole : lexemes x = lexemesFrom 0 x := congrArg _ hx
  rw [hwhole] at hread ⊢
  rw [lexemes, trim_offsetExpression, hcut, hparenthesis (.inl rfl), hparenthesis (.inl rfl),
    lexemesFrom_closing _ (Nat.zero_le _) hread, hparenthesis (.inr rfl), hplus, hnumber, hparenthesis (.inr rfl)]
  exact ⟨_, _, _, _, _, _, _, rfl⟩

/-- Counting on mentions no other names. -/
theorem mentioned_offsetExpression (hx : Text.trim x = x) (hread : (lexemes x).2 = []) (k : Nat) :
    mentioned (offsetExpression x k) = mentioned x := by
  obtain ⟨u, r₁, r₂, r₃, r₄, r₅, r₆, hlexemes⟩ := lexemes_offsetExpression hx hread k
  have hnames : ((lexemes x).1.map (Lexeme.before u)).filter (fun l => l.kind = .identifier) =
      ((lexemes x).1.filter fun l => l.kind = .identifier).map (Lexeme.before u) := List.filter_map
  have htexts : (fun l : Lexeme => l.text) ∘ Lexeme.before u = fun l => l.text := rfl
  simp [mentioned, hlexemes, hnames, htexts]

/-- The digits of a number are read as the number, wrapped, if they are read. -/
theorem eq_of_readInteger_toDigits {v : Option Int} (h : readInteger (Nat.toDigits 10 k) = .ok v) :
    v = some (wrap32 k) := by
  have hdigits : ∀ c ∈ Nat.toDigits 10 k, c.isDigit := fun c hc =>
    Nat.isDigit_of_mem_toDigits (by decide) (by decide) hc
  have hnumeral : Numeral.ofText? (Nat.toDigits 10 k) = some ⟨10, Nat.toDigits 10 k⟩ := by
    have := Numeral.ofText?_digits hdigits (show ∀ c ∈ ([] : Text), isSuffixLetter c by simp)
    rwa [List.append_nil, ofDigits?_toDigits] at this
  rw [readInteger_word fun c hc => isAsciiWord_of_isDigit c (hdigits c hc), hnumeral] at h
  simp only [value_toDigits (b := 10) (by decide) (by decide)] at h
  split at h
  · cases h
  · exact (Except.ok.inj h).symm

/-- **An expression that is counted on from has its value and `k` more**, wrapped. -/
theorem valueOver_offsetExpression (hx : Text.trim x = x) (hread : (lexemes x).2 = []) (hp : Parenthesized x) {w : Int}
    (h : valueOver answers (offsetExpression x k) = .ok w) :
    ∃ v, valueOver answers x = .ok v ∧ w = wrap32 (v + k) := by
  obtain ⟨u, r₁, r₂, r₃, r₄, r₅, r₆, hlexemes⟩ := lexemes_offsetExpression hx hread k
  have hone (l : Lexeme) : Token.ofLexeme (l.before u) ((l.before u).answer answers) =
    Token.ofLexeme l (l.answer answers) := Token.ofLexeme_before u l _
  have htokens : (tokenize answers (offsetExpression x k)).outcome = (tokenize answers x).outcome.map fun ts =>
      .opening :: .opening :: (ts ++ .closing :: [.ofOperator .add, ⟨Nat.toDigits 10 k, .number, none⟩, .closing]) := by
    unfold tokenize
    simp only [hlexemes, List.mapM_cons, List.mapM_append, List.mapM_map, Function.comp_def, hone, List.mapM_nil]
    cases (lexemes x).1.mapM fun l => Token.ofLexeme l (l.answer answers) <;> rfl
  obtain ⟨us, hus, hw⟩ := valueOver_eq_ok_iff.1 h
  rw [htokens] at hus
  cases houtcome : (tokenize answers x).outcome with
  | error e =>
    rw [houtcome] at hus
    cases hus
  | ok ts =>
    rw [houtcome] at hus
    cases hus
    have hbalanced : balancedFrom Token.opens Token.closes 0 ts := by
      have hread' : (lexemesFrom 0 (Text.trim x)).2 = [] := hread
      have hsame := balancedFrom_tokens _ 0 (by simp) hread' (mapM_eq_ok_iff.1 houtcome)
      rw [hx] at hsame
      exact hsame.trans hp
    have hpostfix : (Postfix.ofTokens (.opening :: .opening :: (ts ++ .closing ::
          [.ofOperator .add, ⟨Nat.toDigits 10 k, .number, none⟩, .closing]))).tokens =
        (Postfix.ofTokens ts).tokens ++ [⟨Nat.toDigits 10 k, .number, none⟩, .ofOperator .add] := by
      have hrun := @Postfix.ofTokensFrom_parenthesized _ [] hbalanced (by simp) [.opening]
        [.ofOperator .add, ⟨Nat.toDigits 10 k, .number, none⟩, .closing]
      rw [Postfix.ofTokens, Postfix.ofTokensFrom_opening, Postfix.ofTokensFrom_opening]
      exact congrArg Postfix.tokens hrun
    rw [valueOfTokens, Evaluation.ofTokens, hpostfix] at hw
    have hnumber (v : Option Int) (hv : readInteger (Nat.toDigits 10 k) = .ok v) := eq_of_readInteger_toDigits hv
    obtain ⟨v, hv, heq⟩ := Evaluation.ofTokensFrom_counted (n := ⟨Nat.toDigits 10 k, .number, none⟩) rfl hnumber hw
    exact ⟨v, valueOver_eq_ok_iff.2 ⟨ts, houtcome, hv⟩, heq⟩

end

end GameSource
