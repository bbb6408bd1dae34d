import GameSource.Proofs.Expr.Reading
/-!
# What evaluating any expression comes to

Not every text spells an expression, but every text is evaluated.  Its postfix order has no other tokens than those that
were read (`Postfix.mem_ofTokens`), a value is that of a 32-bit word (`Evaluation.ofTokens_word`), and only a number
beyond the limit of digits is in the way of a value (`Evaluation.ofTokensFrom_value`, `exists_valueOver`).
-/
namespace GameSource

/-! ## Tokens and values -/

namespace Postfix

theorem mem_ofTokensFrom {t : Token} : ∀ {waiting ts : List Token}, t ∈ (ofTokensFrom waiting ts).tokens →
    t ∈ waiting ∨ t ∈ ts
  | waiting, [], h => .inl (List.mem_filter.1 h).1
  | waiting, u :: ts, h => by
    rw [ofTokensFrom] at h
    split at h
    · rcases List.mem_append.1 h with h | h
      · exact .inr (by simpa using .inl (List.mem_singleton.1 h))
      · exact (mem_ofTokensFrom h).imp_right (List.mem_cons_of_mem u)
    split at h
    · rcases mem_ofTokensFrom h with h | h
      · exact (List.mem_cons.1 h).elim (fun h => .inr (by simp [h])) .inl
      · exact .inr (List.mem_cons_of_mem u h)
    split at h
    · rcases List.mem_append.1 h with h | h
      · exact .inl ((List.takeWhile_sublist _).subset h)
      · split at h
        · exact (mem_ofTokensFrom h).elim (fun h => by cases h) fun h => .inr (List.mem_cons_of_mem u h)
        · rename_i o below hbelow
          rcases mem_ofTokensFrom h with h | h
          · have hmem : t ∈ waiting.dropWhile fun w => !w.isOpening := by
              rw [hbelow]
              exact List.mem_cons_of_mem o h
            exact .inl ((List.dropWhile_sublist _).subset hmem)
          · exact .inr (List.mem_cons_of_mem u h)
    · rcases List.mem_append.1 h with h | h
      · exact .inl ((List.takeWhile_sublist _).subset h)
      · rcases mem_ofTokensFrom h with h | h
        · exact (List.mem_cons.1 h).elim (fun h => .inr (by simp [h]))
            fun h => .inl ((List.dropWhile_sublist _).subset h)
        · exact .inr (List.mem_cons_of_mem u h)

/-- **Putting tokens into postfix order makes no new tokens.** -/
theorem mem_ofTokens {t : Token} {ts : List Token} (h : t ∈ (ofTokens ts).tokens) : t ∈ ts :=
  (mem_ofTokensFrom h).elim (fun h => by cases h) id

end Postfix

namespace Token

/-- What stops an evaluation at the token: that it is a number with too many digits. -/
def fault? (t : Token) : Option DigitLimit :=
  match t.kind, readInteger t.text with
  | .number, .error e => some e
  | _, _ => none

theorem fault?_eq_some_iff {t : Token} {e : DigitLimit} :
    t.fault? = some e ↔ t.kind = .number ∧ readInteger t.text = .error e := by
  unfold fault?
  split
  · rename_i hkind hread
    rw [hread, Option.some_inj, Except.error.injEq]
    exact (and_iff_right hkind).symm
  · rename_i hnone
    exact ⟨fun h => (by cases h), fun h => (hnone e h.1 h.2).elim⟩

end Token

theorem readInteger_wrapped {t : Text} {v : Option Int} (h : readInteger t = .ok v) :
    ∃ w : BitVec 32, v.getD 0 = w.toInt := by
  unfold readInteger at h
  simp only at h
  split at h
  · cases h
    exact ⟨0, rfl⟩
  · split at h
    · cases h
    · cases h
      exact ⟨_, wrap32_eq_toInt _⟩

theorem applyText_word (op : Text) (x y : BitVec 32) : ∃ w : BitVec 32, (applyText op x.toInt y.toInt).1 = w.toInt := by
  cases hop : Operator.ofText? op with
  | none => exact ⟨0, by simp [applyText, hop]⟩
  | some o =>
    unfold applyText
    simp only [hop]
    split
    · exact ⟨0, rfl⟩
    · rename_i v hv
      unfold Operator.result? at hv
      split at hv
      · cases hv
      · cases hv
        exact ⟨_, wrap32_eq_toInt _⟩

namespace Evaluation

theorem ofTokensFrom_word : ∀ {ts : List Token} {values : List Int} {v : Int},
    (∀ v ∈ values, ∃ w : BitVec 32, v = w.toInt) → (ofTokensFrom values ts).value = .ok v →
      ∃ w : BitVec 32, v = w.toInt
  | [], values, v, hvalues, h => by
    cases h
    cases values with
    | nil => exact ⟨0, rfl⟩
    | cons u us => exact hvalues u (by simp)
  | t :: ts, values, v, hvalues, h => by
    unfold ofTokensFrom at h
    split at h
    · exact ofTokensFrom_word hvalues h
    · split at h
      · rename_i right left below
        obtain ⟨x, rfl⟩ := hvalues left (by simp)
        obtain ⟨y, rfl⟩ := hvalues right (by simp)
        have hbelow : ∀ v ∈ (applyText t.text x.toInt y.toInt).1 :: below, ∃ w : BitVec 32, v = w.toInt := by
          intro u hu
          rcases List.mem_cons.1 hu with rfl | hu
          · exact applyText_word t.text x y
          · exact hvalues u (by simp [hu])
        exact ofTokensFrom_word hbelow h
      · exact ofTokensFrom_word hvalues h
    · split at h
      · cases h
      · rename_i n hn
        refine ofTokensFrom_word (fun u hu => ?_) h
        rcases List.mem_cons.1 hu with rfl | hu
        · exact readInteger_wrapped hn
        · exact hvalues u hu

/-- **Every value is that of a 32-bit word.** -/
theorem ofTokens_word {ts : List Token} {v : Int} (h : (ofTokens ts).value = .ok v) : ∃ w : BitVec 32, v = w.toInt :=
  ofTokensFrom_word (by simp) h

/-- A token that is no fault changes the values, and the evaluation goes on with those. -/
theorem exists_ofTokensFrom_cons {t : Token} (h : t.fault? = none) (values : List Int) :
    ∃ values' ps, ∀ ts, ofTokensFrom values (t :: ts) = (ofTokensFrom values' ts).tell ps := by
  have hgoes (values' : List Int) (h : ∀ ts, ofTokensFrom values (t :: ts) = ofTokensFrom values' ts) :
      ∃ values' ps, ∀ ts, ofTokensFrom values (t :: ts) = (ofTokensFrom values' ts).tell ps := ⟨values', [], h⟩
  cases hkind : t.kind with
  | error =>
    refine hgoes values fun ts => ?_
    conv_lhs => unfold ofTokensFrom
    simp only [hkind]
  | operator =>
    have hfew (hvalues : ∀ right left below, values ≠ right :: left :: below) (ts : List Token) :
        ofTokensFrom values (t :: ts) = ofTokensFrom values ts := by
      conv_lhs => unfold ofTokensFrom
      simp only [hkind]
    rcases values with _ | ⟨right, _ | ⟨left, below⟩⟩
    · exact hgoes _ (hfew (by simp))
    · exact hgoes _ (hfew (by simp))
    · exact ⟨_, _, ofTokensFrom_operator hkind right left below⟩
  | number =>
    cases hread : readInteger t.text with
    | error e => simp [Token.fault?, hkind, hread] at h
    | ok v => exact hgoes _ (ofTokensFrom_number hkind hread values)

/-- **Only a fault is in the way of a value**, and the first one is. -/
theorem ofTokensFrom_value (ts : List Token) : ∀ values : List Int,
    (∃ e, ts.findSome? Token.fault? = some e ∧ (ofTokensFrom values ts).value = .error e) ∨
      ts.findSome? Token.fault? = none ∧ ∃ v, (ofTokensFrom values ts).value = .ok v := by
  induction ts with
  | nil => exact fun values => .inr ⟨rfl, _, rfl⟩
  | cons t ts ih =>
    intro values
    rw [List.findSome?_cons]
    cases hfault : t.fault? with
    | none =>
      obtain ⟨values', ps, hnext⟩ := exists_ofTokensFrom_cons hfault values
      rw [hnext]
      exact ih values'
    | some e =>
      obtain ⟨hkind, hread⟩ := Token.fault?_eq_some_iff.1 hfault
      refine .inl ⟨e, rfl, ?_⟩
      unfold ofTokensFrom
      simp only [hkind, hread]

/-- Tokens whose numbers can be read have a value. -/
theorem exists_value {ts : List Token} (h : ∀ t ∈ ts, t.kind = .number → ∃ v, readInteger t.text = .ok v)
    (values : List Int) : ∃ v, (ofTokensFrom values ts).value = .ok v := by
  rcases ofTokensFrom_value ts values with ⟨e, he, -⟩ | ⟨-, hv⟩
  · obtain ⟨t, ht, hfault⟩ := List.exists_of_findSome?_eq_some he
    obtain ⟨hkind, hread⟩ := Token.fault?_eq_some_iff.1 hfault
    obtain ⟨v, hv⟩ := h t ht hkind
    rw [hv] at hread
    cases hread
  · exact hv

end Evaluation

/-! ## Expressions with readable numbers -/

/-- Every lexeme is what begins a text. -/
theorem exists_lexeme? {l : Lexeme} : ∀ {skip : Nat} {t : Text}, l ∈ (lexemesFrom skip t).1 →
    ∃ u n, lexeme? u = some (l.kind, n) ∧ l.text = u.take n
  | 0, [], h => by cases h
  | skip + 1, [], h => by cases h
  | skip + 1, c :: cs, h => by
    rw [lexemesFrom] at h
    exact exists_lexeme? h
  | 0, c :: cs, h => by
    rw [lexemesFrom] at h
    split at h
    · exact exists_lexeme? h
    · split at h
      · cases h
      · rename_i kind n hlex
        rcases List.mem_cons.1 h with rfl | h
        · exact ⟨_, _, hlex, rfl⟩
        · exact exists_lexeme? h

/-- Every lexeme stands in the text that is read, and `rest` is the text from it on. -/
theorem suffix_of_mem_lexemesFrom {l : Lexeme} : ∀ {skip : Nat} {t : Text}, l ∈ (lexemesFrom skip t).1 →
    l.rest <:+ t ∧ l.text <+: l.rest
  | 0, [], h => by cases h
  | skip + 1, [], h => by cases h
  | skip + 1, c :: cs, h => by
    rw [lexemesFrom] at h
    obtain ⟨hrest, htext⟩ := suffix_of_mem_lexemesFrom h
    exact ⟨hrest.trans (List.suffix_cons c cs), htext⟩
  | 0, c :: cs, h => by
    have hbehind {skip : Nat} (h : l ∈ (lexemesFrom skip cs).1) : l.rest <:+ c :: cs ∧ l.text <+: l.rest := by
      obtain ⟨hrest, htext⟩ := suffix_of_mem_lexemesFrom h
      exact ⟨hrest.trans (List.suffix_cons c cs), htext⟩
    rw [lexemesFrom] at h
    split at h
    · exact hbehind h
    · split at h
      · cases h
      · rcases List.mem_cons.1 h with rfl | h
        · exact ⟨List.suffix_refl _, List.take_prefix _ _⟩
        · exact hbehind h

theorem isAsciiWord_of_number {t : Text} {l : Lexeme} (hl : l ∈ (lexemes t).1) (hk : l.kind = .number) :
    ∀ c ∈ l.text, isAsciiWord c := by
  obtain ⟨u, n, hlex, htext⟩ := exists_lexeme? hl
  obtain ⟨w, behind, rfl, rfl, htakes⟩ := lexeme?_eq_some_iff.1 hlex
  rw [hk] at htakes
  rw [htext, List.take_left]
  cases htakes with
  | number hw _ => exact hw.isAsciiWord

/-- The expression has no decimal number with more digits than are read. -/
def HasShortNumbers (expression : Text) : Prop :=
  ∀ l ∈ (lexemes expression).1, l.kind = .number → ∀ n : Numeral, Numeral.ofText? l.text = some n → n.base = 10 →
    n.digits.length ≤ digitLimit

theorem HasShortNumbers.readInteger {t : Text} (h : HasShortNumbers t) {l : Lexeme} (hl : l ∈ (lexemes t).1)
    (hk : l.kind = .number) : ∃ v, readInteger l.text = .ok v := by
  rw [readInteger_word (isAsciiWord_of_number hl hk)]
  cases hn : Numeral.ofText? l.text with
  | none => exact ⟨none, rfl⟩
  | some n =>
    have hshort : ¬ (n.base = 10 ∧ digitLimit < n.digits.length) := fun hlong =>
      Nat.not_lt.2 (h l hl hk n hn hlong.1) hlong.2
    exact ⟨some (wrap32 n.value), if_neg hshort⟩

theorem Numeral.digits_ofDigits? {digits : Text} {n : Numeral} (h : ofDigits? digits = some n) : n.digits = digits := by
  unfold ofDigits? at h
  split at h
  · cases h
  · obtain ⟨-, heq⟩ := Option.ite_none_right_eq_some.1 h
    cases heq
    rfl
  · cases h
    rfl

/-- A numeral has no more digits than its text has characters. -/
theorem Numeral.length_digits_le {t : Text} {n : Numeral} (h : ofText? t = some n) : n.digits.length ≤ t.length := by
  have hhex : (if t.head? == some '0' && (t[1]? == some 'x' || t[1]? == some 'X') then t.drop 2 else []).length ≤
      t.length := by
    split
    · exact (List.drop_sublist 2 t).length_le
    · exact Nat.zero_le _
  unfold ofText? at h
  generalize (if t.head? == some '0' && (t[1]? == some 'x' || t[1]? == some 'X') then t.drop 2 else []) = hex at h hhex
  simp only at h
  split at h
  · obtain ⟨-, heq⟩ := Option.ite_none_right_eq_some.1 h
    cases heq
    exact (List.takeWhile_sublist _).length_le.trans hhex
  · obtain ⟨-, hdigits⟩ := Option.ite_none_right_eq_some.1 h
    rw [digits_ofDigits? hdigits]
    exact (List.takeWhile_sublist _).length_le

/-- An expression that is not longer than the limit has no longer numbers. -/
theorem hasShortNumbers_of_length_le {t : Text} (h : t.length ≤ digitLimit) : HasShortNumbers t := by
  intro l hl _ n hn _
  obtain ⟨hrest, htext⟩ := suffix_of_mem_lexemesFrom hl
  calc n.digits.length ≤ l.text.length := Numeral.length_digits_le hn
    _ ≤ (Text.trim t).length := htext.length_le.trans hrest.length_le
    _ ≤ t.length := (trim_within t).length_le
    _ ≤ digitLimit := h

/-! ## Problems -/

/-- Putting tokens into order meets no problem but parentheses without partners. -/
theorem Postfix.eq_of_mem_problems {p : Problem} {ts waiting : List Token}
    (h : p ∈ (ofTokensFrom waiting ts).problems) : p = .mismatchedParentheses := by
  induction ts generalizing waiting with
  | nil =>
    obtain ⟨t, -, rfl⟩ := List.mem_map.1 h
    rfl
  | cons t ts ih =>
    unfold ofTokensFrom at h
    split at h
    · exact ih h
    · split at h
      · exact ih h
      · split at h
        · cases hbelow : waiting.dropWhile (!·.isOpening) with
          | nil =>
            rw [hbelow] at h
            rcases List.mem_cons.1 h with rfl | h
            · rfl
            · exact ih h
          | cons w below =>
            rw [hbelow] at h
            exact ih h
        · exact ih h

theorem eq_of_mem_applyText {op : Text} {left right : Int} {p : Problem} (h : p ∈ (applyText op left right).2) :
    p = .divisionByZero := by
  unfold applyText at h
  split at h
  · cases h
  · split at h
    · exact List.mem_singleton.1 h
    · cases h

/-- Evaluating tokens meets no problem but divisions by zero. -/
theorem Evaluation.eq_of_mem_problems {p : Problem} {ts : List Token} {values : List Int}
    (h : p ∈ (ofTokensFrom values ts).problems) : p = .divisionByZero := by
  induction ts generalizing values with
  | nil => cases h
  | cons t ts ih =>
    unfold ofTokensFrom at h
    split at h
    · exact ih h
    · split at h
      · rcases List.mem_append.1 h with h | h
        · exact eq_of_mem_applyText h
        · exact ih h
      · exact ih h
    · split at h
      · cases h
      · exact ih h

/-! ## Values of expressions -/

/-- The value of tokens in the order in which they are read. -/
def valueOfTokens (ts : List Token) : Except DigitLimit Int := (Evaluation.ofTokens (Postfix.ofTokens ts).tokens).value

/-- The value of an expression whose names are answered by `answers`; a name without an answer is passed over. -/
def valueOver (answers : Text → Option Int) (expression : Text) : Except DigitLimit Int :=
  (tokenize answers expression).outcome.bind valueOfTokens

theorem valueOver_eq_ok_iff {answers : Text → Option Int} {t : Text} {v : Int} : valueOver answers t = .ok v ↔
    ∃ ts, (tokenize answers t).outcome = .ok ts ∧ valueOfTokens ts = .ok v := bind_eq_ok

/-- **An expression has a value** if its numbers and the answers to its names have few digits. -/
theorem exists_valueOver {t : Text} (h : HasShortNumbers t) {answers : Text → Option Int}
    (ha : ∀ l ∈ (lexemes t).1, l.kind = .identifier → ∀ v, answers l.text = some v → FewDigits v) :
    ∃ v, valueOver answers t = .ok v := by
  obtain ⟨ts, hts⟩ := exists_tokens ha
  have hvalue : ∃ v, valueOfTokens ts = .ok v := by
    refine Evaluation.exists_value (fun u hu hk => ?_) []
    obtain ⟨l, hl, htoken⟩ := mem_tokens hts (Postfix.mem_ofTokens hu)
    rcases Token.number_of_ofLexeme htoken hk with ⟨hkind, htext⟩ | ⟨-, w, -, hw⟩
    · rw [htext]
      exact h.readInteger hl hkind
    · exact ⟨_, readInteger_of_writeInteger hw⟩
  obtain ⟨v, hv⟩ := hvalue
  exact ⟨v, valueOver_eq_ok_iff.2 ⟨ts, hts, hv⟩⟩

theorem valueOver_word {answers : Text → Option Int} {t : Text} {v : Int} (h : valueOver answers t = .ok v) :
    ∃ w : BitVec 32, v = w.toInt := by
  obtain ⟨ts, -, hts⟩ := valueOver_eq_ok_iff.1 h
  exact Evaluation.ofTokens_word hts

end GameSource
