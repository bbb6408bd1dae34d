import GameSource.Proofs.Expr.Pasted
/-!
# Parentheses and their partners

Tokens come out in postfix order as they went in, operators later than before and parentheses not at all
(`Postfix.ofTokens_rearranges`).  What is told are the parentheses without partners, one problem each.  A parenthesis
has its partner where bracket matching looks for it: the two open and close, and between them every parenthesis has its
partner (`Partners`).

The run keeps no partners.  It knows how many parentheses stand open, so a closing one is told where none does, and at
the end each that is left.  Both counts are those of the places without a partner (`lonely_eq_length`).
-/
namespace GameSource

namespace Token

def isParenthesis (t : Token) : Bool := t.opens || t.closes

theorem isClosing_of_isOpening {t : Token} (h : t.isOpening = true) : t.isClosing = false := by
  have htext : t.text = ['('] := by simpa [isOpening] using h
  simp [isClosing, htext]

theorem closes_of_opens {t : Token} (h : t.opens = true) : t.closes = false := by
  rw [closes, isClosing_of_isOpening (Bool.and_eq_true_iff.1 h).2, Bool.and_false]

theorem opens_of_closes {t : Token} (h : t.closes = true) : t.opens = false := by
  cases hopens : t.opens with
  | false => rfl
  | true => simp [closes_of_opens hopens] at h

/-- The parentheses of tokens have their partners among them and among `opened` ones that stand open before them. -/
abbrev balanced (opened : Nat) (ts : List Token) : Bool := balancedFrom opens closes opened ts

end Token

/-! ## Partners -/

/-- The parentheses at two places are partners: what stands between them is balanced. -/
def Partners (ts : List Token) (i j : Nat) : Prop :=
  i < j ∧ ts[i]?.any Token.opens ∧ ts[j]?.any Token.closes ∧ Token.balanced 0 ((ts.take j).drop (i + 1))

instance (ts : List Token) (i j : Nat) : Decidable (Partners ts i j) := inferInstanceAs (Decidable (_ ∧ _ ∧ _ ∧ _))

/-- At the place is a parenthesis that has no partner at any other. -/
def Unpartnered (ts : List Token) (i : Nat) : Prop :=
  ts[i]?.any Token.isParenthesis ∧ ∀ j < ts.length, ¬ Partners ts i j ∧ ¬ Partners ts j i

instance (ts : List Token) (i : Nat) : Decidable (Unpartnered ts i) :=
  inferInstanceAs (Decidable (_ ∧ ∀ j < ts.length, _))

/-- The places of the parentheses without partners. -/
def unpartnered (ts : List Token) : List Nat := (List.range ts.length).filter (Unpartnered ts ·)

/-! ## Counting from one end -/

/-- How many closing parentheses of the tokens want a partner before them. -/
def wanting : List Token → Nat
  | [] => 0
  | t :: ts => if t.opens then wanting ts - 1 else if t.closes then wanting ts + 1 else wanting ts

/-- How many parentheses stand open behind the tokens, of which `opened` do before them. -/
def openBehind : (opened : Nat) → List Token → Nat
  | opened, [] => opened
  | opened, t :: ts =>
    if t.opens then openBehind (opened + 1) ts else if t.closes then openBehind (opened - 1) ts else openBehind opened ts

/-- How many parentheses a run tells that has `opened` ones waiting. -/
def lonely : (opened : Nat) → List Token → Nat
  | opened, [] => opened
  | opened, t :: ts =>
    if t.opens then lonely (opened + 1) ts
    else if t.closes then if opened = 0 then lonely 0 ts + 1 else lonely (opened - 1) ts
    else lonely opened ts

/-- A list is taken apart at its head or behind it. -/
theorem exists_split_cons {α : Type} {p : List α → α → List α → Prop} {a : α} {as : List α} :
    (∃ before b behind, a :: as = before ++ b :: behind ∧ p before b behind) ↔
      p [] a as ∨ ∃ before b behind, as = before ++ b :: behind ∧ p (a :: before) b behind := by
  constructor
  · rintro ⟨_ | ⟨c, before⟩, b, behind, heq, h⟩
    · cases heq
      exact .inl h
    · cases heq
      exact .inr ⟨before, b, behind, rfl, h⟩
  · rintro (h | ⟨before, b, behind, rfl, h⟩)
    · exact ⟨[], a, as, rfl, h⟩
    · exact ⟨a :: before, b, behind, rfl, h⟩

/-- More closing parentheses want a partner than stand open, exactly if one comes where those that stand open have
found theirs. -/
theorem lt_wanting_iff : ∀ {ts : List Token} {opened : Nat}, opened < wanting ts ↔
    ∃ inner t rest, ts = inner ++ t :: rest ∧ t.closes ∧ Token.balanced opened inner
  | [], opened => by simp [wanting]
  | t :: ts, opened => by
    rw [exists_split_cons (p := fun inner u _ => u.closes = true ∧ Token.balanced opened inner = true), wanting]
    simp only [balancedFrom]
    cases hopens : t.opens with
    | true =>
      have hlt : opened < wanting ts - 1 ↔ opened + 1 < wanting ts := by omega
      simp [Token.closes_of_opens hopens, hlt, lt_wanting_iff]
    | false =>
      cases hcloses : t.closes with
      | false => simp [lt_wanting_iff]
      | true =>
        cases opened with
        | zero => simp
        | succ opened => simp [lt_wanting_iff]

/-- A parenthesis stands open behind tokens if it opens among them and what follows it is balanced, or if they close
fewer than stood open before. -/
theorem openBehind_pos_iff : ∀ (ts : List Token) (opened : Nat), 0 < openBehind opened ts ↔
    (∃ rest t inner, ts = rest ++ t :: inner ∧ t.opens ∧ Token.balanced 0 inner) ∨
      ∃ k < opened, Token.balanced k ts
  | [], opened => by simp [openBehind, balancedFrom]
  | t :: ts, opened => by
    rw [exists_split_cons (p := fun _ u inner => u.opens = true ∧ Token.balanced 0 inner = true), openBehind]
    simp only [balancedFrom]
    cases hopens : t.opens with
    | true =>
      simp only [if_true, openBehind_pos_iff ts, true_and, Nat.exists_lt_succ_left, or_assoc]
      exact or_left_comm
    | false =>
      cases hcloses : t.closes with
      | false => simp [openBehind_pos_iff ts]
      | true =>
        cases opened with
        | zero => simp [openBehind_pos_iff ts]
        | succ opened =>
          rw [Nat.exists_lt_succ_left]
          simp [openBehind_pos_iff ts]

/-! ## Counting place by place -/

/-- At the place is a parenthesis that finds no partner from where it stands, `opened` standing open before all. -/
def isLonely (opened : Nat) (ts : List Token) (i : Nat) : Bool :=
  (ts[i]?.any Token.opens && wanting (ts.drop (i + 1)) == 0) ||
    (ts[i]?.any Token.closes && openBehind opened (ts.take i) == 0)

theorem isLonely_zero (opened : Nat) (t : Token) (ts : List Token) :
    isLonely opened (t :: ts) 0 = (t.opens && wanting ts == 0 || t.closes && opened == 0) := by
  simp [isLonely, openBehind]

/-- Behind a token places are counted from the next, with as many open as the token leaves. -/
theorem countP_isLonely_cons {opened : Nat} (opened' : Nat) {t : Token}
    (h : ∀ us, openBehind opened (t :: us) = openBehind opened' us) (ts : List Token) :
    (List.range (t :: ts).length).countP (isLonely opened (t :: ts)) =
      (List.range ts.length).countP (isLonely opened' ts) + if isLonely opened (t :: ts) 0 then 1 else 0 := by
  have hshift : isLonely opened (t :: ts) ∘ Nat.succ = isLonely opened' ts := by
    funext i
    simp [isLonely, h]
  rw [List.length_cons, List.range_succ_eq_map, List.countP_cons, List.countP_map, hshift]

/-- **The run tells as many as are lonely where they stand**, and those that stood open before and stay so. -/
theorem lonely_eq : ∀ (opened : Nat) (ts : List Token),
    lonely opened ts = opened - wanting ts + (List.range ts.length).countP (isLonely opened ts)
  | opened, [] => by simp [lonely, wanting]
  | opened, t :: ts => by
    cases hopens : t.opens with
    | true =>
      have hcloses := Token.closes_of_opens hopens
      rw [countP_isLonely_cons (opened + 1) (by simp [openBehind, hopens]), isLonely_zero, lonely, wanting,
        hopens, hcloses, if_pos rfl, if_pos rfl, lonely_eq]
      by_cases hw : wanting ts = 0
      · simp [hw]
        omega
      · simp [hw]
        omega
    | false =>
      cases hcloses : t.closes with
      | false =>
        rw [countP_isLonely_cons opened (by simp [openBehind, hopens, hcloses]), isLonely_zero, lonely]
        simp [hopens, hcloses, lonely_eq, wanting]
      | true =>
        rw [countP_isLonely_cons (opened - 1) (by simp [openBehind, hopens, hcloses]), isLonely_zero, lonely]
        cases opened with
        | zero => simp [hopens, hcloses, lonely_eq]
        | succ opened => simp [hopens, hcloses, lonely_eq, wanting]

/-! ## Lonely places have no partners -/

/-- A list is taken apart at one of its places. -/
theorem exists_split_iff {α : Type} {p : List α → α → List α → Prop} {as : List α} :
    (∃ before b behind, as = before ++ b :: behind ∧ p before b behind) ↔
      ∃ i a, as[i]? = some a ∧ p (as.take i) a (as.drop (i + 1)) := by
  constructor
  · rintro ⟨before, b, behind, rfl, h⟩
    exact ⟨before.length, b, by simp, by simpa using h⟩
  · rintro ⟨i, a, ha, h⟩
    obtain ⟨hi, rfl⟩ := List.getElem?_eq_some_iff.1 ha
    exact ⟨as.take i, as[i], as.drop (i + 1), by simp, h⟩

variable {ts : List Token} {i : Nat}

theorem wanting_drop_pos_iff (hopens : ts[i]?.any Token.opens) :
    0 < wanting (ts.drop (i + 1)) ↔ ∃ j, Partners ts i j := by
  rw [lt_wanting_iff, exists_split_iff (p := fun inner t _ => t.closes = true ∧ Token.balanced 0 inner = true)]
  have hplace (k : Nat) (t : Token) : ((ts.drop (i + 1))[k]? = some t ∧ t.closes ∧
      Token.balanced 0 ((ts.drop (i + 1)).take k)) ↔ ts[i + 1 + k]? = some t ∧ t.closes ∧
        Token.balanced 0 ((ts.take (i + 1 + k)).drop (i + 1)) := by
    rw [List.getElem?_drop, List.drop_take, Nat.add_sub_cancel_left]
  constructor
  · rintro ⟨k, t, h⟩
    obtain ⟨ht, hcloses, hbalanced⟩ := (hplace k t).1 h
    exact ⟨i + 1 + k, by omega, hopens, by simp [ht, hcloses], hbalanced⟩
  · rintro ⟨j, hlt, -, hat, hbalanced⟩
    obtain ⟨t, ht, hcloses⟩ := (Option.any_eq_true _ _).1 hat
    obtain ⟨k, rfl⟩ := Nat.exists_eq_add_of_le (Nat.succ_le_of_lt hlt)
    exact ⟨k, t, (hplace k t).2 ⟨ht, hcloses, hbalanced⟩⟩

theorem openBehind_take_pos_iff (hcloses : ts[i]?.any Token.closes) :
    0 < openBehind 0 (ts.take i) ↔ ∃ j, Partners ts j i := by
  rw [openBehind_pos_iff, exists_split_iff (p := fun _ t inner => t.opens = true ∧ Token.balanced 0 inner = true)]
  simp only [Nat.not_lt_zero, false_and, exists_false, or_false]
  constructor
  · rintro ⟨j, t, ht, hopens, hbalanced⟩
    rw [List.getElem?_take] at ht
    split at ht
    · exact ⟨j, ‹_›, by simp [ht, hopens], hcloses, hbalanced⟩
    · cases ht
  · rintro ⟨j, hlt, hat, -, hbalanced⟩
    obtain ⟨t, ht, hopens⟩ := (Option.any_eq_true _ _).1 hat
    exact ⟨j, t, by rw [List.getElem?_take, if_pos hlt, ht], hopens, hbalanced⟩

theorem unpartnered_iff_not_exists : Unpartnered ts i ↔
    ts[i]?.any Token.isParenthesis ∧ (¬ ∃ j, Partners ts i j) ∧ ¬ ∃ j, Partners ts j i := by
  have hwithin {j : Nat} (h : Partners ts i j ∨ Partners ts j i) : j < ts.length := by
    by_contra hle
    have hnone : ts[j]? = none := List.getElem?_eq_none (Nat.le_of_not_lt hle)
    rcases h with ⟨-, -, hat, -⟩ | ⟨-, hat, -⟩ <;> simp [hnone] at hat
  refine and_congr_right fun _ => ⟨fun h => ⟨?_, ?_⟩, fun h j _ => ⟨?_, ?_⟩⟩
  · rintro ⟨j, hj⟩
    exact (h j (hwithin (.inl hj))).1 hj
  · rintro ⟨j, hj⟩
    exact (h j (hwithin (.inr hj))).2 hj
  · exact fun hj => h.1 ⟨j, hj⟩
  · exact fun hj => h.2 ⟨j, hj⟩

/-- **A parenthesis has no partner exactly where it is lonely.** -/
theorem unpartnered_iff : Unpartnered ts i ↔ isLonely 0 ts i := by
  rw [unpartnered_iff_not_exists]
  cases ht : ts[i]? with
  | none => simp [isLonely, ht]
  | some t =>
    have hopening (h : ∃ j, Partners ts i j) : t.opens = true := by
      obtain ⟨j, -, hat, -⟩ := h
      simpa [ht] using hat
    have hclosing (h : ∃ j, Partners ts j i) : t.closes = true := by
      obtain ⟨j, -, -, hat, -⟩ := h
      simpa [ht] using hat
    cases hopens : t.opens with
    | true =>
      have hcloses := Token.closes_of_opens hopens
      rw [← wanting_drop_pos_iff (by simp [ht, hopens])]
      have hbefore : ¬ ∃ j, Partners ts j i := fun h => by simp [hclosing h] at hcloses
      simp [isLonely, ht, hopens, hcloses, hbefore, Token.isParenthesis]
    | false =>
      have hbehind : ¬ ∃ j, Partners ts i j := fun h => by simp [hopening h] at hopens
      cases hcloses : t.closes with
      | true =>
        rw [← openBehind_take_pos_iff (by simp [ht, hcloses])]
        simp [isLonely, ht, hopens, hcloses, hbehind, Token.isParenthesis]
      | false => simp [isLonely, ht, hopens, hcloses, Token.isParenthesis]

/-- **As many parentheses are told as there are without partners.** -/
theorem lonely_eq_length (ts : List Token) : lonely 0 ts = (unpartnered ts).length := by
  have hplaces : (Unpartnered ts · : Nat → Bool) = isLonely 0 ts := by
    funext i
    rw [Bool.eq_iff_iff, decide_eq_true_iff, unpartnered_iff]
  rw [lonely_eq, unpartnered, ← List.countP_eq_length_filter, hplaces, Nat.zero_sub, Nat.zero_add]

/-- In `)(()` the first and the second parenthesis are without partners. -/
example : unpartnered [.closing, .opening, .opening, .closing] = [0, 1] ∧
    lonely 0 [.closing, .opening, .opening, .closing] = 2 := by decide

/-! ## What a token does -/

namespace Postfix

/-- What waits: operators, and parentheses that stand open. -/
def Waits (waiting : List Token) : Prop := ∀ w ∈ waiting, w.isOperator = true ∧ w.isClosing = false

theorem Waits.subset {waiting ops : List Token} (hw : Waits waiting) (h : ops ⊆ waiting) : Waits ops :=
  fun w hmem => hw w (h hmem)

theorem Waits.isParenthesis {waiting : List Token} (hw : Waits waiting) {w : Token} (h : w ∈ waiting) :
    w.isParenthesis = w.isOpening := by
  simp [Token.isParenthesis, Token.opens, Token.closes, hw w h]

theorem Waits.filter_operators {ops : List Token} (hw : Waits ops) (hops : ∀ w ∈ ops, w.isOpening = false) :
    ops.filter (!·.isParenthesis) = ops :=
  List.filter_eq_self.2 fun w h => by rw [hw.isParenthesis h, hops w h]; rfl

theorem countP_isOpening_eq_zero {ops : List Token} (hops : ∀ w ∈ ops, w.isOpening = false) :
    ops.countP Token.isOpening = 0 := List.countP_eq_zero.2 fun w h => by simp [hops w h]

/-- `Step waiting t out left told`: with the token, `out` goes to the output, `left` waits and `told` is told. -/
inductive Step (waiting : List Token) (t : Token) : (out left : List Token) → (told : List Problem) → Prop where
  | value (h : t.isOperator = false) : Step waiting t [t] waiting []
  | opening (h : t.opens = true) : Step waiting t [] (t :: waiting) []
  /-- The parenthesis that closes finds the latest that waits, and releases what waits before it. -/
  | closing {ops below : List Token} {o : Token} (h : t.closes = true) (hsplit : waiting = ops ++ o :: below)
      (ho : o.isOpening = true) (hops : ∀ w ∈ ops, w.isOpening = false) : Step waiting t ops below []
  | mismatch (h : t.closes = true) (hwaiting : ∀ w ∈ waiting, w.isOpening = false) :
      Step waiting t waiting [] [.mismatchedParentheses]
  | operator {ops kept : List Token} (h : t.isOperator = true) (hplain : t.isOpening = false ∧ t.isClosing = false)
      (hsplit : waiting = ops ++ kept) (hops : ∀ w ∈ ops, w.isOpening = false) : Step waiting t ops (t :: kept) []

/-- **Every token takes a step**, and the run goes on with what waits then. -/
theorem exists_step (waiting : List Token) (t : Token) : ∃ out left told, Step waiting t out left told ∧
    ∀ ts, ofTokensFrom waiting (t :: ts) =
      ⟨out ++ (ofTokensFrom left ts).tokens, told ++ (ofTokensFrom left ts).problems⟩ := by
  have hsplit (p : Token → Bool) : waiting = waiting.takeWhile p ++ waiting.dropWhile p :=
    List.takeWhile_append_dropWhile.symm
  have hops : ∀ w ∈ waiting.takeWhile (!·.isOpening), w.isOpening = false := fun w hw => by
    simpa using List.all_eq_true.1 List.all_takeWhile w hw
  cases hoperator : t.isOperator with
  | false => exact ⟨_, _, _, .value hoperator, fun ts => by rw [ofTokensFrom_number hoperator]; rfl⟩
  | true =>
    cases hopening : t.isOpening with
    | true =>
      refine ⟨_, _, _, .opening (by simp [Token.opens, hoperator, hopening]), fun ts => ?_⟩
      rw [ofTokensFrom, hoperator, hopening]
      rfl
    | false =>
      cases hclosing : t.isClosing with
      | true =>
        have hcloses : t.closes = true := by simp [Token.closes, hoperator, hclosing]
        cases hbelow : waiting.dropWhile (!·.isOpening) with
        | nil =>
          have hall : waiting = waiting.takeWhile (!·.isOpening) := by
            conv_lhs => rw [hsplit (!·.isOpening), hbelow, List.append_nil]
          refine ⟨_, _, _, .mismatch hcloses (hall ▸ hops), fun ts => ?_⟩
          rw [ofTokensFrom, hoperator, hopening, hclosing, hbelow, ← hall]
          rfl
        | cons o below =>
          have ho : o.isOpening = true := by
            simpa [hbelow] using List.head?_dropWhile_not (fun t : Token => !t.isOpening) waiting
          refine ⟨_, _, _, .closing hcloses (hbelow ▸ hsplit _) ho hops, fun ts => ?_⟩
          rw [ofTokensFrom, hoperator, hopening, hclosing, hbelow]
          rfl
      | false =>
        have hreleased : ∀ w ∈ waiting.takeWhile t.releases, w.isOpening = false := fun w hw => by
          have hreleases := List.all_eq_true.1 List.all_takeWhile w hw
          simp only [Token.releases, Bool.and_eq_true, Bool.not_eq_true'] at hreleases
          exact hreleases.1
        refine ⟨_, _, _, .operator hoperator ⟨hopening, hclosing⟩ (hsplit t.releases) hreleased, fun ts => ?_⟩
        rw [ofTokensFrom, hoperator, hopening, hclosing]
        rfl

namespace Step

variable {waiting out left : List Token} {t : Token} {told : List Problem}

theorem waits (h : Step waiting t out left told) (hw : Waits waiting) : Waits left := by
  cases h with
  | value _ => exact hw
  | opening h =>
    obtain ⟨hoperator, hopening⟩ := Bool.and_eq_true_iff.1 h
    exact List.forall_mem_cons.2 ⟨⟨hoperator, Token.isClosing_of_isOpening hopening⟩, hw⟩
  | closing _ hsplit _ _ =>
    subst hsplit
    exact hw.subset fun w hmem => by simp [hmem]
  | mismatch _ _ => simp [Waits]
  | operator h hplain hsplit _ =>
    subst hsplit
    exact List.forall_mem_cons.2 ⟨⟨h, hplain.2⟩, hw.subset (List.subset_append_right _ _)⟩

/-- **A step loses and makes no tokens** but parentheses. -/
theorem perm (h : Step waiting t out left told) (hw : Waits waiting) :
    (out ++ left.filter (!·.isParenthesis)).Perm
      (waiting.filter (!·.isParenthesis) ++ [t].filter (!·.isParenthesis)) := by
  cases h with
  | value h =>
    have ht : t.isParenthesis = false := by simp [Token.isParenthesis, Token.opens, Token.closes, h]
    rw [List.filter_singleton, ht]
    exact List.perm_append_comm
  | opening h =>
    have ht : t.isParenthesis = true := by simp [Token.isParenthesis, h]
    simp [ht]
  | @closing _ _ o h hsplit ho hops =>
    subst hsplit
    have ht : t.isParenthesis = true := by simp [Token.isParenthesis, h]
    have hoParenthesis : o.isParenthesis = true := by rw [hw.isParenthesis (by simp), ho]
    have hout := (hw.subset (List.subset_append_left _ _)).filter_operators hops
    simp [ht, hoParenthesis, hout]
  | mismatch h hwaiting =>
    have ht : t.isParenthesis = true := by simp [Token.isParenthesis, h]
    simp [ht, hw.filter_operators hwaiting]
  | @operator _ kept h hplain hsplit hops =>
    subst hsplit
    have ht : t.isParenthesis = false := by simp [Token.isParenthesis, Token.opens, Token.closes, hplain]
    have hout := (hw.subset (List.subset_append_left _ _)).filter_operators hops
    simp only [List.filter_append, List.filter_cons, ht, hout, List.filter_nil, Bool.not_false, if_true,
      List.append_assoc]
    exact List.Perm.append_left out (List.perm_append_singleton t _).symm

/-- Only a value goes to the output at once; operators and parentheses are no values. -/
theorem values (h : Step waiting t out left told) (hw : Waits waiting) :
    out.filter (!·.isOperator) = [t].filter (!·.isOperator) := by
  have hnone {ops : List Token} (hops : ops ⊆ waiting) : ops.filter (!·.isOperator) = [] :=
    List.filter_eq_nil_iff.2 fun w hmem => by simp [(hw w (hops hmem)).1]
  cases h with
  | value _ => rfl
  | opening h => simp [(Bool.and_eq_true_iff.1 h).1]
  | closing h hsplit _ _ => simp [(Bool.and_eq_true_iff.1 h).1, hnone (hsplit ▸ List.subset_append_left _ _)]
  | mismatch h _ => simp [(Bool.and_eq_true_iff.1 h).1, hnone (List.Subset.refl _)]
  | operator h _ hsplit _ => simp [h, hnone (hsplit ▸ List.subset_append_left _ _)]

/-- **What is told goes off what there is to tell.** -/
theorem lonely (h : Step waiting t out left told) (ts : List Token) :
    told.length + GameSource.lonely (left.countP Token.isOpening) ts =
      GameSource.lonely (waiting.countP Token.isOpening) (t :: ts) := by
  rw [GameSource.lonely]
  cases h with
  | value h => simp [Token.opens, Token.closes, h]
  | opening h =>
    have hopening := (Bool.and_eq_true_iff.1 h).2
    simp [h, hopening]
  | closing h hsplit ho hops =>
    subst hsplit
    simp [h, Token.opens_of_closes h, ho, countP_isOpening_eq_zero hops]
  | mismatch h hwaiting =>
    simp [h, Token.opens_of_closes h, countP_isOpening_eq_zero hwaiting, Nat.add_comm]
  | operator h hplain hsplit hops =>
    subst hsplit
    simp [Token.opens, Token.closes, hplain, countP_isOpening_eq_zero hops]

end Step

/-! ## The whole run -/

theorem perm_ofTokensFrom : ∀ {ts waiting : List Token}, Waits waiting →
    (ofTokensFrom waiting ts).tokens.Perm (waiting.filter (!·.isParenthesis) ++ ts.filter (!·.isParenthesis))
  | [], waiting, hw => by
    have hfinish : waiting.filter (fun t => !(t.isOpening || t.isClosing)) = waiting.filter (!·.isParenthesis) :=
      List.filter_congr fun w h => by rw [hw.isParenthesis h, (hw w h).2, Bool.or_false]
    rw [List.filter_nil, List.append_nil, ← hfinish]
    exact .refl _
  | t :: ts, waiting, hw => by
    obtain ⟨out, left, told, hstep, hrun⟩ := exists_step waiting t
    rw [hrun, ← List.singleton_append, List.filter_append, ← List.append_assoc]
    exact ((perm_ofTokensFrom (hstep.waits hw)).append_left out).trans
      (by simpa using (hstep.perm hw).append_right (ts.filter (!·.isParenthesis)))

theorem values_ofTokensFrom : ∀ {ts waiting : List Token}, Waits waiting →
    (ofTokensFrom waiting ts).tokens.filter (!·.isOperator) = ts.filter (!·.isOperator)
  | [], waiting, hw => List.filter_eq_nil_iff.2 fun w h => by simp [(hw w (List.mem_filter.1 h).1).1]
  | t :: ts, waiting, hw => by
    obtain ⟨out, left, told, hstep, hrun⟩ := exists_step waiting t
    rw [hrun, List.filter_append, hstep.values hw, values_ofTokensFrom (hstep.waits hw), ← List.filter_append,
      List.singleton_append]

theorem length_problems_ofTokensFrom : ∀ {ts waiting : List Token}, Waits waiting →
    (ofTokensFrom waiting ts).problems.length = lonely (waiting.countP Token.isOpening) ts
  | [], waiting, hw => by
    have hfinish : waiting.countP (fun t => t.isOpening || t.isClosing) = waiting.countP Token.isOpening :=
      List.countP_congr fun w h => by rw [(hw w h).2, Bool.or_false]
    rw [ofTokensFrom, finish, List.length_map, ← List.countP_eq_length_filter, hfinish]
    rfl
  | t :: ts, waiting, hw => by
    obtain ⟨out, left, told, hstep, hrun⟩ := exists_step waiting t
    rw [hrun, List.length_append, length_problems_ofTokensFrom (hstep.waits hw), hstep.lonely]

/-- **Tokens in postfix order** are those that were put in without the parentheses, each as often; what is no operator
stays in order; and what is told are the parentheses without partners, one problem each. -/
theorem ofTokens_rearranges (ts : List Token) :
    (ofTokens ts).tokens.Perm (ts.filter (!·.isParenthesis)) ∧
    (ofTokens ts).tokens.filter (!·.isOperator) = ts.filter (!·.isOperator) ∧
    (ofTokens ts).problems = (unpartnered ts).map fun _ => .mismatchedParentheses := by
  have hwaits : Waits [] := by simp [Waits]
  have hlength : (ofTokens ts).problems.length = (unpartnered ts).length :=
    (length_problems_ofTokensFrom hwaits).trans (lonely_eq_length ts)
  refine ⟨perm_ofTokensFrom hwaits, values_ofTokensFrom hwaits, ?_⟩
  rw [List.map_const', ← hlength]
  exact List.eq_replicate_iff.2 ⟨rfl, fun p hp => eq_of_mem_problems hp⟩

end Postfix

end GameSource
