import GameSource.Proofs.Initializer.Lexeme
/-!
# Whether the text of tokens is read back

Tokens are put on one line with spaces only where they are usual.  Where a space is left out the next token can grow onto
the one before it (`fuses`): a sign onto a sign, a point onto a number, an equals sign onto an exclamation mark.  Just
these neighbours, and the line feeds in quoted texts, keep the text of tokens from being read as the tokens again
(`lex_render_iff`).
-/
namespace GameSource.Initializer

/-! ## Neighbours -/

/-- The second token grows onto the first one, behind `earlier` and before `next`, since no space stands between them and
the reader takes the longest piece. -/
def fuses (earlier : Option Token) (a b : Token) (next : Option Token) : Bool :=
  !spaced earlier a b && (
    (a.kind == .number && (b.text == ['.'] || (endsWithMark a.text && b.text == ['-', '>']))) ||
    (a.text == ['!'] && b.text.head? == some '=') ||
    (a.text == ['-'] && (b.text.head? == some '-' || b.text.head? == some '>')) ||
    (a.text == ['+'] && b.text.head? == some '+') ||
    (a.text == ['&'] && b.text.head? == some '&') ||
    (a.text == ['.'] && (b.text.head?.any isDigit || b.text == ['.', '.', '.'] ||
      (b.text == ['.'] && next.any fun c => c.text.head? == some '.'))))

/-- Two neighbours fuse; `earlier` stands before the tokens. -/
def fusesIn : (earlier : Option Token) → List Token → Bool
  | _, [] => false
  | earlier, a :: ts => ts.head?.any (fun b => fuses earlier a b ts.tail.head?) || fusesIn (some a) ts

theorem IsLexeme.ne_nil {k : TokenKind} {t : Text} (h : IsLexeme k t) : t ≠ [] := by
  have hne : ∀ p ∈ punctuators, p ≠ [] := by decide
  cases h with
  | punctuator h => exact hne t h
  | _ => exact List.cons_ne_nil _ _

/-- The text of a punctuator is that of no other token. -/
theorem IsLexeme.not_mem_punctuators {k : TokenKind} {t : Text} (h : IsLexeme k t) (hk : k ≠ .punctuator) :
    t ∉ punctuators := by
  have hpunctuators : ∀ p ∈ punctuators, beginsNumber p = false ∧ p.head?.all fun c => c != '"' && c != '\'' &&
      !(c == '_' || isLetter c) := by decide
  intro hmem
  obtain ⟨hnumber, hhead⟩ := hpunctuators t hmem
  cases h with
  | identifier hc hd h =>
    rw [List.head?_cons, Option.all_some, hc, Bool.not_true, Bool.and_false] at hhead
    cases hhead
  | number hc h => exact absurd hc (by simp [hnumber])
  | charConstant h hj => simp at hhead
  | string h hj => simp at hhead
  | punctuator h => exact hk rfl

/-! ## Reading on before a plain character -/

/-- The characters with which no token grows. -/
def isPlain (c : Char) : Bool := [' ', ')', ']', ',', '(', '['].contains c

theorem isPlain_spec {c : Char} (h : isPlain c) : isWord c = false ∧ continuesNumber c = false ∧ isSign c = false ∧
    isExponentMark c = false ∧ isDigit c = false ∧ c ≠ '/' ∧ c ≠ '*' ∧ ∀ p ∈ punctuators, c ∉ p.tail := by
  simp only [isPlain, List.contains_iff_mem, List.mem_cons, List.not_mem_nil, or_false] at h
  rcases h with rfl | rfl | rfl | rfl | rfl | rfl <;> decide

theorem endsWithMark_number {c : Char} {s : Text} (h : beginsNumber (c :: s)) :
    endsWithMark (c :: s) = endsWithMark s := by
  cases s with
  | nil =>
    have hmark : isExponentMark c = false := by
      cases hm : isExponentMark c with
      | false => rfl
      | true =>
        simp only [isExponentMark, Bool.or_eq_true, beq_iff_eq] at hm
        rcases hm with ((rfl | rfl) | rfl) | rfl <;> exact absurd h (by decide)
    exact hmark
  | cons d ds => simp [endsWithMark]

/-- A number is read on by what goes on with it. -/
theorem piece?_number_append {t : Text} (h : IsLexeme .number t) (lineStart : Bool) (r : Text) :
    piece? lineStart (t ++ r) = .ok (.token .number, t.length +
      if endsWithMark t && beginsWithSign r then numberTail r.tail + 1 else numberTail r) := by
  cases h with
  | @number c s hc hs =>
    have hself : numberTail (s ++ []) = s.length := by rw [List.append_nil, hs]
    rw [piece?_number hc, numberTail_append hself r, endsWithMark_number hc, List.length_cons, Nat.add_right_comm]

/-- **A token before a plain character, or at the end, is read as it is.** -/
theorem piece?_plain {k : TokenKind} {t : Text} (h : IsLexeme k t) (lineStart : Bool) {r : Text}
    (hr : ∀ c ∈ r.head?, isPlain c) : piece? lineStart (t ++ r) = .ok (.token k, t.length) := by
  have hstops {p : Char → Bool} (hp : ∀ c, isPlain c → p c = false) : Stops p r := fun c hc => hp c (hr c hc)
  cases h with
  | identifier hc hd h => exact piece?_identifier hc hd h lineStart (hstops fun c hc => (isPlain_spec hc).1)
  | number hc hs =>
    have hnone : numberTail r = 0 ∧ beginsWithSign r = false := by
      cases r with
      | nil => exact ⟨rfl, rfl⟩
      | cons d ds =>
        obtain ⟨-, hnumber, hsign, hmark, -⟩ := isPlain_spec (hr d rfl)
        rw [numberTail_cons (by rw [hmark]; rfl), hnumber]
        exact ⟨rfl, hsign⟩
    rw [piece?_number_append (.number hc hs), hnone.1, hnone.2, Bool.and_false]
    rfl
  | charConstant h hj => exact piece?_charConstant h lineStart r
  | string h hj => exact piece?_string h lineStart r
  | punctuator h =>
    have hextends : ¬ Extends t r := by
      rintro ⟨q, hq, hmem, hpre⟩
      obtain ⟨c, q, rfl⟩ := List.exists_cons_of_ne_nil hq
      obtain ⟨rest, rfl⟩ := hpre
      obtain ⟨-, -, -, -, -, -, -, htail⟩ := isPlain_spec (hr c rfl)
      have hnot := htail _ hmem
      rw [List.tail_append_of_ne_nil (IsLexeme.punctuator h).ne_nil] at hnot
      exact hnot (by simp)
    have hhead (d : Char) (hd : isPlain d = false) : r.head? ≠ some d := fun hd' => by
      rw [hr d hd'] at hd
      cases hd
    have hdigit : r.head?.any isDigit = false := by
      cases r with
      | nil => rfl
      | cons d ds =>
        obtain ⟨-, -, -, -, hdigit, -⟩ := isPlain_spec (hr d rfl)
        exact hdigit
    exact piece?_punctuator h lineStart (fun _ => ⟨hhead '/' rfl, hhead '*' rfl⟩) (fun _ => hdigit)
      (find?_punctuator h hextends)

/-! ## Reading on where no space stands -/

/-- The first token of a text is read as it is, unless the text behind it grows onto it: then more is read. -/
def ReadsFirst (fused : Bool) (a : Token) (lineStart : Bool) (t : Text) : Prop :=
  if fused then ∃ k n, piece? lineStart t = .ok (.token k, n) ∧ a.text.length < n
  else piece? lineStart t = .ok (.token a.kind, a.text.length)

/-- The tokens that are put behind any other one without a space. -/
def followers : List Text := [")", "]", ",", ".", "->", "(", "["].map String.toList

variable {earlier next : Option Token} {a b : Token}

theorem mem_followers (hs : spaced earlier a b = false) (hn : a.text ∉ joinsNext) (hu : a.text ∉ unarySigns) :
    b.text ∈ followers := by
  have hsub : ∀ t ∈ joinsPrevious, t ∈ followers := by decide
  have hbrackets : ['('] ∈ followers ∧ ['['] ∈ followers := by decide
  simp only [spaced, Bool.not_eq_false', Bool.or_eq_true, Bool.and_eq_true, List.contains_iff_mem, beq_iff_eq] at hs
  rcases hs with ((h | h) | ⟨h | h, -⟩) | ⟨h, -⟩
  · exact absurd h hn
  · exact hsub _ h
  · rw [h]
    exact hbrackets.1
  · rw [h]
    exact hbrackets.2
  · exact absurd h hu

/-- A token that is no punctuator goes before a space, unless a follower comes. -/
theorem mem_followers_of_kind (ha : IsLexeme a.kind a.text) (hk : a.kind ≠ .punctuator)
    (hs : spaced earlier a b = false) : b.text ∈ followers := by
  have hnot := ha.not_mem_punctuators hk
  have hnext : ∀ t ∈ joinsNext, t ∈ punctuators := by decide
  have hunary : ∀ t ∈ unarySigns, t ∈ punctuators := by decide
  exact mem_followers hs (fun h => hnot (hnext _ h)) fun h => hnot (hunary _ h)

/-- Followers but the point and the arrow are plain. -/
theorem follower_plain {t : Text} (h : t ∈ followers) (r : Text) :
    t = ['.'] ∨ t = ['-', '>'] ∨ ∀ c ∈ (t ++ r).head?, isPlain c := by
  have hplain : ∀ t ∈ followers, t = ['.'] ∨ t = ['-', '>'] ∨ (t ≠ [] ∧ t.head?.all isPlain) := by decide
  rcases hplain t h with h | h | ⟨hne, hp⟩
  · exact .inl h
  · exact .inr (.inl h)
  · obtain ⟨c, s, rfl⟩ := List.exists_cons_of_ne_nil hne
    refine .inr (.inr fun d hd => ?_)
    cases hd
    exact hp

/-- The signs that a token behind them may grow onto. -/
theorem fuses_of_kind (ha : IsLexeme a.kind a.text) (hk : a.kind ≠ .punctuator) (hs : spaced earlier a b = false) :
    fuses earlier a b next =
      (a.kind == .number && (b.text == ['.'] || (endsWithMark a.text && b.text == ['-', '>']))) := by
  have hnot := ha.not_mem_punctuators hk
  have hsigns : ∀ t ∈ [['!'], ['-'], ['+'], ['&'], ['.']], a.text ≠ t := by
    have hmem : ∀ t ∈ [['!'], ['-'], ['+'], ['&'], ['.']], t ∈ punctuators := by decide
    intro t ht heq
    exact hnot (heq ▸ hmem t ht)
  simp only [List.mem_cons, List.not_mem_nil, or_false, forall_eq_or_imp, forall_eq] at hsigns
  obtain ⟨h1, h2, h3, h4, h5⟩ := hsigns
  simp only [fuses, hs, beq_eq_false_iff_ne.2 h1, beq_eq_false_iff_ne.2 h2, beq_eq_false_iff_ne.2 h3,
    beq_eq_false_iff_ne.2 h4, beq_eq_false_iff_ne.2 h5, Bool.not_false, Bool.true_and, Bool.false_and, Bool.or_false]

theorem readsFirst_word (ha : IsLexeme a.kind a.text) (hk : a.kind ≠ .punctuator) (hk' : a.kind ≠ .number)
    (hs : spaced earlier a b = false) (lineStart : Bool) (r : Text) :
    ReadsFirst (fuses earlier a b next) a lineStart (a.text ++ (b.text ++ r)) := by
  have hstop : Stops isWord (b.text ++ r) := by
    have hword : ∀ t ∈ followers, t ≠ [] ∧ t.head?.all fun c => !isWord c := by decide
    obtain ⟨hne, hhead⟩ := hword _ (mem_followers_of_kind ha hk hs)
    obtain ⟨c, s, hcs⟩ := List.exists_cons_of_ne_nil hne
    rw [hcs, List.cons_append]
    rw [hcs] at hhead
    exact .cons (by simpa using hhead)
  rw [ReadsFirst, fuses_of_kind ha hk hs, beq_eq_false_iff_ne.2 hk', Bool.false_and, if_neg Bool.false_ne_true]
  obtain ⟨k, t, p⟩ := a
  cases ha with
  | identifier hc hd h => exact piece?_identifier hc hd h lineStart hstop
  | number => exact absurd rfl hk'
  | charConstant h hj => exact piece?_charConstant h lineStart _
  | string h hj => exact piece?_string h lineStart _
  | punctuator => exact absurd rfl hk

theorem readsFirst_number (ha : IsLexeme a.kind a.text) (hk : a.kind = .number) (hs : spaced earlier a b = false)
    (lineStart : Bool) (r : Text) :
    ReadsFirst (fuses earlier a b next) a lineStart (a.text ++ (b.text ++ r)) := by
  have hne : a.kind ≠ .punctuator := by simp [hk]
  have hread := piece?_number_append (hk ▸ ha) lineStart (b.text ++ r)
  rw [ReadsFirst, fuses_of_kind ha hne hs, hk]
  rcases follower_plain (mem_followers_of_kind ha hne hs) r with h | h | h
  · have hpoint : numberTail (['.'] ++ r) = numberTail r + 1 := by
      rw [List.singleton_append, numberTail_cons rfl]
      rfl
    have hsign : beginsWithSign (['.'] ++ r) = false := rfl
    rw [h, hpoint, hsign, Bool.and_false, if_neg Bool.false_ne_true] at hread
    rw [h]
    exact ⟨_, _, hread, by omega⟩
  · have harrow : numberTail (['-', '>'] ++ r) = 0 := by
      rw [List.cons_append, numberTail_cons rfl]
      rfl
    have hsign : beginsWithSign (['-', '>'] ++ r) = true := rfl
    rw [h, harrow, hsign, Bool.and_true] at hread
    rw [h]
    cases hm : endsWithMark a.text with
    | true =>
      rw [hm, if_pos rfl] at hread
      exact ⟨_, _, hread, by omega⟩
    | false =>
      rw [hm, if_neg Bool.false_ne_true] at hread
      exact hread
  · have hnot : b.text ≠ ['.'] ∧ b.text ≠ ['-', '>'] := by
      constructor
      · intro hb
        rw [hb] at h
        exact absurd (h '.' rfl) (by decide)
      · intro hb
        rw [hb] at h
        exact absurd (h '-' rfl) (by decide)
    have hplain := piece?_plain (hk ▸ ha) lineStart h
    rw [beq_eq_false_iff_ne.2 hnot.1, beq_eq_false_iff_ne.2 hnot.2, Bool.and_false, Bool.or_false, Bool.and_false,
      if_neg Bool.false_ne_true]
    exact hplain

/-! ## Punctuators -/

/-- The punctuators that go on with a character, which is the first one behind them. -/
def growths : List (Text × Char) :=
  [(['!'], '='), (['-'], '>'), (['-'], '-'), (['+'], '+'), (['&'], '&'), (['.'], '.'), (['|'], '|'), (['='], '='),
    (['<'], '<'), (['<'], '='), (['<', '<'], '='), (['>'], '>'), (['>'], '='), (['>', '>'], '=')]

theorem extends_iff {p : Text} (hp : p ∈ punctuators) (hpoint : p ≠ ['.']) {c : Char} {r : Text} :
    Extends p (c :: r) ↔ (p, c) ∈ growths := by
  have hgrowths : ∀ p ∈ punctuators, ∀ e ∈ punctuators, p.isPrefixOf e = true →
      (e.drop p.length).head?.all fun c => growths.contains (p, c) := by decide
  have hpunctuators : ∀ g ∈ growths, g.1 = ['.'] ∨ g.1 ++ [g.2] ∈ punctuators := by decide
  constructor
  · rintro ⟨q, hq, hmem, hpre⟩
    obtain ⟨d, q, rfl⟩ := List.exists_cons_of_ne_nil hq
    obtain ⟨rest, hrest⟩ := hpre
    obtain ⟨rfl, -⟩ := List.cons.inj hrest
    have hd := hgrowths p hp _ hmem (List.isPrefixOf_iff_prefix.2 (List.prefix_append p _))
    rw [List.drop_left, List.head?_cons, Option.all_some, List.contains_iff_mem] at hd
    exact hd
  · intro h
    exact ⟨[c], by simp, (hpunctuators _ h).resolve_left hpoint, by simp⟩

/-- A point goes on only as three points. -/
theorem extends_point {r : Text} : Extends ['.'] r ↔ ∃ rest, r = '.' :: '.' :: rest := by
  have hpoints : ∀ e ∈ punctuators, e.head? = some '.' → e = ['.'] ∨ e = ['.', '.', '.'] := by decide
  constructor
  · rintro ⟨q, hq, hmem, rest, rfl⟩
    rcases hpoints _ hmem rfl with h | h
    · exact absurd (List.cons.inj h).2 hq
    · obtain rfl : q = ['.', '.'] := (List.cons.inj h).2
      exact ⟨rest, rfl⟩
  · rintro ⟨rest, rfl⟩
    exact ⟨['.', '.'], by simp, by decide, rest, rfl⟩

/-- A punctuator is read as it is unless a longer one begins there. -/
theorem readsFirst_of_extends (hk : a.kind = .punctuator) (ha : a.text ∈ punctuators) (lineStart : Bool) {r : Text}
    (hslash : a.text = ['/'] → r.head? ≠ some '/' ∧ r.head? ≠ some '*')
    (hpoint : a.text = ['.'] → r.head?.any isDigit = false) {fused : Bool} (hfused : fused = true ↔ Extends a.text r) :
    ReadsFirst fused a lineStart (a.text ++ r) := by
  by_cases hx : Extends a.text r
  · obtain ⟨e, he, hlt⟩ := find?_punctuator_longer ha hx
    rw [ReadsFirst, if_pos (hfused.2 hx)]
    exact ⟨_, _, piece?_punctuator ha lineStart hslash hpoint he, hlt⟩
  · rw [ReadsFirst, if_neg fun h => hx (hfused.1 h), hk]
    exact piece?_punctuator ha lineStart hslash hpoint (find?_punctuator ha hx)

/-- A lexeme that begins with a point is one point, three points, or a number. -/
theorem IsLexeme.of_point {k : TokenKind} {t : Text} (h : IsLexeme k t) (ht : t.head? = some '.') :
    t = ['.'] ∨ t = ['.', '.', '.'] ∨ ∃ d s, t = '.' :: d :: s ∧ d ≠ '.' := by
  cases h with
  | identifier hc hd h =>
    cases ht
    exact absurd hc (by decide)
  | @number c s hc h =>
    cases ht
    cases s with
    | nil => exact absurd hc (by decide)
    | cons d ds =>
      refine .inr (.inr ⟨d, ds, rfl, ?_⟩)
      rintro rfl
      exact absurd hc (by simp [beginsNumber]; decide)
  | charConstant h hj => cases ht
  | string h hj => cases ht
  | punctuator h =>
    have hpoints : ∀ e ∈ punctuators, e.head? = some '.' → e = ['.'] ∨ e = ['.', '.', '.'] := by decide
    exact (hpoints t h ht).imp_right .inl

theorem readsFirst_point (hk : a.kind = .punctuator) (ha : a.text = ['.']) (hb : IsLexeme b.kind b.text)
    (hs : spaced earlier a b = false) {r : Text}
    (hnext : b.text = ['.'] → (next.any fun c => c.text.head? == some '.') = (r.head? == some '.'))
    (lineStart : Bool) : ReadsFirst (fuses earlier a b next) a lineStart (a.text ++ (b.text ++ r)) := by
  have hfuses : fuses earlier a b next = (b.text.head?.any isDigit || b.text == ['.', '.', '.'] ||
      (b.text == ['.'] && r.head? == some '.')) := by
    have hlast : (b.text == ['.'] && next.any fun c => c.text.head? == some '.') =
        (b.text == ['.'] && r.head? == some '.') := by
      cases hp : b.text == ['.'] with
      | false => rfl
      | true => rw [hnext (eq_of_beq hp)]
    simp [fuses, hs, hk, ha, hlast]
  obtain ⟨c, s, hcs⟩ := List.exists_cons_of_ne_nil hb.ne_nil
  rw [hfuses]
  by_cases hd : isDigit c
  · have hnumber : beginsNumber ('.' :: b.text) = true := by simp [beginsNumber, hcs, hd]
    have hpos := numberTail_ne_zero (c := c) (by simp [continuesNumber, isWord_of_isDigit hd]) (s ++ r)
    rw [ReadsFirst, if_pos (by simp [hcs, hd]), ha]
    refine ⟨_, _, piece?_number hnumber lineStart r, ?_⟩
    rw [hcs, List.cons_append, List.length_singleton]
    omega
  · refine readsFirst_of_extends hk (by rw [ha]; decide) lineStart (fun h => ?_) (fun _ => by simp [hcs, hd]) ?_
    · rw [ha] at h
      cases h
    · have hhead : b.text.head?.any isDigit = false := by simp [hcs, hd]
      rw [ha, extends_point, hhead, Bool.false_or, Bool.or_eq_true, Bool.and_eq_true, beq_iff_eq, beq_iff_eq, beq_iff_eq]
      constructor
      · rintro (h | ⟨h, hr⟩)
        · exact ⟨'.' :: r, by rw [h]; rfl⟩
        · cases r with
          | nil => cases hr
          | cons d ds =>
            cases hr
            exact ⟨ds, by rw [h]; rfl⟩
      · rintro ⟨rest, hrest⟩
        have hc : c = '.' := by
          rw [hcs] at hrest
          exact (List.cons.inj hrest).1
        rcases hb.of_point (by rw [hcs, hc]; rfl) with h | h | ⟨d, s', h, hne⟩
        · rw [h] at hrest
          have hr : r = '.' :: rest := (List.cons.inj hrest).2
          refine .inr ⟨h, ?_⟩
          rw [hr]
          rfl
        · exact .inl h
        · rw [h] at hrest
          exact absurd (List.cons.inj (List.cons.inj hrest).2).1 hne

theorem fuses_sign_iff (hk : a.kind = .punctuator) (hpoint : a.text ≠ ['.']) (hs : spaced earlier a b = false) {c : Char}
    {s : Text} (hcs : b.text = c :: s) : fuses earlier a b next = true ↔ (a.text, c) ∈ growths := by
  by_cases hsign : a.text ∈ [['!'], ['-'], ['+'], ['&']]
  · simp only [List.mem_cons, List.not_mem_nil, or_false] at hsign
    rcases hsign with h | h | h | h <;> simp [fuses, hs, hk, h, hcs, growths, or_comm]
  · have hgrowths : ∀ g ∈ growths, g.1 ∈ [['!'], ['-'], ['+'], ['&']] ∨ g.1 = ['.'] ∨ (g.1 ∉ joinsNext ∧
        g.1 ∉ unarySigns ∧ ∀ t ∈ followers, t.head? ≠ some g.2) := by decide
    have hnot : (a.text, c) ∉ growths := by
      intro hg
      rcases hgrowths _ hg with h | h | ⟨hn, hu, hf⟩
      · exact hsign h
      · exact hpoint h
      · exact hf _ (mem_followers hs hn hu) (by rw [hcs]; rfl)
    simp only [List.mem_cons, List.not_mem_nil, or_false, not_or] at hsign
    simp [fuses, hk, hsign, hpoint, hnot]

theorem readsFirst_sign (hk : a.kind = .punctuator) (ha : a.text ∈ punctuators) (hpoint : a.text ≠ ['.'])
    (hb : IsLexeme b.kind b.text) (hs : spaced earlier a b = false) (lineStart : Bool) (r : Text) :
    ReadsFirst (fuses earlier a b next) a lineStart (a.text ++ (b.text ++ r)) := by
  obtain ⟨c, s, hcs⟩ := List.exists_cons_of_ne_nil hb.ne_nil
  refine readsFirst_of_extends hk ha lineStart (fun h => ?_) (fun h => absurd h hpoint) ?_
  · have hslash : ['/'] ∉ joinsNext ∧ ['/'] ∉ unarySigns ∧
        ∀ t ∈ followers, t.head? ≠ some '/' ∧ t.head? ≠ some '*' := by decide
    obtain ⟨hn, hu, hf⟩ := hslash
    rw [← h] at hn hu
    have hhead := hf _ (mem_followers hs hn hu)
    rw [hcs] at hhead ⊢
    exact hhead
  · rw [hcs, List.cons_append, extends_iff ha hpoint]
    exact fuses_sign_iff hk hpoint hs hcs

/-- **What is read of a token before another one without a space** is the token, unless the two fuse. -/
theorem readsFirst_unspaced (ha : IsLexeme a.kind a.text) (hb : IsLexeme b.kind b.text) (hs : spaced earlier a b = false)
    {r : Text} (hnext : b.text = ['.'] → (next.any fun c => c.text.head? == some '.') = (r.head? == some '.'))
    (lineStart : Bool) : ReadsFirst (fuses earlier a b next) a lineStart (a.text ++ (b.text ++ r)) := by
  by_cases hk : a.kind = .punctuator
  · have hmem : a.text ∈ punctuators := by
      rw [hk] at ha
      cases ha with
      | punctuator h => exact h
    by_cases hpoint : a.text = ['.']
    · exact readsFirst_point hk hpoint hb hs hnext lineStart
    · exact readsFirst_sign hk hmem hpoint hb hs lineStart r
  · by_cases hk' : a.kind = .number
    · exact readsFirst_number ha hk' hs lineStart r
    · exact readsFirst_word ha hk hk' hs lineStart r

end GameSource.Initializer
