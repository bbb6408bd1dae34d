import GameSource.Proofs.Initializer.Comments
import GameSource.Proofs.Initializer.Tiling
/-!
# Reading a text without its comments

A comment parts the tokens on its two sides, but nothing is left of it where it is taken out, unless it has a line feed.
So the tokens are read again if and only if none of them grows onto the text that then stands behind it
(`Spread.readsBack`, `lex_eraseComments_iff`).
-/
namespace GameSource.Initializer

/-! ## Tokens that grow -/

/-- More than the token is read where this text stands behind it. -/
def growsOnto (a : Token) (r : Text) : Bool :=
  match a.kind with
  | .identifier => r.head?.any isWord
  | .number => r.head?.any continuesNumber || (endsWithMark a.text && beginsWithSign r)
  | .charConstant | .string => false
  | .punctuator =>
    if a.text = ['.'] then r.head?.any isDigit || ['.', '.'].isPrefixOf r
    else r.head?.any fun c => growths.contains (a.text, c)

/-- One of the tokens grows onto what stands behind it in the text, where blanks stand between them. -/
def growsIn : List Token → Text → Bool
  | [], _ => false
  | a :: ts, t =>
    let behind := (t.dropWhile isBlank).drop a.text.length
    growsOnto a behind || growsIn ts behind

theorem growsOnto_nil (a : Token) : growsOnto a [] = false := by
  have hsign : beginsWithSign [] = false := rfl
  unfold growsOnto
  split
  · rfl
  · rw [hsign, Bool.and_false]
    rfl
  · rfl
  · rfl
  · split <;> rfl

theorem readsFirst_grows_identifier {a : Token} (hk : a.kind = .identifier) (ha : IsLexeme .identifier a.text)
    (lineStart : Bool) (r : Text) : ReadsFirst (growsOnto a r) a lineStart (a.text ++ r) := by
  obtain ⟨k, t, p⟩ := a
  obtain rfl : k = .identifier := hk
  cases ha with
  | @identifier c s hc hd hs =>
    unfold growsOnto
    cases hword : r.head?.any isWord with
    | false =>
      have hstops : Stops isWord r := fun d hd => by
        rw [hd] at hword
        exact hword
      exact piece?_identifier hc hd hs lineStart hstops
    | true =>
      have hall : ∀ d ∈ s ++ r.takeWhile isWord, isWord d := fun d hd =>
        (List.mem_append.1 hd).elim (hs d) fun hd => List.all_eq_true.1 List.all_takeWhile d hd
      have hread := piece?_identifier hc hd hall lineStart (stops_dropWhile isWord r)
      rw [List.cons_append, List.append_assoc, List.takeWhile_append_dropWhile] at hread
      refine ⟨_, _, hread, ?_⟩
      cases r with
      | nil => cases hword
      | cons d r =>
        have hd : isWord d = true := hword
        rw [List.takeWhile_cons_of_pos hd]
        simp

theorem readsFirst_grows_number {a : Token} (hk : a.kind = .number) (ha : IsLexeme .number a.text)
    (lineStart : Bool) (r : Text) : ReadsFirst (growsOnto a r) a lineStart (a.text ++ r) := by
  have hread := piece?_number_append ha lineStart r
  have hgrows : growsOnto a r = (r.head?.any continuesNumber || (endsWithMark a.text && beginsWithSign r)) := by
    unfold growsOnto
    rw [hk]
  rw [hgrows, ReadsFirst, hread, hk]
  cases hsign : endsWithMark a.text && beginsWithSign r with
  | true =>
    rw [Bool.or_true, if_pos rfl, if_pos rfl]
    exact ⟨_, _, rfl, by omega⟩
  | false =>
    rw [Bool.or_false, if_neg Bool.false_ne_true]
    cases r with
    | nil => rfl
    | cons d r =>
      rw [List.head?_cons, Option.any_some]
      cases hd : continuesNumber d with
      | true =>
        have hpos := numberTail_ne_zero hd r
        rw [if_pos rfl]
        exact ⟨_, _, rfl, by omega⟩
      | false =>
        have hmark : isExponentMark d = false := by
          cases hm : isExponentMark d with
          | false => rfl
          | true => rw [continuesNumber_of_isExponentMark hm] at hd; cases hd
        rw [numberTail_cons (by rw [hmark]; rfl), hd]
        rfl

theorem readsFirst_grows_punctuator {a : Token} (hk : a.kind = .punctuator) (ha : a.text ∈ punctuators)
    {r : Text} (hslash : a.text = ['/'] → ∀ d ∈ r.head?, d ≠ '/' ∧ d ≠ '*') (lineStart : Bool) :
    ReadsFirst (growsOnto a r) a lineStart (a.text ++ r) := by
  have hslash' (h : a.text = ['/']) : r.head? ≠ some '/' ∧ r.head? ≠ some '*' :=
    ⟨fun hr => (hslash h '/' hr).1 rfl, fun hr => (hslash h '*' hr).2 rfl⟩
  by_cases hpoint : a.text = ['.']
  · have hgrows : growsOnto a r = (r.head?.any isDigit || ['.', '.'].isPrefixOf r) := by
      unfold growsOnto
      rw [hk]
      exact if_pos hpoint
    rw [hgrows]
    cases hdigit : r.head?.any isDigit with
    | true =>
      cases r with
      | nil => cases hdigit
      | cons d r =>
        have hd : isDigit d = true := hdigit
        have hnumber : beginsNumber ['.', d] = true := by simp [beginsNumber, hd]
        have hpos := numberTail_ne_zero (c := d) (by simp [continuesNumber, isWord_of_isDigit hd]) r
        rw [hpoint]
        refine ⟨_, _, piece?_number hnumber lineStart r, ?_⟩
        rw [hpoint, List.singleton_append, List.length_singleton]
        omega
    | false =>
      refine readsFirst_of_extends hk ha lineStart hslash' (fun _ => hdigit) ?_
      rw [hpoint, extends_point, Bool.false_or, List.isPrefixOf_iff_prefix]
      exact exists_congr fun rest => eq_comm
  · have hgrows : growsOnto a r = r.head?.any fun c => growths.contains (a.text, c) := by
      unfold growsOnto
      rw [hk]
      exact if_neg hpoint
    refine readsFirst_of_extends hk ha lineStart hslash' (fun h => absurd h hpoint) ?_
    rw [hgrows]
    cases r with
    | nil =>
      refine ⟨fun h => (by cases h), ?_⟩
      rintro ⟨q, hq, -, hprefix⟩
      exact absurd (List.prefix_nil.1 hprefix) hq
    | cons c r =>
      rw [extends_iff ha hpoint, List.head?_cons, Option.any_some]
      exact List.contains_iff_mem

/-- **What is read where a token begins**: the token, unless it grows onto the text behind it. -/
theorem readsFirst_grows {a : Token} (ha : IsLexeme a.kind a.text) {r : Text}
    (hslash : a.text = ['/'] → ∀ d ∈ r.head?, d ≠ '/' ∧ d ≠ '*') (lineStart : Bool) :
    ReadsFirst (growsOnto a r) a lineStart (a.text ++ r) := by
  cases hk : a.kind with
  | identifier => exact readsFirst_grows_identifier hk (hk ▸ ha) lineStart r
  | number => exact readsFirst_grows_number hk (hk ▸ ha) lineStart r
  | punctuator =>
    rw [hk] at ha
    cases ha with
    | punctuator h => exact readsFirst_grows_punctuator hk h hslash lineStart
  | charConstant =>
    obtain ⟨k, t, p⟩ := a
    obtain rfl : k = .charConstant := hk
    cases ha with
    | charConstant hs hj => exact piece?_charConstant hs lineStart r
  | string =>
    obtain ⟨k, t, p⟩ := a
    obtain rfl : k = .string := hk
    cases ha with
    | string hs hj => exact piece?_string hs lineStart r

/-! ## Tokens with blanks between them -/

/-- The text is the tokens in order with blanks between them, or with nothing. -/
inductive Spread : List Token → Text → Prop where
  | nil : Spread [] []
  | blank {c : Char} {ts : List Token} {t : Text} (hc : isBlank c) (h : Spread ts t) : Spread ts (c :: t)
  | token {a : Token} {ts : List Token} {t : Text} (ha : IsLexeme a.kind a.text)
      (hslash : a.text = ['/'] → ∀ d ∈ t.head?, d ≠ '/' ∧ d ≠ '*') (h : Spread ts t) : Spread (a :: ts) (a.text ++ t)

theorem Spread.feeds {ts : List Token} {t : Text} (h : Spread ts t) : ∀ {feeds : Text}, (∀ c ∈ feeds, c = '\n') →
    Spread ts (feeds ++ t)
  | [], _ => h
  | c :: _, hf => .blank (by rw [hf c List.mem_cons_self]; rfl) (h.feeds fun d hd => hf d (List.mem_cons_of_mem c hd))

theorem IsLexeme.isBlank_head {k : TokenKind} {t : Text} (h : IsLexeme k t) : Stops isBlank t := by
  have hpunctuators : ∀ p ∈ punctuators, p.head?.all (!isBlank ·) := by decide
  cases h with
  | identifier hc hd h => exact .cons (plainHead (by simp only [hc, Bool.true_or])).1
  | @number c s hc h =>
    simp only [beginsNumber, Bool.or_eq_true, Bool.and_eq_true] at hc
    have hhead : (c == '_' || isLetter c || isDigit c || c == '.') = true := by rcases hc with h | ⟨h, -⟩ <;> simp [h]
    exact .cons (plainHead hhead).1
  | charConstant h hj => exact .cons rfl
  | string h hj => exact .cons rfl
  | punctuator h =>
    intro c hc
    have hall := hpunctuators t h
    rw [hc, Option.all_some] at hall
    simpa using hall

/-- **Tokens are read back from a text unless one of them grows.** -/
theorem Spread.readsBack {ts : List Token} {t : Text} (h : Spread ts t) :
    ∀ lineStart, ReadsBack (growsIn ts t) lineStart t ts := by
  induction h with
  | nil => exact fun _ => ⟨rfl, rfl⟩
  | @blank c ts t hc _ ih =>
    have hgrows : growsIn ts (c :: t) = growsIn ts t := by
      cases ts with
      | nil => rfl
      | cons a ts => rw [growsIn, List.dropWhile_cons_of_pos hc]; rfl
    rw [hgrows]
    exact fun lineStart => .blank hc ih
  | @token a ts t ha hslash _ ih =>
    intro lineStart
    have hbehind : ((a.text ++ t).dropWhile isBlank).drop a.text.length = t := by
      obtain ⟨c, s, hcs⟩ := List.exists_cons_of_ne_nil ha.ne_nil
      have hc : ¬isBlank c = true := by simp [ha.isBlank_head c (by rw [hcs]; rfl)]
      have hstay : (a.text ++ t).dropWhile isBlank = a.text ++ t := by
        rw [hcs, List.cons_append, List.dropWhile_cons_of_neg hc]
      rw [hstay, List.drop_left]
    have hfirst := readsFirst_grows ha hslash lineStart
    rw [growsIn, hbehind]
    cases hgrows : growsOnto a t with
    | true =>
      rw [hgrows, ReadsFirst, if_pos rfl] at hfirst
      obtain ⟨k, n, hread, hlt⟩ := hfirst
      have ht : t ≠ [] := by
        rintro rfl
        rw [growsOnto_nil] at hgrows
        cases hgrows
      exact .longer ha.ne_nil ht hread hlt
    | false =>
      rw [hgrows, ReadsFirst, if_neg Bool.false_ne_true] at hfirst
      exact .token ha.ne_nil hfirst ih

/-! ## Pieces -/

/-- The tokens that are read of the first text, if nothing is wrong with it, are spread over the second one. -/
def SpreadsTo (t u : Text) : Prop := ∀ lineStart p, (piecesFrom 0 lineStart t).fault = none →
  Spread (placeTokens p (piecesFrom 0 lineStart t).pieces).1 u

/-- Behind a piece, reading goes on with the rest. -/
theorem piecesFrom_take {lineStart : Bool} {kind : PieceKind} {n : Nat} {t : Text} (hn : n ≠ 0)
    (h : piece? lineStart t = .ok (kind, n)) : ∃ lineStart', piecesFrom 0 lineStart t =
      { piecesFrom 0 lineStart' (t.drop n) with
        pieces := ⟨kind, t.take n⟩ :: (piecesFrom 0 lineStart' (t.drop n)).pieces } := by
  have hbefore : ∃ before, atLineStart before = lineStart := by
    cases lineStart with
    | true => exact ⟨[], rfl⟩
    | false => exact ⟨['x'], rfl⟩
  obtain ⟨before, rfl⟩ := hbefore
  exact ⟨_, piecesFrom_ok hn h⟩

theorem SpreadsTo.token {lineStart : Bool} {k : TokenKind} {n : Nat} {t u : Text} (h : SpreadsTo (t.drop n) u)
    (hread : piece? lineStart t = .ok (.token k, n)) (hslash : t.take n = ['/'] → ∀ d ∈ u.head?, d ≠ '/' ∧ d ≠ '*')
    (p : Position) (hfault : (piecesFrom 0 lineStart t).fault = none) :
    Spread (placeTokens p (piecesFrom 0 lineStart t).pieces).1 (t.take n ++ u) := by
  obtain ⟨hlexeme, hn⟩ := isLexeme_of_piece? hread
  obtain ⟨lineStart', hpieces⟩ := piecesFrom_take hn hread
  rw [hpieces] at hfault ⊢
  exact @Spread.token ⟨k, t.take n, p⟩ _ u hlexeme hslash (h lineStart' _ hfault)

theorem SpreadsTo.filler {lineStart : Bool} {kind : PieceKind} {n : Nat} {t u : Text} (h : SpreadsTo (t.drop n) u)
    (hn : n ≠ 0) (hread : piece? lineStart t = .ok (kind, n)) (hkind : ∀ k, kind ≠ .token k) (p : Position)
    (hfault : (piecesFrom 0 lineStart t).fault = none) :
    Spread (placeTokens p (piecesFrom 0 lineStart t).pieces).1 u := by
  obtain ⟨lineStart', hpieces⟩ := piecesFrom_take hn hread
  rw [hpieces] at hfault ⊢
  have hrest := h lineStart' (p.after (t.take n)) hfault
  cases kind with
  | token k => exact absurd rfl (hkind k)
  | _ => exact hrest

/-- A quoted text is a token, whatever stands behind it. -/
theorem piece?_quoted {quote : Char} {body : Text} (hq : IsQuote quote) (hb : QuotedTail quote body) : ∃ k,
    ∀ lineStart r, piece? lineStart (quote :: body ++ r) = .ok (.token k, (quote :: body).length) := by
  have hread := hb.readQuoted_append hq
  rcases hq with rfl | rfl
  · exact ⟨.string, piece?_string hread⟩
  · exact ⟨.charConstant, piece?_charConstant hread⟩

theorem piece?_lineComment {body t : Text} (hb : '\n' ∉ body) (hend : ∀ c ∈ t.head?, c = '\n') (lineStart : Bool) :
    piece? lineStart ('/' :: '/' :: body ++ t) = .ok (.comment, ('/' :: '/' :: body).length) := by
  have hline : '\n' ∉ '/' :: '/' :: body := by simp [hb]
  have htake := takeWhile_firstLine hline hend
  rw [List.cons_append, List.cons_append] at htake ⊢
  simp [piece?, isBlank, htake]

theorem piece?_blockComment {body : Text} (hb : ¬['*', '/'] <:+: body ++ ['*']) (t : Text) (lineStart : Bool) :
    piece? lineStart ('/' :: '*' :: (body ++ ['*', '/']) ++ t) =
      .ok (.comment, ('/' :: '*' :: (body ++ ['*', '/'])).length) := by
  have hlength := (blockComment_append hb t).2
  simp [piece?, isBlank, hlength]

/-- Code begins with a blank or with a token that is not quoted. -/
theorem piece?_code {c : Char} {t : Text} (hc : ¬IsQuote c) (hsign : c ≠ '#')
    (hmark : c = '/' → ∀ d ∈ t.head?, d ≠ '/' ∧ d ≠ '*') {lineStart : Bool} {kind : PieceKind} {n : Nat}
    (h : piece? lineStart (c :: t) = .ok (kind, n)) : (isBlank c ∧ kind = .blank ∧ n = 1) ∨ ∃ k, kind = .token k := by
  have hline : ¬(c = '/' ∧ t.head? = some '/') := fun ⟨hc, ht⟩ => (hmark hc '/' ht).1 rfl
  have hblock : ¬(c = '/' ∧ t.head? = some '*') := fun ⟨hc, ht⟩ => (hmark hc '*' ht).2 rfl
  have hdouble : c ≠ '"' := fun heq => hc (.inl heq)
  have hsingle : c ≠ '\'' := fun heq => hc (.inr heq)
  simp only [piece?, hsign, false_and, if_false, hline, hblock, hdouble, hsingle] at h
  split at h
  · cases h
    exact .inl ⟨‹_›, rfl, rfl⟩
  split at h
  · cases h
    exact .inr ⟨_, rfl⟩
  split at h
  · cases h
    exact .inr ⟨_, rfl⟩
  split at h
  · cases h
    exact .inr ⟨_, rfl⟩
  · cases h

/-- The characters of a token that begins with code are code. -/
theorem IsLexeme.code {k : TokenKind} {c : Char} {t : Text} (h : IsLexeme k (c :: t)) (hc : ¬IsQuote c) :
    c :: t = ['/'] ∨ ∀ d ∈ c :: t, ¬IsQuote d ∧ d ≠ '/' := by
  have hword {d : Char} (hd : continuesNumber d ∨ isSign d) : ¬IsQuote d ∧ d ≠ '/' := by
    have hspecial : ['"', '\'', '/'].all fun e => !continuesNumber e && !isSign e := by decide
    have hne : ∀ e ∈ ['"', '\'', '/'], d ≠ e := by
      rintro e he rfl
      have hneither := List.all_eq_true.1 hspecial d he
      rcases hd with hd | hd <;> simp [hd] at hneither
    simp only [List.mem_cons, List.not_mem_nil, or_false, forall_eq_or_imp, forall_eq] at hne
    exact ⟨fun hq => hq.elim hne.1 hne.2.1, hne.2.2⟩
  cases h with
  | identifier hletter hd hs =>
    refine .inr (List.forall_mem_cons.2 ⟨hword (.inl ?_), fun d hd => hword (.inl ?_)⟩)
    · simp [continuesNumber, isWord_of_isLetter hletter]
    · simp [continuesNumber, hs d hd]
  | number hbegins hs =>
    refine .inr (List.forall_mem_cons.2 ⟨hword (.inl ?_), fun d hd => hword (mem_take_numberTail (t := t) ?_)⟩)
    · simp only [beginsNumber, Bool.or_eq_true, Bool.and_eq_true] at hbegins
      rcases hbegins with h | ⟨h, -⟩
      · simp [continuesNumber, isWord_of_isDigit h]
      · simp [continuesNumber, h]
    · rwa [hs, List.take_length]
  | charConstant => exact absurd (.inr rfl) hc
  | string => exact absurd (.inl rfl) hc
  | punctuator hmem =>
    have hpunctuators : ∀ p ∈ punctuators, p = ['/'] ∨ p.all fun d => d != '"' && d != '\'' && d != '/' := by decide
    refine (hpunctuators _ hmem).imp_right fun h d hd => ?_
    have hplain := List.all_eq_true.1 h d hd
    simpa [IsQuote] using hplain

/-! ## Stripped texts -/

/-- A token of code is kept as it stands: it is a slash, or has none. -/
theorem take_of_code {k : TokenKind} {n : Nat} {c : Char} {t u : Text} (h : IsLexeme k ((c :: t).take n)) (hn : n ≠ 0)
    (hc : ¬IsQuote c) (hmark : c = '/' → ∀ d ∈ t.head?, d ≠ '/' ∧ d ≠ '*') (hu : Uncomments t u) :
    ∃ rest, c :: u = (c :: t).take n ++ rest ∧ Uncomments ((c :: t).drop n) rest ∧
      ((c :: t).take n = ['/'] → ∀ d ∈ rest.head?, d ≠ '/' ∧ d ≠ '*') := by
  obtain ⟨m, rfl⟩ := Nat.exists_eq_succ_of_ne_zero hn
  rw [Nat.succ_eq_add_one, List.take_succ_cons, List.drop_succ_cons] at *
  rcases h.code hc with hslash | hcode
  · obtain ⟨rfl, hnone⟩ := List.cons.inj hslash
    have hdrop : t.drop m = t := by
      have hcut := List.take_append_drop m t
      rwa [hnone, List.nil_append] at hcut
    have hhead : u.head? = t.head? := hu.head?_eq fun h => (hmark rfl '/' h).1 rfl
    rw [hslash, hdrop]
    exact ⟨u, rfl, hu, fun _ d hd => hmark rfl d (hhead ▸ hd)⟩
  · have hcut : c :: t = c :: t.take m ++ t.drop m := by rw [List.cons_append, List.take_append_drop]
    have hall : Uncomments (c :: t.take m ++ t.drop m) (c :: u) := hcut ▸ .code hc hmark hu
    obtain ⟨rest, hrest, hbehind⟩ := hall.code_append hcode
    refine ⟨rest, hrest, hbehind, fun heq => ?_⟩
    rw [heq] at hcode
    exact absurd rfl (hcode '/' (List.mem_singleton_self _)).2

/-- **What is left of a text without its comments is its tokens**, with blanks between them. -/
theorem spreadsTo_of_uncomments {t u : Text} (h : Uncomments t u) (hsign : '#' ∉ t) : SpreadsTo t u := by
  -- The induction is on the length: a token of code takes several characters, each by a rule of its own.
  induction hlength : t.length using Nat.strongRecOn generalizing t u with
  | ind n ih =>
    subst hlength
    intro lineStart p hfault
    cases h with
    | nil => exact .nil
    | @quoted quote body t u hq hb h =>
      obtain ⟨k, hread⟩ := piece?_quoted hq hb
      have hslash : quote :: body = ['/'] → ∀ d ∈ u.head?, d ≠ '/' ∧ d ≠ '*' := fun heq => by
        obtain ⟨rfl, -⟩ := List.cons.inj heq
        exact absurd hq (by simp [IsQuote])
      have hshorter : t.length < (quote :: (body ++ t)).length := by
        simp only [List.length_cons, List.length_append]
        omega
      have hrest : SpreadsTo ((quote :: body ++ t).drop (quote :: body).length) u := by
        rw [List.drop_left]
        exact ih t.length hshorter h (fun hmem => hsign (by simp [hmem])) rfl
      have htoken := hrest.token (hread lineStart t)
      rw [List.take_left] at htoken
      exact htoken hslash p hfault
    | @lineComment body t u hb hend h =>
      have hshorter : t.length < ('/' :: '/' :: (body ++ t)).length := by
        simp only [List.length_cons, List.length_append]
        omega
      have hrest : SpreadsTo (('/' :: '/' :: body ++ t).drop ('/' :: '/' :: body).length) u := by
        rw [List.drop_left]
        exact ih t.length hshorter h (fun hmem => hsign (by simp [hmem])) rfl
      exact hrest.filler (Nat.succ_ne_zero _) (piece?_lineComment hb hend lineStart) (fun _ h => by cases h) p hfault
    | @blockComment body feeds t u hb hf h =>
      have hcut : '/' :: '*' :: (body ++ '*' :: '/' :: t) = '/' :: '*' :: (body ++ ['*', '/']) ++ t := by simp
      have hshorter : t.length < ('/' :: '*' :: (body ++ '*' :: '/' :: t)).length := by
        simp only [List.length_cons, List.length_append]
        omega
      have hrest : SpreadsTo (('/' :: '*' :: (body ++ ['*', '/']) ++ t).drop
          ('/' :: '*' :: (body ++ ['*', '/'])).length) u := by
        rw [List.drop_left]
        exact ih t.length hshorter h (fun hmem => hsign (by simp [hmem])) rfl
      rw [hcut] at hfault ⊢
      exact (hrest.filler (Nat.succ_ne_zero _) (piece?_blockComment hb t lineStart) (fun _ h => by cases h) p hfault).feeds hf
    | @code c t u hc hmark h =>
      cases hread : piece? lineStart (c :: t) with
      | error e =>
        rw [piecesFrom, hread] at hfault
        cases hfault
      | ok found =>
        obtain ⟨kind, n⟩ := found
        have hcode := piece?_code hc (fun heq => hsign (heq ▸ List.mem_cons_self)) hmark hread
        rcases hcode with ⟨hblank, rfl, rfl⟩ | ⟨k, rfl⟩
        · have hrest : SpreadsTo ((c :: t).drop 1) u :=
            ih t.length (by simp) h (fun hmem => hsign (List.mem_cons_of_mem c hmem)) rfl
          exact .blank hblank (hrest.filler Nat.one_ne_zero hread (fun _ h => by cases h) p hfault)
        · obtain ⟨hlexeme, hn⟩ := isLexeme_of_piece? hread
          obtain ⟨rest, hrest, hbehind, hslash⟩ := take_of_code hlexeme hn hc hmark h
          have hshorter : ((c :: t).drop n).length < (c :: t).length := by
            rw [List.length_drop, List.length_cons]
            omega
          have hspreads := ih _ hshorter hbehind (fun hmem => hsign (List.mem_of_mem_drop hmem)) rfl
          rw [hrest]
          exact hspreads.token hread hslash p hfault

/-- **When a text without its comments is read as the same tokens.**  Let a source text that is read have no directive
and no carriage return, and let the same literals, comments and joined lines be seen in it before lines are joined as
after.  Then the comments that are taken out are those that are read, and the tokens are read again if and only if none
of them grows onto what stands behind it when the comments are gone. -/
theorem lex_eraseComments_iff {source : Text} {lexed : Lexed} (h : lex source = .ok lexed) (hsign : '#' ∉ source)
    (hreturn : '\r' ∉ source) (hcut : CutAlike source) :
    Uncomments (canonicalSource source) (eraseComments source) ∧
      ((∃ again, lex (eraseComments source) = .ok again ∧ lexemesOf again.tokens = lexemesOf lexed.tokens) ↔
        growsIn lexed.tokens (eraseComments source) = false) := by
  obtain ⟨hcanonical, huncomments⟩ := hcut.uncomments hreturn
  refine ⟨huncomments, ?_⟩
  have hsign' : '#' ∉ canonicalSource source := by
    rw [canonicalSource, unifyLineEnds_of_not_mem hreturn]
    exact fun hmem => hsign (mem_of_mem_spliceLines hmem)
  have hspread : Spread lexed.tokens (eraseComments source) := by
    have hspreads := spreadsTo_of_uncomments huncomments hsign' true .start
    rw [lex] at h
    cases hfault : (piecesFrom 0 true (canonicalSource source)).fault with
    | some e =>
      rw [hfault] at h
      cases h
    | none =>
      rw [hfault] at h
      cases h
      exact hspreads hfault
  have hback := hspread.readsBack true
  rw [lex_iff, hcanonical]
  cases hgrows : growsIn lexed.tokens (eraseComments source) with
  | true =>
    rw [hgrows, ReadsBack, if_pos rfl] at hback
    exact ⟨fun hagain => absurd hagain.2 hback, fun hno => by cases hno⟩
  | false =>
    rw [hgrows, ReadsBack, if_neg Bool.false_ne_true] at hback
    exact ⟨fun _ => rfl, fun _ => hback⟩

/-- Both kinds of comments, a joined line in a comment and one in a string, and marks that are quoted. -/
def marked : Text := "a/*\\\n*/+'/' \"//\\\n\"// c\n-1".toList

theorem cutAlike_marked : CutAlike marked := by
  have hcode {c : Char} {t : Text} (hc : ¬IsQuote c ∧ c ≠ '\\' ∧ c ≠ '/') (h : CutAlike t) : CutAlike (c :: t) :=
    .code ⟨hc.1, hc.2.1⟩ (fun hslash => absurd hslash hc.2.2) h
  have hlast : CutAlike "// c\n-1".toList :=
    @CutAlike.lineComment " c".toList "\n-1".toList (by decide) (by rintro _ ⟨⟩; decide)
      (hcode (by decide) (hcode (by decide) (hcode (by decide) .nil)))
  have hstring : CutAlike "\"//\\\n\"// c\n-1".toList :=
    @CutAlike.string "//\\\n\"".toList _ (.char (by decide) (.char (by decide) (.escape .close))) hlast
  have hchar : CutAlike "'/' \"//\\\n\"// c\n-1".toList :=
    @CutAlike.charConstant "/'".toList _ (.char (by decide) .close) (by decide) (by decide) (by decide)
      (hcode (by decide) hstring)
  exact hcode (by decide) (@CutAlike.blockComment "\\\n".toList _ (by decide) (hcode (by decide) hchar))

/-- The first comment has a line feed, which is joined where the tokens are read and left where it is taken out. -/
theorem lex_eraseComments_marked : ∃ lexed again, lex marked = .ok lexed ∧
    lexemesOf lexed.tokens = [(.identifier, ['a']), (.punctuator, ['+']), (.charConstant, "'/'".toList),
      (.string, "\"//\"".toList), (.punctuator, ['-']), (.number, ['1'])] ∧
    eraseComments marked = "a\n+'/' \"//\"\n-1".toList ∧ Uncomments (canonicalSource marked) (eraseComments marked) ∧
    lex (eraseComments marked) = .ok again ∧ lexemesOf again.tokens = lexemesOf lexed.tokens := by
  have hlex : lex marked = .ok ⟨[⟨.identifier, ['a'], ⟨1, 1⟩⟩, ⟨.punctuator, ['+'], ⟨1, 6⟩⟩,
      ⟨.charConstant, "'/'".toList, ⟨1, 7⟩⟩, ⟨.string, "\"//\"".toList, ⟨1, 11⟩⟩, ⟨.punctuator, ['-'], ⟨2, 1⟩⟩,
      ⟨.number, ['1'], ⟨2, 2⟩⟩], ⟨2, 3⟩⟩ := by rfl
  obtain ⟨huncomments, hiff⟩ := lex_eraseComments_iff hlex (by decide) (by decide) cutAlike_marked
  obtain ⟨again, hagain, hlexemes⟩ := hiff.2 (by decide +kernel)
  exact ⟨_, again, hlex, rfl, by decide +kernel, huncomments, hagain, hlexemes⟩

/-- Two words with nothing but a comment between them; comment marks and a double quote in character constants; a line
comment that is continued, a mark that two lines make up, a string that a joined line keeps open; a comment that ends
with a carriage return. -/
def readDifferently : List Text :=
  ["a/**/b", "'//'", "'\"' \"//\"", "//\\\na", "/* *\\\n/ a /**/", "\"\\\\\n//\"", "//\ra"].map String.toList

/-- **Of these texts without number signs the tokens are read, but not again when the comments are gone.** -/
theorem lex_eraseComments_readDifferently : readDifferently.Forall fun source => '#' ∉ source ∧ ∃ lexed,
    lex source = .ok lexed ∧
      ¬∃ again, lex (eraseComments source) = .ok again ∧ lexemesOf again.tokens = lexemesOf lexed.tokens := by
  have hread : ∀ source ∈ readDifferently, '#' ∉ source ∧ (lex source).toOption.isSome ∧
      (lex (eraseComments source)).toOption.map (lexemesOf ·.tokens) ≠
        (lex source).toOption.map (lexemesOf ·.tokens) := by decide +kernel
  refine List.forall_iff_forall_mem.2 fun source hsource => ?_
  obtain ⟨hsign, hsome, hdiffers⟩ := hread source hsource
  refine ⟨hsign, ?_⟩
  cases hlex : lex source with
  | error e =>
    rw [hlex] at hsome
    cases hsome
  | ok lexed =>
    refine ⟨lexed, rfl, ?_⟩
    rintro ⟨again, hagain, hlexemes⟩
    rw [hagain, hlex] at hdiffers
    exact hdiffers (congrArg some hlexemes)

end GameSource.Initializer
