import GameSource.Proofs.Initializer.Spacing
import GameSource.Proofs.Text.LineEnds
/-!
# Reading the text of tokens again

The text of tokens is read token by token, up to the first two neighbours that fuse (`readsBack_renderFrom`).  A line
feed in a quoted text stands behind a backslash, so it is gone once lines are joined (`not_mem_spliceLines`).
-/
namespace GameSource.Initializer

/-! ## Pieces and tokens -/

/-- The kind and the text of a piece that is a token. -/
def Piece.lexeme? (p : Piece) : Option (TokenKind × Text) :=
  match p.kind with
  | .token k => some (k, p.text)
  | _ => none

theorem Piece.lexeme?_eq_some {p : Piece} {k : TokenKind} {t : Text} (h : p.lexeme? = some (k, t)) :
    p.kind = .token k ∧ p.text = t := by
  rw [Piece.lexeme?] at h
  split at h
  · rename_i k' hk
    obtain ⟨rfl, ht⟩ := Prod.mk.inj (Option.some.inj h)
    exact ⟨hk, ht⟩
  · cases h

/-- What tokens are apart from their places. -/
def lexemesOf (ts : List Token) : List (TokenKind × Text) := ts.map fun t => (t.kind, t.text)

theorem lexemesOf_placeTokens : ∀ (p : Position) (ps : List Piece),
    lexemesOf (placeTokens p ps).1 = ps.filterMap Piece.lexeme?
  | _, [] => rfl
  | p, piece :: ps => by
    have ih := lexemesOf_placeTokens (p.after piece.text) ps
    rw [placeTokens, List.filterMap_cons, ← ih, Piece.lexeme?]
    cases piece.kind <;> rfl

/-- A text is read as the tokens among its pieces, if nothing is wrong with it. -/
theorem lex_iff {source : Text} {ls : List (TokenKind × Text)} :
    (∃ lexed, lex source = .ok lexed ∧ lexemesOf lexed.tokens = ls) ↔
      (piecesFrom 0 true (canonicalSource source)).fault = none ∧
        (piecesFrom 0 true (canonicalSource source)).pieces.filterMap Piece.lexeme? = ls := by
  have htokens := lexemesOf_placeTokens .start (piecesFrom 0 true (canonicalSource source)).pieces
  rw [lex]
  cases hf : (piecesFrom 0 true (canonicalSource source)).fault with
  | none => simp only [Except.ok.injEq, exists_eq_left', htokens, true_and]
  | some e => simp only [reduceCtorEq, false_and, exists_false]

theorem piecesFrom_skip : ∀ (s : Text) (lineStart : Bool) (r : Text),
    ∃ lineStart', piecesFrom s.length lineStart (s ++ r) = piecesFrom 0 lineStart' r
  | [], lineStart, r => ⟨lineStart, rfl⟩
  | c :: s, lineStart, r => by
    rw [List.length_cons, List.cons_append, piecesFrom]
    exact piecesFrom_skip s _ r

/-- Behind a piece, reading goes on with the rest. -/
theorem piecesFrom_piece {lineStart : Bool} {kind : PieceKind} {t r : Text} (hne : t ≠ [])
    (h : piece? lineStart (t ++ r) = .ok (kind, t.length)) : ∃ lineStart', piecesFrom 0 lineStart (t ++ r) =
      { piecesFrom 0 lineStart' r with pieces := ⟨kind, t⟩ :: (piecesFrom 0 lineStart' r).pieces } := by
  obtain ⟨c, s, rfl⟩ := List.exists_cons_of_ne_nil hne
  obtain ⟨lineStart', hskip⟩ := piecesFrom_skip s (c == '\n' || (lineStart && isSpace c)) r
  refine ⟨lineStart', ?_⟩
  rw [List.cons_append] at h ⊢
  rw [piecesFrom, h]
  simp only [List.length_cons, Nat.add_sub_cancel, hskip, List.take_succ_cons, List.take_left]

/-- Whatever is read, its first piece is what begins the text. -/
theorem pieces_of_piece? {lineStart : Bool} {kind : PieceKind} {n : Nat} {t : Text} (hne : t ≠ [])
    (h : piece? lineStart t = .ok (kind, n)) :
    ∃ ps, (piecesFrom 0 lineStart t).pieces = ⟨kind, t.take n⟩ :: ps := by
  obtain ⟨c, s, rfl⟩ := List.exists_cons_of_ne_nil hne
  rw [piecesFrom, h]
  exact ⟨_, rfl⟩

/-! ## The text of tokens -/

theorem renderFrom_blank {earlier previous : Option Token} {t : Token}
    (h : previous.any (fun p => spaced earlier p t) = true) (ts : List Token) :
    renderFrom earlier previous (t :: ts) = ' ' :: (t.text ++ renderFrom previous (some t) ts) := by
  rw [renderFrom, if_pos h]
  rfl

theorem renderFrom_joined {earlier previous : Option Token} {t : Token}
    (h : previous.any (fun p => spaced earlier p t) = false) (ts : List Token) :
    renderFrom earlier previous (t :: ts) = t.text ++ renderFrom previous (some t) ts := by
  rw [renderFrom, h]
  rfl

theorem renderFrom_ne_nil {earlier previous : Option Token} {t : Token} (h : t.text ≠ []) (ts : List Token) :
    renderFrom earlier previous (t :: ts) ≠ [] := by
  rw [renderFrom]
  simp [h]

/-- Behind a point the text goes on with that of the next token. -/
theorem head?_renderFrom_point {earlier : Option Token} {b : Token} (hb : b.text = ['.']) : ∀ {ts : List Token},
    (∀ t ∈ ts, IsLexeme t.kind t.text) →
      (ts.head?.any fun c => c.text.head? == some '.') = ((renderFrom earlier (some b) ts).head? == some '.')
  | [], _ => rfl
  | c :: ts, h => by
    have hspaced : (some b).any (spaced earlier · c) = false := by
      have hmem : joinsNext.contains ['.'] = true := by decide
      simp only [Option.any_some, spaced, hb, hmem, Bool.true_or, Bool.not_true]
    obtain ⟨d, s, hd⟩ := List.exists_cons_of_ne_nil (h c (by simp)).ne_nil
    rw [renderFrom_joined hspaced, List.head?_cons, Option.any_some, hd]
    rfl

/-- **What is read where a token begins**: the token, unless the next one fuses with it. -/
theorem readsFirst_renderFrom (earlier : Option Token) {a : Token} {ts : List Token}
    (h : ∀ t ∈ a :: ts, IsLexeme t.kind t.text) (lineStart : Bool) :
    ReadsFirst (ts.head?.any fun b => fuses earlier a b ts.tail.head?) a lineStart
      (a.text ++ renderFrom earlier (some a) ts) := by
  have ha := h a (by simp)
  match ts, h with
  | [], h =>
    rw [renderFrom]
    exact piece?_plain ha lineStart (fun c hc => by cases hc)
  | b :: ts, h =>
    have hb := h b (by simp)
    cases hs : (some a).any fun p => spaced earlier p b with
    | true =>
      have hspaced : spaced earlier a b = true := hs
      have hplain : ∀ c ∈ (renderFrom earlier (some a) (b :: ts)).head?, isPlain c = true := by
        rw [renderFrom_blank hs]
        intro c hc
        cases hc
        rfl
      simp only [List.head?_cons, Option.any_some, fuses, hspaced, Bool.not_true, Bool.false_and]
      exact piece?_plain ha lineStart hplain
    | false =>
      rw [renderFrom_joined hs]
      have hts : ∀ t ∈ ts, IsLexeme t.kind t.text := fun t ht => h t (by simp [ht])
      exact readsFirst_unspaced ha hb hs (fun hp => head?_renderFrom_point hp hts) lineStart

/-- Reading the text makes the tokens, or something else if two of them fuse. -/
def ReadsBack (fused : Bool) (lineStart : Bool) (t : Text) (ts : List Token) : Prop :=
  if fused then (piecesFrom 0 lineStart t).pieces.filterMap Piece.lexeme? ≠ lexemesOf ts
  else (piecesFrom 0 lineStart t).fault = none ∧
    (piecesFrom 0 lineStart t).pieces.filterMap Piece.lexeme? = lexemesOf ts

theorem ReadsBack.blank {fused lineStart : Bool} {c : Char} {t : Text} {ts : List Token} (hc : isBlank c)
    (h : ∀ lineStart, ReadsBack fused lineStart t ts) : ReadsBack fused lineStart (c :: t) ts := by
  have hblank : piece? lineStart ([c] ++ t) = .ok (.blank, [c].length) := if_pos hc
  obtain ⟨lineStart', hread⟩ := piecesFrom_piece (by simp) hblank
  rw [List.singleton_append] at hread
  rw [ReadsBack, hread]
  exact h lineStart'

/-- More than the first token was read. -/
theorem ReadsBack.longer {lineStart : Bool} {a : Token} {r : Text} {ts : List Token} {k : TokenKind} {n : Nat}
    (hne : a.text ≠ []) (hr : r ≠ []) (h : piece? lineStart (a.text ++ r) = .ok (.token k, n))
    (hlt : a.text.length < n) : ReadsBack true lineStart (a.text ++ r) (a :: ts) := by
  obtain ⟨ps, hps⟩ := pieces_of_piece? (by simp [hne]) h
  rw [ReadsBack, if_pos rfl, hps]
  intro heq
  obtain ⟨hfirst, -⟩ := List.cons.inj (show (k, (a.text ++ r).take n) :: ps.filterMap Piece.lexeme? =
    (a.kind, a.text) :: lexemesOf ts from heq)
  have htext : (a.text ++ r).take n = a.text := congrArg Prod.snd hfirst
  have hlength := congrArg List.length htext
  have hpos := List.length_pos_iff.2 hr
  rw [List.length_take, List.length_append] at hlength
  omega

/-- The first token was read as it is. -/
theorem ReadsBack.token {fused lineStart : Bool} {a : Token} {r : Text} {ts : List Token} (hne : a.text ≠ [])
    (h : piece? lineStart (a.text ++ r) = .ok (.token a.kind, a.text.length))
    (hr : ∀ lineStart, ReadsBack fused lineStart r ts) : ReadsBack fused lineStart (a.text ++ r) (a :: ts) := by
  obtain ⟨lineStart', hread⟩ := piecesFrom_piece hne h
  have hlexemes : ((⟨.token a.kind, a.text⟩ : Piece) :: (piecesFrom 0 lineStart' r).pieces).filterMap Piece.lexeme? =
      (a.kind, a.text) :: (piecesFrom 0 lineStart' r).pieces.filterMap Piece.lexeme? := rfl
  have hback := hr lineStart'
  have htokens : lexemesOf (a :: ts) = (a.kind, a.text) :: lexemesOf ts := rfl
  cases fused with
  | true =>
    rw [ReadsBack, if_pos rfl] at hback ⊢
    rw [hread, hlexemes, htokens]
    exact fun heq => hback (List.cons.inj heq).2
  | false =>
    rw [ReadsBack, if_neg Bool.false_ne_true] at hback ⊢
    rw [hread, hlexemes, htokens, hback.2]
    exact ⟨hback.1, rfl⟩

/-- **Tokens are read back up to the first two that fuse.** -/
theorem readsBack_renderFrom : ∀ {ts : List Token} (earlier previous : Option Token) (lineStart : Bool),
    (∀ t ∈ ts, IsLexeme t.kind t.text) →
      ReadsBack (fusesIn previous ts) lineStart (renderFrom earlier previous ts) ts
  | [], _, _, _, _ => ⟨rfl, rfl⟩
  | a :: ts, earlier, previous, lineStart, h => by
    have hne := (h a (by simp)).ne_nil
    have hjoined (lineStart : Bool) :
        ReadsBack (fusesIn previous (a :: ts)) lineStart (a.text ++ renderFrom previous (some a) ts) (a :: ts) := by
      have hfirst := readsFirst_renderFrom previous h lineStart
      rw [fusesIn]
      cases hfused : ts.head?.any (fun b => fuses previous a b ts.tail.head?) with
      | true =>
        rw [hfused, ReadsFirst, if_pos rfl] at hfirst
        obtain ⟨k, n, hread, hlt⟩ := hfirst
        cases ts with
        | nil => cases hfused
        | cons b ts =>
          exact .longer hne (renderFrom_ne_nil (h b (by simp)).ne_nil ts) hread hlt
      | false =>
        rw [hfused, ReadsFirst, if_neg Bool.false_ne_true] at hfirst
        exact .token hne hfirst fun lineStart => readsBack_renderFrom _ _ lineStart fun t ht => h t (by simp [ht])
    cases hs : previous.any (spaced earlier · a) with
    | true =>
      rw [renderFrom_blank hs]
      exact .blank rfl hjoined
    | false =>
      rw [renderFrom_joined hs]
      exact hjoined lineStart

/-! ## Line feeds -/

theorem mem_of_mem_spliceLines {e : Char} {t : Text} (h : e ∈ spliceLines t) : e ∈ t := by
  fun_induction spliceLines t with
  | case1 cs ih => exact List.mem_cons_of_mem _ (List.mem_cons_of_mem _ (ih h))
  | case2 c cs hc ih =>
    rcases List.mem_cons.1 h with rfl | h
    · exact List.mem_cons_self
    · exact List.mem_cons_of_mem _ (ih h)
  | case3 => exact h

theorem spliceLines_of_not_mem : ∀ {t : Text}, '\n' ∉ t → spliceLines t = t
  | [], _ => rfl
  | c :: t, h => by
    obtain ⟨hc, ht⟩ := not_or.1 (fun hmem => h (List.mem_cons.2 hmem))
    rw [spliceLines, spliceLines_of_not_mem ht]
    rintro cs rfl rfl
    exact ht List.mem_cons_self

/-- **Where every line feed stands behind a backslash, joining lines takes all of them away.** -/
theorem not_mem_spliceLines {t : Text} (h : joinsLines t) : '\n' ∉ spliceLines t := by
  fun_induction joinsLines t with
  | case1 cs ih =>
    rw [spliceLines]
    exact ih h
  | case2 c cs hc ih =>
    obtain ⟨hn, ht⟩ := Bool.and_eq_true_iff.1 h
    rw [spliceLines]
    · have hne : c ≠ '\n' := by simpa using hn
      exact fun hmem => (List.mem_cons.1 hmem).elim (fun heq => hne heq.symm) (ih ht)
    · exact hc
  | case3 => simp [spliceLines]

theorem joinsLines_append {s t : Text} (hs : joinsLines s) (ht : joinsLines t) : joinsLines (s ++ t) := by
  fun_induction joinsLines s with
  | case1 cs ih =>
    rw [List.cons_append, List.cons_append, joinsLines]
    exact ih hs
  | case2 c cs hc ih =>
    obtain ⟨hn, hcs⟩ := Bool.and_eq_true_iff.1 hs
    exact joinsLines_cons (by simpa using hn) (ih hcs)
  | case3 => exact ht

theorem joinsLines_of_not_mem : ∀ {t : Text}, '\n' ∉ t → joinsLines t
  | [], _ => rfl
  | c :: t, h => by
    obtain ⟨hc, ht⟩ := not_or.1 (fun hmem => h (List.mem_cons.2 hmem))
    exact joinsLines_cons (Ne.symm hc) (joinsLines_of_not_mem ht)

/-- Only quoted texts have line feeds, behind backslashes. -/
theorem IsLexeme.joinsLines {k : TokenKind} {t : Text} (h : IsLexeme k t) : joinsLines t := by
  have hspecial : isWord '\n' = false ∧ continuesNumber '\n' = false ∧ isSign '\n' = false ∧ isDigit '\n' = false := by
    decide
  obtain ⟨hword, hnumber, hsign, hdigit⟩ := hspecial
  cases h with
  | identifier hc hd h =>
    refine joinsLines_of_not_mem fun hmem => ?_
    have hw : isWord '\n' = true := by
      rcases List.mem_cons.1 hmem with rfl | hmem
      · exact isWord_of_isLetter hc
      · exact h _ hmem
    rw [hword] at hw
    cases hw
  | @number c s hc h =>
    refine joinsLines_of_not_mem fun hmem => ?_
    rcases List.mem_cons.1 hmem with rfl | hmem
    · simp [beginsNumber, hdigit] at hc
    · have htake : s.take (numberTail s) = s := by rw [h, List.take_length]
      rcases mem_take_numberTail (htake.symm ▸ hmem) with h | h
      · rw [hnumber] at h
        cases h
      · rw [hsign] at h
        cases h
  | charConstant h hj => exact joinsLines_cons (by decide) hj
  | string h hj => exact joinsLines_cons (by decide) hj
  | punctuator h =>
    have hpunctuators : ∀ p ∈ punctuators, '\n' ∉ p := by decide
    exact joinsLines_of_not_mem (hpunctuators t h)

/-! ## Tokens that were read -/

theorem mem_pieces {piece : Piece} : ∀ {skip : Nat} {lineStart : Bool} {t : Text},
    piece ∈ (piecesFrom skip lineStart t).pieces →
      (∀ e ∈ piece.text, e ∈ t) ∧ ∀ k, piece.kind = .token k → IsLexeme k piece.text
  | _, _, [], h => by cases h
  | skip + 1, lineStart, c :: t, h => by
    rw [piecesFrom] at h
    obtain ⟨hmem, hlexeme⟩ := mem_pieces h
    exact ⟨fun e he => List.mem_cons_of_mem _ (hmem e he), hlexeme⟩
  | 0, lineStart, c :: t, h => by
    rw [piecesFrom] at h
    cases hp : piece? lineStart (c :: t) with
    | error e =>
      rw [hp] at h
      cases h
    | ok read =>
      obtain ⟨kind, n⟩ := read
      rw [hp] at h
      rcases List.mem_cons.1 h with rfl | h
      · refine ⟨fun e he => List.mem_of_mem_take he, ?_⟩
        rintro k rfl
        exact (isLexeme_of_piece? hp).1
      · obtain ⟨hmem, hlexeme⟩ := mem_pieces h
        exact ⟨fun e he => List.mem_cons_of_mem _ (hmem e he), hlexeme⟩

/-- **What reading makes**: lexemes, out of the characters of the text. -/
theorem mem_lex {source : Text} {lexed : Lexed} (h : lex source = .ok lexed) {t : Token} (ht : t ∈ lexed.tokens) :
    IsLexeme t.kind t.text ∧ ∀ e ∈ t.text, e ∈ canonicalSource source := by
  obtain ⟨-, htokens⟩ := lex_iff.1 ⟨lexed, h, rfl⟩
  have hmem : (t.kind, t.text) ∈ lexemesOf lexed.tokens := List.mem_map.2 ⟨t, ht, rfl⟩
  rw [← htokens] at hmem
  obtain ⟨piece, hpiece, hlexeme⟩ := List.mem_filterMap.1 hmem
  obtain ⟨hchars, hlexemes⟩ := mem_pieces hpiece
  obtain ⟨hkind, htext⟩ := Piece.lexeme?_eq_some hlexeme
  rw [← htext]
  exact ⟨hlexemes _ hkind, hchars⟩

theorem not_mem_canonicalSource (source : Text) : '\r' ∉ canonicalSource source := fun h =>
  not_mem_unifyLineEnds source (mem_of_mem_spliceLines h)

/-- What holds of a space and of every token holds of their text. -/
theorem renderFrom_induction {p : Text → Prop} (hnil : p []) (hspace : ∀ t, p t → p (' ' :: t)) {ts : List Token}
    (happend : ∀ t ∈ ts, ∀ r, p r → p (t.text ++ r)) : ∀ earlier previous, p (renderFrom earlier previous ts) := by
  induction ts with
  | nil => exact fun _ _ => hnil
  | cons a ts ih =>
    intro earlier previous
    have hrest := happend a (by simp) _ (ih (fun t ht => happend t (by simp [ht])) previous (some a))
    cases hs : previous.any (fun p => spaced earlier p a) with
    | true =>
      rw [renderFrom_blank hs]
      exact hspace _ hrest
    | false =>
      rw [renderFrom_joined hs]
      exact hrest

/-! ## Reading again -/

/-- **When the text of tokens is read as the tokens again**: when no two neighbours fuse and no line feed is quoted. -/
theorem lex_render_iff {source : Text} {lexed : Lexed} (h : lex source = .ok lexed) :
    (∃ again, lex (render lexed.tokens) = .ok again ∧ lexemesOf again.tokens = lexemesOf lexed.tokens) ↔
      fusesIn none lexed.tokens = false ∧ ∀ t ∈ lexed.tokens, '\n' ∉ t.text := by
  have hlexemes : ∀ t ∈ lexed.tokens, IsLexeme t.kind t.text := fun t ht => (mem_lex h ht).1
  have hreturn : '\r' ∉ render lexed.tokens :=
    renderFrom_induction (p := ('\r' ∉ ·)) (by simp) (fun t ht => by simpa using ht)
      (fun t ht r hr hmem => (List.mem_append.1 hmem).elim
        (fun hmem => not_mem_canonicalSource source ((mem_lex h ht).2 _ hmem)) hr) none none
  rw [lex_iff, canonicalSource, unifyLineEnds_of_not_mem hreturn]
  by_cases hfeed : ∀ t ∈ lexed.tokens, '\n' ∉ t.text
  · have hnone : '\n' ∉ render lexed.tokens :=
      renderFrom_induction (p := ('\n' ∉ ·)) (by simp) (fun t ht => by simpa using ht)
        (fun t ht r hr hmem => (List.mem_append.1 hmem).elim (hfeed t ht) hr) none none
    have hback := readsBack_renderFrom none none true hlexemes
    rw [spliceLines_of_not_mem hnone]
    cases hf : fusesIn none lexed.tokens with
    | true =>
      rw [hf, ReadsBack, if_pos rfl] at hback
      exact ⟨fun hagain => absurd hagain.2 hback, fun hno => absurd hno.1 (by simp)⟩
    | false =>
      rw [hf, ReadsBack, if_neg Bool.false_ne_true] at hback
      exact ⟨fun _ => ⟨rfl, hfeed⟩, fun _ => hback⟩
  · have hjoins : joinsLines (render lexed.tokens) :=
      renderFrom_induction (p := (joinsLines ·)) rfl (fun t ht => joinsLines_cons (by decide) ht)
        (fun t ht r hr => joinsLines_append (hlexemes t ht).joinsLines hr) none none
    refine ⟨fun hagain => absurd (fun t ht hmem => ?_) hfeed, fun hno => absurd hno.2 hfeed⟩
    have hread : (t.kind, t.text) ∈ lexemesOf lexed.tokens := List.mem_map.2 ⟨t, ht, rfl⟩
    rw [← hagain.2] at hread
    obtain ⟨piece, hpiece, hlexeme⟩ := List.mem_filterMap.1 hread
    obtain ⟨-, htext⟩ := Piece.lexeme?_eq_some hlexeme
    exact not_mem_spliceLines hjoins ((mem_pieces hpiece).1 _ (htext ▸ hmem))

theorem lex_render_negative : ∃ lexed again, lex "f( -1 )".toList = .ok lexed ∧ render lexed.tokens = "f(-1)".toList ∧
    lex (render lexed.tokens) = .ok again ∧ lexemesOf again.tokens = lexemesOf lexed.tokens := by
  have hlex : lex "f( -1 )".toList = .ok ⟨[⟨.identifier, ['f'], ⟨1, 1⟩⟩, ⟨.punctuator, ['('], ⟨1, 2⟩⟩,
      ⟨.punctuator, ['-'], ⟨1, 4⟩⟩, ⟨.number, ['1'], ⟨1, 5⟩⟩, ⟨.punctuator, [')'], ⟨1, 7⟩⟩], ⟨1, 8⟩⟩ := by rfl
  obtain ⟨again, hagain, hlexemes⟩ := (lex_render_iff hlex).2 ⟨by decide, by decide⟩
  exact ⟨_, again, hlex, by decide, hagain, hlexemes⟩

/-- No space is put behind the first sign, whatever the second token is, so the two signs are read as one token. -/
theorem lex_render_signs : ∃ lexed again, lex "- -1".toList = .ok lexed ∧ lex (render lexed.tokens) = .ok again ∧
    lexemesOf lexed.tokens = [(.punctuator, ['-']), (.punctuator, ['-']), (.number, ['1'])] ∧
    lexemesOf again.tokens = [(.punctuator, ['-', '-']), (.number, ['1'])] ∧
    ¬ ∃ other, lex (render lexed.tokens) = .ok other ∧ lexemesOf other.tokens = lexemesOf lexed.tokens := by
  have hlex : lex "- -1".toList = .ok ⟨[⟨.punctuator, ['-'], ⟨1, 1⟩⟩, ⟨.punctuator, ['-'], ⟨1, 3⟩⟩,
      ⟨.number, ['1'], ⟨1, 4⟩⟩], ⟨1, 5⟩⟩ := by rfl
  have hagain : lex "--1".toList = .ok ⟨[⟨.punctuator, ['-', '-'], ⟨1, 1⟩⟩, ⟨.number, ['1'], ⟨1, 3⟩⟩], ⟨1, 4⟩⟩ := by rfl
  refine ⟨_, _, hlex, hagain, rfl, rfl, ?_⟩
  rintro ⟨other, hother, hlexemes⟩
  obtain rfl := Except.ok.inj (hagain.symm.trans hother)
  exact absurd hlexemes (by decide)

end GameSource.Initializer
