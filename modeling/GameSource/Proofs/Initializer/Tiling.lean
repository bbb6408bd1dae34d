import GameSource.Proofs.Initializer.Lexeme
import GameSource.Proofs.Text.Lines
/-!
# Tokens and what stands between them tile the text

A text that is read is its tokens in order with gaps between them, and a gap is blanks, whole comments and directive
lines, nothing else (`Gap`, `Tiled`).  Each token has the place of its first character, counted from the text before it
(`placeBehind`), and the end has the place behind the whole text (`lex_tiled`).
-/
namespace GameSource

/-! ## Places -/

/-- What stands on the last line of a text. -/
def lastLine (t : Text) : Text := (t.reverse.takeWhile (· != '\n')).reverse

/-- The place behind a text: one line further for each line feed, one column further for each character behind the last
one. -/
def placeBehind (t : Text) : Position := ⟨1 + t.count '\n', 1 + (lastLine t).length⟩

theorem lastLine_concat (t : Text) (c : Char) : lastLine (t ++ [c]) = if c = '\n' then [] else lastLine t ++ [c] := by
  by_cases h : c = '\n' <;> simp [lastLine, h]

theorem placeBehind_concat (t : Text) (c : Char) : placeBehind (t ++ [c]) = (placeBehind t).step c := by
  rw [placeBehind, placeBehind, lastLine_concat, Position.step]
  by_cases h : c = '\n' <;> simp [h, Nat.add_assoc]

/-- **Stepping over a text leads to the place behind it.** -/
theorem after_placeBehind : ∀ before t : Text, (placeBehind before).after t = placeBehind (before ++ t)
  | before, [] => by rw [List.append_nil]; rfl
  | before, c :: t => by
    have hstep : (placeBehind before).after (c :: t) = (placeBehind (before ++ [c])).after t := by
      rw [placeBehind_concat]
      rfl
    rw [hstep, after_placeBehind, List.append_assoc]
    rfl

namespace Initializer

/-- Only white space stands on the last line. -/
def atLineStart (before : Text) : Bool := (lastLine before).all isSpace

theorem atLineStart_concat (before : Text) (c : Char) :
    atLineStart (before ++ [c]) = (c == '\n' || (atLineStart before && isSpace c)) := by
  by_cases h : c = '\n' <;> simp [atLineStart, lastLine_concat, h]

/-! ## Gaps -/

/-- What may stand between tokens, between the texts `before` and `after`: a blank, a comment, or a directive, which
begins where only white space stands before it on its line.  Comments to the end of a line and directives end where the
line or the text does, a block comment at the first mark that closes it. -/
inductive Filler (before : Text) : (filler after : Text) → Prop where
  | blank {c : Char} {after : Text} (h : c = ' ' ∨ c = '\t' ∨ c = '\x0b' ∨ c = '\x0c' ∨ c = '\n') :
      Filler before [c] after
  | lineComment {body after : Text} (h : '\n' ∉ body) (hend : ∀ c ∈ after.head?, c = '\n') :
      Filler before ('/' :: '/' :: body) after
  | blockComment {body after : Text} (h : ¬ ['*', '/'] <:+: body ++ ['*']) :
      Filler before ('/' :: '*' :: (body ++ ['*', '/'])) after
  | directive {body after : Text} (hstart : atLineStart before) (h : '\n' ∉ body)
      (hend : ∀ c ∈ after.head?, c = '\n') : Filler before ('#' :: body) after

/-- A text between tokens, between the texts `before` and `after`. -/
inductive Gap : (before gap after : Text) → Prop where
  | nil {before after : Text} : Gap before [] after
  | cons {before filler gap after : Text} (hf : Filler before filler (gap ++ after))
      (h : Gap (before ++ filler) gap after) : Gap before (filler ++ gap) after

/-- **The text behind `before` is tiled by tokens and gaps**: each token stands at its place. -/
inductive Tiled : (before text : Text) → List Token → Prop where
  | last {before gap : Text} (hg : Gap before gap []) : Tiled before gap []
  | token {before gap rest : Text} {t : Token} {ts : List Token} (hg : Gap before gap (t.text ++ rest))
      (hk : IsLexeme t.kind t.text) (hp : t.position = placeBehind (before ++ gap))
      (h : Tiled (before ++ gap ++ t.text) rest ts) : Tiled before (gap ++ (t.text ++ rest)) (t :: ts)

theorem Tiled.filler {before filler rest : Text} {ts : List Token} (hf : Filler before filler rest)
    (h : Tiled (before ++ filler) rest ts) : Tiled before (filler ++ rest) ts := by
  cases h with
  | last hg =>
    refine .last (.cons ?_ hg)
    rwa [List.append_nil]
  | @token _ gap rest t ts hg hk hp h =>
    rw [← List.append_assoc]
    rw [List.append_assoc before] at hp
    rw [List.append_assoc before] at h
    exact .token (.cons hf hg) hk hp h

/-! ## Pieces -/

/-- The end of a block comment is the first mark that closes it. -/
theorem blockLength?_eq_some : ∀ {t : Text} {n : Nat}, blockLength? t = some n →
    ∃ body rest, t = body ++ '*' :: '/' :: rest ∧ n = body.length + 2 ∧ ¬ ['*', '/'] <:+: body ++ ['*']
  | [], n, h => by cases h
  | c :: cs, n, h => by
    by_cases hclose : c = '*' ∧ cs.head? = some '/'
    · obtain ⟨rfl, hhead⟩ := hclose
      obtain ⟨rest, rfl⟩ := List.head?_eq_some_iff.1 hhead
      cases h
      exact ⟨[], rest, rfl, rfl, by decide⟩
    · have hread : blockLength? (c :: cs) = (blockLength? cs).map (· + 1) := by
        rw [blockLength?]
        rintro rest hc hcs
        exact hclose ⟨hc, by rw [hcs]; rfl⟩
      rw [hread] at h
      obtain ⟨m, hm, rfl⟩ := Option.map_eq_some_iff.1 h
      obtain ⟨body, rest, rfl, rfl, hbody⟩ := blockLength?_eq_some hm
      refine ⟨c :: body, rest, rfl, by simp, ?_⟩
      rw [List.cons_append, List.infix_cons_iff]
      rintro (hbegins | hinside)
      · obtain ⟨rfl, hslash⟩ := List.cons_prefix_cons.1 hbegins
        cases body with
        | nil => exact absurd hslash (by decide)
        | cons d body =>
          obtain ⟨rfl, -⟩ := List.cons_prefix_cons.1 hslash
          exact hclose ⟨rfl, rfl⟩
      · exact hbody hinside

/-- **A piece that is no token may stand between tokens.** -/
theorem filler_of_piece? {before t : Text} {kind : PieceKind} {n : Nat}
    (h : piece? (atLineStart before) t = .ok (kind, n)) (hkind : ∀ k, kind ≠ .token k) :
    n ≠ 0 ∧ Filler before (t.take n) (t.drop n) := by
  unfold piece? at h
  split at h
  · cases h
  rename_i c cs
  simp only at h
  split at h
  · rename_i hblank
    cases h
    refine ⟨Nat.one_ne_zero, .blank ?_⟩
    simpa [isBlank, or_assoc] using hblank
  split at h
  · rename_i hdirective
    obtain ⟨rfl, hstart⟩ := hdirective
    obtain ⟨body, rest, rfl, hbody, hend⟩ := exists_firstLine cs
    have hline : '\n' ∉ '#' :: body := by simp [hbody]
    cases h
    rw [← List.cons_append, takeWhile_firstLine hline hend, List.take_left, List.drop_left]
    exact ⟨Nat.succ_ne_zero _, .directive hstart hbody hend⟩
  split at h
  · rename_i hcomment
    obtain ⟨rfl, hslash⟩ := hcomment
    obtain ⟨ds, rfl⟩ := List.head?_eq_some_iff.1 hslash
    obtain ⟨body, rest, rfl, hbody, hend⟩ := exists_firstLine ds
    have hline : '\n' ∉ '/' :: '/' :: body := by simp [hbody]
    cases h
    rw [← List.cons_append, ← List.cons_append, takeWhile_firstLine hline hend, List.take_left, List.drop_left]
    exact ⟨Nat.succ_ne_zero _, .lineComment hbody hend⟩
  split at h
  · rename_i hcomment
    obtain ⟨rfl, hstar⟩ := hcomment
    obtain ⟨ds, rfl⟩ := List.head?_eq_some_iff.1 hstar
    split at h
    · rename_i m hm
      cases h
      obtain ⟨body, rest, hds, rfl, hbody⟩ := blockLength?_eq_some hm
      have hcut : '/' :: '*' :: ds = '/' :: '*' :: (body ++ ['*', '/']) ++ rest := by
        rw [List.tail_cons] at hds
        simp [hds]
      have hlength : body.length + 2 + 2 = ('/' :: '*' :: (body ++ ['*', '/'])).length := by simp
      rw [hcut, hlength, List.take_left, List.drop_left]
      exact ⟨Nat.succ_ne_zero _, .blockComment hbody⟩
    · cases h
  -- every other piece is a token
  have htoken {k : TokenKind} {m : Nat} {goal : Prop}
      (h : (.ok (.token k, m) : Except (LexCause × Nat) (PieceKind × Nat)) = .ok (kind, n)) : goal := by
    cases h
    exact absurd rfl (hkind k)
  split at h
  · split at h
    · exact htoken h
    · cases h
  split at h
  · split at h
    · exact htoken h
    · cases h
  split at h
  · exact htoken h
  split at h
  · exact htoken h
  split at h
  · exact htoken h
  · cases h

/-! ## Texts -/

/-- Behind the characters of a piece, reading goes on with the rest. -/
theorem piecesFrom_drop : ∀ (n : Nat) (before t : Text),
    piecesFrom n (atLineStart before) t = piecesFrom 0 (atLineStart (before ++ t.take n)) (t.drop n)
  | 0, before, t => by rw [List.take_zero, List.append_nil, List.drop_zero]
  | n + 1, before, [] => by rw [List.take_nil, List.drop_nil, piecesFrom, piecesFrom]
  | n + 1, before, c :: t => by
    rw [piecesFrom, ← atLineStart_concat, piecesFrom_drop n (before ++ [c]) t, List.take_succ_cons, List.drop_succ_cons,
      List.append_assoc]
    rfl

theorem piecesFrom_ok {before t : Text} {kind : PieceKind} {n : Nat} (hn : n ≠ 0)
    (h : piece? (atLineStart before) t = .ok (kind, n)) :
    piecesFrom 0 (atLineStart before) t =
      { piecesFrom 0 (atLineStart (before ++ t.take n)) (t.drop n) with
        pieces := ⟨kind, t.take n⟩ :: (piecesFrom 0 (atLineStart (before ++ t.take n)) (t.drop n)).pieces } := by
  cases t with
  | nil => cases h
  | cons c cs =>
    obtain ⟨m, rfl⟩ := Nat.exists_eq_succ_of_ne_zero hn
    have hrest := piecesFrom_drop m (before ++ [c]) cs
    rw [List.append_assoc] at hrest
    rw [piecesFrom, h, ← atLineStart_concat]
    simp only [Nat.succ_eq_add_one, Nat.add_sub_cancel, hrest]
    rfl

/-- **A text without faults is tiled by its tokens**, and they end behind it. -/
theorem tiled_of_piecesFrom {t before : Text} (h : (piecesFrom 0 (atLineStart before) t).fault = none) :
    Tiled before t (placeTokens (placeBehind before) (piecesFrom 0 (atLineStart before) t).pieces).1 ∧
    (placeTokens (placeBehind before) (piecesFrom 0 (atLineStart before) t).pieces).2 = placeBehind (before ++ t) := by
  cases hpiece : piece? (atLineStart before) t with
  | error e =>
    cases t with
    | nil => exact ⟨.last .nil, by rw [List.append_nil]; rfl⟩
    | cons c cs =>
      rw [piecesFrom, hpiece] at h
      cases h
  | ok p =>
    obtain ⟨kind, n⟩ := p
    have hn : n ≠ 0 := by
      cases kind with
      | token k => exact (isLexeme_of_piece? hpiece).2
      | blank => exact (filler_of_piece? hpiece fun k hk => by cases hk).1
      | comment => exact (filler_of_piece? hpiece fun k hk => by cases hk).1
      | directive => exact (filler_of_piece? hpiece fun k hk => by cases hk).1
    have hne : t ≠ [] := by
      rintro rfl
      cases hpiece
    rw [piecesFrom_ok hn hpiece] at h ⊢
    have ih := tiled_of_piecesFrom h
    rw [List.append_assoc, List.take_append_drop] at ih
    have hplace : (placeBehind before).after (t.take n) = placeBehind (before ++ t.take n) := after_placeBehind _ _
    have hsplit : t.take n ++ t.drop n = t := List.take_append_drop n t
    have hfiller (hkind : ∀ k, kind ≠ .token k) {ts : List Token} (hts : Tiled (before ++ t.take n) (t.drop n) ts) :
        Tiled before t ts := by
      have htiled := hts.filler (filler_of_piece? hpiece hkind).2
      rwa [hsplit] at htiled
    simp only [placeTokens, hplace]
    cases kind with
    | token k =>
      have hlexeme := (isLexeme_of_piece? hpiece).1
      refine ⟨?_, ih.2⟩
      have htoken := @Tiled.token before [] (t.drop n) ⟨k, t.take n, placeBehind before⟩ _ .nil hlexeme
        (by rw [List.append_nil]) (by rw [List.append_nil]; exact ih.1)
      rwa [List.nil_append, hsplit] at htoken
    | blank => exact ⟨hfiller (fun k hk => by cases hk) ih.1, ih.2⟩
    | comment => exact ⟨hfiller (fun k hk => by cases hk) ih.1, ih.2⟩
    | directive => exact ⟨hfiller (fun k hk => by cases hk) ih.1, ih.2⟩
  termination_by t.length
  decreasing_by
    have := List.length_pos_iff.2 hne
    simp only [List.length_drop]
    omega

/-- **A text that is read is tiled by its tokens**: between them stand only blanks, comments and directive lines, each
token stands at its place, and the one end that the tokens have is the end of the text. -/
theorem lex_tiled {source : Text} {lexed : Lexed} (h : lex source = .ok lexed) :
    Tiled [] (canonicalSource source) lexed.tokens ∧ lexed.stop = placeBehind (canonicalSource source) := by
  rw [lex] at h
  cases hfault : (piecesFrom 0 true (canonicalSource source)).fault with
  | some e =>
    rw [hfault] at h
    cases h
  | none =>
    rw [hfault] at h
    cases h
    exact @tiled_of_piecesFrom _ [] hfault

/-- A directive line, comments, and a string that goes on behind a line feed. -/
theorem lex_tiled_twoLines :
    Tiled [] "#if 1\n/* a\n */ x = \"\\\n\"; // b".toList
      [⟨.identifier, ['x'], ⟨3, 5⟩⟩, ⟨.punctuator, ['='], ⟨3, 7⟩⟩, ⟨.string, "\"\\\n\"".toList, ⟨3, 9⟩⟩,
        ⟨.punctuator, [';'], ⟨4, 2⟩⟩] ∧
    placeBehind "#if 1\n/* a\n */ x = \"\\\n\"; // b".toList = ⟨4, 8⟩ := by
  have hread : lex "#if 1\r\n/* a\r */ x = \"\\\\\n\n\"; // b".toList =
      .ok ⟨[⟨.identifier, ['x'], ⟨3, 5⟩⟩, ⟨.punctuator, ['='], ⟨3, 7⟩⟩, ⟨.string, "\"\\\n\"".toList, ⟨3, 9⟩⟩,
        ⟨.punctuator, [';'], ⟨4, 2⟩⟩], ⟨4, 8⟩⟩ := by rfl
  obtain ⟨htiled, hstop⟩ := lex_tiled hread
  exact ⟨htiled, hstop.symm⟩

end Initializer

end GameSource
