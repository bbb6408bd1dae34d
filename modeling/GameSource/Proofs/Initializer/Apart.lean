import GameSource.Proofs.Initializer.Relex
/-!
# Tokens one space apart are read again

No token grows onto a space, and none needs more than its own characters to be known for what it is.  So tokens that are
written one space apart are read as the same tokens again, unless a line feed in one of them is joined away
(`lex_apart_iff`).
-/
namespace GameSource.Initializer

/-- The tokens in one line, with one space between any two of them. -/
def apart (ts : List Token) : Text := [' '].intercalate (ts.map Token.text)

theorem apart_cons_cons (t u : Token) (ts : List Token) : apart (t :: u :: ts) = t.text ++ ' ' :: apart (u :: ts) := by
  simp [apart, List.intercalate]

theorem apart_singleton (t : Token) : apart [t] = t.text := by
  simp [apart, List.intercalate]

/-- What holds of a space and of every token holds of the tokens one space apart. -/
theorem apart_induction {p : Text → Prop} (hnil : p []) (hspace : ∀ t, p t → p (' ' :: t)) : ∀ {ts : List Token},
    (∀ t ∈ ts, ∀ r, p r → p (t.text ++ r)) → p (apart ts)
  | [], _ => hnil
  | [t], happend => by
    rw [apart_singleton, ← List.append_nil t.text]
    exact happend t (by simp) [] hnil
  | t :: u :: ts, happend => by
    rw [apart_cons_cons]
    exact happend t (by simp) _ (hspace _ (apart_induction hnil hspace fun v hv => happend v (List.mem_cons_of_mem t hv)))

/-- **Tokens one space apart are read back.** -/
theorem readsBack_apart : ∀ {ts : List Token}, (∀ t ∈ ts, IsLexeme t.kind t.text) → ∀ lineStart : Bool,
    ReadsBack false lineStart (apart ts) ts
  | [], _, _ => ⟨rfl, rfl⟩
  | [t], h, lineStart => by
    have ht : IsLexeme t.kind t.text := h t (by simp)
    have hread := piece?_plain ht lineStart (r := []) (by simp)
    rw [apart_singleton, ← List.append_nil t.text]
    exact .token ht.ne_nil hread fun _ => ⟨rfl, rfl⟩
  | t :: u :: ts, h, lineStart => by
    have ht : IsLexeme t.kind t.text := h t (by simp)
    have hspace : ∀ c ∈ (' ' :: apart (u :: ts)).head?, isPlain c := fun c hc => by
      cases hc
      rfl
    have hrest (lineStart : Bool) : ReadsBack false lineStart (apart (u :: ts)) (u :: ts) :=
      readsBack_apart (fun v hv => h v (List.mem_cons_of_mem t hv)) lineStart
    rw [apart_cons_cons]
    exact .token ht.ne_nil (piece?_plain ht lineStart hspace) fun _ => .blank rfl hrest

/-- **The tokens of a text, one space apart, are read as the same tokens again** just if no line feed is among their
characters: one that is stands behind a backslash, and there lines are joined. -/
theorem lex_apart_iff {source : Text} {lexed : Lexed} (h : lex source = .ok lexed) :
    (∃ again, lex (apart lexed.tokens) = .ok again ∧ lexemesOf again.tokens = lexemesOf lexed.tokens) ↔
      ∀ t ∈ lexed.tokens, '\n' ∉ t.text := by
  have hlexemes : ∀ t ∈ lexed.tokens, IsLexeme t.kind t.text := fun t ht => (mem_lex h ht).1
  have hreturn : '\r' ∉ apart lexed.tokens := by
    refine apart_induction (p := ('\r' ∉ ·)) (by simp) (fun t ht => by simpa using ht) fun t ht r hr hmem => ?_
    rcases List.mem_append.1 hmem with hmem | hmem
    · exact not_mem_canonicalSource source ((mem_lex h ht).2 _ hmem)
    · exact hr hmem
  rw [lex_iff, canonicalSource, unifyLineEnds_of_not_mem hreturn]
  constructor
  · rintro ⟨-, hagain⟩ t ht hmem
    -- Every line feed stands behind a backslash, so none is left once lines are joined.
    have hjoins : joinsLines (apart lexed.tokens) :=
      apart_induction (p := (joinsLines ·)) rfl (fun t ht => joinsLines_cons (by decide) ht) fun t ht r hr =>
        joinsLines_append (hlexemes t ht).joinsLines hr
    have hread : (t.kind, t.text) ∈ lexemesOf lexed.tokens := List.mem_map.2 ⟨t, ht, rfl⟩
    rw [← hagain] at hread
    obtain ⟨piece, hpiece, hlexeme⟩ := List.mem_filterMap.1 hread
    obtain ⟨-, htext⟩ := Piece.lexeme?_eq_some hlexeme
    exact not_mem_spliceLines hjoins ((mem_pieces hpiece).1 _ (htext ▸ hmem))
  · intro hfeed
    have hnone : '\n' ∉ apart lexed.tokens := by
      refine apart_induction (p := ('\n' ∉ ·)) (by simp) (fun t ht => by simpa using ht) fun t ht r hr hmem => ?_
      exact (List.mem_append.1 hmem).elim (hfeed t ht) hr
    rw [spliceLines_of_not_mem hnone]
    exact readsBack_apart hlexemes true

/-- Signs, a point before a digit and a number before a sign stay what they are. -/
theorem lex_apart_signs : ∃ lexed again, lex "- -1 . 5 1e/**/+2".toList = .ok lexed ∧
    apart lexed.tokens = "- - 1 . 5 1e + 2".toList ∧ lex (apart lexed.tokens) = .ok again ∧
    lexemesOf again.tokens = lexemesOf lexed.tokens := by
  have hlex : lex "- -1 . 5 1e/**/+2".toList = .ok ⟨[⟨.punctuator, ['-'], ⟨1, 1⟩⟩, ⟨.punctuator, ['-'], ⟨1, 3⟩⟩,
      ⟨.number, ['1'], ⟨1, 4⟩⟩, ⟨.punctuator, ['.'], ⟨1, 6⟩⟩, ⟨.number, ['5'], ⟨1, 8⟩⟩,
      ⟨.number, ['1', 'e'], ⟨1, 10⟩⟩, ⟨.punctuator, ['+'], ⟨1, 16⟩⟩, ⟨.number, ['2'], ⟨1, 17⟩⟩], ⟨1, 18⟩⟩ := by rfl
  obtain ⟨again, hagain, hlexemes⟩ := (lex_apart_iff hlex).2 (by decide)
  exact ⟨_, again, hlex, by decide, hagain, hlexemes⟩

end GameSource.Initializer
