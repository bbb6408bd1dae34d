import GameSource.Proofs.Text.Lines
/-!
# Whole words

A word stands whole in a text if no character of words goes before it (`WordBehind`) or follows it.  A line feed is no
such character, so a word that stands whole in a text does so on its line (`exists_line_hasWord`).
-/
namespace GameSource

/-- Behind a text a word stands that does not go on with the text's last character. -/
structure WordBehind (before word : Text) : Prop where
  nonempty : word ≠ []
  ofWord : ∀ c ∈ word, isWord c
  begins : ∀ c ∈ before.getLast?, isWord c = false

/-- The text has the word, and the word does not go on before or behind it. -/
def HasWord (word t : Text) : Prop :=
  ∃ before behind, t = before ++ (word ++ behind) ∧ WordBehind before word ∧ Stops isWord behind

theorem any_isWord_eq_false {before : Option Char} : before.any isWord = false ↔ ∀ c ∈ before, isWord c = false := by
  cases before <;> simp

namespace WordBehind

variable {before word : Text}

theorem newline (h : WordBehind before word) : '\n' ∉ word := fun hmem => absurd (h.ofWord _ hmem) (by decide)

/-- What a text ends with may be looked at alone. -/
theorem of_suffix (h : WordBehind before word) {p : Text} (hp : p <:+ before) : WordBehind p word := by
  obtain ⟨a, rfl⟩ := hp
  exact ⟨h.nonempty, h.ofWord, fun c hc => h.begins c (mem_getLast?_append.2 (.inl hc))⟩

/-- More may stand before, unless the word would go on with its last character. -/
theorem of_getLast? {p : Text} (h : WordBehind p word)
    (hlast : ∀ c ∈ before.getLast?, isWord c = false ∨ c ∈ p.getLast?) : WordBehind before word :=
  ⟨h.nonempty, h.ofWord, fun c hc => (hlast c hc).elim id fun hp => h.begins c hp⟩

/-- **A word that begins later** begins behind the first one. -/
theorem behind_of_lt {before' word' behind behind' : Text} (h : WordBehind before word) (h' : WordBehind before' word')
    (hlt : before.length < before'.length) (heq : before ++ (word ++ behind) = before' ++ (word' ++ behind')) :
    ∃ gap, before' = before ++ (word ++ gap) ∧ behind = gap ++ (word' ++ behind') := by
  rcases List.append_eq_append_iff.1 heq with ⟨p, rfl, hp⟩ | ⟨p, rfl, -⟩
  · rcases List.append_eq_append_iff.1 hp with ⟨gap, rfl, hbehind⟩ | ⟨q, rfl, -⟩
    · exact ⟨gap, rfl, hbehind⟩
    · -- It would go on with a character of the first word.
      cases hlast : p.getLast? with
      | none =>
        rw [List.getLast?_eq_none_iff.1 hlast, List.append_nil] at hlt
        exact absurd hlt (Nat.lt_irrefl _)
      | some e =>
        have hword := h.ofWord e (List.mem_append_left q (List.mem_of_getLast? hlast))
        rw [h'.begins e (mem_getLast?_append.2 (.inl hlast))] at hword
        cases hword
  · rw [List.length_append] at hlt
    omega

/-- It begins behind the character, too, that ends the first word. -/
theorem begins_behind {before' word' behind behind' : Text} {d : Char} (h : WordBehind before word)
    (h' : WordBehind before' word') (hd : isWord d = false) (hlt : before.length < before'.length)
    (heq : before ++ (word ++ d :: behind) = before' ++ (word' ++ behind')) :
    ∃ gap, before' = before ++ (word ++ d :: gap) ∧ behind = gap ++ (word' ++ behind') := by
  obtain ⟨gap, rfl, hgap⟩ := h.behind_of_lt h' hlt heq
  cases gap with
  | nil =>
    obtain ⟨c, word', rfl⟩ := List.exists_cons_of_ne_nil h'.nonempty
    obtain rfl : d = c := (List.cons.inj hgap).1
    rw [h'.ofWord d List.mem_cons_self] at hd
    cases hd
  | cons e gap =>
    obtain ⟨rfl, htail⟩ := List.cons.inj hgap
    exact ⟨gap, rfl, htail⟩

end WordBehind

/-- A word is on the line of the place at which it stands. -/
theorem exists_line_hasWord {before word behind : Text} (hword : WordBehind before word)
    (hbehind : Stops isWord behind) :
    ∃ line, (Text.lines (before ++ (word ++ behind)))[before.count '\n']? = some line ∧ HasWord word line := by
  obtain ⟨p, q, hline, hp, rest, rfl⟩ := Text.exists_line hword.newline before behind
  rw [List.append_assoc] at hline
  exact ⟨_, hline, p, q, List.append_assoc .., hword.of_suffix hp, hbehind.of_append⟩

end GameSource
