import GameSource.Expr.Lexeme
import GameSource.Proofs.Members
import GameSource.Proofs.Number.Literal
/-!
# The tokens of lexemes

A lexeme becomes a token, unless it is a name whose value has more digits than are written
(`Token.ofLexeme_eq_error_iff`); so an expression has its tokens if the values of its names have few digits
(`exists_tokens`).  A number among them is a number of the text or the value of a name (`Token.number_of_ofLexeme`).
-/
namespace GameSource

namespace Token

variable {l : Lexeme} {answer : Option Int} {t : Token} {e : DigitLimit} {v : Int}

theorem ofLexeme_number (hk : l.kind = .number) : ofLexeme l answer = .ok ⟨l.text, .number, none⟩ := by
  simp [ofLexeme, hk]

theorem ofLexeme_name (hk : l.kind = .identifier) (hv : FewDigits v) :
    ofLexeme l (some v) = .ok ⟨decimalText v, .number, none⟩ := by
  unfold ofLexeme
  simp only [hk, writeInteger_eq_ok_iff.2 ⟨hv, rfl⟩]
  rfl

/-- **Only a value with too many digits is in the way of a token.** -/
theorem ofLexeme_eq_error_iff : ofLexeme l answer = .error e ↔
    l.kind = .identifier ∧ e = .writing ∧ ∃ v, answer = some v ∧ ¬ FewDigits v := by
  unfold ofLexeme
  split
  · rename_i hk
    simp [hk]
  · simp
  · rename_i v hk
    cases hw : writeInteger v with
    | ok w => simp [Except.map, (writeInteger_eq_ok_iff.1 hw).1]
    | error e' =>
      obtain ⟨hlong, rfl⟩ := writeInteger_eq_error_iff.1 hw
      simp [Except.map, hk, hlong, eq_comm]
  · rename_i hk
    simp [hk]
  · rename_i hk
    simp [hk]

theorem exists_ofLexeme (h : l.kind = .identifier → ∀ v, answer = some v → FewDigits v) :
    ∃ t, ofLexeme l answer = .ok t := by
  cases hread : ofLexeme l answer with
  | ok t => exact ⟨t, rfl⟩
  | error e =>
    obtain ⟨hk, -, v, hv, hlong⟩ := ofLexeme_eq_error_iff.1 hread
    exact absurd (h hk v hv) hlong

theorem exists_ofLexeme_sign (hk : l.kind ≠ .identifier) (answer : Option Int) : ∃ t, ofLexeme l answer = .ok t :=
  exists_ofLexeme fun h => absurd h hk

/-- A number token is a number of the text, or the value of a name. -/
theorem number_of_ofLexeme (h : ofLexeme l answer = .ok t) (ht : t.kind = .number) :
    l.kind = .number ∧ t.text = l.text ∨ l.kind = .identifier ∧ ∃ v, answer = some v ∧ writeInteger v = .ok t.text := by
  unfold ofLexeme at h
  split at h
  · cases h
    exact .inl ⟨‹_›, rfl⟩
  · cases h
    cases ht
  · rename_i v hk
    cases hw : writeInteger v with
    | error e =>
      rw [hw] at h
      cases h
    | ok w =>
      rw [hw] at h
      cases h
      exact .inr ⟨hk, v, rfl, hw⟩
  · cases h
    cases ht
  · cases h
    cases ht

end Token

/-! ## Expressions -/

section
variable {values : Text → Option Int} {expression : Text}

theorem mem_tokens {ts : List Token} (h : (tokenize values expression).outcome = .ok ts) {t : Token} (ht : t ∈ ts) :
    ∃ l ∈ (lexemes expression).1, Token.ofLexeme l (l.answer values) = .ok t :=
  exists_of_mem_mapM h t ht

/-- **An expression has its tokens** if the values of its names have few digits. -/
theorem exists_tokens (h : ∀ l ∈ (lexemes expression).1, l.kind = .identifier → ∀ v, values l.text = some v → FewDigits v) :
    ∃ ts, (tokenize values expression).outcome = .ok ts :=
  exists_mapM_eq_ok fun l hl => Token.exists_ofLexeme fun hk v hv => h l hl hk v (by rwa [Lexeme.answer, if_pos hk] at hv)

end

end GameSource
