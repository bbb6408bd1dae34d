import GameSource.Text.Comments
import GameSource.Proofs.Text.Runs
import Mathlib.Data.List.Chain
/-!
# Texts with nothing to take out

A text in which there is no double quote, no backslash and no beginning of a comment is looked at as it is
(`Bare.bareText_eq`).  Such texts are put together at characters that begin nothing (`Bare.quiet_append`,
`Bare.append`).
-/
namespace GameSource

/-! ## Lines -/

namespace Text

/-- Splitting makes no new characters. -/
theorem mem_of_mem_splitWhere {sep : Char → Bool} {c : Char} : ∀ {t piece : Text}, piece ∈ splitWhere sep t →
    c ∈ piece → c ∈ t
  | [], piece, hp, hc => by
    rw [List.mem_singleton.1 hp] at hc
    cases hc
  | d :: ds, piece, hp, hc => by
    unfold splitWhere at hp
    split at hp
    · rcases List.mem_cons.1 hp with rfl | hp
      · cases hc
      · exact List.mem_cons_of_mem d (mem_of_mem_splitWhere hp hc)
    · split at hp
      · rename_i hs
        exact absurd hs (splitWhere_ne_nil sep ds)
      · rename_i first pieces hs
        rcases List.mem_cons.1 hp with rfl | hp
        · rcases List.mem_cons.1 hc with rfl | hc
          · exact List.mem_cons_self
          · exact List.mem_cons_of_mem d (mem_of_mem_splitWhere (hs ▸ List.mem_cons_self) hc)
        · exact List.mem_cons_of_mem d (mem_of_mem_splitWhere (hs ▸ List.mem_cons_of_mem first hp) hc)

/-- What changes no line of a text does not change the text. -/
theorem unlines_map_lines {f : Text → Text} {t : Text} (h : ∀ line : Text, (∀ c ∈ line, c ∈ t) → f line = line) :
    unlines ((lines t).map f) = t := by
  have hmap : (lines t).map f = (lines t).map id :=
    List.map_congr_left fun line hline => h line fun c hc => mem_of_mem_splitWhere hline hc
  rw [hmap, List.map_id, unlines_lines]

end Text

/-! ## Bare texts -/

/-- The text has no double quote, no backslash, and no slash before a slash or a star. -/
structure Bare (t : Text) : Prop where
  quote : '"' ∉ t
  backslash : '\\' ∉ t
  comment : t.IsChain fun c d => c = '/' → d ≠ '/' ∧ d ≠ '*'

/-- A character that has no part in comments, string literals and continued lines. -/
def isQuiet (c : Char) : Bool := c != '"' && c != '\\' && c != '/' && c != '*'

theorem isQuiet_iff {c : Char} : isQuiet c ↔ c ≠ '"' ∧ c ≠ '\\' ∧ c ≠ '/' ∧ c ≠ '*' := by
  simp [isQuiet, and_assoc]

theorem isQuiet_of_isWord {c : Char} (h : isWord c) : isQuiet c := by
  refine isQuiet_iff.2 ⟨?_, ?_, ?_, ?_⟩ <;> rintro rfl <;> revert h <;> decide

theorem isQuiet_of_isSpace {c : Char} (h : isSpace c) : isQuiet c := by
  refine isQuiet_iff.2 ⟨?_, ?_, ?_, ?_⟩ <;> rintro rfl <;> revert h <;> decide

/-- Behind a bare text quiet characters may stand. -/
theorem head?_quiet {s : Text} {d : Char} (rest : Text) (hs : ∀ c ∈ s, isQuiet c) (hd : isQuiet d) :
    ∀ c ∈ (s ++ d :: rest).head?, c ≠ '/' ∧ c ≠ '*' := by
  intro c hc
  have hquiet : isQuiet c := by
    cases s with
    | nil =>
      obtain rfl : d = c := by simpa using hc
      exact hd
    | cons e s =>
      obtain rfl : e = c := by simpa using hc
      exact hs e (by simp)
  exact ⟨(isQuiet_iff.1 hquiet).2.2.1, (isQuiet_iff.1 hquiet).2.2.2⟩

namespace Bare

variable {s t : Text} {c : Char}

theorem nil : Bare [] := ⟨by simp, by simp, .nil⟩

theorem tail (h : Bare (c :: t)) : Bare t :=
  ⟨fun hq => h.quote (List.mem_cons_of_mem c hq), fun hb => h.backslash (List.mem_cons_of_mem c hb), h.comment.tail⟩

/-- Bare texts are put together unless they make the beginning of a comment. -/
theorem append (hs : Bare s) (ht : Bare t) (h : ∀ d ∈ t.head?, d ≠ '/' ∧ d ≠ '*') : Bare (s ++ t) where
  quote hq := (List.mem_append.1 hq).elim hs.quote ht.quote
  backslash hb := (List.mem_append.1 hb).elim hs.backslash ht.backslash
  comment := List.isChain_append.2 ⟨hs.comment, ht.comment, fun _ _ d hd _ => h d hd⟩

theorem quiet_cons (hc : isQuiet c) (ht : Bare t) : Bare (c :: t) where
  quote hq := (List.mem_cons.1 hq).elim (fun h => (isQuiet_iff.1 hc).1 h.symm) ht.quote
  backslash hb := (List.mem_cons.1 hb).elim (fun h => (isQuiet_iff.1 hc).2.1 h.symm) ht.backslash
  comment := List.isChain_cons.2 ⟨fun _ _ hslash => absurd hslash (isQuiet_iff.1 hc).2.2.1, ht.comment⟩

/-- Quiet characters may stand before any bare text. -/
theorem quiet_append (ht : Bare t) : ∀ {s : Text}, (∀ c ∈ s, isQuiet c) → Bare (s ++ t)
  | [], _ => ht
  | c :: s, hs => quiet_cons (hs c (by simp)) (quiet_append ht fun d hd => hs d (List.mem_cons_of_mem c hd))

theorem blanks_append (ht : Bare t) (hs : ∀ c ∈ s, isSpace c) : Bare (s ++ t) :=
  ht.quiet_append fun c hc => isQuiet_of_isSpace (hs c hc)

theorem word_append (ht : Bare t) (hs : ∀ c ∈ s, isWord c) : Bare (s ++ t) :=
  ht.quiet_append fun c hc => isQuiet_of_isWord (hs c hc)

theorem comment?_eq_none (h : Bare (c :: t)) : comment? (c :: t) = none := by
  have hquote : c ≠ '"' := fun hc => h.quote (hc ▸ List.mem_cons_self)
  have hmark := fun d => List.isChain_cons.1 h.comment |>.1 d
  unfold comment?
  split
  · rename_i heq
    cases heq
    exact absurd rfl hquote
  · rename_i heq
    cases heq
    exact absurd rfl (hmark _ rfl rfl).1
  · rename_i heq
    cases heq
    exact absurd rfl (hmark _ rfl rfl).2
  · rfl

theorem continuation?_eq_none (h : Bare (c :: t)) : continuation? (c :: t) = none := by
  have hbackslash : c ≠ '\\' := fun hc => h.backslash (hc ▸ List.mem_cons_self)
  unfold continuation?
  split
  · rename_i heq
    cases heq
    exact absurd rfl hbackslash
  · rfl

theorem replace_eq {r : Text → Option (Text × Text)} (hr : ∀ c t, Bare (c :: t) → r (c :: t) = none) :
    ∀ {t : Text}, Bare t → replace r t = t
  | [], _ => rfl
  | c :: t, h => by rw [replace_keep r (hr c t h), replace_eq hr h.tail]

/-- **Nothing is taken out of a bare text.** -/
theorem bareText_eq (h : Bare t) : bareText t = t := by
  have hcomments : eraseComments t = t := by
    rw [eraseComments, replace_eq (fun _ _ h => h.comment?_eq_none) h,
      replace_eq (fun _ _ h => h.continuation?_eq_none) h]
  rw [bareText, hcomments]
  refine Text.unlines_map_lines fun line hline => ?_
  have hcount : line.count '"' = 0 := List.count_eq_zero.2 fun hq => h.quote (hline _ hq)
  rw [eraseQuoted, hcount]
  rfl

end Bare

end GameSource
