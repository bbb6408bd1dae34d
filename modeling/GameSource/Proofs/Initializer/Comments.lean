import GameSource.Proofs.Initializer.Relex
import GameSource.Proofs.Text.Joined
/-!
# What is taken for a comment

Comments are taken out of a text before lines are joined, and tokens are read after.  So a mark that a joined line or a
character constant hides from the one is a mark for the other.  Of texts without such marks (`CutAlike`) the same
comments are taken out that stand between the tokens: the rest is the text that is cut into pieces, with line feeds in
the place of its comments (`CutAlike.uncomments`).
-/
namespace GameSource

open Initializer (readQuoted joinsLines)

/-! ## Joined lines -/

theorem spliceLines_cons {c : Char} (hc : c ≠ '\\') (t : Text) : spliceLines (c :: t) = c :: spliceLines t := by
  rw [spliceLines]
  rintro cs rfl -
  exact hc rfl

theorem head?_spliceLines {c : Char} {t : Text} (hc : c ≠ '\\') (h : t.head? = some c) :
    (spliceLines t).head? = some c := by
  obtain ⟨rest, rfl⟩ := List.head?_eq_some_iff.1 h
  rw [spliceLines_cons hc]
  rfl

/-- Lines are joined before a character that is no line feed as if nothing stood there. -/
theorem spliceLines_append_cons {c : Char} (hc : c ≠ '\n') (t : Text) : ∀ s : Text,
    spliceLines (s ++ c :: t) = spliceLines s ++ spliceLines (c :: t) := by
  intro s
  fun_induction spliceLines s with
  | case1 s ih => exact ih
  | case2 d s hd ih =>
    rw [List.cons_append, List.cons_append, ← ih, spliceLines]
    intro cs hbackslash hfeed
    cases s with
    | nil => exact hc (List.cons.inj hfeed).1
    | cons e s =>
      obtain ⟨rfl, -⟩ := List.cons.inj hfeed
      exact hd s hbackslash rfl
  | case3 => rfl

theorem continuation?_eq_none_of_head {c : Char} {t : Text} (h : (t.dropWhile isInlineSpace).head? ≠ some '\n') :
    continuation? (c :: t) = none := by
  unfold continuation?
  split
  · rename_i heq
    obtain ⟨-, rfl⟩ := List.cons.inj heq
    split
    · rename_i hdrop
      rw [hdrop] at h
      exact absurd rfl h
    · rfl
  · rfl

/-! ## Quoted texts -/

/-- The text is a quoted one from behind its opening quote to its closing quote. -/
inductive QuotedTail (quote : Char) : Text → Prop where
  | close : QuotedTail quote [quote]
  | escape {c : Char} {s : Text} (h : QuotedTail quote s) : QuotedTail quote ('\\' :: c :: s)
  | char {c : Char} {s : Text} (hc : c ≠ quote ∧ c ≠ '\n' ∧ c ≠ '\\') (h : QuotedTail quote s) :
      QuotedTail quote (c :: s)

/-- A character that quotes: a double quote, or a single one. -/
def IsQuote (c : Char) : Prop := c = '"' ∨ c = '\''

instance : DecidablePred IsQuote := fun c => inferInstanceAs (Decidable (c = '"' ∨ c = '\''))

namespace QuotedTail

variable {quote : Char} {s : Text}

/-- What goes on behind it, a quoted text is read to its closing quote. -/
theorem readQuoted_append (hq : IsQuote quote) (h : QuotedTail quote s) (r : Text) :
    readQuoted quote (s ++ r) = (true, s.length) := by
  have hquote : quote ≠ '\\' := by rcases hq with rfl | rfl <;> decide
  induction h with
  | close => exact Initializer.readQuoted_quote quote r
  | @escape c s _ ih =>
    rw [List.cons_append, List.cons_append, Initializer.readQuoted_escape hquote, ih]
    rfl
  | char hc _ ih =>
    rw [List.cons_append, Initializer.readQuoted_other hc.1 hc.2.1 hc.2.2, ih]
    rfl

theorem joins (hq : IsQuote quote) (h : QuotedTail quote s) : joinsLines s := by
  have hquote : quote ≠ '\\' ∧ quote ≠ '\n' := by rcases hq with rfl | rfl <;> decide
  have hread := h.readQuoted_append hq []
  rw [List.append_nil] at hread
  have htake := (Initializer.readQuoted_take hquote.1 hquote.2 hread).2.2
  rwa [List.take_length] at htake

/-- Behind white space in a quoted text there is no line feed. -/
theorem head?_dropWhile (hq : IsQuote quote) (h : QuotedTail quote s) (t : Text) :
    ((s ++ t).dropWhile isInlineSpace).head? ≠ some '\n' := by
  induction h with
  | close => rcases hq with rfl | rfl <;> exact fun h => by cases h
  | escape => exact fun h => by cases h
  | @char c s hc _ ih =>
    rw [List.cons_append]
    by_cases hspace : isInlineSpace c
    · rw [List.dropWhile_cons_of_pos hspace]
      exact ih
    · rw [List.dropWhile_cons_of_neg hspace]
      exact fun heq => hc.2.1 (Option.some.inj heq)

/-- A character before a quoted text joins no lines with it. -/
theorem spliceLines_cons (hq : IsQuote quote) (h : QuotedTail quote s) (c : Char) :
    spliceLines (c :: s) = c :: spliceLines s := by
  rw [spliceLines]
  rintro cs - rfl
  cases h with
  | close => rcases hq with h | h <;> exact absurd h (by decide)
  | char hc => exact hc.2.1 rfl

theorem spliceLines_escape (hq : IsQuote quote) (h : QuotedTail quote s) {c : Char} (hc : c ≠ '\n') :
    spliceLines ('\\' :: c :: s) = '\\' :: c :: spliceLines s := by
  rw [spliceLines, h.spliceLines_cons hq]
  rintro cs - heq
  exact hc (List.cons.inj heq).1

/-- Joining lines leaves a quoted text. -/
theorem splice (hq : IsQuote quote) (h : QuotedTail quote s) : QuotedTail quote (spliceLines s) := by
  have hquote : quote ≠ '\\' := by rcases hq with rfl | rfl <;> decide
  induction h with
  | close =>
    rw [GameSource.spliceLines_cons hquote]
    exact .close
  | @escape c s h ih =>
    by_cases hc : c = '\n'
    · rw [hc, spliceLines]
      exact ih
    · rw [h.spliceLines_escape hq hc]
      exact .escape ih
  | char hc h ih =>
    rw [h.spliceLines_cons hq]
    exact .char hc ih

/-- **In a quoted text lines are joined where it is read, and nowhere else.** -/
theorem replace_continuation (hq : IsQuote quote) (h : QuotedTail quote s) (t : Text) :
    replace continuation? (s ++ t) = spliceLines s ++ replace continuation? t := by
  have hquote : quote ≠ '\\' := by rcases hq with rfl | rfl <;> decide
  induction h with
  | close =>
    rw [GameSource.spliceLines_cons hquote]
    exact replace_keep _ (Text.continuation?_eq_none hquote t)
  | @escape c s h ih =>
    have hbehind := h.head?_dropWhile hq t
    by_cases hc : c = '\n'
    · have hread : continuation? ('\\' :: ['\n'] ++ (s ++ t)) = some ([], s ++ t) := rfl
      have haccept := replace_accept _ hread
      rw [hc, spliceLines, ← ih]
      exact haccept
    · have hhere : ((c :: (s ++ t)).dropWhile isInlineSpace).head? ≠ some '\n' := by
        by_cases hspace : isInlineSpace c
        · rwa [List.dropWhile_cons_of_pos hspace]
        · rw [List.dropWhile_cons_of_neg hspace]
          exact fun heq => hc (Option.some.inj heq)
      rw [List.cons_append, List.cons_append, replace_keep _ (continuation?_eq_none_of_head hhere),
        replace_keep _ (continuation?_eq_none_of_head hbehind), ih, h.spliceLines_escape hq hc]
      rfl
  | char hc h ih =>
    rw [List.cons_append, replace_keep _ (Text.continuation?_eq_none hc.2.2 _), ih, h.spliceLines_cons hq]
    rfl

theorem eq_concat (h : QuotedTail quote s) : ∃ body, s = body ++ [quote] := by
  induction h with
  | close => exact ⟨[], rfl⟩
  | @escape c s _ ih =>
    obtain ⟨body, rfl⟩ := ih
    exact ⟨'\\' :: c :: body, rfl⟩
  | @char c s _ _ ih =>
    obtain ⟨body, rfl⟩ := ih
    exact ⟨c :: body, rfl⟩

theorem spliceLines_append (hq : IsQuote quote) (h : QuotedTail quote s) (t : Text) :
    spliceLines (s ++ t) = spliceLines s ++ spliceLines t := by
  have hquote : quote ≠ '\\' ∧ quote ≠ '\n' := by rcases hq with rfl | rfl <;> decide
  obtain ⟨body, rfl⟩ := h.eq_concat
  rw [List.append_assoc, List.singleton_append, spliceLines_append_cons hquote.2, spliceLines_append_cons hquote.2,
    GameSource.spliceLines_cons hquote.1, GameSource.spliceLines_cons hquote.1, List.append_assoc]
  rfl

theorem literalTail?_append {s : Text} (h : QuotedTail '"' s) (t : Text) : literalTail? (s ++ t) = some (s, t) := by
  induction h with
  | close => rfl
  | @escape c s _ ih =>
    rw [List.cons_append, List.cons_append, literalTail?, ih]
    rfl
  | @char c s hc _ ih =>
    rw [List.cons_append, literalTail?, ih]
    · rfl
    · exact hc.1
    · exact hc.2.1
    · exact fun heq _ => hc.2.2 heq
    · exact fun _ _ heq _ => hc.2.2 heq

end QuotedTail

/-! ## Comments -/

/-- At a character that begins neither a string literal nor a comment nothing is taken out. -/
theorem comment?_eq_none {c : Char} {t : Text} (hquote : c ≠ '"')
    (hmark : c = '/' → t.head? ≠ some '/' ∧ t.head? ≠ some '*') : comment? (c :: t) = none := by
  unfold comment?
  split
  · rename_i heq
    exact absurd (List.cons.inj heq).1 hquote
  · rename_i heq
    obtain ⟨rfl, rfl⟩ := List.cons.inj heq
    exact absurd rfl (hmark rfl).1
  · rename_i heq
    obtain ⟨rfl, rfl⟩ := List.cons.inj heq
    exact absurd rfl (hmark rfl).2
  · rfl

theorem comment?_eq_none_of_ne {c : Char} (hquote : c ≠ '"') (hslash : c ≠ '/') (t : Text) : comment? (c :: t) = none :=
  comment?_eq_none hquote fun h => absurd h hslash

/-- Nothing is taken out of a text without double quotes and comment marks. -/
theorem replace_comment_append {s : Text} (hquote : '"' ∉ s) (hline : ¬['/', '/'] <:+: s)
    (hblock : ¬['/', '*'] <:+: s) (hlast : s.getLast? ≠ some '/') (t : Text) :
    replace comment? (s ++ t) = s ++ replace comment? t := by
  induction s with
  | nil => rfl
  | cons c s ih =>
    have hnone : comment? (c :: (s ++ t)) = none := by
      refine comment?_eq_none (fun heq => hquote (heq ▸ List.mem_cons_self)) fun heq => ?_
      cases s with
      | nil => exact absurd (congrArg some heq) hlast
      | cons d s =>
        constructor
        · rintro ⟨⟩
          exact hline ⟨[], s, by simp [heq]⟩
        · rintro ⟨⟩
          exact hblock ⟨[], s, by simp [heq]⟩
    have hwithin {p : Text} (h : ¬p <:+: c :: s) : ¬p <:+: s := fun hp => h (hp.trans (List.suffix_cons c s).isInfix)
    have hlast' : s.getLast? ≠ some '/' := by
      cases s with
      | nil => exact fun h => by cases h
      | cons d s => simpa using hlast
    rw [List.cons_append, replace_keep _ hnone,
      ih (fun hmem => hquote (List.mem_cons_of_mem c hmem)) (hwithin hline) (hwithin hblock) hlast']
    rfl

/-- A block comment ends at its first mark that closes it, for the one reader and for the other. -/
theorem blockComment_append {body : Text} (h : ¬['*', '/'] <:+: body ++ ['*']) (t : Text) :
    blockComment? (body ++ '*' :: '/' :: t) = some (body.filter (· == '\n'), t) ∧
      Initializer.blockLength? (body ++ '*' :: '/' :: t) = some (body.length + 2) := by
  induction body with
  | nil => exact ⟨rfl, rfl⟩
  | cons c body ih =>
    have hopen : ∀ rest, c = '*' → body ++ '*' :: '/' :: t ≠ '/' :: rest := by
      rintro rest rfl heq
      cases body with
      | nil => cases heq
      | cons d body =>
        obtain ⟨rfl, -⟩ := List.cons.inj heq
        exact h ⟨[], body ++ ['*'], by simp⟩
    obtain ⟨hcomment, hlength⟩ := ih fun hwithin => h (hwithin.trans (List.suffix_cons c (body ++ ['*'])).isInfix)
    constructor
    · rw [List.cons_append, blockComment?, hcomment]
      · by_cases hc : c = '\n' <;> simp [hc]
      · exact hopen
    · rw [List.cons_append, Initializer.blockLength?, hlength]
      · rfl
      · exact hopen

/-- The second text is the first one, with line feeds in the place of each of its comments. -/
inductive Uncomments : Text → Text → Prop where
  | nil : Uncomments [] []
  | quoted {quote : Char} {body t u : Text} (hq : IsQuote quote) (hb : QuotedTail quote body) (h : Uncomments t u) :
      Uncomments (quote :: (body ++ t)) (quote :: (body ++ u))
  | lineComment {body t u : Text} (hb : '\n' ∉ body) (hend : ∀ c ∈ t.head?, c = '\n') (h : Uncomments t u) :
      Uncomments ('/' :: '/' :: (body ++ t)) u
  | blockComment {body feeds t u : Text} (hb : ¬['*', '/'] <:+: body ++ ['*']) (hf : ∀ c ∈ feeds, c = '\n')
      (h : Uncomments t u) : Uncomments ('/' :: '*' :: (body ++ '*' :: '/' :: t)) (feeds ++ u)
  | code {c : Char} {t u : Text} (hc : ¬IsQuote c) (hmark : c = '/' → ∀ d ∈ t.head?, d ≠ '/' ∧ d ≠ '*')
      (h : Uncomments t u) : Uncomments (c :: t) (c :: u)

namespace Uncomments

/-- A text that does not begin with a slash begins as before. -/
theorem head?_eq {t u : Text} (h : Uncomments t u) (hslash : t.head? ≠ some '/') : u.head? = t.head? := by
  cases h with
  | nil => rfl
  | quoted => rfl
  | lineComment => exact absurd rfl hslash
  | blockComment => exact absurd rfl hslash
  | code => rfl

/-- Code is kept as it stands. -/
theorem code_append {w r : Text} : ∀ {u : Text}, Uncomments (w ++ r) u →
    (∀ d ∈ w, ¬IsQuote d ∧ d ≠ '/') → ∃ u', u = w ++ u' ∧ Uncomments r u' := by
  induction w with
  | nil => exact fun h _ => ⟨_, rfl, h⟩
  | cons c w ih =>
    intro u h hw
    obtain ⟨hc, hslash⟩ := hw c List.mem_cons_self
    generalize hcut : c :: w ++ r = t at h
    cases h with
    | nil => cases hcut
    | quoted hq =>
      obtain ⟨rfl, -⟩ := List.cons.inj hcut
      exact absurd hq hc
    | lineComment =>
      obtain ⟨rfl, -⟩ := List.cons.inj hcut
      exact absurd rfl hslash
    | blockComment =>
      obtain ⟨rfl, -⟩ := List.cons.inj hcut
      exact absurd rfl hslash
    | code _ _ h =>
      obtain ⟨rfl, rfl⟩ := List.cons.inj hcut
      obtain ⟨u', rfl, hu'⟩ := ih h fun d hd => hw d (List.mem_cons_of_mem c hd)
      exact ⟨u', rfl, hu'⟩

/-- Nothing is left that was not there, but for line feeds. -/
theorem mem {t u : Text} {e : Char} (h : Uncomments t u) (he : e ∈ u) (hfeed : e ≠ '\n') : e ∈ t := by
  induction h with
  | nil => exact he
  | quoted _ _ _ ih =>
    simp only [List.mem_cons, List.mem_append] at he ⊢
    exact he.imp_right (Or.imp_right ih)
  | lineComment _ _ _ ih =>
    simp only [List.mem_cons, List.mem_append]
    exact .inr (.inr (.inr (ih he)))
  | blockComment _ hf _ ih =>
    simp only [List.mem_cons, List.mem_append]
    rcases List.mem_append.1 he with he | he
    · exact absurd (hf e he) hfeed
    · exact .inr (.inr (.inr (.inr (.inr (ih he)))))
  | code _ _ _ ih =>
    rcases List.mem_cons.1 he with rfl | he
    · exact List.mem_cons_self
    · exact List.mem_cons_of_mem _ (ih he)

end Uncomments

/-- **A source text that both read alike**: the literals and comments that are seen before lines are joined are those
that are there after.  A string literal is closed as it stands, a character constant has no double quote and no comment
mark, a line comment is not continued, and no comment mark comes about by joining lines. -/
inductive CutAlike : Text → Prop where
  | nil : CutAlike []
  | joined {t : Text} (h : CutAlike t) : CutAlike ('\\' :: '\n' :: t)
  | string {body t : Text} (hb : QuotedTail '"' body) (h : CutAlike t) : CutAlike ('"' :: (body ++ t))
  | charConstant {body t : Text} (hb : QuotedTail '\'' body) (hquote : '"' ∉ body) (hline : ¬['/', '/'] <:+: body)
      (hblock : ¬['/', '*'] <:+: body) (h : CutAlike t) : CutAlike ('\'' :: (body ++ t))
  | lineComment {body t : Text} (hb : '\n' ∉ body) (hend : ∀ c ∈ t.head?, c = '\n' ∧ body.getLast? ≠ some '\\')
      (h : CutAlike t) : CutAlike ('/' :: '/' :: (body ++ t))
  | blockComment {body t : Text} (hb : ¬['*', '/'] <:+: spliceLines body ++ ['*']) (h : CutAlike t) :
      CutAlike ('/' :: '*' :: (body ++ '*' :: '/' :: t))
  | code {c : Char} {t : Text} (hc : ¬IsQuote c ∧ c ≠ '\\')
      (hmark : c = '/' → ∀ d ∈ (spliceLines t).head?, d ≠ '/' ∧ d ≠ '*') (h : CutAlike t) : CutAlike (c :: t)

/-- A mark without backslashes and line feeds is still there when lines are joined. -/
theorem infix_spliceLines_mark {s : Text} (h : ['*', '/'] <:+: s) : ['*', '/'] <:+: spliceLines s := by
  obtain ⟨p, q, rfl⟩ := h
  refine ⟨spliceLines p, spliceLines q, ?_⟩
  have hsplice : spliceLines (p ++ '*' :: '/' :: q) = spliceLines p ++ '*' :: '/' :: spliceLines q := by
    rw [spliceLines_append_cons (by decide), spliceLines_cons (by decide), spliceLines_cons (by decide)]
  simpa using hsplice.symm

theorem replace_continuation_feeds {feeds : Text} (h : ∀ c ∈ feeds, c = '\n') (t : Text) :
    replace continuation? (feeds ++ t) = feeds ++ replace continuation? t ∧
      spliceLines (feeds ++ t) = feeds ++ spliceLines t := by
  induction feeds with
  | nil => exact ⟨rfl, rfl⟩
  | cons c feeds ih =>
    obtain ⟨hreplace, hsplice⟩ := ih fun d hd => h d (List.mem_cons_of_mem c hd)
    have hc : c ≠ '\\' := by
      rw [h c List.mem_cons_self]
      decide
    rw [List.cons_append, replace_keep _ (Text.continuation?_eq_none hc _), hreplace, spliceLines_cons hc, hsplice]
    exact ⟨rfl, rfl⟩

/-- A line that does not end with a backslash is not joined to the next one. -/
theorem spliceLines_line_append {line : Text} (hline : '\n' ∉ line) (hlast : line.getLast? ≠ some '\\') (t : Text) :
    spliceLines (line ++ t) = line ++ spliceLines t := by
  induction line with
  | nil => rfl
  | cons c line ih =>
    have hnext : spliceLines (c :: (line ++ t)) = c :: spliceLines (line ++ t) := by
      rw [spliceLines]
      rintro cs rfl heq
      cases line with
      | nil => exact hlast rfl
      | cons d line =>
        obtain ⟨rfl, -⟩ := List.cons.inj heq
        simp at hline
    have hlast' : line.getLast? ≠ some '\\' := by
      cases line with
      | nil => exact fun h => by cases h
      | cons d line => simpa using hlast
    rw [List.cons_append, hnext, ih (fun hmem => hline (List.mem_cons_of_mem c hmem)) hlast']
    rfl

/-! ## What is taken out -/

theorem eraseComments_joined (t : Text) : eraseComments ('\\' :: '\n' :: t) = eraseComments t := by
  have hread : continuation? ('\\' :: ['\n'] ++ replace comment? t) = some ([], replace comment? t) := rfl
  rw [eraseComments, replace_keep _ (comment?_eq_none_of_ne (by decide) (by decide) _),
    replace_keep _ (comment?_eq_none_of_ne (by decide) (by decide) _)]
  exact replace_accept _ hread

theorem eraseComments_code {c : Char} {t : Text} (hquote : c ≠ '"') (hbackslash : c ≠ '\\')
    (hmark : c = '/' → t.head? ≠ some '/' ∧ t.head? ≠ some '*') : eraseComments (c :: t) = c :: eraseComments t := by
  rw [eraseComments, replace_keep _ (comment?_eq_none hquote hmark),
    replace_keep _ (Text.continuation?_eq_none hbackslash _)]
  rfl

theorem eraseComments_lineComment {body t : Text} (hb : '\n' ∉ body) (hend : ∀ c ∈ t.head?, c = '\n') :
    eraseComments ('/' :: '/' :: (body ++ t)) = eraseComments t := by
  have hstop : (body ++ t).dropWhile (· != '\n') = t :=
    dropWhile_run (fun c hc => by simpa using fun heq : c = '\n' => hb (heq ▸ hc)) fun c hc => by simp [hend c hc]
  have hread : comment? ('/' :: '/' :: body ++ t) = some ([], t) := by
    rw [List.cons_append, List.cons_append, comment?, hstop]
  exact congrArg (replace continuation?) (replace_accept _ hread)

theorem eraseComments_blockComment {body : Text} (hb : ¬['*', '/'] <:+: body ++ ['*']) (t : Text) :
    eraseComments ('/' :: '*' :: (body ++ '*' :: '/' :: t)) = body.filter (· == '\n') ++ eraseComments t := by
  have hread : comment? ('/' :: ('*' :: (body ++ ['*', '/'])) ++ t) = some (body.filter (· == '\n'), t) := by
    rw [List.cons_append, List.cons_append, comment?, List.append_assoc]
    exact (blockComment_append hb t).1
  have hfeeds : ∀ c ∈ body.filter (· == '\n'), c = '\n' := fun c hc => by simpa using (List.mem_filter.1 hc).2
  have haccept := replace_accept _ hread
  rw [List.cons_append, List.cons_append, List.append_assoc] at haccept
  rw [eraseComments, eraseComments, ← (replace_continuation_feeds hfeeds (replace comment? t)).1]
  exact congrArg (replace continuation?) haccept

/-- A string literal is kept, with what looks like a comment in it. -/
theorem replace_comment_string {body : Text} (hb : QuotedTail '"' body) (t : Text) :
    replace comment? ('"' :: (body ++ t)) = '"' :: (body ++ replace comment? t) := by
  have hread : comment? ('"' :: body ++ t) = some ('"' :: body, t) := by
    rw [List.cons_append, comment?, hb.literalTail?_append]
    rfl
  exact replace_accept _ hread

/-- A quoted text from which nothing is taken out is only joined. -/
theorem eraseComments_quoted {quote : Char} {body t : Text} (hq : IsQuote quote) (hb : QuotedTail quote body)
    (hkeep : replace comment? (quote :: (body ++ t)) = quote :: (body ++ replace comment? t)) :
    eraseComments (quote :: (body ++ t)) = quote :: (spliceLines body ++ eraseComments t) := by
  have hquote : quote ≠ '\\' := by rcases hq with rfl | rfl <;> decide
  rw [eraseComments, hkeep, replace_keep _ (Text.continuation?_eq_none hquote _), hb.replace_continuation hq]
  rfl

namespace CutAlike

/-- A quoted text from which nothing is taken out is joined as it is read. -/
theorem uncomments_quoted {quote : Char} {body t : Text} (hq : IsQuote quote) (hb : QuotedTail quote body)
    (hkeep : replace comment? (quote :: (body ++ t)) = quote :: (body ++ replace comment? t))
    (h : Uncomments (spliceLines t) (eraseComments t) ∧ spliceLines (eraseComments t) = eraseComments t) :
    Uncomments (spliceLines (quote :: (body ++ t))) (eraseComments (quote :: (body ++ t))) ∧
      spliceLines (eraseComments (quote :: (body ++ t))) = eraseComments (quote :: (body ++ t)) := by
  have hquote : quote ≠ '\\' := by rcases hq with rfl | rfl <;> decide
  have hsplice := hb.splice hq
  have hjoined : spliceLines (spliceLines body) = spliceLines body :=
    Initializer.spliceLines_of_not_mem (Initializer.not_mem_spliceLines (hb.joins hq))
  rw [eraseComments_quoted hq hb hkeep, spliceLines_cons hquote, spliceLines_cons hquote, hb.spliceLines_append hq, hsplice.spliceLines_append hq,
    hjoined, h.2]
  exact ⟨.quoted hq hsplice h.1, rfl⟩

/-- **Where both read alike, the comments that are taken out are those that are read**, and no more lines are joined
when the rest is read. -/
theorem uncomments_and_joined {t : Text} (h : CutAlike t) :
    Uncomments (spliceLines t) (eraseComments t) ∧ spliceLines (eraseComments t) = eraseComments t := by
  induction h with
  | nil => exact ⟨.nil, rfl⟩
  | @joined t _ ih =>
    rw [eraseComments_joined, spliceLines]
    exact ih
  | @string body t hb _ ih => exact uncomments_quoted (.inl rfl) hb (replace_comment_string hb t) ih
  | @charConstant body t hb hquote hline hblock _ ih =>
    have hlast : body.getLast? ≠ some '/' := by
      obtain ⟨body', rfl⟩ := hb.eq_concat
      simp
    have hkeep : replace comment? ('\'' :: (body ++ t)) = '\'' :: (body ++ replace comment? t) := by
      rw [replace_keep _ (comment?_eq_none_of_ne (by decide) (by decide) _),
        replace_comment_append hquote hline hblock hlast]
    exact uncomments_quoted (.inr rfl) hb hkeep ih
  | @lineComment body t hb hend _ ih =>
    have hsplice : spliceLines (body ++ t) = body ++ spliceLines t := by
      cases t with
      | nil =>
        rw [List.append_nil, Initializer.spliceLines_of_not_mem hb]
        exact (List.append_nil body).symm
      | cons c t => exact spliceLines_line_append hb (hend c rfl).2 _
    have hend' : ∀ c ∈ (spliceLines t).head?, c = '\n' := by
      cases t with
      | nil => exact fun _ h => by cases h
      | cons c t =>
        obtain rfl := (hend c rfl).1
        rw [head?_spliceLines (by decide) rfl]
        rintro d ⟨⟩
        rfl
    rw [eraseComments_lineComment hb fun c hc => (hend c hc).1, spliceLines_cons (by decide),
      spliceLines_cons (by decide), hsplice]
    exact ⟨.lineComment hb hend' ih.1, ih.2⟩
  | @blockComment body t hb _ ih =>
    have hraw : ¬['*', '/'] <:+: body ++ ['*'] := fun hwithin => hb <| by
      have hmark := infix_spliceLines_mark hwithin
      rwa [spliceLines_append_cons (by decide), spliceLines_cons (by decide)] at hmark
    have hfeeds : ∀ c ∈ body.filter (· == '\n'), c = '\n' := fun c hc => by simpa using (List.mem_filter.1 hc).2
    rw [eraseComments_blockComment hraw, (replace_continuation_feeds hfeeds _).2, ih.2, spliceLines_cons (by decide),
      spliceLines_cons (by decide), spliceLines_append_cons (by decide), spliceLines_cons (by decide),
      spliceLines_cons (by decide)]
    exact ⟨.blockComment hb hfeeds ih.1, rfl⟩
  | @code c t hc hmark _ ih =>
    have hmark' : c = '/' → t.head? ≠ some '/' ∧ t.head? ≠ some '*' := fun heq =>
      ⟨fun h => (hmark heq '/' (head?_spliceLines (by decide) h)).1 rfl,
        fun h => (hmark heq '*' (head?_spliceLines (by decide) h)).2 rfl⟩
    rw [eraseComments_code (fun heq => hc.1 (.inl heq)) hc.2 hmark', spliceLines_cons hc.2, spliceLines_cons hc.2, ih.2]
    exact ⟨.code hc.1 hmark ih.1, rfl⟩

/-- **The stripped text is what is read, with line feeds in the place of its comments.** -/
theorem uncomments {source : Text} (h : CutAlike source) (hreturn : '\r' ∉ source) :
    canonicalSource (eraseComments source) = eraseComments source ∧
      Uncomments (canonicalSource source) (eraseComments source) := by
  obtain ⟨huncomments, hjoined⟩ := h.uncomments_and_joined
  have hreturn' : '\r' ∉ eraseComments source := fun hmem =>
    hreturn (Initializer.mem_of_mem_spliceLines (huncomments.mem hmem (by decide)))
  rw [canonicalSource, canonicalSource, unifyLineEnds_of_not_mem hreturn, unifyLineEnds_of_not_mem hreturn']
  exact ⟨hjoined, huncomments⟩

end CutAlike

end GameSource
