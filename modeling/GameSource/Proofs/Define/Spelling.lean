import GameSource.Proofs.Define.Enumeration
import GameSource.Proofs.Text.Whole
/-!
# How definitions are spelled

What is read as a `#define` directive (`defineDirective?_eq_some_iff`) and as the body of an enum
(`enumBody?_eq_some_iff`), said by the pieces that the text consists of.
-/
namespace GameSource

theorem isWord_of_isInlineSpace {c : Char} (h : isInlineSpace c) : isWord c = false :=
  isWord_of_isSpace (isInlineSpace_iff.1 h).2

theorem isInlineSpace_of_isWord {c : Char} (h : isWord c) : isInlineSpace c = false := by
  cases hc : isInlineSpace c with
  | false => rfl
  | true =>
    rw [isWord_of_isInlineSpace hc] at h
    cases h

/-- The text is not empty, and all of it is white space on one line. -/
def IsGap (t : Text) : Prop := t ≠ [] ∧ ∀ c ∈ t, isInlineSpace c

/-! ## Directives -/

/-- The text is a `#define` directive of a name, from its number sign to the end of its line.  Blanks part the name from
what is behind it, and that is its value once it is trimmed. -/
inductive Directive (name : Text) : (value text : Text) → Prop where
  | mk {gap blanks line : Text} (hgap : ∀ c ∈ gap, isInlineSpace c) (hblanks : IsGap blanks) (hn : IsName name)
      (hhead : ∀ c ∈ line.head?, isInlineSpace c) (hline : '\n' ∉ line) :
      Directive name (Text.trim line) ('#' :: (gap ++ ("define".toList ++ (blanks ++ (name ++ line)))))

theorem Directive.head? {name value directive : Text} (h : Directive name value directive) :
    directive.head? = some '#' := by
  obtain ⟨-, -, -, -, -⟩ := h
  rfl

theorem Directive.newline {name value text : Text} (h : Directive name value text) : '\n' ∉ text := by
  obtain ⟨hgap, hblanks, hn, -, hline⟩ := h
  have hspace {t : Text} (ht : ∀ c ∈ t, isInlineSpace c) : '\n' ∉ t := fun hmem =>
    (isInlineSpace_iff.1 (ht _ hmem)).1 rfl
  have hname : '\n' ∉ name := fun hmem => ne_of_isWord (hn.2 _ hmem) (by decide) rfl
  simp [hspace hgap, hspace hblanks.2, hname, hline]

/-- **What is read as a directive** is one up to the end of its line. -/
theorem defineDirective?_eq_some_iff {t name value rest : Text} :
    defineDirective? t = some ((name, value), rest) ↔
      ∃ text, t = text ++ rest ∧ Directive name value text ∧ ∀ c ∈ rest.head?, c = '\n' := by
  constructor
  · intro h
    unfold defineDirective? at h
    split at h
    · rename_i t
      obtain ⟨behind, hdefine, h⟩ := Option.bind_eq_some_iff.1 h
      obtain ⟨named, hblanks, h⟩ := Option.bind_eq_some_iff.1 h
      obtain ⟨blanks, hbehind, hne, hblank, -⟩ := Text.dropSome?_eq_some.1 hblanks
      have hrun (p : Char → Bool) (u : Text) : ∀ c ∈ u.takeWhile p, p c := List.all_eq_true.1 List.all_takeWhile
      obtain ⟨line, rest, hmore, hline, hrest⟩ := exists_firstLine (named.dropWhile isWord)
      have ht : t = t.takeWhile isInlineSpace ++
          ("define".toList ++ (blanks ++ (named.takeWhile isWord ++ (line ++ rest)))) := by
        rw [← hmore, List.takeWhile_append_dropWhile, ← hbehind, ← Text.after?_eq_some.1 hdefine,
          List.takeWhile_append_dropWhile]
      simp only [hmore, takeWhile_firstLine hline hrest, dropWhile_firstLine hline hrest] at h
      split at h
      · cases h
      · rename_i hname
        obtain ⟨hall, heq⟩ := Option.ite_none_right_eq_some.1 h
        cases heq
        refine ⟨_, ?_, .mk (hrun isInlineSpace t) ⟨hne, hblank⟩ ⟨by simpa using hname, hrun isWord named⟩ ?_ hline,
          hrest⟩
        · simpa using ht
        · intro c hc
          have hhead : c ∈ (line ++ rest).head? := by simp [List.head?_append, Option.mem_def.1 hc]
          have hor := (Option.all_eq_true _ _).1 hall c hhead
          have hne : c ≠ '\n' := fun heq => hline (heq ▸ List.mem_of_mem_head? hc)
          simpa [hne] using hor
    · cases h
  · rintro ⟨text, rfl, @⟨gap, blanks, line, hgap, hblanks, hn, hhead, hline⟩, hrest⟩
    have hbehind : ∀ c ∈ (line ++ rest).head?, c = '\n' ∨ isInlineSpace c := by
      cases line with
      | nil => exact fun c hc => .inl (hrest c hc)
      | cons d line => exact fun c hc => .inr (hhead c hc)
    have hword : Stops isWord (line ++ rest) := fun c hc => by
      rcases hbehind c hc with rfl | h
      · decide
      · exact isWord_of_isInlineSpace h
    have hall : ((line ++ rest).head?.all fun c => c == '\n' || isInlineSpace c) = true :=
      (Option.all_eq_true _ _).2 fun c hc => by simpa using hbehind c hc
    have hword' : Stops isInlineSpace "define".toList := .of_all fun c hc => by
      simpa using List.all_eq_true.1 (rfl : ("define".toList.all fun c => !isInlineSpace c) = true) c hc
    have hdefine : Text.after? "define".toList
        ((gap ++ ("define".toList ++ (blanks ++ (name ++ (line ++ rest))))).dropWhile isInlineSpace) =
          some (blanks ++ (name ++ (line ++ rest))) := by
      rw [dropWhile_run hgap (hword'.append_left (by decide) _)]
      exact Text.after?_eq_some.2 rfl
    have hstops : Stops isInlineSpace (name ++ (line ++ rest)) :=
      (Stops.of_all fun c hc => isInlineSpace_of_isWord (hn.2 c hc)).append_left hn.1 _
    have hgap : Text.dropSome? isInlineSpace (blanks ++ (name ++ (line ++ rest))) = some (name ++ (line ++ rest)) :=
      Text.dropSome?_eq_some.2 ⟨blanks, rfl, hblanks.1, hblanks.2, hstops⟩
    have hne : name.isEmpty = false := by simpa using hn.1
    simp only [List.cons_append, List.append_assoc, defineDirective?, hdefine, Option.bind_eq_bind, Option.bind_some,
      hgap, takeWhile_run hn.2 hword, dropWhile_run hn.2 hword, hne, hall, takeWhile_firstLine hline hrest,
      dropWhile_firstLine hline hrest, Bool.false_eq_true, if_false, if_true]

/-! ## Enums -/

/-- The text is the word `enum` and the first braces behind it, which are around `body`.  What stands between the word
and the braces has no semicolon. -/
inductive BracedEnum (between body : Text) : Text → Prop where
  | mk (hhead : Stops isWord between) (hbetween : ∀ c ∈ between, c ≠ '\x7b' ∧ c ≠ ';') (hbody : '\x7d' ∉ body) :
      BracedEnum between body ("enum".toList ++ (between ++ '\x7b' :: (body ++ ['\x7d'])))

theorem BracedEnum.head? {between body braced : Text} (h : BracedEnum between body braced) :
    braced.head? = some 'e' := by
  obtain ⟨-, -, -⟩ := h
  rfl

theorem BracedEnum.count {between body braced : Text} (h : BracedEnum between body braced) :
    braced.count '\n' = (between ++ body).count '\n' := by
  obtain ⟨-, -, -⟩ := h
  simp [List.count_append]

/-- **What is read as an enum** is the word, not as a part of another one, up to the closing brace. -/
theorem enumBody?_eq_some_iff {before : Option Char} {t body rest : Text} :
    enumBody? before t = some (body, rest) ↔
      before.any isWord = false ∧ ∃ between text, t = text ++ rest ∧ BracedEnum between body text := by
  constructor
  · intro hread
    obtain ⟨behind, henum, h⟩ := Option.bind_eq_some_iff.1 hread
    obtain rfl := Text.after?_eq_some.1 henum
    split at h
    · cases h
    · rename_i hwhole
      obtain ⟨hbefore, hbehind⟩ := Bool.or_eq_false_iff.1 (Bool.eq_false_iff.2 hwhole)
      split at h
      · rename_i inner hbrace
        obtain ⟨rfl, hbody⟩ := Text.until?_eq_some.1 h
        have hsplit : behind = behind.takeWhile (fun c => c != '\x7b' && c != ';') ++
            '\x7b' :: (body ++ '\x7d' :: rest) := by
          rw [← hbrace, List.takeWhile_append_dropWhile]
        have hstops : Stops isWord behind := any_isWord_eq_false.1 hbehind
        rw [hsplit] at hstops
        refine ⟨hbefore, _, _, ?_, .mk hstops.of_append (fun c hc => ?_) hbody⟩
        · simpa using hsplit
        · simpa using List.all_eq_true.1 List.all_takeWhile c hc
      · cases h
  · rintro ⟨hbefore, between, text, rfl, ⟨hhead, hbetween, hbody⟩⟩
    have henum : Text.after? "enum".toList ("enum".toList ++ (between ++ '\x7b' :: (body ++ '\x7d' :: rest))) =
        some (between ++ '\x7b' :: (body ++ '\x7d' :: rest)) := Text.after?_eq_some.2 rfl
    have hafter : (between ++ '\x7b' :: (body ++ '\x7d' :: rest)).head?.any isWord = false :=
      any_isWord_eq_false.2 (hhead.append_stops (.cons (by decide)))
    have hbrace : (between ++ '\x7b' :: (body ++ '\x7d' :: rest)).dropWhile (fun c => c != '\x7b' && c != ';') =
        '\x7b' :: (body ++ '\x7d' :: rest) :=
      dropWhile_run (fun c hc => by simpa using hbetween c hc) (.cons (by decide))
    simp only [List.append_assoc, List.cons_append, List.nil_append, enumBody?, henum, Option.bind_eq_bind,
      Option.bind_some, hbefore, hafter, Bool.or_self, Bool.false_eq_true, if_false, hbrace,
      Text.until?_eq_some.2 ⟨rfl, hbody⟩]

/-! ## Definitions -/

section
variable {before : Option Char} {t rest : Text}

theorem definition?_define_iff {name value : Text} :
    definition? before t = some (.define name value, rest) ↔ defineDirective? t = some ((name, value), rest) := by
  unfold definition?
  split
  · rename_i hdefine
    rw [hdefine]
    simp
  · rename_i hnone
    rw [hnone]
    simp

theorem definition?_enumeration_iff {body : Text} :
    definition? before t = some (.enumeration body, rest) ↔ enumBody? before t = some (body, rest) := by
  unfold definition?
  split
  · rename_i hdefine
    obtain ⟨_, rfl, ⟨-, -, -, -, -⟩, -⟩ := defineDirective?_eq_some_iff.1 hdefine
    constructor
    · intro h
      cases h
    · intro h
      obtain ⟨-, between, text, heq, ⟨-, -, -⟩⟩ := enumBody?_eq_some_iff.1 h
      cases heq
  · simp

end

end GameSource
