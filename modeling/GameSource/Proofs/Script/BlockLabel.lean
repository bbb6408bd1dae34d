import GameSource.Proofs.Script.RawLabel
/-!
# The line of a label in a script with blocks

A label is found behind the word `script` or in a raw script between backquotes.  Both are looked for in the script as
cleaned line by line (`lines_cleanBlocks`), and a raw script is cleaned a second time, which takes no more string
literals out of it (`exists_line_of_mem_definingLines`).  So the line that is answered has the label as a word of its
own, outside of comments and string literals (`blockLine_located`).

What the recognizer reads are the definitions that are written in the script (`readAt_blockLabel`).
-/
namespace GameSource.Script

theorem HasLabel.hasWord {label t : Text} (h : HasLabel label t) : HasWord label t := by
  obtain ⟨before, behind, rfl, hword⟩ := h
  exact ⟨before, ':' :: behind, rfl, hword, .cons (by decide)⟩

/-! ## Lines of a cleaned script -/

/-- A line of a script with blocks without its string literals and its comments. -/
def bareBlockLine (line : Text) : Text := Text.upTo ['#'] (Text.upTo ['/', '/'] (eraseQuoted line))

theorem lines_cleanBlocks (t : Text) : Text.lines (cleanBlocks t) = (Text.lines t).map bareBlockLine := by
  rw [cleanBlocks, eraseLineCommentsAll, List.foldl_cons, List.foldl_cons, List.foldl_nil,
    Text.lines_eraseLineComments (by decide) (by decide), Text.lines_eraseLineComments (by decide) (by decide),
    Text.lines_eraseStringLiterals, List.map_map, List.map_map]
  rfl

/-- No string literal is left in a cleaned script. -/
theorem count_le_of_mem_lines {t line : Text} (h : line ∈ Text.lines (cleanBlocks t)) : line.count '"' ≤ 1 := by
  rw [lines_cleanBlocks] at h
  obtain ⟨whole, -, rfl⟩ := List.mem_map.1 h
  have hbegins : bareBlockLine whole <+: eraseQuoted whole := (Text.prefix_upTo _ _).trans (Text.prefix_upTo _ _)
  exact Nat.le_trans (hbegins.sublist.count_le _) (Text.count_eraseQuoted_le whole)

/-! ## Labels of blocks -/

theorem isWord_of_mem_scope {word : Text} (h : word ∈ allScopes) : ∀ c ∈ word, isWord c := by
  have hall : (allScopes.all (·.all isWord)) = true := rfl
  exact List.all_eq_true.1 (List.all_eq_true.1 hall word h)

/-- A scope is read with its parentheses. -/
theorem scope?_eq_some {words : List Text} (hwords : words ⊆ allScopes) {t behind : Text} :
    scope? words t = some behind ↔ ∃ word ∈ words, t = '(' :: (word ++ ')' :: behind) := by
  have hread {behind : Text} (h : scope? words t = some behind) : ∃ word ∈ words, t = '(' :: (word ++ ')' :: behind) := by
    obtain ⟨word, hmem, hword⟩ := List.exists_of_findSome?_eq_some h
    exact ⟨word, hmem, by simpa using Text.after?_eq_some.1 hword⟩
  refine ⟨hread, ?_⟩
  rintro ⟨word, hmem, heq⟩
  have hsome : scope? words t ≠ none := fun hnone => by
    have hword := List.findSome?_eq_none_iff.1 hnone word hmem
    rw [Text.after?_eq_some.2 (by simpa using heq)] at hword
    cases hword
  obtain ⟨behind', hbehind'⟩ := Option.ne_none_iff_exists'.1 hsome
  obtain ⟨word', hmem', heq'⟩ := hread hbehind'
  -- The first closing parenthesis ends the scope.
  have hcut {word behind : Text} (hmem : word ∈ words) (heq : t = '(' :: (word ++ ')' :: behind)) :
      (t.drop 1).dropWhile isWord = ')' :: behind := by
    rw [heq]
    exact dropWhile_run (isWord_of_mem_scope (hwords hmem)) (.cons (by decide))
  have hsame := (hcut hmem' heq').symm.trans (hcut hmem heq)
  rw [hbehind', (List.cons.inj hsame).2]

/-- What stands between the word `script` and a label: a scope in parentheses or none, then blanks. -/
structure IsGap (scopes : List Text) (gap : Text) : Prop where
  nonempty : gap ≠ []
  exists_scope : ∃ scope blanks, gap = scope ++ blanks ∧
    (scope = [] ∨ ∃ word ∈ scopes, scope = '(' :: (word ++ [')'])) ∧ ∀ c ∈ blanks, isSpace c

namespace IsGap

variable {scopes : List Text} {gap : Text}

theorem mono {scopes' : List Text} (h : IsGap scopes gap) (hsub : scopes ⊆ scopes') : IsGap scopes' gap := by
  obtain ⟨hne, scope, blanks, heq, hscope, hblanks⟩ := h
  refine ⟨hne, scope, blanks, heq, hscope.imp_right ?_, hblanks⟩
  rintro ⟨word, hmem, hword⟩
  exact ⟨word, hsub hmem, hword⟩

theorem head (h : IsGap scopes gap) : Stops isWord gap := by
  obtain ⟨hne, scope, blanks, rfl, rfl | ⟨word, -, rfl⟩, hblanks⟩ := h
  · exact .of_all fun c hc => isWord_of_isSpace (hblanks c hc)
  · exact .cons (by decide)

theorem last (h : IsGap scopes gap) : ∀ c ∈ gap.getLast?, isWord c = false := by
  obtain ⟨hne, scope, blanks, rfl, hscope, hblanks⟩ := h
  intro c hc
  rcases mem_getLast?_append.1 hc with hc | ⟨rfl, hc⟩
  · exact isWord_of_isSpace (hblanks c (List.mem_of_getLast? hc))
  · rcases hscope with rfl | ⟨word, -, rfl⟩
    · cases hc
    · rw [List.append_nil, ← List.cons_append, List.getLast?_concat] at hc
      cases hc
      decide

end IsGap

theorem stops_isSpace_word {word : Text} (hword : WordBehind [] word) (rest : Text) : Stops isSpace (word ++ rest) := by
  refine .append_left hword.nonempty (.of_all fun c hc => ?_) rest
  cases hspace : isSpace c with
  | false => rfl
  | true => exact absurd (hword.ofWord c hc) (by simp [isWord_of_isSpace hspace])

/-- Behind the word `script` the gap is passed over. -/
theorem dropWhile_scope? {scopes : List Text} (hscopes : scopes ⊆ allScopes) {gap t : Text} (hgap : IsGap scopes gap)
    (ht : Stops isSpace t) : ((scope? scopes (gap ++ t)).getD (gap ++ t)).dropWhile isSpace = t := by
  obtain ⟨hne, scope, blanks, rfl, hscope, hblanks⟩ := hgap
  rcases hscope with rfl | ⟨word, hmem, rfl⟩
  · have hnone : scope? scopes ([] ++ blanks ++ t) = none := by
      rw [Option.eq_none_iff_forall_ne_some]
      intro behind hbehind
      obtain ⟨word, -, hword⟩ := (scope?_eq_some hscopes).1 hbehind
      cases blanks with
      | nil => exact hne rfl
      | cons b blanks =>
        obtain rfl : b = '(' := (List.cons.inj hword).1
        exact absurd (hblanks '(' List.mem_cons_self) (by decide)
    rw [hnone, Option.getD_none, List.nil_append, dropWhile_run hblanks ht]
  · have hsome : scope? scopes ('(' :: (word ++ [')']) ++ blanks ++ t) = some (blanks ++ t) :=
      (scope?_eq_some hscopes).2 ⟨word, hmem, by simp⟩
    rw [hsome, Option.getD_some, dropWhile_run hblanks ht]

/-- **The label of a block** is a whole word behind the word `script`, and there is a gap between them. -/
theorem blockLabel?_eq_some {scopes : List Text} (hscopes : scopes ⊆ allScopes) {before : Option Char}
    {t label rest : Text} {inner : Nat} : blockLabel? scopes before t = some ((inner, label), rest) ↔
      (∀ c ∈ before, isWord c = false) ∧ ∃ gap, IsGap scopes gap ∧
        t = "script".toList ++ (gap ++ (label ++ rest)) ∧ inner = ("script".toList ++ gap).length ∧
        WordBehind [] label ∧ Stops isWord rest := by
  constructor
  · intro h
    simp only [blockLabel?, Option.bind_eq_bind, Option.bind_eq_some_iff] at h
    obtain ⟨opened, hopened, h⟩ := h
    obtain rfl := Text.after?_eq_some.1 hopened
    split at h
    · cases h
    rename_i hbefore
    split at h
    · cases h
    rename_i hskip
    simp only [Bool.or_eq_true, List.isEmpty_iff, Bool.and_eq_true, Option.isNone_iff_eq_none, beq_iff_eq, not_or,
      not_and] at hskip
    obtain ⟨hne, hblank⟩ := hskip
    obtain ⟨gap, hgap, hsplit⟩ : ∃ gap, IsGap scopes gap ∧
        opened = gap ++ ((scope? scopes opened).getD opened).dropWhile isSpace := by
      cases hscope : scope? scopes opened with
      | none =>
        have hsplit := (List.takeWhile_append_dropWhile (p := isSpace) (l := opened)).symm
        refine ⟨opened.takeWhile isSpace, ⟨fun hnil => hblank hscope ?_, [], _, rfl, .inl rfl,
          List.all_eq_true.1 List.all_takeWhile⟩, hsplit⟩
        have hlength := congrArg List.length hsplit
        rw [hscope, Option.getD_none, hlength, hnil, List.nil_append]
      | some behind =>
        obtain ⟨word, hmem, rfl⟩ := (scope?_eq_some hscopes).1 hscope
        refine ⟨'(' :: (word ++ [')']) ++ behind.takeWhile isSpace, ⟨List.cons_ne_nil _ _, _, _, rfl,
          .inr ⟨word, hmem, rfl⟩, List.all_eq_true.1 List.all_takeWhile⟩, ?_⟩
        simp [List.takeWhile_append_dropWhile]
    cases h
    refine ⟨any_isWord_eq_false.1 (by simpa using hbefore), gap, hgap, ?_, ?_,
      ⟨hne, List.all_eq_true.1 List.all_takeWhile, by simp⟩, stops_dropWhile isWord _⟩
    · rw [List.takeWhile_append_dropWhile, ← hsplit]
    · have hlength := congrArg List.length hsplit
      simp only [List.length_append] at hlength ⊢
      omega
  · rintro ⟨hbefore, gap, hgap, rfl, rfl, hword, hrest⟩
    have hafter : Text.after? "script".toList ("script".toList ++ (gap ++ (label ++ rest))) =
        some (gap ++ (label ++ rest)) := Text.after?_eq_some.2 rfl
    have hnamed := dropWhile_scope? hscopes hgap (stops_isSpace_word hword rest)
    have hlonger : ((label ++ rest).length == (gap ++ (label ++ rest)).length) = false := by
      have hpos := List.length_pos_iff.2 hgap.nonempty
      have hsum : (gap ++ (label ++ rest)).length = gap.length + (label ++ rest).length := List.length_append
      rw [beq_eq_false_iff_ne]
      omega
    have hempty : label.isEmpty = false := by simpa using hword.nonempty
    have hinner : ("script".toList ++ (gap ++ (label ++ rest))).length - (label ++ rest).length =
        ("script".toList ++ gap).length := by
      rw [← List.append_assoc, List.length_append, Nat.add_sub_cancel]
    simp only [blockLabel?, Option.bind_eq_bind, hafter, Option.bind_some, any_isWord_eq_false.2 hbefore, hnamed,
      takeWhile_run hword.ofWord hrest, dropWhile_run hword.ofWord hrest, hempty, hlonger, hinner, Bool.and_false,
      Bool.or_false, Bool.false_eq_true, if_false]

/-- **A raw script** stands behind a backquote. -/
theorem rawBlock?_eq_some {before : Option Char} {t script rest : Text} {inner : Nat}
    (h : rawBlock? before t = some ((inner, script), rest)) :
    ∃ lead, t = lead ++ ['\x60'] ++ (script ++ rest) ∧ (lead ++ ['\x60']).length = inner := by
  simp only [rawBlock?, Option.bind_eq_bind, Option.bind_eq_some_iff] at h
  obtain ⟨opened, hopened, h⟩ := h
  obtain rfl := Text.after?_eq_some.1 hopened
  split at h
  · cases h
  simp only [Option.bind_eq_some_iff] at h
  obtain ⟨body, hbody, h⟩ := h
  obtain ⟨blanks, rfl⟩ : ∃ blanks, opened = blanks ++ '\x60' :: body := by
    refine ⟨opened.takeWhile isSpace, ?_⟩
    have hbody : '\x60' :: body = opened.dropWhile isSpace := (Text.after?_eq_some.1 hbody).symm
    rw [hbody, List.takeWhile_append_dropWhile]
  cases h
  refine ⟨"raw".toList ++ blanks, by simp [List.takeWhile_append_dropWhile], ?_⟩
  simp only [List.length_append, List.length_cons, List.length_nil]
  omega

/-! ## Places in the whole script -/

/-- The definition of a label in a script with blocks. -/
structure Definition (scopes : List Text) (t : Text) where
  before : Text
  gap : Text
  label : Text
  behind : Text
  eq : t = before ++ ("script".toList ++ (gap ++ (label ++ behind)))
  keyword : WordBehind before "script".toList
  isGap : IsGap scopes gap
  isWhole : WordBehind [] label
  stops : Stops isWord behind

namespace Definition

variable {scopes : List Text} {t : Text}

/-- Where the word `script` stands. -/
def place (d : Definition scopes t) : Nat := d.before.length

/-- The number of characters between there and the label. -/
def inner (d : Definition scopes t) : Nat := ("script".toList ++ d.gap).length

/-- What a scan has of the definition if it finds it. -/
def entry (d : Definition scopes t) : Nat × Nat × Text := (d.place, d.inner, d.label)

/-- The same definition where more scopes are known. -/
def mono {scopes' : List Text} (hsub : scopes ⊆ scopes') (d : Definition scopes t) : Definition scopes' t :=
  ⟨d.before, d.gap, d.label, d.behind, d.eq, d.keyword, d.isGap.mono hsub, d.isWhole, d.stops⟩

theorem inner_eq (d : Definition scopes t) : d.inner = "script".toList.length + d.gap.length := List.length_append

theorem length_eq (d : Definition scopes t) : t.length = d.place + d.inner + (d.label.length + d.behind.length) := by
  rw [congrArg List.length d.eq, place, inner_eq]
  simp only [List.length_append]
  omega

theorem place_lt (d : Definition scopes t) : d.place < d.place + d.inner := by
  have hpos := List.length_pos_iff.2 d.isGap.nonempty
  rw [inner_eq]
  omega

/-- The label is a whole word where it stands. -/
theorem label_whole (d : Definition scopes t) : WordBehind (d.before ++ ("script".toList ++ d.gap)) d.label := by
  refine d.isWhole.of_getLast? fun c hc => .inl ?_
  rw [← List.append_assoc] at hc
  rcases mem_getLast?_append.1 hc with hc | ⟨hnil, -⟩
  · exact d.isGap.last c hc
  · exact absurd hnil d.isGap.nonempty

end Definition

/-- **A label is read at the definitions of the script.** -/
theorem readAt_blockLabel {scopes : List Text} (hscopes : scopes ⊆ allScopes) {t rest : Text} {i : Nat}
    {e : Nat × Text} (hi : i ≤ t.length) : readAt (blockLabel? scopes) t i = some (e, rest) ↔
      ∃ d : Definition scopes t, d.entry = (i, e) ∧ d.behind = rest := by
  rw [readAt_eq_some hi]
  constructor
  · obtain ⟨inner, label⟩ := e
    rintro ⟨before, found, rfl, rfl, hr⟩
    obtain ⟨hbefore, gap, hgap, rfl, rfl, hwhole, hrest⟩ := (blockLabel?_eq_some hscopes).1 hr
    exact ⟨⟨before, gap, label, rest, rfl, ⟨by decide, List.all_eq_true.1 rfl, hbefore⟩, hgap, hwhole, hrest⟩, rfl, rfl⟩
  · rintro ⟨d, hentry, rfl⟩
    obtain ⟨rfl, rfl⟩ := Prod.mk.inj hentry
    exact ⟨d.before, _, d.eq, rfl, (blockLabel?_eq_some hscopes).2
      ⟨d.keyword.begins, d.gap, d.isGap, rfl, rfl, d.isWhole, d.stops⟩⟩

theorem exists_definition_of_mem_scanAt {scopes : List Text} (hscopes : scopes ⊆ allScopes) {t : Text}
    {e : Nat × Nat × Text} (h : e ∈ scanAt (blockLabel? scopes) t) : ∃ d : Definition scopes t, d.entry = e := by
  obtain ⟨hlt, rest, hread⟩ := readAt_of_mem_scanAt h
  obtain ⟨d, hentry, -⟩ := (readAt_blockLabel hscopes (Nat.le_of_lt hlt)).1 hread
  exact ⟨d, hentry⟩

theorem exists_place_of_mem_scanAt {t label : Text} {offset inner : Nat}
    (h : (offset, inner, label) ∈ scanAt (blockLabel? allScopes) t) :
    ∃ before behind, t = before ++ (label ++ behind) ∧ before.length = offset + inner ∧ WordBehind before label ∧
      Stops isWord behind := by
  obtain ⟨d, hentry⟩ := exists_definition_of_mem_scanAt (List.Subset.refl _) h
  cases hentry
  have heq : t = d.before ++ ("script".toList ++ d.gap) ++ (d.label ++ d.behind) := by simpa using d.eq
  exact ⟨_, d.behind, heq, List.length_append, d.label_whole, d.stops⟩

theorem exists_script_of_mem_scanAt {t script : Text} {offset inner : Nat}
    (h : (offset, inner, script) ∈ scanAt rawBlock? t) :
    ∃ before behind, t = before ++ (script ++ behind) ∧ before.length = offset + inner ∧
      before.getLast? = some '\x60' := by
  obtain ⟨hoffset, rest, hread⟩ := readAt_of_mem_scanAt h
  obtain ⟨before, found, rfl, rfl, hr⟩ := (readAt_eq_some (Nat.le_of_lt hoffset)).1 hread
  obtain ⟨lead, rfl, rfl⟩ := rawBlock?_eq_some hr
  exact ⟨before ++ (lead ++ ['\x60']), rest, (List.append_assoc ..).symm, List.length_append, by simp⟩

/-- **A label of a raw script is on a line of the whole script.**  With one double quote at most on each line, no line
of the raw script has a string literal. -/
theorem exists_line_of_mem_definingLines {before script behind label : Text} {n : Nat}
    (hquotes : ∀ line ∈ Text.lines (before ++ (script ++ behind)), line.count '"' ≤ 1)
    (hbefore : ∀ c ∈ before.getLast?, isWord c = false) (h : n ∈ definingLines script label) :
    ∃ i line, before.count '\n' + n = i + 1 ∧ (Text.lines (before ++ (script ++ behind)))[i]? = some line ∧
      HasLabel label line := by
  obtain ⟨i, line, rfl, hline, p, q, hbare, hword⟩ := h
  have hunquoted : eraseQuoted line = line := by
    have hsingle : line.count '"' ≤ 1 := by
      obtain ⟨a, b, rfl, -⟩ := Text.exists_place (p := []) (q := []) (by simpa using hline)
      obtain ⟨p, q, hwhole, -⟩ :=
        Text.exists_line (Text.not_mem_of_mem_lines (List.mem_of_getElem? hline)) (before ++ a) (b ++ behind)
      have hcount := hquotes (p ++ line ++ q) (List.mem_of_getElem? (by simpa using hwhole))
      simp only [List.count_append] at hcount
      omega
    rw [eraseQuoted, if_neg (by omega)]
  have hlabel : HasLabel label line := by
    obtain ⟨rest, hrest⟩ := Text.prefix_upTo ['@'] line
    rw [bareRawLine, hunquoted] at hbare
    exact ⟨p, q ++ rest, by rw [← hrest, hbare]; simp, hword⟩
  obtain ⟨a, b, rfl, hplace, rfl⟩ := hasLabel_line.1 ⟨line, hline, hlabel⟩
  have hwhole : WordBehind (before ++ a) label := by
    refine hplace.of_getLast? fun c hc => ?_
    rcases mem_getLast?_append.1 hc with hc | ⟨-, hc⟩
    · exact .inr hc
    · exact .inl (hbefore c hc)
  obtain ⟨whole, hget, hhas⟩ := hasLabel_line.2 ⟨before ++ a, b ++ behind, rfl, hwhole, rfl⟩
  refine ⟨(before ++ a).count '\n', whole, ?_, by simpa using hget, hhas⟩
  rw [List.count_append, Nat.add_assoc]

/-! ## The line of a label -/

/-- Where the line comes from that is answered for a label. -/
theorem blockLine_cases {t label : Text} {n : Nat} (h : blockLine t label = n) (hn : 0 < n) :
    (∃ offset inner, (offset, inner, label) ∈ scanAt (blockLabel? allScopes) (cleanBlocks t) ∧
      n = lineOf (cleanBlocks t) (offset + inner)) ∨
    ∃ offset inner script, (offset, inner, script) ∈ scanAt rawBlock? (cleanBlocks t) ∧ rawLine script label ≠ 0 ∧
      n = ((cleanBlocks t).take (offset + inner)).count '\n' + rawLine script label := by
  unfold blockLine at h
  simp only at h
  split at h
  · rename_i offset inner found hfind
    obtain ⟨hmem, hfound, -⟩ := find?_scanAt hfind
    obtain rfl : found = label := by simpa using hfound
    exact .inl ⟨offset, inner, hmem, h.symm⟩
  · split at h
    · rename_i line above hfind
      obtain ⟨⟨offset, inner, script⟩, hmem, hentry⟩ := List.mem_map.1 (List.mem_of_find?_eq_some hfind)
      obtain ⟨rfl, rfl⟩ := Prod.mk.inj hentry
      exact .inr ⟨offset, inner, script, hmem, by simpa using List.find?_some hfind, h.symm⟩
    · omega

/-- **The line of a label in a script with blocks**, whether it is found behind the word `script` or in a raw script,
has the label as a word of its own when its string literals and comments are taken out. -/
theorem blockLine_located {t label : Text} {n : Nat} (h : blockLine t label = n) (hn : 0 < n) :
    1 ≤ n ∧ n ≤ (Text.lines t).length ∧
      ∃ line, (Text.lines t)[n - 1]? = some line ∧ HasWord label (bareBlockLine line) := by
  obtain ⟨i, rfl, whole, hwhole, hword⟩ : ∃ i, n = i + 1 ∧
      ∃ whole, (Text.lines (cleanBlocks t))[i]? = some whole ∧ HasWord label whole := by
    obtain ⟨offset, inner, hmem, rfl⟩ | ⟨offset, inner, script, hmem, hraw, rfl⟩ := blockLine_cases h hn
    · obtain ⟨before, behind, heq, hlength, hword, hbehind⟩ := exists_place_of_mem_scanAt hmem
      rw [heq, ← hlength, lineOf, List.take_left]
      exact ⟨_, rfl, exists_line_hasWord hword hbehind⟩
    · obtain ⟨before, behind, heq, hlength, hquote⟩ := exists_script_of_mem_scanAt hmem
      have hquotes : ∀ line ∈ Text.lines (cleanBlocks t), line.count '"' ≤ 1 := fun _ => count_le_of_mem_lines
      have hlast : ∀ c ∈ before.getLast?, isWord c = false := fun c hc => by
        obtain rfl : '\x60' = c := Option.some.inj (hquote.symm.trans hc)
        decide
      rw [heq] at hquotes ⊢
      rw [← hlength, List.take_left]
      obtain ⟨i, whole, hi, hwhole, hlabel⟩ := exists_line_of_mem_definingLines hquotes hlast (rawLine_mem hraw)
      exact ⟨i, hi, whole, hwhole, hlabel.hasWord⟩
  rw [lines_cleanBlocks, List.getElem?_map, Option.map_eq_some_iff] at hwhole
  obtain ⟨line, hline, rfl⟩ := hwhole
  exact ⟨hn, (List.getElem?_eq_some_iff.1 hline).1, line, hline, hword⟩

/-- A label in the raw script of a script with blocks, which is in a comment there before it is defined. -/
theorem blockLine_located_commented : blockLine "raw \x60\n@ a:\na: \"b:\"\n\x60".toList "a".toList = 3 ∧ 0 < 3 ∧
    3 ≤ (Text.lines "raw \x60\n@ a:\na: \"b:\"\n\x60".toList).length ∧
      ∃ line, (Text.lines "raw \x60\n@ a:\na: \"b:\"\n\x60".toList)[2]? = some line ∧
        HasWord "a".toList (bareBlockLine line) := by
  have hline : blockLine "raw \x60\n@ a:\na: \"b:\"\n\x60".toList "a".toList = 3 := by decide
  exact ⟨hline, by decide, (blockLine_located hline (by decide)).2⟩

end GameSource.Script
