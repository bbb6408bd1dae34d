import GameSource.Proofs.Script.BlockLabel
/-!
# Visible labels and their lines

The labels that are visible everywhere are listed by a scan of its own, which passes over other stretches of the script
than the scan for the line of a label.  A definition is missed by a scan only if its word `script` is taken for the
label of another definition that is found (`entry_mem_scanAt`).  The scan for visible labels knows no local scripts, so
behind a local script with the name `script` it lists a label that has no line (`lineOfLabel_visible`).  The scans of
raw scripts have no such difference (`definingLines_of_visible`).
-/
namespace GameSource.Script

/-! ## Raw scripts -/

/-- A label that is visible everywhere is a label. -/
theorem rawLabel?_of_visible {before : Option Char} {t label rest : Text}
    (h : rawLabel? true before t = some (label, rest)) : rawLabel? false before t = some (label, rest) := by
  unfold rawLabel? at h ⊢
  simp only [if_true] at h
  split at h
  · cases h
  · rename_i hskip
    rw [if_neg hskip]
    split at h
    · exact h
    · cases h
    · cases h

/-- **A label that a raw script lists is defined on one of its lines.** -/
theorem definingLines_of_visible {t label : Text} (h : label ∈ visibleRawLabels t) :
    (definingLines t label).Nonempty := by
  obtain ⟨⟨i, found⟩, hmem, rfl⟩ := List.mem_map.1 h
  obtain ⟨hlt, rest, hread⟩ := readAt_of_mem_scanAt hmem
  obtain ⟨before, behind, heq, hword, -, -⟩ := (readAt_rawLabel (Nat.le_of_lt hlt)).1 (rawLabel?_of_visible hread)
  exact ⟨_, mem_definingLines.2 ⟨before, behind, heq, hword, rfl⟩⟩

theorem rawLine_pos {t label : Text} : 0 < rawLine t label ↔ (definingLines t label).Nonempty := by
  rw [Nat.pos_iff_ne_zero, Set.nonempty_iff_ne_empty, ne_eq, ne_eq, (rawLine_least t label).2]

/-! ## Definitions that are missed -/

/-- The word `script` does not begin within a gap. -/
theorem IsGap.not_mem_s {gap : Text} (h : IsGap allScopes gap) : 's' ∉ gap := by
  obtain ⟨-, scope, blanks, rfl, hscope, hblanks⟩ := h
  have hall : (allScopes.all fun word => !('(' :: (word ++ [')'])).contains 's') = true := rfl
  intro hmem
  rcases List.mem_append.1 hmem with hmem | hmem
  · obtain rfl | ⟨word, hword, rfl⟩ := hscope
    · cases hmem
    · have hnot := List.all_eq_true.1 hall word hword
      rw [List.contains_iff_mem.2 hmem] at hnot
      cases hnot
  · exact absurd (hblanks 's' hmem) (by decide)

namespace Definition

variable {scopes : List Text} {t : Text}

theorem place_lt_length (d : Definition scopes t) : d.place < t.length := by
  have hlength := d.length_eq
  have hinner := d.place_lt
  omega

theorem readAt_place (hscopes : scopes ⊆ allScopes) (d : Definition scopes t) :
    readAt (blockLabel? scopes) t d.place = some ((d.inner, d.label), d.behind) :=
  (readAt_blockLabel hscopes (Nat.le_of_lt d.place_lt_length)).2 ⟨d, rfl, rfl⟩

/-- A definition reaches up to the end of its label. -/
theorem reachesOver_iff (hscopes : scopes ⊆ allScopes) (d : Definition scopes t) {place : Nat} :
    ReachesOver (blockLabel? scopes) t d.place place (d.inner, d.label) ↔
      d.place < place ∧ place < d.place + d.inner + d.label.length := by
  have hlength := d.length_eq
  refine and_congr_right fun _ => ⟨?_, fun hover => ⟨_, d.readAt_place hscopes, by omega⟩⟩
  rintro ⟨behind, hbehind, hover⟩
  rw [d.readAt_place hscopes] at hbehind
  obtain ⟨-, rfl⟩ := Prod.mk.inj (Option.some.inj hbehind)
  omega

/-- **Two definitions overlap only if the label of the first is the word `script` of the second.** -/
theorem overlap (hscopes : scopes ⊆ allScopes) {d d' : Definition scopes t} (hlt : d.place < d'.place)
    (hover : d'.place < d.place + d.inner + d.label.length) :
    d.label = "script".toList ∧ d.place + d.inner = d'.place := by
  have hplace : (d.before ++ ("script".toList ++ d.gap)).length = d.place + d.inner := List.length_append
  have hplace' : d'.before.length = d'.place := rfl
  rcases Nat.lt_trichotomy (d.place + d.inner) d'.place with hbehind | hsame | hbefore
  · -- What begins behind the first character of the label begins behind its last.
    obtain ⟨mid, hmid, -⟩ := d.label_whole.behind_of_lt d'.keyword (by rwa [hplace, hplace'])
      (by simpa using d.eq.symm.trans d'.eq)
    rw [hmid, List.length_append, hplace, List.length_append] at hplace'
    omega
  · have heq : d.before ++ ("script".toList ++ d.gap) ++ (d.label ++ d.behind) =
        d'.before ++ ("script".toList ++ (d'.gap ++ (d'.label ++ d'.behind))) := by
      simpa using d.eq.symm.trans d'.eq
    obtain ⟨-, hrest⟩ := List.append_inj heq (by rw [hplace, hplace', hsame])
    have hlabel := congrArg (List.takeWhile isWord) hrest
    rw [takeWhile_run d.isWhole.ofWord d.stops,
      takeWhile_run d'.keyword.ofWord (d'.isGap.head.append_left d'.isGap.nonempty _)] at hlabel
    exact ⟨hlabel, hsame⟩
  · -- What begins before the label begins in the gap.
    obtain ⟨mid, hmid, hgap⟩ := d.keyword.behind_of_lt d'.keyword hlt (d.eq.symm.trans d'.eq)
    have hshort : mid.length < d.gap.length := by
      rw [hmid] at hplace'
      simp only [List.length_append] at hplace hplace'
      have hstart : d.before.length = d.place := rfl
      omega
    rcases List.append_eq_append_iff.1 hgap with ⟨p, rfl, -⟩ | ⟨p, hp, hkeyword⟩
    · rw [List.length_append] at hshort
      omega
    · cases p with
      | nil =>
        rw [hp, List.append_nil] at hshort
        exact absurd hshort (Nat.lt_irrefl _)
      | cons c p =>
        obtain rfl : 's' = c := (List.cons.inj hkeyword).1
        exact absurd (hp ▸ List.mem_append_right mid List.mem_cons_self) (d.isGap.mono hscopes).not_mem_s

end Definition

/-- The word `script` at the place is the label of another definition, and that one is not missed. -/
def Taken (scopes : List Text) (t : Text) (place : Nat) : Prop :=
  ∃ d : Definition scopes t, ∃ _ : d.place < place,
    d.label = "script".toList ∧ d.place + d.inner = place ∧ ¬Taken scopes t d.place
termination_by place

theorem taken_iff {scopes : List Text} {t : Text} {place : Nat} : Taken scopes t place ↔
    ∃ d : Definition scopes t, d.label = "script".toList ∧ d.place + d.inner = place ∧ ¬Taken scopes t d.place := by
  rw [Taken]
  refine exists_congr fun d => ⟨?_, ?_⟩
  · rintro ⟨-, h⟩
    exact h
  · intro h
    exact ⟨h.2.1 ▸ d.place_lt, h⟩

/-- **A scan finds the definitions that are not missed.** -/
theorem entry_mem_scanAt {scopes : List Text} (hscopes : scopes ⊆ allScopes) {t : Text} (d : Definition scopes t) :
    d.entry ∈ scanAt (blockLabel? scopes) t ↔ ¬Taken scopes t d.place := by
  induction hn : d.place using Nat.strong_induction_on generalizing d with
  | h n ih =>
    subst hn
    constructor
    · intro hmem htaken
      obtain ⟨d', hlabel, hplace, hfree⟩ := taken_iff.1 htaken
      have hbefore : d'.place < d.place := hplace ▸ d'.place_lt
      have hword : 0 < d'.label.length := List.length_pos_iff.2 d'.isWhole.nonempty
      have hreach := (d'.reachesOver_iff hscopes).2 ⟨hbefore, by omega⟩
      exact scanAt_apart ((ih _ hbefore d' rfl).2 hfree) hmem hreach
    · intro hfree
      rcases mem_scanAt_or_reached d.place_lt_length (d.readAt_place hscopes) with hmem | ⟨e, he, hreach⟩
      · exact hmem
      · obtain ⟨d', rfl⟩ := exists_definition_of_mem_scanAt hscopes he
        obtain ⟨hbefore, hover⟩ := (d'.reachesOver_iff hscopes).1 hreach
        obtain ⟨hlabel, hplace⟩ := Definition.overlap hscopes hbefore hover
        exact absurd (taken_iff.2 ⟨d', hlabel, hplace, (ih _ hbefore d' rfl).1 he⟩) hfree

/-- What a scan finds, by its label. -/
theorem mem_scan_blockLabel {scopes : List Text} (hscopes : scopes ⊆ allScopes) {t label : Text} :
    (∃ e ∈ scanAt (blockLabel? scopes) t, e.2.2 = label) ↔
      ∃ d : Definition scopes t, d.label = label ∧ ¬Taken scopes t d.place := by
  constructor
  · rintro ⟨e, he, rfl⟩
    obtain ⟨d, rfl⟩ := exists_definition_of_mem_scanAt hscopes he
    exact ⟨d, rfl, (entry_mem_scanAt hscopes d).1 he⟩
  · rintro ⟨d, rfl, hfree⟩
    exact ⟨d.entry, (entry_mem_scanAt hscopes d).2 hfree, rfl⟩

/-! ## Listed labels -/

theorem globalScopes_subset : globalScopes ⊆ allScopes := List.cons_subset_cons _ (List.nil_subset _)

/-- **The visible labels of a script with blocks** are those of the definitions that are not missed where local scripts
are not known, and those that its raw scripts list. -/
theorem mem_visibleBlockLabels {t label : Text} : label ∈ visibleBlockLabels t ↔
    (∃ d : Definition globalScopes (cleanBlocks t), d.label = label ∧ ¬Taken globalScopes (cleanBlocks t) d.place) ∨
      ∃ e ∈ scan rawBlock? (cleanBlocks t), label ∈ visibleRawLabels e.2 := by
  rw [visibleBlockLabels, List.mem_append, List.mem_flatMap, ← mem_scan_blockLabel globalScopes_subset, scan,
    List.map_map, List.mem_map]
  rfl

/-- **A label of a script with blocks has a line** if and only if a definition of it is not missed, or a line of a raw
script defines it. -/
theorem blockLine_pos {t label : Text} : 0 < blockLine t label ↔
    (∃ d : Definition allScopes (cleanBlocks t), d.label = label ∧ ¬Taken allScopes (cleanBlocks t) d.place) ∨
      ∃ e ∈ scan rawBlock? (cleanBlocks t), (definingLines e.2 label).Nonempty := by
  rw [← mem_scan_blockLabel (List.Subset.refl _)]
  constructor
  · intro h
    obtain ⟨offset, inner, hmem, -⟩ | ⟨offset, inner, script, hmem, hraw, -⟩ := blockLine_cases rfl h
    · exact .inl ⟨_, hmem, rfl⟩
    · exact .inr ⟨_, List.mem_map_of_mem hmem, rawLine_pos.1 (Nat.pos_of_ne_zero hraw)⟩
  · intro h
    by_contra hzero
    unfold blockLine at hzero
    simp only at hzero
    split at hzero
    · exact hzero (Nat.succ_pos _)
    · rename_i hnone
      obtain ⟨e, he, rfl⟩ | ⟨e, he, hraw⟩ := h
      · simpa using List.find?_eq_none.1 hnone e he
      · obtain ⟨⟨offset, inner, script⟩, hmem, rfl⟩ := List.mem_map.1 he
        split at hzero
        · rename_i line above hfind
          have hline := List.find?_some hfind
          simp only [bne_iff_ne] at hline
          omega
        · rename_i hfind
          have hline := List.find?_eq_none.1 hfind _ (List.mem_map_of_mem hmem)
          have hpos : 0 < rawLine script label := rawLine_pos.2 hraw
          simp only [bne_iff_ne, not_not] at hline
          omega

/-! ## Local scripts -/

/-- The script defines a local script with the name `script`. -/
def NamesLocalScript (t : Text) : Prop :=
  ∃ before blanks behind, t = before ++ ("script(local)".toList ++ (blanks ++ ("script".toList ++ behind))) ∧
    WordBehind before "script".toList ∧ (∀ c ∈ blanks, isSpace c) ∧ Stops isWord behind

/-- Without a local script of that name, what is called `script` is so where local scripts are not known. -/
theorem exists_global_definition {t : Text} (h : ¬NamesLocalScript t) (d : Definition allScopes t)
    (hlabel : d.label = "script".toList) : ∃ d' : Definition globalScopes t, d'.mono globalScopes_subset = d := by
  have hgap : IsGap globalScopes d.gap := by
    obtain ⟨hne, scope, blanks, hsplit, hscope, hblanks⟩ := d.isGap
    refine ⟨hne, scope, blanks, hsplit, hscope.imp_right ?_, hblanks⟩
    rintro ⟨word, hword, rfl⟩
    rcases List.mem_cons.1 hword with rfl | hword
    · exact ⟨_, List.mem_singleton_self _, rfl⟩
    · obtain rfl := List.mem_singleton.1 hword
      refine absurd ⟨d.before, blanks, d.behind, d.eq.trans ?_, d.keyword, hblanks, d.stops⟩ h
      rw [hsplit, hlabel]
      simp
  exact ⟨⟨d.before, d.gap, d.label, d.behind, d.eq, d.keyword, hgap, d.isWhole, d.stops⟩, rfl⟩

/-- Without a local script of that name, no definition is missed for local scripts. -/
theorem taken_global {t : Text} (h : ¬NamesLocalScript t) (place : Nat) :
    Taken allScopes t place ↔ Taken globalScopes t place := by
  induction place using Nat.strong_induction_on with
  | h place ih =>
    rw [taken_iff, taken_iff]
    constructor
    · rintro ⟨d, hlabel, hplace, hfree⟩
      obtain ⟨d', rfl⟩ := exists_global_definition h d hlabel
      exact ⟨d', hlabel, hplace, fun htaken => hfree ((ih _ (hplace ▸ d'.place_lt)).2 htaken)⟩
    · rintro ⟨d, hlabel, hplace, hfree⟩
      exact ⟨d.mono globalScopes_subset, hlabel, hplace, fun htaken => hfree ((ih _ (hplace ▸ d.place_lt)).1 htaken)⟩

/-! ## Lines of visible labels -/

/-- Every definition of the label in the cleaned script is missed, and no raw script in it defines the label. -/
def Overlooked (t label : Text) : Prop :=
  (∀ d : Definition allScopes t, d.label = label → Taken allScopes t d.place) ∧
    ∀ e ∈ scan rawBlock? t, definingLines e.2 label = ∅

theorem blockLine_pos_iff {t label : Text} : 0 < blockLine t label ↔ ¬Overlooked (cleanBlocks t) label := by
  rw [blockLine_pos, Overlooked, not_and_or]
  simp only [not_forall, Set.nonempty_iff_ne_empty, exists_prop, ne_eq]

/-- A script with blocks lists a label without a line only if it has a local script that is called `script`, and no raw
script in it lists that label. -/
theorem namesLocalScript_of_overlooked {t label : Text} (h : label ∈ visibleBlockLabels t)
    (hover : Overlooked (cleanBlocks t) label) : NamesLocalScript (cleanBlocks t) ∧
      ∀ e ∈ scan rawBlock? (cleanBlocks t), label ∉ visibleRawLabels e.2 := by
  have hraw : ∀ e ∈ scan rawBlock? (cleanBlocks t), label ∉ visibleRawLabels e.2 := fun e he hlisted =>
    (definingLines_of_visible hlisted).ne_empty (hover.2 e he)
  refine ⟨?_, hraw⟩
  by_contra hlocal
  obtain ⟨d, rfl, hfree⟩ | ⟨e, he, hlisted⟩ := mem_visibleBlockLabels.1 h
  · exact hfree ((taken_global hlocal _).1 (hover.1 (d.mono globalScopes_subset) rfl))
  · exact hraw e he hlisted

theorem ne_nil_of_visible {d : Dialect} {t label : Text} (h : label ∈ visibleLabels d t) : label ≠ [] := by
  have hraw {t : Text} (h : label ∈ visibleRawLabels t) : label ≠ [] := by
    obtain ⟨n, hn⟩ := definingLines_of_visible h
    obtain ⟨before, behind, -, hword, -⟩ := mem_definingLines.1 hn
    exact hword.nonempty
  cases d with
  | raw => exact hraw h
  | pory =>
    obtain ⟨d, rfl, -⟩ | ⟨e, -, hlisted⟩ := mem_visibleBlockLabels.1 h
    · exact d.isWhole.nonempty
    · exact hraw hlisted

/-- **A visible label has a line**, unless its script has blocks and all that defines it is overlooked.  Then a local
script there is called `script`, and no raw script lists the label. -/
theorem lineOfLabel_visible {d : Dialect} {t label : Text} (h : label ∈ visibleLabels d t) :
    (0 < lineOfLabel d t label ↔ ¬(d = .pory ∧ Overlooked (cleanBlocks t) label)) ∧
      (d = .pory ∧ Overlooked (cleanBlocks t) label → NamesLocalScript (cleanBlocks t) ∧
        ∀ e ∈ scan rawBlock? (cleanBlocks t), label ∉ visibleRawLabels e.2) := by
  have hempty : label.isEmpty = false := by simpa using ne_nil_of_visible h
  simp only [lineOfLabel, hempty, Bool.false_eq_true, if_false]
  cases d with
  | raw =>
    have hline : 0 < rawLine t label := rawLine_pos.2 (definingLines_of_visible h)
    simp [hline]
  | pory =>
    refine ⟨?_, fun hover => namesLocalScript_of_overlooked h hover.2⟩
    simpa using blockLine_pos_iff

/-- A label that a raw script lists has a line there, though its own block is overlooked. -/
theorem lineOfLabel_visible_withinRaw :
    "b".toList ∈ visibleLabels .pory "script(local)\nscript b \x7b\n\x7d\nraw \x60\nb::\n\x60".toList ∧
      ¬Overlooked (cleanBlocks "script(local)\nscript b \x7b\n\x7d\nraw \x60\nb::\n\x60".toList) "b".toList ∧
      0 < lineOfLabel .pory "script(local)\nscript b \x7b\n\x7d\nraw \x60\nb::\n\x60".toList "b".toList := by
  have hlisted : "b".toList ∈ visibleLabels .pory "script(local)\nscript b \x7b\n\x7d\nraw \x60\nb::\n\x60".toList := by
    decide
  have hfree : ¬(Dialect.pory = .pory ∧
      Overlooked (cleanBlocks "script(local)\nscript b \x7b\n\x7d\nraw \x60\nb::\n\x60".toList) "b".toList) :=
    fun hover => absurd ((lineOfLabel_visible hlisted).2 hover).2 (by decide)
  exact ⟨hlisted, fun hover => hfree ⟨rfl, hover⟩, (lineOfLabel_visible hlisted).1.2 hfree⟩

/-- A label behind a local script with the name `script` is listed and has no line. -/
theorem lineOfLabel_overlooked : "Foo".toList ∈ visibleLabels .pory "script(local)\nscript Foo \x7b\n\x7d\n".toList ∧
    lineOfLabel .pory "script(local)\nscript Foo \x7b\n\x7d\n".toList "Foo".toList = 0 := by
  decide

end GameSource.Script
