import GameSource.Proofs.Define.Filtered
/-!
# Where definitions stand

A directive belongs on a line of its own, and the braces of an enum behind the word and a tag (`WellPlaced`).  A scan is
less strict: it takes any number sign with `define` behind it for a directive, and for an enum the first braces behind
the word, whatever stands between but a semicolon (`Stray`).  So the names of a table may come from the braces of a
function that only mentions an enum (`names_wellPlaced_iff`), and a directive is passed over that stands between the
word and the closing brace (`directive_found_iff`).
-/
namespace GameSource

/-! ## Places -/

/-- A directive stands at the place and ends its line. -/
def DirectiveAt (t : Text) (i : Nat) (name value : Text) : Prop :=
  ∃ before directive after, t = before ++ (directive ++ after) ∧ before.length = i ∧ Directive name value directive ∧
    ∀ c ∈ after.head?, c = '\n'

/-- The word `enum` stands whole at the place, with the first braces behind it around `body`. -/
def EnumAt (t : Text) (i : Nat) (between body : Text) : Prop :=
  ∃ before braced after, t = before ++ (braced ++ after) ∧ before.length = i ∧ BracedEnum between body braced ∧
    ∀ c ∈ before.getLast?, isWord c = false

/-- What stands before a place has only blanks on the last line. -/
def OpensLine (before : Text) : Prop :=
  ∃ above indent, before = above ++ indent ∧ (∀ c ∈ above.getLast?, c = '\n') ∧ ∀ c ∈ indent, isInlineSpace c

/-- What ends with a text on one line is blank there. -/
theorem OpensLine.blank {front p : Text} (h : OpensLine (front ++ p)) (hp : '\n' ∉ p) : ∀ c ∈ p, isInlineSpace c := by
  obtain ⟨above, indent, heq, habove, hindent⟩ := h
  rcases List.append_eq_append_iff.1 heq with ⟨x, rfl, rfl⟩ | ⟨x, rfl, rfl⟩
  · intro c hc
    cases hlast : x.getLast? with
    | none =>
      rw [List.getLast?_eq_none_iff.1 hlast] at hc
      exact hindent c hc
    | some d =>
      obtain rfl := habove d (mem_getLast?_append.2 (.inl hlast))
      exact absurd (List.mem_append_left indent (List.mem_of_getLast? hlast)) hp
  · exact fun c hc => hindent c (List.mem_append_right x hc)

section
variable {t rest : Text} {i : Nat}

theorem readAt_define_iff {name value : Text} (hi : i ≤ t.length) :
    readAt definition? t i = some (.define name value, rest) ↔ ∃ before directive,
      t = before ++ (directive ++ rest) ∧ before.length = i ∧ Directive name value directive ∧
        ∀ c ∈ rest.head?, c = '\n' := by
  rw [readAt_eq_some hi]
  constructor
  · rintro ⟨before, behind, rfl, hlength, hread⟩
    obtain ⟨directive, rfl, h⟩ := defineDirective?_eq_some_iff.1 (definition?_define_iff.1 hread)
    exact ⟨before, directive, rfl, hlength, h⟩
  · rintro ⟨before, directive, rfl, hlength, h⟩
    exact ⟨before, directive ++ rest, rfl, hlength,
      definition?_define_iff.2 (defineDirective?_eq_some_iff.2 ⟨directive, rfl, h⟩)⟩

theorem readAt_enumeration_iff {body : Text} (hi : i ≤ t.length) :
    readAt definition? t i = some (.enumeration body, rest) ↔ ∃ before between braced,
      t = before ++ (braced ++ rest) ∧ before.length = i ∧ BracedEnum between body braced ∧
        ∀ c ∈ before.getLast?, isWord c = false := by
  rw [readAt_eq_some hi]
  constructor
  · rintro ⟨before, behind, rfl, hlength, hread⟩
    obtain ⟨hbefore, between, braced, rfl, h⟩ := enumBody?_eq_some_iff.1 (definition?_enumeration_iff.1 hread)
    exact ⟨before, between, braced, rfl, hlength, h, any_isWord_eq_false.1 hbefore⟩
  · rintro ⟨before, between, braced, rfl, hlength, h, hbefore⟩
    exact ⟨before, braced ++ rest, rfl, hlength, definition?_enumeration_iff.2
      (enumBody?_eq_some_iff.2 ⟨any_isWord_eq_false.2 hbefore, between, braced, rfl, h⟩)⟩

theorem DirectiveAt.lt_length {name value : Text} (h : DirectiveAt t i name value) : i < t.length := by
  obtain ⟨before, _, after, rfl, rfl, ⟨-, -, -, -, -⟩, -⟩ := h
  simp

theorem DirectiveAt.readAt {name value : Text} (h : DirectiveAt t i name value) :
    ∃ rest, readAt definition? t i = some (.define name value, rest) := by
  have hi := Nat.le_of_lt h.lt_length
  obtain ⟨before, directive, after, h⟩ := h
  exact ⟨after, (readAt_define_iff hi).2 ⟨before, directive, h⟩⟩

theorem directiveAt_of_mem_scanAt {name value : Text} (h : (i, .define name value) ∈ scanAt definition? t) :
    DirectiveAt t i name value := by
  obtain ⟨hi, rest, hread⟩ := readAt_of_mem_scanAt h
  obtain ⟨before, directive, h⟩ := (readAt_define_iff (Nat.le_of_lt hi)).1 hread
  exact ⟨before, directive, rest, h⟩

theorem EnumAt.le_length {between body : Text} (h : EnumAt t i between body) : i ≤ t.length := by
  obtain ⟨before, _, after, rfl, rfl, -⟩ := h
  simp

theorem EnumAt.readAt {between body : Text} (h : EnumAt t i between body) :
    ∃ rest, readAt definition? t i = some (.enumeration body, rest) := by
  have hi := h.le_length
  obtain ⟨before, braced, after, h⟩ := h
  exact ⟨after, (readAt_enumeration_iff hi).2 ⟨before, between, braced, h⟩⟩

/-- What stands before the braces is what stands before the first opening one. -/
theorem EnumAt.between_eq {between body : Text} (h : EnumAt t i between body) :
    between = (t.drop (i + 4)).takeWhile (· != '\x7b') := by
  obtain ⟨before, _, after, rfl, rfl, ⟨-, hbetween, -⟩, -⟩ := h
  rw [← List.drop_drop, List.drop_left, List.append_assoc, List.append_assoc]
  exact (takeWhile_run (fun c hc => by simpa using (hbetween c hc).1) (.cons (by decide))).symm

theorem exists_enumAt_of_mem_scanAt {body : Text} (h : (i, .enumeration body) ∈ scanAt definition? t) :
    ∃ between, EnumAt t i between body := by
  obtain ⟨hi, rest, hread⟩ := readAt_of_mem_scanAt h
  obtain ⟨before, between, braced, h⟩ := (readAt_enumeration_iff (Nat.le_of_lt hi)).1 hread
  exact ⟨between, before, braced, rest, h⟩

end

/-! ## Where names come from -/

/-- The definition stands where it belongs: a directive on a line of its own, or an enum with only white space and a tag
before its braces. -/
inductive WellPlaced (t : Text) : Nat × Definition → Prop where
  | directive {i : Nat} {name value : Text} (h : DirectiveAt t i name value) (hopens : OpensLine (t.take i)) :
      WellPlaced t (i, .define name value)
  | enumeration {i : Nat} {between body : Text} (h : EnumAt t i between body) (ht : PrintsTag between) :
      WellPlaced t (i, .enumeration body)

/-- What is taken for a definition is none: a number sign behind other signs on its line, or braces behind a use of an
enum. -/
inductive Stray (t : Text) : Nat × Definition → Prop where
  | withinLine {i : Nat} {name value : Text} (h : DirectiveAt t i name value) (hopens : ¬OpensLine (t.take i)) :
      Stray t (i, .define name value)
  | behindUse {i : Nat} {between body : Text} (h : EnumAt t i between body) (ht : ¬PrintsTag between) :
      Stray t (i, .enumeration body)

theorem wellPlaced_or_stray {t : Text} {e : Nat × Definition} (h : e ∈ scanAt definition? t) :
    WellPlaced t e ∨ Stray t e := by
  obtain ⟨i, d⟩ := e
  cases d with
  | define name value =>
    have hat := directiveAt_of_mem_scanAt h
    by_cases hopens : OpensLine (t.take i)
    · exact .inl (.directive hat hopens)
    · exact .inr (.withinLine hat hopens)
  | enumeration body =>
    obtain ⟨between, hat⟩ := exists_enumAt_of_mem_scanAt h
    by_cases ht : PrintsTag between
    · exact .inl (.enumeration hat ht)
    · exact .inr (.behindUse hat ht)

/-- A definition that stands where it belongs gives the name. -/
def HasDefinition (t name : Text) : Prop := ∃ e, WellPlaced t e ∧ name ∈ e.2.elements.map Prod.fst

/-- **Where the names of a table come from.**  A name is in the table if and only if it is given by something that the
scan finds, which stands where a definition belongs or is a stray.  So every name has a definition if and only if those
that strays give have one. -/
theorem names_wellPlaced_iff (filter : DefineFilter) (t : Text) :
    (∀ name, name ∈ (DefineTable.ofSource filter t).expressions.map Prod.fst ↔
      ∃ e ∈ scanAt definition? (bareText t), (WellPlaced (bareText t) e ∨ Stray (bareText t) e) ∧
        name ∈ e.2.elements.map Prod.fst) ∧
    ((∀ name ∈ (DefineTable.ofSource filter t).expressions.map Prod.fst, HasDefinition (bareText t) name) ↔
      ∀ e ∈ scanAt definition? (bareText t), Stray (bareText t) e →
        ∀ name ∈ e.2.elements.map Prod.fst, HasDefinition (bareText t) name) := by
  refine ⟨fun name => ?_, fun h e he _ name hname => ?_, fun h name hname => ?_⟩
  · rw [DefineTable.mem_names_ofSource]
    refine exists_congr fun e => and_congr_right fun he => ?_
    rw [and_iff_right (wellPlaced_or_stray he)]
  · exact h name (DefineTable.mem_names_ofSource.2 ⟨e, he, hname⟩)
  · obtain ⟨e, he, hname⟩ := DefineTable.mem_names_ofSource.1 hname
    rcases wellPlaced_or_stray he with hplaced | hstray
    · exact ⟨e, hplaced, hname⟩
    · exact h e he hstray name hname

/-- A function that gives back a pointer to an enum. -/
def enumPointer : Text := "enum Color *find(int x)\n\x7b\n    return x;\n\x7d\n".toList

/-- **A name is in the table that stands in the body of a function**, and nothing defines it. -/
theorem names_behindUse : ∃ name ∈ (DefineTable.ofSource (.names []) enumPointer).expressions.map Prod.fst,
    ¬HasDefinition (bareText enumPointer) name := by
  refine ⟨"return".toList, by decide +kernel, ?_⟩
  rintro ⟨e, hplaced, -⟩
  cases hplaced with
  | @directive i name value h hopens =>
    obtain ⟨before, directive, after, ht, -, hdirective, -⟩ := h
    have hsign : '#' ∈ bareText enumPointer := by
      rw [ht]
      simp [List.mem_of_head? hdirective.head?]
    exact absurd hsign (by decide)
  | @enumeration i between body h ht =>
    -- At each place that is read as an enum there is a star before the braces.
    have hstar : (List.range ((bareText enumPointer).length + 1)).all fun i =>
        (readAt definition? (bareText enumPointer) i).isNone ||
          (((bareText enumPointer).drop (i + 4)).takeWhile (· != '\x7b')).contains '*' := by decide +kernel
    have hi := List.all_eq_true.1 hstar i (List.mem_range.2 (Nat.lt_succ_of_le h.le_length))
    obtain ⟨rest, hread⟩ := h.readAt
    rw [← h.between_eq, hread] at hi
    exact absurd (ht.quiet '*' (by simpa using hi)) (by decide)

/-! ## Which directives are passed over -/

/-- The line is a directive of the name, and only blanks stand before its number sign. -/
def DirectiveLine (name line : Text) : Prop :=
  ∃ indent directive value, line = indent ++ directive ∧ (∀ c ∈ indent, isInlineSpace c) ∧
    Directive name value directive

theorem directiveLine_of_read {name value line : Text} (h : defineDirective? line = some ((name, value), [])) :
    DirectiveLine name line := by
  obtain ⟨_, rfl, hdirective, -⟩ := defineDirective?_eq_some_iff.1 h
  exact ⟨[], _, value, List.append_nil _, by simp, hdirective⟩

/-- An enum that the scan finds begins on a line before the `k`th and is closed on that line or on one behind it. -/
def EnumOver (t : Text) (k : Nat) : Prop :=
  ∃ i between body, (i, .enumeration body) ∈ scanAt definition? t ∧ EnumAt t i between body ∧
    (t.take i).count '\n' < k ∧ k ≤ (t.take i ++ between ++ body).count '\n'

/-- The part of a piece that stands before a place within it. -/
theorem exists_part_before {t front piece behind : Text} {i : Nat} {c : Char} (ht : t = front ++ (piece ++ behind))
    (hlt : front.length < i) (hover : i + behind.length < t.length) (hc : piece.head? = some c) :
    ∃ p q, t.take i = front ++ p ∧ piece = p ++ q ∧ c ∈ p := by
  refine ⟨piece.take (i - front.length), piece.drop (i - front.length), ?_, (List.take_append_drop _ _).symm, ?_⟩
  · rw [ht] at hover ⊢
    simp only [List.length_append] at hover
    rw [List.take_append, List.take_of_length_le (Nat.le_of_lt hlt), List.take_append_of_le_length (by omega)]
  · refine List.mem_of_mem_head? ?_
    rw [List.head?_take, if_neg (by omega), hc]
    rfl

section
variable {t : Text} {i j : Nat} (hopens : OpensLine (t.take i))
include hopens

/-- No directive reaches over the number sign behind the blanks of a line. -/
theorem not_reachesOver_define {name value : Text} : ¬ReachesOver definition? t j i (.define name value) := by
  rintro ⟨hlt, behind, hread, hover⟩
  obtain ⟨front, directive, ht, rfl, hdirective, -⟩ := (readAt_define_iff (by omega)).1 hread
  obtain ⟨p, q, hbefore, rfl, hsign⟩ := exists_part_before ht hlt hover hdirective.head?
  have hp : '\n' ∉ p := fun hmem => hdirective.newline (List.mem_append_left q hmem)
  rw [hbefore] at hopens
  exact absurd (hopens.blank hp '#' hsign) (by decide)

/-- An enum that reaches over a place behind the blanks of a line begins before that line. -/
theorem enumOver_of_reachesOver {body : Text} (he : (j, .enumeration body) ∈ scanAt definition? t)
    (h : ReachesOver definition? t j i (.enumeration body)) : EnumOver t ((t.take i).count '\n') := by
  obtain ⟨hlt, behind, hread, hover⟩ := h
  obtain ⟨front, between, braced, ht, rfl, hbraced, hwhole⟩ := (readAt_enumeration_iff (by omega)).1 hread
  obtain ⟨p, q, hbefore, hsplit, hword⟩ := exists_part_before ht hlt hover hbraced.head?
  have hp : 0 < p.count '\n' := by
    refine List.count_pos_iff.2 (Classical.byContradiction fun hnot => ?_)
    rw [hbefore] at hopens
    exact absurd (hopens.blank hnot 'e' hword) (by decide)
  have hfront : t.take front.length = front := by rw [ht, List.take_left]
  have hcount := hbraced.count
  rw [hsplit, List.count_append] at hcount
  refine ⟨front.length, between, body, he, ⟨front, braced, behind, ht, rfl, hbraced, hwhole⟩, ?_, ?_⟩
  · rw [hfront, hbefore, List.count_append]
    omega
  · rw [hfront, hbefore, List.append_assoc, List.count_append, List.count_append]
    omega

/-- An enum over a line reaches over what stands behind the blanks of that line. -/
theorem exists_reachesOver (h : EnumOver t ((t.take i).count '\n')) :
    ∃ j body, (j, .enumeration body) ∈ scanAt definition? t ∧ ReachesOver definition? t j i (.enumeration body) := by
  obtain ⟨j, between, body, he, hat, hlt, hle⟩ := h
  have hj := hat.le_length
  obtain ⟨front, braced, behind, ht, rfl, hbraced, hwhole⟩ := hat
  have hread := (readAt_enumeration_iff hj).2 ⟨front, between, braced, ht, rfl, hbraced, hwhole⟩
  have hfront : t.take front.length = front := by rw [ht, List.take_left]
  have hcount := hbraced.count
  rw [hfront] at hlt hle
  refine ⟨front.length, body, he, ?_, behind, hread, ?_⟩
  · -- Otherwise no more lines would begin before the place than before the enum.
    by_contra hle'
    have hsub := (List.take_sublist_take_left (l := t) (Nat.not_lt.1 hle')).count_le '\n'
    rw [hfront] at hsub
    omega
  · -- Otherwise the closing brace would stand among the blanks before the place.
    by_contra hle'
    obtain ⟨inner, rfl⟩ : ∃ inner, braced = inner ++ ['\x7d'] := by
      obtain ⟨-, -, -⟩ := hbraced
      exact ⟨"enum".toList ++ (between ++ '\x7b' :: body), by simp⟩
    have hprefix : front ++ (inner ++ ['\x7d']) <+: t.take i := by
      refine List.prefix_take_iff.2 ⟨⟨behind, by rw [ht, List.append_assoc]⟩, ?_⟩
      rw [ht] at hle'
      simp only [List.length_append] at hle' ⊢
      omega
    obtain ⟨gap, hgap⟩ := hprefix
    have hnone : '\n' ∉ '\x7d' :: gap := by
      rw [← hgap] at hle
      simp only [List.count_append] at hle hcount
      have hzero : gap.count '\n' = 0 := by omega
      simpa using List.count_eq_zero.1 hzero
    have hsplit : t.take i = front ++ inner ++ '\x7d' :: gap := by rw [← hgap]; simp
    rw [hsplit] at hopens
    exact absurd (hopens.blank hnone '\x7d' List.mem_cons_self) (by decide)

theorem not_mem_scanAt_of_enumOver {d : Definition} (h : EnumOver t ((t.take i).count '\n')) :
    (i, d) ∉ scanAt definition? t := by
  obtain ⟨j, body, he, hreach⟩ := exists_reachesOver hopens h
  exact fun hmem => scanAt_apart he hmem hreach

/-- A directive on a line of its own is found if and only if no enum stands over the line. -/
theorem DirectiveAt.mem_scanAt_iff {name value : Text} (h : DirectiveAt t i name value) :
    (i, .define name value) ∈ scanAt definition? t ↔ ¬EnumOver t ((t.take i).count '\n') := by
  refine ⟨fun hmem hover => not_mem_scanAt_of_enumOver hopens hover hmem, fun hfree => ?_⟩
  obtain ⟨rest, hread⟩ := h.readAt
  refine (mem_scanAt_or_reached h.lt_length hread).resolve_right ?_
  rintro ⟨⟨j, d⟩, he, hreach⟩
  cases d with
  | define name value => exact not_reachesOver_define hopens hreach
  | enumeration body => exact hfree (enumOver_of_reachesOver hopens he hreach)

end

/-- The directive of a line stands behind the blanks of this line. -/
theorem DirectiveLine.exists_directiveAt {t name line : Text} {k : Nat} (h : DirectiveLine name line)
    (hline : (Text.lines t)[k]? = some line) :
    ∃ i value, DirectiveAt t i name value ∧ OpensLine (t.take i) ∧ (t.take i).count '\n' = k := by
  obtain ⟨indent, directive, value, rfl, hindent, hdirective⟩ := h
  obtain ⟨-, above, below, rfl, rfl, habove, hbelow⟩ := Text.getElem?_lines.1 hline
  have hsplit : above ++ (indent ++ directive) ++ below = (above ++ indent) ++ (directive ++ below) := by simp
  have hzero : indent.count '\n' = 0 := List.count_eq_zero.2 fun hmem => (isInlineSpace_iff.1 (hindent _ hmem)).1 rfl
  refine ⟨(above ++ indent).length, value, ⟨_, directive, below, hsplit, rfl, hdirective, hbelow⟩, ?_, ?_⟩
  · rw [hsplit, List.take_left]
    exact ⟨above, indent, rfl, habove, hindent⟩
  · rw [hsplit, List.take_left, List.count_append, hzero, Nat.add_zero]

/-- **Which directives are passed over.**  A line that is a directive is found by the scan if and only if no enum that
is found stands over it.  So its name is in the table if and only if that is so, or something else that is found gives
it. -/
theorem directive_found_iff (filter : DefineFilter) {t name line : Text} {k : Nat}
    (hline : (Text.lines (bareText t))[k]? = some line) (h : DirectiveLine name line) :
    ∃ i value, DirectiveAt (bareText t) i name value ∧ OpensLine ((bareText t).take i) ∧
      ((bareText t).take i).count '\n' = k ∧
      ((i, .define name value) ∈ scanAt definition? (bareText t) ↔ ¬EnumOver (bareText t) k) ∧
      (name ∈ (DefineTable.ofSource filter t).expressions.map Prod.fst ↔ ¬EnumOver (bareText t) k ∨
        ∃ e ∈ scanAt definition? (bareText t), e.1 ≠ i ∧ name ∈ e.2.elements.map Prod.fst) := by
  obtain ⟨i, value, hat, hopens, rfl⟩ := h.exists_directiveAt hline
  have hfound := hat.mem_scanAt_iff hopens
  refine ⟨i, value, hat, hopens, rfl, hfound, ?_⟩
  rw [DefineTable.mem_names_ofSource]
  constructor
  · rintro ⟨⟨j, d⟩, he, hname⟩
    by_cases hplace : j = i
    · -- Something is found at the place, and an enum over the line would keep it from that.
      subst hplace
      exact .inl fun hover => not_mem_scanAt_of_enumOver hopens hover he
    · exact .inr ⟨_, he, hplace, hname⟩
  · rintro (hfree | ⟨e, he, -, hname⟩)
    · exact ⟨_, hfound.2 hfree, by simp [Definition.elements]⟩
    · exact ⟨e, he, hname⟩

/-- A macro that mentions an enum, and behind it a directive and a function. -/
def castMacro : Text :=
  "#define PAINT(c) paint((enum Color)(c))\n#define RED 1\nvoid f(void) \x7b\n\x7d\n".toList

theorem castMacro_line : (Text.lines (bareText castMacro))[1]? = some "#define RED 1".toList := by decide

theorem castMacro_directive : DirectiveLine "RED".toList "#define RED 1".toList :=
  directiveLine_of_read (by decide : defineDirective? _ = some ((_, "1".toList), []))

theorem castMacro_names :
    "RED".toList ∉ (DefineTable.ofSource (.names []) castMacro).expressions.map Prod.fst := by decide +kernel

/-- **A directive on a line of its own may give no name to the table**: what is read as an enum begins with the mention
in the macro and reaches to the end of the function. -/
theorem directive_passedOver : ∃ (k : Nat) (name line : Text), (Text.lines (bareText castMacro))[k]? = some line ∧
    DirectiveLine name line ∧ name ∉ (DefineTable.ofSource (.names []) castMacro).expressions.map Prod.fst :=
  ⟨1, _, _, castMacro_line, castMacro_directive, castMacro_names⟩

/-- The line that is passed over stands between what is read as an enum and its closing brace. -/
theorem directive_found_castMacro : EnumOver (bareText castMacro) 1 := by
  obtain ⟨_, _, -, -, -, -, hname⟩ := directive_found_iff (.names []) castMacro_line castMacro_directive
  by_contra hfree
  exact castMacro_names (hname.2 (.inl hfree))

end GameSource
