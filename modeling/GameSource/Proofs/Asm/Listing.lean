import GameSource.Proofs.Asm.Lines
/-!
# What a listing spells is read

A listing has one row a line: a label and its colons, or a macro and its parameters with commas between them.  Comments,
and lines of nothing else, may stand wherever a line ends, and white space around everything that is not a label.  Such
a listing is read as its rows (`rows_spells`).
-/
namespace GameSource.Asm

/-! ## The spelling of rows -/

/-- What may stand behind a row, or on a line without one: white space, and a comment behind it or not. -/
inductive Remark : Text → Prop where
  | blank {blanks : Text} (h : IsBlank blanks) : Remark blanks
  | comment {blanks body : Text} (h : IsBlank blanks) (hbody : '\n' ∉ body) : Remark (blanks ++ '@' :: body)

/-- No colon, no comment mark and no end of a line is in the text: it can be a label. -/
def IsPlain (t : Text) : Prop := ':' ∉ t ∧ '@' ∉ t ∧ '\n' ∉ t

instance (t : Text) : Decidable (IsPlain t) := inferInstanceAs (Decidable (':' ∉ t ∧ '@' ∉ t ∧ '\n' ∉ t))

/-- The text can be a macro: there is no white space in it. -/
structure IsMacroName (name : Text) : Prop where
  ne_nil : name ≠ []
  solid : name.any isSpace = false
  plain : IsPlain name

/-- The text can be a parameter: there is no comma in it, and no white space at its ends. -/
structure IsParameter (p : Text) : Prop where
  ne_nil : p ≠ []
  trimmed : Text.trim p = p
  comma : ',' ∉ p
  plain : IsPlain p

/-- Parameters with commas between them, and white space around the commas or not. -/
inductive SpellsParameters : List Text → Text → Prop where
  | last {p : Text} (h : IsParameter p) : SpellsParameters [p] p
  | cons {p before after t : Text} {ps : List Text} (h : IsParameter p) (hb : IsBlank before) (ha : IsBlank after)
      (hs : SpellsParameters ps t) : SpellsParameters (p :: ps) (p ++ before ++ ',' :: (after ++ t))

/-- A label before one colon or two, or a macro, indented or not, alone or before its parameters. -/
inductive SpellsRow : Row → Text → Prop where
  | label {name colons : Text} (h : IsPlain name) (hc : colons = [':'] ∨ colons = [':', ':']) :
      SpellsRow [labelMark, name] (name ++ colons)
  | bare {indent name : Text} (hi : IsBlank indent) (h : IsMacroName name) : SpellsRow [name] (indent ++ name)
  | parameters {indent name gap t : Text} {ps : List Text} (hi : IsBlank indent) (h : IsMacroName name)
      (hg : IsBlank gap) (hne : gap ≠ []) (hs : SpellsParameters ps t) :
      SpellsRow (name :: ps) (indent ++ (name ++ (gap ++ t)))

/-- **The lines spell the rows in order**, each with a remark behind it or not.  Lines of remarks may stand anywhere; a
line feed at the end of the text is one, of nothing. -/
inductive SpellsRows : List Row → List Text → Prop where
  | nil : SpellsRows [] []
  | remark {w : Text} {rs : List Row} {ls : List Text} (hw : Remark w) (hs : SpellsRows rs ls) : SpellsRows rs (w :: ls)
  | row {r : Row} {t w : Text} {rs : List Row} {ls : List Text} (hr : SpellsRow r t) (hw : Remark w)
      (hs : SpellsRows rs ls) : SpellsRows (r :: rs) ((t ++ w) :: ls)

/-! ## Characters -/

section
variable {t : Text}

theorem IsPlain.append {s : Text} (hs : IsPlain s) (ht : IsPlain t) : IsPlain (s ++ t) := by
  obtain ⟨hcolon, hmark, hfeed⟩ := hs
  obtain ⟨hcolon', hmark', hfeed'⟩ := ht
  simp [IsPlain, hcolon, hmark, hfeed, hcolon', hmark', hfeed']

theorem IsBlank.isPlain (h : IsBlank t) : IsPlain t :=
  ⟨h.not_mem (by decide), h.not_mem (by decide), h.not_mem (by decide)⟩

theorem IsMacroName.not_isSpace (h : IsMacroName t) : ∀ c ∈ t, isSpace c = false := fun c hc => by
  simpa using List.any_eq_false.1 h.solid c hc

theorem SpellsParameters.isPlain {ps : List Text} (h : SpellsParameters ps t) : IsPlain t := by
  induction h with
  | last h => exact h.plain
  | cons h hb ha _ ih =>
    have hcomma : IsPlain [','] := ⟨by decide, by decide, by decide⟩
    exact (h.plain.append hb.isPlain).append (hcomma.append (ha.isPlain.append ih))

end

/-! ## Parameters -/

/-- What is between two commas is a parameter once it is trimmed. -/
theorem SpellsParameters.split {ps : List Text} {t : Text} (h : SpellsParameters ps t) : ∀ {blanks : Text},
    IsBlank blanks → (Text.splitOn ',' (blanks ++ t)).map Text.trim = ps := by
  have hone {blanks p after : Text} (hp : IsParameter p) (hb : IsBlank blanks) (ha : IsBlank after) :
      (Text.splitOn ',' (blanks ++ p ++ after)).map Text.trim = [p] := by
    have hblank {s : Text} (hs : IsBlank s) : ',' ∉ s := hs.not_mem (by decide)
    have hcomma : ',' ∉ blanks ++ p ++ after := by simp [hblank hb, hp.comma, hblank ha]
    rw [Text.splitOn_of_not_mem hcomma, List.map_singleton, trim_around hp.trimmed hb.isSpace ha.isSpace]
  induction h with
  | @last p h =>
    intro blanks hblanks
    have hnone : IsBlank [] := by simp [IsBlank]
    simpa using hone h hblanks hnone
  | @cons p before after t ps h hb ha _ ih =>
    intro blanks hblanks
    have hcut : blanks ++ (p ++ before ++ ',' :: (after ++ t)) = (blanks ++ p ++ before) ++ ',' :: (after ++ t) := by
      simp
    rw [hcut, Text.splitOn_append, List.map_append, hone h hblanks hb, ih ha]
    rfl

/-- Parameters begin and end with no white space. -/
theorem SpellsParameters.stops {ps : List Text} {t : Text} (h : SpellsParameters ps t) :
    t ≠ [] ∧ Stops isSpace t ∧ Stops isSpace t.reverse := by
  induction h with
  | last h => exact ⟨h.ne_nil, stops_of_trim h.trimmed⟩
  | @cons p before after t ps h hb ha _ ih =>
    obtain ⟨hne, -, hlast⟩ := ih
    have hfirst := (stops_of_trim h.trimmed).1
    refine ⟨by simp, ?_, ?_⟩
    · rw [List.append_assoc]
      exact hfirst.append_left h.ne_nil _
    · have hcut : (p ++ before ++ ',' :: (after ++ t)).reverse = t.reverse ++ (p ++ before ++ ',' :: after).reverse := by
        simp
      rw [hcut]
      exact hlast.append_left (by simpa using hne) _

/-! ## Lines -/

theorem Remark.not_mem {w : Text} (h : Remark w) : '\n' ∉ w := by
  cases h with
  | blank h => exact h.isPlain.2.2
  | comment h hbody => simp [h.isPlain.2.2, hbody]

/-- Before its comment a remark is blank. -/
theorem Remark.code {w : Text} (h : Remark w) : IsBlank (code w) := by
  cases h with
  | blank h =>
    rw [← List.append_nil w, code_append h.isPlain.2.1]
    simpa [Asm.code] using h
  | comment h hbody =>
    rw [code_append h.isPlain.2.1]
    simpa [Asm.code] using h

theorem row?_remark {w : Text} (h : Remark w) : row? w = none := by
  rw [row?, if_pos (trim_of_isSpace h.code.isSpace)]

/-- The row of a macro, whatever stands around it. -/
theorem row?_call {indent body w : Text} (hi : IsBlank indent) (hw : Remark w) (hbody : IsPlain body) (hne : body ≠ [])
    (hfirst : Stops isSpace body) (hlast : Stops isSpace body.reverse) : row? (indent ++ body ++ w) =
      some (if (body.dropWhile (!isSpace ·)).isEmpty then [body.takeWhile (!isSpace ·)]
        else body.takeWhile (!isSpace ·) ::
          (Text.splitOn ',' ((body.dropWhile (!isSpace ·)).dropWhile isSpace)).map Text.trim) := by
  have hplain := hi.isPlain.append hbody
  have hcode : code (indent ++ body ++ w) = indent ++ body ++ code w := code_append hplain.2.1 w
  have hlabel : (indent ++ body ++ code w).contains ':' = false := by
    simpa using (hplain.append hw.code.isPlain).1
  have htrim : Text.trim (indent ++ body ++ code w) = body :=
    trim_blanks indent _ hi.isSpace hw.code.isSpace hfirst hlast hne
  rw [row?, hcode, htrim, if_neg hne, rowOfLine, hlabel, htrim]
  rfl

/-- **A row is read from the line that spells it**, whatever is remarked behind it. -/
theorem row?_spells {r : Row} {t w : Text} (h : SpellsRow r t) (hw : Remark w) : row? (t ++ w) = some r := by
  cases h with
  | @label name colons h hc =>
    have hmark : '@' ∉ name ++ colons := by rcases hc with rfl | rfl <;> simp [h.2.1]
    have hrun : ∀ c ∈ name, (c != ':') = true := fun c hc => by simpa using fun heq : c = ':' => h.1 (heq ▸ hc)
    obtain ⟨more, hcolons⟩ : ∃ more, colons = ':' :: more := by rcases hc with rfl | rfl <;> exact ⟨_, rfl⟩
    have hcode : code (name ++ colons ++ w) = name ++ ':' :: (more ++ code w) := by
      rw [code_append hmark, hcolons]
      simp
    have hcolon : ':' ∈ code (name ++ colons ++ w) := by
      rw [hcode]
      simp
    rw [row?_label hcolon, hcode, takeWhile_run hrun (.cons (by simp))]
  | @bare indent name hi h =>
    have hspaces : ∀ c ∈ name, isSpace c = false := h.not_isSpace
    have hrun : ∀ c ∈ name, (!isSpace c) = true := fun c hc => by simp [hspaces c hc]
    have htake : name.takeWhile (!isSpace ·) = name := by simpa using takeWhile_run hrun (.nil _)
    have hdrop : name.dropWhile (!isSpace ·) = [] := by simpa using dropWhile_run hrun (.nil _)
    have hlast : Stops isSpace name.reverse := .of_all fun c hc => hspaces c (List.mem_reverse.1 hc)
    rw [row?_call hi hw h.plain h.ne_nil (.of_all hspaces) hlast, htake, hdrop]
    rfl
  | @parameters indent name gap t ps hi h hg hne hs =>
    have hbody := h.plain.append (hg.isPlain.append hs.isPlain)
    have hspaces : ∀ c ∈ name, isSpace c = false := h.not_isSpace
    obtain ⟨hparameters, hfirst, hlast⟩ := hs.stops
    have hhead : Stops isSpace (name ++ (gap ++ t)) := (Stops.of_all hspaces).append_left h.ne_nil _
    have hend : Stops isSpace (name ++ (gap ++ t)).reverse := by
      have hreverse : (name ++ (gap ++ t)).reverse = t.reverse ++ (name ++ gap).reverse := by simp
      rw [hreverse]
      exact hlast.append_left (by simpa using hparameters) _
    have hrun : ∀ c ∈ name, (!isSpace c) = true := fun c hc => by simp [hspaces c hc]
    have hgap : Stops (!isSpace ·) (gap ++ t) :=
      (Stops.of_all fun c hc => by simp [hg.isSpace c hc]).append_left hne t
    have hsplit : (Text.splitOn ',' ([] ++ t)).map Text.trim = ps := hs.split (by simp [IsBlank])
    rw [row?_call hi hw hbody (by simp [h.ne_nil]) hhead hend, takeWhile_run hrun hgap, dropWhile_run hrun hgap,
      dropWhile_run hg.isSpace hfirst, ← List.nil_append t, hsplit]
    simp [hne]

theorem SpellsRow.not_mem {r : Row} {t : Text} (h : SpellsRow r t) : '\n' ∉ t := by
  cases h with
  | @label name colons h hc => rcases hc with rfl | rfl <;> simp [h.2.2]
  | bare hi h => exact (hi.isPlain.append h.plain).2.2
  | parameters hi h hg hne hs => exact (hi.isPlain.append (h.plain.append (hg.isPlain.append hs.isPlain))).2.2

/-! ## Listings -/

theorem SpellsRows.filterMap {rs : List Row} {ls : List Text} (h : SpellsRows rs ls) : ls.filterMap row? = rs := by
  induction h with
  | nil => rfl
  | remark hw _ ih => rw [List.filterMap_cons_none (row?_remark hw), ih]
  | row hr hw _ ih => rw [List.filterMap_cons_some (row?_spells hr hw), ih]

theorem SpellsRows.not_mem {rs : List Row} {ls : List Text} (h : SpellsRows rs ls) : ∀ line ∈ ls, '\n' ∉ line := by
  induction h with
  | nil => simp
  | remark hw _ ih =>
    rw [List.forall_mem_cons]
    exact ⟨hw.not_mem, ih⟩
  | row hr hw _ ih =>
    rw [List.forall_mem_cons]
    exact ⟨by simp [hr.not_mem, hw.not_mem], ih⟩

/-- **A listing is read as the rows that its lines spell**, in order. -/
theorem rows_spells {rs : List Row} {ls : List Text} (h : SpellsRows rs ls) : rows (Text.unlines ls) = rs := by
  cases ls with
  | nil =>
    cases h
    rfl
  | cons line ls =>
    rw [rows_eq, Text.lines_unlines h.not_mem (by simp), h.filterMap]

/-- A macro under two labels, with a remark behind every row but the last one. -/
def stackedListing : List Text :=
  ["gFoo::".toList, "  @ a: b".toList, "gBar: @, x".toList, "\t.4byte 1 ,\ta b\t@@ c:".toList, "\tend".toList]

theorem rows_spells_stacked :
    SpellsRows [[labelMark, "gFoo".toList], [labelMark, "gBar".toList], [".4byte".toList, "1".toList, "a b".toList],
      ["end".toList]] stackedListing ∧
    rows (Text.unlines stackedListing) = [[labelMark, "gFoo".toList], [labelMark, "gBar".toList],
      [".4byte".toList, "1".toList, "a b".toList], ["end".toList]] := by
  have hfoo : SpellsRow [labelMark, "gFoo".toList] ("gFoo".toList ++ [':', ':']) :=
    .label (by decide) (.inr rfl)
  have hbar : SpellsRow [labelMark, "gBar".toList] ("gBar".toList ++ [':']) :=
    .label (by decide) (.inl rfl)
  have hone : IsParameter "1".toList := ⟨by decide, by decide, by decide, by decide⟩
  have hlast : IsParameter "a b".toList := ⟨by decide, by decide, by decide, by decide⟩
  have hparameters : SpellsParameters ["1".toList, "a b".toList]
      ("1".toList ++ [' '] ++ ',' :: (['\t'] ++ "a b".toList)) :=
    .cons hone (by decide) (by decide) (.last hlast)
  have hbytes : SpellsRow [".4byte".toList, "1".toList, "a b".toList]
      (['\t'] ++ (".4byte".toList ++ ([' '] ++ ("1".toList ++ [' '] ++ ',' :: (['\t'] ++ "a b".toList))))) :=
    .parameters (by decide) ⟨by decide, by decide, by decide⟩ (by decide) (by simp) hparameters
  have hend : SpellsRow ["end".toList] (['\t'] ++ "end".toList) := .bare (by decide) ⟨by decide, by decide, by decide⟩
  have hnone : Remark [] := .blank (by decide)
  have hline : Remark ([' ', ' '] ++ '@' :: " a: b".toList) := .comment (by decide) (by decide)
  have hbehind : Remark ([' '] ++ '@' :: ", x".toList) := .comment (by decide) (by decide)
  have htwice : Remark (['\t'] ++ '@' :: "@ c:".toList) := .comment (by decide) (by decide)
  have hlisting : SpellsRows _ stackedListing :=
    .row hfoo hnone (.remark hline (.row hbar hbehind (.row hbytes htwice (.row hend hnone .nil))))
  exact ⟨hlisting, rows_spells hlisting⟩

end GameSource.Asm
