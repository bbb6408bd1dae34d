import GameSource.Proofs.Asm.Bare
import GameSource.Proofs.Asm.Lines
/-!
# What the indentation of lines has to say

Macro rows are the same however their lines are indented.  A label row has all that stands before the colon, and so the
white space before the label as well: texts that differ in the indentation of their lines have the same rows just if
they indent the same labels the same way (`rows_reindented_iff`).
-/
namespace GameSource.Asm

/-- The lines are the same behind the white space that each of them begins with. -/
def Reindents (line line' : Text) : Prop := ∃ indent indent' rest,
  IsBlank indent ∧ IsBlank indent' ∧ line = indent ++ rest ∧ line' = indent' ++ rest

/-- **The texts differ at most in the white space at the beginning of their lines.** -/
def Reindented (t t' : Text) : Prop := List.Forall₂ Reindents (Text.lines t) (Text.lines t')

/-- A label row without the white space before its label; any other row as it is. -/
def flushLeft (row : Row) : Row := if isLabel row then row.map Text.trimLeft else row

/-! ## Lines -/

theorem code_indent {indent : Text} (h : IsBlank indent) (rest : Text) :
    code (indent ++ rest) = indent ++ code rest := code_append (h.not_mem (by decide)) rest

theorem mem_code_indent {indent : Text} (h : IsBlank indent) {rest : Text} :
    ':' ∈ code (indent ++ rest) ↔ ':' ∈ code rest := by
  rw [code_indent h, List.mem_append]
  exact or_iff_right (h.not_mem (by decide))

/-- An indented line with a colon is a label with the white space before it. -/
theorem row?_indent_label {indent rest : Text} (h : IsBlank indent) (hcolon : ':' ∈ code rest) :
    row? (indent ++ rest) = some [labelMark, indent ++ (code rest).takeWhile (· != ':')] := by
  have hindent : ∀ c ∈ indent, (c != ':') = true := fun c hc => by
    simpa using fun heq : c = ':' => h.not_mem (by decide) (heq ▸ hc)
  rw [row?_label ((mem_code_indent h).2 hcolon), code_indent h, List.takeWhile_append_of_pos hindent]

/-- A line without a colon is read the same however it is indented. -/
theorem row?_indent {indent rest : Text} (h : IsBlank indent) (hcolon : ':' ∉ code rest) :
    row? (indent ++ rest) = row? rest := by
  refine row?_of_trim (fun hmem => hcolon ((mem_code_indent h).1 hmem)) hcolon ?_
  rw [code_indent h, trim_append h.isSpace]

section
variable {line line' : Text}

theorem row?_reindents_iff (h : Reindents line line') : row? line = row? line' ↔ (':' ∈ code line → line = line') := by
  obtain ⟨indent, indent', rest, hi, hi', rfl, rfl⟩ := h
  rw [mem_code_indent hi]
  by_cases hcolon : ':' ∈ code rest
  · rw [row?_indent_label hi hcolon, row?_indent_label hi' hcolon]
    simp [hcolon]
  · rw [row?_indent hi hcolon, row?_indent hi' hcolon]
    exact iff_of_true rfl fun hmem => absurd hmem hcolon

theorem isSome_row?_reindents (h : Reindents line line') : (row? line).isSome = (row? line').isSome := by
  obtain ⟨indent, indent', rest, hi, hi', rfl, rfl⟩ := h
  by_cases hcolon : ':' ∈ code rest
  · rw [row?_indent_label hi hcolon, row?_indent_label hi' hcolon]
    rfl
  · rw [row?_indent hi hcolon, row?_indent hi' hcolon]

theorem flushLeft_reindents (h : Reindents line line') : (row? line).map flushLeft = (row? line').map flushLeft := by
  obtain ⟨indent, indent', rest, hi, hi', rfl, rfl⟩ := h
  by_cases hcolon : ':' ∈ code rest
  · have hleft {indent : Text} (hi : IsBlank indent) (name : Text) :
        flushLeft [labelMark, indent ++ name] = [labelMark, Text.trimLeft name] := by
      have hmark : isLabel [labelMark, indent ++ name] = true := by simp [isLabel]
      have hname : Text.trimLeft (indent ++ name) = Text.trimLeft name :=
        List.dropWhile_append_of_pos hi.isSpace
      rw [flushLeft, if_pos hmark, List.map_cons, List.map_singleton, hname]
      rfl
    rw [row?_indent_label hi hcolon, row?_indent_label hi' hcolon, Option.map_some, Option.map_some, hleft hi, hleft hi']
  · rw [row?_indent hi hcolon, row?_indent hi' hcolon]

end

/-! ## Texts -/

/-- What two lists give, member by member, is the same just if each pair of members gives the same. -/
theorem filterMap_eq_iff {α β : Type} {f : α → Option β} {as bs : List α}
    (h : List.Forall₂ (fun a b => (f a).isSome = (f b).isSome) as bs) :
    as.filterMap f = bs.filterMap f ↔ List.Forall₂ (fun a b => f a = f b) as bs := by
  induction h with
  | nil => simp
  | @cons a b as bs hab _ ih =>
    rw [List.forall₂_cons, ← ih]
    cases ha : f a with
    | none =>
      have hb : f b = none := by simpa [ha] using hab.symm
      simp [List.filterMap_cons_none, ha, hb]
    | some x =>
      obtain ⟨y, hb⟩ := Option.isSome_iff_exists.1 (hab.symm.trans (by rw [ha]; rfl))
      simp [List.filterMap_cons_some, ha, hb]

/-- **Texts that differ in indentation only have the same rows** just if every label has the same white space before it
in both.  In any case their rows are the same up to the white space before labels. -/
theorem rows_reindented_iff {t t' : Text} (h : Reindented t t') :
    (rows t = rows t' ↔
      List.Forall₂ (fun line line' => ':' ∈ code line → line = line') (Text.lines t) (Text.lines t')) ∧
    (rows t).map flushLeft = (rows t').map flushLeft := by
  have hread := h.imp fun _ _ => isSome_row?_reindents
  constructor
  · rw [rows_eq, rows_eq, filterMap_eq_iff hread]
    exact ⟨h.mp fun _ _ hline hrow => (row?_reindents_iff hline).1 hrow,
      h.mp fun _ _ hline hlabel => (row?_reindents_iff hline).2 hlabel⟩
  · have hleft := h.imp fun _ _ => flushLeft_reindents
    rw [rows_eq, rows_eq, List.map_filterMap, List.map_filterMap, filterMap_eq_iff]
    · exact hleft
    · exact hread.imp fun line line' hsome => by rw [Option.isSome_map, Option.isSome_map, hsome]

/-- A label and two macros. -/
def indentedRows : Text := "L: @ x:\n\tm 1 , 2\n\n  end".toList

/-- The same with other white space at the beginning of each line but that of the label. -/
def reindentedRows : Text := "L: @ x:\nm 1 , 2\n \t\n\t\tend".toList

/-- The label stays where it is, so the rows are the same. -/
theorem rows_reindented_macros : Reindented indentedRows reindentedRows ∧ rows indentedRows = rows reindentedRows := by
  have hlines : List.Forall₂ Reindents ["L: @ x:".toList, "\tm 1 , 2".toList, [], "  end".toList]
      ["L: @ x:".toList, "m 1 , 2".toList, " \t".toList, "\t\tend".toList] := by
    refine .cons ⟨[], [], "L: @ x:".toList, ?_⟩ (.cons ⟨['\t'], [], "m 1 , 2".toList, ?_⟩
      (.cons ⟨[], [' ', '\t'], [], ?_⟩ (.cons ⟨[' ', ' '], ['\t', '\t'], "end".toList, ?_⟩ .nil))) <;> decide
  have hlabels : List.Forall₂ (fun line line' => ':' ∈ code line → line = line')
      ["L: @ x:".toList, "\tm 1 , 2".toList, [], "  end".toList]
      ["L: @ x:".toList, "m 1 , 2".toList, " \t".toList, "\t\tend".toList] := by
    refine .cons ?_ (.cons ?_ (.cons ?_ (.cons ?_ .nil))) <;> decide
  have h : Reindented indentedRows reindentedRows := hlines
  exact ⟨h, (rows_reindented_iff h).1.2 hlabels⟩

/-- A space before a label is taken for a part of it, so nothing is found under the label any more. -/
theorem rows_reindented_label : Reindented "L:\n\tend\n".toList " L:\n\tend\n".toList ∧
    rows "L:\n\tend\n".toList = [[labelMark, "L".toList], ["end".toList]] ∧
    rows " L:\n\tend\n".toList = [[labelMark, " L".toList], ["end".toList]] ∧
    macrosUnder (rows "L:\n\tend\n".toList) "L".toList = .ok [["end".toList]] ∧
    macrosUnder (rows " L:\n\tend\n".toList) "L".toList = .ok [] := by
  have hlines : List.Forall₂ Reindents ["L:".toList, "\tend".toList, []] [" L:".toList, "\tend".toList, []] := by
    refine .cons ⟨[], [' '], "L:".toList, ?_⟩ (.cons ⟨[], [], "\tend".toList, ?_⟩ (.cons ⟨[], [], [], ?_⟩ .nil)) <;>
      decide
  exact ⟨hlines, by decide, by decide, by rfl, by rfl⟩

end GameSource.Asm
