import GameSource.Proofs.Asm.Bare
import GameSource.Proofs.Members
import GameSource.Proofs.Text.Runs
import Mathlib.Data.List.Nodup
/-!
# Blocks of rows

Labels that follow one another are a stack, and the macros behind them belong to every label of the stack.  From the
first label on, rows are such blocks, one after the other (`Blocks`, `exists_blocks`).  The search for a label of which
there is only one finds the macros of its block (`macrosUnder_block`), so searches for one label of each block take the
rows apart (`macrosUnder_blocks`).
-/
namespace GameSource.Asm

/-- What a line gives: a row with a first word, and with a name if it is a label. -/
def IsNamed (row : Row) : Prop := row ≠ [] ∧ (isLabel row → row.tail ≠ [])

instance (row : Row) : Decidable (IsNamed row) := inferInstanceAs (Decidable (_ ∧ _))

def label? (row : Row) : Option Text := if isLabel row then row.tail.head? else none

/-- The labels of rows in order. -/
def labels (rs : List Row) : List Text := rs.filterMap label?

def fromLabel (rs : List Row) : List Row := rs.dropWhile (!isLabel ·)

/-- A stack of labels, and the macros under it. -/
structure Block where
  stack : List Row
  macros : List Row
  nonempty : stack ≠ []
  stacked : ∀ row ∈ stack, isLabel row
  unlabelled : ∀ row ∈ macros, isLabel row = false

namespace Block

def rows (b : Block) : List Row := b.stack ++ b.macros

def labels (b : Block) : List Text := Asm.labels b.stack

end Block

/-- **The rows are the blocks**, one after the other.  Under every stack but the last one there are macros: without them
the next stack would go on with it. -/
inductive Blocks : List Row → List Block → Prop where
  | nil : Blocks [] []
  | last (b : Block) : Blocks b.rows [b]
  | cons (b : Block) {rs : List Row} {bs : List Block} (hne : b.macros ≠ []) (hs : Blocks rs bs) :
      Blocks (b.rows ++ rs) (b :: bs)

/-! ## Cutting rows into blocks -/

namespace Blocks

variable {rs : List Row} {bs : List Block}

theorem head? (h : Blocks rs bs) : ∀ row ∈ rs.head?, isLabel row := by
  have hblock (b : Block) (rest : List Row) : ∀ row ∈ (b.rows ++ rest).head?, isLabel row := by
    obtain ⟨first, stack, hstack⟩ := List.exists_cons_of_ne_nil b.nonempty
    rw [Block.rows, hstack]
    intro row hrow
    obtain rfl : first = row := by simpa using hrow
    exact b.stacked first (by simp [hstack])
  cases h with
  | nil => simp
  | last b => simpa using hblock b []
  | cons b _ _ => exact hblock b _

/-- Behind a block without macros there is nothing, behind any other a label or nothing. -/
theorem split (h : Blocks rs bs) : ∀ b ∈ bs, ∃ before after, rs = before ++ (b.stack ++ (b.macros ++ after)) ∧
    (b.macros = [] → after = []) ∧ ∀ row ∈ after.head?, isLabel row := by
  induction h with
  | nil => simp
  | last b =>
    intro b' hb
    obtain rfl := List.mem_singleton.1 hb
    exact ⟨[], [], by simp [Block.rows], fun _ => rfl, by simp⟩
  | @cons b rs bs hne hs ih =>
    intro b' hb
    rcases List.mem_cons.1 hb with rfl | hb
    · exact ⟨[], rs, by simp [Block.rows], fun hnil => absurd hnil hne, hs.head?⟩
    · obtain ⟨before, after, rfl, hend, hafter⟩ := ih b' hb
      exact ⟨b.rows ++ before, after, by simp, hend, hafter⟩

/-- A label in front of blocks goes on the first stack. -/
theorem push {row : Row} (hrow : isLabel row) (h : Blocks rs bs) : ∃ bs', Blocks (row :: rs) bs' := by
  have hpush (b : Block) : ∃ b' : Block, b'.rows = row :: b.rows ∧ b'.macros = b.macros :=
    ⟨⟨row :: b.stack, b.macros, by simp, List.forall_mem_cons.2 ⟨hrow, b.stacked⟩, b.unlabelled⟩, rfl, rfl⟩
  cases h with
  | nil => exact ⟨_, .last ⟨[row], [], by simp, by simpa using hrow, by simp⟩⟩
  | last b =>
    obtain ⟨b', hrows, -⟩ := hpush b
    exact ⟨[b'], hrows ▸ .last b'⟩
  | @cons b rs bs hne hs =>
    obtain ⟨b', hrows, hmacros⟩ := hpush b
    refine ⟨b' :: bs, ?_⟩
    rw [← List.cons_append, ← hrows]
    exact .cons b' (hmacros ▸ hne) hs

end Blocks

/-- **From the first label on, rows can be cut into blocks.** -/
theorem exists_blocks (rs : List Row) : ∃ bs, Blocks (fromLabel rs) bs := by
  have hcut : ∃ before behind bs, rs = before ++ behind ∧ (∀ row ∈ before, isLabel row = false) ∧ Blocks behind bs := by
    induction rs with
    | nil => exact ⟨[], [], [], rfl, by simp, .nil⟩
    | cons row rs ih =>
      obtain ⟨before, behind, bs, rfl, hbefore, hs⟩ := ih
      by_cases hrow : isLabel row
      · cases before with
        | nil =>
          obtain ⟨bs', hs'⟩ := hs.push hrow
          exact ⟨[], row :: behind, bs', rfl, by simp, hs'⟩
        | cons first before =>
          -- The macros that stand in front of the blocks get a stack of their own.
          let b : Block := ⟨[row], first :: before, by simp, by simpa using hrow, hbefore⟩
          exact ⟨[], b.rows ++ behind, b :: bs, rfl, by simp, .cons b (by simp [b]) hs⟩
      · have hdata : isLabel row = false := by simpa using hrow
        exact ⟨row :: before, behind, bs, rfl, List.forall_mem_cons.2 ⟨hdata, hbefore⟩, hs⟩
  obtain ⟨before, behind, bs, rfl, hbefore, hs⟩ := hcut
  have hrun : ∀ row ∈ before, (!isLabel row) = true := fun row hrow => by simp [hbefore row hrow]
  have hstops : Stops (!isLabel ·) behind := fun row hrow => by simp [hs.head? row hrow]
  rw [fromLabel, dropWhile_run hrun hstops]
  exact ⟨bs, hs⟩

/-! ## The search for a label -/

section
variable {label : Text} {row : Row}

theorem label?_of_isNamed (h : IsNamed row) (hlabel : isLabel row) : ∃ name more, row = labelMark :: name :: more ∧
    label? row = some name := by
  have hhead : row.head? = some labelMark := eq_of_beq hlabel
  cases row with
  | nil => cases hhead
  | cons mark params =>
    obtain rfl : mark = labelMark := Option.some.inj hhead
    obtain ⟨name, more, rfl⟩ := List.exists_cons_of_ne_nil (h.2 hlabel)
    exact ⟨name, more, rfl, if_pos hlabel⟩

theorem macrosFrom_data (h : isLabel row = false) (inside found : Bool) (rest : List Row) :
    macrosFrom label inside found (row :: rest) =
      if inside then (macrosFrom label true true rest).map (row :: ·) else macrosFrom label inside found rest := by
  have hhead : row.head? ≠ some labelMark := by simpa [isLabel] using h
  rw [macrosFrom, if_neg hhead]
  cases inside <;> rfl

theorem macrosFrom_label (h : IsNamed row) (hlabel : isLabel row) (inside found : Bool) (rest : List Row) :
    macrosFrom label inside found (row :: rest) =
      if label? row = some label then macrosFrom label true found rest
      else if inside && found then .ok [] else macrosFrom label inside found rest := by
  obtain ⟨name, more, rfl, hname⟩ := label?_of_isNamed h hlabel
  rw [macrosFrom, if_pos List.head?_cons, hname]
  simp only [List.tail_cons, Option.some.injEq]

theorem macrosFrom_before (rest : List Row) : ∀ {before : List Row}, (∀ row ∈ before, IsNamed row) →
    label ∉ labels before → macrosFrom label false false (before ++ rest) = macrosFrom label false false rest
  | [], _, _ => rfl
  | row :: before, hnamed, hlabel => by
    obtain ⟨hrow, hnamed⟩ := List.forall_mem_cons.1 hnamed
    have hskip : macrosFrom label false false (row :: (before ++ rest)) =
        macrosFrom label false false (before ++ rest) := by
      cases h : isLabel row with
      | false => rw [macrosFrom_data h, if_neg Bool.false_ne_true]
      | true =>
        have hother : label? row ≠ some label := fun heq => hlabel (by simp [labels, heq])
        rw [macrosFrom_label hrow h, if_neg hother, Bool.false_and, if_neg Bool.false_ne_true]
    rw [List.cons_append, hskip]
    refine macrosFrom_before rest hnamed fun hmem => hlabel ?_
    obtain ⟨row', hrow', heq⟩ := List.mem_filterMap.1 hmem
    exact List.mem_filterMap.2 ⟨row', List.mem_cons_of_mem _ hrow', heq⟩

theorem macrosFrom_stack (rest : List Row) : ∀ {stack : List Row}, (∀ row ∈ stack, IsNamed row) →
    (∀ row ∈ stack, isLabel row) → macrosFrom label true false (stack ++ rest) = macrosFrom label true false rest
  | [], _, _ => rfl
  | row :: stack, hnamed, hstack => by
    obtain ⟨hrow, hnamed⟩ := List.forall_mem_cons.1 hnamed
    obtain ⟨hlabel, hstack⟩ := List.forall_mem_cons.1 hstack
    rw [List.cons_append, macrosFrom_label hrow hlabel, Bool.and_false, if_neg Bool.false_ne_true, ite_self,
      macrosFrom_stack rest hnamed hstack]

theorem macrosFrom_macros {answer : List Row} {rest : List Row} (hrest : macrosFrom label true true rest = .ok answer) :
    ∀ {macros : List Row}, (∀ row ∈ macros, isLabel row = false) →
      macrosFrom label true true (macros ++ rest) = .ok (macros ++ answer)
  | [], _ => hrest
  | row :: macros, h => by
    obtain ⟨hrow, h⟩ := List.forall_mem_cons.1 h
    rw [List.cons_append, macrosFrom_data hrow, if_pos rfl, macrosFrom_macros hrest h]
    rfl

theorem macrosFrom_end {after : List Row} (hnamed : ∀ row ∈ after, IsNamed row)
    (hhead : ∀ row ∈ after.head?, isLabel row) (hlabel : label ∉ labels after) :
    macrosFrom label true true after = .ok [] := by
  cases after with
  | nil => rfl
  | cons row after =>
    have hother : label? row ≠ some label := fun heq => hlabel (by simp [labels, heq])
    rw [macrosFrom_label (hnamed row (by simp)) (hhead row rfl), if_neg hother, Bool.and_self, if_pos rfl]

end

/-! ## The macros under a label -/

section
variable {rs : List Row} {label : Text}

theorem macrosUnder_absent (hnamed : ∀ row ∈ rs, IsNamed row) (h : label ∉ labels rs) :
    macrosUnder rs label = .ok [] := by
  have hend := macrosFrom_before [] hnamed h
  rwa [List.append_nil] at hend

/-- **The macros under a label** are those behind its stack, if there is no other label of the same name. -/
theorem macrosUnder_stack {before stack macros after : List Row} (hrs : rs = before ++ (stack ++ (macros ++ after)))
    (hnamed : ∀ row ∈ rs, IsNamed row) (hdistinct : (labels rs).Nodup) (hstack : ∀ row ∈ stack, isLabel row)
    (hmacros : ∀ row ∈ macros, isLabel row = false) (hend : macros = [] → after = [])
    (hafter : ∀ row ∈ after.head?, isLabel row) (hlabel : label ∈ labels stack) :
    macrosUnder rs label = .ok macros := by
  obtain ⟨row, hrow, hname⟩ := List.mem_filterMap.1 hlabel
  obtain ⟨above, below, rfl⟩ := List.append_of_mem hrow
  obtain rfl : rs = before ++ above ++ row :: (below ++ (macros ++ after)) := by simpa using hrs
  have hlabels : labels (before ++ above ++ row :: (below ++ (macros ++ after))) =
      labels (before ++ above) ++ label :: (labels below ++ (labels macros ++ labels after)) := by
    simp [labels, hname]
  rw [hlabels, List.nodup_middle, List.nodup_cons] at hdistinct
  simp only [List.mem_append, not_or] at hdistinct
  obtain ⟨⟨hbefore, -, -, hbehind⟩, -⟩ := hdistinct
  simp only [List.forall_mem_append, List.forall_mem_cons] at hnamed hstack
  obtain ⟨hfront, hrow, hbelow, -, hnamed⟩ := hnamed
  rw [macrosUnder, macrosFrom_before _ (List.forall_mem_append.2 hfront) hbefore, macrosFrom_label hrow hstack.2.1,
    if_pos hname, macrosFrom_stack _ hbelow hstack.2.2]
  cases macros with
  | nil =>
    rw [hend rfl]
    rfl
  | cons first macros =>
    obtain ⟨hfirst, hmacros⟩ := List.forall_mem_cons.1 hmacros
    have hanswer := macrosFrom_macros (macrosFrom_end hnamed hafter hbehind) hmacros
    rw [List.cons_append, macrosFrom_data hfirst, if_pos rfl, hanswer, List.append_nil]
    rfl

theorem fromLabel_split (rs : List Row) : ∃ lead, rs = lead ++ fromLabel rs ∧ ∀ row ∈ lead, isLabel row = false := by
  refine ⟨rs.takeWhile (!isLabel ·), List.takeWhile_append_dropWhile.symm, fun row hrow => ?_⟩
  simpa using List.all_eq_true.1 List.all_takeWhile row hrow

variable {bs : List Block}

theorem macrosUnder_block (hnamed : ∀ row ∈ rs, IsNamed row) (hdistinct : (labels rs).Nodup)
    (hs : Blocks (fromLabel rs) bs) {b : Block} (hb : b ∈ bs) (hlabel : label ∈ b.labels) :
    macrosUnder rs label = .ok b.macros := by
  obtain ⟨lead, hlead, -⟩ := fromLabel_split rs
  obtain ⟨before, after, hsplit, hend, hafter⟩ := hs.split b hb
  have hrs : rs = lead ++ before ++ (b.stack ++ (b.macros ++ after)) := by
    rw [List.append_assoc, ← hsplit]
    exact hlead
  exact macrosUnder_stack hrs hnamed hdistinct b.stacked b.unlabelled hend hafter hlabel

theorem labels_eq_nil (h : ∀ row ∈ rs, isLabel row = false) : labels rs = [] :=
  List.filterMap_eq_nil_iff.2 fun row hrow => by simp [label?, h row hrow]

theorem Block.labels_rows (b : Block) : Asm.labels b.rows = b.labels := by
  have hnone := labels_eq_nil b.unlabelled
  unfold Asm.labels at hnone
  rw [Block.rows, Asm.labels, List.filterMap_append, hnone, List.append_nil]
  rfl

theorem Block.filter_rows (b : Block) : b.rows.filter (!isLabel ·) = b.macros := by
  have hstack : b.stack.filter (!isLabel ·) = [] :=
    List.filter_eq_nil_iff.2 fun row hrow => by simp [b.stacked row hrow]
  have hmacros : b.macros.filter (!isLabel ·) = b.macros :=
    List.filter_eq_self.2 fun row hrow => by simp [b.unlabelled row hrow]
  rw [Block.rows, List.filter_append, hstack, hmacros, List.nil_append]

theorem Blocks.eq_flatMap (h : Blocks rs bs) : rs = bs.flatMap Block.rows := by
  induction h with
  | nil => rfl
  | last b => simp
  | cons b _ _ ih => rw [List.flatMap_cons, ← ih]

/-- **Every label is in a block.** -/
theorem labels_eq_flatMap (hs : Blocks (fromLabel rs) bs) : labels rs = bs.flatMap Block.labels := by
  obtain ⟨lead, hlead, hmacros⟩ := fromLabel_split rs
  have hnone := labels_eq_nil hmacros
  have hblocks : (bs.flatMap Block.rows).filterMap label? = bs.flatMap Block.labels := by
    rw [List.filterMap_flatMap]
    exact congrArg (bs.flatMap ·) (funext Block.labels_rows)
  unfold labels at hnone ⊢
  rw [hlead, List.filterMap_append, hnone, hs.eq_flatMap, hblocks, List.nil_append]

/-- **Every macro from the first label on is in one block.** -/
theorem Blocks.flatten_macros (h : Blocks rs bs) : (bs.map Block.macros).flatten = rs.filter (!isLabel ·) := by
  rw [h.eq_flatMap, List.filter_flatMap, ← List.flatMap_def]
  exact congrArg (bs.flatMap ·) (funext fun b => b.filter_rows.symm)

/-- **The search for labels takes the rows apart.**  From the first label on, rows are blocks: stacks of labels, each
with the macros up to the next one.  Under a label are the macros of its block, and none under a label that there is
not.  So the macros under one label of each block are the macros from the first label on, each of them once. -/
theorem macrosUnder_blocks (hnamed : ∀ row ∈ rs, IsNamed row) (hdistinct : (labels rs).Nodup) :
    (∃ bs, Blocks (fromLabel rs) bs) ∧
    (∀ bs, Blocks (fromLabel rs) bs → labels rs = bs.flatMap Block.labels ∧
      (∀ b ∈ bs, ∀ label ∈ b.labels, macrosUnder rs label = .ok b.macros) ∧
      ∀ chosen, List.Forall₂ (fun b label => label ∈ b.labels) bs chosen → ∃ found,
        chosen.mapM (macrosUnder rs) = .ok found ∧ found.flatten = (fromLabel rs).filter (!isLabel ·)) ∧
    ∀ label, label ∉ labels rs → macrosUnder rs label = .ok [] := by
  refine ⟨exists_blocks rs, fun bs hs => ⟨labels_eq_flatMap hs, fun b hb label hlabel => ?_, fun chosen hchosen => ?_⟩,
    fun label hlabel => macrosUnder_absent hnamed hlabel⟩
  · exact macrosUnder_block hnamed hdistinct hs hb hlabel
  · have hof := (List.forall₂_and_left bs chosen).2 ⟨fun b hb => hb, hchosen⟩
    refine ⟨bs.map Block.macros, mapM_eq_ok_iff.2 (List.forall₂_map_right_iff.2 (.flip ?_)), hs.flatten_macros⟩
    exact hof.imp fun b label h => macrosUnder_block hnamed hdistinct hs h.1 h.2

end

/-- A macro before all labels, two macros under two labels, and a label at the end. -/
def stackedRows : List Row :=
  [["end".toList], [labelMark, "gFoo".toList], [labelMark, "gBar".toList], ["m".toList, "1".toList], ["n".toList],
    [labelMark, "gEnd".toList]]

theorem macrosUnder_blocks_stacked : (∀ row ∈ stackedRows, IsNamed row) ∧ (labels stackedRows).Nodup ∧
    macrosUnder stackedRows "gFoo".toList = .ok [["m".toList, "1".toList], ["n".toList]] ∧
    (∃ found, ["gBar".toList, "gEnd".toList].mapM (macrosUnder stackedRows) = .ok found ∧
      found.flatten = [["m".toList, "1".toList], ["n".toList]]) ∧
    macrosUnder stackedRows "gNone".toList = .ok [] := by
  have hnamed : ∀ row ∈ stackedRows, IsNamed row := by decide
  have hdistinct : (labels stackedRows).Nodup := by decide
  let b : Block := ⟨[[labelMark, "gFoo".toList], [labelMark, "gBar".toList]], [["m".toList, "1".toList], ["n".toList]],
    by decide, by decide, by decide⟩
  let b' : Block := ⟨[[labelMark, "gEnd".toList]], [], by decide, by decide, by decide⟩
  have hs : Blocks (fromLabel stackedRows) [b, b'] := .cons b (by decide) (.last b')
  obtain ⟨-, hblocks, habsent⟩ := macrosUnder_blocks hnamed hdistinct
  obtain ⟨-, hunder, hchosen⟩ := hblocks _ hs
  refine ⟨hnamed, hdistinct, hunder b (by simp) _ (by decide), ?_, habsent _ (by decide)⟩
  exact hchosen _ (.cons (by decide) (.cons (by decide) .nil))

end GameSource.Asm
