import GameSource.Asm.Row
/-!
# Labels without a name

The rows under a label are looked for up to the label that ends them.  A label row without a name stops the search just
if it is met before that label (`macrosUnder_eq_error_iff`).
-/
namespace GameSource.Asm

def isLabel (row : Row) : Bool := row.head? == some labelMark

def names (label : Text) (row : Row) : Bool := isLabel row && row.tail.head? == some label

/-- Another label is among rows that stand behind data of the label. -/
def leavesData (label : Text) (rs : List Row) : Bool := rs.any fun row => isLabel row && !names label row

/-- Behind the label, the rows go on to data and then to another label. -/
def leavesLabel (label : Text) (rs : List Row) : Bool := leavesData label (rs.dropWhile isLabel)

/-- **The rows go on to the end of the label**: to the label, then to a row of data, and then to another label. -/
def reachesEnd (label : Text) (rs : List Row) : Bool := leavesLabel label (rs.dropWhile (!names label ·))

/-- The rows go on to the end of the label, which has been met if `inside`, and its data if `found`. -/
def reachesEndFrom (label : Text) : (inside found : Bool) → List Row → Bool
  | true, true => leavesData label
  | true, false => leavesLabel label
  | false, _ => reachesEnd label

section
variable {label : Text} {row : Row} {rest : List Row}

theorem reachesEndFrom_data (h : isLabel row = false) (inside found : Bool) :
    reachesEndFrom label inside found (row :: rest) = reachesEndFrom label inside (inside || found) rest := by
  have hname : names label row = false := by simp [names, h]
  cases inside with
  | false => simp [reachesEndFrom, reachesEnd, hname]
  | true => cases found <;> simp [reachesEndFrom, leavesLabel, leavesData, h]

theorem reachesEndFrom_label (h : names label row) {inside found : Bool} (hfound : found → inside) :
    reachesEndFrom label inside found (row :: rest) = reachesEndFrom label true found rest := by
  have hlabel : isLabel row = true := (Bool.and_eq_true_iff.1 h).1
  cases inside with
  | false =>
    obtain rfl : found = false := by simpa using hfound
    simp [reachesEndFrom, reachesEnd, leavesLabel, h, hlabel]
  | true => cases found <;> simp [reachesEndFrom, leavesLabel, leavesData, h, hlabel]

theorem reachesEndFrom_other (hlabel : isLabel row) (h : names label row = false) (inside found : Bool) :
    reachesEndFrom label inside found (row :: rest) = (inside && found || reachesEndFrom label inside found rest) := by
  cases inside with
  | false => simp [reachesEndFrom, reachesEnd, h]
  | true => cases found <;> simp [reachesEndFrom, leavesLabel, leavesData, h, hlabel]

end

/-- A bare label row in `row :: rest` is the row itself or one behind it. -/
theorem exists_bare_cons {p : List Row → Prop} {row : Row} (hrow : row ≠ [labelMark]) (rest : List Row) :
    (∃ before after, row :: rest = before ++ [labelMark] :: after ∧ p before) ↔
      ∃ before after, rest = before ++ [labelMark] :: after ∧ p (row :: before) := by
  constructor
  · rintro ⟨before, after, heq, hp⟩
    cases before with
    | nil => exact absurd (List.cons.inj heq).1 hrow
    | cons r before =>
      obtain ⟨rfl, hrest⟩ := List.cons.inj heq
      exact ⟨before, after, hrest, hp⟩
  · rintro ⟨before, after, rfl, hp⟩
    exact ⟨row :: before, after, rfl, hp⟩

theorem macrosFrom_eq_error_iff (label : Text) (rs : List Row) {inside found : Bool} (hfound : found → inside) :
    macrosFrom label inside found rs = .error .missingName ↔
      ∃ before after, rs = before ++ [labelMark] :: after ∧ reachesEndFrom label inside found before = false := by
  induction rs generalizing inside found with
  | nil => simp [macrosFrom]
  | cons row rest ih =>
    rw [macrosFrom]
    by_cases hlabel : row.head? = some labelMark
    · rw [if_pos hlabel]
      cases row with
      | nil => cases hlabel
      | cons mark params =>
        obtain rfl : mark = labelMark := Option.some.inj hlabel
        cases params with
        | nil =>
          have hstart : reachesEndFrom label inside found [] = false := by cases inside <;> cases found <;> rfl
          exact iff_of_true rfl ⟨[], rest, rfl, hstart⟩
        | cons name more =>
          rw [exists_bare_cons (by simp)]
          simp only [List.tail_cons]
          by_cases hname : name = label
          · have hnames : names label (labelMark :: name :: more) = true := by simp [names, isLabel, hname]
            simp only [if_pos hname, reachesEndFrom_label hnames hfound]
            exact ih fun _ => rfl
          · have hother : names label (labelMark :: name :: more) = false := by simp [names, hname]
            have hmark : isLabel (labelMark :: name :: more) = true := by simp [isLabel]
            simp only [if_neg hname, reachesEndFrom_other hmark hother]
            cases hstate : inside && found with
            | true => simp
            | false => simpa using ih hfound
    · rw [if_neg hlabel]
      have hrow : row ≠ [labelMark] := fun h => hlabel (h ▸ rfl)
      have hdata : isLabel row = false := by simpa [isLabel] using hlabel
      rw [exists_bare_cons hrow]
      simp only [reachesEndFrom_data hdata]
      cases inside with
      | true =>
        have hmap : ((macrosFrom label true true rest).map (row :: ·) = .error .missingName) ↔
            macrosFrom label true true rest = .error .missingName := by
          cases macrosFrom label true true rest <;> simp [Except.map]
        rw [if_pos rfl, hmap]
        exact ih fun _ => rfl
      | false =>
        rw [if_neg Bool.false_ne_true]
        exact ih hfound

/-- **The search under a label is stopped just by a label row without a name before the end of the label.** -/
theorem macrosUnder_eq_error_iff (rs : List Row) (label : Text) : macrosUnder rs label = .error .missingName ↔
    ∃ before after, rs = before ++ [labelMark] :: after ∧ reachesEnd label before = false :=
  macrosFrom_eq_error_iff label rs Bool.false_ne_true.elim

end GameSource.Asm
