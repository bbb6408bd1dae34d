import GameSource.Proofs.Table.Printed
/-!
# Printed arrays are read back

An array is printed with its label, a dimension in brackets and its elements between braces.  The words in front of the
label are gone over, since neither brackets nor an equals sign come behind them (`ledByLabel_anyBody`), and what stands
between the braces is never looked at again, whatever labels it has.  So the arrays of a text are read back in order
(`arrays_declared`).
-/
namespace GameSource

namespace Table

/-- A text that an array may have for an element. -/
structure IsElement (e : Text) : Prop where
  ne_nil : e ≠ []
  trimmed : Text.trim e = e
  ofElement : ∀ c ∈ e, isElementChar c

def SpellsElement (e p : Text) : Prop := p = e ∧ IsElement e

inductive SpellsArray : Text × List Text → Text → Prop where
  | mk {label dimension body : Text} {es : List Text} (hlabel : IsLabel label) (hdimension : ']' ∉ dimension)
      (hs : Listed SpellsElement es body) :
      SpellsArray (label, es) ("const u16 ".toList ++
        (label ++ '[' :: (dimension ++ ']' :: ' ' :: '=' :: ' ' :: '\x7b' :: (body ++ ['\x7d']))))

/-! ## Elements -/

theorem elements_append (p t : Text) : elements (p ++ ',' :: t) = elements p ++ elements t := by
  unfold elements
  rw [Text.splitOn_append, List.map_append, List.filter_append]

theorem elements_of_not_mem {p : Text} (h : ',' ∉ p) :
    elements p = [Text.trim p].filter fun e => !e.isEmpty && e.all isElementChar := by
  unfold elements
  rw [Text.splitOn_of_not_mem h, List.map_singleton]

theorem elements_spacing {gap : Text} (h : IsSpacing gap) : elements gap = [] := by
  rw [elements_of_not_mem (h.not_mem (by decide)), trim_of_isSpace h]
  rfl

theorem IsElement.not_mem {e : Text} (h : IsElement e) {c : Char} (hc : isElementChar c = false) : c ∉ e := fun hmem => by
  have helement := h.ofElement c hmem
  rw [hc] at helement
  cases helement

theorem elements_item {left e right : Text} (hl : IsSpacing left) (h : IsElement e) (hr : IsSpacing right) :
    elements (left ++ (e ++ right)) = [e] := by
  have hcomma : ',' ∉ left ++ (e ++ right) := by
    simp [hl.not_mem (by decide : isSpace ',' = false), h.not_mem (by decide : isElementChar ',' = false),
      hr.not_mem (by decide : isSpace ',' = false)]
  have htrim : Text.trim (left ++ (e ++ right)) = e := by
    rw [← List.append_assoc]
    exact trim_around h.trimmed hl hr
  rw [elements_of_not_mem hcomma, htrim]
  refine List.filter_cons_of_pos ?_
  simpa [h.ne_nil] using h.ofElement

/-- **The elements of a printed body are read back.** -/
theorem elements_listed {es : List Text} {body : Text} (h : Listed SpellsElement es body) : elements body = es := by
  induction h with
  | nil hg => exact elements_spacing hg
  | skip hg _ ih => rw [elements_append, elements_spacing hg, ih, List.nil_append]
  | last hl h hr =>
    obtain ⟨rfl, helement⟩ := h
    exact elements_item hl helement hr
  | @cons e es left p right t hl h hr _ ih =>
    obtain ⟨rfl, helement⟩ := h
    have hcut : left ++ (p ++ (right ++ ',' :: t)) = left ++ (p ++ right) ++ ',' :: t := by simp
    rw [hcut, elements_append, elements_item hl helement hr, ih]
    rfl

/-! ## Arrays -/

theorem Braced.not_idle {t body rest : Text} (h : Braced t body rest) : ¬ Idle t := by
  obtain ⟨gap, gap', rfl, hgap, -, -⟩ := h
  intro hidle
  unfold Idle at hidle
  rw [dropWhile_run hgap (.cons (by decide))] at hidle
  exact absurd (hidle '=' rfl) (by decide)

theorem BracedArray.not_idle {t body rest : Text} (h : BracedArray t body rest) : ¬ Idle t := by
  rcases h with h | ⟨gap, dimension, behind, rfl, hgap, -, -⟩
  · exact h.not_idle
  · intro hidle
    unfold Idle at hidle
    rw [dropWhile_run hgap (.cons (by decide))] at hidle
    exact absurd (hidle '[' rfl) (by decide)

theorem ledByLabel_anyBody : LedByLabel anyBody? := .of_reads fun _ _ _ _ h => by
  obtain ⟨hlabel, -, behind, hsplit, -, harray⟩ := anyBody?_eq_some.1 h
  exact ⟨_, behind, hsplit, hlabel, harray.not_idle⟩

/-- **A printed array is found**, and the scan goes on behind it. -/
theorem scanBehind_array {d : Text × List Text} {p : Text} (h : SpellsArray d p) :
    ∃ b, (b.1, elements b.2) = d ∧ ∀ before rest, NoWordBefore before →
      scanBehind anyBody? before (p ++ ';' :: rest) = b :: scanBehind anyBody? (some ';') rest := by
  cases h with
  | @mk label dimension body es hlabel hdimension hs =>
    refine ⟨(label, body), by rw [elements_listed hs], fun before rest _ => ?_⟩
    have htype : IsLabel "u16".toList := ⟨by decide, List.all_eq_true.1 rfl⟩
    have hbody : '\x7d' ∉ body :=
      hs.not_mem (by decide) (by decide) fun e p hp => hp.1 ▸ hp.2.not_mem (by decide)
    let behind := '[' :: (dimension ++ ']' :: ' ' :: '=' :: ' ' :: '\x7b' :: (body ++ ['\x7d']))
    have hbefore : NoWordBefore (some ' ') := by decide
    have hread : anyBody? (some ' ') (label ++ behind ++ ';' :: rest) = some ((label, body), ';' :: rest) := by
      refine anyBody?_eq_some.2 ⟨hlabel, hbefore, behind ++ ';' :: rest, by simp, .cons (by decide), .inr ?_⟩
      refine ⟨[], dimension, ' ' :: '=' :: ' ' :: '\x7b' :: (body ++ '\x7d' :: ';' :: rest), by simp [behind], by simp,
        hdimension, [' '], [' '], rfl, List.all_eq_true.1 rfl, List.all_eq_true.1 rfl, hbody⟩
    have hcut : "const u16 ".toList ++ (label ++ behind) ++ ';' :: rest =
        "const ".toList ++ ("u16".toList ++ ' ' :: (label ++ (behind ++ ';' :: rest))) := by simp
    rw [hcut, ledByLabel_anyBody.type htype hlabel, ← List.append_assoc, scanBehind_read (by simp [behind]) hread,
      scanBehind_skip (ledByLabel_anyBody.other ';' (by decide) _ _)]

/-- **Printed arrays are read back**, in order. -/
theorem arrays_declared {ds : List (Text × List Text)} {t : Text} (h : Declared SpellsArray ds t)
    (hdistinct : (ds.map Prod.fst).Nodup) : arrays t = ds := by
  have hfound : (scan anyBody? t).map (fun e => (e.1, elements e.2)) = ds :=
    map_scanBehind_declared h ledByLabel_anyBody.space (fun d p hd => scanBehind_array hd) none (by decide)
  rw [arrays, hfound, Entries.ofList_of_nodup hdistinct]

def crossedArrays : List (Text × List Text) :=
  [("a".toList, ["b".toList, "F(1 2)".toList]), ("const".toList, []), ("b".toList, ["&a".toList])]

def crossedText : Text :=
  "const u16 a[] = \x7bb, F(1 2)\n,\n\x7d;\nconst u16 const[b = 2] = \x7b \x7d;const u16 b[1] = \x7b\t&a\x7d;\n".toList

/-- Arrays with each other's labels among their elements. -/
theorem arrays_declared_crossed : Declared SpellsArray crossedArrays crossedText ∧
    (crossedArrays.map Prod.fst).Nodup ∧ arrays crossedText = crossedArrays := by
  have hnone : IsSpacing [] := by decide
  have hspace : IsSpacing [' '] := by decide
  have hline : IsSpacing ['\n'] := by decide
  have htab : IsSpacing ['\t'] := by decide
  have helement {e : Text} (hne : e ≠ []) (htrim : Text.trim e = e) (hall : e.all isElementChar) : SpellsElement e e :=
    ⟨rfl, hne, htrim, List.all_eq_true.1 hall⟩
  have hb : SpellsElement "b".toList "b".toList := helement (by decide) (by decide) (by decide)
  have hcall : SpellsElement "F(1 2)".toList "F(1 2)".toList := helement (by decide) (by decide) (by decide)
  have ha : SpellsElement "&a".toList "&a".toList := helement (by decide) (by decide) (by decide)
  have hlabel {w : Text} (hne : w ≠ []) (hall : w.all isAsciiWord) : IsLabel w := ⟨hne, List.all_eq_true.1 hall⟩
  have hfirst : SpellsArray ("a".toList, ["b".toList, "F(1 2)".toList]) _ :=
    .mk (hlabel (by decide) (by decide)) (by decide : ']' ∉ []) (.cons hnone hb hnone (.cons hspace hcall hline (.nil hline)))
  have hsecond : SpellsArray ("const".toList, []) _ :=
    .mk (hlabel (by decide) (by decide)) (by decide : ']' ∉ "b = 2".toList) (.nil hspace)
  have hthird : SpellsArray ("b".toList, ["&a".toList]) _ :=
    .mk (hlabel (by decide) (by decide)) (by decide : ']' ∉ "1".toList) (.last htab ha hnone)
  have h : Declared SpellsArray crossedArrays crossedText :=
    (Declared.cons hnone hfirst (.cons hline hsecond (.cons hnone hthird (.nil hline)))).of_eq (by decide +kernel)
  have hdistinct : (crossedArrays.map Prod.fst).Nodup := by decide
  exact ⟨h, hdistinct, arrays_declared h hdistinct⟩

end Table

end GameSource
