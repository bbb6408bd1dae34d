import GameSource.Proofs.Table.Printed
import GameSource.Table.Indexed
/-!
# Printed tables with named indices are read back

The rows of a table are read once the white space is out of them (`SpellsIndexed.filter`).  Then a row is its index in
brackets, an equals sign and its value, and it ends where the word of the value does (`indexedRow?_solid`), also if
index and value are empty.  So whatever white space a table is printed with, its rows are read back in order
(`indexedArray_spells`).
-/
namespace GameSource

namespace Table

/-- An index and a value that a row can have: words of ASCII characters, both of them possibly empty, and before the
value an address sign or not. -/
structure IsIndexed (e : Text × Text) : Prop where
  index : ∀ c ∈ e.1, isAsciiWord c
  value : ∃ sign word, e.2 = sign ++ word ∧ (sign = [] ∨ sign = ['&']) ∧ ∀ c ∈ word, isAsciiWord c

inductive SpellsIndexed : Text × Text → Text → Prop where
  | mk {index value left right before behind : Text} (h : IsIndexed (index, value)) (hl : IsSpacing left)
      (hr : IsSpacing right) (hb : IsSpacing before) (hv : IsSpacing behind) :
      SpellsIndexed (index, value)
        ('[' :: (left ++ (index ++ (right ++ ']' :: (before ++ '=' :: (behind ++ value))))))

/-- A row without white space. -/
def SolidRow (e : Text × Text) (p : Text) : Prop := IsIndexed e ∧ p = '[' :: (e.1 ++ ']' :: '=' :: e.2)

/-- **The text begins with the table of the label**, after white space or not, and anything may stand behind it. -/
inductive SpellsTable (label : Text) : List (Text × Text) → Text → Prop where
  | mk {es : List (Text × Text)} {lead gap inner before behind body rest : Text} (hlead : IsSpacing lead)
      (hlabel : IsLabel label) (hg : IsSpacing gap) (hi : IsSpacing inner) (hb : IsSpacing before)
      (hv : IsSpacing behind) (hs : Listed SpellsIndexed es body) :
      SpellsTable label es (lead ++ (label ++ (gap ++ '[' :: (inner ++ ']' ::
        (before ++ '=' :: (behind ++ '\x7b' :: (body ++ '\x7d' :: rest)))))))

/-! ## Rows -/

theorem filter_word {w : Text} (h : ∀ c ∈ w, isAsciiWord c) : w.filter (!isSpace ·) = w :=
  List.filter_eq_self.2 fun c hc => by simp [isSpace_of_isAsciiWord (h c hc)]

theorem IsIndexed.filter_value {e : Text × Text} (h : IsIndexed e) : e.2.filter (!isSpace ·) = e.2 := by
  obtain ⟨sign, word, heq, hsign, hword⟩ := h.value
  rw [heq, List.filter_append, filter_word hword]
  rcases hsign with rfl | rfl <;> rfl

/-- **Without its white space a row is solid.** -/
theorem SpellsIndexed.filter {e : Text × Text} {p : Text} (h : SpellsIndexed e p) :
    SolidRow e (p.filter (!isSpace ·)) := by
  cases h with
  | @mk index value left right before behind h hl hr hb hv =>
    refine ⟨h, ?_⟩
    have hkept {c : Char} (hc : isSpace c = false) (t : Text) :
        (c :: t).filter (!isSpace ·) = c :: t.filter (!isSpace ·) := List.filter_cons_of_pos (by simp [hc])
    have hvalue : value.filter (!isSpace ·) = value := h.filter_value
    simp only [hkept (by decide : isSpace '[' = false), hkept (by decide : isSpace ']' = false),
      hkept (by decide : isSpace '=' = false), List.filter_append, hl.filter, hr.filter, hb.filter, hv.filter,
      filter_word h.index, hvalue, List.nil_append]

theorem SpellsIndexed.not_mem {e : Text × Text} {p : Text} (h : SpellsIndexed e p) : '\x7d' ∉ p := by
  cases h with
  | @mk index value left right before behind h hl hr hb hv =>
    obtain ⟨sign, word, hvalue, hsign, hword⟩ := h.value
    have hspacing {gap : Text} (hg : IsSpacing gap) : '\x7d' ∉ gap := hg.not_mem (by decide)
    have hnot {w : Text} (hw : ∀ c ∈ w, isAsciiWord c) : '\x7d' ∉ w := fun hmem => absurd (hw _ hmem) (by decide)
    have hmark : '\x7d' ∉ sign := by rcases hsign with rfl | rfl <;> decide
    obtain rfl : value = sign ++ word := hvalue
    simp [hspacing hl, hnot h.index, hspacing hr, hspacing hb, hspacing hv, hmark, hnot hword]

theorem indexedRow?_eq_none {c : Char} (hc : c ≠ '[') (before : Option Char) (t : Text) :
    indexedRow? before (c :: t) = none := by
  unfold indexedRow?
  split
  · rename_i heq
    exact absurd (List.cons.inj heq).1 hc
  · rfl

theorem EndsItem.stops {t : Text} (h : EndsItem t) {q : Char → Bool} (hspace : ∀ c, isSpace c → q c = false)
    (hcomma : q ',' = false) : Stops q t := fun c hc => by
  rcases h c hc with hs | rfl
  · exact hspace c hs
  · exact hcomma

theorem EndsItem.stops_word {word rest : Text} (h : EndsItem rest) (hword : ∀ c ∈ word, isAsciiWord c) {d : Char}
    (hspace : isSpace d = false) (hcomma : d ≠ ',') (hd : isAsciiWord d = false) : Stops (· == d) (word ++ rest) := by
  have hstops : Stops (· == d) rest :=
    h.stops (fun c hc => by simpa using ne_of_isSpace hc hspace) (by simpa using Ne.symm hcomma)
  refine .append (fun c hc => ?_) hstops
  have hne : c ≠ d := fun heq => by
    rw [← heq, hword c hc] at hd
    cases hd
  simpa using hne

theorem dropOne_of_stops {c : Char} {t : Text} (h : Stops (· == c) t) : Text.dropOne c t = t := by
  cases t with
  | nil => rfl
  | cons d t =>
    have hd : d ≠ c := by simpa using h d rfl
    exact if_neg hd

/-- **A solid row is read** up to its end. -/
theorem indexedRow?_solid {e : Text × Text} {p rest : Text} (h : SolidRow e p) (hrest : EndsItem rest)
    (before : Option Char) : indexedRow? before (p ++ rest) = some (e, rest) := by
  obtain ⟨h, rfl⟩ := h
  obtain ⟨index, value⟩ := e
  obtain ⟨sign, word, hvalue, hsign, hword⟩ := h.value
  obtain rfl : value = sign ++ word := hvalue
  have hindex : ∀ c ∈ index, isAsciiWord c := h.index
  have hend : Stops isAsciiWord rest := hrest.stops (fun _ => isAsciiWord_of_isSpace) (by decide)
  -- Behind the equals sign neither another one nor a further sign comes, even if the value is empty.
  have hequals : (sign ++ (word ++ rest)).dropWhile (· == '=') = sign ++ (word ++ rest) := by
    have hstops : Stops (· == '=') (sign ++ (word ++ rest)) := by
      rcases hsign with rfl | rfl
      · exact hrest.stops_word hword (by decide) (by decide) (by decide)
      · exact .cons (by decide)
    exact @dropWhile_run _ _ [] _ (by simp) hstops
  have hone : Text.dropOne '&' (sign ++ (word ++ rest)) = word ++ rest := by
    rcases hsign with rfl | rfl
    · exact dropOne_of_stops (hrest.stops_word hword (by decide) (by decide) (by decide))
    · rfl
  have hcut : '[' :: (index ++ ']' :: '=' :: (sign ++ word)) ++ rest =
      '[' :: (index ++ ']' :: '=' :: (sign ++ (word ++ rest))) := by simp
  have hlength : (sign ++ (word ++ rest)).take ((sign ++ (word ++ rest)).length - (word ++ rest).length) = sign := by
    rw [List.length_append, Nat.add_sub_cancel, List.take_left]
  rw [hcut, indexedRow?]
  simp only [dropWhile_run hindex (.cons (by decide : isAsciiWord ']' = false)),
    takeWhile_run hindex (.cons (by decide : isAsciiWord ']' = false)), hequals, hone, hlength,
    takeWhile_run hword hend, dropWhile_run hword hend]

/-- **The rows of a body are read back** once the white space is out of it. -/
theorem scan_indexedRows {es : List (Text × Text)} {body : Text} (h : Listed SpellsIndexed es body) :
    scan indexedRow? (body.filter (!isSpace ·)) = es := by
  have hbetween : ∀ c, isSpace c ∨ c = ',' → ∀ before t, indexedRow? before (c :: t) = none := fun c hc =>
    indexedRow?_eq_none (hc.elim (fun hs => ne_of_isSpace hs (by decide)) fun heq => by simp [heq])
  have hsolid := h.filter fun e p => SpellsIndexed.filter
  have hscan := scanBehind_listed (v := id) hsolid hbetween
    (fun e p hp => ⟨by simp [hp.2], fun before rest hrest => indexedRow?_solid hp hrest before⟩) none
  rwa [List.map_id] at hscan

/-! ## Tables -/

theorem labelledBody?_eq_none {label : Text} (hlabel : IsLabel label) {c : Char} (hc : isWord c = false)
    (before : Option Char) (t : Text) : labelledBody? label before (c :: t) = none := by
  refine Option.eq_none_iff_forall_ne_some.2 ?_
  rintro ⟨body, rest⟩ h
  obtain ⟨-, behind, hsplit, -⟩ := (labelledBody?_eq_some hlabel).1 h
  exact hlabel.ne_append hc t behind hsplit

/-- The body of the table is what stands between its braces. -/
theorem head?_scan_labelledBody {label : Text} {es : List (Text × Text)} {t : Text} (h : SpellsTable label es t) :
    ∃ body, Listed SpellsIndexed es body ∧ (scan (labelledBody? label) t).head? = some body := by
  cases h with
  | @mk lead gap inner before behind body rest hlead hlabel hg hi hb hv hs =>
    refine ⟨body, hs, ?_⟩
    have hbody : '\x7d' ∉ body := hs.not_mem (by decide) (by decide) fun e p hp => hp.not_mem
    have hskipped : ']' ∉ gap ++ '[' :: inner := by
      simp [hg.not_mem (by decide : isSpace ']' = false), hi.not_mem (by decide : isSpace ']' = false)]
    have hstart : NoWordBefore (lead.getLast?.or none) := NoWordBefore.spacing (by decide) hlead
    have hgap : Stops isWord (gap ++ '[' :: (inner ++ ']' :: (before ++ '=' :: (behind ++ '\x7b' ::
        (body ++ '\x7d' :: rest))))) := .append (fun c hc => isWord_of_isSpace (hg c hc)) (.cons (by decide))
    have hread : labelledBody? label (lead.getLast?.or none) (label ++ (gap ++ '[' :: (inner ++ ']' ::
        (before ++ '=' :: (behind ++ '\x7b' :: (body ++ '\x7d' :: rest)))))) = some (body, rest) :=
      (labelledBody?_eq_some hlabel).2 ⟨hstart, _, rfl, hgap, .inl ⟨gap ++ '[' :: inner, _, by simp, hskipped,
        before, behind, rfl, hb, hv, hbody⟩⟩
    have hlead' : ∀ c ∈ lead, ∀ before t, labelledBody? label before (c :: t) = none := fun c hc =>
      labelledBody?_eq_none hlabel (isWord_of_isSpace (hlead c hc))
    obtain ⟨c, label, rfl⟩ := List.exists_cons_of_ne_nil hlabel.nonempty
    rw [scan_eq, scanBehind_class hlead']
    exact head?_scanBehind_read hread

/-- **A printed table is read back**, row by row. -/
theorem indexedArray_spells {label : Text} {es : List (Text × Text)} {t : Text} (h : SpellsTable label es t)
    (hdistinct : (es.map Prod.fst).Nodup) : indexedArray t label = es := by
  obtain ⟨body, hs, hbody⟩ := head?_scan_labelledBody h
  rw [indexedArray, hbody]
  simp only [scan_indexedRows hs]
  exact Entries.ofList_of_nodup hdistinct

def spacedRows : List (Text × Text) :=
  [("A".toList, "gA".toList), ([], "&".toList), ("B_2".toList, []), ("t".toList, "&gB".toList)]

def spacedTable : Text := "\tt [ ]\n= \x7b[A] = gA ,[ ]\n=&, [B_2]=,\n[t]= &gB,\n\x7d;\n[A] = 2".toList

/-- A table whose label is an index, too, with an index and values that are empty. -/
theorem indexedArray_spells_spaced : SpellsTable "t".toList spacedRows spacedTable ∧
    (spacedRows.map Prod.fst).Nodup ∧ indexedArray spacedTable "t".toList = spacedRows := by
  have hnone : IsSpacing [] := by decide
  have hspace : IsSpacing [' '] := by decide
  have hline : IsSpacing ['\n'] := by decide
  have hrow {index sign word : Text} (hindex : index.all isAsciiWord) (hsign : sign = [] ∨ sign = ['&'])
      (hword : word.all isAsciiWord) : IsIndexed (index, sign ++ word) :=
    ⟨List.all_eq_true.1 hindex, sign, word, rfl, hsign, List.all_eq_true.1 hword⟩
  have hfirst : IsIndexed ("A".toList, [] ++ "gA".toList) := hrow (by decide) (.inl rfl) (by decide)
  have hsecond : IsIndexed ([], ['&'] ++ []) := hrow (by decide) (.inr rfl) (by decide)
  have hthird : IsIndexed ("B_2".toList, [] ++ []) := hrow (by decide) (.inl rfl) (by decide)
  have hlast : IsIndexed ("t".toList, ['&'] ++ "gB".toList) := hrow (by decide) (.inr rfl) (by decide)
  have hbody : Listed SpellsIndexed spacedRows _ :=
    .cons hnone (.mk hfirst hnone hnone hspace hspace) hspace (.cons hnone (.mk hsecond hspace hnone hline hnone) hnone
      (.cons hspace (.mk hthird hnone hnone hnone hnone) hnone
        (.cons hline (.mk hlast hnone hnone hnone hspace) hnone (.nil hline))))
  have hlabel : IsLabel "t".toList := ⟨by decide, List.all_eq_true.1 rfl⟩
  have htab : IsSpacing ['\t'] := by decide
  have h : SpellsTable "t".toList spacedRows spacedTable := .mk htab hlabel hspace hspace hline hspace hbody
  have hdistinct : (spacedRows.map Prod.fst).Nodup := by decide
  exact ⟨h, hdistinct, indexedArray_spells h hdistinct⟩

end Table

end GameSource
