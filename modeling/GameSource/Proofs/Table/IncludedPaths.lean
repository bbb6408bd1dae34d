import GameSource.Proofs.Table.Incbin
/-!
# Printed paths of included files are read back

A label stands for one path or, in a group, for a list of them.  What a path has in it makes no difference: no label in
a path has a call behind it, since the parenthesis of the call would stand in the path, too (`labelledIncbin?_path`), and
a group goes on to its semicolon (`scanBehind_labelGroup`).  So all paths are read back (`incbins_declared`).
-/
namespace GameSource

namespace Table

/-- A path that no reader takes for more or less than a path. -/
structure IsPath (path : Text) : Prop where
  quote : '"' ∉ path
  backslash : '\\' ∉ path
  parenthesis : '(' ∉ path
  semicolon : ';' ∉ path

def call (path : Text) : Text := "INCBIN_U32(\"".toList ++ (path ++ "\")".toList)

inductive SpellsIncbin : Text × Text → Text → Prop where
  | mk {label path : Text} (hlabel : IsLabel label) (hpath : IsPath path) :
      SpellsIncbin (label, path) ("const u32 ".toList ++ (label ++ ("[] = ".toList ++ call path)))

def SpellsCall (path p : Text) : Prop := IsPath path ∧ p = call path

inductive SpellsGroup : Text × List Text → Text → Prop where
  | mk {label body : Text} {paths : List Text} (hlabel : IsLabel label) (hs : Listed SpellsCall paths body) :
      SpellsGroup (label, paths) ("const u32 *const ".toList ++ (label ++ ("[] = \x7b".toList ++ (body ++ ['\x7d']))))

/-! ## Calls -/

section
variable {p : Char → Bool}

theorem call_append (path rest : Text) : call path ++ rest =
    "INCBIN_".toList ++ 'U' :: '3' :: '2' :: '(' :: '"' :: (path ++ '"' :: ')' :: rest) := by
  unfold call
  rw [List.append_assoc, List.append_assoc]
  rfl

/-- **A call is read** up to its end. -/
theorem incbinCall?_call (hquote : p '"' = false) {path : Text} (hpath : ∀ c ∈ path, p c) (rest : Text) :
    incbinCall? p (call path ++ rest) = some (path, rest) := by
  have hstops : Stops p ('"' :: ')' :: rest) := .cons hquote
  have hword (behind : Text) : Text.after? "INCBIN_".toList ("INCBIN_".toList ++ behind) = some behind :=
    Text.after?_eq_some.2 rfl
  have hdigit (behind : Text) : ('2' :: behind).head?.any Char.isDigit = true := rfl
  have hopen (behind : Text) : Text.after? ['('] (('2' :: '(' :: '"' :: behind).drop 1) = some ('"' :: behind) := rfl
  have hquoted (behind : Text) : Text.after? ['"'] (('"' :: behind).dropWhile isSpace) = some behind := rfl
  have hclose : Text.after? ['"'] ('"' :: ')' :: rest) = some (')' :: rest) := rfl
  have hend : Text.after? [')'] ((')' :: rest).dropWhile isSpace) = some rest := rfl
  unfold incbinCall?
  rw [call_append, hword]
  simp only [Option.bind_eq_bind, Option.bind_some, hdigit, if_true, hopen, hquoted, dropWhile_run hpath hstops,
    takeWhile_run hpath hstops, hclose, hend]
  rfl

theorem incbinValue?_call (hquote : p '"' = false) {path : Text} (hpath : ∀ c ∈ path, p c) (rest : Text) :
    incbinValue? p ("[] = ".toList ++ (call path ++ rest)) = some (path, rest) :=
  incbinCall?_call hquote hpath rest

end

/-! ## A path for each label -/

section
variable {label : Text} {before : Option Char}

theorem SpellsIncbin.type {d : Text × Text} {p : Text} (h : SpellsIncbin d p) {α : Type} {r : Recognizer α}
    (hr : LedByLabel r) (rest : Text) : scanBehind r before (p ++ ';' :: rest) =
      scanBehind r (some ' ') (d.1 ++ ("[] = ".toList ++ (call d.2 ++ ';' :: rest))) := by
  cases h with
  | @mk label path hlabel hpath =>
    have htype : IsLabel "u32".toList := ⟨by decide, List.all_eq_true.1 rfl⟩
    have hcut : "const u32 ".toList ++ (label ++ ("[] = ".toList ++ call path)) ++ ';' :: rest =
        "const ".toList ++ ("u32".toList ++ ' ' :: (label ++ ("[] = ".toList ++ (call path ++ ';' :: rest)))) := by simp
    rw [hcut, hr.type htype hlabel]

theorem SpellsIncbin.isLabel {d : Text × Text} {p : Text} (h : SpellsIncbin d p) : IsLabel d.1 := by
  cases h with
  | mk hlabel _ => exact hlabel

theorem SpellsIncbin.isPath {d : Text × Text} {p : Text} (h : SpellsIncbin d p) : IsPath d.2 := by
  cases h with
  | mk _ hpath => exact hpath

theorem IsPath.quoteless {path : Text} (h : IsPath path) : ∀ c ∈ path, isQuoteless c := fun c hc => by
  have hne : c ≠ '"' := fun heq => h.quote (heq ▸ hc)
  simpa [isQuoteless] using hne

/-- **A printed path is found with its label**, and the scan goes on behind it. -/
theorem scanBehind_anyIncbin {d : Text × Text} {p : Text} (h : SpellsIncbin d p) (rest : Text) :
    scanBehind anyIncbin? before (p ++ ';' :: rest) = d :: scanBehind anyIncbin? (some ';') rest := by
  obtain ⟨label, path⟩ := d
  have hlabel : IsLabel label := h.isLabel
  have hpath : ∀ c ∈ path, (c != '"' && c != '\\') := fun c hc => by
    have hquote : c ≠ '"' := fun heq => h.isPath.quote (heq ▸ hc)
    have hbackslash : c ≠ '\\' := fun heq => h.isPath.backslash (heq ▸ hc)
    simp [hquote, hbackslash]
  have hread : anyIncbin? (some ' ') (label ++ ("[] = ".toList ++ (call path ++ ';' :: rest))) =
      some ((label, path), ';' :: rest) :=
    anyIncbin?_eq_some.2 ⟨hlabel, _, rfl, .cons (by decide), incbinValue?_call (by decide) hpath _⟩
  have hcut : label ++ ("[] = ".toList ++ (call path ++ ';' :: rest)) =
      label ++ ("[] = ".toList ++ call path) ++ ';' :: rest := by simp
  rw [hcut] at hread
  rw [h.type ledByLabel_anyIncbin, hcut, scanBehind_read (by simp) hread,
    scanBehind_skip (ledByLabel_anyIncbin.other ';' (by decide) _ _)]

theorem head?_scanBehind_own {path p : Text} (h : SpellsIncbin (label, path) p) (rest : Text) :
    (scanBehind (labelledIncbin? label) before (p ++ ';' :: rest)).head? = some path := by
  have hlabel : IsLabel label := h.isLabel
  have hread : labelledIncbin? label (some ' ') (label ++ ("[] = ".toList ++ (call path ++ ';' :: rest))) =
      some (path, ';' :: rest) :=
    (labelledIncbin?_eq_some hlabel).2 ⟨by decide, _, rfl, .cons (by decide),
      incbinValue?_call (by decide) h.isPath.quoteless _⟩
  rw [h.type (ledByLabel_labelledIncbin hlabel)]
  obtain ⟨c, cs, rfl⟩ := List.exists_cons_of_ne_nil hlabel.nonempty
  exact head?_scanBehind_read hread

/-- At no place of another label is the label read. -/
theorem labelledIncbin?_other (hlabel : IsLabel label) {w s q rest : Text} (hw : IsLabel w) (hne : w ≠ label)
    (hsplit : w = s ++ q) (hq : q ≠ []) (hrest : Stops isWord rest) :
    labelledIncbin? label (s.getLast?.or before) (q ++ rest) = none := by
  refine Option.eq_none_iff_forall_ne_some.2 fun piece h => ?_
  obtain ⟨hbefore, behind, hcut, hbehind, -⟩ := (labelledIncbin?_eq_some hlabel).1 h
  obtain ⟨rfl, -⟩ := run_unique (hw.suffix hsplit hq).ofWord hlabel.ofWord hrest hbehind hcut
  cases hlast : s.getLast? with
  | none =>
    obtain rfl : s = [] := List.getLast?_eq_none_iff.1 hlast
    exact hne hsplit
  | some c =>
    have hword : isWord c := hw.ofWord c (by simp [hsplit, List.mem_of_getLast? hlast])
    rw [hbefore c (by simp [hlast])] at hword
    cases hword

/-- **At no place of a path is a label read**: the parenthesis of its call would stand in the path. -/
theorem labelledIncbin?_path (hlabel : IsLabel label) {q rest : Text} (hq : '(' ∉ q) :
    labelledIncbin? label before (q ++ '"' :: rest) = none := by
  refine Option.eq_none_iff_forall_ne_some.2 fun piece h => ?_
  obtain ⟨-, behind, hcut, -, hvalue⟩ := (labelledIncbin?_eq_some hlabel).1 h
  obtain ⟨inner, head, rfl, hhead⟩ := leads_parenthesis hvalue
  have hword : '"' ∉ label := fun hmem => absurd (hlabel.ofWord _ hmem) (by decide)
  rw [← List.append_assoc] at hcut
  -- The quote that ends the path would have to be before the parenthesis or behind it.
  rcases List.append_eq_append_iff.1 hcut with ⟨more, hmore, htail⟩ | ⟨more, rfl, htail⟩
  · cases more with
    | nil => cases htail
    | cons c more =>
      obtain rfl : '"' = c := (List.cons.inj htail).1
      have hmem : '"' ∈ label ++ head := by simp [hmore]
      simp [hword, hhead] at hmem
  · cases more with
    | nil => cases htail
    | cons c more =>
      obtain rfl : '(' = c := (List.cons.inj htail).1
      simp at hq

/-- **A label goes over a call**, whatever path is in it. -/
theorem scanBehind_call (hlabel : IsLabel label) {path : Text} (hpath : IsPath path) (rest : Text) :
    scanBehind (labelledIncbin? label) before (call path ++ ';' :: rest) =
      scanBehind (labelledIncbin? label) (some ';') rest := by
  have hled := ledByLabel_labelledIncbin hlabel
  have hword : IsLabel "INCBIN_U32".toList := ⟨by decide, List.all_eq_true.1 rfl⟩
  have hstops (t : Text) : Stops isWord (['(', '"'] ++ t) := .cons (by decide)
  have hidle (t : Text) : Idle (['(', '"'] ++ t) := .cons (by decide)
  have hcut : call path ++ ';' :: rest = "INCBIN_U32".toList ++ (['(', '"'] ++ (path ++ '"' :: ([')', ';'] ++ rest))) := by
    rw [call_append]
    rfl
  have hpassed (before : Option Char) : scanBehind (labelledIncbin? label) before (path ++ '"' :: ([')', ';'] ++ rest)) =
      scanBehind (labelledIncbin? label) (path.getLast?.or before) (['"', ')', ';'] ++ rest) :=
    scanBehind_passed fun s q hsplit _ => labelledIncbin?_path hlabel fun hmem =>
      hpath.parenthesis (by rw [hsplit]; exact List.mem_append_right s hmem)
  rw [hcut, hled.word hword (hstops _) (hidle _), hled.marks (by decide), hpassed, hled.marks (by decide)]
  rfl

/-- **A label goes over the declaration of another.** -/
theorem scanBehind_labelledIncbin (hlabel : IsLabel label) {d : Text × Text} {p : Text} (h : SpellsIncbin d p)
    (hne : d.1 ≠ label) (rest : Text) :
    scanBehind (labelledIncbin? label) before (p ++ ';' :: rest) = scanBehind (labelledIncbin? label) (some ';') rest := by
  have hled := ledByLabel_labelledIncbin hlabel
  have hother : scanBehind (labelledIncbin? label) (some ' ') (d.1 ++ ("[] = ".toList ++ (call d.2 ++ ';' :: rest))) =
      scanBehind (labelledIncbin? label) (d.1.getLast?.or (some ' ')) ("[] = ".toList ++ (call d.2 ++ ';' :: rest)) :=
    scanBehind_passed fun s q hsplit hq => labelledIncbin?_other hlabel h.isLabel hne hsplit hq (.cons (by decide))
  rw [h.type hled, hother, hled.marks (by decide), scanBehind_call hlabel h.isPath]

/-- **The first call that a label finds is its own.** -/
theorem head?_scanBehind_declared (hlabel : IsLabel label) {ds : List (Text × Text)} {t : Text}
    (h : Declared SpellsIncbin ds t) :
    ∀ before, (scanBehind (labelledIncbin? label) before t).head? = Entries.find? label ds := by
  have hspace := (ledByLabel_labelledIncbin hlabel).space
  induction h with
  | nil hg =>
    intro before
    rw [scanBehind_spaces hspace hg]
    rfl
  | @cons d ds gap p t hg h _ ih =>
    intro before
    obtain ⟨w, path⟩ := d
    rw [scanBehind_spacing hspace hg, Entries.find?]
    by_cases hw : w = label
    · subst hw
      rw [if_pos rfl, head?_scanBehind_own h]
    · rw [if_neg hw, scanBehind_labelledIncbin hlabel h hw, ih]

theorem incbin_declared (hlabel : IsLabel label) {ds : List (Text × Text)} {t : Text} (h : Declared SpellsIncbin ds t) :
    incbin t label = (Entries.find? label ds).getD [] := by
  rw [incbin, hlabel.isEmpty, scan_eq, head?_scanBehind_declared hlabel h]
  rfl

end

/-! ## Groups of paths -/

theorem SpellsCall.ne_nil {path p : Text} (h : SpellsCall path p) : p ≠ [] := by
  obtain ⟨-, rfl⟩ := h
  exact List.cons_ne_nil _ _

theorem SpellsCall.not_mem {path p : Text} (h : SpellsCall path p) : ';' ∉ p := by
  have hlead : ';' ∉ "INCBIN_U32(\"".toList := by decide
  have htail : ';' ∉ "\")".toList := by decide
  obtain ⟨hpath, rfl⟩ := h
  exact List.not_mem_append hlead (List.not_mem_append hpath.semicolon htail)

/-- **The calls of a printed list are read back.** -/
theorem scan_calls {paths : List Text} {body : Text} (h : Listed SpellsCall paths body) :
    scan (fun _ => incbinCall? isQuoteless) ("] = \x7b".toList ++ body) = paths := by
  have hnone {c : Char} (hc : c ≠ 'I') (before : Option Char) (t : Text) :
      (fun _ => incbinCall? isQuoteless : Recognizer Text) before (c :: t) = none := by
    have hword : Text.after? "INCBIN_".toList (c :: t) = none := if_neg hc.symm
    simp only [incbinCall?, hword]
    rfl
  have hscan := scanBehind_listed (r := fun _ => incbinCall? isQuoteless) (v := id) h
    (fun c hc => hnone (hc.elim (fun hs => ne_of_isSpace hs (by decide)) fun heq => by simp [heq]))
    (fun path p hp => ⟨hp.ne_nil, fun _ rest _ => hp.2 ▸ incbinCall?_call (by decide) hp.1.quoteless rest⟩)
  rw [scan_eq, scanBehind_class fun c hc => hnone fun heq => by
    rw [heq] at hc
    exact absurd hc (by decide), hscan, List.map_id]

theorem SpellsGroup.isLabel {g : Text × List Text} {p : Text} (h : SpellsGroup g p) : IsLabel g.1 := by
  cases h with
  | mk hlabel _ => exact hlabel

/-- **A printed group is found** up to its semicolon. -/
theorem scanBehind_labelGroup {g : Text × List Text} {p : Text} (h : SpellsGroup g p) :
    ∃ b, (b.1, scan (fun _ => incbinCall? isQuoteless) b.2) = g ∧ ∀ before rest, NoWordBefore before →
      scanBehind labelGroup? before (p ++ ';' :: rest) = b :: scanBehind labelGroup? (some ';') rest := by
  cases h with
  | @mk label body paths hlabel hs =>
    let inner := "] = \x7b".toList ++ body
    refine ⟨(label, inner), by rw [scan_calls hs], fun before rest _ => ?_⟩
    have htype : IsLabel "u32".toList := ⟨by decide, List.all_eq_true.1 rfl⟩
    have hinner : ';' ∉ inner := by
      have hbody : ';' ∉ body := hs.not_mem (by decide) (by decide) fun _ _ => SpellsCall.not_mem
      exact List.not_mem_append (by decide) hbody
    -- The semicolon is part of what is read.
    let behind := '[' :: (inner ++ ['\x7d'])
    have hread : labelGroup? (some ' ') (label ++ behind ++ [';'] ++ rest) = some ((label, inner), rest) :=
      labelGroup?_eq_some.2 ⟨hlabel, by simp [behind], hinner⟩
    have hcut : "const u32 *const ".toList ++ (label ++ ("[] = \x7b".toList ++ (body ++ ['\x7d']))) ++ ';' :: rest =
        "const ".toList ++ ("u32".toList ++ (" *const ".toList ++ (label ++ (behind ++ [';'] ++ rest)))) := by
      simp [behind, inner]
    rw [hcut, ledByLabel_labelGroup.pointerType htype hlabel, ← List.append_assoc, ← List.append_assoc,
      scanBehind_read (by simp) hread, List.getLast?_concat]
    rfl

theorem incbinGroups_declared {gs : List (Text × List Text)} {u : Text} (h : Declared SpellsGroup gs u) : incbinGroups u = gs :=
  map_scanBehind_declared h ledByLabel_labelGroup.space (fun g p hg => scanBehind_labelGroup hg) none (by decide)

/-! ## Reading back -/

theorem incbins_eq {ds : List (Text × Text)} {t : Text} (h : Declared SpellsIncbin ds t)
    (hdistinct : (ds.map Prod.fst).Nodup) : incbins t = ds := by
  have hfound : (scan anyIncbin? t).map id = ds :=
    map_scanBehind_declared h ledByLabel_anyIncbin.space
      (fun d p hd => ⟨d, rfl, fun _ rest _ => scanBehind_anyIncbin hd rest⟩) none (by decide)
  rw [List.map_id] at hfound
  rw [incbins, hfound, Entries.ofList_of_nodup hdistinct]

/-- **Printed paths are read back**: all of them in order, that of each label, and the list of each group. -/
theorem incbins_declared {ds : List (Text × Text)} {gs : List (Text × List Text)} {t u : Text}
    (h : Declared SpellsIncbin ds t) (hdistinct : (ds.map Prod.fst).Nodup)
    (hg : Declared SpellsGroup gs u) (hgdistinct : (gs.map Prod.fst).Nodup) :
    incbins t = ds ∧ (∀ d ∈ ds, incbin t d.1 = d.2) ∧ ∀ g ∈ gs, incbinArray u g.1 = g.2 := by
  refine ⟨incbins_eq h hdistinct, ?_, ?_⟩
  · intro d hd
    obtain ⟨p, hp⟩ := h.of_mem hd
    rw [incbin_declared hp.isLabel h, Entries.find?_of_mem hdistinct hd]
    rfl
  · intro g hmem
    obtain ⟨p, hp⟩ := hg.of_mem hmem
    rw [incbinArray_eq hp.isLabel, incbinGroups_declared hg, Entries.find?_of_mem hgdistinct hmem]
    rfl

def crossedPaths : List (Text × Text) := [("a".toList, "u32[] = \x7d".toList), ("u32".toList, "INCBIN_U8 a".toList)]

def crossedPathsText : Text :=
  "const u32 a[] = INCBIN_U32(\"u32[] = \x7d\");\nconst u32 u32[] = INCBIN_U32(\"INCBIN_U8 a\");\n".toList

def crossedGroups : List (Text × List Text) := [("a".toList, ["const[] = \x7b".toList, []]), ("const".toList, [])]

def crossedGroupsText : Text :=
  "const u32 *const a[] = \x7bINCBIN_U32(\"const[] = \x7b\"),\n INCBIN_U32(\"\"),\x7d;const u32 *const const[] = \x7b\x7d;".toList

/-- Paths with labels, brackets, braces and the word of a call in them. -/
theorem incbins_declared_crossed : Declared SpellsIncbin crossedPaths crossedPathsText ∧
    (crossedPaths.map Prod.fst).Nodup ∧ Declared SpellsGroup crossedGroups crossedGroupsText ∧
    (crossedGroups.map Prod.fst).Nodup ∧ incbins crossedPathsText = crossedPaths ∧
    (∀ d ∈ crossedPaths, incbin crossedPathsText d.1 = d.2) ∧
    ∀ g ∈ crossedGroups, incbinArray crossedGroupsText g.1 = g.2 := by
  have hnone : IsSpacing [] := by decide
  have hline : IsSpacing ['\n'] := by decide
  have hindent : IsSpacing ['\n', ' '] := by decide
  have hlabel {w : Text} (hne : w ≠ []) (hall : w.all isAsciiWord) : IsLabel w := ⟨hne, List.all_eq_true.1 hall⟩
  have ha : IsLabel "a".toList := hlabel (by decide) (by decide)
  have hbrace : IsPath "u32[] = \x7d".toList := ⟨by decide, by decide, by decide, by decide⟩
  have hword : IsPath "INCBIN_U8 a".toList := ⟨by decide, by decide, by decide, by decide⟩
  have hfirst : SpellsIncbin ("a".toList, "u32[] = \x7d".toList) _ := .mk ha hbrace
  have hsecond : SpellsIncbin ("u32".toList, "INCBIN_U8 a".toList) _ := .mk (hlabel (by decide) (by decide)) hword
  have h : Declared SpellsIncbin crossedPaths crossedPathsText :=
    (Declared.cons hnone hfirst (.cons hline hsecond (.nil hline))).of_eq (by decide +kernel)
  have hopened : SpellsCall "const[] = \x7b".toList _ := ⟨⟨by decide, by decide, by decide, by decide⟩, rfl⟩
  have hempty : SpellsCall [] _ := ⟨⟨by decide, by decide, by decide, by decide⟩, rfl⟩
  have hbody : Listed SpellsCall ["const[] = \x7b".toList, []] _ :=
    .cons hnone hopened hnone (.cons hindent hempty hnone (.nil hnone))
  have hgroup : SpellsGroup ("a".toList, ["const[] = \x7b".toList, []]) _ := .mk ha hbody
  have hnothing : SpellsGroup ("const".toList, []) _ := .mk (hlabel (by decide) (by decide)) (.nil hnone)
  have hg : Declared SpellsGroup crossedGroups crossedGroupsText :=
    (Declared.cons hnone hgroup (.cons hnone hnothing (.nil hnone))).of_eq (by decide +kernel)
  have hdistinct : (crossedPaths.map Prod.fst).Nodup := by decide
  have hgdistinct : (crossedGroups.map Prod.fst).Nodup := by decide
  exact ⟨h, hdistinct, hg, hgdistinct, incbins_declared h hdistinct hg hgdistinct⟩

end Table

end GameSource
