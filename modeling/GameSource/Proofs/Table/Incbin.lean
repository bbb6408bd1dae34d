import GameSource.Proofs.Table.Printed
import GameSource.Table.Incbin
/-!
# Labels of included files

The readers of included files look for a label with brackets or an equals sign behind it, so that each of them goes over
other words (`ledByLabel_anyIncbin`, `ledByLabel_labelledIncbin`, `ledByLabel_labelGroup`).  Between a label and the
parenthesis of its call there is no quote (`leads_parenthesis`).
-/
namespace GameSource

namespace Table

section
variable {p : Char → Bool}

theorem incbinValue?_idle {t : Text} (h : Idle t) : incbinValue? p t = none := by
  have hspace := stops_dropWhile isSpace t
  unfold Idle at h
  unfold incbinValue?
  cases ht : t.dropWhile isSpace with
  | nil => rfl
  | cons c u =>
    rw [ht] at h hspace
    have hc : isSpace c = false := hspace c rfl
    have hopens : ¬ c = '[' ∧ ¬ c = ']' ∧ ¬ c = '=' := by simpa [opensValue, and_assoc] using h c rfl
    have hequals : Text.after? ['='] (c :: u) = none := if_neg (Ne.symm hopens.2.2)
    simp [Text.dropOne, hopens, hc, hequals]

/-- From the one text the other is reached over characters none of which is a quote. -/
def Leads (t u : Text) : Prop := ∃ head, t = head ++ u ∧ '"' ∉ head

theorem Leads.refl (t : Text) : Leads t t := ⟨[], rfl, by simp⟩

theorem Leads.cons {c : Char} (hc : c ≠ '"') (t : Text) : Leads (c :: t) t := ⟨[c], rfl, by simpa using hc.symm⟩

theorem Leads.trans {t u v : Text} (h : Leads t u) (h' : Leads u v) : Leads t v := by
  obtain ⟨head, rfl, hhead⟩ := h
  obtain ⟨head', rfl, hhead'⟩ := h'
  exact ⟨head ++ head', by simp, by simp [hhead, hhead']⟩

theorem leads_dropWhile {q : Char → Bool} (hq : q '"' = false) (t : Text) : Leads t (t.dropWhile q) := by
  refine ⟨t.takeWhile q, List.takeWhile_append_dropWhile.symm, fun hmem => ?_⟩
  have hquote := List.all_eq_true.1 List.all_takeWhile _ hmem
  rw [hq] at hquote
  cases hquote

theorem leads_dropOne {c : Char} (hc : c ≠ '"') (t : Text) : Leads t (Text.dropOne c t) := by
  cases t with
  | nil => exact .refl []
  | cons d t =>
    rw [Text.dropOne]
    by_cases hd : d = c
    · rw [if_pos hd]
      exact .cons (hd ▸ hc) t
    · rw [if_neg hd]
      exact .refl _

theorem leads_after {lead t u : Text} (hlead : '"' ∉ lead) (h : Text.after? lead t = some u) : Leads t u :=
  ⟨lead, Text.after?_eq_some.1 h, hlead⟩

theorem leads_digit (t : Text) : Leads t (if t.head?.any Char.isDigit then t.drop 1 else t) := by
  cases t with
  | nil => exact .refl []
  | cons c t =>
    by_cases hc : (c :: t).head?.any Char.isDigit
    · rw [if_pos hc]
      have hquote : c ≠ '"' := fun heq => by
        rw [heq] at hc
        exact Bool.false_ne_true hc
      exact .cons hquote t
    · rw [if_neg hc]
      exact .refl _

/-- **Between a label and the parenthesis of its call there is no quote.** -/
theorem leads_parenthesis {t path rest : Text} (h : incbinValue? p t = some (path, rest)) :
    ∃ behind, Leads t ('(' :: behind) := by
  simp only [incbinValue?, incbinCall?, Option.bind_eq_bind, Option.bind_eq_some_iff] at h
  obtain ⟨value, hvalue, kind, hword, h⟩ := h
  have hspace (u : Text) : Leads u (u.dropWhile isSpace) := leads_dropWhile (by decide) u
  have hbrackets := ((hspace t).trans (leads_dropOne (by decide : '[' ≠ '"') _)).trans
    ((hspace _).trans (leads_dropOne (by decide : ']' ≠ '"') _))
  have hequals := hbrackets.trans ((hspace _).trans (leads_after (by decide) hvalue))
  have hkind : Leads t kind := hequals.trans ((hspace _).trans (leads_after (by decide) hword))
  split at h
  · rename_i sign digit behind
    split at h
    · rename_i hmarks
      simp only [Bool.and_eq_true, Bool.or_eq_true, beq_iff_eq] at hmarks
      have hsign : sign ≠ '"' := by rcases hmarks.1 with rfl | rfl <;> decide
      have hdigit : digit ≠ '"' := fun heq => absurd (heq ▸ hmarks.2) (by decide)
      obtain ⟨inner, hinner, -⟩ := Option.bind_eq_some_iff.1 h
      have hbehind := hkind.trans ((Leads.cons hsign _).trans ((Leads.cons hdigit _).trans (leads_digit behind)))
      rw [Text.after?_eq_some.1 hinner] at hbehind
      exact ⟨inner, hbehind⟩
    · cases h
  · cases h

theorem not_idle_of_incbinValue {t : Text} {piece : Text × Text} (h : incbinValue? p t = some piece) : ¬ Idle t :=
  fun hidle => by
    rw [incbinValue?_idle hidle] at h
    cases h

end

section
variable {label : Text} {before : Option Char}

theorem anyIncbin?_eq_some {t path rest : Text} : anyIncbin? before t = some ((label, path), rest) ↔ IsLabel label ∧
    ∃ behind, t = label ++ behind ∧ Stops isAsciiWord behind ∧
      incbinValue? (fun c => c != '"' && c != '\\') behind = some (path, rest) := by
  unfold anyIncbin?
  constructor
  · intro h
    by_cases hne : (t.takeWhile isAsciiWord).isEmpty
    · rw [if_pos hne] at h
      cases h
    · rw [if_neg hne] at h
      obtain ⟨⟨path, rest⟩, hvalue, heq⟩ := Option.bind_eq_some_iff.1 h
      cases heq
      exact ⟨isLabel_takeWhile (by simpa using hne), _, List.takeWhile_append_dropWhile.symm, stops_dropWhile isAsciiWord t, hvalue⟩
  · rintro ⟨hlabel, behind, rfl, hbehind, hvalue⟩
    simp only [takeWhile_run hlabel.ascii hbehind, dropWhile_run hlabel.ascii hbehind, hlabel.isEmpty, hvalue]
    rfl

theorem ledByLabel_anyIncbin : LedByLabel anyIncbin? := .of_reads fun _ _ _ _ h => by
  obtain ⟨hlabel, behind, hsplit, -, hvalue⟩ := anyIncbin?_eq_some.1 h
  exact ⟨_, behind, hsplit, hlabel, not_idle_of_incbinValue hvalue⟩

theorem labelledIncbin?_eq_some (hlabel : IsLabel label) {t path rest : Text} :
    labelledIncbin? label before t = some (path, rest) ↔ NoWordBefore before ∧
      ∃ behind, t = label ++ behind ∧ Stops isWord behind ∧ incbinValue? isQuoteless behind = some (path, rest) := by
  simp only [labelledIncbin?, Option.bind_eq_bind, Option.bind_eq_some_iff, Text.after?_eq_some]
  constructor
  · rintro ⟨behind, rfl, h⟩
    split at h
    · rename_i hboundary
      rw [Bool.and_eq_true, hlabel.boundary_opens, hlabel.boundary_closes] at hboundary
      exact ⟨hboundary.1, behind, rfl, hboundary.2, h⟩
    · cases h
  · rintro ⟨hbefore, behind, rfl, hbehind, h⟩
    refine ⟨behind, rfl, ?_⟩
    rw [if_pos (Bool.and_eq_true_iff.2 ⟨(hlabel.boundary_opens _ _).2 hbefore, (hlabel.boundary_closes _ _).2 hbehind⟩)]
    exact h

theorem ledByLabel_labelledIncbin (hlabel : IsLabel label) : LedByLabel (labelledIncbin? label) :=
  .of_reads fun _ _ _ _ h => by
    obtain ⟨-, behind, hsplit, -, hvalue⟩ := (labelledIncbin?_eq_some hlabel).1 h
    exact ⟨label, behind, hsplit, hlabel, not_idle_of_incbinValue hvalue⟩

/-! ## Groups -/

theorem labelGroup?_eq_some {t body rest : Text} : labelGroup? before t = some ((label, body), rest) ↔
    IsLabel label ∧ t = label ++ '[' :: (body ++ '\x7d' :: ';' :: rest) ∧ ';' ∉ body := by
  unfold labelGroup?
  constructor
  · intro h
    by_cases hne : (t.takeWhile isAsciiWord).isEmpty
    · rw [if_pos hne] at h
      cases h
    · rw [if_neg hne] at h
      simp only [Option.bind_eq_bind, Option.bind_eq_some_iff] at h
      obtain ⟨behind, hbracket, ⟨group, rest'⟩, hgroup, h⟩ := h
      obtain ⟨rfl, hsemicolon⟩ := Text.until?_eq_some.1 hgroup
      obtain ⟨hlast, heq⟩ := Option.ite_none_right_eq_some.1 h
      cases heq
      obtain ⟨body, rfl⟩ := List.getLast?_eq_some_iff.1 hlast
      have hsplit : t.takeWhile isAsciiWord ++ t.dropWhile isAsciiWord = t := List.takeWhile_append_dropWhile
      rw [Text.after?_eq_some.1 hbracket] at hsplit
      refine ⟨isLabel_takeWhile (by simpa using hne), ?_, ?_⟩
      · rw [List.dropLast_concat]
        exact hsplit.symm.trans (by simp)
      · rw [List.dropLast_concat]
        exact fun hmem => hsemicolon (by simp [hmem])
  · rintro ⟨hlabel, rfl, hbody⟩
    have hstops : Stops isAsciiWord ('[' :: (body ++ '\x7d' :: ';' :: rest)) := .cons (by decide)
    have hgroup : Text.until? ';' (body ++ '\x7d' :: ';' :: rest) = some (body ++ ['\x7d'], rest) :=
      Text.until?_eq_some.2 ⟨by simp, by simp [hbody]⟩
    have hopen : Text.after? ['['] ('[' :: (body ++ '\x7d' :: ';' :: rest)) = some (body ++ '\x7d' :: ';' :: rest) := rfl
    simp [takeWhile_run hlabel.ascii hstops, dropWhile_run hlabel.ascii hstops, hlabel.isEmpty, hopen, hgroup]

theorem not_idle_bracket (t : Text) : ¬ Idle ('[' :: t) := fun hidle => absurd (hidle '[' rfl) (by decide)

theorem ledByLabel_labelGroup : LedByLabel labelGroup? := .of_reads fun _ _ _ _ h => by
  obtain ⟨hlabel, hsplit, -⟩ := labelGroup?_eq_some.1 h
  exact ⟨_, _, hsplit, hlabel, not_idle_bracket _⟩

/-- The list of paths of every group. -/
def incbinGroups (t : Text) : Entries Text (List Text) :=
  (scan labelGroup? t).map fun e => (e.1, scan (fun _ => incbinCall? isQuoteless) e.2)

theorem incbinArray_eq (hlabel : IsLabel label) (t : Text) :
    incbinArray t label = (Entries.find? label (incbinGroups t)).getD [] := by
  have hfind (es : List (Text × Text)) : (es.find? fun e => e.1 == label).map Prod.snd = Entries.find? label es := by
    induction es with
    | nil => rfl
    | cons e es ih =>
      by_cases he : e.1 = label
      · simp [Entries.find?, he]
      · simp [Entries.find?, he, ← ih]
  rw [incbinArray, hlabel.isEmpty, incbinGroups, Entries.find?_mapValues, ← hfind]
  cases (scan labelGroup? t).find? fun e => e.1 == label <;> rfl

end

end Table

end GameSource
