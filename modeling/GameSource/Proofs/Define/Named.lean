import GameSource.Proofs.Define.Filtered
import GameSource.Proofs.Session.Stopped
/-!
# Which names a text can define

The names in a table are words (`DefineTable.mem_matched_isName`), and every word is defined by some text, also with a
number that is too long to be read (`longHeader`), which then stops what asks for it (`DefineTable.evaluate_longHeader`).
-/
namespace GameSource

/-! ## Names are words -/

/-- The names that an expression mentions are words. -/
theorem isName_of_identifier {t : Text} {l : Lexeme} (hl : l ∈ (lexemes t).1) (hk : l.kind = .identifier) :
    IsName l.text := by
  obtain ⟨u, n, hlex, htext⟩ := exists_lexeme? hl
  rw [hk] at hlex
  unfold lexeme? at hlex
  split at hlex
  · cases hlex
  split at hlex
  · cases hlex
  split at hlex
  · rename_i c cs _ _ hc
    cases hlex
    have hword : l.text = (c :: cs).takeWhile isAsciiWord :=
      htext.trans (List.prefix_iff_eq_take.1 (List.takeWhile_prefix _)).symm
    rw [hword]
    refine ⟨by simp [hc], fun d hd => isWord_of_isAsciiWord (List.all_eq_true.1 List.all_takeWhile _ hd)⟩
  split at hlex
  · cases hlex
  split at hlex <;> cases hlex

namespace DefineTable

variable {filter : DefineFilter} {n t : Text}

/-- **The names that a text gives to be asked for are words that the filter accepts.** -/
theorem mem_matched_isName (h : n ∈ (ofSource filter t).matched) : filter.accepts n ∧ IsName n := by
  rw [matched_ofSource] at h
  obtain ⟨hmem, haccepts⟩ := List.mem_filter.1 h
  exact ⟨haccepts, isName_of_mem_names hmem⟩

end DefineTable

/-! ## A header with a long number -/

/-- Digits of which there are too many. -/
def longDigits : Text := '1' :: List.replicate digitLimit '1'

/-- One define of a long number. -/
def longHeader (name : Text) : Text :=
  '#' :: ("define".toList ++ ([' '] ++ (name ++ ([' '] ++ longDigits ++ [] ++ ['\n']))))

theorem longDigits_ne_nil : longDigits ≠ [] := List.cons_ne_nil _ _

theorem isDigit_longDigits : ∀ c ∈ longDigits, c.isDigit := by
  intro c hc
  rcases List.mem_cons.1 hc with rfl | hc
  · rfl
  · rw [List.eq_of_mem_replicate hc]
    rfl

theorem length_longDigits : longDigits.length = digitLimit + 1 := by
  rw [longDigits, List.length_cons, List.length_replicate]

theorem trim_longDigits : Text.trim longDigits = longDigits :=
  trim_of_not_isSpace fun c hc => isSpace_of_isAsciiWord (isAsciiWord_of_isDigit c (isDigit_longDigits c hc))

/-- Digits are one lexeme. -/
theorem lexemes_digits {t : Text} (hne : t ≠ []) (hd : ∀ c ∈ t, c.isDigit) : lexemes t = ([⟨.number, t, t⟩], []) := by
  have hspace : ∀ c ∈ t, isSpace c = false := fun c hc => isSpace_of_isAsciiWord (isAsciiWord_of_isDigit c (hd c hc))
  exact (LexemeKind.Takes.number (.of_digits hne hd) (.nil isWord)).lexemes hspace

theorem ofText?_longDigits : Numeral.ofText? longDigits = some ⟨10, longDigits⟩ := by
  have hread : Numeral.ofText? (longDigits ++ []) = Numeral.ofDigits? longDigits :=
    Numeral.ofText?_digits isDigit_longDigits (by simp)
  rw [List.append_nil] at hread
  rw [hread]
  rfl

theorem not_hasShortNumbers_longDigits : ¬ HasShortNumbers longDigits := by
  intro h
  have hmem : ⟨.number, longDigits, longDigits⟩ ∈ (lexemes longDigits).1 := by
    rw [lexemes_digits longDigits_ne_nil isDigit_longDigits]
    exact List.mem_singleton_self _
  have hlong := h _ hmem rfl _ ofText?_longDigits rfl
  rw [length_longDigits] at hlong
  exact absurd hlong (Nat.not_succ_le_self digitLimit)

theorem prints_longHeader {name : Text} (h : IsName name) : Prints [.define name longDigits] (longHeader name) := by
  have hgap : IsGap [' '] := ⟨by simp, List.all_eq_true.1 rfl⟩
  have hword : ∀ c ∈ longDigits, isWord c := fun c hc =>
    isWord_of_isAsciiWord (isAsciiWord_of_isDigit c (isDigit_longDigits c hc))
  have hbare : Bare longDigits := by
    have hnil := Bare.nil.word_append hword
    rwa [List.append_nil] at hnil
  have hvalue : IsValue longDigits := ⟨trim_longDigits, hbare, fun hc => absurd (hword _ hc) (by decide)⟩
  exact .define hgap h (.inl hgap) hvalue (by simp) .nil

theorem ofSource_longHeader {name : Text} (h : IsName name) {filter : DefineFilter} :
    (DefineTable.ofSource filter (longHeader name)).expressions = [(name, longDigits)] ∧
      (DefineTable.ofSource filter (longHeader name)).matched = if filter.accepts name then [name] else [] := by
  have hprints := prints_longHeader h
  rw [DefineTable.ofSource, hprints.bare.bareText_eq, DefineTable.ofPrepared, scan, scanAt,
    scan_prints hprints 0 none rfl]
  exact ⟨rfl, rfl⟩

section
variable {name text filename : Text} {values : Entries Text Int} {filter : DefineFilter} (h : IsName name)
  (hk : (Session.constants.putAll values).contains name = false)
include h hk

/-- A session over the header is blocked by its name. -/
theorem blocked_longHeader : (Session.start (DefineTable.ofSource filter (longHeader name)).expressions values text
    filename).Blocked name longDigits where
  pending := by rw [Session.start, (ofSource_longHeader h).1]
  known := by simpa [Session.start, Entries.contains] using hk
  resolving := rfl
  long := not_hasShortNumbers_longDigits

/-- **A name that is not known can stop the evaluation of a table**, whichever it is. -/
theorem DefineTable.evaluate_longHeader (ha : filter.accepts name) :
    ∃ e, ((ofSource filter (longHeader name)).evaluate values text filename).1 = .error e := by
  have hblocked := @blocked_longHeader name text filename values filter h hk
  obtain ⟨r, s', hruns⟩ := exists_runsAll (ofSource filter (longHeader name)).matched []
    (.start (ofSource filter (longHeader name)).expressions values text filename)
  rw [fst_evaluate hruns]
  rw [(ofSource_longHeader h).2, if_pos ha] at hruns
  have hpending : Entries.find? name (Session.start (ofSource filter (longHeader name)).expressions values text
      filename).pending = some longDigits := by
    rw [hblocked.pending, Entries.find?, if_pos rfl]
  cases hruns with
  | blank he hb =>
    rw [hpending] at he
    cases he
    rw [trim_longDigits] at hb
    exact absurd hb longDigits_ne_nil
  | missing hp =>
    rw [hpending] at hp
    cases hp
  | value _ hv =>
    obtain ⟨e, he⟩ := hv.resolve_long (by simpa using hblocked.known) (by rw [hpending]; rfl) hblocked.long
    cases he
  | stopped => exact ⟨_, rfl⟩

end

end GameSource
