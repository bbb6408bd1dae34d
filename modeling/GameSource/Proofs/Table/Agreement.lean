import GameSource.Proofs.Text.Scanned
import GameSource.Proofs.Text.Whole
import GameSource.Table.Flat
/-!
# The two readers of flat arrays

An array is initialised where its label stands with braces behind it, at once or behind a dimension in brackets
(`Initialises`).  The reader of one array goes further from a mention of the label: over anything up to the next closing
bracket, whether a bracket was opened or not (`Reaches`).  It takes the braces that are reached first (`array_eq`), the
reader of all arrays those of the label's own array (`find?_arrays`).  So they agree just when these have the same
elements (`array_agrees_iff`).
-/
namespace GameSource

namespace Table

/-! ## Braces behind a label -/

/-- An equals sign and braces follow, with white space before both. -/
def Braced (t body rest : Text) : Prop :=
  ∃ gap gap', t = gap ++ '=' :: (gap' ++ '\x7b' :: (body ++ '\x7d' :: rest)) ∧ (∀ c ∈ gap, isSpace c) ∧
    (∀ c ∈ gap', isSpace c) ∧ '\x7d' ∉ body

/-- They follow behind the next closing bracket. -/
def BracedBehind (t body rest : Text) : Prop :=
  ∃ skipped behind, t = skipped ++ ']' :: behind ∧ ']' ∉ skipped ∧ Braced behind body rest

/-- They follow at once, or behind a dimension in brackets. -/
def BracedArray (t body rest : Text) : Prop :=
  Braced t body rest ∨ ∃ gap dimension behind, t = gap ++ '[' :: (dimension ++ ']' :: behind) ∧
    (∀ c ∈ gap, isSpace c) ∧ ']' ∉ dimension ∧ Braced behind body rest

/-- They follow behind the next closing bracket, or else at once. -/
def BracedAhead (t body rest : Text) : Prop :=
  BracedBehind t body rest ∨ Braced t body rest ∧ ∀ body' rest', ¬ BracedBehind t body' rest'

theorem braceBody?_eq_some {t body rest : Text} : braceBody? t = some (body, rest) ↔ Braced t body rest := by
  constructor
  · intro h
    have hspaces (u : Text) : ∀ c ∈ u.takeWhile isSpace, isSpace c := List.all_eq_true.1 List.all_takeWhile
    have hsplit (u : Text) : u = u.takeWhile isSpace ++ u.dropWhile isSpace := List.takeWhile_append_dropWhile.symm
    unfold braceBody? at h
    split at h
    · rename_i behind hequals
      split at h
      · rename_i inner hbrace
        obtain ⟨rfl, hbody⟩ := Text.until?_eq_some.1 h
        refine ⟨t.takeWhile isSpace, behind.takeWhile isSpace, ?_, hspaces t, hspaces behind, hbody⟩
        rw [← hbrace, ← hsplit, ← hequals, ← hsplit]
      · cases h
    · cases h
  · rintro ⟨gap, gap', rfl, hgap, hgap', hbody⟩
    have hstops {c : Char} (t : Text) (hc : isSpace c = false) : Stops isSpace (c :: t) := .cons hc
    rw [braceBody?, dropWhile_run hgap (hstops _ (by decide))]
    simp only
    rw [dropWhile_run hgap' (hstops _ (by decide))]
    exact Text.until?_eq_some.2 ⟨rfl, hbody⟩

theorem bracedBehind_iff {t body rest : Text} :
    ((Text.until? ']' t).bind fun (_, behind) => braceBody? behind) = some (body, rest) ↔ BracedBehind t body rest := by
  rw [Option.bind_eq_some_iff]
  constructor
  · rintro ⟨⟨skipped, behind⟩, hskip, hbody⟩
    obtain ⟨rfl, hnot⟩ := Text.until?_eq_some.1 hskip
    exact ⟨skipped, behind, rfl, hnot, braceBody?_eq_some.1 hbody⟩
  · rintro ⟨skipped, behind, rfl, hnot, hbody⟩
    exact ⟨(skipped, behind), Text.until?_eq_some.2 ⟨rfl, hnot⟩, braceBody?_eq_some.2 hbody⟩

theorem braceBody?_dropWhile (t : Text) : braceBody? (t.dropWhile isSpace) = braceBody? t := by
  have hsame : (t.dropWhile isSpace).dropWhile isSpace = t.dropWhile isSpace :=
    @dropWhile_run _ isSpace [] _ (by simp) (stops_dropWhile isSpace t)
  rw [braceBody?, hsame, braceBody?]

/-- A dimension between the label and the braces is left out. -/
theorem bracedArray_iff {t body rest : Text} :
    braceBody? (match t.dropWhile isSpace with
      | '[' :: inner => (Text.until? ']' inner).elim (t.dropWhile isSpace) Prod.snd
      | _ => t.dropWhile isSpace) = some (body, rest) ↔ BracedArray t body rest := by
  constructor
  · intro h
    split at h
    · rename_i inner hbracket
      cases hclose : Text.until? ']' inner with
      | none =>
        rw [hclose, Option.elim_none, braceBody?_dropWhile] at h
        exact .inl (braceBody?_eq_some.1 h)
      | some closed =>
        obtain ⟨dimension, behind⟩ := closed
        rw [hclose, Option.elim_some] at h
        obtain ⟨rfl, hnot⟩ := Text.until?_eq_some.1 hclose
        refine .inr ⟨t.takeWhile isSpace, dimension, behind, ?_, List.all_eq_true.1 List.all_takeWhile, hnot,
          braceBody?_eq_some.1 h⟩
        rw [← hbracket, List.takeWhile_append_dropWhile]
    · rw [braceBody?_dropWhile] at h
      exact .inl (braceBody?_eq_some.1 h)
  · rintro (h | ⟨gap, dimension, behind, rfl, hgap, hnot, hbraced⟩)
    · have hbody := braceBody?_eq_some.2 h
      split
      · rename_i inner hbracket
        rw [← braceBody?_dropWhile, hbracket] at hbody
        cases hbody
      · rwa [braceBody?_dropWhile]
    · have hstops : Stops isSpace ('[' :: (dimension ++ ']' :: behind)) := .cons (by decide)
      rw [dropWhile_run hgap hstops]
      simp only [Text.until?_eq_some.2 ⟨rfl, hnot⟩, Option.elim_some]
      exact braceBody?_eq_some.2 hbraced

/-! ## Labels -/

/-- A word of ASCII characters. -/
structure IsLabel (label : Text) : Prop where
  nonempty : label ≠ []
  ascii : ∀ c ∈ label, isAsciiWord c

/-- The word stands whole at a place of the text, and `behind` behind it. -/
def StandsAt (t : Text) (i : Nat) (word behind : Text) : Prop :=
  ∃ before, t = before ++ (word ++ behind) ∧ before.length = i ∧ WordBehind before word ∧ Stops isWord behind

/-- At a place of the text the array of the label is initialised with braces around `body`. -/
def Initialises (t : Text) (i : Nat) (label body rest : Text) : Prop :=
  IsLabel label ∧ ∃ behind, StandsAt t i label behind ∧ BracedArray behind body rest

/-- At a place of the text the label stands, and braces are reached from there. -/
def Reaches (t : Text) (i : Nat) (label body rest : Text) : Prop :=
  ∃ behind, StandsAt t i label behind ∧ BracedAhead behind body rest

theorem IsLabel.ofWord {label : Text} (h : IsLabel label) : ∀ c ∈ label, isWord c :=
  fun c hc => isWord_of_isAsciiWord (h.ascii c hc)

theorem IsLabel.isEmpty {label : Text} (h : IsLabel label) : label.isEmpty = false := by simpa using h.nonempty

theorem isLabel_takeWhile {t : Text} (h : t.takeWhile isAsciiWord ≠ []) : IsLabel (t.takeWhile isAsciiWord) :=
  ⟨h, List.all_eq_true.1 List.all_takeWhile⟩

/-- A label stands whole if no word goes on before it. -/
theorem IsLabel.boundary_opens {label : Text} (h : IsLabel label) (before : Option Char) (behind : Text) :
    Text.boundary before (label ++ behind).head? ↔ ∀ c ∈ before, isWord c = false := by
  obtain ⟨c, cs, rfl⟩ := List.exists_cons_of_ne_nil h.nonempty
  have hc : isWord c := h.ofWord c List.mem_cons_self
  rw [← any_isWord_eq_false]
  simp [Text.boundary, hc]

/-- It stands whole if it does not go on. -/
theorem IsLabel.boundary_closes {label : Text} (h : IsLabel label) (before : Option Char) (behind : Text) :
    Text.boundary (label.getLast?.or before) behind.head? ↔ Stops isWord behind := by
  rw [List.getLast?_eq_some_getLast h.nonempty, Option.some_or, Stops, ← any_isWord_eq_false]
  have hlast : isWord (label.getLast h.nonempty) := h.ofWord _ (List.getLast_mem _)
  simp [Text.boundary, hlast]

theorem labelledBody?_eq_some {label t body rest : Text} {before : Option Char} (hlabel : IsLabel label) :
    labelledBody? label before t = some (body, rest) ↔ (∀ c ∈ before, isWord c = false) ∧
      ∃ behind, t = label ++ behind ∧ Stops isWord behind ∧ BracedAhead behind body rest := by
  have hahead (behind : Text) : (((Text.until? ']' behind).bind fun (_, behind) => braceBody? behind).or
      (braceBody? behind)) = some (body, rest) ↔ BracedAhead behind body rest := by
    rw [Option.or_eq_some_iff, bracedBehind_iff, braceBody?_eq_some, BracedAhead, and_comm,
      Option.eq_none_iff_forall_ne_some]
    simp only [ne_eq, bracedBehind_iff, Prod.forall]
  simp only [labelledBody?, Option.bind_eq_bind, Option.bind_eq_some_iff, Text.after?_eq_some]
  constructor
  · rintro ⟨behind, rfl, h⟩
    split at h
    · rename_i hboundary
      rw [Bool.and_eq_true, hlabel.boundary_opens, hlabel.boundary_closes] at hboundary
      exact ⟨hboundary.1, behind, rfl, hboundary.2, (hahead behind).1 h⟩
    · cases h
  · rintro ⟨hbefore, behind, rfl, hbehind, h⟩
    refine ⟨behind, rfl, ?_⟩
    rw [if_pos (Bool.and_eq_true_iff.2 ⟨(hlabel.boundary_opens _ _).2 hbefore, (hlabel.boundary_closes _ _).2 hbehind⟩)]
    exact (hahead behind).2 h

theorem anyBody?_eq_some {label t body rest : Text} {before : Option Char} :
    anyBody? before t = some ((label, body), rest) ↔ IsLabel label ∧ (∀ c ∈ before, isWord c = false) ∧
      ∃ behind, t = label ++ behind ∧ Stops isWord behind ∧ BracedArray behind body rest := by
  constructor
  · intro h
    have hsplit : t = t.takeWhile isAsciiWord ++ t.dropWhile isAsciiWord := List.takeWhile_append_dropWhile.symm
    simp only [anyBody?] at h
    split at h
    · cases h
    · rename_i hskip
      simp only [Bool.or_eq_true, List.isEmpty_iff, not_or, Bool.not_eq_true, any_isWord_eq_false] at hskip
      obtain ⟨⟨hne, hbefore⟩, hstops⟩ := hskip
      obtain ⟨⟨body, rest⟩, hbody, heq⟩ := Option.map_eq_some_iff.1 h
      cases heq
      exact ⟨isLabel_takeWhile hne, hbefore, _, hsplit, hstops, bracedArray_iff.1 hbody⟩
  · rintro ⟨hlabel, hbefore, behind, rfl, hbehind, h⟩
    have hstops : Stops isAsciiWord behind := hbehind.of_isWord fun _ hc => hc
    simp only [anyBody?, takeWhile_run hlabel.ascii hstops, dropWhile_run hlabel.ascii hstops, hlabel.isEmpty,
      any_isWord_eq_false.2 hbefore, any_isWord_eq_false.2 hbehind, Bool.or_self, Bool.false_eq_true, if_false]
    exact Option.map_eq_some_iff.2 ⟨(body, rest), bracedArray_iff.2 h, rfl⟩

/-! ## Places in a text -/

theorem StandsAt.lt_length {t word behind : Text} {i : Nat} (h : StandsAt t i word behind) : i < t.length := by
  obtain ⟨before, rfl, rfl, hword, -⟩ := h
  have hpos := List.length_pos_iff.2 hword.nonempty
  rw [List.length_append, List.length_append]
  omega

theorem Reaches.lt_length {t label body rest : Text} {i : Nat} (h : Reaches t i label body rest) : i < t.length :=
  h.elim fun _ h => h.1.lt_length

theorem Initialises.lt_length {t label body rest : Text} {i : Nat} (h : Initialises t i label body rest) :
    i < t.length :=
  h.2.elim fun _ h => h.1.lt_length

theorem reaches_iff {t label body rest : Text} {i : Nat} (hlabel : IsLabel label) (hi : i ≤ t.length) :
    Reaches t i label body rest ↔ readAt (labelledBody? label) t i = some (body, rest) := by
  rw [readAt_eq_some hi]
  constructor
  · rintro ⟨behind, ⟨before, rfl, rfl, hword, hbehind⟩, h⟩
    exact ⟨before, _, rfl, rfl, (labelledBody?_eq_some hlabel).2 ⟨hword.begins, behind, rfl, hbehind, h⟩⟩
  · rintro ⟨before, found, rfl, rfl, h⟩
    obtain ⟨hbefore, behind, rfl, hbehind, h⟩ := (labelledBody?_eq_some hlabel).1 h
    exact ⟨behind, ⟨before, rfl, rfl, ⟨hlabel.nonempty, hlabel.ofWord, hbefore⟩, hbehind⟩, h⟩

theorem initialises_iff {t label body rest : Text} {i : Nat} (hi : i ≤ t.length) :
    Initialises t i label body rest ↔ readAt anyBody? t i = some ((label, body), rest) := by
  rw [readAt_eq_some hi]
  constructor
  · rintro ⟨hlabel, behind, ⟨before, rfl, rfl, hword, hbehind⟩, h⟩
    exact ⟨before, _, rfl, rfl, anyBody?_eq_some.2 ⟨hlabel, hword.begins, behind, rfl, hbehind, h⟩⟩
  · rintro ⟨before, found, rfl, rfl, h⟩
    obtain ⟨hlabel, hbefore, behind, rfl, hbehind, h⟩ := anyBody?_eq_some.1 h
    exact ⟨hlabel, behind, ⟨before, rfl, rfl, ⟨hlabel.nonempty, hlabel.ofWord, hbefore⟩, hbehind⟩, h⟩

/-- From where an array is initialised, braces are reached. -/
theorem Initialises.reaches {t label body rest : Text} {i : Nat} (h : Initialises t i label body rest) :
    ∃ body' rest', Reaches t i label body' rest' := by
  obtain ⟨-, behind, hstands, hbraced⟩ := h
  by_cases hbehind : ∃ body' rest', BracedBehind behind body' rest'
  · obtain ⟨body', rest', hbehind⟩ := hbehind
    exact ⟨body', rest', behind, hstands, .inl hbehind⟩
  · simp only [not_exists] at hbehind
    rcases hbraced with hbraced | ⟨gap, dimension, inner, rfl, hgap, hnot, hbraced⟩
    · exact ⟨body, rest, behind, hstands, .inr ⟨hbraced, hbehind⟩⟩
    · refine absurd ⟨gap ++ '[' :: dimension, inner, by simp, ?_, hbraced⟩ (hbehind body rest)
      have hblank : ']' ∉ gap := fun hmem => absurd (hgap _ hmem) (by decide)
      simp [hblank, hnot]

/-! ## The two readers -/

/-- The first mention of the label from which braces are reached reaches those around `body`. -/
def ReachesFirst (t label body : Text) : Prop :=
  ∃ i rest, Reaches t i label body rest ∧ ∀ j < i, ∀ body' rest', ¬ Reaches t j label body' rest'

/-- The elements of the label's array, or none if it is not initialised. -/
def HasElements (t label : Text) (es : List Text) : Prop :=
  (∃ i body rest, Initialises t i label body rest ∧ es = elements body) ∨
    es = [] ∧ ∀ i body rest, ¬ Initialises t i label body rest

/-- The array of the label is initialised at one place at most. -/
def InitialisedOnce (t label : Text) : Prop :=
  ∀ i j body body' rest rest', Initialises t i label body rest → Initialises t j label body' rest' → i = j

/-- No other array that is initialised before the label's reaches into it. -/
def InitialisedApart (t label : Text) : Prop :=
  ∀ i j other body body' rest rest', Initialises t i label body rest → Initialises t j other body' rest' → j < i →
    t.length ≤ i + rest'.length

section
variable {t label : Text}

theorem ReachesFirst.unique (hlabel : IsLabel label) {body body' : Text} (h : ReachesFirst t label body)
    (h' : ReachesFirst t label body') : body = body' := by
  obtain ⟨i, rest, hreach, hfirst⟩ := h
  obtain ⟨j, rest', hreach', hfirst'⟩ := h'
  rcases Nat.lt_trichotomy i j with hij | rfl | hji
  · exact absurd hreach (hfirst' i hij _ _)
  · have hi := Nat.le_of_lt hreach.lt_length
    have hread := (reaches_iff hlabel hi).1 hreach
    rw [(reaches_iff hlabel hi).1 hreach'] at hread
    cases hread
    rfl
  · exact absurd hreach' (hfirst j hji _ _)

/-- **The array with a label** is the one that its mentions reach first. -/
theorem array_eq (hlabel : IsLabel label) :
    (array t label = [] ∧ ∀ i body rest, ¬ Reaches t i label body rest) ∨
      ∃ body, ReachesFirst t label body ∧ array t label = elements body := by
  have hempty : label.isEmpty = false := by simpa using hlabel.nonempty
  have hnone {i : Nat} (hi : i ≤ t.length) : readAt (labelledBody? label) t i = none ↔
      ∀ body rest, ¬ Reaches t i label body rest := by
    rw [Option.eq_none_iff_forall_ne_some]
    simp only [ne_eq, Prod.forall, reaches_iff hlabel hi]
  cases hscan : scanAt (labelledBody? label) t with
  | nil =>
    refine .inl ⟨by rw [array, scan, hscan, hempty]; rfl, fun i body rest h => ?_⟩
    exact (hnone (Nat.le_of_lt h.lt_length)).1 (scanAt_eq_nil.1 hscan i h.lt_length) body rest h
  | cons e es =>
    obtain ⟨hlt, ⟨rest, hread⟩, hleft⟩ := head?_scanAt.1 (by rw [hscan]; rfl : _ = some (e.1, e.2))
    refine .inr ⟨e.2, ⟨e.1, rest, (reaches_iff hlabel (Nat.le_of_lt hlt)).2 hread, fun j hj => ?_⟩, ?_⟩
    · exact (hnone (by omega)).1 (hleft j hj)
    · rw [array, scan, hscan, hempty]
      rfl

theorem InitialisedOnce.unique (honce : InitialisedOnce t label) {i j : Nat} {body body' rest rest' : Text}
    (h : Initialises t i label body rest) (h' : Initialises t j label body' rest') : body = body' := by
  obtain rfl := honce i j _ _ _ _ h h'
  have hread := (initialises_iff (Nat.le_of_lt h.lt_length)).1 h
  rw [(initialises_iff (Nat.le_of_lt h.lt_length)).1 h'] at hread
  cases hread
  rfl

theorem HasElements.unique (honce : InitialisedOnce t label) {es es' : List Text} (h : HasElements t label es)
    (h' : HasElements t label es') : es = es' := by
  rcases h with ⟨i, body, rest, h, rfl⟩ | ⟨rfl, hnone⟩
  · rcases h' with ⟨j, body', rest', h', rfl⟩ | ⟨-, hnone⟩
    · rw [honce.unique h h']
    · exact absurd h (hnone i body rest)
  · rcases h' with ⟨j, body', rest', h', -⟩ | ⟨rfl, -⟩
    · exact absurd h' (hnone j body' rest')
    · rfl

theorem mem_entries {es : List Text} : (label, es) ∈ (scan anyBody? t).map (fun e => (e.1, elements e.2)) ↔
    ∃ i body, (i, label, body) ∈ scanAt anyBody? t ∧ es = elements body := by
  simp only [scan, List.map_map, List.mem_map, Function.comp, Prod.mk.injEq, Prod.exists]
  constructor
  · rintro ⟨i, other, body, hmem, rfl, rfl⟩
    exact ⟨i, body, hmem, rfl⟩
  · rintro ⟨i, body, hmem, rfl⟩
    exact ⟨i, label, body, hmem, rfl, rfl⟩

theorem exists_initialises {i : Nat} {body : Text} (h : (i, label, body) ∈ scanAt anyBody? t) :
    ∃ rest, Initialises t i label body rest := by
  obtain ⟨hlt, rest, hread⟩ := readAt_of_mem_scanAt h
  exact ⟨rest, (initialises_iff (Nat.le_of_lt hlt)).2 hread⟩

/-- **An array among all** has the elements of its braces, if its label is initialised once and not within another. -/
theorem find?_arrays (honce : InitialisedOnce t label) (hapart : InitialisedApart t label) {i : Nat} {body rest : Text}
    (h : Initialises t i label body rest) : (arrays t).find? label = some (elements body) := by
  have hi := h.lt_length
  have hscan : (i, label, body) ∈ scanAt anyBody? t := by
    refine mem_scanAt_of_readAt hi ((initialises_iff (Nat.le_of_lt hi)).1 h) fun j b rest' hj hread => ?_
    exact hapart i j b.1 body b.2 rest rest' h ((initialises_iff (by omega)).2 hread) hj
  refine Entries.find?_ofList_of_mem (mem_entries.2 ⟨i, body, hscan, rfl⟩) fun es hes => ?_
  obtain ⟨j, body', hscan', rfl⟩ := mem_entries.1 hes
  obtain ⟨rest', h'⟩ := exists_initialises hscan'
  rw [honce.unique h h']

theorem hasElements_arrays (honce : InitialisedOnce t label) (hapart : InitialisedApart t label) :
    HasElements t label (((arrays t).find? label).getD []) := by
  by_cases hown : ∃ i body rest, Initialises t i label body rest
  · obtain ⟨i, body, rest, hown⟩ := hown
    exact .inl ⟨i, body, rest, hown, by rw [find?_arrays honce hapart hown, Option.getD_some]⟩
  · simp only [not_exists] at hown
    refine .inr ⟨?_, hown⟩
    cases hfind : (arrays t).find? label with
    | none => rfl
    | some es =>
      obtain ⟨i, body, hscan, -⟩ := mem_entries.1 (Entries.mem_of_find?_ofList hfind)
      obtain ⟨rest, h⟩ := exists_initialises hscan
      exact absurd h (hown i body rest)

/-- **The two readers agree** on a label that is initialised once, and not within another array, if and only if the
braces that its mentions reach first have the elements of its own array. -/
theorem array_agrees_iff (hlabel : IsLabel label) (honce : InitialisedOnce t label)
    (hapart : InitialisedApart t label) :
    array t label = ((arrays t).find? label).getD [] ↔
      ∀ body, ReachesFirst t label body → HasElements t label (elements body) := by
  have hown := hasElements_arrays honce hapart
  obtain ⟨hnil, hnone⟩ | ⟨body, hfirst, harray⟩ := array_eq (t := t) hlabel
  · constructor
    · rintro - body ⟨i, rest, hreach, -⟩
      exact absurd hreach (hnone i body rest)
    · intro _
      rcases hown with ⟨i, body, rest, hown, -⟩ | ⟨hnil', -⟩
      · obtain ⟨body', rest', hreach⟩ := hown.reaches
        exact absurd hreach (hnone i body' rest')
      · rw [hnil, hnil']
  · constructor
    · intro h body' hfirst'
      rw [hfirst'.unique hlabel hfirst, ← harray, h]
      exact hown
    · intro h
      rw [harray]
      exact (h body hfirst).unique honce hown

end

/-- Where one place only is read as an array, no label is initialised twice, nor within another. -/
theorem initialised_of_readAt {t label : Text} {n : Nat}
    (h : ∀ i < t.length, i ≠ n → readAt anyBody? t i = none) : InitialisedOnce t label ∧ InitialisedApart t label := by
  have hplace {i : Nat} {label body rest : Text} (hinit : Initialises t i label body rest) : i = n := by
    by_contra hne
    have hread := (initialises_iff (Nat.le_of_lt hinit.lt_length)).1 hinit
    rw [h i hinit.lt_length hne] at hread
    cases hread
  constructor
  · intro i j body body' rest rest' hi hj
    rw [hplace hi, hplace hj]
  · intro i j other body body' rest rest' hi hj hlt
    rw [hplace hi, hplace hj] at hlt
    exact absurd hlt (Nat.lt_irrefl n)

def mentionedBefore : Text := "p = a; a[2] = \x7b1, b\x7d;".toList

/-- A label that is mentioned before its array, with no other array between. -/
theorem array_agrees_iff_mentioned : IsLabel "a".toList ∧ InitialisedOnce mentionedBefore "a".toList ∧
    InitialisedApart mentionedBefore "a".toList ∧
    array mentionedBefore "a".toList = ((arrays mentionedBefore).find? "a".toList).getD [] := by
  have hlabel : IsLabel "a".toList := ⟨by decide, List.all_eq_true.1 (by decide)⟩
  obtain ⟨honce, hapart⟩ : InitialisedOnce mentionedBefore "a".toList ∧ InitialisedApart mentionedBefore "a".toList :=
    initialised_of_readAt (n := 7) (by decide)
  refine ⟨hlabel, honce, hapart, (array_agrees_iff hlabel honce hapart).2 fun body hfirst => ?_⟩
  have hreach : ReachesFirst mentionedBefore "a".toList "1, b".toList := by
    refine ⟨4, ";".toList, (reaches_iff hlabel (by decide)).2 (by decide), fun j hj body rest h => ?_⟩
    have hnone : ∀ j < 4, readAt (labelledBody? "a".toList) mentionedBefore j = none := by decide
    rw [reaches_iff hlabel (Nat.le_trans (Nat.le_of_lt hj) (by decide)), hnone j hj] at h
    cases h
  rw [hfirst.unique hlabel hreach]
  exact .inl ⟨7, "1, b".toList, ";".toList, (initialises_iff (by decide)).2 (by decide), rfl⟩

def mentionedOnly : Text := "p = a;\nb[2] = \x7b1, 2\x7d;\n".toList

/-- A label that is only mentioned gets the elements of the array that follows. -/
theorem array_reaches_other : (mentionedOnly.all fun c => c.toNat < 128) ∧
    (∀ label, InitialisedOnce mentionedOnly label) ∧ IsLabel "a".toList ∧
    array mentionedOnly "a".toList = ["1".toList, "2".toList] ∧
    ((arrays mentionedOnly).find? "a".toList).getD [] = [] :=
  ⟨by decide, fun _ => (initialised_of_readAt (n := 7) (by decide)).1,
    ⟨by decide, List.all_eq_true.1 (by decide)⟩, by decide, by decide⟩

end Table

end GameSource
