import GameSource.Proofs.Table.Agreement
import GameSource.Proofs.Text.Passed
/-!
# Printed declarations

A list has items with commas between them (`Listed`), a file has declarations with semicolons behind them (`Declared`),
and white space may stand between all of these.  What a reader finds in such a text is what it finds of the parts
(`scanBehind_listed`, `map_scanBehind_declared`).  A reader that begins with a label goes over the type in front of it
(`LedByLabel.type`).
-/
namespace GameSource

namespace Table

/-- White space, ends of lines included, or nothing. -/
def IsSpacing (t : Text) : Prop := ∀ c ∈ t, isSpace c

instance (t : Text) : Decidable (IsSpacing t) := decidable_of_iff (t.all isSpace = true) List.all_eq_true

/-- **The text has the items**, with commas between them or behind them.  White space may stand around each item, and
before a comma there may be none. -/
inductive Listed {α : Type} (Spells : α → Text → Prop) : List α → Text → Prop where
  | nil {gap : Text} (hg : IsSpacing gap) : Listed Spells [] gap
  | skip {as : List α} {gap t : Text} (hg : IsSpacing gap) (hs : Listed Spells as t) : Listed Spells as (gap ++ ',' :: t)
  | last {a : α} {left p right : Text} (hl : IsSpacing left) (h : Spells a p) (hr : IsSpacing right) :
      Listed Spells [a] (left ++ (p ++ right))
  | cons {a : α} {as : List α} {left p right t : Text} (hl : IsSpacing left) (h : Spells a p) (hr : IsSpacing right)
      (hs : Listed Spells as t) : Listed Spells (a :: as) (left ++ (p ++ (right ++ ',' :: t)))

/-- **The text has the declarations**, each with a semicolon behind it, and white space between them or not. -/
inductive Declared {δ : Type} (Spells : δ → Text → Prop) : List δ → Text → Prop where
  | nil {gap : Text} (hg : IsSpacing gap) : Declared Spells [] gap
  | cons {d : δ} {ds : List δ} {gap p t : Text} (hg : IsSpacing gap) (h : Spells d p) (hs : Declared Spells ds t) :
      Declared Spells (d :: ds) (gap ++ (p ++ ';' :: t))

section
variable {α β δ : Type} {Spells : α → Text → Prop}

theorem IsSpacing.not_mem {t : Text} (h : IsSpacing t) {c : Char} (hc : isSpace c = false) : c ∉ t := fun hmem => by
  have hspace := h c hmem
  rw [hc] at hspace
  cases hspace

theorem IsSpacing.filter {t : Text} (h : IsSpacing t) : t.filter (!isSpace ·) = [] :=
  List.filter_eq_nil_iff.2 fun c hc => by simp [h c hc]

theorem scanBehind_spacing {r : Recognizer β} (hspace : ∀ c, isSpace c → ∀ before t, r before (c :: t) = none)
    {gap : Text} (hg : IsSpacing gap) (before : Option Char) (rest : Text) :
    scanBehind r before (gap ++ rest) = scanBehind r (gap.getLast?.or before) rest :=
  scanBehind_class fun c hc => hspace c (hg c hc)

theorem scanBehind_spaces {r : Recognizer β} (hspace : ∀ c, isSpace c → ∀ before t, r before (c :: t) = none)
    {gap : Text} (hg : IsSpacing gap) (before : Option Char) : scanBehind r before gap = [] := by
  have hall := scanBehind_spacing hspace hg before []
  rwa [List.append_nil] at hall

/-! ## Lists -/

theorem Listed.not_mem {as : List α} {t : Text} (h : Listed Spells as t) {c : Char} (hspace : isSpace c = false)
    (hcomma : c ≠ ',') (hitem : ∀ a p, Spells a p → c ∉ p) : c ∉ t := by
  induction h with
  | nil hg => exact hg.not_mem hspace
  | skip hg _ ih => simp [hg.not_mem hspace, hcomma, ih]
  | last hl h hr => simp [hl.not_mem hspace, hitem _ _ h, hr.not_mem hspace]
  | cons hl h hr _ ih => simp [hl.not_mem hspace, hitem _ _ h, hr.not_mem hspace, hcomma, ih]

theorem Listed.filter {as : List α} {t : Text} {Spells' : α → Text → Prop} (h : Listed Spells as t)
    (hitem : ∀ a p, Spells a p → Spells' a (p.filter (!isSpace ·))) : Listed Spells' as (t.filter (!isSpace ·)) := by
  have hnone : IsSpacing [] := by simp [IsSpacing]
  have hcomma (t : Text) : (',' :: t).filter (!isSpace ·) = ',' :: t.filter (!isSpace ·) :=
    List.filter_cons_of_pos (by decide)
  induction h with
  | nil hg =>
    rw [hg.filter]
    exact .nil hnone
  | skip hg _ ih =>
    rw [List.filter_append, hg.filter, hcomma]
    exact .skip hnone ih
  | last hl h hr =>
    rw [List.filter_append, List.filter_append, hl.filter, hr.filter]
    exact .last hnone (hitem _ _ h) hnone
  | cons hl h hr _ ih =>
    rw [List.filter_append, List.filter_append, List.filter_append, hl.filter, hr.filter, hcomma]
    exact .cons hnone (hitem _ _ h) hnone ih

/-- White space, a comma or nothing follows. -/
def EndsItem (t : Text) : Prop := ∀ c ∈ t.head?, isSpace c ∨ c = ','

theorem EndsItem.spacing {gap rest : Text} (hg : IsSpacing gap) (h : EndsItem rest) : EndsItem (gap ++ rest) := by
  cases gap with
  | nil => exact h
  | cons c gap =>
    intro d hd
    obtain rfl : c = d := by simpa using hd
    exact .inl (hg c (by simp))

/-- **The items of a list are found in order** by a reader that reads each of them up to its end. -/
theorem scanBehind_listed {r : Recognizer β} {v : α → β} {as : List α} {t : Text} (h : Listed Spells as t)
    (hbetween : ∀ c, isSpace c ∨ c = ',' → ∀ before t, r before (c :: t) = none)
    (hitem : ∀ a p, Spells a p → p ≠ [] ∧
      ∀ before rest, EndsItem rest → r before (p ++ rest) = some (v a, rest)) :
    ∀ before, scanBehind r before t = as.map v := by
  have hgap := fun {gap : Text} (hg : IsSpacing gap) => scanBehind_spacing (fun c hc => hbetween c (.inl hc)) hg
  have hspaces := fun {gap : Text} (hg : IsSpacing gap) => scanBehind_spaces (fun c hc => hbetween c (.inl hc)) hg
  have hcomma (before : Option Char) (t : Text) : scanBehind r before (',' :: t) = scanBehind r (some ',') t :=
    scanBehind_skip (hbetween ',' (.inr rfl) before t)
  have hread {a : α} {p : Text} (h : Spells a p) {rest : Text} (hrest : EndsItem rest) (before : Option Char) :
      scanBehind r before (p ++ rest) = v a :: scanBehind r (p.getLast?.or before) rest :=
    scanBehind_read (hitem a p h).1 ((hitem a p h).2 before rest hrest)
  -- By induction for any character before the list: behind each part that is the last one of the part.
  induction h with
  | nil hg => exact hspaces hg
  | skip hg _ ih =>
    intro before
    rw [hgap hg, hcomma, ih]
  | @last a left p right hl h hr =>
    intro before
    have hend : EndsItem right := by
      have hnothing : EndsItem (right ++ []) := .spacing hr (by simp [EndsItem])
      rwa [List.append_nil] at hnothing
    rw [hgap hl, hread h hend, hspaces hr]
    rfl
  | @cons a as left p right t hl h hr _ ih =>
    intro before
    have hend : EndsItem (right ++ ',' :: t) := .spacing hr (by simp [EndsItem])
    rw [hgap hl, hread h hend, hgap hr, hcomma, ih]
    rfl

/-! ## Declarations -/

/-- A word may begin behind the character. -/
def NoWordBefore (before : Option Char) : Prop := ∀ c ∈ before, isWord c = false

instance (before : Option Char) : Decidable (NoWordBefore before) :=
  decidable_of_iff (before.any isWord = false) any_isWord_eq_false

theorem NoWordBefore.spacing {before : Option Char} (h : NoWordBefore before) {gap : Text} (hg : IsSpacing gap) :
    NoWordBefore (gap.getLast?.or before) := by
  cases hlast : gap.getLast? with
  | none => exact h
  | some d =>
    intro c hc
    obtain rfl : d = c := by simpa using hc
    exact isWord_of_isSpace (hg d (List.mem_of_getLast? hlast))

theorem Declared.of_eq {Spells : δ → Text → Prop} {ds : List δ} {t u : Text} (h : Declared Spells ds t) (heq : t = u) :
    Declared Spells ds u := heq ▸ h

theorem Declared.of_mem {Spells : δ → Text → Prop} {ds : List δ} {t : Text} (h : Declared Spells ds t) {d : δ}
    (hd : d ∈ ds) : ∃ p, Spells d p := by
  induction h with
  | nil _ => cases hd
  | cons _ hp _ ih =>
    rcases List.mem_cons.1 hd with rfl | hd
    · exact ⟨_, hp⟩
    · exact ih hd

/-- **Declarations are found in order** by a reader that finds one piece of each of them. -/
theorem map_scanBehind_declared {Spells : δ → Text → Prop} {r : Recognizer β} {f : β → δ} {ds : List δ} {t : Text}
    (h : Declared Spells ds t) (hspace : ∀ c, isSpace c → ∀ before t, r before (c :: t) = none)
    (hone : ∀ d p, Spells d p → ∃ b, f b = d ∧ ∀ before rest, NoWordBefore before →
      scanBehind r before (p ++ ';' :: rest) = b :: scanBehind r (some ';') rest) :
    ∀ before, NoWordBefore before → (scanBehind r before t).map f = ds := by
  induction h with
  | nil hg =>
    intro before _
    rw [scanBehind_spaces hspace hg]
    rfl
  | cons hg h _ ih =>
    intro before hbefore
    obtain ⟨b, hb, hscan⟩ := hone _ _ h
    rw [scanBehind_spacing hspace hg, hscan _ _ (hbefore.spacing hg), List.map_cons, hb, ih (some ';') (by decide)]

end

/-! ## Labels -/

def opensValue (c : Char) : Bool := c == '[' || c == ']' || c == '='

/-- Neither a dimension nor a value comes next. -/
def Idle (t : Text) : Prop := Stops opensValue (t.dropWhile isSpace)

/-- The recognizer begins with a label, and reads nothing unless a dimension or a value comes behind it. -/
structure LedByLabel {α : Type} (r : Recognizer α) : Prop where
  other : ∀ c, isWord c = false → ∀ before t, r before (c :: t) = none
  idle : ∀ {w rest : Text}, IsLabel w → Stops isWord rest → Idle rest → ∀ before, r before (w ++ rest) = none

theorem IsLabel.suffix {w s q : Text} (h : IsLabel w) (hsplit : w = s ++ q) (hne : q ≠ []) : IsLabel q :=
  ⟨hne, fun c hc => h.ascii c (by rw [hsplit]; exact List.mem_append_right s hc)⟩

theorem IsLabel.ne_append {w : Text} (h : IsLabel w) {c : Char} (hc : isWord c = false) (t behind : Text) :
    c :: t ≠ w ++ behind := by
  intro hsplit
  obtain ⟨d, w, rfl⟩ := List.exists_cons_of_ne_nil h.nonempty
  obtain rfl : c = d := (List.cons.inj hsplit).1
  rw [h.ofWord c (by simp)] at hc
  cases hc

theorem idle_of_isWord {c : Char} (h : isWord c) (t : Text) : Idle (c :: t) := by
  have hopens : opensValue c = false := by
    simp [opensValue, ne_of_isWord h (by decide : isWord '[' = false),
      ne_of_isWord h (by decide : isWord ']' = false), ne_of_isWord h (by decide : isWord '=' = false)]
  unfold Idle
  rw [List.dropWhile_cons_of_neg (by simp [isSpace_of_isWord h])]
  exact .cons hopens

theorem Idle.label {w : Text} (h : IsLabel w) (rest : Text) : Idle (w ++ rest) := by
  obtain ⟨c, w, rfl⟩ := List.exists_cons_of_ne_nil h.nonempty
  exact idle_of_isWord (h.ofWord c (by simp)) (w ++ rest)

theorem Idle.space {t : Text} (h : Idle t) : Idle (' ' :: t) := by
  unfold Idle
  rwa [List.dropWhile_cons_of_pos (by decide)]

theorem stops_of_not_idle {t : Text} (h : ¬ Idle t) : Stops isWord t := by
  intro c hc
  obtain ⟨t, rfl⟩ := List.head?_eq_some_iff.1 hc
  cases hw : isWord c with
  | false => rfl
  | true => exact absurd (idle_of_isWord hw t) h

namespace LedByLabel

variable {α : Type} {r : Recognizer α} {before : Option Char}

/-- All that the recognizer reads is a label with a dimension or a value behind it. -/
theorem of_reads (hreads : ∀ before t a rest, r before t = some (a, rest) →
    ∃ label behind, t = label ++ behind ∧ IsLabel label ∧ ¬ Idle behind) : LedByLabel r where
  other := by
    intro c hc before t
    refine Option.eq_none_iff_forall_ne_some.2 fun piece h => ?_
    obtain ⟨label, behind, hsplit, hlabel, -⟩ := hreads before (c :: t) piece.1 piece.2 h
    exact hlabel.ne_append hc t behind hsplit
  idle := by
    intro w rest hw hrest hidle before
    refine Option.eq_none_iff_forall_ne_some.2 fun piece h => ?_
    obtain ⟨label, behind, hsplit, hlabel, hbehind⟩ := hreads before (w ++ rest) piece.1 piece.2 h
    obtain ⟨-, rfl⟩ := run_unique hw.ofWord hlabel.ofWord hrest (stops_of_not_idle hbehind) hsplit
    exact hbehind hidle

theorem space (h : LedByLabel r) : ∀ c, isSpace c → ∀ before t, r before (c :: t) = none := fun c hc =>
  h.other c (isWord_of_isSpace hc)

theorem marks (h : LedByLabel r) {p : Text} (hp : p.all (!isWord ·)) (rest : Text) :
    scanBehind r before (p ++ rest) = scanBehind r (p.getLast?.or before) rest :=
  scanBehind_class fun c hc => h.other c (by simpa using List.all_eq_true.1 hp c hc)

theorem word (h : LedByLabel r) {w rest : Text} (hw : IsLabel w) (hrest : Stops isWord rest) (hidle : Idle rest) :
    scanBehind r before (w ++ rest) = scanBehind r (w.getLast?.or before) rest :=
  scanBehind_passed fun _ _ hsplit hne => h.idle (hw.suffix hsplit hne) hrest hidle _

theorem word_space (h : LedByLabel r) {w rest : Text} (hw : IsLabel w) (hidle : Idle rest) :
    scanBehind r before (w ++ ' ' :: rest) = scanBehind r (some ' ') rest := by
  rw [h.word hw (.cons (by decide)) hidle.space, scanBehind_skip (h.other ' ' (by decide) _ _)]

/-- **The type of a declaration is gone over.** -/
theorem type (h : LedByLabel r) {type label : Text} (htype : IsLabel type) (hlabel : IsLabel label) (rest : Text) :
    scanBehind r before ("const ".toList ++ (type ++ ' ' :: (label ++ rest))) =
      scanBehind r (some ' ') (label ++ rest) := by
  have hconst : IsLabel "const".toList := ⟨by decide, List.all_eq_true.1 rfl⟩
  have hcut : "const ".toList ++ (type ++ ' ' :: (label ++ rest)) =
      "const".toList ++ ' ' :: (type ++ ' ' :: (label ++ rest)) := rfl
  rw [hcut, h.word_space hconst (.label htype _), h.word_space htype (.label hlabel rest)]

theorem pointerType (h : LedByLabel r) {type label : Text} (htype : IsLabel type) (hlabel : IsLabel label)
    (rest : Text) : scanBehind r before ("const ".toList ++ (type ++ (" *const ".toList ++ (label ++ rest)))) =
      scanBehind r (some ' ') (label ++ rest) := by
  have hconst : IsLabel "const".toList := ⟨by decide, List.all_eq_true.1 rfl⟩
  have hstar (t : Text) : Idle ('*' :: t) := .cons (by decide)
  have hcut : "const ".toList ++ (type ++ (" *const ".toList ++ (label ++ rest))) =
      "const".toList ++ ' ' :: (type ++ ' ' :: '*' :: ("const".toList ++ ' ' :: (label ++ rest))) := rfl
  rw [hcut, h.word_space hconst (.label htype _), h.word_space htype (hstar _),
    scanBehind_skip (h.other '*' (by decide) _ _), h.word_space hconst (.label hlabel rest)]

end LedByLabel

end Table

end GameSource
