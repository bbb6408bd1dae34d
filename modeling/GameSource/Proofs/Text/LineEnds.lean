import GameSource.Proofs.Text.Lines
import GameSource.Text.Locate
/-!
# Lines, whatever they end with

A line ends with a line feed, with a carriage return, or with both in this order, which are one end then.  Every text is
its lines with their ends in exactly one way (`exists_lined`, `Lined.unique`).  Where line ends are made uniform, each of
them becomes one line feed and the lines stay as they are (`Lined.unified`).
-/
namespace GameSource

/-! ## Uniform line ends -/

theorem unifyLineEnds_cons {c : Char} (h : c ≠ '\r') (t : Text) : unifyLineEnds (c :: t) = c :: unifyLineEnds t := by
  rw [unifyLineEnds]
  · rintro cs rfl -
    exact h rfl
  · exact fun heq => h heq

theorem not_mem_unifyLineEnds : ∀ t : Text, '\r' ∉ unifyLineEnds t := by
  intro t
  fun_induction unifyLineEnds t with
  | case1 => simp
  | case2 cs ih => simpa using ih
  | case3 cs h ih => simpa using ih
  | case4 c cs h h' ih =>
    have hc : c ≠ '\r' := h'
    simpa [Ne.symm hc] using ih

theorem mem_of_mem_unifyLineEnds {c : Char} {t : Text} (h : c ∈ unifyLineEnds t) : c ∈ t ∨ c = '\n' := by
  fun_induction unifyLineEnds t with
  | case1 => cases h
  | case2 cs ih =>
    rcases List.mem_cons.1 h with rfl | h
    · exact .inr rfl
    · exact (ih h).imp_left fun hmem => List.mem_cons_of_mem _ (List.mem_cons_of_mem _ hmem)
  | case3 cs _ ih =>
    rcases List.mem_cons.1 h with rfl | h
    · exact .inr rfl
    · exact (ih h).imp_left (List.mem_cons_of_mem _)
  | case4 d cs _ _ ih =>
    rcases List.mem_cons.1 h with rfl | h
    · exact .inl List.mem_cons_self
    · exact (ih h).imp_left (List.mem_cons_of_mem _)

/-- Before a carriage return nothing changes. -/
theorem unifyLineEnds_append {line : Text} (h : '\r' ∉ line) (rest : Text) :
    unifyLineEnds (line ++ rest) = line ++ unifyLineEnds rest := by
  induction line with
  | nil => rfl
  | cons c line ih =>
    obtain ⟨hc, hline⟩ := not_or.1 fun hmem => h (List.mem_cons.2 hmem)
    rw [List.cons_append, unifyLineEnds_cons (Ne.symm hc), ih hline, List.cons_append]

theorem unifyLineEnds_of_not_mem {t : Text} (h : '\r' ∉ t) : unifyLineEnds t = t := by
  have happend := unifyLineEnds_append h []
  rwa [List.append_nil, unifyLineEnds, List.append_nil] at happend

/-! ## Lines and their ends -/

/-- How a line may end: with a line feed, a carriage return, or a carriage return and a line feed behind it. -/
inductive LineEnd where
  | feed | carriage | both
  deriving DecidableEq, Repr

namespace LineEnd

def text : LineEnd → Text
  | feed => ['\n']
  | carriage => ['\r']
  | both => ['\r', '\n']

/-- The end does not go on: a line feed behind a carriage return belongs to the same end. -/
def StopsAt (e : LineEnd) (rest : Text) : Prop := e = carriage → rest.head? ≠ some '\n'

instance (e : LineEnd) (rest : Text) : Decidable (e.StopsAt rest) := inferInstanceAs (Decidable (_ → _))

theorem unifyLineEnds_text {e : LineEnd} {rest : Text} (h : e.StopsAt rest) :
    unifyLineEnds (e.text ++ rest) = '\n' :: unifyLineEnds rest := by
  cases e with
  | feed => exact unifyLineEnds_cons (by decide) rest
  | both => rfl
  | carriage =>
    rw [text, List.singleton_append, unifyLineEnds]
    rintro cs rfl
    exact h rfl rfl

/-- An end is told by the text that begins with it. -/
theorem text_unique {e e' : LineEnd} {rest rest' : Text} (h : e.StopsAt rest) (h' : e'.StopsAt rest')
    (htext : e.text ++ rest = e'.text ++ rest') : e = e' ∧ rest = rest' := by
  cases e <;> cases e' <;> simp only [text, List.cons_append, List.nil_append, List.cons.injEq, reduceCtorEq,
    Char.reduceEq, true_and, false_and] at htext ⊢
  · exact htext
  · exact htext
  · exact absurd (congrArg List.head? htext) (h rfl)
  · exact absurd (congrArg List.head? htext.symm) (h' rfl)
  · exact htext

end LineEnd

/-- What may stand on one line. -/
def IsLine (line : Text) : Prop := '\r' ∉ line ∧ '\n' ∉ line

instance (line : Text) : Decidable (IsLine line) := inferInstanceAs (Decidable (_ ∧ _))

theorem IsLine.nil : IsLine [] := ⟨List.not_mem_nil, List.not_mem_nil⟩

theorem IsLine.ne {line : Text} (h : IsLine line) {c : Char} (hc : c ∈ line) : c ≠ '\r' ∧ c ≠ '\n' :=
  ⟨fun heq => h.1 (heq ▸ hc), fun heq => h.2 (heq ▸ hc)⟩

/-- The text is the lines with the ends that they have, and behind them what stands on a line without an end. -/
inductive Lined : Text → List (Text × LineEnd) → Text → Prop
  | last {line : Text} (hline : IsLine line) : Lined line [] line
  | ended {line rest last : Text} {e : LineEnd} {ended : List (Text × LineEnd)} (hline : IsLine line)
      (hend : e.StopsAt rest) (hrest : Lined rest ended last) :
      Lined (line ++ (e.text ++ rest)) ((line, e) :: ended) last

/-- A character that ends no line goes to the first of the lines. -/
theorem Lined.cons {t last : Text} {ended : List (Text × LineEnd)} {c : Char} (hc : c ≠ '\r' ∧ c ≠ '\n')
    (h : Lined t ended last) : ∃ ended' last', Lined (c :: t) ended' last' := by
  have hcons {line : Text} (hline : IsLine line) : IsLine (c :: line) :=
    ⟨List.not_mem_cons_of_ne_of_not_mem hc.1.symm hline.1, List.not_mem_cons_of_ne_of_not_mem hc.2.symm hline.2⟩
  cases h with
  | last hline => exact ⟨_, _, .last (hcons hline)⟩
  | ended hline hend hrest => exact ⟨_, _, .ended (hcons hline) hend hrest⟩

/-- **Every text is lines with their ends.** -/
theorem exists_lined (t : Text) : ∃ ended last, Lined t ended last := by
  fun_induction unifyLineEnds t with
  | case1 => exact ⟨[], [], .last .nil⟩
  | case2 cs ih =>
    obtain ⟨ended, last, h⟩ := ih
    exact ⟨_, _, .ended (e := .both) .nil (fun he => by cases he) h⟩
  | case3 cs hcs ih =>
    obtain ⟨ended, last, h⟩ := ih
    refine ⟨_, _, .ended (e := .carriage) .nil (fun _ hhead => ?_) h⟩
    obtain ⟨cs', rfl⟩ := List.head?_eq_some_iff.1 hhead
    exact hcs cs' rfl
  | case4 c cs _ hreturn ih =>
    obtain ⟨ended, last, h⟩ := ih
    by_cases hfeed : c = '\n'
    · subst hfeed
      exact ⟨_, _, .ended (e := .feed) .nil (fun he => by cases he) h⟩
    · exact h.cons ⟨hreturn, hfeed⟩

/-- What has an end in it is not on one line. -/
theorem not_isLine_append (line rest : Text) (e : LineEnd) : ¬IsLine (line ++ (e.text ++ rest)) := fun h => by
  cases e with
  | feed => exact h.2 (by simp [LineEnd.text])
  | carriage => exact h.1 (by simp [LineEnd.text])
  | both => exact h.2 (by simp [LineEnd.text])

namespace Lined
variable {t line rest last last' : Text} {e : LineEnd} {ended ended' : List (Text × LineEnd)}

theorem isLine (h : Lined t ended last) : (∀ line ∈ ended.map Prod.fst, IsLine line) ∧ IsLine last := by
  induction h with
  | last hline => exact ⟨fun _ hmem => (by cases hmem), hline⟩
  | ended hline _ _ ih => exact ⟨List.forall_mem_cons.2 ⟨hline, ih.1⟩, ih.2⟩

theorem of_isLine (hline : IsLine line) (h : Lined line ended last) : ended = [] ∧ last = line := by
  cases h with
  | last _ => exact ⟨rfl, rfl⟩
  | ended _ _ _ => exact absurd hline (not_isLine_append _ _ _)

theorem of_append (hline : IsLine line) (hend : e.StopsAt rest) (h : Lined (line ++ (e.text ++ rest)) ended last) :
    ∃ behind, ended = (line, e) :: behind ∧ Lined rest behind last := by
  generalize ht : line ++ (e.text ++ rest) = t at h
  cases h with
  | last hlast => exact absurd (ht ▸ hlast) (not_isLine_append _ _ _)
  | @ended line' rest' _ e' behind hline' hend' hrest =>
    let within (c : Char) : Bool := c != '\r' && c != '\n'
    have hrun {l : Text} (hl : IsLine l) : ∀ c ∈ l, within c := fun c hc => by simpa [within] using hl.ne hc
    have hstops (e : LineEnd) (rest : Text) : Stops within (e.text ++ rest) := by cases e <;> exact .cons rfl
    -- both lines are all that stands before the first character of an end
    obtain ⟨rfl, htext⟩ := run_unique (hrun hline) (hrun hline') (hstops e rest) (hstops e' rest') ht
    obtain ⟨rfl, rfl⟩ := LineEnd.text_unique hend hend' htext
    exact ⟨behind, rfl, hrest⟩

/-- **A text is lines with their ends in no other way.** -/
theorem unique (h : Lined t ended last) (h' : Lined t ended' last') : ended = ended' ∧ last = last' := by
  induction h generalizing ended' with
  | last hline =>
    obtain ⟨rfl, rfl⟩ := of_isLine hline h'
    exact ⟨rfl, rfl⟩
  | ended hline hend _ ih =>
    obtain ⟨behind, rfl, hbehind⟩ := of_append hline hend h'
    obtain ⟨rfl, rfl⟩ := ih hbehind
    exact ⟨rfl, rfl⟩

end Lined

/-! ## Lines one after the other -/

/-- The lines, each with a line feed behind it. -/
def closeLines (ls : List Text) : Text := ls.flatMap (· ++ ['\n'])

theorem closeLines_cons (line : Text) (ls : List Text) : closeLines (line :: ls) = line ++ '\n' :: closeLines ls := by
  simp [closeLines]

/-- A text of closed lines is empty or closed itself. -/
theorem closeLines_ends (ls : List Text) : closeLines ls = [] ∨ (closeLines ls).getLast? = some '\n' := by
  rcases List.eq_nil_or_concat ls with rfl | ⟨ls, line, rfl⟩
  · exact .inl rfl
  · refine .inr ?_
    rw [closeLines, List.concat_eq_append, List.flatMap_append, List.flatMap_singleton, ← List.append_assoc,
      List.getLast?_concat]

theorem lined_closeLines {ls : List Text} {last : Text} (hls : ∀ line ∈ ls, IsLine line) (hlast : IsLine last) :
    Lined (closeLines ls ++ last) (ls.map (·, .feed)) last := by
  induction ls with
  | nil => exact .last hlast
  | cons line ls ih =>
    obtain ⟨hline, hls⟩ := List.forall_mem_cons.1 hls
    rw [closeLines_cons, List.append_assoc]
    exact .ended (e := .feed) hline (fun he => by cases he) (ih hls)

/-- **Where line ends are made uniform, each end becomes one line feed.** -/
theorem Lined.unifyLineEnds_eq {t last : Text} {ended : List (Text × LineEnd)} (h : Lined t ended last) :
    unifyLineEnds t = closeLines (ended.map Prod.fst) ++ last := by
  induction h with
  | last hline => exact unifyLineEnds_of_not_mem hline.1
  | ended hline hend _ ih =>
    rw [unifyLineEnds_append hline.1, LineEnd.unifyLineEnds_text hend, ih, List.map_cons, closeLines_cons,
      List.append_assoc, List.cons_append]

theorem Lined.unified {t last : Text} {ended : List (Text × LineEnd)} (h : Lined t ended last) :
    Lined (unifyLineEnds t) (ended.map fun l => (l.1, .feed)) last := by
  have hclosed := lined_closeLines h.isLine.1 h.isLine.2
  rwa [← h.unifyLineEnds_eq, List.map_map] at hclosed

/-! ## The lines of a text -/

/-- What stands behind the last end of a line is a line if it is not empty; so an end that closes the text opens no
other line. -/
def HasLines (t : Text) (ls : List Text) : Prop :=
  ∃ ended last, Lined t ended last ∧ ls = ended.map Prod.fst ++ if last = [] then [] else [last]

theorem exists_hasLines (t : Text) : ∃ ls, HasLines t ls := by
  obtain ⟨ended, last, h⟩ := exists_lined t
  exact ⟨_, ended, last, h, rfl⟩

namespace HasLines
variable {t : Text} {ls ls' : List Text}

theorem unique (h : HasLines t ls) (h' : HasLines t ls') : ls = ls' := by
  obtain ⟨ended, last, hlined, rfl⟩ := h
  obtain ⟨ended', last', hlined', rfl⟩ := h'
  obtain ⟨rfl, rfl⟩ := hlined.unique hlined'
  rfl

/-- A text has no other lines. -/
theorem iff_eq (h : HasLines t ls) (ls' : List Text) : HasLines t ls' ↔ ls' = ls :=
  ⟨fun h' => h'.unique h, fun heq => heq ▸ h⟩

theorem isLine (h : HasLines t ls) : ∀ line ∈ ls, IsLine line := by
  obtain ⟨ended, last, hlined, rfl⟩ := h
  obtain ⟨hended, hlast⟩ := hlined.isLine
  intro line hline
  rcases List.mem_append.1 hline with hline | hline
  · exact hended line hline
  · split at hline
    · cases hline
    · exact List.mem_singleton.1 hline ▸ hlast

end HasLines

/-- **Closed lines are read back.** -/
theorem hasLines_closeLines {ls : List Text} (h : ∀ line ∈ ls, IsLine line) : HasLines (closeLines ls) ls := by
  have hlined : Lined (closeLines ls ++ []) (ls.map (·, .feed)) [] := lined_closeLines h .nil
  rw [List.append_nil] at hlined
  refine ⟨_, [], hlined, ?_⟩
  rw [if_pos rfl, List.append_nil, List.map_map]
  exact (List.map_id ls).symm

end GameSource
