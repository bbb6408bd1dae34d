import GameSource.Define.Table
import GameSource.Proofs.Text.Bare
/-!
# Elements of a printed enum

The elements of an enum stand between white space, each before a comma or the end.  They are read back whatever white
space is between them (`scan_body`), and an element without an initializer lies as far above the latest initializer as
it stands behind it (`enumElements_body`).
-/
namespace GameSource

/-! ## Elements and their expressions -/

/-- A name of an enum, and its initializer if it has one. -/
structure EnumElement where
  name : Text
  initializer : Option Text
  deriving DecidableEq, Repr

namespace EnumElement

/-- The latest initializer among elements and how many elements on from it the next one is; without one the next one is
counted on from 0, as many as there are elements. -/
def latest (before : List EnumElement) : Text × Nat :=
  let plain := (before.reverse.takeWhile fun e => e.initializer.isNone).length
  match before.reverse.findSome? initializer with
  | some base => (base, plain + 1)
  | none => (['0'], plain)

/-- The expression of an element behind others. -/
def expression (before : List EnumElement) (e : EnumElement) : Text :=
  e.initializer.getD <|
    "((".toList ++ (latest before).1 ++ ")+".toList ++ (toString (latest before).2).toList ++ ")".toList

theorem latest_concat_none (before : List EnumElement) (name : Text) :
    latest (before ++ [⟨name, none⟩]) = ((latest before).1, (latest before).2 + 1) := by
  unfold latest
  simp only [List.reverse_append, List.reverse_singleton, List.singleton_append, List.takeWhile_cons,
    Option.isNone_none, if_true, List.findSome?_cons, List.length_cons]
  cases before.reverse.findSome? initializer <;> rfl

theorem latest_concat_some (before : List EnumElement) (name base : Text) :
    latest (before ++ [⟨name, some base⟩]) = (base, 1) := by
  simp [latest]

end EnumElement

/-- Counting on from the latest initializer of the elements before gives the elements their expressions. -/
theorem countElements_eq : ∀ (es before : List EnumElement), (∀ e ∈ es, e.initializer ≠ some []) →
    countElements (EnumElement.latest before).1 (EnumElement.latest before).2
        (es.map fun e => (e.name, e.initializer.getD [])) =
      es.mapIdx fun i e => (e.name, e.expression (before ++ es.take i))
  | [], _, _ => rfl
  | e :: es, before, h => by
    -- What counts of the elements before is in `latest`, which the next element carries on.
    have htail : ∀ e ∈ es, e.initializer ≠ some [] := fun e' he' => h e' (List.mem_cons_of_mem e he')
    have ih := countElements_eq es (before ++ [e]) htail
    have hhead := h e List.mem_cons_self
    have hbefore (i : Nat) : before ++ (e :: es).take (i + 1) = before ++ [e] ++ es.take i := by simp
    rw [List.map_cons, List.mapIdx_cons, countElements]
    simp only [hbefore, List.take_zero, List.append_nil]
    rw [← ih]
    obtain ⟨name, initializer⟩ := e
    cases initializer with
    | none =>
      rw [EnumElement.latest_concat_none]
      simp [EnumElement.expression, offsetExpression]
    | some base =>
      have hne : base.isEmpty = false := by
        cases base with
        | nil => exact absurd rfl hhead
        | cons c cs => rfl
      rw [EnumElement.latest_concat_some]
      simp [EnumElement.expression, hne]

/-! ## Printing -/

/-- The text is a word. -/
def IsName (t : Text) : Prop := t ≠ [] ∧ ∀ c ∈ t, isWord c

/-- The text may stand behind the equals sign of an element. -/
structure IsInitializer (t : Text) : Prop where
  ne_nil : t ≠ []
  trimmed : Text.trim t = t
  bare : Bare t
  plain : ∀ c ∈ t, c ≠ ',' ∧ c ≠ '\x7d' ∧ c ≠ '#'

/-- The text is an element, with any white space behind its name and around its initializer. -/
inductive PrintsElement : EnumElement → Text → Prop where
  | plain {name gap : Text} (hn : IsName name) (hg : ∀ c ∈ gap, isSpace c) :
      PrintsElement ⟨name, none⟩ (name ++ gap)
  | initialized {name before behind gap initializer : Text} (hn : IsName name) (hi : IsInitializer initializer)
      (hbefore : ∀ c ∈ before, isSpace c) (hbehind : ∀ c ∈ behind, isSpace c) (hg : ∀ c ∈ gap, isSpace c) :
      PrintsElement ⟨name, some initializer⟩ (name ++ (before ++ '=' :: (behind ++ (initializer ++ gap))))

/-- The text is the body of an enum with these elements: white space may stand before each of them and at the end, and a
comma behind the last one. -/
inductive PrintsBody : List EnumElement → Text → Prop where
  | nil : PrintsBody [] []
  | blank {es : List EnumElement} {c : Char} {t : Text} (hc : isSpace c) (h : PrintsBody es t) : PrintsBody es (c :: t)
  | last {e : EnumElement} {t : Text} (h : PrintsElement e t) : PrintsBody [e] t
  | cons {e : EnumElement} {es : List EnumElement} {t rest : Text} (h : PrintsElement e t) (hs : PrintsBody es rest) :
      PrintsBody (e :: es) (t ++ ',' :: rest)

/-! ## Reading back -/

theorem stops_isWord_blanks {gap t : Text} (hg : ∀ c ∈ gap, isSpace c) (ht : Stops isWord t) :
    Stops isWord (gap ++ t) := .append (fun c hc => isWord_of_isSpace (hg c hc)) ht

/-- Nothing is read at a character that belongs to no word. -/
theorem enumElement?_eq_none {before : Option Char} {c : Char} {t : Text} (hc : isWord c = false) :
    enumElement? before (c :: t) = none := by
  simp [enumElement?, hc]

/-- **An element is read back** up to the comma or the end behind it. -/
theorem enumElement?_prints {e : EnumElement} {t tail : Text} {before : Option Char} (h : PrintsElement e t)
    (hbefore : before.any isWord = false) (htail : ∀ c ∈ tail.head?, c = ',') :
    enumElement? before (t ++ tail) = some ((e.name, e.initializer.getD []), tail) := by
  have hword : Stops isWord tail := fun c hc => by rw [htail c hc]; rfl
  have hspace : Stops isSpace tail := fun c hc => by rw [htail c hc]; rfl
  have hcomma : Stops (· != ',') tail := fun c hc => by rw [htail c hc]; rfl
  have hempty : tail.takeWhile (· != ',') = [] ∧ tail.dropWhile (· != ',') = tail :=
    ⟨@takeWhile_run _ _ [] tail (by simp) hcomma, @dropWhile_run _ _ [] tail (by simp) hcomma⟩
  have hread {name after : Text} (hn : IsName name) (hs : Stops isWord after) :
      (name ++ after).takeWhile isWord = name ∧ (name ++ after).dropWhile isWord = after ∧ name.isEmpty = false :=
    ⟨takeWhile_run hn.2 hs, dropWhile_run hn.2 hs, by simpa using hn.1⟩
  cases h with
  | @plain name gap hn hg =>
    obtain ⟨hname, hrest, hne⟩ := hread hn (stops_isWord_blanks hg hword)
    have hequals : Text.dropOne '=' tail = tail := by
      cases tail with
      | nil => rfl
      | cons c cs =>
        have hc : c ≠ '=' := by
          rw [htail c rfl]
          decide
        exact if_neg hc
    have hself : tail.dropWhile isSpace = tail := @dropWhile_run _ _ [] tail (by simp) hspace
    rw [List.append_assoc, enumElement?]
    simp only [hname, hrest, hne, hbefore, dropWhile_run hg hspace, hequals, hself, hempty, Bool.or_false,
      Bool.false_eq_true, if_false]
    rfl
  | @initialized name left right gap initializer hn hi hleft hright hg =>
    obtain ⟨hh, -⟩ := stops_of_trim hi.trimmed
    have hcut : name ++ (left ++ '=' :: (right ++ (initializer ++ gap))) ++ tail =
        name ++ (left ++ '=' :: (right ++ (initializer ++ gap ++ tail))) := by simp
    obtain ⟨hname, hrest, hne⟩ := hread hn (stops_isWord_blanks hleft
      (.cons (t := right ++ (initializer ++ gap ++ tail)) (by decide : isWord '=' = false)))
    have hequals : (left ++ '=' :: (right ++ (initializer ++ gap ++ tail))).dropWhile isSpace =
        '=' :: (right ++ (initializer ++ gap ++ tail)) := dropWhile_run hleft (.cons (by decide))
    have hvalue : (right ++ (initializer ++ gap ++ tail)).dropWhile isSpace = initializer ++ gap ++ tail := by
      refine dropWhile_run hright ?_
      rw [List.append_assoc]
      exact hh.append_left hi.ne_nil _
    have hplain : ∀ c ∈ initializer ++ gap, (c != ',') = true := by
      intro c hc
      rcases List.mem_append.1 hc with hc | hc
      · simpa using (hi.plain c hc).1
      · simpa using ne_of_isSpace (hg c hc) (by decide : isSpace ',' = false)
    have htrim := @trim_around [] _ _ hi.trimmed (by simp) hg
    rw [hcut, enumElement?]
    simp only [hname, hrest, hne, hbefore, hequals, Text.dropOne, hvalue, takeWhile_run hplain hcomma,
      dropWhile_run hplain hcomma, Bool.or_false, Bool.false_eq_true, if_false, if_true]
    exact congrArg (fun v => some ((name, v), tail)) htrim

theorem PrintsElement.ne_nil {e : EnumElement} {t : Text} (h : PrintsElement e t) : t ≠ [] := by
  cases h with
  | plain hn hg => exact List.append_ne_nil_of_left_ne_nil hn.1 _
  | initialized hn => exact List.append_ne_nil_of_left_ne_nil hn.1 _

/-- **The elements of a printed body are read back.** -/
theorem scan_body {es : List EnumElement} {t : Text} (h : PrintsBody es t) : ∀ (i : Nat) (before : Option Char),
    before.any isWord = false →
    (scanFrom enumElement? 0 i before t).map Prod.snd = es.map fun e => (e.name, e.initializer.getD []) := by
  induction h with
  | nil => exact fun _ _ _ => rfl
  | blank hc _ ih =>
    intro i before _
    rw [scanFrom_keep _ (enumElement?_eq_none (isWord_of_isSpace hc))]
    exact ih _ _ (isWord_of_isSpace hc)
  | @last e t h =>
    intro i before hbefore
    have hread := @enumElement?_prints e t [] before h hbefore (by simp)
    obtain ⟨c, t, rfl⟩ := List.exists_cons_of_ne_nil h.ne_nil
    rw [← List.append_nil (c :: t), scanFrom_accept _ hread]
    rfl
  | @cons e es t rest h _ ih =>
    intro i before hbefore
    have hread := @enumElement?_prints e t (',' :: rest) before h hbefore (by simp)
    obtain ⟨j, hscan⟩ := scanFrom_piece _ h.ne_nil hread (fun _ => enumElement?_eq_none (by decide)) i
    rw [hscan, List.map_cons, List.map_cons, ih j (some ',') (by decide)]

/-! ## The characters of a printed body -/

theorem PrintsElement.initializer_ne {e : EnumElement} {t : Text} (h : PrintsElement e t) :
    e.initializer ≠ some [] := by
  cases h with
  | plain => simp
  | initialized _ hi => simpa using hi.ne_nil

theorem PrintsBody.initializer_ne {es : List EnumElement} {t : Text} (h : PrintsBody es t) :
    ∀ e ∈ es, e.initializer ≠ some [] := by
  induction h with
  | nil => simp
  | blank _ _ ih => exact ih
  | last h => simpa using h.initializer_ne
  | cons h _ ih => exact List.forall_mem_cons.2 ⟨h.initializer_ne, ih⟩

/-- A printed element has neither a closing brace nor a number sign. -/
theorem PrintsElement.ne_of_mem {e : EnumElement} {t : Text} (h : PrintsElement e t) :
    ∀ c ∈ t, c ≠ '\x7d' ∧ c ≠ '#' := by
  have hname {n : Text} (hn : IsName n) : ∀ c ∈ n, c ≠ '\x7d' ∧ c ≠ '#' := fun c hc =>
    ⟨ne_of_isWord (hn.2 c hc) (by decide), ne_of_isWord (hn.2 c hc) (by decide)⟩
  have hblank {g : Text} (hg : ∀ c ∈ g, isSpace c) : ∀ c ∈ g, c ≠ '\x7d' ∧ c ≠ '#' := fun c hc =>
    ⟨ne_of_isSpace (hg c hc) (by decide), ne_of_isSpace (hg c hc) (by decide)⟩
  cases h with
  | plain hn hg => exact List.forall_mem_append.2 ⟨hname hn, hblank hg⟩
  | initialized hn hi hbefore hbehind hg =>
    simp only [List.forall_mem_append, List.forall_mem_cons]
    exact ⟨hname hn, hblank hbefore, by decide, hblank hbehind, fun c hc => (hi.plain c hc).2, hblank hg⟩

theorem PrintsBody.ne_of_mem {es : List EnumElement} {t : Text} (h : PrintsBody es t) :
    ∀ c ∈ t, c ≠ '\x7d' ∧ c ≠ '#' := by
  induction h with
  | nil => simp
  | blank hc _ ih =>
    exact List.forall_mem_cons.2 ⟨⟨ne_of_isSpace hc (by decide), ne_of_isSpace hc (by decide)⟩, ih⟩
  | last h => exact h.ne_of_mem
  | cons h _ ih =>
    simp only [List.forall_mem_append, List.forall_mem_cons]
    exact ⟨h.ne_of_mem, by decide, ih⟩

section
variable {d : Char} {rest : Text}

/-- A printed element and a bare text make a bare text, where a quiet character parts them. -/
theorem PrintsElement.bare {e : EnumElement} {t : Text} (h : PrintsElement e t) (hd : isQuiet d)
    (hrest : Bare (d :: rest)) : Bare (t ++ d :: rest) := by
  cases h with
  | plain hn hg =>
    rw [List.append_assoc]
    exact (hrest.blanks_append hg).word_append hn.2
  | @initialized name before behind gap initializer hn hi hbefore hbehind hg =>
    have hcut : name ++ (before ++ '=' :: (behind ++ (initializer ++ gap))) ++ d :: rest =
        name ++ (before ++ '=' :: (behind ++ (initializer ++ (gap ++ d :: rest)))) := by simp
    have hhead := head?_quiet rest (fun c hc => isQuiet_of_isSpace (hg c hc)) hd
    have hvalue := (hi.bare.append (hrest.blanks_append hg) hhead).blanks_append hbehind
    rw [hcut]
    exact ((hvalue.quiet_cons (by decide : isQuiet '=')).blanks_append hbefore).word_append hn.2

theorem PrintsBody.bare {es : List EnumElement} {t : Text} (h : PrintsBody es t) (hd : isQuiet d)
    (hrest : Bare (d :: rest)) : Bare (t ++ d :: rest) := by
  induction h with
  | nil => exact hrest
  | blank hc _ ih => exact ih.quiet_cons (isQuiet_of_isSpace hc)
  | last h => exact h.bare hd hrest
  | cons h _ ih =>
    rw [List.append_assoc, List.cons_append]
    exact h.bare (by decide) (ih.quiet_cons (by decide))

end

/-- **A printed body gives its elements their expressions.** -/
theorem enumElements_body {es : List EnumElement} {t : Text} (h : PrintsBody es t) :
    enumElements t = es.mapIdx fun i e => (e.name, e.expression (es.take i)) := by
  have hdirectives : eraseDirectives t = t := by
    refine Text.unlines_map_lines fun line hline => if_neg ?_
    intro hhash
    have hmem := List.mem_of_mem_head? (Option.mem_def.2 (eq_of_beq hhash))
    exact (h.ne_of_mem '#' (hline _ ((List.dropWhile_sublist _).subset hmem))).2 rfl
  rw [enumElements, hdirectives, scan, scanAt, scan_body h 0 none rfl]
  exact countElements_eq es [] h.initializer_ne

end GameSource
