import GameSource.Proofs.Initializer.Braces
/-!
# A list that cannot be read hides nothing

A list between an equals sign and its closing brace declares one thing, whether it is read or not, and reading goes on
behind that brace.  So what tokens with their brackets in pairs declare does not depend on what stands behind them
(`exists_passes`), and declarations that end with a semicolon are read as they are alone (`readObjects_append`).
-/
namespace GameSource.Initializer

/-! ## Declarations -/

/-- A token that opens no bracket, and no list behind it, only changes the label. -/
theorem declarationsFrom_plain {stop : Position} {t : Token} (ho : closer? t = none) {ts : List Token}
    (he : (isPunctuator '=' t && ts.head?.any (isPunctuator '\x7b')) = false) (label : Text) :
    declarationsFrom stop label (t :: ts) = declarationsFrom stop (nextLabel label t) ts := by
  rw [declarationsFrom, he, ho]
  rfl

section
variable {stop : Position} {equals opening : Token} {ts rest : List Token}

/-- A list that can be read is an object, and reading goes on behind it. -/
theorem declarationsFrom_object (he : isPunctuator '=' equals) (ho : isPunctuator '\x7b' opening) {items : List Item}
    (h : outcome (readList stop (opening :: ts)) = .ok (items, rest)) (label : Text) :
    declarationsFrom stop label (equals :: opening :: ts) =
      (declarationsFrom stop [] rest).map (.object label items :: ·) := by
  have hbegins : (isPunctuator '=' equals && (opening :: ts).head?.any (isPunctuator '\x7b')) = true := by simp [he, ho]
  obtain ⟨hlt, hread⟩ := outcome_eq_ok.1 h
  rw [declarationsFrom, hbegins, if_pos rfl, hread]

/-- A list that cannot be read is a fault, and reading goes on behind its brackets. -/
theorem declarationsFrom_fault (he : isPunctuator '=' equals) (ho : isPunctuator '\x7b' opening) {e : ParseFault}
    (h : outcome (readList stop (opening :: ts)) = .error e) {taken : List Token}
    (hb : balanced? [] (opening :: ts) = some (taken, rest)) (label : Text) :
    declarationsFrom stop label (equals :: opening :: ts) = (declarationsFrom stop [] rest).map (.fault e :: ·) := by
  have hbegins : (isPunctuator '=' equals && (opening :: ts).head?.any (isPunctuator '\x7b')) = true := by simp [he, ho]
  rw [declarationsFrom, hbegins, if_pos rfl, outcome_eq_error.1 h]
  simp only
  split
  · rename_i hnone
    rw [hb] at hnone
    cases hnone
  · rename_i taken' rest' hsome
    rw [hb] at hsome
    cases hsome
    rfl

/-- A list that cannot be read and is not closed is a fault, and nothing is read behind it. -/
theorem declarationsFrom_unclosedList (he : isPunctuator '=' equals) (ho : isPunctuator '\x7b' opening)
    {e : ParseFault} (h : outcome (readList stop (opening :: ts)) = .error e)
    (hb : balanced? [] (opening :: ts) = none) (label : Text) :
    declarationsFrom stop label (equals :: opening :: ts) = .ok [.fault e] := by
  have hbegins : (isPunctuator '=' equals && (opening :: ts).head?.any (isPunctuator '\x7b')) = true := by simp [he, ho]
  rw [declarationsFrom, hbegins, if_pos rfl, outcome_eq_error.1 h]
  simp only
  split
  · rfl
  · rename_i hsome
    rw [hb] at hsome
    cases hsome

theorem outcome_readList (ho : isPunctuator '\x7b' opening) :
    outcome (readList stop (opening :: ts)) = outcome (readItems stop ts) := by
  rw [readList, if_pos ho]
  cases readItems stop ts with
  | error e => rfl
  | ok q => rfl

end

/-- What a list behind a label and an equals sign declares. -/
def declared (label : Text) : Except ParseFault (List Item) → Declaration
  | .ok items => .object label items
  | .error e => .fault e

/-- **A list declares one thing, read or not**, and reading goes on behind its closing brace. -/
theorem declarationsFrom_braces {equals opening close : Token} (he : isPunctuator '=' equals)
    (ho : isPunctuator '\x7b' opening) {inner : List Token} (h : InBraces inner) (hc : isPunctuator '\x7d' close) :
    ∃ r : Except ParseFault (List Item),
      (∀ stop rest, outcome (readList stop (opening :: (inner ++ close :: rest))) = r.map fun items => (items, rest)) ∧
      ∀ stop label rest, declarationsFrom stop label (equals :: opening :: (inner ++ close :: rest)) =
        (declarationsFrom stop [] rest).map (declared label r :: ·) := by
  obtain ⟨r, hr⟩ := readItems_closes hc h
  have hread (stop : Position) (rest : List Token) :
      outcome (readList stop (opening :: (inner ++ close :: rest))) = r.map fun items => (items, rest) :=
    (outcome_readList ho).trans (hr stop rest)
  refine ⟨r, hread, fun stop label rest => ?_⟩
  cases r with
  | ok items => exact declarationsFrom_object he ho (hread stop rest) label
  | error e =>
    have hopen : closer? opening = some '\x7d' := by
      rw [closer?_eq ho]
      rfl
    exact declarationsFrom_fault he ho (hread stop rest) (balanced?_group hopen h hc rest) label

theorem getLast?_group (t close : Token) (inner after : List Token) :
    (t :: (inner ++ close :: after)).getLast? = after.getLast?.or (some close) := by
  rw [← List.cons_append, List.getLast?_append, List.getLast?_cons]
  cases after.getLast? <;> rfl

/-- An equals sign ends the tokens, and a list stands behind it. -/
def listBehind (first second : List Token) : Bool :=
  first.getLast?.any (isPunctuator '=') && second.head?.any (isPunctuator '\x7b')

theorem listBehind_cons {t : Token} {ts second : List Token} (h : listBehind (t :: ts) second = false) :
    listBehind ts second = false := by
  cases ts with
  | nil => rfl
  | cons u us =>
    unfold listBehind at *
    rwa [List.getLast?_cons_cons] at h

theorem listBehind_group {t close : Token} {inner after second : List Token}
    (h : listBehind (t :: (inner ++ close :: after)) second = false) : listBehind after second = false := by
  unfold listBehind at *
  rw [getLast?_group] at h
  cases hafter : after.getLast? with
  | none => rfl
  | some u => rwa [hafter] at h

/-- What stands behind the token does not depend on the label before it. -/
def setsLabel (t : Token) : Bool := t.kind == .identifier || isPunctuator ';' t

theorem nextLabel_setsLabel {t : Token} (h : setsLabel t) (label : Text) : nextLabel label t = nextLabel [] t := by
  unfold nextLabel
  by_cases hname : t.kind = .identifier
  · rw [if_pos hname, if_pos hname]
  · have hsign : isPunctuator ';' t = true := by simpa [setsLabel, hname] using h
    simp [(isPunctuator_iff.1 hsign).2]

/-- What sets the label is no bracket. -/
theorem setsLabel_close {t close : Token} {c : Char} (ho : closer? t = some c) (hc : isPunctuator c close) :
    setsLabel close = false := by
  have hkind : close.kind = .punctuator := (isPunctuator_iff.1 hc).1
  unfold setsLabel
  rcases closer?_eq_some ho with ⟨-, rfl⟩ | ⟨-, rfl⟩ | ⟨-, rfl⟩ <;> simp [isPunctuator_eq hc, hkind]

/-- What ends with a name or a semicolon does not end with a bracket. -/
theorem getLast?_of_group {t close u : Token} {c : Char} {inner after : List Token} (ho : closer? t = some c)
    (hc : isPunctuator c close) (h : (t :: (inner ++ close :: after)).getLast? = some u) (hsets : setsLabel u) :
    after.getLast? = some u := by
  rw [getLast?_group] at h
  cases hafter : after.getLast? with
  | none =>
    rw [hafter, Option.none_or] at h
    obtain rfl := Option.some.inj h
    rw [setsLabel_close ho hc] at hsets
    cases hsets
  | some v => rwa [hafter, Option.some_or] at h

/-- Behind a label the tokens declare `ds` and leave the label `next`, whatever stands behind them but the list of an
equals sign that ends them. -/
def Passes (label : Text) (first : List Token) (ds : List Declaration) (next : Text) : Prop :=
  ∀ stop second, listBehind first second = false →
    declarationsFrom stop label (first ++ second) = (declarationsFrom stop next second).map (ds ++ ·)

theorem Passes.nil (label : Text) : Passes label [] [] label := by
  intro stop second _
  rw [List.nil_append]
  cases declarationsFrom stop label second <;> rfl

section
variable {label next : Text} {t : Token} {ts inner after : List Token} {ds : List Declaration}

theorem Passes.token (ho : closer? t = none) (h : Passes (nextLabel label t) ts ds next)
    (hlist : (isPunctuator '=' t && ts.head?.any (isPunctuator '\x7b')) = false) : Passes label (t :: ts) ds next := by
  intro stop second hend
  have hplain : (isPunctuator '=' t && (ts ++ second).head?.any (isPunctuator '\x7b')) = false := by
    cases ts with
    | nil => exact hend
    | cons u us => exact hlist
  rw [List.cons_append, declarationsFrom_plain ho hplain, h stop second (listBehind_cons hend)]

theorem Passes.group {close : Token} {c : Char} (ho : closer? t = some c) (hi : Within (isPunctuator c) inner)
    (hc : isPunctuator c close) (h : Passes label after ds next) :
    Passes label (t :: (inner ++ close :: after)) ds next := by
  intro stop second hend
  have hgroup := balanced?_group ho hi hc (after ++ second)
  rw [List.cons_append, List.append_assoc, List.cons_append, declarationsFrom_group ho hgroup,
    h stop second (listBehind_group hend)]

theorem Passes.braces {equals opening close : Token} (h : Passes [] after ds next)
    (he : isPunctuator '=' equals) (ho : isPunctuator '\x7b' opening) (hi : InBraces inner)
    (hc : isPunctuator '\x7d' close) (label : Text) :
    ∃ d, Passes label (equals :: opening :: (inner ++ close :: after)) (d :: ds) next := by
  obtain ⟨r, -, hdeclared⟩ := declarationsFrom_braces he ho hi hc
  refine ⟨declared label r, fun stop second hend => ?_⟩
  have hbehind : listBehind after second = false := listBehind_group (listBehind_cons hend)
  rw [List.cons_append, List.cons_append, List.append_assoc, List.cons_append, hdeclared, h stop second hbehind]
  cases declarationsFrom stop next second <;> rfl

end

/-- **Tokens with their brackets in pairs declare the same things whatever stands behind them**, and the last name or
semicolon among them sets the label if it ends them. -/
theorem exists_passes : ∀ {first : List Token}, Within (fun _ => false) first → ∀ label : Text,
    ∃ ds next, Passes label first ds next ∧ (first = [] → next = label) ∧
      ∀ t, first.getLast? = some t → setsLabel t → next = nextLabel [] t
  | [], _, label => ⟨[], label, .nil label, fun _ => rfl, fun t h => by cases h⟩
  | t :: ts, h, label => by
    rcases h.cut with ⟨ho, -, hts⟩ | ⟨c, inner, close, after, ho, hi, hc, hafter, rfl⟩
    · -- Behind an equals sign a list begins, and it is one piece, read or not.
      cases hlist : isPunctuator '=' t && ts.head?.any (isPunctuator '\x7b') with
      | false =>
        obtain ⟨ds, next, hds, hnil, hlast⟩ := exists_passes hts (nextLabel label t)
        refine ⟨ds, next, hds.token ho hlist, fun h => absurd h (List.cons_ne_nil t ts), fun u hu hsets => ?_⟩
        cases ts with
        | nil =>
          obtain rfl : t = u := Option.some.inj hu
          rw [hnil rfl, nextLabel_setsLabel hsets]
        | cons v vs =>
          rw [List.getLast?_cons_cons] at hu
          exact hlast u hu hsets
      | true =>
        obtain ⟨hequals, hhead⟩ := Bool.and_eq_true_iff.1 hlist
        obtain ⟨opening, us, rfl⟩ : ∃ u us, ts = u :: us := by
          cases ts with
          | nil => cases hhead
          | cons u us => exact ⟨u, us, rfl⟩
        have hopening : isPunctuator '\x7b' opening = true := hhead
        have hopen : closer? opening = some '\x7d' := by
          rw [closer?_eq hopening]
          rfl
        rcases hts.cut with ⟨ho', -, -⟩ | ⟨c, inner, close, after, ho', hi, hc, hafter, rfl⟩
        · rw [hopen] at ho'
          cases ho'
        obtain rfl : '\x7d' = c := Option.some.inj (hopen.symm.trans ho')
        have hlt : after.length < (t :: opening :: (inner ++ close :: after)).length :=
          Nat.lt_succ_of_lt length_behind_group
        obtain ⟨ds, next, hds, -, hlast⟩ := exists_passes hafter []
        obtain ⟨d, hd⟩ := hds.braces hequals hopening hi hc label
        refine ⟨d :: ds, next, hd, fun h => absurd h (List.cons_ne_nil _ _), fun u hu hsets => ?_⟩
        rw [List.getLast?_cons_cons] at hu
        exact hlast u (getLast?_of_group ho' hc hu hsets) hsets
    · have hlt : after.length < (t :: (inner ++ close :: after)).length := length_behind_group
      obtain ⟨ds, next, hds, -, hlast⟩ := exists_passes hafter label
      exact ⟨ds, next, hds.group ho hi hc, fun h => absurd h (List.cons_ne_nil _ _), fun u hu hsets =>
        hlast u (getLast?_of_group ho hc hu hsets) hsets⟩
  termination_by first => first.length

/-- The tokens do not end with an equals sign, behind which a list would begin. -/
def EndsBeforeList (ts : List Token) : Prop := ts.getLast?.all fun t => !isPunctuator '=' t

/-- Behind a label the tokens declare `ds`, whatever stands behind them, and leave the label `next`. -/
def Declares (label : Text) (first : List Token) (ds : List Declaration) (next : Text) : Prop :=
  ∀ stop second, declarationsFrom stop label (first ++ second) = (declarationsFrom stop next second).map (ds ++ ·)

/-- Tokens that do not end before a list declare the same things whatever stands behind them, and behind a semicolon
there is no label. -/
theorem exists_declares {first : List Token} (h : Within (fun _ => false) first) (hlast : EndsBeforeList first)
    (label : Text) : ∃ ds next, Declares label first ds next ∧ (first = [] → next = label) ∧
      (first.getLast?.any (isPunctuator ';') → next = []) := by
  obtain ⟨ds, next, hpasses, hnil, hsets⟩ := exists_passes h label
  refine ⟨ds, next, fun stop second => hpasses stop second ?_, hnil, fun hsemicolon => ?_⟩
  · unfold EndsBeforeList at hlast
    unfold listBehind
    cases hfirst : first.getLast? with
    | none => rfl
    | some t =>
      have hequals : (!isPunctuator '=' t) = true := by rwa [hfirst] at hlast
      rw [Option.any_some, (Bool.not_eq_true' _).mp hequals, Bool.false_and]
  · cases hfirst : first.getLast? with
    | none =>
      rw [hfirst] at hsemicolon
      cases hsemicolon
    | some t =>
      have hsign : isPunctuator ';' t = true := by rwa [hfirst] at hsemicolon
      rw [hsets t hfirst (by simp [setsLabel, hsign])]
      simp [nextLabel, (isPunctuator_iff.1 hsign).1, (isPunctuator_iff.1 hsign).2]

/-! ## Objects -/

/-- The objects and faults of tokens, and then those of the tokens behind them: the first of each label stays. -/
def Objects.followedBy (o next : Objects) : Objects where
  objects := o.objects ++ next.objects.filter fun e => !o.objects.contains e.1
  faults := o.faults ++ next.faults

theorem Objects.followedBy_add (o next : Objects) : ∀ d : Declaration,
    (o.followedBy next).add d = o.followedBy (next.add d)
  | .fault e => by simp [followedBy, add]
  | .object label items => by
    have hcontains : (o.followedBy next).objects.contains label =
        (o.objects.contains label || next.objects.contains label) := by
      cases ho : o.objects.contains label with
      | false =>
        have hfilter := Entries.find?_filter (p := fun l => !o.objects.contains l) (k := label) (by simp [ho])
          next.objects
        rw [Entries.contains] at ho
        rw [followedBy, Entries.contains, Entries.find?_append, hfilter, Option.isSome_or, ho]
        rfl
      | true =>
        rw [Entries.contains] at ho
        rw [followedBy, Entries.contains, Entries.find?_append, Option.isSome_or, ho, Bool.true_or, Bool.true_or]
    rw [add, add, Entries.putNew, Entries.putNew, hcontains]
    cases ho : o.objects.contains label <;> cases hn : next.objects.contains label <;> simp [followedBy, ho]

/-- Adding declarations to objects is letting those follow that the declarations give by themselves. -/
theorem Objects.foldl_add (o : Objects) (ds : List Declaration) :
    ds.foldl Objects.add o = o.followedBy (ds.foldl Objects.add {}) := by
  have h : ∀ (ds : List Declaration) (next : Objects),
      ds.foldl Objects.add (o.followedBy next) = o.followedBy (ds.foldl Objects.add next) := by
    intro ds
    induction ds with
    | nil => exact fun _ => rfl
    | cons d ds ih =>
      intro next
      rw [List.foldl_cons, List.foldl_cons, followedBy_add, ih]
  have hempty : o.followedBy {} = o := by simp [followedBy]
  rw [← h, hempty]

/-- The tokens are an object whose list has its brackets in pairs but cannot be read, for the reason `e`. -/
inductive BadObject (e : ParseFault) : List Token → Prop where
  | mk {label equals opening close semicolon : Token} {bounds inner : List Token} {stop : Position}
      (hl : label.kind = .identifier) (hb : SpellsBounds bounds) (he : isPunctuator '=' equals)
      (ho : isPunctuator '\x7b' opening) (hi : Nested inner) (hc : isPunctuator '\x7d' close)
      (hs : isPunctuator ';' semicolon) (h : outcome (readList stop (opening :: (inner ++ [close]))) = .error e) :
      BadObject e (label :: (bounds ++ equals :: opening :: (inner ++ [close, semicolon])))

theorem declarationsFrom_badObject {e : ParseFault} {bad : List Token} (h : BadObject e bad) (stop : Position)
    (label : Text) (second : List Token) :
    declarationsFrom stop label (bad ++ second) = (declarationsFrom stop [] second).map (.fault e :: ·) := by
  obtain @⟨name, equals, opening, close, semicolon, bounds, inner, stop', hl, hb, he, ho, hi, hc, hs, hread⟩ := h
  have hinner : InBraces inner := hi.within fun t ht => by simp [isClosing, ht]
  obtain ⟨r, hr, hdeclared⟩ := declarationsFrom_braces he ho hinner hc
  have hfault : r = .error e := by
    rw [hr stop' []] at hread
    cases r with
    | error e' => exact congrArg Except.error (Except.error.inj hread)
    | ok items => cases hread
  have hends : nextLabel [] semicolon = [] := by
    simp [nextLabel, (isPunctuator_iff.1 hs).1, (isPunctuator_iff.1 hs).2]
  have hcut : name :: (bounds ++ equals :: opening :: (inner ++ [close, semicolon])) ++ second =
      name :: (bounds ++ equals :: opening :: (inner ++ close :: semicolon :: second)) := by simp
  rw [hcut, declarationsFrom_token (isPunctuator_identifier hl '=') (closer?_identifier hl),
    declarationsFrom_bounds hb, hdeclared, hfault,
    declarationsFrom_token (by simp [isPunctuator_eq hs]) (by rw [closer?_eq hs]; rfl), hends]
  rfl

/-- **Declarations that end with a semicolon and what stands behind them are read as each alone.**  Their brackets are
in pairs: then they are always read, the objects behind them follow theirs where the label is new, the faults follow
theirs, and reading is stopped for good just where it is by what stands behind.  An object between them whose list
cannot be read is one fault more, and nothing else. -/
theorem readObjects_append {first : List Token} (hnested : Nested first)
    (hsemicolon : first.getLast?.all (isPunctuator ';')) :
    ∃ o : Objects, (∀ stop, readObjects stop first = .ok o) ∧
      (∀ stop second, readObjects stop (first ++ second) = (readObjects stop second).map fun next =>
        { objects := o.objects ++ next.objects.filter fun e => !o.objects.contains e.1,
          faults := o.faults ++ next.faults }) ∧
      ∀ e bad, BadObject e bad → ∀ stop second,
        readObjects stop (first ++ bad ++ second) = (readObjects stop second).map fun next =>
          { objects := o.objects ++ next.objects.filter fun e => !o.objects.contains e.1,
            faults := o.faults ++ e :: next.faults } := by
  have hlast : EndsBeforeList first := by
    unfold EndsBeforeList
    cases h : first.getLast? with
    | none => rfl
    | some t =>
      have ht : isPunctuator ';' t = true := by rwa [h] at hsemicolon
      simp [isPunctuator_eq ht]
  have hwithin : Within (fun _ => false) first := hnested.within fun _ h => absurd h Bool.false_ne_true
  obtain ⟨ds, next, hds, hnil, hends⟩ := exists_declares hwithin hlast []
  obtain rfl : next = [] := by
    cases h : first.getLast? with
    | none => exact hnil (List.getLast?_eq_none_iff.1 h)
    | some t =>
      rw [h] at hsemicolon hends
      exact hends hsemicolon
  have hread (stop : Position) (second : List Token) : readObjects stop (first ++ second) =
      (readObjects stop second).map (ds.foldl Objects.add {}).followedBy := by
    rw [readObjects, readObjects, hds stop second]
    cases declarationsFrom stop [] second with
    | error e => rfl
    | ok ds' =>
      simp only [Except.map, List.foldl_append]
      rw [Objects.foldl_add]
  refine ⟨ds.foldl Objects.add {}, fun stop => ?_, hread, fun e bad hbad stop second => ?_⟩
  · have h := hread stop []
    rw [List.append_nil] at h
    rw [h, readObjects, declarationsFrom]
    simp [Except.map, Objects.followedBy]
  · rw [List.append_assoc, hread, readObjects, readObjects, declarationsFrom_badObject hbad]
    cases declarationsFrom stop [] second with
    | error e' => rfl
    | ok ds' =>
      have hfault := Objects.foldl_add (Objects.add {} (.fault e)) ds'
      simp only [Except.map, List.foldl_cons, hfault]
      simp [Objects.followedBy, Objects.add, Entries.contains, Entries.find?]

/-- `A = { x };` before `B = { , };` and `A = { y }; C = { };` -/
theorem readObjects_append_around :
    readObjects .start ([word "A", sign '=', sign '\x7b', word "x", sign '\x7d', sign ';'] ++
        [word "B", sign '=', sign '\x7b', sign ',', sign '\x7d', sign ';'] ++
        [word "A", sign '=', sign '\x7b', word "y", sign '\x7d', sign ';', word "C", sign '=', sign '\x7b', sign '\x7d',
          sign ';']) =
      .ok { objects := [("A".toList, [.scalar [] [word "x"]]), ("C".toList, [])],
            faults := [⟨.expectedValue, .start⟩] } := by
  have hitem (name : String) : SpellsItems [.scalar [] [word name]] ([] ++ [word name] ++ [sign '\x7d']) :=
    .last (.scalar .nil (by simp) (.token rfl rfl (.nil _)) rfl fun _ => rfl) rfl
  have hfirst : SpellsTable [((word "A").text, [.scalar [] [word "x"]])]
      [word "A", sign '=', sign '\x7b', word "x", sign '\x7d', sign ';'] :=
    .cons rfl .nil rfl rfl (hitem "x") rfl .nil
  have hsecond : SpellsTable [((word "A").text, [.scalar [] [word "y"]]), ((word "C").text, [])]
      [word "A", sign '=', sign '\x7b', word "y", sign '\x7d', sign ';', word "C", sign '=', sign '\x7b', sign '\x7d',
        sign ';'] :=
    .cons rfl .nil rfl rfl (hitem "y") rfl (.cons rfl .nil rfl rfl (.nil rfl) rfl .nil)
  have hx : Nested [word "x"] := .token rfl rfl .nil
  have hbraces : Nested (sign '\x7b' :: ([word "x"] ++ sign '\x7d' :: [sign ';'])) :=
    .group rfl hx rfl (.token rfl rfl .nil)
  have hnested : Nested [word "A", sign '=', sign '\x7b', word "x", sign '\x7d', sign ';'] :=
    .token rfl rfl (.token rfl rfl hbraces)
  have hread : outcome (readList .start (sign '\x7b' :: ([sign ','] ++ [sign '\x7d']))) =
      .error ⟨.expectedValue, .start⟩ := by
    have hpath : readDesignation .start [sign ',', sign '\x7d'] =
        .ok ([], ⟨[sign ',', sign '\x7d'], Nat.le_refl _⟩) := by
      rw [readDesignation, readPath_end rfl]
    have hvalue : readValue .start [] [sign ',', sign '\x7d'] = .error ⟨.expectedValue, .start⟩ :=
      readValue_nothing rfl rfl (readTokens_end rfl _) []
    rw [List.singleton_append, outcome_readList rfl, outcome_readItems rfl]
    simp only [andThen, hpath, outcome, Except.map, Except.bind, hvalue]
  have hcomma : Nested [sign ','] := .token rfl rfl .nil
  have hparts : BadObject ⟨.expectedValue, .start⟩
      (word "B" :: ([] ++ sign '=' :: sign '\x7b' :: ([sign ','] ++ [sign '\x7d', sign ';']))) :=
    .mk rfl .nil rfl rfl hcomma rfl rfl hread
  have hbad : BadObject ⟨.expectedValue, .start⟩
      [word "B", sign '=', sign '\x7b', sign ',', sign '\x7d', sign ';'] := hparts
  obtain ⟨o, halone, -, hbetween⟩ := readObjects_append hnested rfl
  have ho := (readObjects_spells .start hfirst (by decide)).1
  rw [halone] at ho
  cases ho
  rw [hbetween _ _ hbad, (readObjects_spells .start hsecond (by decide)).1]
  rfl

end GameSource.Initializer
