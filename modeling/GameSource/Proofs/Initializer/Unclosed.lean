import GameSource.Proofs.Initializer.Recovery
import GameSource.Proofs.Initializer.Relex
import GameSource.Proofs.Initializer.Taken
import Mathlib
/-!
# Brackets that are never closed

A bracket outside lists that is never closed stops the reading of declarations for good, and nothing else does
(`declarationsFrom_eq_error_iff`); a list that is not closed is one fault, and ends the reading quietly.  So the structs
of a text are returned unless such a bracket is met, and an object before it, with all its brackets in pairs, is among
them (`structs_returned_iff`).
-/
namespace GameSource.Initializer

/-! ## Open brackets -/

/-- The bracket opens, and nothing behind it closes it. -/
def Unclosed (t : Token) (after : List Token) : Prop :=
  ∃ c, closer? t = some c ∧ ∀ inner close rest, after = inner ++ close :: rest → Within (isPunctuator c) inner →
    isPunctuator c close = false

theorem balanced?_eq_none_iff {t : Token} {c : Char} (ho : closer? t = some c) (after : List Token) :
    balanced? [] (t :: after) = none ↔ Unclosed t after := by
  constructor
  · intro hnone
    refine ⟨c, ho, fun inner close rest heq hi => ?_⟩
    by_cases hc : isPunctuator c close
    · rw [heq, balanced?_group ho hi hc rest] at hnone
      cases hnone
    · simpa using hc
  · rintro ⟨d, hd, hopen⟩
    obtain rfl : c = d := Option.some.inj (ho.symm.trans hd)
    cases hb : balanced? [] (t :: after) with
    | none => rfl
    | some p =>
      obtain ⟨inner, close, heq, hi, hc⟩ := exists_group ho hb
      rw [hopen inner close p.2 heq hi] at hc
      cases hc

/-- **A bracket outside lists is left open**: those before it are in pairs, it does not begin the list of an equals sign,
and nothing closes it. -/
def LeftOpen (ts : List Token) : Prop :=
  ∃ before t after, ts = before ++ t :: after ∧ Within (fun _ => false) before ∧
    listBehind before (t :: after) = false ∧ Unclosed t after

section
variable {t close : Token} {c : Char} {inner ts after : List Token}

theorem LeftOpen.head (h : Unclosed t after) : LeftOpen (t :: after) := ⟨[], t, after, rfl, .nil _, rfl, h⟩

theorem LeftOpen.token (ho : closer? t = none)
    (hlist : (isPunctuator '=' t && ts.head?.any (isPunctuator '\x7b')) = false) (h : LeftOpen ts) : LeftOpen (t :: ts) := by
  obtain ⟨before, u, after, rfl, hbefore, hend, hopen⟩ := h
  refine ⟨t :: before, u, after, rfl, .token ho rfl hbefore, ?_, hopen⟩
  cases before with
  | nil => exact hlist
  | cons v vs =>
    unfold listBehind at *
    rwa [List.getLast?_cons_cons]

/-- Behind a pair of brackets stands no list of an equals sign. -/
theorem listBehind_of_group (hc : isPunctuator c close) (hne : c ≠ '=') {second : List Token}
    (h : listBehind after second = false) : listBehind (t :: (inner ++ close :: after)) second = false := by
  unfold listBehind at *
  rw [getLast?_group]
  cases hafter : after.getLast? with
  | none => simp [isPunctuator_eq hc, hne]
  | some u => rwa [hafter] at h

theorem closer_ne_equals (ho : closer? t = some c) : c ≠ '=' := by
  rcases closer?_eq_some ho with ⟨-, rfl⟩ | ⟨-, rfl⟩ | ⟨-, rfl⟩ <;> decide

theorem LeftOpen.group (ho : closer? t = some c) (hi : Within (isPunctuator c) inner) (hc : isPunctuator c close)
    (h : LeftOpen after) : LeftOpen (t :: (inner ++ close :: after)) := by
  obtain ⟨before, u, rest, rfl, hbefore, hend, hopen⟩ := h
  exact ⟨t :: (inner ++ close :: before), u, rest, by simp, .group ho hi hc hbefore,
    listBehind_of_group hc (closer_ne_equals ho) hend, hopen⟩

theorem LeftOpen.braces {equals : Token} (he : isPunctuator '=' equals) (ho : closer? t = some c)
    (hi : Within (isPunctuator c) inner) (hc : isPunctuator c close) (h : LeftOpen after) :
    LeftOpen (equals :: t :: (inner ++ close :: after)) := by
  obtain ⟨before, u, rest, rfl, hbefore, hend, hopen⟩ := h
  have hequals : closer? equals = none := by
    rw [closer?_eq he]
    rfl
  refine ⟨equals :: t :: (inner ++ close :: before), u, rest, by simp, .token hequals rfl (.group ho hi hc hbefore), ?_,
    hopen⟩
  have hgroup : listBehind (t :: (inner ++ close :: before)) (u :: rest) = false :=
    listBehind_of_group hc (closer_ne_equals ho) hend
  unfold listBehind at *
  rwa [List.getLast?_cons_cons]

end

/-! ## Declarations -/

/-- A bracket that is left open stops the reading for good. -/
theorem declarationsFrom_leftOpen {ts : List Token} (h : LeftOpen ts) (stop : Position) (label : Text) :
    declarationsFrom stop label ts = .error ⟨.unbalanced, stop⟩ := by
  obtain ⟨before, t, after, rfl, hbefore, hend, hopen⟩ := h
  have hopen' := hopen
  obtain ⟨c, ho, -⟩ := hopen'
  obtain ⟨ds, next, hpasses, -⟩ := exists_passes hbefore label
  have hstop : declarationsFrom stop next (t :: after) = .error ⟨.unbalanced, stop⟩ :=
    declarationsFrom_unclosed ho ((balanced?_eq_none_iff ho after).2 hopen) next
  rw [hpasses stop (t :: after) hend, hstop]
  rfl

/-- What a step behind some declarations comes to is the fault that what stands behind them comes to. -/
theorem error_of_map {r : Except ParseFault (List Declaration)} {d : Declaration} {e : ParseFault}
    (h : r.map (d :: ·) = .error e) : r = .error e := by
  cases r with
  | error e' => exact congrArg Except.error (Except.error.inj h)
  | ok ds => cases h

/-- Reading is stopped for good by a bracket that is left open only. -/
theorem leftOpen_of_declarationsFrom {stop : Position} {e : ParseFault} {ts : List Token} {label : Text} :
    declarationsFrom stop label ts = .error e → e = ⟨.unbalanced, stop⟩ ∧ LeftOpen ts := by
  fun_induction declarationsFrom stop label ts with
  | case1 label => exact fun h => by cases h
  | case2 label equals list hbegins items rest hlt hread ih =>
    -- A list that is read ends with its brace, so the bracket is left open behind it.
    intro h
    obtain ⟨he, hopen⟩ := ih (error_of_map h)
    obtain ⟨hequals, hhead⟩ := Bool.and_eq_true_iff.1 hbegins
    cases list with
    | nil => cases hhead
    | cons opening ts =>
      have hopening : isPunctuator '\x7b' opening = true := hhead
      have hcloser : closer? opening = some '\x7d' := by
        rw [closer?_eq hopening]
        rfl
      have hitems : outcome (readItems stop ts) = .ok (items, rest) := by
        rw [← outcome_readList hopening]
        exact outcome_eq_ok.2 ⟨hlt, hread⟩
      obtain ⟨inner, close, rfl, hi, hc⟩ := readItems_taken ts hitems
      exact ⟨he, hopen.braces hequals hcloser hi hc⟩
  | case3 label equals list hbegins fault hread hnone => exact fun h => by cases h
  | case4 label equals list hbegins fault hread taken rest hb hlt ih =>
    intro h
    obtain ⟨he, hopen⟩ := ih (error_of_map h)
    obtain ⟨hequals, hhead⟩ := Bool.and_eq_true_iff.1 hbegins
    cases list with
    | nil => cases hhead
    | cons opening ts =>
      have hopening : isPunctuator '\x7b' opening = true := hhead
      have hcloser : closer? opening = some '\x7d' := by
        rw [closer?_eq hopening]
        rfl
      obtain ⟨inner, close, rfl, hi, hc⟩ := exists_group hcloser hb
      exact ⟨he, hopen.braces hequals hcloser hi hc⟩
  | case5 label t ts hlist hopens hnone =>
    intro h
    obtain ⟨c, ho⟩ := Option.isSome_iff_exists.1 hopens
    exact ⟨(Except.error.inj h).symm, .head ((balanced?_eq_none_iff ho ts).1 hnone)⟩
  | case6 label t ts hlist hopens taken rest hb hlt ih =>
    intro h
    obtain ⟨he, hopen⟩ := ih h
    obtain ⟨c, ho⟩ := Option.isSome_iff_exists.1 hopens
    obtain ⟨inner, close, rfl, hi, hc⟩ := exists_group ho hb
    exact ⟨he, hopen.group ho hi hc⟩
  | case7 label t ts hlist hopens ih =>
    intro h
    obtain ⟨he, hopen⟩ := ih h
    have ho : closer? t = none := by simpa using hopens
    exact ⟨he, hopen.token ho (by simpa using hlist)⟩

/-- **A bracket that is left open stops the reading for good, and nothing else does.** -/
theorem declarationsFrom_eq_error_iff {stop : Position} {label : Text} {ts : List Token} {e : ParseFault} :
    declarationsFrom stop label ts = .error e ↔ e = ⟨.unbalanced, stop⟩ ∧ LeftOpen ts := by
  constructor
  · exact leftOpen_of_declarationsFrom
  · rintro ⟨rfl, h⟩
    exact declarationsFrom_leftOpen h stop label

/-! ## Objects -/

theorem readObjects_eq_error_iff {stop : Position} {ts : List Token} {e : ParseFault} :
    readObjects stop ts = .error e ↔ e = ⟨.unbalanced, stop⟩ ∧ LeftOpen ts := by
  rw [← @declarationsFrom_eq_error_iff stop [] ts e, readObjects]
  cases declarationsFrom stop [] ts <;> simp [Except.map]

/-- Among the tokens, behind `before`, stands an object: a name with bounds or without, an equals sign and a list that
spells items.  The brackets before it are in pairs; what stands behind it may be anything. -/
inductive ObjectIn (tokens before : List Token) : (label : Text) → List Item → Prop where
  | mk {name equals opening : Token} {items : List Item} {bounds ts rest : List Token}
      (hbefore : Within (fun _ => false) before) (hl : name.kind = .identifier) (hb : SpellsBounds bounds)
      (he : isPunctuator '=' equals) (ho : isPunctuator '\x7b' opening) (h : SpellsItems items ts)
      (heq : tokens = before ++ name :: (bounds ++ equals :: opening :: (ts ++ rest))) :
      ObjectIn tokens before name.text items

/-- **An object is found, whatever stands behind it**, unless what stands before it has one of its label. -/
theorem ObjectIn.found {tokens before : List Token} {label : Text} {items : List Item}
    (h : ObjectIn tokens before label items) {stop : Position} {all : Objects}
    (hall : readObjects stop tokens = .ok all) :
    ∃ o, readObjects stop before = .ok o ∧ all.objects.find? label = some ((o.objects.find? label).getD items) := by
  obtain @⟨name, equals, opening, items, bounds, ts, rest, hbefore, hl, hb, he, ho, hitems, rfl⟩ := h
  obtain ⟨ds, next, hpasses, -⟩ := exists_passes hbefore []
  have halone : readObjects stop before = .ok (ds.foldl Objects.add {}) := by
    have hnil := hpasses stop [] (by simp [listBehind])
    rw [List.append_nil, declarationsFrom] at hnil
    rw [readObjects, hnil]
    simp [Except.map]
  have hend : listBehind before (name :: (bounds ++ equals :: opening :: (ts ++ rest))) = false := by
    simp [listBehind, isPunctuator_identifier hl]
  have hname : nextLabel next name = name.text := if_pos hl
  rw [readObjects, hpasses stop _ hend,
    declarationsFrom_token (isPunctuator_identifier hl '=') (closer?_identifier hl), hname,
    declarationsFrom_bounds hb, declarationsFrom_list he ho hitems] at hall
  refine ⟨_, halone, ?_⟩
  cases hrest : declarationsFrom stop [] rest with
  | error e =>
    rw [hrest] at hall
    cases hall
  | ok behind =>
    rw [hrest] at hall
    obtain rfl := Except.ok.inj hall
    -- The object is added to those before it, and those behind it follow.
    have hfound : ((ds ++ .object name.text items :: behind).foldl Objects.add {}).objects.find? name.text =
        some (((ds.foldl Objects.add {}).objects.find? name.text).getD items) := by
      rw [List.foldl_append, List.foldl_cons, Objects.foldl_add, Objects.followedBy, Entries.find?_append, Objects.add,
        Entries.find?_putNew_self, Option.some_or]
    exact hfound

/-- **The structs of a text are returned unless a bracket is left open**; then the reading stops for good, and the fault
is all there is.  Where they are returned each object behind brackets in pairs is among them, however bad the text is
behind it: its label has its members, or those of the first object of that label before it. -/
theorem structs_returned_iff (source : Text) (names : Nat → Option Text) (filename : Text) :
    (∀ label e, (structs source label names filename).1 = .error e ↔
      ∃ lexed, lex source = .ok lexed ∧ LeftOpen lexed.tokens ∧ e = ⟨.unbalanced, lexed.stop⟩) ∧
    ∀ lexed structures, lex source = .ok lexed → (structs source [] names filename).1 = .ok structures →
      ∀ before label items, ObjectIn lexed.tokens before label items →
        ∃ o, readObjects lexed.stop before = .ok o ∧
          structures.find? label = some (members names ((o.objects.find? label).getD items)) := by
  constructor
  · intro label e
    unfold structs
    cases hlex : lex source with
    | error fault => simp
    | ok lexed =>
      have hread : (∃ other, .ok lexed = (.ok other : Except LexFault Lexed) ∧ LeftOpen other.tokens ∧
          e = ⟨.unbalanced, other.stop⟩) ↔ readObjects lexed.stop lexed.tokens = .error e := by
        rw [readObjects_eq_error_iff]
        constructor
        · rintro ⟨other, heq, hopen, he⟩
          obtain rfl := Except.ok.inj heq
          exact ⟨he, hopen⟩
        · rintro ⟨he, hopen⟩
          exact ⟨lexed, rfl, hopen, he⟩
      rw [hread]
      cases hall : readObjects lexed.stop lexed.tokens <;> simp [hall]
  · intro lexed structures hlex hstructs before label items hobject
    unfold structs at hstructs
    rw [hlex] at hstructs
    simp only at hstructs
    cases hread : readObjects lexed.stop lexed.tokens with
    | error e =>
      rw [hread] at hstructs
      cases hstructs
    | ok all =>
      rw [hread] at hstructs
      obtain ⟨o, ho, hfound⟩ := hobject.found hread
      refine ⟨o, ho, ?_⟩
      have hlabel : label ≠ [] := by
        obtain @⟨name, equals, opening, items, bounds, ts, rest, -, hl, -, -, -, -, heq⟩ := hobject
        have hmem : name ∈ lexed.tokens := by simp [heq]
        exact (mem_lex hlex hmem).1.ne_nil
      have hkept := Entries.find?_filter (p := fun l => !l.isEmpty && (([] : Text).isEmpty || [] == l)) (k := label)
        (by simp [hlabel]) all.objects
      rw [← Except.ok.inj hstructs, Entries.find?_mapValues, hkept, hfound, Option.map_some]

/-- An object of one designated member, at the beginning. -/
theorem objectIn_member {name equals opening point member equals' value close : Token} (hname : name.kind = .identifier)
    (he : isPunctuator '=' equals) (ho : isPunctuator '\x7b' opening) (hpoint : isPunctuator '.' point)
    (hmember : member.kind = .identifier) (he' : isPunctuator '=' equals') (hvalue : value.kind = .number)
    (hclose : isPunctuator '\x7d' close) (rest : List Token) :
    ObjectIn (name :: equals :: opening :: point :: member :: equals' :: value :: close :: rest) [] name.text
      [.scalar [.member member.text] [value]] := by
  have hother (c : Char) : isPunctuator c value = false := by simp [isPunctuator, hvalue]
  have hopen : closer? value = none := by simp [closer?, hother]
  have hends : endsValue value = false := by simp [endsValue, hother]
  have hpath : SpellsPath [.member member.text] ([point, member] ++ []) := .cons (.member hpoint hmember) .nil
  have hdesignation : SpellsDesignation [.member member.text] ([point, member] ++ [] ++ [equals']) :=
    .path (List.cons_ne_nil _ _) hpath he'
  have hitem : SpellsItem (.scalar [.member member.text] [value]) ([point, member] ++ [] ++ [equals'] ++ [value]) :=
    .scalar hdesignation (List.cons_ne_nil _ _) (.token hopen hends (.nil _)) (by simp [hother])
      fun h => absurd h (List.cons_ne_nil _ _)
  exact .mk (.nil _) hname .nil he ho (.last hitem hclose) rfl

/-- The list of `B` is not closed, which hides nothing before it. -/
theorem structs_returned_list : ∃ structures,
    (structs "A = \x7b.x = 1\x7d;\nB = \x7b(".toList [] (fun _ => none) []).1 = .ok structures ∧
    structures.find? "A".toList = some [("x".toList, "1".toList)] := by
  have hlex : lex "A = \x7b.x = 1\x7d;\nB = \x7b(".toList = .ok ⟨[⟨.identifier, ['A'], ⟨1, 1⟩⟩,
      ⟨.punctuator, ['='], ⟨1, 3⟩⟩, ⟨.punctuator, ['\x7b'], ⟨1, 5⟩⟩, ⟨.punctuator, ['.'], ⟨1, 6⟩⟩,
      ⟨.identifier, ['x'], ⟨1, 7⟩⟩, ⟨.punctuator, ['='], ⟨1, 9⟩⟩, ⟨.number, ['1'], ⟨1, 11⟩⟩,
      ⟨.punctuator, ['\x7d'], ⟨1, 12⟩⟩, ⟨.punctuator, [';'], ⟨1, 13⟩⟩, ⟨.identifier, ['B'], ⟨2, 1⟩⟩,
      ⟨.punctuator, ['='], ⟨2, 3⟩⟩, ⟨.punctuator, ['\x7b'], ⟨2, 5⟩⟩, ⟨.punctuator, ['('], ⟨2, 6⟩⟩], ⟨2, 7⟩⟩ := by rfl
  obtain ⟨structures, hstructs⟩ : ∃ structures,
      (structs "A = \x7b.x = 1\x7d;\nB = \x7b(".toList [] (fun _ => none) []).1 = .ok structures := ⟨_, by cbv⟩
  obtain ⟨-, hkept⟩ := structs_returned_iff "A = \x7b.x = 1\x7d;\nB = \x7b(".toList (fun _ => none) []
  obtain ⟨o, ho, hfound⟩ := hkept _ _ hlex hstructs _ _ _ (objectIn_member rfl rfl rfl rfl rfl rfl rfl rfl _)
  rw [readObjects, declarationsFrom] at ho
  obtain rfl := Except.ok.inj ho
  exact ⟨structures, hstructs, hfound⟩

/-- The bracket behind `A` is left open, and the object before it is lost with the text. -/
theorem structs_returned_bracket : ∃ lexed items, lex "A = \x7b.x = 1\x7d;\n(".toList = .ok lexed ∧
    ObjectIn lexed.tokens [] "A".toList items ∧ members (fun _ => none) items = [("x".toList, "1".toList)] ∧
    structs "A = \x7b.x = 1\x7d;\n(".toList [] (fun _ => none) [] = (.error ⟨.unbalanced, ⟨2, 2⟩⟩, []) := by
  have hlex : lex "A = \x7b.x = 1\x7d;\n(".toList = .ok ⟨[⟨.identifier, ['A'], ⟨1, 1⟩⟩, ⟨.punctuator, ['='], ⟨1, 3⟩⟩,
      ⟨.punctuator, ['\x7b'], ⟨1, 5⟩⟩, ⟨.punctuator, ['.'], ⟨1, 6⟩⟩, ⟨.identifier, ['x'], ⟨1, 7⟩⟩,
      ⟨.punctuator, ['='], ⟨1, 9⟩⟩, ⟨.number, ['1'], ⟨1, 11⟩⟩, ⟨.punctuator, ['\x7d'], ⟨1, 12⟩⟩,
      ⟨.punctuator, [';'], ⟨1, 13⟩⟩, ⟨.punctuator, ['('], ⟨2, 1⟩⟩], ⟨2, 2⟩⟩ := by rfl
  exact ⟨_, _, hlex, objectIn_member rfl rfl rfl rfl rfl rfl rfl rfl _, by cbv, by cbv⟩

end GameSource.Initializer
