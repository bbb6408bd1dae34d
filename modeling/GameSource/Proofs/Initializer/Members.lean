import GameSource.Initializer.Struct
import Mathlib
/-!
# Which item gives a member its text

Items are taken in order, and each may give a member its text: a designated one always does, one that only its place
names does unless the member has a text already.  However the two kinds are mixed, what comes of it is that the last item
that designates a member wins, and where there is none the first one whose place has the member's name
(`find?_members`).  So every struct of a text is what these items of its object say, and asking for one label takes one
struct out of all (`structs_members`).
-/
namespace GameSource.Initializer

/-- The last item that is designated with the name. -/
def lastDesignated? (name : Text) (items : List Item) : Option Item :=
  items.reverse.find? fun item => item.member? = some name

/-- The first undesignated item whose place has the name; `place` is that of the first item. -/
def firstPlaced? (names : Nat → Option Text) (name : Text) : (place : Nat) → List Item → Option Item
  | _, [] => none
  | place, item :: items =>
    if item.member? = none ∧ names place = some name then some item else firstPlaced? names name (place + 1) items

variable {names : Nat → Option Text} {name : Text}

theorem lastDesignated?_cons (item : Item) (items : List Item) : lastDesignated? name (item :: items) =
    (lastDesignated? name items).or (if item.member? = some name then some item else none) := by
  rw [lastDesignated?, List.reverse_cons, List.find?_append, ← lastDesignated?]
  congr 1
  by_cases h : item.member? = some name <;> simp [h]

/-- What was put before the items counts for more than an item that its place names, and for less than a designated
one. -/
theorem find?_membersFrom : ∀ (items : List Item) (place : Nat) (es : Entries Text Text),
    (membersFrom names place items es).find? name =
      ((lastDesignated? name items).map Item.text).or
        ((es.find? name).or ((firstPlaced? names name place items).map Item.text))
  | [], _, es => by simp [membersFrom, lastDesignated?, firstPlaced?]
  | item :: items, place, es => by
    rw [membersFrom, find?_membersFrom items, lastDesignated?_cons, firstPlaced?, Option.map_or, Option.or_assoc]
    congr 1
    cases hmember : item.member? with
    | some key =>
      by_cases hkey : key = name
      · simp [hkey]
      · simp [hkey, Entries.find?_put_of_ne (Ne.symm hkey)]
    | none =>
      cases hplace : names place with
      | none => simp
      | some key =>
        by_cases hkey : key = name
        · simp [hkey, Entries.find?_putNew]
        · simp [hkey, Entries.find?_putNew, Ne.symm hkey]

/-- **The last designated item gives a member its text, or the first one that its place names.** -/
theorem find?_members (names : Nat → Option Text) (items : List Item) (name : Text) :
    (members names items).find? name =
      ((lastDesignated? name items).or (firstPlaced? names name 0 items)).map Item.text := by
  rw [members, find?_membersFrom, Option.map_or]
  simp [Entries.find?]

theorem nodup_membersFrom : ∀ (items : List Item) (place : Nat) {es : Entries Text Text}, (es.map Prod.fst).Nodup →
    ((membersFrom names place items es).map Prod.fst).Nodup
  | [], _, _, h => h
  | item :: items, place, es, h => by
    refine nodup_membersFrom items (place + 1) ?_
    split
    · exact Entries.nodup_put h _
    · exact Entries.nodup_putNew h _
    · exact h

/-! ## Structs -/

/-- The text has an object of the label, with these items. -/
def HasObject (source label : Text) (items : List Item) : Prop :=
  ∃ lexed o, lex source = .ok lexed ∧ readObjects lexed.stop lexed.tokens = .ok o ∧ o.objects.find? label = some items

theorem Objects.nodup_foldl_add : ∀ (ds : List Declaration) {o : Objects}, (o.objects.map Prod.fst).Nodup →
    ((ds.foldl Objects.add o).objects.map Prod.fst).Nodup
  | [], _, h => h
  | d :: ds, o, h => by
    refine nodup_foldl_add ds ?_
    cases d with
    | object label items => exact Entries.nodup_putNew h items
    | fault e => exact h

theorem nodup_readObjects {stop : Position} {ts : List Token} {o : Objects} (h : readObjects stop ts = .ok o) :
    (o.objects.map Prod.fst).Nodup := by
  unfold readObjects at h
  cases hds : declarationsFrom stop [] ts with
  | error e =>
    rw [hds] at h
    cases h
  | ok ds =>
    rw [hds] at h
    cases h
    exact Objects.nodup_foldl_add ds List.nodup_nil

theorem hasObject_iff {source label : Text} {lexed : Lexed} {o : Objects} {items : List Item}
    (hlex : lex source = .ok lexed) (hread : readObjects lexed.stop lexed.tokens = .ok o) :
    HasObject source label items ↔ o.objects.find? label = some items := by
  constructor
  · rintro ⟨lexed', o', hlex', hread', hobject⟩
    obtain rfl := Except.ok.inj (hlex.symm.trans hlex')
    obtain rfl := Except.ok.inj (hread.symm.trans hread')
    exact hobject
  · exact fun hobject => ⟨lexed, o, hlex, hread, hobject⟩

/-- A struct of the label `l` is returned: no label is empty, and `label` is the one asked for, or empty for all. -/
def wanted (label l : Text) : Bool := !l.isEmpty && (label.isEmpty || label == l)

theorem wanted_iff {label l : Text} : wanted label l ↔ l ≠ [] ∧ (label = [] ∨ label = l) := by
  simp [wanted]

/-- The structs of objects that are returned. -/
def structsOf (label : Text) (names : Nat → Option Text) (objects : Entries Text (List Item)) :
    Entries Text (Entries Text Text) :=
  (objects.filter fun e => wanted label e.1).map fun e => (e.1, members names e.2)

theorem find?_structsOf {label l : Text} {objects : Entries Text (List Item)} {ms : Entries Text Text} :
    (structsOf label names objects).find? l = some ms ↔
      wanted label l ∧ ∃ items, objects.find? l = some items ∧ members names items = ms := by
  rw [structsOf, Entries.find?_mapValues, Option.map_eq_some_iff]
  constructor
  · rintro ⟨items, hfind, hmembers⟩
    exact ⟨(List.mem_filter.1 (Entries.mem_of_find? hfind)).2, items, Entries.find?_filter_eq_some hfind, hmembers⟩
  · rintro ⟨hwanted, items, hfind, hmembers⟩
    exact ⟨items, (Entries.find?_filter hwanted objects).trans hfind, hmembers⟩

/-- The structs of one label are all those of the label. -/
theorem structsOf_label {label : Text} (hne : label ≠ []) (objects : Entries Text (List Item)) :
    structsOf label names objects = (structsOf [] names objects).filter fun e => e.1 == label := by
  have hwanted (e : Text × List Item) : wanted label e.1 = ((e.1 == label) && wanted [] e.1) := by
    rw [Bool.eq_iff_iff, Bool.and_eq_true, wanted_iff, wanted_iff, beq_iff_eq]
    constructor
    · rintro ⟨he, hlabel⟩
      exact ⟨(hlabel.resolve_left hne).symm, he, .inl rfl⟩
    · rintro ⟨heq, he, -⟩
      exact ⟨he, .inr heq.symm⟩
  simp only [structsOf, List.filter_map, List.filter_filter, hwanted]
  rfl

section
variable {source : Text} {lexed : Lexed}

theorem structs_error (hlex : lex source = .ok lexed) {e : ParseFault}
    (hread : readObjects lexed.stop lexed.tokens = .error e) (label : Text) (names : Nat → Option Text)
    (filename : Text) : structs source label names filename = (.error e, []) := by
  unfold structs
  simp only [hlex, hread]

theorem structs_ok (hlex : lex source = .ok lexed) {o : Objects}
    (hread : readObjects lexed.stop lexed.tokens = .ok o) (label : Text) (names : Nat → Option Text)
    (filename : Text) : structs source label names filename =
      (.ok (structsOf label names o.objects), o.faults.map fun e => .badInitializers filename (.parse e)) := by
  unfold structs
  simp only [hlex, hread]
  rfl

end

/-- What is returned are the objects that have a label, or the label asked for, each with its members. -/
theorem structs_eq_ok {source label filename : Text} {structures : Entries Text (Entries Text Text)}
    (h : (structs source label names filename).1 = .ok structures) :
    (structures.map Prod.fst).Nodup ∧ ∀ l ms, structures.find? l = some ms ↔
      l ≠ [] ∧ (label = [] ∨ label = l) ∧ ∃ items, HasObject source l items ∧ ms = members names items := by
  cases hlex : lex source with
  | error e =>
    unfold structs at h
    rw [hlex] at h
    obtain rfl := Except.ok.inj h
    refine ⟨List.nodup_nil, fun l ms => ⟨nofun, ?_⟩⟩
    rintro ⟨-, -, items, ⟨lexed, o, hlexed, -⟩, -⟩
    rw [hlex] at hlexed
    cases hlexed
  | ok lexed =>
    cases hread : readObjects lexed.stop lexed.tokens with
    | error e =>
      rw [structs_error hlex hread] at h
      cases h
    | ok o =>
      rw [structs_ok hlex hread] at h
      obtain rfl := Except.ok.inj h
      constructor
      · rw [structsOf, List.map_map]
        exact (nodup_readObjects hread).sublist (List.filter_sublist.map Prod.fst)
      · intro l ms
        rw [find?_structsOf, wanted_iff, and_assoc]
        simp only [hasObject_iff hlex hread, eq_comm]

/-- Asking for one label takes its struct out of all of them. -/
theorem structs_label {label : Text} (hne : label ≠ []) (source : Text) (names : Nat → Option Text) (filename : Text) :
    structs source label names filename =
      ((structs source [] names filename).1.map fun all => all.filter fun e => e.1 == label,
        (structs source [] names filename).2) := by
  cases hlex : lex source with
  | error e =>
    unfold structs
    rw [hlex]
    rfl
  | ok lexed =>
    cases hread : readObjects lexed.stop lexed.tokens with
    | error e =>
      rw [structs_error hlex hread, structs_error hlex hread]
      rfl
    | ok o =>
      rw [structs_ok hlex hread, structs_ok hlex hread, structsOf_label hne]
      rfl

/-- **The structs of a text** are those of its objects that have a label, or the one asked for.  In each, the last item
that is designated with a name gives the member its text; if there is none, the first undesignated item whose place,
counted over all items, has the name does; and there are no other members.  With a label the answer is what all structs
have for it, and the faults are the same. -/
theorem structs_members (source : Text) (names : Nat → Option Text) (filename : Text) :
    (∀ label structures, (structs source label names filename).1 = .ok structures →
      (structures.map Prod.fst).Nodup ∧ ∀ l ms, structures.find? l = some ms ↔
        l ≠ [] ∧ (label = [] ∨ label = l) ∧ ∃ items, HasObject source l items ∧ ms = members names items) ∧
    (∀ items, ((members names items).map Prod.fst).Nodup ∧ ∀ name, (members names items).find? name =
      ((lastDesignated? name items).or (firstPlaced? names name 0 items)).map Item.text) ∧
    ∀ label, label ≠ [] → structs source label names filename =
      ((structs source [] names filename).1.map fun all => all.filter fun e => e.1 == label,
        (structs source [] names filename).2) :=
  ⟨fun _ _ h => structs_eq_ok h,
    fun items => ⟨nodup_membersFrom items 0 List.nodup_nil, find?_members names items⟩,
    fun _ hne => structs_label hne source names filename⟩

/-- Two items that only a place names, between two of one member, and a second object. -/
def mixedItems : Text := "A = \x7b1, .x = 2, 3, .x = 4\x7d; B = \x7b5\x7d;".toList

/-- All places have one name: the first item gives `y` its text, the last one `x`. -/
theorem structs_members_mixed :
    (∃ items, HasObject mixedItems ['A'] items ∧
      [(['y'], ['1']), (['x'], ['4'])] = members (fun _ => some ['y']) items) ∧
    structs mixedItems ['B'] (fun _ => some ['y']) [] = (.ok [(['B'], [(['y'], ['5'])])], []) := by
  obtain ⟨hstructs, -, hlabel⟩ := structs_members mixedItems (fun _ => some ['y']) []
  have hall : structs mixedItems [] (fun _ => some ['y']) [] =
      (.ok [(['A'], [(['y'], ['1']), (['x'], ['4'])]), (['B'], [(['y'], ['5'])])], []) := by cbv
  constructor
  · obtain ⟨-, hfind⟩ := hstructs [] _ (congrArg Prod.fst hall)
    exact ((hfind ['A'] [(['y'], ['1']), (['x'], ['4'])]).1 rfl).2.2
  · rw [hlabel ['B'] (by simp), hall]
    rfl

end GameSource.Initializer
