import GameSource.Proofs.Initializer.Recovery
import Mathlib
/-!
# Reading looks at no places

A token has a place, which only faults mention.  So a reader takes tokens at other places for the same things: what it
reads and what it leaves are the same tokens at their new places, and a fault is at the new place of the same token
(`movedAnswer`).  Readers that follow one another keep this (`andThen_moved`), so it is shown for each of them, holds of
lists by induction on their tokens (`readItems_moved`), and of whole tables (`readObjects_moved`).
-/
namespace GameSource

def ParseFault.moved (f : Position → Position) (e : ParseFault) : ParseFault := { e with position := f e.position }

namespace Initializer

/-! ## Tokens and items at other places -/

def Token.moved (f : Position → Position) (t : Token) : Token := { t with position := f t.position }

def Designator.moved (f : Position → Position) : Designator → Designator
  | member name => member name
  | index ts => index (ts.map (Token.moved f))

mutual

def Item.moved (f : Position → Position) : Item → Item
  | .scalar path ts => .scalar (path.map (Designator.moved f)) (ts.map (Token.moved f))
  | .list path items => .list (path.map (Designator.moved f)) (Item.allMoved f items)

def Item.allMoved (f : Position → Position) : List Item → List Item
  | [] => []
  | item :: items => Item.moved f item :: Item.allMoved f items

end

variable {f : Position → Position} {stop : Position}

@[simp] theorem isPunctuator_moved (c : Char) (t : Token) : isPunctuator c (t.moved f) = isPunctuator c t := rfl

@[simp] theorem closer?_moved (t : Token) : closer? (t.moved f) = closer? t := rfl

/-- What stands first looks the same at another place. -/
theorem any_head?_moved {p : Token → Bool} (hp : ∀ t, p (t.moved f) = p t) (ts : List Token) :
    (ts.map (Token.moved f)).head?.any p = ts.head?.any p := by
  cases ts with
  | nil => rfl
  | cons t ts => exact hp t

theorem beginsPath_moved (ts : List Token) : beginsPath (ts.map (Token.moved f)) = beginsPath ts := by
  cases ts with
  | nil => rfl
  | cons t ts =>
    have hname := any_head?_moved (f := f) (p := fun t => t.kind == .identifier) (fun _ => rfl) ts
    rw [List.map_cons, beginsPath, beginsPath, hname]
    rfl

/-! ## Texts -/

theorem renderFrom_moved : ∀ (ts : List Token) (earlier previous : Option Token),
    renderFrom (earlier.map (Token.moved f)) (previous.map (Token.moved f)) (ts.map (Token.moved f)) =
      renderFrom earlier previous ts
  | [], _, _ => rfl
  | t :: ts, earlier, previous => by
    have hspaced : (previous.map (Token.moved f)).any (spaced (earlier.map (Token.moved f)) · (t.moved f)) =
        previous.any (spaced earlier · t) := by
      cases previous with
      | none => rfl
      | some u => cases earlier <;> rfl
    have hrest := renderFrom_moved ts previous (some t)
    rw [List.map_cons, renderFrom, renderFrom, hspaced, ← hrest]
    rfl

/-- **The text of tokens has nothing of their places.** -/
@[simp] theorem render_moved (ts : List Token) : render (ts.map (Token.moved f)) = render ts :=
  renderFrom_moved ts none none

@[simp] theorem Designator.text_moved (d : Designator) : (d.moved f).text = d.text := by
  cases d with
  | member name => rfl
  | index ts => rw [Designator.moved, Designator.text, Designator.text, render_moved]

@[simp] theorem pathText_moved (path : List Designator) : pathText (path.map (Designator.moved f)) = pathText path := by
  rw [pathText, pathText, List.flatMap_map]
  simp

namespace Item

@[simp] theorem path_moved (item : Item) : (item.moved f).path = item.path.map (Designator.moved f) := by
  cases item <;> rw [Item.moved] <;> rfl

mutual

@[simp] theorem text_moved : ∀ item : Item, (item.moved f).text = item.text
  | .scalar path ts => by rw [Item.moved, Item.text, Item.text, render_moved]
  | .list path items => by rw [Item.moved, Item.text, Item.text, texts_moved items]

theorem texts_moved : ∀ items : List Item, Item.texts (Item.allMoved f items) = Item.texts items
  | [] => by rw [Item.allMoved]
  | item :: items => by
    rw [Item.allMoved, Item.texts, Item.texts, text_moved item, texts_moved items, path_moved, designated, designated,
      pathText_moved, List.isEmpty_map]

end

@[simp] theorem member?_moved (item : Item) : (item.moved f).member? = item.member? := by
  rw [Item.member?, Item.member?, path_moved, pathText_moved, List.isEmpty_map]

theorem allMoved_eq_map : ∀ items : List Item, Item.allMoved f items = items.map (Item.moved f)
  | [] => by rw [Item.allMoved, List.map_nil]
  | item :: items => by rw [Item.allMoved, List.map_cons, allMoved_eq_map items]

end Item

theorem membersFrom_moved (names : Nat → Option Text) : ∀ (items : List Item) (place : Nat) (es : Entries Text Text),
    membersFrom names place (items.map (Item.moved f)) es = membersFrom names place items es
  | [], _, _ => rfl
  | item :: items, place, es => by
    rw [List.map_cons, membersFrom, membersFrom, Item.member?_moved, Item.text_moved, membersFrom_moved names items]

/-! ## Brackets -/

theorem balanced?_moved : ∀ (ts : List Token) (closers : List Char), balanced? closers (ts.map (Token.moved f)) =
    (balanced? closers ts).map fun p => (p.1.map (Token.moved f), p.2.map (Token.moved f))
  | [], closers => by simp [balanced?]
  | t :: ts, closers => by
    have hmore (closers : List Char) :
        (balanced? closers (ts.map (Token.moved f))).map (fun p => (t.moved f :: p.1, p.2)) =
          ((balanced? closers ts).map fun p => (t :: p.1, p.2)).map
            fun p => (p.1.map (Token.moved f), p.2.map (Token.moved f)) := by
      rw [balanced?_moved ts closers, Option.map_map, Option.map_map]
      rfl
    rw [List.map_cons, balanced?.eq_def, balanced?.eq_def]
    simp only [closer?_moved, isPunctuator_moved]
    split
    · exact hmore _
    · exact hmore _
    · split
      · split
        · rfl
        · exact hmore _
      · exact hmore _

/-! ## Readers -/

section
variable {α β γ δ : Type}

/-- What comes of reading, at other places: what is wrong is moved as well. -/
def movedAnswer (f : Position → Position) (move : α → β) (r : Except ParseFault α) : Except ParseFault β :=
  (r.map move).mapError (ParseFault.moved f)

@[simp] theorem movedAnswer_ok (move : α → β) (a : α) : movedAnswer f move (.ok a) = .ok (move a) := rfl

@[simp] theorem movedAnswer_error (move : α → β) (e : ParseFault) : movedAnswer f move (.error e) = .error (e.moved f) :=
  rfl

theorem movedAnswer_map {move : α → β} {move' : γ → δ} {g : α → γ} {g' : β → δ} (hg : ∀ a, g' (move a) = move' (g a))
    (r : Except ParseFault α) : (movedAnswer f move r).map g' = movedAnswer f move' (r.map g) := by
  cases r with
  | error e => rfl
  | ok a => exact congrArg Except.ok (hg a)

/-- What was read and the tokens behind it, at other places. -/
def movedRest (f : Position → Position) (move : α → α) (q : α × List Token) : α × List Token :=
  (move q.1, q.2.map (Token.moved f))

variable {move : α → α} {move' : β → β}

/-- Readers that follow one another take tokens at other places for the same things if each of them does. -/
theorem andThen_moved {read read' : Position → List Token → Except ParseFault (α × List Token)}
    {next next' : α → Position → List Token → Except ParseFault (β × List Token)} {ts : List Token}
    (h : read' (f stop) (ts.map (Token.moved f)) = movedAnswer f (movedRest f move) (read stop ts))
    (hnext : ∀ a left, read stop ts = .ok (a, left) →
      next' (move a) (f stop) (left.map (Token.moved f)) = movedAnswer f (movedRest f move') (next a stop left)) :
    andThen read' next' (f stop) (ts.map (Token.moved f)) =
      movedAnswer f (movedRest f move') (andThen read next stop ts) := by
  rw [andThen, andThen, h]
  cases hread : read stop ts with
  | error e => rfl
  | ok q => exact hnext q.1 q.2 hread

end

theorem readGroup_moved (ts : List Token) : readGroup (f stop) (ts.map (Token.moved f)) =
    movedAnswer f (movedRest f (List.map (Token.moved f))) (readGroup stop ts) := by
  rw [readGroup, readGroup, balanced?_moved]
  cases balanced? [] ts <;> rfl

/-! ## Paths -/

theorem outcome_readPath_end {ts : List Token} (h : beginsPath ts = false) : outcome (readPath stop ts) = .ok ([], ts) := by
  rw [readPath_end h]
  rfl

theorem readPath_moved : ∀ ts : List Token, outcome (readPath (f stop) (ts.map (Token.moved f))) =
    movedAnswer f (movedRest f (List.map (Designator.moved f))) (outcome (readPath stop ts)) := by
  intro ts
  cases hbegins : beginsPath ts with
  | false =>
    rw [outcome_readPath_end hbegins, outcome_readPath_end ((beginsPath_moved ts).trans hbegins)]
    rfl
  | true =>
    match ts, hbegins with
    | t :: ts, hbegins =>
      rcases Bool.or_eq_true_iff.1 hbegins with hbracket | hmember
      · have hmoved : isPunctuator '[' (t.moved f) = true := hbracket
        rw [outcome_readPath_index hbracket, List.map_cons, outcome_readPath_index hmoved, ← List.map_cons]
        refine andThen_moved (readGroup_moved _) fun taken after hgroup => ?_
        have hlt := length_of_readGroup hgroup
        rw [behindIndex, behindIndex, readPath_moved after]
        refine movedAnswer_map (fun q => ?_) _
        simp [movedRest, Designator.moved]
      · obtain ⟨hpoint, hname⟩ := Bool.and_eq_true_iff.1 hmember
        cases ts with
        | nil => cases hname
        | cons u us =>
          have hident : u.kind = .identifier := eq_of_beq hname
          have hmoved : isPunctuator '.' (t.moved f) = true := hpoint
          have hident' : (u.moved f).kind = .identifier := hident
          rw [outcome_readPath_member hpoint hident, List.map_cons, List.map_cons,
            outcome_readPath_member hmoved hident', readPath_moved us]
          refine movedAnswer_map (fun q => ?_) _
          rfl
  termination_by ts => ts.length
  decreasing_by
    · exact hlt
    · simp only [List.length_cons]
      omega

/-- Reads the equals sign behind a path. -/
def behindPath : List Designator → Position → List Token → Except ParseFault (List Designator × List Token)
  | [], _, ts => .ok ([], ts)
  | _ :: _, stop, [] => .error ⟨.expectedSign '=', stop⟩
  | d :: path, _, t :: ts =>
    if isPunctuator '=' t then .ok (d :: path, ts) else .error ⟨.expectedSign '=', t.position⟩

theorem outcome_readDesignation (ts : List Token) : outcome (readDesignation stop ts) =
    andThen (fun stop ts => outcome (readPath stop ts)) behindPath stop ts := by
  rw [readDesignation, andThen]
  cases readPath stop ts with
  | error e => rfl
  | ok q =>
    obtain ⟨path, rest, hle⟩ := q
    cases path with
    | nil => rfl
    | cons d path =>
      cases rest with
      | nil => rfl
      | cons t rest =>
        by_cases hequals : isPunctuator '=' t
        · simp only [outcome, Except.map, Except.bind, behindPath, hequals, if_true]
        · simp only [outcome, Except.map, Except.bind, behindPath, hequals, Bool.false_eq_true, if_false]

theorem readDesignation_moved (ts : List Token) : outcome (readDesignation (f stop) (ts.map (Token.moved f))) =
    movedAnswer f (movedRest f (List.map (Designator.moved f))) (outcome (readDesignation stop ts)) := by
  rw [outcome_readDesignation, outcome_readDesignation]
  refine andThen_moved (readPath_moved ts) fun path left _ => ?_
  cases path with
  | nil => rfl
  | cons d path =>
    cases left with
    | nil => rfl
    | cons t left =>
      rw [List.map_cons, List.map_cons, behindPath, behindPath, isPunctuator_moved]
      by_cases hequals : isPunctuator '=' t
      · rw [if_pos hequals, if_pos hequals]
        rfl
      · rw [if_neg hequals, if_neg hequals]
        rfl

/-! ## Values -/

theorem readTokens_moved : ∀ ts : List Token, outcome (readTokens (f stop) (ts.map (Token.moved f))) =
    movedAnswer f (movedRest f (List.map (Token.moved f))) (outcome (readTokens stop ts))
  | [] => by
    rw [List.map_nil, readTokens, readTokens]
    rfl
  | t :: ts => by
    rw [List.map_cons]
    cases hends : endsValue t with
    | true =>
      have hends' : endsValue (t.moved f) = true := hends
      rw [readTokens_end hends, readTokens_end hends']
      rfl
    | false =>
      have hends' : endsValue (t.moved f) = false := hends
      cases hopen : closer? t with
      | none =>
        have hopen' : closer? (t.moved f) = none := hopen
        rw [outcome_readTokens_other hopen hends, outcome_readTokens_other hopen' hends', readTokens_moved ts]
        refine movedAnswer_map (fun q => ?_) _
        rfl
      | some c =>
        have hopen' : closer? (t.moved f) = some c := hopen
        rw [outcome_readTokens_group hopen, outcome_readTokens_group hopen', ← List.map_cons]
        refine andThen_moved (readGroup_moved _) fun taken after hgroup => ?_
        have hlt := length_of_readGroup hgroup
        rw [behindGroup, behindGroup, readTokens_moved after]
        refine movedAnswer_map (fun q => ?_) _
        simp [movedRest]
  termination_by ts => ts.length
  decreasing_by
    · exact Nat.lt_succ_self _
    · exact hlt

/-- Makes tokens the value of an item; `first` is the first of them or what stands in their place. -/
def scalarValue (path : List Designator) (first : Token) (tokens : List Token) (_ : Position) (rest : List Token) :
    Except ParseFault (Item × List Token) :=
  if tokens.isEmpty then .error ⟨.expectedValue, first.position⟩ else .ok (.scalar path tokens, rest)

theorem outcome_readValue_tokens {t : Token} (ht : isPunctuator '\x7b' t = false) (path : List Designator)
    (ts : List Token) : outcome (readValue stop path (t :: ts)) =
      andThen (fun stop ts => outcome (readTokens stop ts)) (scalarValue path t) stop (t :: ts) := by
  rw [readValue, ht, if_neg Bool.false_ne_true, andThen]
  cases readTokens stop (t :: ts) with
  | error e => rfl
  | ok q =>
    obtain ⟨tokens, behind⟩ := q
    cases tokens <;> rfl

theorem outcome_readValue_list {t : Token} (ht : isPunctuator '\x7b' t) (path : List Designator) (ts : List Token) :
    outcome (readValue stop path (t :: ts)) = (outcome (readItems stop ts)).map fun q => (.list path q.1, q.2) := by
  rw [readValue, if_pos ht]
  cases readItems stop ts <;> rfl

/-! ## Lists -/

/-- A list is read the same at other places. -/
def ItemsMove (f : Position → Position) (stop : Position) (ts : List Token) : Prop :=
  outcome (readItems (f stop) (ts.map (Token.moved f))) =
    movedAnswer f (movedRest f (List.map (Item.moved f))) (outcome (readItems stop ts))

/-- A value is read the same at other places, if the lists in it are. -/
theorem readValue_moved {value : List Token}
    (hlists : ∀ lists : List Token, lists.length < value.length → ItemsMove f stop lists) (path : List Designator) :
    outcome (readValue (f stop) (path.map (Designator.moved f)) (value.map (Token.moved f))) =
      movedAnswer f (movedRest f (Item.moved f)) (outcome (readValue stop path value)) := by
  cases value with
  | nil => rfl
  | cons t ts =>
    rw [List.map_cons]
    cases hbrace : isPunctuator '\x7b' t with
    | true =>
      have hbrace' : isPunctuator '\x7b' (t.moved f) = true := hbrace
      have hitems : ItemsMove f stop ts := hlists ts (by simp)
      rw [outcome_readValue_list hbrace, outcome_readValue_list hbrace', hitems]
      refine movedAnswer_map (fun q => ?_) _
      rw [movedRest, movedRest, Item.moved, Item.allMoved_eq_map]
    | false =>
      have hbrace' : isPunctuator '\x7b' (t.moved f) = false := hbrace
      rw [outcome_readValue_tokens hbrace, outcome_readValue_tokens hbrace', ← List.map_cons]
      refine andThen_moved (readTokens_moved (t :: ts)) fun tokens rest _ => ?_
      rw [scalarValue, scalarValue, List.isEmpty_map]
      by_cases hempty : tokens.isEmpty
      · rw [if_pos hempty, if_pos hempty]
        rfl
      · rw [if_neg hempty, if_neg hempty]
        simp only [movedAnswer, movedRest, Except.map, Except.mapError, Item.moved]

/-- What stands behind an item is read the same at other places, if lists that are shorter are. -/
theorem readOn_moved {behind : List Token}
    (hitems : ∀ left : List Token, left.length < behind.length → ItemsMove f stop left) (item : Item) :
    readOn (item.moved f) (f stop) (behind.map (Token.moved f)) =
      movedAnswer f (movedRest f (List.map (Item.moved f))) (readOn item stop behind) := by
  cases behind with
  | nil => rfl
  | cons t ts =>
    rw [List.map_cons, readOn, readOn, isPunctuator_moved, isPunctuator_moved]
    by_cases hcomma : isPunctuator ',' t
    · have hrest : ItemsMove f stop ts := hitems ts (by simp)
      rw [if_pos hcomma, if_pos hcomma, hrest]
      refine movedAnswer_map (fun q => ?_) _
      rfl
    · rw [if_neg hcomma, if_neg hcomma]
      by_cases hclose : isPunctuator '\x7d' t
      · rw [if_pos hclose, if_pos hclose]
        rfl
      · rw [if_neg hclose, if_neg hclose]
        rfl

/-- **A list is read the same at other places**, with all that is wrong in it. -/
theorem readItems_moved : ∀ ts : List Token, ItemsMove f stop ts
  | [] => by
    rw [ItemsMove, List.map_nil, readItems, readItems]
    rfl
  | t :: ts => by
    rw [ItemsMove, List.map_cons]
    cases hclose : isPunctuator '\x7d' t with
    | true =>
      have hclose' : isPunctuator '\x7d' (t.moved f) = true := hclose
      have hread : outcome (readItems stop (t :: ts)) = .ok ([], ts) := outcome_eq_ok.2 (readItems_close hclose ts)
      rw [hread, outcome_eq_ok.2 (@readItems_close (f stop) _ hclose' (ts.map (Token.moved f)))]
      rfl
    | false =>
      have hclose' : isPunctuator '\x7d' (t.moved f) = false := hclose
      rw [outcome_readItems hclose, outcome_readItems hclose', ← List.map_cons]
      -- A path, a value, and what stands behind them, one after the other.
      refine andThen_moved (readDesignation_moved (t :: ts)) fun path value hpath => ?_
      obtain ⟨hle, -⟩ := outcome_eq_ok.1 hpath
      have hlists (lists : List Token) (hlt : lists.length < value.length) : ItemsMove f stop lists :=
        readItems_moved lists
      refine andThen_moved (readValue_moved hlists path) fun item behind hitem => ?_
      obtain ⟨hle', -⟩ := outcome_eq_ok.1 hitem
      exact readOn_moved (fun left hlt => readItems_moved left) item
  termination_by ts => ts.length
  decreasing_by
    · omega
    · omega

/-- The list of an equals sign begins with a brace at other places as well, and is read the same. -/
theorem exists_listMoved {equals : Token} {list : List Token}
    (h : (isPunctuator '=' equals && list.head?.any (isPunctuator '\x7b')) = true) (stop : Position) :
    ∃ opening ts, list = opening :: ts ∧ isPunctuator '=' (equals.moved f) ∧ isPunctuator '\x7b' (opening.moved f) ∧
      outcome (readList (f stop) ((opening :: ts).map (Token.moved f))) =
        movedAnswer f (movedRest f (List.map (Item.moved f))) (outcome (readList stop (opening :: ts))) := by
  obtain ⟨hequals, hhead⟩ := Bool.and_eq_true_iff.1 h
  cases list with
  | nil => cases hhead
  | cons opening ts =>
    have hopening : isPunctuator '\x7b' opening = true := hhead
    have hopening' : isPunctuator '\x7b' (opening.moved f) = true := hopening
    refine ⟨opening, ts, rfl, hequals, hopening', ?_⟩
    rw [List.map_cons, outcome_readList hopening, outcome_readList hopening']
    exact readItems_moved ts

/-! ## Declarations -/

def Declaration.moved (f : Position → Position) : Declaration → Declaration
  | object label items => object label (items.map (Item.moved f))
  | fault e => fault (e.moved f)

/-- **Declarations are read the same at other places.** -/
theorem declarationsFrom_moved {label : Text} {ts : List Token} :
    declarationsFrom (f stop) label (ts.map (Token.moved f)) =
      movedAnswer f (List.map (Declaration.moved f)) (declarationsFrom stop label ts) := by
  fun_induction declarationsFrom stop label ts with
  | case1 label =>
    rw [List.map_nil, declarationsFrom]
    rfl
  | case2 label equals list hbegins items rest hlt hread ih =>
    obtain ⟨opening, ts, rfl, hequals, hopening, hlist⟩ := exists_listMoved (f := f) hbegins stop
    rw [outcome_eq_ok.2 ⟨hlt, hread⟩] at hlist
    rw [List.map_cons, List.map_cons, declarationsFrom_object hequals hopening hlist, ih]
    refine movedAnswer_map (fun ds => ?_) _
    rfl
  | case3 label equals list hbegins fault hread hnone =>
    obtain ⟨opening, ts, rfl, hequals, hopening, hlist⟩ := exists_listMoved (f := f) hbegins stop
    have hbrackets := @balanced?_moved f (opening :: ts) []
    rw [outcome_eq_error.2 hread] at hlist
    rw [hnone] at hbrackets
    rw [List.map_cons, List.map_cons, declarationsFrom_unclosedList hequals hopening hlist hbrackets]
    rfl
  | case4 label equals list hbegins fault hread taken rest hb hlt ih =>
    obtain ⟨opening, ts, rfl, hequals, hopening, hlist⟩ := exists_listMoved (f := f) hbegins stop
    have hbrackets := @balanced?_moved f (opening :: ts) []
    rw [outcome_eq_error.2 hread] at hlist
    rw [hb] at hbrackets
    rw [List.map_cons, List.map_cons, declarationsFrom_fault hequals hopening hlist hbrackets, ih]
    refine movedAnswer_map (fun ds => ?_) _
    rfl
  | case5 label t ts hlist hopens hnone =>
    have hbrackets := @balanced?_moved f (t :: ts) []
    rw [hnone] at hbrackets
    obtain ⟨c, hopen⟩ := Option.isSome_iff_exists.1 hopens
    have hopen' : closer? (t.moved f) = some c := hopen
    rw [List.map_cons, declarationsFrom_unclosed hopen' hbrackets]
    rfl
  | case6 label t ts hlist hopens taken rest hb hlt ih =>
    have hbrackets := @balanced?_moved f (t :: ts) []
    rw [hb] at hbrackets
    obtain ⟨c, hopen⟩ := Option.isSome_iff_exists.1 hopens
    have hopen' : closer? (t.moved f) = some c := hopen
    rw [List.map_cons, declarationsFrom_group hopen' hbrackets, ih]
  | case7 label t ts hlist hopens ih =>
    have hopen : closer? (t.moved f) = none := by simpa using hopens
    have hplain : (isPunctuator '=' (t.moved f) && (ts.map (Token.moved f)).head?.any (isPunctuator '\x7b')) = false := by
      rw [any_head?_moved (fun _ => rfl)]
      simpa using hlist
    rw [List.map_cons, declarationsFrom_plain hopen hplain, ← ih]
    rfl

/-! ## Objects -/

def Objects.moved (f : Position → Position) (o : Objects) : Objects where
  objects := o.objects.map fun e => (e.1, e.2.map (Item.moved f))
  faults := o.faults.map (ParseFault.moved f)

theorem Objects.add_moved (o : Objects) (d : Declaration) : (o.moved f).add (d.moved f) = (o.add d).moved f := by
  cases d with
  | object label items =>
    rw [Declaration.moved, add, add, moved, moved, ← Entries.putNew_mapValues]
  | fault e => simp [Declaration.moved, add, moved]

theorem Objects.foldl_add_moved : ∀ (ds : List Declaration) (o : Objects),
    (ds.map (Declaration.moved f)).foldl Objects.add (o.moved f) = (ds.foldl Objects.add o).moved f
  | [], _ => rfl
  | d :: ds, o => by rw [List.map_cons, List.foldl_cons, List.foldl_cons, add_moved, foldl_add_moved ds]

/-- **A table is read the same at other places**: the objects have the same tokens, and the faults are at the new places
of the same tokens. -/
theorem readObjects_moved (ts : List Token) : readObjects (f stop) (ts.map (Token.moved f)) =
    movedAnswer f (Objects.moved f) (readObjects stop ts) := by
  rw [readObjects, readObjects, declarationsFrom_moved]
  exact movedAnswer_map (fun ds => Objects.foldl_add_moved ds {}) _

end Initializer

end GameSource
