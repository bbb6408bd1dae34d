import GameSource.Initializer.Struct
import GameSource.Proofs.Initializer.Grammar
/-!
# What the grammar spells is read

Each reader takes the tokens that spell its part of the grammar, gives that part, and leaves the tokens behind it.  What
it answers, without the proof that it shortens the tokens, is its `outcome`, and readers follow one another by `andThen`.
Brackets are taken in pairs (`balanced?_group`), a path up to the value behind it (`readPath_spells`), a value up to what
ends it (`readTokens_within`).  Items and the lists in them are read by induction on how they are spelled
(`readItems_spells`), and so the declarations of a table give its objects (`readObjects_spells`).
-/
namespace GameSource.Initializer

/-! ## Punctuators -/

theorem isPunctuator_iff {c : Char} {t : Token} :
    isPunctuator c t = true ↔ t.kind = .punctuator ∧ t.text = [c] := by
  simp [isPunctuator]

/-- A token is no more than one punctuator. -/
theorem isPunctuator_eq {c d : Char} {t : Token} (h : isPunctuator c t) : isPunctuator d t = decide (c = d) := by
  obtain ⟨hk, ht⟩ := isPunctuator_iff.1 h
  simp [isPunctuator, hk, ht, Bool.beq_eq_decide_eq]

theorem isPunctuator_identifier {t : Token} (h : t.kind = .identifier) (c : Char) : isPunctuator c t = false := by
  simp [isPunctuator, h]

theorem closer?_eq {c : Char} {t : Token} (h : isPunctuator c t) :
    closer? t = if c = '(' then some ')' else if c = '[' then some ']' else if c = '\x7b' then some '\x7d' else none := by
  simp [closer?, isPunctuator_eq h]

theorem closer?_identifier {t : Token} (h : t.kind = .identifier) : closer? t = none := by
  simp [closer?, isPunctuator_identifier h]

/-- The brackets, each with the one that closes it. -/
theorem closer?_eq_some {t : Token} {c : Char} (h : closer? t = some c) :
    (isPunctuator '(' t ∧ c = ')') ∨ (isPunctuator '[' t ∧ c = ']') ∨ (isPunctuator '\x7b' t ∧ c = '\x7d') := by
  unfold closer? at h
  split at h
  · exact .inl ⟨‹_›, (Option.some.inj h).symm⟩
  split at h
  · exact .inr (.inl ⟨‹_›, (Option.some.inj h).symm⟩)
  split at h
  · exact .inr (.inr ⟨‹_›, (Option.some.inj h).symm⟩)
  · cases h

/-- What closes a bracket opens none. -/
theorem closer?_close {t close : Token} {c : Char} (h : closer? t = some c) (hc : isPunctuator c close) :
    closer? close = none := by
  rw [closer?_eq hc]
  rcases closer?_eq_some h with ⟨-, rfl⟩ | ⟨-, rfl⟩ | ⟨-, rfl⟩ <;> rfl

/-- What opens a bracket ends no value. -/
theorem endsValue_opening {t : Token} {c : Char} (h : closer? t = some c) : endsValue t = false := by
  unfold endsValue
  rcases closer?_eq_some h with ⟨ht, -⟩ | ⟨ht, -⟩ | ⟨ht, -⟩ <;> simp [isPunctuator_eq ht]

/-- What opens a bracket is no equals sign. -/
theorem isPunctuator_equals_opening {t : Token} {c : Char} (h : closer? t = some c) : isPunctuator '=' t = false := by
  rcases closer?_eq_some h with ⟨ht, -⟩ | ⟨ht, -⟩ | ⟨ht, -⟩ <;> simp [isPunctuator_eq ht]

/-! ## Brackets -/

theorem balanced?_open {t : Token} {c : Char} (h : closer? t = some c) (closers : List Char) (ts : List Token) :
    balanced? closers (t :: ts) = (balanced? (c :: closers) ts).map fun p => (t :: p.1, p.2) := by
  rw [balanced?.eq_def]
  simp only [h]

theorem balanced?_other {t : Token} {c : Char} (h : closer? t = none) (hc : isPunctuator c t = false)
    (below : List Char) (ts : List Token) :
    balanced? (c :: below) (t :: ts) = (balanced? (c :: below) ts).map fun p => (t :: p.1, p.2) := by
  rw [balanced?.eq_def]
  simp only [h, hc, Bool.false_eq_true, if_false]

theorem balanced?_close {t : Token} {c : Char} (h : closer? t = none) (hc : isPunctuator c t) (below : List Char)
    (ts : List Token) : balanced? (c :: below) (t :: ts) =
      if below.isEmpty then some ([t], ts) else (balanced? below ts).map fun p => (t :: p.1, p.2) := by
  rw [balanced?.eq_def]
  simp only [h, hc, if_true]

/-- **Tokens with their brackets in pairs are taken along**, and the bracket around them stays open. -/
theorem balanced?_within {ends : Token → Bool} {inner : List Token} (h : Within ends inner) : ∀ {c : Char},
    (∀ t, isPunctuator c t = true → ends t = true) → ∀ (below : List Char) (rest : List Token),
      balanced? (c :: below) (inner ++ rest) = (balanced? (c :: below) rest).map fun p => (inner ++ p.1, p.2) := by
  induction h with
  | nil => intro c _ below rest; simp
  | @token ends t ts ho he h ih =>
    intro c hends below rest
    have hclose : isPunctuator c t = false := by
      cases hp : isPunctuator c t with
      | false => rfl
      | true => exact absurd (hends t hp) (by simp [he])
    rw [List.cons_append, balanced?_other ho hclose, ih hends, Option.map_map]
    rfl
  | @group ends t close d inner ts ho hi hc h ihi ih =>
    intro c hends below rest
    rw [List.cons_append, List.append_assoc, List.cons_append, balanced?_open ho, ihi (fun _ => id),
      balanced?_close (closer?_close ho hc) hc, List.isEmpty_cons, if_neg Bool.false_ne_true, ih hends, Option.map_map,
      Option.map_map, Option.map_map]
    congr 1
    funext p
    simp

/-- **A pair of brackets is taken with what stands in it.** -/
theorem balanced?_group {t close : Token} {c : Char} {inner : List Token} (ho : closer? t = some c)
    (hi : Within (isPunctuator c) inner) (hc : isPunctuator c close) (rest : List Token) :
    balanced? [] (t :: (inner ++ close :: rest)) = some (t :: (inner ++ [close]), rest) := by
  rw [balanced?_open ho, balanced?_within hi (fun _ => id), balanced?_close (closer?_close ho hc) hc,
    List.isEmpty_nil, if_pos rfl]
  rfl

/-! ## Answers -/

section
variable {α β : Type}

/-- What was read, and the tokens left over. -/
def outcome {p : List Token → Prop} (r : Except ParseFault (α × { ts : List Token // p ts })) :
    Except ParseFault (α × List Token) := r.map fun q => (q.1, q.2.1)

theorem outcome_eq_ok {p : List Token → Prop} {r : Except ParseFault (α × { ts : List Token // p ts })} {a : α}
    {ts : List Token} : outcome r = .ok (a, ts) ↔ ∃ hp, r = .ok (a, ⟨ts, hp⟩) := by
  constructor
  · intro h
    cases r with
    | error e => cases h
    | ok q =>
      cases h
      exact ⟨q.2.2, rfl⟩
  · rintro ⟨hp, rfl⟩
    rfl

theorem outcome_eq_error {p : List Token → Prop} {r : Except ParseFault (α × { ts : List Token // p ts })}
    {e : ParseFault} : outcome r = .error e ↔ r = .error e := by
  cases r with
  | error e' => exact Iff.of_eq (by simp [outcome, Except.map])
  | ok q => exact Iff.of_eq (by simp [outcome, Except.map])

/-- A reader that goes on where another one stopped. -/
def andThen (read : Position → List Token → Except ParseFault (α × List Token))
    (next : α → Position → List Token → Except ParseFault (β × List Token)) (stop : Position) (ts : List Token) :
    Except ParseFault (β × List Token) := (read stop ts).bind fun q => next q.1 stop q.2

end

/-- Takes along what is in brackets. -/
def readGroup (stop : Position) (ts : List Token) : Except ParseFault (List Token × List Token) :=
  match balanced? [] ts with
  | none => .error ⟨.unbalanced, stop⟩
  | some p => .ok p

theorem readGroup_eq_ok {stop : Position} {ts taken rest : List Token} :
    readGroup stop ts = .ok (taken, rest) ↔ balanced? [] ts = some (taken, rest) := by
  unfold readGroup
  cases balanced? [] ts <;> simp

theorem length_of_readGroup {stop : Position} {ts taken rest : List Token} (h : readGroup stop ts = .ok (taken, rest)) :
    rest.length < ts.length := length_of_balanced? (readGroup_eq_ok.1 h)

/-! ## Values -/

theorem readTokens_end {stop : Position} {t : Token} (h : endsValue t) (ts : List Token) :
    readTokens stop (t :: ts) = .ok ([], ⟨t :: ts, Nat.le_refl _⟩) := by
  unfold endsValue at h
  rw [readTokens, if_pos h]

theorem outcome_readTokens_other {stop : Position} {t : Token} (ho : closer? t = none) (he : endsValue t = false)
    (ts : List Token) : outcome (readTokens stop (t :: ts)) = (outcome (readTokens stop ts)).map fun q => (t :: q.1, q.2) := by
  unfold endsValue at he
  rw [readTokens, he, ho]
  cases readTokens stop ts <;> rfl

theorem readTokens_other {stop : Position} {t : Token} (ho : closer? t = none) (he : endsValue t = false)
    {ts tokens rest : List Token} {hle : rest.length ≤ ts.length} (h : readTokens stop ts = .ok (tokens, ⟨rest, hle⟩)) :
    ∃ hle, readTokens stop (t :: ts) = .ok (t :: tokens, ⟨rest, hle⟩) := by
  have hread : outcome (readTokens stop (t :: ts)) = .ok (t :: tokens, rest) := by
    rw [outcome_readTokens_other ho he, outcome_eq_ok.2 ⟨hle, h⟩]
    rfl
  exact outcome_eq_ok.1 hread

/-- Reads the rest of a value behind brackets. -/
def behindGroup (taken : List Token) (stop : Position) (after : List Token) :
    Except ParseFault (List Token × List Token) :=
  (outcome (readTokens stop after)).map fun q => (taken ++ q.1, q.2)

theorem outcome_readTokens_group {stop : Position} {t : Token} {c : Char} (ho : closer? t = some c) (ts : List Token) :
    outcome (readTokens stop (t :: ts)) = andThen readGroup behindGroup stop (t :: ts) := by
  have he : endsValue t = false := endsValue_opening ho
  unfold endsValue at he
  rw [readTokens, he, if_neg Bool.false_ne_true, if_pos (by rw [ho]; rfl), andThen]
  split
  · rename_i hnone
    rw [readGroup, hnone]
    rfl
  · rename_i taken after hsome
    rw [readGroup_eq_ok.2 hsome, Except.bind, behindGroup]
    cases readTokens stop after <;> rfl

theorem readTokens_group {stop : Position} {t : Token} {c : Char} (ho : closer? t = some c)
    {ts taken after tokens rest : List Token} (hb : balanced? [] (t :: ts) = some (taken, after))
    {hle : rest.length ≤ after.length} (h : readTokens stop after = .ok (tokens, ⟨rest, hle⟩)) :
    ∃ hle, readTokens stop (t :: ts) = .ok (taken ++ tokens, ⟨rest, hle⟩) := by
  have hread : outcome (readTokens stop (t :: ts)) = .ok (taken ++ tokens, rest) := by
    rw [outcome_readTokens_group ho, andThen, readGroup_eq_ok.2 hb, Except.bind, behindGroup, outcome_eq_ok.2 ⟨hle, h⟩]
    rfl
  exact outcome_eq_ok.1 hread

/-- **A value is read up to what ends it.** -/
theorem readTokens_within (stop : Position) {t : Token} (ht : endsValue t) (rest : List Token) {ends : Token → Bool}
    {ts : List Token} (h : Within ends ts) (hends : ends = endsValue) :
    ∃ hle, readTokens stop (ts ++ t :: rest) = .ok (ts, ⟨t :: rest, hle⟩) := by
  induction h with
  | nil => exact ⟨_, readTokens_end ht rest⟩
  | token ho he h ih =>
    obtain ⟨hle, hread⟩ := ih hends
    rw [hends] at he
    exact readTokens_other ho he hread
  | @group _ u close c inner ts ho hi hc h _ ih =>
    obtain ⟨hle, hread⟩ := ih hends
    have hcut : u :: (inner ++ close :: ts) ++ t :: rest = u :: (inner ++ close :: (ts ++ t :: rest)) := by simp
    have htaken : u :: (inner ++ close :: ts) = u :: (inner ++ [close]) ++ ts := by simp
    rw [hcut, htaken]
    exact readTokens_group ho (balanced?_group ho hi hc (ts ++ t :: rest)) hread

/-! ## Paths -/

theorem beginsPath_append {ts rest : List Token} (h : beginsPath ts = false) (hne : ts ≠ [])
    (hrest : rest.head?.any (fun t => t.kind == .identifier) = false) : beginsPath (ts ++ rest) = false := by
  match ts, hne with
  | [t], _ =>
    simp only [beginsPath, List.head?_nil, Option.any_none, Bool.and_false, Bool.or_false] at h
    simp [beginsPath, h, hrest]
  | t :: u :: ts, _ => exact h

theorem readPath_end {stop : Position} : ∀ {ts : List Token}, beginsPath ts = false →
    readPath stop ts = .ok ([], ⟨ts, Nat.le_refl _⟩)
  | [], _ => by rw [readPath]
  | [t], h => by
    simp only [beginsPath, Bool.or_eq_false_iff] at h
    rw [readPath, h.1]
    rfl
  | t :: u :: ts, h => by
    simp only [beginsPath, Bool.or_eq_false_iff, List.head?_cons, Option.any_some] at h
    rw [readPath, h.1, h.2]
    rfl

theorem outcome_readPath_member {stop : Position} {point name : Token} (hp : isPunctuator '.' point)
    (hn : name.kind = .identifier) (ts : List Token) : outcome (readPath stop (point :: name :: ts)) =
      (outcome (readPath stop ts)).map fun q => (.member name.text :: q.1, q.2) := by
  have hname : (isPunctuator '.' point && name.kind == .identifier) = true := by simp [hp, hn]
  rw [readPath, hname, if_pos rfl]
  cases readPath stop ts <;> rfl

theorem readPath_member {stop : Position} {point name : Token} (hp : isPunctuator '.' point)
    (hn : name.kind = .identifier) {ts rest : List Token} {path : List Designator} {hle : rest.length ≤ ts.length}
    (h : readPath stop ts = .ok (path, ⟨rest, hle⟩)) :
    ∃ hle, readPath stop (point :: name :: ts) = .ok (.member name.text :: path, ⟨rest, hle⟩) := by
  have hread : outcome (readPath stop (point :: name :: ts)) = .ok (.member name.text :: path, rest) := by
    rw [outcome_readPath_member hp hn, outcome_eq_ok.2 ⟨hle, h⟩]
    rfl
  exact outcome_eq_ok.1 hread

/-- Reads the rest of a path behind an index. -/
def behindIndex (taken : List Token) (stop : Position) (after : List Token) :
    Except ParseFault (List Designator × List Token) :=
  (outcome (readPath stop after)).map fun q => (.index taken.tail.dropLast :: q.1, q.2)

theorem outcome_readPath_index {stop : Position} {t : Token} (ht : isPunctuator '[' t) (ts : List Token) :
    outcome (readPath stop (t :: ts)) = andThen readGroup behindIndex stop (t :: ts) := by
  cases ts with
  | nil =>
    have hopen : closer? t = some ']' := by
      rw [closer?_eq ht]
      rfl
    rw [readPath, if_pos ht, andThen, readGroup, balanced?_open hopen]
    rfl
  | cons u us =>
    have hname : (isPunctuator '.' t && u.kind == .identifier) = false := by simp [isPunctuator_eq ht]
    rw [readPath, hname, if_neg Bool.false_ne_true, if_pos ht, andThen]
    split
    · rename_i hnone
      rw [readGroup, hnone]
      rfl
    · rename_i taken after hsome
      rw [readGroup_eq_ok.2 hsome, Except.bind, behindIndex]
      cases readPath stop after <;> rfl

theorem readPath_index {stop : Position} {t : Token} (ht : isPunctuator '[' t) {ts taken after rest : List Token}
    (hb : balanced? [] (t :: ts) = some (taken, after)) {path : List Designator}
    {hle : rest.length ≤ after.length} (h : readPath stop after = .ok (path, ⟨rest, hle⟩)) :
    ∃ hle, readPath stop (t :: ts) = .ok (.index taken.tail.dropLast :: path, ⟨rest, hle⟩) := by
  have hread : outcome (readPath stop (t :: ts)) = .ok (.index taken.tail.dropLast :: path, rest) := by
    rw [outcome_readPath_index ht, andThen, readGroup_eq_ok.2 hb, Except.bind, behindIndex, outcome_eq_ok.2 ⟨hle, h⟩]
    rfl
  exact outcome_eq_ok.1 hread

/-- **A path is read up to the tokens behind it**, if they do not go on with it. -/
theorem readPath_spells (stop : Position) {rest : List Token} (hrest : beginsPath rest = false)
    {path : List Designator} {ts : List Token} (h : SpellsPath path ts) :
    ∃ hle, readPath stop (ts ++ rest) = .ok (path, ⟨rest, hle⟩) := by
  induction h with
  | nil => exact ⟨_, readPath_end hrest⟩
  | @cons d path ds ts hd h ih =>
    obtain ⟨hle, hread⟩ := ih
    rw [List.append_assoc]
    cases hd with
    | member hp hn => exact readPath_member hp hn hread
    | @index opening close inner ho hi hc =>
      have hcut : opening :: (inner ++ [close]) ++ (ts ++ rest) = opening :: (inner ++ close :: (ts ++ rest)) := by simp
      have hindex : inner = (opening :: (inner ++ [close])).tail.dropLast := by simp
      rw [hcut, hindex]
      refine readPath_index ho ?_ hread
      rw [← hindex]
      exact balanced?_group (by rw [closer?_eq ho]; rfl) hi hc _

/-- **What stands before a value is read up to the value.** -/
theorem readDesignation_spells (stop : Position) {path : List Designator} {ds rest : List Token}
    (h : SpellsDesignation path ds) (hrest : path = [] → beginsPath rest = false) :
    ∃ hle, readDesignation stop (ds ++ rest) = .ok (path, ⟨rest, hle⟩) := by
  cases h with
  | nil =>
    rw [List.nil_append]
    refine ⟨Nat.le_refl _, ?_⟩
    rw [readDesignation, readPath_end (hrest rfl)]
  | @path _ ts equals hne h he =>
    have hbegins : beginsPath (equals :: rest) = false := by simp [beginsPath, isPunctuator_eq he]
    obtain ⟨hle, hread⟩ := readPath_spells stop hbegins h
    obtain ⟨d, path, rfl⟩ := List.exists_cons_of_ne_nil hne
    rw [List.append_assoc, List.singleton_append]
    refine ⟨Nat.le_of_succ_le hle, ?_⟩
    rw [readDesignation, hread]
    simp only [he, if_true]

/-! ## Items -/

theorem length_le_of_lt {t : Token} {ts behind : List Token} (h : behind.length < ts.length) :
    behind.length ≤ (t :: ts).length := Nat.le_succ_of_le (Nat.le_of_lt h)

theorem length_lt_of_le {ts behind after : List Token} (ha : after.length < behind.length)
    (h : behind.length ≤ ts.length) : after.length < ts.length := Nat.lt_of_lt_of_le ha h

theorem length_lt_of_lt {ts behind after final : List Token} (hf : final.length < after.length)
    (ha : after.length < behind.length) (h : behind.length ≤ ts.length) : final.length < ts.length :=
  Nat.lt_trans hf (Nat.lt_of_lt_of_le ha h)

/-- Reads the value of an item: a list, or tokens. -/
def readValue (stop : Position) (path : List Designator) :
    (value : List Token) → Except ParseFault (Item × NoLonger value)
  | [] => .error ⟨.unterminatedList, stop⟩
  | t :: ts =>
    if isPunctuator '\x7b' t then
      match readItems stop ts with
      | .error e => .error e
      | .ok (items, ⟨behind, h⟩) => .ok (.list path items, ⟨behind, length_le_of_lt h⟩)
    else
      match readTokens stop (t :: ts) with
      | .error e => .error e
      | .ok ([], _) => .error ⟨.expectedValue, t.position⟩
      | .ok (tokens, behind) => .ok (.scalar path tokens, behind)

/-- Reads on behind an item: the brace that closes the list, or a comma and the other items. -/
def readBehind (stop : Position) (item : Item) {ts behind : List Token} (h : behind.length ≤ ts.length) :
    Except ParseFault (List Item × Shorter ts) :=
  match readSeparator stop behind with
  | .error e => .error e
  | .ok (.close ⟨after, ha⟩) => .ok ([item], ⟨after, length_lt_of_le ha h⟩)
  | .ok (.comma ⟨after, ha⟩) =>
    match readItems stop after with
    | .error e => .error e
    | .ok (items, ⟨final, hf⟩) => .ok (item :: items, ⟨final, length_lt_of_lt hf ha h⟩)

theorem readValue_scalar {stop : Position} {path : List Designator} {value tokens behind : List Token}
    (hlist : value.head?.any (isPunctuator '\x7b') = false) (hne : tokens ≠ []) {hle : behind.length ≤ value.length}
    (h : readTokens stop value = .ok (tokens, ⟨behind, hle⟩)) :
    readValue stop path value = .ok (.scalar path tokens, ⟨behind, hle⟩) := by
  obtain ⟨u, us, rfl⟩ := List.exists_cons_of_ne_nil hne
  cases value with
  | nil =>
    rw [readTokens] at h
    cases h
  | cons t ts =>
    have ht : isPunctuator '\x7b' t = false := by simpa using hlist
    rw [readValue, ht, if_neg Bool.false_ne_true, h]

theorem readValue_list {stop : Position} {path : List Designator} {opening : Token} (ho : isPunctuator '\x7b' opening)
    {ts behind : List Token} {items : List Item} {hlt : behind.length < ts.length}
    (h : readItems stop ts = .ok (items, ⟨behind, hlt⟩)) :
    ∃ hle, readValue stop path (opening :: ts) = .ok (.list path items, ⟨behind, hle⟩) := by
  refine ⟨by simp only [List.length_cons]; omega, ?_⟩
  rw [readValue, if_pos ho, h]

/-- The item is read up to the tokens behind it: reading ends with the brace that closes the list, and goes on behind a
comma. -/
structure ReadsItem (stop : Position) (ts : List Token) (item : Item) (behind : List Token) : Prop where
  close : ∀ t rest, behind = t :: rest → isPunctuator '\x7d' t → ∃ hlt, readItems stop ts = .ok ([item], ⟨rest, hlt⟩)
  comma : ∀ t rest items final hlt, behind = t :: rest → isPunctuator ',' t →
    readItems stop rest = .ok (items, ⟨final, hlt⟩) → ∃ hlt, readItems stop ts = .ok (item :: items, ⟨final, hlt⟩)

/-- A path and a value are read as an item. -/
theorem readsItem_of_readValue {stop : Position} {ts value behind : List Token} {path : List Designator} {item : Item}
    (hfirst : ts.head?.any (isPunctuator '\x7d') = false) {hd : value.length ≤ ts.length}
    (hpath : readDesignation stop ts = .ok (path, ⟨value, hd⟩)) {hb : behind.length ≤ value.length}
    (hvalue : readValue stop path value = .ok (item, ⟨behind, hb⟩)) : ReadsItem stop ts item behind := by
  cases ts with
  | nil =>
    obtain rfl : value = [] := List.eq_nil_of_length_eq_zero (Nat.le_zero.1 hd)
    rw [readValue] at hvalue
    cases hvalue
  | cons t ts =>
    have ht : isPunctuator '\x7d' t = false := by simpa using hfirst
    have hread : readItems stop (t :: ts) = readBehind stop item (Nat.le_trans hb hd) := by
      rw [readItems, ht, if_neg Bool.false_ne_true, hpath]
      cases value with
      | nil => cases hvalue
      | cons u inner =>
        rw [readValue] at hvalue
        by_cases hu : isPunctuator '\x7b' u
        · simp only [hu, if_true] at hvalue ⊢
          cases hitems : readItems stop inner with
          | error e => simp [hitems] at hvalue
          | ok p =>
            simp only [hitems] at hvalue ⊢
            cases hvalue
            rfl
        · simp only [hu, Bool.false_eq_true, if_false] at hvalue ⊢
          cases htokens : readTokens stop (u :: inner) with
          | error e => simp [htokens] at hvalue
          | ok p =>
            obtain ⟨tokens, behind'⟩ := p
            cases tokens with
            | nil => simp [htokens] at hvalue
            | cons v vs =>
              simp only [htokens] at hvalue ⊢
              cases hvalue
              rfl
    constructor
    · rintro u rest rfl hu
      have hcomma : isPunctuator ',' u = false := by simp [isPunctuator_eq hu]
      refine ⟨by simp only [List.length_cons] at hb hd ⊢; omega, ?_⟩
      rw [hread, readBehind, readSeparator]
      simp only [hcomma, Bool.false_eq_true, if_false, hu, if_true]
    · rintro u rest items final hlt rfl hu hrest
      refine ⟨by simp only [List.length_cons] at hb hd ⊢; omega, ?_⟩
      rw [hread, readBehind, readSeparator]
      simp only [hu, if_true, hrest]

theorem readItems_close {stop : Position} {t : Token} (h : isPunctuator '\x7d' t) (ts : List Token) :
    ∃ hlt, readItems stop (t :: ts) = .ok ([], ⟨ts, hlt⟩) := by
  refine ⟨by simp, ?_⟩
  rw [readItems, if_pos h]

theorem beginsPath_of_isPunctuator {c : Char} {t : Token} (ht : isPunctuator c t) (hc : c ≠ '[') (hp : c ≠ '.')
    (ts : List Token) : beginsPath (t :: ts) = false := by
  simp [beginsPath, isPunctuator_eq ht, hc, hp]

theorem spellsPath_ne_nil {path : List Designator} {ts : List Token} (h : SpellsPath path ts) (hne : path ≠ []) :
    ts ≠ [] ∧ ts.head?.any (isPunctuator '\x7d') = false := by
  cases h with
  | nil => exact absurd rfl hne
  | cons hd h =>
    cases hd with
    | member hp hn => simp [isPunctuator_eq hp]
    | index ho hi hc => simp [isPunctuator_eq ho]

/-- Nothing that stands before a value looks like the end of a list. -/
theorem head?_designation {path : List Designator} {ds value : List Token} (h : SpellsDesignation path ds)
    (hv : value.head?.any (isPunctuator '\x7d') = false) : (ds ++ value).head?.any (isPunctuator '\x7d') = false := by
  cases h with
  | nil => exact hv
  | path hne h he =>
    obtain ⟨hts, hhead⟩ := spellsPath_ne_nil h hne
    obtain ⟨t, ts, rfl⟩ := List.exists_cons_of_ne_nil hts
    exact hhead

theorem head?_within {ts : List Token} (h : Within endsValue ts) : ts.head?.any (isPunctuator '\x7d') = false := by
  have hopen {t : Token} (he : endsValue t = false) : isPunctuator '\x7d' t = false :=
    (Bool.or_eq_false_iff.1 he).2
  cases h with
  | nil => rfl
  | token ho he h => exact hopen he
  | group ho hi hc h => exact hopen (endsValue_opening ho)

theorem endsValue_not_identifier {t : Token} (h : endsValue t) : (t.kind == .identifier) = false := by
  rcases Bool.or_eq_true_iff.1 h with h | h <;> simp [(isPunctuator_iff.1 h).1]

mutual

/-- **An item is read up to what ends its value.** -/
theorem readsItem_spells (stop : Position) {item : Item} {ts : List Token} (h : SpellsItem item ts) {t : Token}
    (ht : endsValue t) (rest : List Token) : ReadsItem stop (ts ++ t :: rest) item (t :: rest) := by
  match h with
  | @SpellsItem.scalar path ds value hd hne hw hlist hpath =>
    have hbegins : path = [] → beginsPath (value ++ t :: rest) = false := fun hp =>
      beginsPath_append (hpath hp) hne (endsValue_not_identifier ht)
    have hhead (p : Token → Bool) (h : value.head?.any p = false) : (value ++ t :: rest).head?.any p = false := by
      obtain ⟨u, us, rfl⟩ := List.exists_cons_of_ne_nil hne
      exact h
    obtain ⟨_, hread⟩ := readDesignation_spells stop hd hbegins
    obtain ⟨_, htokens⟩ := readTokens_within stop ht rest hw rfl
    rw [List.append_assoc]
    exact readsItem_of_readValue (head?_designation hd (hhead _ (head?_within hw))) hread
      (readValue_scalar (hhead _ hlist) hne htokens)
  | @SpellsItem.list _ _ ds inner opening hd ho hitems =>
    obtain ⟨_, hinner⟩ := readItems_spells stop hitems (t :: rest)
    obtain ⟨_, hvalue⟩ := readValue_list ho hinner
    have hbegins := beginsPath_of_isPunctuator ho (by decide) (by decide) (inner ++ t :: rest)
    obtain ⟨_, hread⟩ := readDesignation_spells stop hd fun _ => hbegins
    rw [List.append_assoc, List.cons_append]
    exact readsItem_of_readValue (head?_designation hd (by simp [isPunctuator_eq ho])) hread hvalue

/-- **Items are read up to the brace that closes their list.** -/
theorem readItems_spells (stop : Position) {items : List Item} {ts : List Token} (h : SpellsItems items ts)
    (rest : List Token) : ∃ hlt, readItems stop (ts ++ rest) = .ok (items, ⟨rest, hlt⟩) := by
  match h with
  | .nil hc => exact readItems_close hc rest
  | @SpellsItems.last _ ts close h hc =>
    have hends : endsValue close = true := by simp [endsValue, hc]
    rw [List.append_assoc]
    exact (readsItem_spells stop h hends rest).close close rest rfl hc
  | @SpellsItems.cons _ _ ts us comma h hc hs =>
    have hends : endsValue comma = true := by simp [endsValue, hc]
    obtain ⟨hlt, hread⟩ := readItems_spells stop hs rest
    rw [List.append_assoc, List.cons_append]
    exact (readsItem_spells stop h hends (us ++ rest)).comma comma (us ++ rest) _ rest hlt rfl hc hread

end

/-! ## Declarations -/

/-- A token that opens no bracket and begins no list only changes the label. -/
theorem declarationsFrom_token {stop : Position} {t : Token} (he : isPunctuator '=' t = false) (ho : closer? t = none)
    (label : Text) (ts : List Token) :
    declarationsFrom stop label (t :: ts) = declarationsFrom stop (nextLabel label t) ts := by
  rw [declarationsFrom, he, ho]
  rfl

/-- Brackets outside lists are passed over. -/
theorem declarationsFrom_group {stop : Position} {t : Token} {c : Char} (ho : closer? t = some c)
    {ts taken rest : List Token} (hb : balanced? [] (t :: ts) = some (taken, rest)) (label : Text) :
    declarationsFrom stop label (t :: ts) = declarationsFrom stop label rest := by
  rw [declarationsFrom, isPunctuator_equals_opening ho, ho]
  simp only [Bool.false_and, Bool.false_eq_true, if_false, Option.isSome_some, if_true]
  split
  · rename_i hnone
    rw [hb] at hnone
    cases hnone
  · rename_i taken' rest' hsome
    rw [hb] at hsome
    cases hsome
    rfl

/-- A bracket outside lists that is not closed stops the reading. -/
theorem declarationsFrom_unclosed {stop : Position} {t : Token} {c : Char} (ho : closer? t = some c) {ts : List Token}
    (hb : balanced? [] (t :: ts) = none) (label : Text) :
    declarationsFrom stop label (t :: ts) = .error ⟨.unbalanced, stop⟩ := by
  rw [declarationsFrom, isPunctuator_equals_opening ho, ho]
  simp only [Bool.false_and, Bool.false_eq_true, if_false, Option.isSome_some, if_true]
  split
  · rfl
  · rename_i hsome
    rw [hb] at hsome
    cases hsome

theorem declarationsFrom_bounds {stop : Position} {bounds : List Token} (h : SpellsBounds bounds) (label : Text)
    (rest : List Token) : declarationsFrom stop label (bounds ++ rest) = declarationsFrom stop label rest := by
  induction h with
  | nil => rfl
  | @cons opening close bound ts ho hb hc h ih =>
    have hopen : closer? opening = some ']' := by
      rw [closer?_eq ho]
      rfl
    rw [List.cons_append, List.append_assoc, List.cons_append,
      declarationsFrom_group hopen (balanced?_group hopen hb hc (ts ++ rest)), ih]

/-- A list behind an equals sign is the object of the label before it. -/
theorem declarationsFrom_list {stop : Position} {equals opening : Token} (he : isPunctuator '=' equals)
    (ho : isPunctuator '\x7b' opening) {items : List Item} {ts : List Token} (h : SpellsItems items ts) (label : Text)
    (rest : List Token) : declarationsFrom stop label (equals :: opening :: (ts ++ rest)) =
      (declarationsFrom stop [] rest).map (.object label items :: ·) := by
  obtain ⟨hlt, hread⟩ := readItems_spells stop h rest
  have hbegins : (isPunctuator '=' equals && (opening :: (ts ++ rest)).head?.any (isPunctuator '\x7b')) = true := by
    simp [he, ho]
  rw [declarationsFrom, hbegins, if_pos rfl, readList, if_pos ho, hread]

theorem declarationsFrom_spells (stop : Position) {decls : List (Text × List Item)} {ts : List Token}
    (h : SpellsTable decls ts) : ∀ label : Text,
      declarationsFrom stop label ts = .ok (decls.map fun d => .object d.1 d.2) := by
  induction h with
  | nil =>
    intro label
    rw [declarationsFrom]
    rfl
  | @cons name equals opening semicolon items decls bounds ts us hl hb he ho hitems hs ht ih =>
    intro label
    have hname : nextLabel label name = name.text := if_pos hl
    have hends : nextLabel [] semicolon = [] := by
      simp [nextLabel, (isPunctuator_iff.1 hs).1, (isPunctuator_iff.1 hs).2]
    rw [declarationsFrom_token (isPunctuator_identifier hl '=') (closer?_identifier hl), hname,
      declarationsFrom_bounds hb, declarationsFrom_list he ho hitems,
      declarationsFrom_token (by simp [isPunctuator_eq hs]) (by rw [closer?_eq hs]; rfl), hends, ih]
    rfl

theorem foldl_add_objects : ∀ (decls : List (Text × List Item)) (objects : Entries Text (List Item)),
    ((objects ++ decls).map Prod.fst).Nodup →
      (decls.map fun d => Declaration.object d.1 d.2).foldl Objects.add ⟨objects, []⟩ = ⟨objects ++ decls, []⟩
  | [], objects, _ => by simp
  | (label, items) :: decls, objects, h => by
    have hnew : label ∉ objects.map Prod.fst := by
      rw [List.map_append, List.nodup_append] at h
      exact fun hmem => h.2.2 label hmem label (by simp) rfl
    have hput : objects.putNew label items = objects ++ [(label, items)] := by
      rw [Entries.putNew, Entries.contains, Entries.find?_eq_none_of_not_mem hnew]
      rfl
    have ih := foldl_add_objects decls (objects ++ [(label, items)]) (by simpa using h)
    rw [List.map_cons, List.foldl_cons, Objects.add, hput, ih]
    simp

/-- The text of a list: its items between braces, each behind its path and an equals sign where it has one. -/
theorem texts_eq_map : ∀ items : List Item,
    Item.texts items = items.map fun item => designated item.path item.text
  | [] => by rw [Item.texts, List.map_nil]
  | item :: items => by rw [Item.texts, texts_eq_map items, List.map_cons]

/-- **Declarations are read as what they spell**: each label has its list, in order, and nothing is wrong.  The text of a
value is that of its tokens, and the text of a list is in braces, its items joined by commas and each behind its path. -/
theorem readObjects_spells (stop : Position) {decls : List (Text × List Item)} {ts : List Token}
    (h : SpellsTable decls ts) (hlabels : (decls.map Prod.fst).Nodup) :
    readObjects stop ts = .ok { objects := decls, faults := [] } ∧
    (∀ path tokens, (Item.scalar path tokens).text = render tokens) ∧
    ∀ path items, (Item.list path items).text = ['\x7b'] ++ ", ".toList.intercalate (items.map fun item =>
      if item.path = [] then item.text else pathText item.path ++ " = ".toList ++ item.text) ++ ['\x7d'] := by
  refine ⟨?_, fun path tokens => by rw [Item.text], fun path items => ?_⟩
  · rw [readObjects, declarationsFrom_spells stop h []]
    exact congrArg Except.ok (foldl_add_objects decls [] hlabels)
  · rw [Item.text, texts_eq_map, braced]
    simp [designated]

/-- A token of one sign, at the start. -/
def sign (c : Char) : Token := ⟨.punctuator, [c], .start⟩

/-- A name, at the start. -/
def word (name : String) : Token := ⟨.identifier, name.toList, .start⟩

/-- `A[n] = { { x, }, .m = f(y, z) };` -/
theorem readObjects_nested :
    readObjects .start [word "A", sign '[', word "n", sign ']', sign '=', sign '\x7b', sign '\x7b', word "x", sign ',',
        sign '\x7d', sign ',', sign '.', word "m", sign '=', word "f", sign '(', word "y", sign ',', word "z", sign ')',
        sign '\x7d', sign ';'] =
      .ok { objects := [("A".toList, [.list [] [.scalar [] [word "x"]],
        .scalar [.member "m".toList] [word "f", sign '(', word "y", sign ',', word "z", sign ')']])], faults := [] } := by
  have hfirst : SpellsItem (.scalar [] [word "x"]) ([] ++ [word "x"]) :=
    .scalar .nil (by simp) (.token rfl rfl (.nil _)) rfl fun _ => rfl
  have hx : SpellsItems [.scalar [] [word "x"]] ([word "x"] ++ sign ',' :: [sign '\x7d']) :=
    .cons hfirst rfl (.nil rfl)
  have harguments : Within (isPunctuator ')') [word "y", sign ',', word "z"] :=
    .token rfl rfl (.token rfl rfl (.token rfl rfl (.nil _)))
  have hcall : Within endsValue (word "f" :: sign '(' :: ([word "y", sign ',', word "z"] ++ sign ')' :: [])) :=
    .token rfl rfl (.group rfl harguments rfl (.nil _))
  have hmember : SpellsDesignator (.member "m".toList) [sign '.', word "m"] :=
    @SpellsDesignator.member (sign '.') (word "m") rfl rfl
  have hm : SpellsDesignation [.member "m".toList] ([sign '.', word "m"] ++ [] ++ [sign '=']) :=
    .path (by simp) (.cons hmember .nil) rfl
  have hlist : SpellsItem (.list [] [.scalar [] [word "x"]])
      ([] ++ sign '\x7b' :: ([word "x"] ++ sign ',' :: [sign '\x7d'])) := .list .nil rfl hx
  have hlast : SpellsItems [.scalar [.member "m".toList] [word "f", sign '(', word "y", sign ',', word "z", sign ')']]
      ([sign '.', word "m"] ++ [] ++ [sign '='] ++
        [word "f", sign '(', word "y", sign ',', word "z", sign ')'] ++ [sign '\x7d']) :=
    .last (.scalar hm (by simp) hcall rfl (by simp)) rfl
  have hbounds : SpellsBounds (sign '[' :: ([word "n"] ++ sign ']' :: [])) :=
    .cons rfl (.token rfl rfl (.nil _)) rfl .nil
  have hcomma : isPunctuator ',' (sign ',') = true := rfl
  have hlabel : (word "A").kind = .identifier := rfl
  have hequals : isPunctuator '=' (sign '=') = true := rfl
  have hopening : isPunctuator '\x7b' (sign '\x7b') = true := rfl
  have hsemicolon : isPunctuator ';' (sign ';') = true := rfl
  have htable := SpellsTable.cons hlabel hbounds hequals hopening (.cons hlist hcomma hlast) hsemicolon .nil
  exact (readObjects_spells .start htable (by simp)).1

end GameSource.Initializer
