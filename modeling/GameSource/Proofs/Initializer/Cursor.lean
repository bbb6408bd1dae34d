import GameSource.Proofs.Initializer.Moved
import GameSource.Proofs.Initializer.Unclosed
/-!
# Reading by number

A reader may keep the tokens where they are and go on by the number of the one that it looks at.  Then it can look
behind the last one, and its loops need not end.  Here is such a reader, over tokens with the mark of the end behind
them: a look behind that mark stops it (`Halt.beyond`), and so does a loop that has more rounds than it was granted
(`Halt.spent`).  Neither happens: granted one round more than there are tokens, it gives what the reader of lists gives,
however the brackets stand (`readByNumber_ends`).
-/
namespace GameSource.Initializer

/-! ## Tokens by number -/

/-- The tokens, and the mark of their end behind them. -/
def withEnd (ts : List Token) : List (Option Token) := ts.map some ++ [none]

/-- What stops a reader that goes by number. -/
inductive Halt where
  | fault (e : ParseFault)
  | beyond
  | spent
  deriving DecidableEq, Repr

namespace Cursor

variable (marks : List (Option Token)) (stop : Position)

/-- The mark with this number. -/
def look (i : Nat) : Except Halt (Option Token) :=
  match marks[i]? with
  | some mark => .ok mark
  | none => .error .beyond

/-- The mark behind the one with this number, or the last one. -/
def lookNext (i : Nat) : Except Halt (Option Token) := look marks (min (i + 1) (marks.length - 1))

/-- The place of a mark. -/
def placeOf (mark : Option Token) : Position := (mark.map Token.position).getD stop

/-- The tokens from one number up to another. -/
def between (i j : Nat) : List Token := ((marks.drop i).take (j - i)).reduceOption

/-! ## The readers -/

/-- Goes on until the last open bracket is closed; `closers` are those still to come, the innermost first. -/
def skip : (rounds : Nat) → (closers : List Char) → (i : Nat) → Except Halt Nat
  | 0, _, _ => .error .spent
  | rounds + 1, closers, i => do
    match ← look marks i with
    | none => .error (.fault ⟨.unbalanced, stop⟩)
    | some t =>
      match closer? t, closers with
      | some c, _ => skip rounds (c :: closers) (i + 1)
      | none, [] => skip rounds [] (i + 1)
      | none, c :: below =>
        if isPunctuator c t then
          if below.isEmpty then .ok (i + 1) else skip rounds below (i + 1)
        else skip rounds (c :: below) (i + 1)

def path : (rounds : Nat) → (i : Nat) → Except Halt (List Designator × Nat)
  | 0, _ => .error .spent
  | rounds + 1, i => do
    let here ← look marks i
    let next ← lookNext marks i
    if here.any (isPunctuator '.') && next.any (·.kind == .identifier) then
      let (ds, j) ← path rounds (i + 2)
      .ok (.member ((next.map Token.text).getD []) :: ds, j)
    else if here.any (isPunctuator '[') then
      let j ← skip marks stop (rounds + 1) [] i
      let (ds, k) ← path rounds j
      .ok (.index (between marks i j).tail.dropLast :: ds, k)
    else .ok ([], i)

def designation (rounds i : Nat) : Except Halt (List Designator × Nat) := do
  let (ds, j) ← path marks stop rounds i
  if ds.isEmpty then .ok ([], j)
  else
    let here ← look marks j
    if here.any (isPunctuator '=') then .ok (ds, j + 1)
    else .error (.fault ⟨.expectedSign '=', placeOf stop here⟩)

def tokens : (rounds : Nat) → (i : Nat) → Except Halt (List Token × Nat)
  | 0, _ => .error .spent
  | rounds + 1, i => do
    match ← look marks i with
    | none => .error (.fault ⟨.unterminatedList, stop⟩)
    | some t =>
      if endsValue t then .ok ([], i)
      else if (closer? t).isSome then
        let j ← skip marks stop (rounds + 1) [] i
        let (ts, k) ← tokens rounds j
        .ok (between marks i j ++ ts, k)
      else
        let (ts, k) ← tokens rounds (i + 1)
        .ok (t :: ts, k)

section
variable (lists : Nat → Except Halt (List Item × Nat))

/-- Reads a value; `lists` reads the items of a list from behind its opening brace. -/
def value (rounds : Nat) (ds : List Designator) (i : Nat) : Except Halt (Item × Nat) := do
  let here ← look marks i
  if here.any (isPunctuator '\x7b') then
    let (items, j) ← lists (i + 1)
    .ok (.list ds items, j)
  else
    let (ts, j) ← tokens marks stop rounds i
    if ts.isEmpty then
      let here ← look marks j
      .error (.fault ⟨.expectedValue, placeOf stop here⟩)
    else .ok (.scalar ds ts, j)

/-- Reads on behind an item. -/
def on (item : Item) (i : Nat) : Except Halt (List Item × Nat) := do
  let here ← look marks i
  if here.any (isPunctuator ',') then
    let (items, j) ← lists (i + 1)
    .ok (item :: items, j)
  else if here.any (isPunctuator '\x7d') then .ok ([item], i + 1)
  else .error (.fault ⟨.expectedSeparator, placeOf stop here⟩)

end

/-- Reads the items of a list behind its opening brace, and its closing brace. -/
def items : (rounds : Nat) → (i : Nat) → Except Halt (List Item × Nat)
  | 0, _ => .error .spent
  | rounds + 1, i => do
    let here ← look marks i
    if here.any (isPunctuator '\x7d') then .ok ([], i + 1)
    else
      let (ds, j) ← designation marks stop (rounds + 1) i
      let (item, k) ← value marks stop (items rounds) (rounds + 1) ds j
      on marks stop (items rounds) item k

/-- Reads a list from its opening brace on. -/
def list (rounds i : Nat) : Except Halt (List Item × Nat) := do
  let here ← look marks i
  if here.any (isPunctuator '\x7b') then items marks stop rounds (i + 1)
  else .error (.fault ⟨.expectedSign '\x7b', placeOf stop here⟩)

/-- Reads the list of an equals sign; `more` reads on behind it, without a label. -/
def object (more : Nat → Except Halt (List Declaration)) (rounds : Nat) (label : Text) (i : Nat) :
    Except Halt (List Declaration) :=
  match list marks stop rounds i with
  | .ok (items, j) => (more j).map (.object label items :: ·)
  | .error (.fault e) =>
    match skip marks stop rounds [] i with
    | .ok j => (more j).map (.fault e :: ·)
    | .error (.fault _) => .ok [.fault e]
    | .error h => .error h
  | .error h => .error h

def declarations : (rounds : Nat) → (label : Text) → (i : Nat) → Except Halt (List Declaration)
  | 0, _, _ => .error .spent
  | rounds + 1, label, i => do
    match ← look marks i with
    | none => .ok []
    | some t =>
      let next ← lookNext marks i
      if isPunctuator '=' t && next.any (isPunctuator '\x7b') then
        object marks stop (declarations rounds []) (rounds + 1) label (i + 1)
      else if (closer? t).isSome then
        let j ← skip marks stop (rounds + 1) [] i
        declarations rounds label j
      else declarations rounds (nextLabel label t) (i + 1)

end Cursor

/-- Reads the objects of marks by number. -/
def readByNumber (marks : List (Option Token)) (stop : Position) (rounds : Nat) : Except Halt Objects :=
  (Cursor.declarations marks stop rounds [] 0).map fun ds => ds.foldl Objects.add {}

/-! ## Numbers of tokens -/

section
variable {ts left taken rest : List Token} {t : Token}

/-- The number of the first of the tokens left over. -/
def numberOf (ts left : List Token) : Nat := ts.length - left.length

theorem numberOf_behind (h : taken ++ rest <:+ ts) : numberOf ts rest = numberOf ts (taken ++ rest) + taken.length := by
  have hle : (taken ++ rest).length ≤ ts.length := h.length_le
  rw [List.length_append] at hle
  simp only [numberOf, List.length_append]
  omega

theorem numberOf_tail (h : t :: left <:+ ts) : numberOf ts (t :: left) + 1 = numberOf ts left :=
  (@numberOf_behind ts [t] left h).symm

theorem tail_suffix (h : t :: left <:+ ts) : left <:+ ts := (List.suffix_cons t left).trans h

theorem withEnd_append (taken left : List Token) : withEnd (taken ++ left) = taken.map some ++ withEnd left := by
  simp [withEnd]

namespace Cursor

/-- The mark with the number of what is left is the first token of it, or the end. -/
theorem look_numberOf (h : left <:+ ts) : look (withEnd ts) (numberOf ts left) = .ok left.head? := by
  obtain ⟨before, rfl⟩ := h
  have hnumber : numberOf (before ++ left) left = (before.map some).length := by simp [numberOf]
  have hmark : (withEnd (before ++ left))[(before.map some).length]? = some left.head? := by
    rw [withEnd_append, List.getElem?_append_right (Nat.le_refl _), Nat.sub_self]
    cases left <;> rfl
  rw [hnumber, look, hmark]

/-- The look behind the end is one at the end. -/
theorem lookNext_numberOf (h : left <:+ ts) : lookNext (withEnd ts) (numberOf ts left) = .ok left.tail.head? := by
  have hlast : (withEnd ts).length - 1 = numberOf ts [] := by simp [withEnd, numberOf]
  cases left with
  | nil =>
    have hmin : min (numberOf ts [] + 1) (numberOf ts []) = numberOf ts [] := Nat.min_eq_right (Nat.le_succ _)
    rw [lookNext, hlast, hmin, look_numberOf h]
    rfl
  | cons t us =>
    have hle : numberOf ts us ≤ numberOf ts [] := Nat.sub_le_sub_left (Nat.zero_le _) _
    rw [lookNext, hlast, numberOf_tail h, Nat.min_eq_left hle, look_numberOf (tail_suffix h)]
    rfl

theorem between_numberOf (h : taken ++ rest <:+ ts) :
    between (withEnd ts) (numberOf ts (taken ++ rest)) (numberOf ts rest) = taken := by
  have hcount : numberOf ts rest - numberOf ts (taken ++ rest) = taken.length := by
    rw [numberOf_behind h]
    omega
  obtain ⟨before, rfl⟩ := h
  have hnumber : numberOf (before ++ (taken ++ rest)) (taken ++ rest) = (before.map some).length := by simp [numberOf]
  have htokens : (taken.map some).reduceOption = taken := by simp [List.reduceOption]
  rw [between, hcount, hnumber, withEnd_append, List.drop_left, withEnd_append, List.take_left' (by simp), htokens]

end Cursor

end

/-! ## Agreement -/

section
variable {α β : Type} {ts before : List Token}

/-- **The readers agree**: what they read is the same, and the number is that of the first token left over, or the same
is wrong. -/
inductive Agree (ts before : List Token) : Except Halt (α × Nat) → Except ParseFault (α × List Token) → Prop
  | ok {a : α} {left : List Token} (h : left <:+ before) : Agree ts before (.ok (a, numberOf ts left)) (.ok (a, left))
  | error (e : ParseFault) : Agree ts before (.error (.fault e)) (.error e)

theorem ok_bind {ε : Type} (a : α) (f : α → Except ε β) : (Except.ok a >>= f) = f a := rfl

variable {n : Except Halt (α × Nat)} {r : Except ParseFault (α × List Token)}

theorem Agree.of_ok (h : Agree ts before n r) {a : α} {left : List Token} (hr : r = .ok (a, left)) :
    n = .ok (a, numberOf ts left) ∧ left <:+ before := by
  cases h with
  | ok hleft =>
    cases hr
    exact ⟨rfl, hleft⟩
  | error e => cases hr

theorem Agree.of_error (h : Agree ts before n r) {e : ParseFault} (hr : r = .error e) : n = .error (.fault e) := by
  cases h with
  | ok hleft => cases hr
  | error e => rw [Except.error.inj hr]

theorem Agree.mono {more : List Token} (h : Agree ts before n r) (hmore : before <:+ more) : Agree ts more n r := by
  cases h with
  | ok hleft => exact .ok (hleft.trans hmore)
  | error e => exact .error e

/-- Readers that follow one another agree if each of them does. -/
theorem Agree.bind (h : Agree ts before n r) {next : α × Nat → Except Halt (β × Nat)}
    {next' : α × List Token → Except ParseFault (β × List Token)}
    (hnext : ∀ a left, left <:+ before → r = .ok (a, left) →
      Agree ts left (next (a, numberOf ts left)) (next' (a, left))) :
    Agree ts before (n >>= next) (r.bind next') := by
  cases h with
  | ok hleft => exact (hnext _ _ hleft rfl).mono hleft
  | error e => exact .error e

/-- What is made of the same thing is the same. -/
theorem Agree.map (h : Agree ts before n r) (g : α → β) :
    Agree ts before (n >>= fun q => .ok (g q.1, q.2)) (r.map fun q => (g q.1, q.2)) := by
  cases h with
  | ok hleft => exact .ok hleft
  | error e => exact .error e

end

/-! ## Brackets -/

variable {ts : List Token} {stop : Position}

/-- Where the brackets that are taken along end. -/
def closedAt (ts : List Token) (stop : Position) : Option (List Token × List Token) → Except Halt Nat
  | some q => .ok (numberOf ts q.2)
  | none => .error (.fault ⟨.unbalanced, stop⟩)

theorem closedAt_map (taken : List Token → List Token) (o : Option (List Token × List Token)) :
    closedAt ts stop (o.map fun q => (taken q.1, q.2)) = closedAt ts stop o := by
  cases o <;> rfl

namespace Cursor

/-- **Brackets are skipped up to where they are closed**, or up to the end. -/
theorem skip_numberOf : ∀ {left : List Token}, left <:+ ts → ∀ {rounds : Nat}, left.length < rounds →
    ∀ closers : List Char,
      skip (withEnd ts) stop rounds closers (numberOf ts left) = closedAt ts stop (balanced? closers left)
  | [], h, rounds + 1, _, closers => by
    rw [skip, look_numberOf h, balanced?]
    rfl
  | t :: us, h, rounds + 1, hlt, closers => by
    have hmore (closers : List Char) : skip (withEnd ts) stop rounds closers (numberOf ts us) =
        closedAt ts stop ((balanced? closers us).map fun q => (t :: q.1, q.2)) := by
      rw [skip_numberOf (tail_suffix h) (Nat.lt_of_succ_lt_succ hlt), closedAt_map (t :: ·)]
    have hlook : look (withEnd ts) (numberOf ts (t :: us)) = .ok (some t) := look_numberOf h
    rw [skip, hlook, numberOf_tail h]
    simp only [bind, Except.bind]
    cases hopen : closer? t with
    | some c =>
      rw [balanced?_open hopen]
      exact hmore (c :: closers)
    | none =>
      cases closers with
      | nil =>
        rw [balanced?.eq_def]
        simp only [hopen]
        exact hmore []
      | cons c below =>
        cases hclose : isPunctuator c t with
        | true =>
          rw [balanced?_close hopen hclose]
          simp only [hclose, if_true]
          by_cases hbelow : below.isEmpty
          · rw [if_pos hbelow, if_pos hbelow]
            rfl
          · rw [if_neg hbelow, if_neg hbelow]
            exact hmore below
        | false =>
          rw [balanced?_other hopen hclose]
          simp only [hclose, Bool.false_eq_true, if_false]
          exact hmore (c :: below)

/-- What follows on brackets that are skipped knows which tokens they are. -/
theorem skip_agree {β : Type} {left : List Token} (h : left <:+ ts) {rounds : Nat} (hlt : left.length < rounds)
    {next : Nat → Except Halt (β × Nat)} {next' : List Token × List Token → Except ParseFault (β × List Token)}
    (hnext : ∀ taken rest, rest <:+ ts → rest.length < left.length →
      between (withEnd ts) (numberOf ts left) (numberOf ts rest) = taken →
      Agree ts rest (next (numberOf ts rest)) (next' (taken, rest))) :
    Agree ts left (skip (withEnd ts) stop rounds [] (numberOf ts left) >>= next)
      ((readGroup stop left).bind next') := by
  rw [skip_numberOf h hlt, readGroup]
  cases hb : balanced? [] left with
  | none => exact .error _
  | some q =>
    obtain ⟨taken, rest⟩ := q
    have hshort : rest.length < left.length := length_of_balanced? hb
    obtain ⟨rfl, -⟩ := balanced?_eq_some hb
    have hrest : rest <:+ taken ++ rest := List.suffix_append taken rest
    exact (hnext taken rest (hrest.trans h) hshort (between_numberOf h)).mono hrest

/-! ## Paths -/

theorem path_agree : ∀ {rounds : Nat} {left : List Token}, left <:+ ts → left.length < rounds →
    Agree ts left (path (withEnd ts) stop rounds (numberOf ts left)) (outcome (readPath stop left))
  | rounds + 1, [], h, hlt => by
    rw [path, look_numberOf h, lookNext_numberOf h, outcome_readPath_end rfl]
    exact .ok List.nil_suffix
  | rounds + 1, t :: us, h, hlt => by
    rw [path, look_numberOf h, lookNext_numberOf h, ok_bind, ok_bind]
    cases hmember : isPunctuator '.' t && us.head?.any (·.kind == .identifier) with
    | true =>
      obtain ⟨hpoint, hname⟩ := Bool.and_eq_true_iff.1 hmember
      cases us with
      | nil => cases hname
      | cons name us =>
        have hname : (name.kind == .identifier) = true := hname
        have hus : us <:+ ts := tail_suffix (tail_suffix h)
        have hnumber : numberOf ts (t :: name :: us) + 2 = numberOf ts us := by
          rw [← numberOf_tail (tail_suffix h), ← numberOf_tail h]
        have hshort : us.length < rounds := Nat.lt_of_succ_lt (Nat.lt_of_succ_lt_succ hlt)
        have hread : Agree ts us (path (withEnd ts) stop rounds (numberOf ts us)) (outcome (readPath stop us)) :=
          path_agree hus hshort
        rw [outcome_readPath_member hpoint (eq_of_beq hname)]
        simp only [List.head?_cons, List.tail_cons, Option.any_some, hpoint, hname, Bool.and_self, if_true, hnumber]
        exact (hread.map (.member name.text :: ·)).mono ((List.suffix_cons name us).trans (List.suffix_cons t _))
    | false =>
      cases hbracket : isPunctuator '[' t with
      | true =>
        rw [outcome_readPath_index hbracket, andThen]
        simp only [List.head?_cons, List.tail_cons, Option.any_some, hmember, hbracket, if_true, Bool.false_eq_true,
          if_false]
        refine skip_agree h hlt fun taken rest hrest hshort htaken => ?_
        have hread : Agree ts rest (path (withEnd ts) stop rounds (numberOf ts rest)) (outcome (readPath stop rest)) :=
          path_agree hrest (by omega)
        rw [htaken]
        exact hread.map (.index taken.tail.dropLast :: ·)
      | false =>
        have hbegins : beginsPath (t :: us) = false := by rw [beginsPath, hbracket, hmember]; rfl
        rw [outcome_readPath_end hbegins]
        simp only [List.head?_cons, List.tail_cons, Option.any_some, hmember, hbracket, Bool.false_eq_true, if_false]
        exact .ok (List.suffix_refl _)

theorem designation_agree {rounds : Nat} {left : List Token} (h : left <:+ ts) (hlt : left.length < rounds) :
    Agree ts left (designation (withEnd ts) stop rounds (numberOf ts left)) (outcome (readDesignation stop left)) := by
  rw [designation, outcome_readDesignation, andThen]
  refine (path_agree h hlt).bind fun ds rest hrest _ => ?_
  cases ds with
  | nil => exact .ok (List.suffix_refl _)
  | cons d ds =>
    simp only [List.isEmpty_cons, Bool.false_eq_true, if_false]
    rw [look_numberOf (hrest.trans h), ok_bind]
    cases rest with
    | nil => exact .error _
    | cons t us =>
      rw [List.head?_cons, Option.any_some, behindPath]
      by_cases hequals : isPunctuator '=' t
      · rw [if_pos hequals, if_pos hequals, numberOf_tail (hrest.trans h)]
        exact .ok (List.suffix_cons t us)
      · rw [if_neg hequals, if_neg hequals]
        exact .error _

/-! ## Values -/

theorem tokens_agree : ∀ {rounds : Nat} {left : List Token}, left <:+ ts → left.length < rounds →
    Agree ts left (tokens (withEnd ts) stop rounds (numberOf ts left)) (outcome (readTokens stop left))
  | rounds + 1, [], h, hlt => by
    rw [tokens, look_numberOf h, readTokens]
    exact .error _
  | rounds + 1, t :: us, h, hlt => by
    rw [tokens, look_numberOf h, List.head?_cons, ok_bind]
    cases hends : endsValue t with
    | true =>
      rw [outcome_eq_ok.2 ⟨_, readTokens_end hends us⟩]
      simp only [hends, if_true]
      exact .ok (List.suffix_refl _)
    | false =>
      cases hopen : closer? t with
      | some c =>
        rw [outcome_readTokens_group hopen, andThen]
        simp only [hends, hopen, Option.isSome_some, Bool.false_eq_true, if_false, if_true]
        refine skip_agree h hlt fun taken rest hrest hshort htaken => ?_
        rw [htaken]
        exact (tokens_agree hrest (by omega)).map (taken ++ ·)
      | none =>
        rw [outcome_readTokens_other hopen hends]
        simp only [hends, hopen, Option.isSome_none, Bool.false_eq_true, if_false, numberOf_tail h]
        exact ((tokens_agree (tail_suffix h) (Nat.lt_of_succ_lt_succ hlt)).map (t :: ·)).mono (List.suffix_cons t us)

/-- If no tokens are read none are taken. -/
theorem readTokens_nothing {t : Token} {us rest : List Token}
    (h : outcome (readTokens stop (t :: us)) = .ok ([], rest)) : rest = t :: us := by
  cases hends : endsValue t with
  | true =>
    rw [outcome_eq_ok.2 ⟨_, readTokens_end hends us⟩] at h
    cases h
    rfl
  | false =>
    cases hopen : closer? t with
    | some c =>
      rw [outcome_readTokens_group hopen, andThen_eq_ok] at h
      obtain ⟨taken, after, hgroup, h⟩ := h
      obtain ⟨-, hne⟩ := balanced?_eq_some (readGroup_eq_ok.1 hgroup)
      rw [behindGroup] at h
      cases hread : outcome (readTokens stop after) with
      | error e =>
        rw [hread] at h
        cases h
      | ok q =>
        rw [hread] at h
        have hnil : taken ++ q.1 = [] := congrArg Prod.fst (Except.ok.inj h)
        exact absurd (List.append_eq_nil_iff.1 hnil).1 hne
    | none =>
      rw [outcome_readTokens_other hopen hends] at h
      cases hread : outcome (readTokens stop us) with
      | error e =>
        rw [hread] at h
        cases h
      | ok q =>
        rw [hread] at h
        cases h

/-- The lists that begin behind the number are read the same by number, from all that is shorter than `left`. -/
def ListsAgree (ts : List Token) (stop : Position) (lists : Nat → Except Halt (List Item × Nat))
    (left : List Token) : Prop :=
  ∀ inner : List Token, inner <:+ ts → inner.length < left.length →
    Agree ts inner (lists (numberOf ts inner)) (outcome (readItems stop inner))

section
variable {lists : Nat → Except Halt (List Item × Nat)} {left : List Token}

theorem value_agree (h : left <:+ ts) {rounds : Nat} (hlt : left.length < rounds)
    (hlists : ListsAgree ts stop lists left) (ds : List Designator) :
    Agree ts left (value (withEnd ts) stop lists rounds ds (numberOf ts left)) (outcome (readValue stop ds left)) := by
  cases left with
  | nil =>
    have hread : Agree ts [] (tokens (withEnd ts) stop rounds (numberOf ts [])) (outcome (readTokens stop [])) :=
      tokens_agree h hlt
    rw [value, look_numberOf h, ok_bind, List.head?_nil, Option.any_none, if_neg Bool.false_ne_true,
      hread.of_error (by rw [readTokens]; rfl)]
    exact .error _
  | cons t us =>
    rw [value, look_numberOf h, List.head?_cons, ok_bind, Option.any_some]
    cases hbrace : isPunctuator '\x7b' t with
    | true =>
      rw [if_pos rfl, outcome_readValue_list hbrace, numberOf_tail h]
      exact ((hlists us (tail_suffix h) (by simp)).map (Item.list ds)).mono (List.suffix_cons t us)
    | false =>
      rw [if_neg Bool.false_ne_true, outcome_readValue_tokens hbrace, andThen]
      refine (tokens_agree h hlt).bind fun tokens rest hrest hread => ?_
      simp only [scalarValue]
      by_cases hempty : tokens.isEmpty
      · obtain rfl := List.isEmpty_iff.1 hempty
        obtain rfl := readTokens_nothing hread
        rw [if_pos hempty, if_pos hempty, look_numberOf h]
        exact .error _
      · rw [if_neg hempty, if_neg hempty]
        exact .ok (List.suffix_refl _)

theorem on_agree (h : left <:+ ts) (hlists : ListsAgree ts stop lists left) (item : Item) :
    Agree ts left (on (withEnd ts) stop lists item (numberOf ts left)) (readOn item stop left) := by
  rw [on, look_numberOf h, ok_bind]
  cases left with
  | nil => exact .error _
  | cons t us =>
    rw [readOn, List.head?_cons, Option.any_some, Option.any_some, numberOf_tail h]
    by_cases hcomma : isPunctuator ',' t
    · rw [if_pos hcomma, if_pos hcomma]
      exact ((hlists us (tail_suffix h) (by simp)).map (item :: ·)).mono (List.suffix_cons t us)
    · rw [if_neg hcomma, if_neg hcomma]
      by_cases hclose : isPunctuator '\x7d' t
      · rw [if_pos hclose, if_pos hclose]
        exact .ok (List.suffix_cons t us)
      · rw [if_neg hclose, if_neg hclose]
        exact .error _

end

/-! ## Lists -/

theorem items_agree : ∀ {rounds : Nat} {left : List Token}, left <:+ ts → left.length < rounds →
    Agree ts left (items (withEnd ts) stop rounds (numberOf ts left)) (outcome (readItems stop left))
  | rounds + 1, left, h, hlt => by
    have hlists (shorter : List Token) (hle : shorter.length ≤ left.length) :
        ListsAgree ts stop (items (withEnd ts) stop rounds) shorter :=
      fun inner hinner hshort => items_agree hinner (by omega)
    rw [items, look_numberOf h, ok_bind]
    cases left with
    | nil =>
      have hpath : outcome (readDesignation stop []) = .ok ([], []) := by
        rw [outcome_readDesignation, andThen, outcome_readPath_end rfl]
        rfl
      obtain ⟨hds, -⟩ := (designation_agree h hlt).of_ok hpath
      have hvalue : value (withEnd ts) stop (items (withEnd ts) stop rounds) (rounds + 1) [] (numberOf ts []) =
          .error (.fault ⟨.unterminatedList, stop⟩) :=
        (value_agree h hlt (hlists [] (Nat.le_refl _)) []).of_error rfl
      rw [List.head?_nil, Option.any_none, if_neg Bool.false_ne_true, hds, ok_bind]
      simp only [hvalue]
      rw [readItems]
      exact .error _
    | cons t us =>
      cases hclose : isPunctuator '\x7d' t with
      | true =>
        rw [List.head?_cons, Option.any_some, hclose, if_pos rfl, outcome_eq_ok.2 (readItems_close hclose us),
          numberOf_tail h]
        exact .ok (List.suffix_cons t us)
      | false =>
        rw [List.head?_cons, Option.any_some, hclose, if_neg Bool.false_ne_true, outcome_readItems hclose, andThen]
        -- A path, a value, and what stands behind them, one after the other.
        refine (designation_agree h hlt).bind fun ds value hvalue _ => ?_
        have hle : value.length ≤ (t :: us).length := hvalue.length_le
        refine (value_agree (hvalue.trans h) (by omega) (hlists value hle) ds).bind fun item behind hbehind _ => ?_
        have hle' : behind.length ≤ value.length := hbehind.length_le
        exact on_agree (hbehind.trans (hvalue.trans h)) (hlists behind (by omega)) item

theorem list_agree {rounds : Nat} {left : List Token} (h : left <:+ ts) (hlt : left.length < rounds) :
    Agree ts left (list (withEnd ts) stop rounds (numberOf ts left)) (outcome (readList stop left)) := by
  rw [list, look_numberOf h, ok_bind]
  cases left with
  | nil => exact .error _
  | cons t us =>
    rw [List.head?_cons, Option.any_some]
    by_cases hbrace : isPunctuator '\x7b' t
    · rw [if_pos hbrace, outcome_readList hbrace, numberOf_tail h]
      exact (items_agree (tail_suffix h) (Nat.lt_of_succ_lt hlt)).mono (List.suffix_cons t us)
    · rw [if_neg hbrace, readList, if_neg hbrace]
      exact .error _

/-! ## Declarations -/

/-- The list of an equals sign declares the same by number, if what stands behind it does. -/
theorem object_numberOf {more : Nat → Except Halt (List Declaration)} {equals opening : Token} {us : List Token}
    (he : isPunctuator '=' equals) (ho : isPunctuator '\x7b' opening) (h : opening :: us <:+ ts) {rounds : Nat}
    (hlt : (opening :: us).length < rounds)
    (hmore : ∀ rest : List Token, rest <:+ opening :: us →
      more (numberOf ts rest) = (declarationsFrom stop [] rest).mapError .fault) (label : Text) :
    object (withEnd ts) stop more rounds label (numberOf ts (opening :: us)) =
      (declarationsFrom stop label (equals :: opening :: us)).mapError .fault := by
  have hlist := @list_agree ts stop rounds _ h hlt
  have hdeclared (d : Declaration) {rest : List Token} (hrest : rest <:+ opening :: us) :
      (more (numberOf ts rest)).map (d :: ·) = ((declarationsFrom stop [] rest).map (d :: ·)).mapError .fault := by
    rw [hmore rest hrest]
    cases declarationsFrom stop [] rest <;> rfl
  rw [object]
  cases hread : outcome (readList stop (opening :: us)) with
  | ok q =>
    obtain ⟨items, rest⟩ := q
    obtain ⟨hitems, hrest⟩ := hlist.of_ok hread
    rw [declarationsFrom_object he ho hread, hitems]
    exact hdeclared _ hrest
  | error e =>
    rw [hlist.of_error hread]
    simp only [skip_numberOf h hlt]
    cases hb : balanced? [] (opening :: us) with
    | none =>
      rw [declarationsFrom_unclosedList he ho hread hb]
      rfl
    | some q =>
      obtain ⟨taken, rest⟩ := q
      have hrest : rest <:+ opening :: us := (balanced?_eq_some hb).1 ▸ List.suffix_append taken rest
      rw [declarationsFrom_fault he ho hread hb]
      exact hdeclared _ hrest

/-- **Declarations are read the same by number**, and what stops the reading for good is the same. -/
theorem declarations_numberOf : ∀ {rounds : Nat} {left : List Token}, left <:+ ts → left.length < rounds →
    ∀ label : Text, declarations (withEnd ts) stop rounds label (numberOf ts left) =
      (declarationsFrom stop label left).mapError .fault
  | rounds + 1, [], h, hlt, label => by
    rw [declarations, look_numberOf h, declarationsFrom]
    rfl
  | rounds + 1, t :: us, h, hlt, label => by
    have hus : us <:+ ts := tail_suffix h
    have hshort : us.length < rounds := Nat.lt_of_succ_lt_succ hlt
    rw [declarations, look_numberOf h, lookNext_numberOf h, List.head?_cons, List.tail_cons]
    simp only [ok_bind]
    cases hbegins : isPunctuator '=' t && us.head?.any (isPunctuator '\x7b') with
    | true =>
      obtain ⟨hequals, hhead⟩ := Bool.and_eq_true_iff.1 hbegins
      cases us with
      | nil => cases hhead
      | cons opening us =>
        rw [if_pos rfl, numberOf_tail h]
        refine object_numberOf hequals hhead hus (Nat.lt_succ_of_lt hshort) (fun rest hrest => ?_) label
        exact declarations_numberOf (hrest.trans hus) (Nat.lt_of_le_of_lt hrest.length_le hshort) []
    | false =>
      rw [if_neg Bool.false_ne_true]
      cases hopen : closer? t with
      | some c =>
        rw [Option.isSome_some, if_pos rfl, skip_numberOf h hlt]
        cases hb : balanced? [] (t :: us) with
        | none =>
          rw [declarationsFrom_unclosed hopen hb]
          rfl
        | some q =>
          obtain ⟨taken, rest⟩ := q
          have hrest : rest <:+ t :: us := (balanced?_eq_some hb).1 ▸ List.suffix_append taken rest
          have hlt' : rest.length < (t :: us).length := length_of_balanced? hb
          rw [declarationsFrom_group hopen hb]
          exact declarations_numberOf (hrest.trans h) (Nat.lt_of_lt_of_le hlt' hshort) label
      | none =>
        rw [declarationsFrom_plain hopen hbegins, Option.isSome_none, if_neg Bool.false_ne_true, numberOf_tail h]
        exact declarations_numberOf hus hshort (nextLabel label t)

end Cursor

/-! ## Objects -/

/-- **Reading by number ends within its tokens**, however the brackets stand: granted one round more than there are
tokens, it looks at no mark behind the end and gives what the reader of lists gives.  Nothing stops it but a bracket
outside lists that is left open. -/
theorem readByNumber_ends {ts : List Token} {rounds : Nat} (hrounds : ts.length < rounds) (stop : Position) :
    readByNumber (withEnd ts) stop rounds = (readObjects stop ts).mapError .fault ∧
    (∀ h, readByNumber (withEnd ts) stop rounds = .error h ↔ h = .fault ⟨.unbalanced, stop⟩ ∧ LeftOpen ts) ∧
    ParseFault.message ⟨.unbalanced, stop⟩ = messageAt "Unbalanced brackets" stop := by
  have hread : readByNumber (withEnd ts) stop rounds = (readObjects stop ts).mapError .fault := by
    have hdeclarations := @Cursor.declarations_numberOf ts stop rounds ts (List.suffix_refl _) hrounds []
    have hnumber : numberOf ts ts = 0 := Nat.sub_self _
    rw [hnumber] at hdeclarations
    rw [readByNumber, hdeclarations, readObjects]
    cases declarationsFrom stop [] ts <;> rfl
  refine ⟨hread, fun h => ?_, rfl⟩
  have hstops {e : ParseFault} : readObjects stop ts = .error e ↔ e = ⟨.unbalanced, stop⟩ ∧ LeftOpen ts :=
    readObjects_eq_error_iff
  rw [hread]
  constructor
  · intro herror
    cases hobjects : readObjects stop ts with
    | ok o =>
      rw [hobjects] at herror
      cases herror
    | error e =>
      obtain ⟨rfl, hopen⟩ := hstops.1 hobjects
      rw [hobjects] at herror
      exact ⟨(Except.error.inj herror).symm, hopen⟩
  · rintro ⟨rfl, hopen⟩
    rw [hstops.2 ⟨rfl, hopen⟩]
    rfl

/-- `[)](}`: the first bracket is closed behind one that closes nothing, and the last one that opens is left open. -/
theorem readByNumber_ends_unbalanced :
    readByNumber (withEnd [sign '[', sign ')', sign ']', sign '(', sign '\x7d']) .start 6 =
      .error (.fault ⟨.unbalanced, .start⟩) := by
  have hinner : Within (isPunctuator ']') [sign ')'] := .token rfl rfl (.nil _)
  have hbefore : Within (fun _ => false) (sign '[' :: ([sign ')'] ++ sign ']' :: [])) := .group rfl hinner rfl (.nil _)
  have hopen : Unclosed (sign '(') [sign '\x7d'] := (balanced?_eq_none_iff rfl _).1 rfl
  have hleft : LeftOpen [sign '[', sign ')', sign ']', sign '(', sign '\x7d'] := ⟨_, _, _, rfl, hbefore, rfl, hopen⟩
  obtain ⟨-, hstops, -⟩ :=
    @readByNumber_ends [sign '[', sign ')', sign ']', sign '(', sign '\x7d'] 6 (by decide) .start
  exact (hstops _).2 ⟨rfl, hleft⟩

end GameSource.Initializer
