import GameSource.Proofs.Initializer.Complete
/-!
# Reading a list stays in its braces

Whatever stands in a list, as long as its brackets are in pairs (`Nested`, `InBraces`), no reader goes beyond the brace
that closes the list, and what is read or what is wrong depends on nothing behind that brace (`StaysBefore`).  Readers
that follow one another keep this (`StaysBefore.closes`), so it is shown for each of them and holds of whole lists by
induction on their tokens (`readItems_closes`).
-/
namespace GameSource.Initializer

/-! ## Nested brackets -/

/-- The token is a closing bracket. -/
def isClosing (t : Token) : Bool := isPunctuator ')' t || isPunctuator ']' t || isPunctuator '\x7d' t

/-- **Brackets in pairs**: each opening one has a closing one of its kind, and there are no others. -/
inductive Nested : List Token → Prop where
  | nil : Nested []
  | token {t : Token} {ts : List Token} (ho : closer? t = none) (hc : isClosing t = false) (h : Nested ts) :
      Nested (t :: ts)
  | group {t close : Token} {c : Char} {inner ts : List Token} (ho : closer? t = some c) (hi : Nested inner)
      (hc : isPunctuator c close) (h : Nested ts) : Nested (t :: (inner ++ close :: ts))

theorem isClosing_closer {t close : Token} {c : Char} (ho : closer? t = some c) (hc : isPunctuator c close) :
    isClosing close := by
  unfold isClosing
  rcases closer?_eq_some ho with ⟨-, rfl⟩ | ⟨-, rfl⟩ | ⟨-, rfl⟩ <;> simp [hc]

/-- Where closing brackets are in pairs they are no ends. -/
theorem Nested.within {ts : List Token} (h : Nested ts) : ∀ {ends : Token → Bool},
    (∀ t, ends t = true → isClosing t = true) → Within ends ts := by
  induction h with
  | nil => exact fun _ => .nil _
  | @token t ts ho hc h ih =>
    intro ends hends
    refine .token ho ?_ (ih hends)
    cases ht : ends t with
    | false => rfl
    | true => exact absurd (hends t ht) (by simp [hc])
  | @group t close c inner ts ho hi hc h ihi ih =>
    exact fun hends => .group ho (ihi fun u hu => isClosing_closer ho hu) hc (ih hends)

theorem length_in_group {t close : Token} {inner after : List Token} :
    inner.length < (t :: (inner ++ close :: after)).length := by
  simp only [List.length_cons, List.length_append]
  omega

theorem length_behind_group {t close : Token} {inner after : List Token} :
    after.length < (t :: (inner ++ close :: after)).length := by
  simp only [List.length_cons, List.length_append]
  omega

/-- Tokens with their brackets in pairs begin with a token of no bracket or with a pair. -/
theorem Within.cut {ends : Token → Bool} {t : Token} {ts : List Token} (h : Within ends (t :: ts)) :
    (closer? t = none ∧ ends t = false ∧ Within ends ts) ∨
    ∃ c inner close after, closer? t = some c ∧ Within (isPunctuator c) inner ∧ isPunctuator c close ∧
      Within ends after ∧ ts = inner ++ close :: after := by
  cases h with
  | token ho he h => exact .inl ⟨ho, he, h⟩
  | group ho hi hc h => exact .inr ⟨_, _, _, _, ho, hi, hc, h, rfl⟩

/-! ## Readers that stay before a brace -/

section
variable {α β : Type}

/-- The tokens stand in braces, with their brackets in pairs. -/
abbrev InBraces (inner : List Token) : Prop := Within (isPunctuator '\x7d') inner

/-- **The reader stays before the closing brace**: what is read and where reading stops, or what is wrong, depend on
nothing behind the brace. -/
def StaysBefore (close : Token) (read : Position → List Token → Except ParseFault (α × List Token))
    (inner : List Token) : Prop :=
  ∃ r : Except ParseFault (α × List Token),
    (∀ a left, r = .ok (a, left) → InBraces left ∧ left.length ≤ inner.length) ∧
    ∀ stop rest, read stop (inner ++ close :: rest) = r.map fun q => (q.1, q.2 ++ close :: rest)

/-- The reader reads up to the closing brace and takes it, or fails, whatever stands behind it. -/
def Closes (close : Token) (read : Position → List Token → Except ParseFault (α × List Token)) (inner : List Token) :
    Prop :=
  ∃ r : Except ParseFault α, ∀ stop rest, read stop (inner ++ close :: rest) = r.map fun a => (a, rest)

variable {close : Token} {inner : List Token} {read : Position → List Token → Except ParseFault (α × List Token)}

theorem StaysBefore.of_ok {a : α} {left : List Token} (hleft : InBraces left) (hle : left.length ≤ inner.length)
    (h : ∀ stop rest, read stop (inner ++ close :: rest) = .ok (a, left ++ close :: rest)) :
    StaysBefore close read inner := by
  refine ⟨.ok (a, left), ?_, h⟩
  rintro b left' heq
  cases heq
  exact ⟨hleft, hle⟩

theorem StaysBefore.of_error {e : ParseFault} (h : ∀ stop rest, read stop (inner ++ close :: rest) = .error e) :
    StaysBefore close read inner := by
  refine ⟨.error e, ?_, h⟩
  rintro a left heq
  cases heq

variable {next : α → Position → List Token → Except ParseFault (β × List Token)}

theorem StaysBefore.closes (h : StaysBefore close read inner)
    (hnext : ∀ a left, InBraces left → left.length ≤ inner.length → Closes close (next a) left) :
    Closes close (Initializer.andThen read next) inner := by
  obtain ⟨r, hr, hread⟩ := h
  cases r with
  | error e => exact ⟨.error e, fun stop rest => by rw [Initializer.andThen, hread]; rfl⟩
  | ok q =>
    obtain ⟨hleft, hle⟩ := hr q.1 q.2 rfl
    obtain ⟨r', hread'⟩ := hnext q.1 q.2 hleft hle
    refine ⟨r', fun stop rest => ?_⟩
    rw [Initializer.andThen, hread, ← hread']
    rfl

end

/-! ## Paths and values -/

variable {close : Token}

/-- What stands in braces does not begin with the closing one. -/
theorem head?_inBraces {inner : List Token} (h : InBraces inner) :
    inner.head?.any (isPunctuator '\x7d') = false := by
  cases inner with
  | nil => rfl
  | cons t ts =>
    rcases h.cut with ⟨-, he, -⟩ | ⟨c, _, _, _, ho, _⟩
    · exact he
    · rcases closer?_eq_some ho with ⟨ht, -⟩ | ⟨ht, -⟩ | ⟨ht, -⟩ <;> simp [isPunctuator_eq ht]

/-- A path in a list is read up to what stands behind it in the list. -/
theorem readPath_staysBefore (hclose : isPunctuator '\x7d' close) : ∀ {inner : List Token}, InBraces inner →
    ∃ path left, InBraces left ∧ left.length ≤ inner.length ∧
      ∀ stop rest, ∃ hle, readPath stop (inner ++ close :: rest) = .ok (path, ⟨left ++ close :: rest, hle⟩)
  | [], h =>
    have hbegins := beginsPath_of_isPunctuator hclose (by decide) (by decide)
    ⟨[], [], h, Nat.le_refl _, fun _ rest => ⟨_, readPath_end (hbegins rest)⟩⟩
  | t :: ts, h => by
    rcases h.cut with ⟨ho, he, hts⟩ | ⟨c, inner, close', after, ho, hi, hc, hafter, rfl⟩
    · by_cases hname : isPunctuator '.' t = true ∧ ts.head?.any (·.kind == .identifier) = true
      · obtain ⟨u, us, rfl⟩ : ∃ u us, ts = u :: us := by
          cases ts with
          | nil => cases hname.2
          | cons u us => exact ⟨u, us, rfl⟩
        have hident : u.kind = .identifier := eq_of_beq hname.2
        have hus : InBraces us := by
          rcases hts.cut with ⟨-, -, hus⟩ | ⟨c, _, _, _, ho', _⟩
          · exact hus
          · rw [closer?_identifier hident] at ho'
            cases ho'
        obtain ⟨path, left, hleft, hle, hread⟩ := readPath_staysBefore hclose hus
        refine ⟨.member u.text :: path, left, hleft, by simp only [List.length_cons]; omega, fun stop rest => ?_⟩
        exact readPath_member hname.1 hident (hread stop rest).2
      · have hbracket : isPunctuator '[' t = false := by
          cases hb : isPunctuator '[' t with
          | false => rfl
          | true => rw [closer?_eq hb] at ho; cases ho
        refine ⟨[], t :: ts, h, Nat.le_refl _, fun stop rest => ⟨_, readPath_end ?_⟩⟩
        have hpoint : (isPunctuator '.' t && (ts ++ close :: rest).head?.any (·.kind == .identifier)) = false := by
          rw [Bool.and_eq_false_iff]
          refine (Bool.eq_false_or_eq_true (isPunctuator '.' t)).symm.imp id fun hp => ?_
          cases ts with
          | nil => simp [(isPunctuator_iff.1 hclose).1]
          | cons u us => exact Bool.eq_false_iff.2 fun hu => hname ⟨hp, hu⟩
        rw [List.cons_append, beginsPath, hbracket, hpoint]
        rfl
    · by_cases hb : isPunctuator '[' t
      · have hlt : after.length < (t :: (inner ++ close' :: after)).length := length_behind_group
        obtain ⟨path, left, hleft, hle, hread⟩ := readPath_staysBefore hclose hafter
        refine ⟨.index (t :: (inner ++ [close'])).tail.dropLast :: path, left, hleft,
          Nat.le_of_lt (Nat.lt_of_le_of_lt hle hlt), fun stop rest => ?_⟩
        have hgroup := balanced?_group ho hi hc (after ++ close :: rest)
        have hcut : t :: (inner ++ close' :: after) ++ close :: rest =
            t :: (inner ++ close' :: (after ++ close :: rest)) := by simp
        rw [hcut]
        exact readPath_index hb hgroup (hread stop rest).2
      · refine ⟨[], _, h, Nat.le_refl _, fun stop rest => ⟨_, readPath_end ?_⟩⟩
        rcases closer?_eq_some ho with ⟨ht, -⟩ | ⟨ht, -⟩ | ⟨ht, -⟩
        · exact beginsPath_of_isPunctuator ht (by decide) (by decide) _
        · exact absurd ht hb
        · exact beginsPath_of_isPunctuator ht (by decide) (by decide) _
  termination_by inner => inner.length

/-- What stands before a value is read within the list. -/
theorem readDesignation_staysBefore (hclose : isPunctuator '\x7d' close) {inner : List Token} (h : InBraces inner) :
    StaysBefore close (fun stop ts => outcome (readDesignation stop ts)) inner := by
  obtain ⟨path, left, hleft, hle, hread⟩ := readPath_staysBefore hclose h
  cases path with
  | nil =>
    refine .of_ok (a := []) hleft hle fun stop rest => outcome_eq_ok.2 ⟨(hread stop rest).1, ?_⟩
    rw [readDesignation, (hread stop rest).2]
  | cons d path =>
    cases left with
    | nil =>
      have hequals : isPunctuator '=' close = false := by simp [isPunctuator_eq hclose]
      refine .of_error (e := ⟨.expectedSign '=', close.position⟩) fun stop rest => ?_
      rw [readDesignation, (hread stop rest).2]
      simp only [List.nil_append, hequals, Bool.false_eq_true, if_false]
      rfl
    | cons t left =>
      cases hequals : isPunctuator '=' t with
      | true =>
        have hbehind : InBraces left := by
          rcases hleft.cut with ⟨-, -, hbehind⟩ | ⟨c, _, _, _, ho, _⟩
          · exact hbehind
          · rw [closer?_eq hequals] at ho
            cases ho
        refine .of_ok (a := d :: path) hbehind (Nat.le_of_succ_le hle) fun stop rest => ?_
        rw [readDesignation, (hread stop rest).2]
        simp only [List.cons_append, hequals, if_true]
        rfl
      | false =>
        refine .of_error (e := ⟨.expectedSign '=', t.position⟩) fun stop rest => ?_
        rw [readDesignation, (hread stop rest).2]
        simp only [List.cons_append, hequals, Bool.false_eq_true, if_false]
        rfl

/-- The tokens of a value are read up to what ends it in the list. -/
theorem readTokens_staysBefore (hclose : isPunctuator '\x7d' close) : ∀ {inner : List Token}, InBraces inner →
    ∃ tokens left, InBraces left ∧ left.length ≤ inner.length ∧
      ∀ stop rest, ∃ hle, readTokens stop (inner ++ close :: rest) = .ok (tokens, ⟨left ++ close :: rest, hle⟩)
  | [], h => ⟨[], [], h, Nat.le_refl _, fun _ rest => ⟨_, readTokens_end (by simp [endsValue, hclose]) rest⟩⟩
  | t :: ts, h => by
    rcases h.cut with ⟨ho, he, hts⟩ | ⟨c, inner, close', after, ho, hi, hc, hafter, rfl⟩
    · cases hends : endsValue t with
      | true => exact ⟨[], t :: ts, h, Nat.le_refl _, fun stop rest => ⟨_, readTokens_end hends _⟩⟩
      | false =>
        obtain ⟨tokens, left, hleft, hle, hread⟩ := readTokens_staysBefore hclose hts
        exact ⟨t :: tokens, left, hleft, Nat.le_succ_of_le hle, fun stop rest =>
          readTokens_other ho hends (hread stop rest).2⟩
    · have hlt : after.length < (t :: (inner ++ close' :: after)).length := length_behind_group
      obtain ⟨tokens, left, hleft, hle, hread⟩ := readTokens_staysBefore hclose hafter
      refine ⟨t :: (inner ++ [close']) ++ tokens, left, hleft, Nat.le_of_lt (Nat.lt_of_le_of_lt hle hlt),
        fun stop rest => ?_⟩
      have hgroup := balanced?_group ho hi hc (after ++ close :: rest)
      have hcut : t :: (inner ++ close' :: after) ++ close :: rest =
          t :: (inner ++ close' :: (after ++ close :: rest)) := by simp
      rw [hcut]
      exact readTokens_group ho hgroup (hread stop rest).2
  termination_by inner => inner.length

/-! ## Lists -/

/-- Reads on behind an item, without saying how much shorter the rest is. -/
def readOn (item : Item) (stop : Position) : List Token → Except ParseFault (List Item × List Token)
  | [] => .error ⟨.expectedSeparator, stop⟩
  | t :: ts =>
    if isPunctuator ',' t then (outcome (readItems stop ts)).map fun q => (item :: q.1, q.2)
    else if isPunctuator '\x7d' t then .ok ([item], ts)
    else .error ⟨.expectedSeparator, t.position⟩

theorem outcome_readBehind {stop : Position} {item : Item} {ts behind : List Token} (h : behind.length ≤ ts.length) :
    outcome (readBehind stop item h) = readOn item stop behind := by
  cases behind with
  | nil => rfl
  | cons t behind =>
    rw [readBehind, readSeparator, readOn]
    by_cases hcomma : isPunctuator ',' t
    · simp only [hcomma, if_true]
      cases readItems stop behind with
      | error e => rfl
      | ok q => rfl
    · simp only [hcomma, Bool.false_eq_true, if_false]
      by_cases hbrace : isPunctuator '\x7d' t
      · simp only [hbrace, if_true]
        rfl
      · simp only [hbrace, Bool.false_eq_true, if_false]
        rfl

/-- **An item is a path and a value, and what stands behind them.** -/
theorem outcome_readItems {stop : Position} {t : Token} (ht : isPunctuator '\x7d' t = false) (ts : List Token) :
    outcome (readItems stop (t :: ts)) =
      andThen (fun stop ts => outcome (readDesignation stop ts))
        (fun path => andThen (fun stop ts => outcome (readValue stop path ts)) readOn) stop (t :: ts) := by
  rw [readItems, ht, if_neg Bool.false_ne_true, andThen]
  cases readDesignation stop (t :: ts) with
  | error e => rfl
  | ok p =>
    obtain ⟨path, value, hv⟩ := p
    cases value with
    | nil => rfl
    | cons u inner =>
      have hvalue : ∀ (item : Item) (behind : List Token) (hb : behind.length ≤ (u :: inner).length),
          readValue stop path (u :: inner) = .ok (item, ⟨behind, hb⟩) →
          andThen (fun stop ts => outcome (readValue stop path ts)) readOn stop (u :: inner) =
            outcome (readBehind stop item (Nat.le_trans hb hv)) := by
        intro item behind hb heq
        rw [andThen, heq, outcome_readBehind]
        rfl
      by_cases hu : isPunctuator '\x7b' u
      · simp only [hu, if_true]
        cases hitems : readItems stop inner with
        | error e =>
          simp only [outcome, Except.map, Except.bind, andThen, readValue, hu, hitems, if_true]
        | ok q =>
          refine Eq.trans ?_ (hvalue (.list path q.1) q.2.1 _ (by rw [readValue, if_pos hu, hitems])).symm
          rfl
      · simp only [hu, Bool.false_eq_true, if_false]
        cases htokens : readTokens stop (u :: inner) with
        | error e =>
          simp only [outcome, Except.map, Except.bind, andThen, readValue, hu, htokens, Bool.false_eq_true, if_false]
        | ok q =>
          obtain ⟨tokens, behind⟩ := q
          cases tokens with
          | nil =>
            simp only [outcome, Except.map, Except.bind, andThen, readValue, hu, htokens, Bool.false_eq_true, if_false]
          | cons v vs =>
            refine Eq.trans ?_ (hvalue (.scalar path (v :: vs)) behind.1 _
              (by rw [readValue, if_neg hu, htokens])).symm
            rfl

theorem readValue_nothing {stop : Position} {t : Token} (ht : isPunctuator '\x7b' t = false) {value left : List Token}
    (hhead : value.head? = some t) {hle : left.length ≤ value.length}
    (h : readTokens stop value = .ok ([], ⟨left, hle⟩)) (path : List Designator) :
    readValue stop path value = .error ⟨.expectedValue, t.position⟩ := by
  cases value with
  | nil => cases hhead
  | cons u us =>
    cases hhead
    rw [readValue, ht, if_neg Bool.false_ne_true, h]

/-- A value that begins with no brace is read within the list. -/
theorem readValue_scalar_staysBefore (hclose : isPunctuator '\x7d' close) {inner : List Token} (h : InBraces inner)
    {t : Token} (hhead : ∀ rest, (inner ++ close :: rest).head? = some t) (ht : isPunctuator '\x7b' t = false)
    (path : List Designator) : StaysBefore close (fun stop ts => outcome (readValue stop path ts)) inner := by
  obtain ⟨tokens, left, hleft, hle, hread⟩ := readTokens_staysBefore hclose h
  cases tokens with
  | nil =>
    refine .of_error (e := ⟨.expectedValue, t.position⟩) fun stop rest => ?_
    rw [readValue_nothing ht (hhead rest) (hread stop rest).2]
    rfl
  | cons u us =>
    refine .of_ok (a := .scalar path (u :: us)) hleft hle fun stop rest => outcome_eq_ok.2 ⟨(hread stop rest).1, ?_⟩
    refine readValue_scalar ?_ (by simp) (hread stop rest).2
    rw [hhead, Option.any_some, ht]

/-- A value is read within the list that it stands in, if the lists in it are. -/
theorem readValue_staysBefore (hclose : isPunctuator '\x7d' close) {inner : List Token} (h : InBraces inner)
    (hlists : ∀ close' lists, isPunctuator '\x7d' close' → InBraces lists → lists.length < inner.length →
      Closes close' (fun stop ts => outcome (readItems stop ts)) lists) (path : List Designator) :
    StaysBefore close (fun stop ts => outcome (readValue stop path ts)) inner := by
  cases inner with
  | nil =>
    have hbrace : isPunctuator '\x7b' close = false := by simp [isPunctuator_eq hclose]
    exact readValue_scalar_staysBefore hclose h (t := close) (fun _ => rfl) hbrace path
  | cons t ts =>
    cases ht : isPunctuator '\x7b' t with
    | false => exact readValue_scalar_staysBefore hclose h (t := t) (fun _ => rfl) ht path
    | true =>
      have hopen : closer? t = some '\x7d' := by
        rw [closer?_eq ht]
        rfl
      rcases h.cut with ⟨ho, -, -⟩ | ⟨c, lists, close', after, ho, hi, hc, hafter, rfl⟩
      · rw [hopen] at ho
        cases ho
      obtain rfl : '\x7d' = c := Option.some.inj (hopen.symm.trans ho)
      obtain ⟨r, hr⟩ := hlists close' lists hc hi length_in_group
      have hcut (rest : List Token) : t :: (lists ++ close' :: after) ++ close :: rest =
          t :: (lists ++ close' :: (after ++ close :: rest)) := by simp
      have hvalue (stop : Position) (rest : List Token) :
          outcome (readValue stop path (t :: (lists ++ close' :: after) ++ close :: rest)) =
            (outcome (readItems stop (lists ++ close' :: (after ++ close :: rest)))).map
              fun q => (.list path q.1, q.2) := by
        rw [hcut, readValue, if_pos ht]
        cases readItems stop (lists ++ close' :: (after ++ close :: rest)) <;> rfl
      have hread (stop : Position) (rest : List Token) :
          outcome (readItems stop (lists ++ close' :: (after ++ close :: rest))) =
            r.map fun items => (items, after ++ close :: rest) := hr stop (after ++ close :: rest)
      cases r with
      | error e => exact .of_error (e := e) fun stop rest => by rw [hvalue, hread]; rfl
      | ok items =>
        exact .of_ok (a := .list path items) hafter (Nat.le_of_lt length_behind_group) fun stop rest => by
          rw [hvalue, hread]; rfl

/-- Behind an item the list is read up to its closing brace, if what is left of it is. -/
theorem readOn_closes (hclose : isPunctuator '\x7d' close) {inner : List Token} (h : InBraces inner)
    (hitems : ∀ left, InBraces left → left.length < inner.length →
      Closes close (fun stop ts => outcome (readItems stop ts)) left) (item : Item) :
    Closes close (readOn item) inner := by
  cases inner with
  | nil =>
    have hcomma : isPunctuator ',' close = false := by simp [isPunctuator_eq hclose]
    refine ⟨.ok [item], fun stop rest => ?_⟩
    rw [List.nil_append, readOn, hcomma, if_neg Bool.false_ne_true, if_pos hclose]
    rfl
  | cons t ts =>
    cases hcomma : isPunctuator ',' t with
    | true =>
      have hts : InBraces ts := by
        rcases h.cut with ⟨-, -, hts⟩ | ⟨c, _, _, _, ho, _⟩
        · exact hts
        · rw [closer?_eq hcomma] at ho
          cases ho
      obtain ⟨r, hr⟩ := hitems ts hts (by simp)
      refine ⟨r.map (item :: ·), fun stop rest => ?_⟩
      have hread : outcome (readItems stop (ts ++ close :: rest)) = r.map fun items => (items, rest) := hr stop rest
      rw [List.cons_append, readOn, if_pos hcomma, hread]
      cases r <;> rfl
    | false =>
      have hbrace : isPunctuator '\x7d' t = false := by
        rcases h.cut with ⟨-, he, -⟩ | ⟨c, _, _, _, ho, _⟩
        · exact he
        · rcases closer?_eq_some ho with ⟨ht, -⟩ | ⟨ht, -⟩ | ⟨ht, -⟩ <;> simp [isPunctuator_eq ht]
      refine ⟨.error ⟨.expectedSeparator, t.position⟩, fun stop rest => ?_⟩
      rw [List.cons_append, readOn, hcomma, hbrace]
      rfl

/-- **Reading a list ends with its own closing brace**, or fails, and nothing behind the brace has a say in it. -/
theorem readItems_closes {close : Token} (hclose : isPunctuator '\x7d' close) {inner : List Token}
    (h : InBraces inner) : Closes close (fun stop ts => outcome (readItems stop ts)) inner := by
  cases hinner : inner with
  | nil =>
    refine ⟨.ok [], fun stop rest => outcome_eq_ok.2 ?_⟩
    exact readItems_close hclose rest
  | cons t ts =>
    have ht : isPunctuator '\x7d' t = false := by
      rw [hinner] at h
      have hhead := head?_inBraces h
      simpa using hhead
    have hvalue (path : List Designator) (left : List Token) (hleft : InBraces left)
        (hle : left.length ≤ (t :: ts).length) :
        Closes close (andThen (fun stop ts => outcome (readValue stop path ts)) readOn) left := by
      refine (readValue_staysBefore hclose hleft (fun close' lists hclose' hlists hlt => ?_) path).closes
        fun item behind hbehind hle' => readOn_closes hclose hbehind (fun rest hrest hlt => ?_) item
      · exact readItems_closes hclose' hlists
      · exact readItems_closes hclose hrest
    rw [hinner] at h
    obtain ⟨r, hr⟩ := (readDesignation_staysBefore hclose h).closes hvalue
    refine ⟨r, fun stop rest => ?_⟩
    rw [← hr stop rest]
    exact outcome_readItems ht (ts ++ close :: rest)
  termination_by inner.length
  decreasing_by
    · rw [hinner]; omega
    · rw [hinner]; omega

end GameSource.Initializer
