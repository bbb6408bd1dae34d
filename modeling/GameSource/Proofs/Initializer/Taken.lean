import GameSource.Proofs.Initializer.Braces
/-!
# What is taken has its brackets in pairs

`Braces` says what the readers do with brackets in pairs; here is the converse.  Whatever is taken along up to a closing
bracket, and whatever a reader has read of a list, has its brackets in pairs (`exists_group`, `TakesPairs`).  So a list
that is read ends with the brace that closes it (`readItems_taken`).
-/
namespace GameSource.Initializer

/-! ## Brackets -/

theorem Within.append {ends : Token → Bool} {ts us : List Token} (h : Within ends ts) (h' : Within ends us) :
    Within ends (ts ++ us) := by
  induction h with
  | nil => exact h'
  | token ho he _ ih => exact .token ho he (ih h')
  | group ho hi hc _ _ ih =>
    rw [List.cons_append, List.append_assoc, List.cons_append]
    exact .group ho hi hc (ih h')

/-- What is taken along for the innermost bracket has its brackets in pairs and ends with the one that closes it; then
the brackets below are looked for. -/
theorem exists_closing : ∀ {ts taken rest : List Token} {c : Char} {below : List Char},
    balanced? (c :: below) ts = some (taken, rest) → ∃ inner close after, ts = inner ++ close :: after ∧
      Within (isPunctuator c) inner ∧ isPunctuator c close ∧
      if below.isEmpty then after = rest else ∃ taken', balanced? below after = some (taken', rest)
  | [], _, _, _, _, h => by
    unfold balanced? at h
    cases h
  | t :: ts, taken, rest, c, below, h => by
    cases ho : closer? t with
    | some d =>
      rw [balanced?_open ho] at h
      obtain ⟨⟨taken', rest'⟩, hinner, heq⟩ := Option.map_eq_some_iff.1 h
      cases heq
      -- The bracket that opens here is closed first, and the one before it behind that.
      obtain ⟨inner, close, after, rfl, hi, hc, hafter⟩ := exists_closing hinner
      obtain ⟨taken'', hbelow⟩ : ∃ taken'', balanced? (c :: below) after = some (taken'', rest') := hafter
      have hlt : after.length < (t :: (inner ++ close :: after)).length := length_behind_group
      obtain ⟨inner', close', after', rfl, hi', hc', hafter'⟩ := exists_closing hbelow
      exact ⟨t :: (inner ++ close :: inner'), close', after', by simp, .group ho hi hc hi', hc', hafter'⟩
    | none =>
      by_cases hc : isPunctuator c t
      · rw [balanced?_close ho hc] at h
        refine ⟨[], t, ts, rfl, .nil _, hc, ?_⟩
        by_cases hbelow : below.isEmpty
        · rw [if_pos hbelow] at h ⊢
          cases h
          rfl
        · rw [if_neg hbelow] at h ⊢
          obtain ⟨⟨taken', rest'⟩, hrest, heq⟩ := Option.map_eq_some_iff.1 h
          cases heq
          exact ⟨taken', hrest⟩
      · have hother : isPunctuator c t = false := by simpa using hc
        rw [balanced?_other ho hother] at h
        obtain ⟨⟨taken', rest'⟩, hrest, heq⟩ := Option.map_eq_some_iff.1 h
        cases heq
        obtain ⟨inner, close, after, rfl, hi, hclose, hafter⟩ := exists_closing hrest
        exact ⟨t :: inner, close, after, rfl, .token ho hother hi, hclose, hafter⟩
  termination_by ts => ts.length

/-- **What is taken along from a bracket is a pair of brackets.** -/
theorem exists_group {t : Token} {c : Char} (ho : closer? t = some c) {ts taken rest : List Token}
    (h : balanced? [] (t :: ts) = some (taken, rest)) :
    ∃ inner close, ts = inner ++ close :: rest ∧ Within (isPunctuator c) inner ∧ isPunctuator c close := by
  rw [balanced?_open ho] at h
  obtain ⟨⟨taken', rest'⟩, hinner, heq⟩ := Option.map_eq_some_iff.1 h
  cases heq
  obtain ⟨inner, close, after, rfl, hi, hc, hafter⟩ := exists_closing hinner
  obtain rfl : after = rest' := hafter
  exact ⟨inner, close, rfl, hi, hc⟩

/-! ## Readers -/

section
variable {α β : Type}

/-- What the reader takes has its brackets in pairs. -/
def TakesPairs (read : Position → List Token → Except ParseFault (α × List Token)) : Prop :=
  ∀ {stop : Position} {ts rest : List Token} {a : α}, read stop ts = .ok (a, rest) →
    ∃ taken, ts = taken ++ rest ∧ InBraces taken

theorem andThen_eq_ok {read : Position → List Token → Except ParseFault (α × List Token)}
    {next : α → Position → List Token → Except ParseFault (β × List Token)} {stop : Position} {ts rest : List Token}
    {b : β} : andThen read next stop ts = .ok (b, rest) ↔
      ∃ a left, read stop ts = .ok (a, left) ∧ next a stop left = .ok (b, rest) := by
  unfold andThen
  constructor
  · intro h
    cases hread : read stop ts with
    | error e =>
      rw [hread] at h
      cases h
    | ok q =>
      rw [hread] at h
      exact ⟨q.1, q.2, rfl, h⟩
  · rintro ⟨a, left, hread, hnext⟩
    rw [hread]
    exact hnext

end

/-- A token of one sign that is no bracket stands in braces. -/
theorem inBraces_sign {c : Char} {t : Token} (h : isPunctuator c t) (ho : closer? t = none) (hc : c ≠ '\x7d') :
    InBraces [t] := .token ho (by simp [isPunctuator_eq h, hc]) (.nil _)

theorem inBraces_group {t close : Token} {c : Char} {inner : List Token} (ho : closer? t = some c)
    (hi : Within (isPunctuator c) inner) (hc : isPunctuator c close) : InBraces (t :: (inner ++ [close])) :=
  .group ho hi hc (.nil _)

/-- What a path is read from has its brackets in pairs. -/
theorem readPath_taken {stop : Position} {ts : List Token} : ∀ {path : List Designator} {rest : List Token} {hle},
    readPath stop ts = .ok (path, ⟨rest, hle⟩) → ∃ taken, ts = taken ++ rest ∧ InBraces taken := by
  fun_induction readPath stop ts with
  | case1 =>
    intro path rest hle h
    cases h
    exact ⟨[], rfl, .nil _⟩
  | case3 =>
    intro path rest hle h
    cases h
    exact ⟨[], rfl, .nil _⟩
  | case9 =>
    intro path rest hle h
    cases h
    exact ⟨[], rfl, .nil _⟩
  | case5 point name ts hmember path rest hle hread ih =>
    intro path' rest' hle' h
    cases h
    obtain ⟨hpoint, hname⟩ := Bool.and_eq_true_iff.1 hmember
    obtain ⟨taken, rfl, hpairs⟩ := ih hread
    have hopen : closer? point = none := by
      rw [closer?_eq hpoint]
      rfl
    have hident : name.kind = .identifier := eq_of_beq hname
    have hmembers : InBraces (name :: taken) :=
      .token (closer?_identifier hident) (isPunctuator_identifier hident _) hpairs
    exact ⟨point :: name :: taken, rfl, (inBraces_sign hpoint hopen (by decide)).append hmembers⟩
  | case8 t u ts hmember hbracket taken after hb hlt path rest hle hread ih =>
    intro path' rest' hle' h
    cases h
    have hopen : closer? t = some ']' := by
      rw [closer?_eq hbracket]
      rfl
    obtain ⟨inner, close, heq, hi, hc⟩ := exists_group hopen hb
    obtain ⟨taken', rfl, hpairs⟩ := ih hread
    exact ⟨t :: (inner ++ [close]) ++ taken', by simp [heq], (inBraces_group hopen hi hc).append hpairs⟩
  | case2 => intro path rest hle h; cases h
  | case4 => intro path rest hle h; cases h
  | case6 => intro path rest hle h; cases h
  | case7 => intro path rest hle h; cases h

/-- What the tokens of a value are read from has its brackets in pairs. -/
theorem readTokens_taken {stop : Position} {ts : List Token} : ∀ {tokens rest : List Token} {hle},
    readTokens stop ts = .ok (tokens, ⟨rest, hle⟩) → ∃ taken, ts = taken ++ rest ∧ InBraces taken := by
  fun_induction readTokens stop ts with
  | case2 =>
    intro tokens rest hle h
    cases h
    exact ⟨[], rfl, .nil _⟩
  | case5 t ts hends hopens taken after hb hlt tokens rest hle hread ih =>
    intro tokens' rest' hle' h
    cases h
    obtain ⟨c, hopen⟩ := Option.isSome_iff_exists.1 hopens
    obtain ⟨inner, close, rfl, hi, hc⟩ := exists_group hopen hb
    obtain ⟨taken', rfl, hpairs⟩ := ih hread
    exact ⟨t :: (inner ++ [close]) ++ taken', by simp, (inBraces_group hopen hi hc).append hpairs⟩
  | case7 t ts hends hopens tokens rest hle hread ih =>
    intro tokens' rest' hle' h
    cases h
    obtain ⟨taken, rfl, hpairs⟩ := ih hread
    have hopen : closer? t = none := by simpa using hopens
    have hbrace : isPunctuator '\x7d' t = false := (Bool.or_eq_false_iff.1 (Bool.eq_false_iff.2 hends)).2
    exact ⟨t :: taken, rfl, .token hopen hbrace hpairs⟩
  | case1 => intro tokens rest hle h; cases h
  | case3 => intro tokens rest hle h; cases h
  | case4 => intro tokens rest hle h; cases h
  | case6 => intro tokens rest hle h; cases h

theorem readDesignation_takesPairs : TakesPairs fun stop ts => outcome (readDesignation stop ts) := by
  intro stop ts rest path h
  obtain ⟨hle, h⟩ := outcome_eq_ok.1 h
  unfold readDesignation at h
  split at h
  · cases h
  · rename_i left hread
    cases h
    exact readPath_taken hread
  · rename_i path' t left hle' hne hread
    split at h
    · rename_i hequals
      cases h
      have hopen : closer? t = none := by
        rw [closer?_eq hequals]
        rfl
      obtain ⟨taken, rfl, hpairs⟩ := readPath_taken hread
      exact ⟨taken ++ [t], by simp, hpairs.append (inBraces_sign hequals hopen (by decide))⟩
    · cases h
  · cases h

/-! ## Lists -/

/-- If items are read from the tokens, they end with the brace that closes their list, and the brackets before it are in
pairs. -/
def EndsWithBrace (ts : List Token) : Prop :=
  ∀ {stop : Position} {items : List Item} {rest : List Token}, outcome (readItems stop ts) = .ok (items, rest) →
    ∃ inner close, ts = inner ++ close :: rest ∧ InBraces inner ∧ isPunctuator '\x7d' close

/-- What a value is read from has its brackets in pairs, if the lists in it end with their braces. -/
theorem readValue_taken {stop : Position} {path : List Designator} {value rest : List Token} {item : Item}
    (hlists : ∀ lists : List Token, lists.length < value.length → EndsWithBrace lists)
    (h : outcome (readValue stop path value) = .ok (item, rest)) : ∃ taken, value = taken ++ rest ∧ InBraces taken := by
  cases value with
  | nil => cases h
  | cons t ts =>
    rw [readValue] at h
    by_cases hbrace : isPunctuator '\x7b' t
    · rw [if_pos hbrace] at h
      have hopen : closer? t = some '\x7d' := by
        rw [closer?_eq hbrace]
        rfl
      cases hitems : readItems stop ts with
      | error e =>
        rw [hitems] at h
        cases h
      | ok q =>
        rw [hitems] at h
        cases h
        obtain ⟨inner, close, heq, hi, hc⟩ := hlists ts (by simp) (outcome_eq_ok.2 ⟨q.2.2, hitems⟩)
        exact ⟨t :: (inner ++ [close]), by simp [heq], inBraces_group hopen hi hc⟩
    · rw [if_neg hbrace] at h
      cases htokens : readTokens stop (t :: ts) with
      | error e =>
        rw [htokens] at h
        cases h
      | ok q =>
        obtain ⟨tokens, left, hle⟩ := q
        have htaken := readTokens_taken htokens
        rw [htokens] at h
        cases tokens with
        | nil => cases h
        | cons u us =>
          cases h
          exact htaken

/-- Behind an item the list ends with its brace, if lists that are shorter do. -/
theorem readOn_taken {stop : Position} {item : Item} {behind rest : List Token} {items : List Item}
    (hitems : ∀ left : List Token, left.length < behind.length → EndsWithBrace left)
    (h : readOn item stop behind = .ok (items, rest)) :
    ∃ inner close, behind = inner ++ close :: rest ∧ InBraces inner ∧ isPunctuator '\x7d' close := by
  cases behind with
  | nil => cases h
  | cons t ts =>
    rw [readOn] at h
    by_cases hcomma : isPunctuator ',' t
    · rw [if_pos hcomma] at h
      have hopen : closer? t = none := by
        rw [closer?_eq hcomma]
        rfl
      cases hread : outcome (readItems stop ts) with
      | error e =>
        rw [hread] at h
        cases h
      | ok q =>
        rw [hread] at h
        cases h
        obtain ⟨inner, close, rfl, hi, hc⟩ := hitems ts (by simp) hread
        exact ⟨t :: inner, close, rfl, (inBraces_sign hcomma hopen (by decide)).append hi, hc⟩
    · rw [if_neg hcomma] at h
      by_cases hclose : isPunctuator '\x7d' t
      · rw [if_pos hclose] at h
        cases h
        exact ⟨[], t, rfl, .nil _, hclose⟩
      · rw [if_neg hclose] at h
        cases h

/-- **A list that is read ends with the brace that closes it**: the first one outside the brackets in it. -/
theorem readItems_taken (ts : List Token) : EndsWithBrace ts := by
  intro stop items rest h
  cases hts : ts with
  | nil =>
    rw [hts, readItems] at h
    cases h
  | cons t us =>
    rw [hts] at h
    by_cases hclose : isPunctuator '\x7d' t
    · obtain ⟨hlt, hread⟩ := @readItems_close stop t hclose us
      rw [hread] at h
      cases h
      exact ⟨[], t, rfl, .nil _, hclose⟩
    · rw [outcome_readItems (by simpa using hclose)] at h
      -- A path, a value, and what stands behind them, one after the other.
      obtain ⟨path, value, hpath, h⟩ := andThen_eq_ok.1 h
      obtain ⟨item, behind, hvalue, h⟩ := andThen_eq_ok.1 h
      obtain ⟨taken, hcut, hpairs⟩ := readDesignation_takesPairs hpath
      have hle : value.length ≤ (t :: us).length := by simp [hcut]
      obtain ⟨taken', hcut', hpairs'⟩ := readValue_taken (fun lists hlt => readItems_taken lists) hvalue
      have hle' : behind.length ≤ value.length := by simp [hcut']
      obtain ⟨inner, close, hcut'', hi, hc⟩ := readOn_taken (fun left hlt => readItems_taken left) h
      exact ⟨taken ++ taken' ++ inner, close, by simp [hcut, hcut', hcut''], (hpairs.append hpairs').append hi, hc⟩
  termination_by ts.length
  decreasing_by
    · rw [hts]
      omega
    · rw [hts]
      omega

end GameSource.Initializer
