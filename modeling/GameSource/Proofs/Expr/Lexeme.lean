import GameSource.Expr.Lexeme
import GameSource.Proofs.Number.Literal
/-!
# How a text is cut into lexemes

Reading cuts a text into lexemes with white space behind each, up to a place where none begins, and nothing of it is
lost (`Cuts`).  What begins there decides of which kind the next lexeme is and how far it goes (`LexemeKind.Takes`): a
run of word characters is a number if it looks like one and no word goes on behind it, and a name if not.
-/
namespace GameSource

/-! ## Numbers -/

theorem isAsciiWord_of_isDigit (c : Char) (h : c.isDigit) : isAsciiWord c :=
  (hexDigit_classes (isHexDigit_of_isDigit h)).2.1

theorem isAsciiWord_of_isSuffixLetter (c : Char) (h : isSuffixLetter c) : isAsciiWord c :=
  (suffixLetter_classes h).2.1

/-- The text looks like a number: hexadecimal digits behind `0x`, or decimal digits, and a suffix. -/
inductive IsNumber : Text → Prop where
  | hexadecimal {x : Char} {digits suffix : Text} (hx : x = 'x' ∨ x = 'X') (hne : digits ≠ [])
      (hd : ∀ c ∈ digits, isHexDigit c) (hs : ∀ c ∈ suffix, isSuffixLetter c) :
      IsNumber ('0' :: x :: digits ++ suffix)
  | decimal {digits suffix : Text} (hne : digits ≠ []) (hd : ∀ c ∈ digits, c.isDigit)
      (hs : ∀ c ∈ suffix, isSuffixLetter c) : IsNumber (digits ++ suffix)

theorem IsNumber.isAsciiWord {w : Text} (h : IsNumber w) : ∀ c ∈ w, isAsciiWord c := by
  have hparts {digits suffix : Text} (hd : ∀ c ∈ digits, GameSource.isAsciiWord c) (hs : ∀ c ∈ suffix, isSuffixLetter c) :
      ∀ c ∈ digits ++ suffix, GameSource.isAsciiWord c := by
    intro c hc
    rcases List.mem_append.1 hc with hc | hc
    · exact hd c hc
    · exact isAsciiWord_of_isSuffixLetter c (hs c hc)
  cases h with
  | hexadecimal hx _ hd hs =>
    refine hparts (List.forall_mem_cons.2 ⟨rfl, List.forall_mem_cons.2 ⟨?_, fun c hc => (hexDigit_classes (hd c hc)).2.1⟩⟩) hs
    rcases hx with rfl | rfl <;> rfl
  | decimal _ hd hs => exact hparts (fun c hc => isAsciiWord_of_isDigit c (hd c hc)) hs

theorem IsNumber.of_digits {digits : Text} (hne : digits ≠ []) (hd : ∀ c ∈ digits, c.isDigit) : IsNumber digits := by
  simpa using IsNumber.decimal hne hd (List.forall_mem_nil _)

/-- A number begins with a digit. -/
theorem IsNumber.exists_eq_cons {w : Text} (h : IsNumber w) : ∃ c u, w = c :: u ∧ c.isDigit := by
  cases h with
  | hexadecimal => exact ⟨'0', _, rfl, rfl⟩
  | decimal hne hd _ =>
    obtain ⟨c, u, rfl⟩ := List.exists_cons_of_ne_nil hne
    exact ⟨c, _, rfl, hd c List.mem_cons_self⟩

theorem IsNumber.ne_nil {w : Text} (h : IsNumber w) : w ≠ [] := by
  obtain ⟨c, u, rfl, -⟩ := h.exists_eq_cons
  exact List.cons_ne_nil c u

theorem endsWord_iff {rest : Text} : endsWord rest = true ↔ Stops isWord rest := by
  cases rest with
  | nil => exact iff_of_true rfl (.nil _)
  | cons c cs => simp [endsWord, Stops]

/-- The second character of a text that goes on as no hexadecimal number does. -/
theorem not_hexLead {c : Char} {t : Text} (h : Stops (fun c => c == 'x' || c == 'X') t) :
    ((c :: t).head? == some '0' && ((c :: t)[1]? == some 'x' || (c :: t)[1]? == some 'X')) = false := by
  cases t with
  | nil => simp
  | cons d ds => simpa using fun _ => h d (by simp)

/-- Digits and a suffix, decimal or octal, are the number that begins the text. -/
theorem numberLength?_digits {digits suffix rest : Text} (hne : digits ≠ []) (hd : ∀ c ∈ digits, c.isDigit)
    (hs : ∀ c ∈ suffix, isSuffixLetter c) (hr : Stops isWord rest) :
    numberLength? (digits ++ suffix ++ rest) = some (digits ++ suffix).length := by
  have hdigit : Stops Char.isDigit (suffix ++ rest) :=
    .append (fun c hc => (suffixLetter_classes (hs c hc)).2.2.1) (hr.of_isWord isAsciiWord_of_isDigit)
  have hletter : Stops isSuffixLetter rest := hr.of_isWord isAsciiWord_of_isSuffixLetter
  have hlead : ((digits ++ suffix ++ rest).head? == some '0' && ((digits ++ suffix ++ rest)[1]? == some 'x' ||
      (digits ++ suffix ++ rest)[1]? == some 'X')) = false := by
    obtain ⟨d, ds, rfl⟩ := List.exists_cons_of_ne_nil hne
    rw [List.append_assoc, List.cons_append]
    refine not_hexLead (.append (fun c hc => ?_) (.append (fun c hc => ?_) (hr.of_isWord fun c hc => ?_)))
    · have := (hexDigit_classes (isHexDigit_of_isDigit (hd c (by simp [hc])))).2.2.2.2.2
      simpa using this
    · have := (suffixLetter_classes (hs c hc)).2.2.2.2
      simpa using this
    · simp only [Bool.or_eq_true, beq_iff_eq] at hc
      rcases hc with rfl | rfl <;> decide
  unfold numberLength?
  rw [hlead]
  simp only [Bool.false_eq_true, if_false, List.drop_zero, Nat.zero_add]
  rw [List.append_assoc, takeWhile_run hd hdigit, dropWhile_run hd hdigit, takeWhile_run hs hletter,
    ← List.append_assoc, ← List.length_append, List.drop_left, if_pos ⟨hne, endsWord_iff.2 hr⟩]

theorem numberLength?_hexDigits {x : Char} (hx : x = 'x' ∨ x = 'X') {digits suffix rest : Text} (hne : digits ≠ [])
    (hd : ∀ c ∈ digits, isHexDigit c) (hs : ∀ c ∈ suffix, isSuffixLetter c) (hr : Stops isWord rest) :
    numberLength? ('0' :: x :: digits ++ suffix ++ rest) = some ('0' :: x :: digits ++ suffix).length := by
  have hdigit : Stops isHexDigit (suffix ++ rest) :=
    .append (fun c hc => (suffixLetter_classes (hs c hc)).2.2.2.1) (hr.of_isWord fun c hc => (hexDigit_classes hc).2.1)
  have hletter : Stops isSuffixLetter rest := hr.of_isWord isAsciiWord_of_isSuffixLetter
  have hlead : (('0' :: x :: digits ++ suffix ++ rest).head? == some '0' &&
      (('0' :: x :: digits ++ suffix ++ rest)[1]? == some 'x' ||
        ('0' :: x :: digits ++ suffix ++ rest)[1]? == some 'X')) = true := by
    rcases hx with rfl | rfl <;> rfl
  have hdrop : ('0' :: x :: digits ++ suffix ++ rest).drop 2 = digits ++ (suffix ++ rest) := by simp
  have hrest : ('0' :: x :: digits ++ suffix ++ rest).drop (2 + digits.length + suffix.length) = rest := by
    have hlen : 2 + digits.length + suffix.length = ('0' :: x :: digits ++ suffix).length := by
      simp only [List.length_append, List.length_cons]
      omega
    rw [hlen, List.drop_left]
  unfold numberLength?
  rw [hlead, if_pos rfl]
  simp only [hdrop, takeWhile_run hd hdigit, dropWhile_run hd hdigit, takeWhile_run hs hletter, hrest,
    endsWord_iff.2 hr]
  rw [if_pos ⟨hne, trivial⟩, List.length_append, List.length_cons, List.length_cons]
  congr 1
  omega

/-- **A text begins with a number exactly if a part of it looks like one and no word goes on there.** -/
theorem numberLength?_eq_some_iff {t : Text} {n : Nat} : numberLength? t = some n ↔
    ∃ w behind, t = w ++ behind ∧ n = w.length ∧ IsNumber w ∧ Stops isWord behind := by
  constructor
  · intro h
    have hall (p : Char → Bool) (u : Text) : ∀ c ∈ u.takeWhile p, p c := List.all_eq_true.1 List.all_takeWhile
    have hcut (lead u : Text) (p : Char → Bool) : lead ++ u = lead ++ u.takeWhile p ++
        (u.dropWhile p).takeWhile isSuffixLetter ++ (u.dropWhile p).dropWhile isSuffixLetter := by
      rw [List.append_assoc, List.takeWhile_append_dropWhile, List.append_assoc, List.takeWhile_append_dropWhile]
    have hdrop (lead u : Text) (p : Char → Bool) : (lead ++ u).drop (lead.length + (u.takeWhile p).length +
        ((u.dropWhile p).takeWhile isSuffixLetter).length) = (u.dropWhile p).dropWhile isSuffixLetter := by
      conv_lhs => rw [hcut lead u p]
      rw [← List.length_append, ← List.length_append, List.drop_left]
    unfold numberLength? at h
    by_cases hlead : (t.head? == some '0' && (t[1]? == some 'x' || t[1]? == some 'X')) = true
    · obtain ⟨x, u, rfl, hx⟩ := exists_of_hexLead hlead
      rw [if_pos hlead] at h
      obtain ⟨⟨hne, hend⟩, hn⟩ := Option.ite_none_right_eq_some.1 h
      have hbehind := hdrop ['0', x] u isHexDigit
      refine ⟨_, _, hcut ['0', x] u isHexDigit, ?_, .hexadecimal hx hne (hall isHexDigit u) (hall isSuffixLetter _), ?_⟩
      · rw [← Option.some.inj hn, List.length_append, List.length_append]
        rfl
      · rw [← hbehind]
        exact endsWord_iff.1 hend
    · rw [if_neg hlead] at h
      obtain ⟨⟨hne, hend⟩, hn⟩ := Option.ite_none_right_eq_some.1 h
      have hbehind := hdrop [] t Char.isDigit
      refine ⟨_, _, hcut [] t Char.isDigit, ?_, .decimal hne (hall Char.isDigit t) (hall isSuffixLetter _), ?_⟩
      · rw [← Option.some.inj hn, List.length_append, Nat.zero_add]
        rfl
      · rw [← hbehind]
        exact endsWord_iff.1 hend
  · rintro ⟨w, behind, rfl, rfl, hw, hb⟩
    cases hw with
    | hexadecimal hx hne hd hs => exact numberLength?_hexDigits hx hne hd hs hb
    | decimal hne hd hs => exact numberLength?_digits hne hd hs hb

/-- Only with a word character begins a number. -/
theorem numberLength?_eq_none {c : Char} {t : Text} (hc : isAsciiWord c = false) : numberLength? (c :: t) = none := by
  rw [Option.eq_none_iff_forall_ne_some]
  intro n hn
  obtain ⟨w, behind, hsplit, -, hw, -⟩ := numberLength?_eq_some_iff.1 hn
  obtain ⟨d, u, rfl, hd⟩ := hw.exists_eq_cons
  cases hsplit
  rw [isAsciiWord_of_isDigit c hd] at hc
  cases hc

/-! ## The kinds of lexemes -/

theorem isOperatorChar_of_isAsciiWord {c : Char} (h : isAsciiWord c) : isOperatorChar c = false := by
  cases ho : isOperatorChar c with
  | false => rfl
  | true =>
    simp only [isOperatorChar, Bool.or_eq_true, beq_iff_eq] at ho
    rcases ho with ((((((((rfl | rfl) | rfl) | rfl) | rfl) | rfl) | rfl) | rfl) | rfl) | rfl <;>
      exact absurd h (by decide)

/-- A character that begins a lexeme. -/
def beginsLexeme (c : Char) : Bool := isAsciiWord c || isOperatorChar c || c == '(' || c == ')'

/-- `kind.Takes w behind`: in front of `behind`, all of `w` is read as one lexeme of the kind. -/
inductive LexemeKind.Takes : LexemeKind → Text → Text → Prop where
  | number {w behind : Text} (hw : IsNumber w) (hb : Stops isWord behind) : Takes .number w behind
  | identifier {w behind : Text} (hne : w ≠ []) (hw : ∀ c ∈ w, isAsciiWord c) (hb : Stops isAsciiWord behind)
      (hnumber : ¬ (IsNumber w ∧ Stops isWord behind)) : Takes .identifier w behind
  | operator {w behind : Text} (hne : w ≠ []) (hw : ∀ c ∈ w, isOperatorChar c) (hb : Stops isOperatorChar behind) :
      Takes .operator w behind
  | parenthesis {c : Char} {behind : Text} (hc : c = '(' ∨ c = ')') : Takes .parenthesis [c] behind

/-- What goes on with no lexeme makes no difference behind one. -/
theorem LexemeKind.Takes.append {kind : LexemeKind} {w behind rest : Text} (h : kind.Takes w behind)
    (hword : Stops isWord rest) (hoperator : Stops isOperatorChar rest) : kind.Takes w (behind ++ rest) := by
  cases h with
  | number hw hb => exact .number hw (hb.append_stops hword)
  | identifier hne hw hb hnumber =>
    refine .identifier hne hw (hb.append_stops (hword.of_isWord fun _ h => h)) ?_
    rintro ⟨hlooks, hends⟩
    exact hnumber ⟨hlooks, hends.of_append⟩
  | operator hne hw hb => exact .operator hne hw (hb.append_stops hoperator)
  | parenthesis hc => exact .parenthesis hc

theorem LexemeKind.Takes.exists_eq_cons {kind : LexemeKind} {w behind : Text} (h : kind.Takes w behind) :
    ∃ c u, w = c :: u ∧ beginsLexeme c := by
  have hclass {p : Char → Bool} (hne : w ≠ []) (hw : ∀ c ∈ w, p c) (hp : ∀ c, p c → beginsLexeme c) :
      ∃ c u, w = c :: u ∧ beginsLexeme c := by
    obtain ⟨c, u, rfl⟩ := List.exists_cons_of_ne_nil hne
    exact ⟨c, u, rfl, hp c (hw c List.mem_cons_self)⟩
  cases h with
  | number hw _ => exact hclass hw.ne_nil hw.isAsciiWord fun c hc => by simp [beginsLexeme, hc]
  | identifier hne hw _ _ => exact hclass hne hw fun c hc => by simp [beginsLexeme, hc]
  | operator hne hw _ => exact hclass hne hw fun c hc => by simp [beginsLexeme, hc]
  | parenthesis hc =>
    refine ⟨_, [], rfl, ?_⟩
    rcases hc with rfl | rfl <;> rfl

theorem isSpace_of_beginsLexeme {c : Char} (h : beginsLexeme c) : isSpace c = false := by
  cases hs : isSpace c with
  | false => rfl
  | true =>
    have hnot := of_isSpace (p := fun c => !beginsLexeme c) (by decide) hs
    simp [h] at hnot

/-- Two runs of word characters that end where no word goes on are the same. -/
theorem LexemeKind.Takes.lexeme? {kind : LexemeKind} {w behind : Text} (h : kind.Takes w behind) :
    lexeme? (w ++ behind) = some (kind, w.length) := by
  cases h with
  | number hw hb =>
    have hn := numberLength?_eq_some_iff.2 ⟨w, behind, rfl, rfl, hw, hb⟩
    obtain ⟨c, u, rfl⟩ := List.exists_cons_of_ne_nil hw.ne_nil
    rw [List.cons_append] at hn ⊢
    rw [GameSource.lexeme?, hn]
  | identifier hne hw hb hnumber =>
    have hn : numberLength? (w ++ behind) = none := by
      rw [Option.eq_none_iff_forall_ne_some]
      intro n hn
      obtain ⟨v, behind', hsame, -, hv, hb'⟩ := numberLength?_eq_some_iff.1 hn
      obtain ⟨rfl, rfl⟩ := run_unique hw hv.isAsciiWord hb (hb'.of_isWord fun _ h => h) hsame
      exact hnumber ⟨hv, hb'⟩
    have htake := takeWhile_run hw hb
    obtain ⟨c, u, rfl⟩ := List.exists_cons_of_ne_nil hne
    rw [List.cons_append] at hn htake ⊢
    rw [GameSource.lexeme?, hn]
    simp only [hw c List.mem_cons_self, if_true, htake]
  | operator hne hw hb =>
    have htake := takeWhile_run hw hb
    obtain ⟨c, u, rfl⟩ := List.exists_cons_of_ne_nil hne
    have hc : isOperatorChar c = true := hw c List.mem_cons_self
    have hword : isAsciiWord c = false := by
      rw [Bool.eq_false_iff]
      intro hword
      rw [isOperatorChar_of_isAsciiWord hword] at hc
      cases hc
    rw [List.cons_append] at htake ⊢
    rw [GameSource.lexeme?, numberLength?_eq_none hword]
    simp only [hword, hc, Bool.false_eq_true, if_false, if_true, htake]
  | parenthesis hc =>
    rcases hc with rfl | rfl
    · rw [List.singleton_append, GameSource.lexeme?, numberLength?_eq_none (by decide)]
      rfl
    · rw [List.singleton_append, GameSource.lexeme?, numberLength?_eq_none (by decide)]
      rfl

/-- Where a lexeme may begin one does, and nowhere else. -/
theorem exists_takes {t : Text} (h : ¬ Stops beginsLexeme t) : ∃ kind w behind, t = w ++ behind ∧
    LexemeKind.Takes kind w behind := by
  cases t with
  | nil => exact absurd (.nil _) h
  | cons c cs =>
    have hc : beginsLexeme c = true := by
      by_contra hc
      exact h (.cons (Bool.eq_false_iff.2 hc))
    have hrun {p : Char → Bool} (hpc : p c) : c :: cs = (c :: cs).takeWhile p ++ (c :: cs).dropWhile p ∧
        (c :: cs).takeWhile p ≠ [] ∧ (∀ d ∈ (c :: cs).takeWhile p, p d) ∧ Stops p ((c :: cs).dropWhile p) :=
      ⟨List.takeWhile_append_dropWhile.symm, by simp [hpc], List.all_eq_true.1 List.all_takeWhile, stops_dropWhile _ _⟩
    simp only [beginsLexeme, Bool.or_eq_true, beq_iff_eq, or_assoc] at hc
    rcases hc with hword | hoperator | hparenthesis
    · obtain ⟨hsplit, hne, hw, hb⟩ := hrun hword
      by_cases hnumber : IsNumber ((c :: cs).takeWhile isAsciiWord) ∧ Stops isWord ((c :: cs).dropWhile isAsciiWord)
      · exact ⟨.number, _, _, hsplit, .number hnumber.1 hnumber.2⟩
      · exact ⟨.identifier, _, _, hsplit, .identifier hne hw hb hnumber⟩
    · obtain ⟨hsplit, hne, hw, hb⟩ := hrun hoperator
      exact ⟨.operator, _, _, hsplit, .operator hne hw hb⟩
    · exact ⟨.parenthesis, [c], cs, rfl, .parenthesis hparenthesis⟩

theorem lexeme?_eq_none {t : Text} (h : Stops beginsLexeme t) : lexeme? t = none := by
  cases t with
  | nil => rfl
  | cons c cs =>
    have hc := h c rfl
    simp only [beginsLexeme, Bool.or_eq_false_iff, beq_eq_false_iff_ne] at hc
    obtain ⟨⟨⟨hword, hoperator⟩, hopen⟩, hclose⟩ := hc
    rw [lexeme?, numberLength?_eq_none hword]
    simp [hword, hoperator, hopen, hclose]

/-- **A lexeme of a kind is read exactly where the kind takes it.** -/
theorem lexeme?_eq_some_iff {t : Text} {kind : LexemeKind} {n : Nat} :
    lexeme? t = some (kind, n) ↔ ∃ w behind, t = w ++ behind ∧ n = w.length ∧ kind.Takes w behind := by
  constructor
  · intro h
    by_cases hstop : Stops beginsLexeme t
    · rw [lexeme?_eq_none hstop] at h
      cases h
    · obtain ⟨kind', w, behind, rfl, htakes⟩ := exists_takes hstop
      rw [htakes.lexeme?] at h
      cases h
      exact ⟨w, behind, rfl, rfl, htakes⟩
  · rintro ⟨w, behind, rfl, rfl, htakes⟩
    exact htakes.lexeme?

/-! ## Reading on -/

theorem lexemesFrom_skip : ∀ p rest : Text, lexemesFrom p.length (p ++ rest) = lexemesFrom 0 rest
  | [], rest => rfl
  | c :: p, rest => by
    rw [List.length_cons, List.cons_append, lexemesFrom]
    exact lexemesFrom_skip p rest

theorem lexemesFrom_blanks : ∀ {blanks : Text}, (∀ c ∈ blanks, isSpace c) →
    ∀ t : Text, lexemesFrom 0 (blanks ++ t) = lexemesFrom 0 t
  | [], _, _ => rfl
  | c :: blanks, h, t => by
    rw [List.cons_append, lexemesFrom, if_pos (h c (by simp))]
    exact lexemesFrom_blanks (fun d hd => h d (by simp [hd])) t

/-- Behind a lexeme, reading goes on with the rest. -/
theorem LexemeKind.Takes.lexemesFrom {kind : LexemeKind} {w rest : Text} (h : kind.Takes w rest) :
    lexemesFrom 0 (w ++ rest) = (⟨kind, w, w ++ rest⟩ :: (lexemesFrom 0 rest).1, (lexemesFrom 0 rest).2) := by
  have hlexeme := h.lexeme?
  obtain ⟨c, u, rfl, hc⟩ := h.exists_eq_cons
  rw [List.cons_append] at hlexeme ⊢
  rw [GameSource.lexemesFrom, isSpace_of_beginsLexeme hc, hlexeme]
  simp only [Bool.false_eq_true, if_false, List.length_cons, Nat.add_sub_cancel, lexemesFrom_skip,
    List.take_succ_cons, List.take_left]

/-- A text that is all of one lexeme. -/
theorem LexemeKind.Takes.lexemes {kind : LexemeKind} {w : Text} (h : kind.Takes w [])
    (hw : ∀ c ∈ w, isSpace c = false) : lexemes w = ([⟨kind, w, w⟩], []) := by
  have hread := h.lexemesFrom
  rw [List.append_nil] at hread
  rw [GameSource.lexemes, trim_of_not_isSpace hw, hread]
  rfl

/-! ## The whole text -/

/-- `Cuts t ls rest`: the text is the lexemes in order, with the white space behind each, and then `rest`, where none
begins. -/
inductive Cuts : Text → List Lexeme → Text → Prop where
  | stop {rest : Text} (h : Stops beginsLexeme rest) : Cuts rest [] rest
  | lexeme {kind : LexemeKind} {w blanks behind rest : Text} {ls : List Lexeme} (hw : kind.Takes w (blanks ++ behind))
      (hb : ∀ c ∈ blanks, isSpace c) (hs : Stops isSpace behind) (h : Cuts behind ls rest) :
      Cuts (w ++ (blanks ++ behind)) (⟨kind, w, w ++ (blanks ++ behind)⟩ :: ls) rest

theorem Cuts.lexemesFrom {t rest : Text} {ls : List Lexeme} (h : Cuts t ls rest) (ht : Stops isSpace t) :
    lexemesFrom 0 t = (ls, rest) := by
  induction h with
  | @stop rest h =>
    cases rest with
    | nil => rfl
    | cons c cs =>
      rw [GameSource.lexemesFrom, ht c rfl, lexeme?_eq_none h]
      rfl
  | lexeme hw hb hs _ ih => rw [hw.lexemesFrom, lexemesFrom_blanks hb, ih hs]

/-- **Every text is cut into lexemes**: each takes at least one character, so that reading comes to an end. -/
theorem exists_cuts (t : Text) : ∃ ls rest, Cuts t ls rest := by
  induction hn : t.length using Nat.strongRecOn generalizing t with
  | _ n ih =>
    by_cases hstop : Stops beginsLexeme t
    · exact ⟨[], t, .stop hstop⟩
    · obtain ⟨kind, w, behind, rfl, htakes⟩ := exists_takes hstop
      obtain ⟨c, u, rfl, -⟩ := htakes.exists_eq_cons
      have hshort : (behind.dropWhile isSpace).length < n := by
        have hle := (List.dropWhile_suffix isSpace (l := behind)).length_le
        rw [← hn, List.length_append, List.length_cons]
        omega
      obtain ⟨ls, rest, hcuts⟩ := ih _ hshort _ rfl
      have hsplit : behind.takeWhile isSpace ++ behind.dropWhile isSpace = behind := List.takeWhile_append_dropWhile
      have hlexeme := Cuts.lexeme (hsplit.symm ▸ htakes) (List.all_eq_true.1 List.all_takeWhile) (stops_dropWhile _ _) hcuts
      rw [hsplit] at hlexeme
      exact ⟨_, rest, hlexeme⟩

/-- **An expression is read as the lexemes into which it is cut**, up to where none begins. -/
theorem lexemes_eq_iff {expression rest : Text} {ls : List Lexeme} :
    lexemes expression = (ls, rest) ↔ Cuts (Text.trim expression) ls rest := by
  have htrimmed : Stops isSpace (Text.trim expression) := (stops_of_trim (trim_trim expression)).1
  constructor
  · intro h
    obtain ⟨ls', rest', hcuts⟩ := exists_cuts (Text.trim expression)
    have hsame : (ls', rest') = (ls, rest) := (hcuts.lexemesFrom htrimmed).symm.trans h
    cases hsame
    exact hcuts
  · exact fun h => h.lexemesFrom htrimmed

end GameSource
