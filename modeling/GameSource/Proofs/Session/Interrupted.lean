import GameSource.Proofs.Define.Named
import GameSource.Proofs.Define.Reference
/-!
# What an evaluation that is cut short leaves behind

A number that cannot be read stops a resolution, however deep it is nested, and every evaluation around it.  Those are
the names that are cut short: each is mentioned by the expression of the one around it, and the innermost expression has
the number (`Session.CutShort`).  Everything else is as after a resolution that comes to its end: what was learned on the
way is kept, and a name that was not looked up is pending as before (`Session.Proceeds`, `Runs.interrupted`).
-/
namespace GameSource

open SessionStep

/-- A number of the expression cannot be read: it is written there, or it is the value of a name. -/
def IsUnreadable (known : Entries Text Int) (expression : Text) : Prop :=
  ¬ HasShortNumbers expression ∨ ∃ n ∈ mentioned expression, ∃ v, known.find? n = some v ∧ ¬ FewDigits v

namespace Session

/-- Between the two sessions the evaluation of an expression for a name came to a value. -/
def Completes (s s' : Session) (name expression : Text) (v : Int) : Prop :=
  ∃ u u', s.known <+: u.known ∧ s.journal <:+ u.journal ∧ (evaluate expression name).run.run u = (.ok v, u') ∧
    u'.known <+: s'.known ∧ u'.journal <:+ s'.journal

/-- A lookup of the name was answered with its value between the two sessions. -/
def AnswersKnown (s s' : Session) (name : Text) : Prop :=
  ∃ v, s'.known.find? name = some v ∧ ∃ context events,
    s'.journal = events ++ s.journal ∧ .answered context name (some v) ∈ events

/-- From the first session to the other one nothing known is changed, what is learned are the values of pending
expressions whose evaluations were completed, and but for the names in `cut` only those are taken out that were looked
up and have a value. -/
structure Proceeds (cut : List Text) (s s' : Session) : Prop where
  known : s.known <+: s'.known
  journal : s.journal <:+ s'.journal
  learned : ∀ n v, s.known.find? n = none → s'.known.find? n = some v →
    ∃ expression, s.pending.find? n = some expression ∧ s.Completes s' n expression v
  spared : ∀ n, n ∉ cut → s'.pending.find? n = s.pending.find? n ∨ s.AnswersKnown s' n

/-- `s.CutShort s' name cut`: from the first session to the other one the evaluation of a pending name was cut short,
by a number of its expression or together with that of a name that its expression mentions.  The names that were cut
short are `cut`, the outermost first, and none of them is known. -/
inductive CutShort (s s' : Session) : Text → List Text → Prop where
  | number {name expression : Text} (hp : s.pending.find? name = some expression)
      (hk : s'.known.find? name = none) (h : IsUnreadable s'.known expression) : CutShort s s' name [name]
  | within {name expression n : Text} {cut : List Text} (hp : s.pending.find? name = some expression)
      (hk : s'.known.find? name = none) (hm : n ∈ mentioned expression) (h : CutShort s s' n cut) (hnew : name ∉ cut) :
      CutShort s s' name (name :: cut)

variable {s s₁ s₂ s' : Session} {name : Text} {cut : List Text}

theorem find?_entered {n : Text} (hn : n ≠ name) : (s.entered name).pending.find? n = s.pending.find? n := by
  rw [entered_pending, Entries.find?_erase, if_neg hn]

namespace Completes

variable {expression : Text} {v : Int}

theorem of_before (h : s₂.Completes s' name expression v) (hk : s₁.known <+: s₂.known)
    (hj : s₁.journal <:+ s₂.journal) : s₁.Completes s' name expression v := by
  obtain ⟨u, u', hku, hju, hrest⟩ := h
  exact ⟨u, u', hk.trans hku, hj.trans hju, hrest⟩

theorem of_behind (h : s₁.Completes s₂ name expression v) (hk : s₂.known <+: s'.known) (hj : s₂.journal <:+ s'.journal) :
    s₁.Completes s' name expression v := by
  obtain ⟨u, u', hku, hju, heval, hku', hju'⟩ := h
  exact ⟨u, u', hku, hju, heval, hku'.trans hk, hju'.trans hj⟩

end Completes

theorem AnswersKnown.of_before (h : s₂.AnswersKnown s' name) (hj : s₁.journal <:+ s₂.journal) :
    s₁.AnswersKnown s' name := by
  obtain ⟨v, hv, context, events, hevents, hmem⟩ := h
  obtain ⟨before, hbefore⟩ := hj
  exact ⟨v, hv, context, events ++ before, by rw [hevents, ← hbefore, List.append_assoc], List.mem_append_left _ hmem⟩

theorem AnswersKnown.of_behind (h : s₁.AnswersKnown s₂ name) (hk : s₂.known <+: s'.known)
    (hj : s₂.journal <:+ s'.journal) : s₁.AnswersKnown s' name := by
  obtain ⟨v, hv, context, events, hevents, hmem⟩ := h
  obtain ⟨later, hlater⟩ := hj
  exact ⟨v, Entries.find?_of_prefix hk hv, context, later ++ events, by rw [← hlater, hevents, List.append_assoc],
    List.mem_append_right _ hmem⟩

namespace Proceeds

theorem known_eq_none (h : Proceeds cut s s') {n : Text} (hn : s'.known.find? n = none) : s.known.find? n = none :=
  Entries.find?_eq_none_of_sublist h.known.sublist hn

theorem spared_unknown (h : Proceeds cut s s') {n : Text} (hcut : n ∉ cut) (hn : s'.known.find? n = none) :
    s'.pending.find? n = s.pending.find? n := by
  refine (h.spared n hcut).resolve_right ?_
  rintro ⟨v, hv, -⟩
  rw [hn] at hv
  cases hv

theorem refl (s : Session) : Proceeds cut s s where
  known := List.prefix_refl _
  journal := List.suffix_refl _
  learned n v hn hv := by
    rw [hn] at hv
    cases hv
  spared n _ := .inl rfl

/-- What is said changes no name. -/
theorem told (h : Proceeds cut s s₁) (hk : s'.known = s₁.known) (hp : s'.pending = s₁.pending)
    (hj : s₁.journal <:+ s'.journal) : Proceeds cut s s' where
  known := hk ▸ h.known
  journal := h.journal.trans hj
  learned n v hn hv := by
    rw [hk] at hv
    obtain ⟨expression, he, hcompletes⟩ := h.learned n v hn hv
    exact ⟨expression, he, hcompletes.of_behind (hk ▸ List.prefix_refl _) hj⟩
  spared n hn := by
    rw [hp]
    exact (h.spared n hn).imp_right fun hanswers => hanswers.of_behind (hk ▸ List.prefix_refl _) hj

theorem trans (h : Proceeds [] s₁ s₂) (h' : Proceeds cut s₂ s') : Proceeds cut s₁ s' where
  known := h.known.trans h'.known
  journal := h.journal.trans h'.journal
  learned n v hn hv := by
    cases hmid : s₂.known.find? n with
    | none =>
      obtain ⟨expression, he, hcompletes⟩ := h'.learned n v hmid hv
      rw [h.spared_unknown List.not_mem_nil hmid] at he
      exact ⟨expression, he, hcompletes.of_before h.known h.journal⟩
    | some w =>
      obtain rfl : w = v := Option.some.inj ((Entries.find?_of_prefix h'.known hmid).symm.trans hv)
      obtain ⟨expression, he, hcompletes⟩ := h.learned n w hn hmid
      exact ⟨expression, he, hcompletes.of_behind h'.known h'.journal⟩
  spared n hcut := by
    rcases h'.spared n hcut with heq | hanswers
    · rcases h.spared n List.not_mem_nil with heq' | hanswers
      · exact .inl (heq.trans heq')
      · exact .inr (hanswers.of_behind h'.known h'.journal)
    · exact .inr (hanswers.of_before h.journal)

theorem recordedAll (h : Proceeds cut s s') (context : Text) (ps : List Problem) :
    Proceeds cut s (s'.recordedAll context ps) :=
  h.told (recordedAll_known _ _ _) (recordedAll_pending _ _ _) (Keeps.recordedAll _ _ _).journal

theorem happened (h : Proceeds cut s s') (e : SessionEvent) : Proceeds cut s (s'.happened e) :=
  h.told rfl rfl (List.suffix_cons _ _)

theorem answered (h : Proceeds cut s s') (context name : Text) : Proceeds cut s (s'.answered context name) :=
  h.told answered_known answered_pending (Keeps.answered _ _ _).journal

theorem concluded (h : Proceeds cut s s') (context rest : Text) (ts : List Token) :
    Proceeds cut s (s'.concluded context rest ts) :=
  h.told concluded_known concluded_pending (Keeps.concluded _ _ _ _).journal

theorem taken (s : Session) (name : Text) : Proceeds [name] s (s.taken name) where
  known := List.prefix_refl _
  journal := List.suffix_refl _
  learned n v hn hv := by
    rw [taken_known, hn] at hv
    cases hv
  spared n hn := .inl (by rw [taken_pending, Entries.find?_erase, if_neg (by simpa using hn)])

/-- A name that was taken out has its value when it is answered. -/
theorem looked (h : Proceeds [name] s s') {v : Int} (hv : s'.known.find? name = some v) (context : Text) :
    Proceeds [] s (s'.answered context name) := by
  have hanswered := h.answered context name
  refine ⟨hanswered.known, hanswered.journal, hanswered.learned, fun n _ => ?_⟩
  by_cases hn : n = name
  · subst hn
    obtain ⟨events, hevents⟩ := h.journal
    refine .inr ⟨v, by rw [answered_known, hv], context, .answered context n (some v) :: events, ?_, List.mem_cons_self⟩
    rw [journal_answered, hv, ← hevents, List.cons_append]
  · exact hanswered.spared n (by simpa using hn)

/-- A name may be learned from its expression, which was pending. -/
theorem learnt {expression : Text} {v : Int} (hk : s.known.find? name = none)
    (he : s.pending.find? name = some expression) (hv : Runs (.evaluate name expression) (s.entered name) (.ok v) s')
    (h : Proceeds [] (s.entered name) s') : Proceeds [name] s ((s'.left name).learnt name v) := by
  have hknown : s'.known <+: ((s'.left name).learnt name v).known := by
    rw [learnt_known, left_known, Entries.put_of_find? (hv.known_of_entered hk)]
    exact List.prefix_append _ _
  refine ⟨h.known.trans hknown, h.journal, fun n w hn hw => ?_, fun n hn => ?_⟩
  · by_cases hname : n = name
    · subst hname
      rw [learnt_known, Entries.find?_put_self] at hw
      cases hw
      exact ⟨expression, he, s.entered n, s', List.prefix_refl _, List.suffix_refl _,
        Prod.ext_iff.2 (evaluate_eq hv), hknown, List.suffix_refl _⟩
    · rw [learnt_known, left_known, Entries.find?_put_of_ne hname] at hw
      obtain ⟨x, hx, hcompletes⟩ := h.learned n w hn hw
      rw [find?_entered hname] at hx
      exact ⟨x, hx, hcompletes.of_behind hknown (List.suffix_refl _)⟩
  · have hname : n ≠ name := by simpa using hn
    refine (h.spared n List.not_mem_nil).imp (fun heq => ?_) fun hanswers =>
      hanswers.of_behind hknown (List.suffix_refl _)
    rw [learnt_pending, left_pending, heq, find?_entered hname]

end Proceeds

namespace CutShort

theorem exists_pending (h : s.CutShort s' name cut) : ∀ n ∈ cut, ∃ expression, s.pending.find? n = some expression := by
  induction h with
  | number hp _ _ =>
    intro n hn
    rw [List.mem_singleton.1 hn]
    exact ⟨_, hp⟩
  | within hp _ _ _ _ ih =>
    intro n hn
    rcases List.mem_cons.1 hn with rfl | hn
    · exact ⟨_, hp⟩
    · exact ih n hn

theorem of_before {u : Session} (h : s.CutShort s' name cut) (hk : u.known = s'.known) (hp : ∀ n expression,
    s'.known.find? n = none → s.pending.find? n = some expression → s₁.pending.find? n = some expression) :
    s₁.CutShort u name cut := by
  induction h with
  | number hpending hunknown hx => exact .number (hp _ _ hunknown hpending) (hk ▸ hunknown) (hk ▸ hx)
  | within hpending hunknown hm _ hnew ih => exact .within (hp _ _ hunknown hpending) (hk ▸ hunknown) hm ih hnew

theorem of_proceeds (h : s₂.CutShort s' name cut) (h₁ : Proceeds [] s₁ s₂) (h₂ : Proceeds cut s₂ s') :
    s₁.CutShort s' name cut :=
  h.of_before rfl fun _ _ hn he => (h₁.spared_unknown List.not_mem_nil (h₂.known_eq_none hn)).symm.trans he

end CutShort

end Session

/-! ## Tasks that come to their end -/

/-- A name is resolved from its own expression. -/
def Task.IsPlain : Task → Prop
  | resolve _ given => given = none
  | _ => True

/-- The name that a task itself takes out. -/
def Task.takes : Task → List Text
  | resolve name _ => [name]
  | _ => []

/-- **A task that comes to its end cuts nothing short.** -/
theorem Runs.proceeds {t : Task} {s s' : Session} {r : Except DigitLimit t.Result} (h : Runs t s r s') (ht : t.IsPlain)
    {answer : t.Result} (hr : r = .ok answer) : Session.Proceeds t.takes s s' := by
  induction h with
  | @circular s context name _ => exact ((Session.Proceeds.refl s).recordedAll _ [_]).happened _
  | @settled s context name _ _ => exact (Session.Proceeds.refl s).answered _ _
  | resolved _ hp hresolve ih => exact (ih rfl rfl).looked (hresolve.known_of_resolve hp) _
  | unresolved => cases hr
  | nil => exact .refl _
  | @sign s s' context l ls t r _ _ _ ih =>
    cases r with
    | error e => cases hr
    | ok ts => exact ((Session.Proceeds.refl s).recordedAll _ _).trans (ih trivial rfl)
  | @name s s₁ s' context l ls a t r _ _ _ _ iha ihs =>
    cases r with
    | error e => cases hr
    | ok ts =>
      have hanswer : Session.Proceeds [] s s₁ := iha trivial rfl
      exact (hanswer.recordedAll _ _).trans (ihs trivial rfl)
  | unwritten => cases hr
  | unanswered => cases hr
  | @value s s' context expression ts _ ih =>
    exact (((Session.Proceeds.refl s).happened _).trans (ih trivial rfl)).concluded _ _ _
  | unread => cases hr
  | known => exact .taken _ _
  | @undefined s name _ _ => exact (Session.Proceeds.taken s name).recordedAll _ [_]
  | @learned s s' name expression given v hk he hv ih =>
    obtain rfl : given = none := ht
    exact .learnt hk he hv (ih trivial rfl)
  | failed => cases hr

/-! ## Tasks that are cut short -/

/-- A lookup answers 0, or what is known behind it. -/
theorem Runs.answer_eq {context name : Text} {a : Option Int} {s s' : Session}
    (h : Runs (.look context name) s (.ok a) s') : a = some 0 ∨ a = s'.known.find? name := by
  cases h with
  | circular => exact .inl rfl
  | settled => exact .inr (by rw [Session.answered_known])
  | resolved => exact .inr (by rw [Session.answered_known])

/-- **The tokens of lexemes can be read**, if their numbers can be. -/
theorem Runs.readable {context : Text} : ∀ {ls : List Lexeme} {s s' : Session} {r : Except DigitLimit (List Token)},
    Runs (.read context ls) s r s' → (∀ l ∈ ls, l.kind = .number → ∃ v, readInteger l.text = .ok v) →
      ∀ ts, r = .ok ts → ReadableTokens ts
  | [], _, _, _, h, _, ts, hr => by
    cases h
    cases hr
    exact fun t ht => by cases ht
  | l :: ls, s, s', r, h, hnumber, ts, hr => by
    have hnumbers : ∀ m ∈ ls, m.kind = .number → ∃ v, readInteger m.text = .ok v :=
      fun m hm => hnumber m (List.mem_cons_of_mem l hm)
    have hcons {t : Token} {a : Option Int} {r : Except DigitLimit (List Token)} (ht : Token.ofLexeme l a = .ok t)
        (hrest : ∀ ts, r = .ok ts → ReadableTokens ts) (hr : r.map (t :: ·) = .ok ts) : ReadableTokens ts := by
      cases r with
      | error e => cases hr
      | ok us =>
        cases hr
        exact (hrest us rfl).cons (hnumber l List.mem_cons_self) ht
    cases h with
    | unanswered | unwritten => cases hr
    | sign _ ht hs => exact hcons ht (readable hs hnumbers) hr
    | name _ _ ht hs => exact hcons ht (readable hs hnumbers) hr

/-- Where all names of an expression have been answered, only a number of its own stops its evaluation. -/
theorem Runs.not_hasShortNumbers {context expression : Text} {ts : List Token} {e : DigitLimit} {s s' : Session}
    (h : Runs (.read context (lexemes expression).1) s (.ok ts) s')
    (he : (Evaluation.ofTokens (Postfix.ofTokens ts).tokens).value = .error e) : ¬ HasShortNumbers expression := by
  intro hshort
  obtain ⟨v, hv, -⟩ := (h.readable (fun l hl => hshort.readInteger hl) ts rfl).exists_value
  rw [he] at hv
  cases hv

/-- The value that is not written is one that is known. -/
theorem Runs.known_of_unwritten {context : Text} {l : Lexeme} {a : Option Int} {e : DigitLimit} {s s' : Session}
    (h : Runs (.look context l.text) s (.ok a) s') (ht : Token.ofLexeme l a = .error e) :
    ∃ v, a = some v ∧ s'.known.find? l.text = some v ∧ ¬ FewDigits v := by
  obtain ⟨-, -, v, rfl, hv⟩ := Token.ofLexeme_eq_error_iff.1 ht
  rcases h.answer_eq with hzero | hknown
  · cases hzero
    exact absurd (fewDigits_toInt 0) hv
  · exact ⟨v, rfl, hknown.symm, hv⟩

/-- What the names `cut` that were cut short have to do with a task that was: they begin with a name that it asks for,
and there are none if a number stopped the task itself. -/
def Task.IsCutShort (s s' : Session) (cut : List Text) : Task → Prop
  | look _ name => s.CutShort s' name cut
  | read _ ls => ∃ l ∈ ls, l.kind = .identifier ∧
    (cut = [] ∧ (∃ v, s'.known.find? l.text = some v ∧ ¬ FewDigits v) ∨ s.CutShort s' l.text cut)
  | evaluate _ expression =>
    cut = [] ∧ IsUnreadable s'.known expression ∨ ∃ n ∈ mentioned expression, s.CutShort s' n cut
  | resolve name _ => s.CutShort s' name cut

/-- A pending name whose evaluation was cut short is the first of those that were. -/
theorem Session.CutShort.left {s s' : Session} {name expression : Text} {cut : List Text} {e : DigitLimit}
    (hk : s.known.find? name = none) (he : s.pending.find? name = some expression)
    (hv : Runs (.evaluate name expression) (s.entered name) (.error e) s')
    (h : (Task.evaluate name expression).IsCutShort (s.entered name) s' cut) :
    s.CutShort (s'.left name) name (name :: cut) := by
  have hunknown : s'.known.find? name = none := hv.known_of_entered hk
  rcases h with ⟨rfl, hx⟩ | ⟨n, hn, hcut⟩
  · exact .number he hunknown hx
  · refine .within he hunknown hn (hcut.of_before rfl fun m x _ hm => ?_) fun hmem => ?_
    · rw [entered_pending, Entries.find?_erase] at hm
      split at hm
      · cases hm
      · exact hm
    · obtain ⟨x, hx⟩ := hcut.exists_pending name hmem
      rw [entered_pending, Entries.find?_erase, if_pos rfl] at hx
      cases hx

/-- But for the names below it, nothing happens to other names than the one that is left. -/
theorem Session.Proceeds.left {s s' : Session} {name : Text} {cut : List Text}
    (h : Session.Proceeds cut (s.entered name) s') (hunknown : s'.known.find? name = none) :
    Session.Proceeds (name :: cut) s (s'.left name) := by
  refine ⟨h.known, h.journal, fun n v hn hv => ?_, fun n hcut => ?_⟩
  · have hname : n ≠ name := by
      rintro rfl
      rw [left_known, hunknown] at hv
      cases hv
    obtain ⟨x, hx, hcompletes⟩ := h.learned n v hn hv
    rw [find?_entered hname] at hx
    exact ⟨x, hx, hcompletes⟩
  · have hname : n ≠ name := fun heq => hcut (heq ▸ List.mem_cons_self)
    refine (h.spared n fun hmem => hcut (List.mem_cons_of_mem name hmem)).imp_left fun heq => ?_
    rw [left_pending, heq, find?_entered hname]

/-- **A task that a number stops has cut a chain of names short**, and left alone all others. -/
theorem Runs.interrupted {t : Task} {s s' : Session} {r : Except DigitLimit t.Result} (h : Runs t s r s')
    (ht : t.IsPlain) (hr : ∃ e, r = .error e) :
    ∃ cut, Session.Proceeds cut s s' ∧ t.IsCutShort s s' cut := by
  -- What comes to its end first has no part in it.
  have hbehind {s s₁ s' : Session} {cut : List Text} {context : Text} {l : Lexeme} {ls : List Lexeme}
      (h₁ : Session.Proceeds [] s s₁) (h : Session.Proceeds cut s₁ s')
      (hcut : (Task.read context ls).IsCutShort s₁ s' cut) :
      Session.Proceeds cut s s' ∧ (Task.read context (l :: ls)).IsCutShort s s' cut := by
    obtain ⟨m, hm, hk, hcut⟩ := hcut
    exact ⟨h₁.trans h, m, List.mem_cons_of_mem l hm, hk, hcut.imp_right fun hcut => hcut.of_proceeds h₁ h⟩
  induction h with
  | circular | settled | resolved | nil | known | undefined | learned =>
    obtain ⟨e, he⟩ := hr
    cases he
  | unresolved _ _ _ ih => exact ih rfl ⟨_, rfl⟩
  | @sign s s' context l ls t r _ _ _ ih =>
    cases r with
    | ok ts =>
      obtain ⟨e, he⟩ := hr
      cases he
    | error e =>
      obtain ⟨cut, hproceeds, hcut⟩ := ih trivial ⟨e, rfl⟩
      exact ⟨cut, hbehind ((Session.Proceeds.refl s).recordedAll _ _) hproceeds hcut⟩
  | @name s s₁ s' context l ls a t r _ ha _ _ _ ihs =>
    cases r with
    | ok ts =>
      obtain ⟨e, he⟩ := hr
      cases he
    | error e =>
      have hanswer : Session.Proceeds [] s s₁ := ha.proceeds trivial rfl
      obtain ⟨cut, hproceeds, hcut⟩ := ihs trivial ⟨e, rfl⟩
      exact ⟨cut, hbehind (hanswer.recordedAll _ _) hproceeds hcut⟩
  | @unwritten s s' context l ls a e hk ha htoken _ =>
    obtain ⟨v, -, hv, hlong⟩ := ha.known_of_unwritten htoken
    exact ⟨[], ha.proceeds trivial rfl, l, List.mem_cons_self, hk, .inl ⟨rfl, v, hv, hlong⟩⟩
  | @unanswered s s' context l ls e hk _ ih =>
    obtain ⟨cut, hproceeds, hcut⟩ := ih trivial ⟨e, rfl⟩
    exact ⟨cut, hproceeds, l, List.mem_cons_self, hk, .inr hcut⟩
  | @value s s' context expression ts hread _ =>
    refine ⟨[], ?_, .inl ⟨rfl, .inl ?_⟩⟩
    · exact (((Session.Proceeds.refl s).happened _).trans (hread.proceeds trivial rfl)).concluded _ _ _
    · obtain ⟨e, he⟩ := hr
      exact hread.not_hasShortNumbers he
  | @unread s s' context expression e _ ih =>
    obtain ⟨cut, hproceeds, l, hl, hk, hcut⟩ := ih trivial ⟨e, rfl⟩
    have hbegan : Session.Proceeds [] s (s.happened (.began context expression)) := (Session.Proceeds.refl s).happened _
    have hmentioned : l.text ∈ mentioned expression := mem_mentioned.2 ⟨l, hl, hk, rfl⟩
    refine ⟨cut, hbegan.trans hproceeds, ?_⟩
    rcases hcut with ⟨hnone, v, hv, hlong⟩ | hcut
    · exact .inl ⟨hnone, .inr ⟨l.text, hmentioned, v, hv, hlong⟩⟩
    · exact .inr ⟨l.text, hmentioned, hcut.of_proceeds hbegan hproceeds⟩
  | @failed s s' name expression given e hk he hv ih =>
    obtain rfl : given = none := ht
    obtain ⟨cut, hproceeds, hcut⟩ := ih trivial ⟨e, rfl⟩
    exact ⟨name :: cut, hproceeds.left (hv.known_of_entered hk), .left hk he hv hcut⟩

/-! ## The last thing that happens -/

/-- A lookup ends when its answer is noted. -/
theorem Runs.journal_of_look {context name : Text} {a : Option Int} {s s' : Session}
    (h : Runs (.look context name) s (.ok a) s') : ∃ events, s'.journal = .answered context name a :: events := by
  cases h with
  | circular => exact ⟨_, rfl⟩
  | settled => exact ⟨_, Session.journal_answered _ _ _⟩
  | resolved => exact ⟨_, Session.journal_answered _ _ _⟩

/-- What stops the evaluation of tokens is a number that is read. -/
theorem Evaluation.exists_reading {ts : List Token} {e : DigitLimit} (h : (ofTokens ts).value = .error e) :
    ∃ count, e = .reading count := by
  rcases ofTokensFrom_value ts [] with ⟨e', he', hvalue⟩ | ⟨-, v, hv⟩
  · obtain rfl : e' = e := Except.error.inj (hvalue.symm.trans h)
    obtain ⟨t, -, ht⟩ := List.exists_of_findSome?_eq_some he'
    exact GameSource.exists_reading (Token.fault?_eq_some_iff.1 ht).2
  · cases hv.symm.trans h

/-- The last thing that happened is that a name was answered with its value, which has too many digits. -/
def Session.EndsAtLong (s : Session) : Prop :=
  ∃ context name v events, s.journal = .answered context name (some v) :: events ∧ s.known.find? name = some v ∧
    ¬ FewDigits v

/-- **Behind a value that cannot be written nothing happens**: no name is looked up and nothing is told. -/
theorem Runs.endsAtLong {t : Task} {s s' : Session} {r : Except DigitLimit t.Result} (h : Runs t s r s')
    (hr : r = .error .writing) : s'.EndsAtLong := by
  induction h with
  | circular | settled | resolved | nil | known | undefined | learned => cases hr
  | unresolved _ _ _ ih => exact ih (congrArg _ (Except.error.inj hr))
  | @sign _ _ _ _ _ _ r _ _ _ ih =>
    cases r with
    | ok ts => cases hr
    | error e => exact ih (congrArg _ (Except.error.inj hr))
  | @name _ _ _ _ _ _ _ _ r _ _ _ _ _ ih =>
    cases r with
    | ok ts => cases hr
    | error e => exact ih (congrArg _ (Except.error.inj hr))
  | @unwritten s s' context l ls a e _ ha htoken _ =>
    obtain ⟨events, hevents⟩ := ha.journal_of_look
    obtain ⟨v, rfl, hv, hlong⟩ := ha.known_of_unwritten htoken
    exact ⟨context, l.text, v, events, hevents, hv, hlong⟩
  | unanswered _ _ ih => exact ih (congrArg _ (Except.error.inj hr))
  | value =>
    obtain ⟨count, hcount⟩ := Evaluation.exists_reading hr
    cases hcount
  | unread _ ih => exact ih (congrArg _ (Except.error.inj hr))
  | failed _ _ _ ih => exact ih (congrArg _ (Except.error.inj hr))

/-- `A` needs `B`, which has a value, and then `C`, whose number has too many digits. -/
def besideLong : Entries Text Text :=
  [("A".toList, "B+C".toList), ("B".toList, "1".toList), ("C".toList, longDigits)]

/-- The number of `C` stops the resolution of `A` when `B` has been learned. -/
theorem resolve_besideLong : ∃ e s',
    (resolve "A".toList none).run.run (Session.start besideLong [] [] []) = (.error e, s') ∧
    s'.known.find? "B".toList = some 1 ∧ s'.pending.find? "B".toList = none := by
  let s := Session.start besideLong [] [] []
  let s₁ := (s.entered "A".toList).happened (.began "A".toList "B+C".toList)
  generalize hlook : (lookup 4 "A".toList "B".toList).run.run s₁ = o
  have hresult : let o := (lookup 4 "A".toList "B".toList).run.run s₁
      o.1 = .ok (some 1) ∧ o.2.known.find? "B".toList = some 1 ∧ o.2.known.find? "C".toList = none ∧
        o.2.pending.find? "B".toList = none ∧ o.2.pending.contains "C".toList ∧ o.2.resolving = ["A".toList] := by
    decide +kernel
  rw [hlook] at hresult
  obtain ⟨r, s₂⟩ := o
  obtain ⟨rfl, hb, hc, hgone, hpending, hresolving⟩ := hresult
  have hfirst : Runs (.look "A".toList "B".toList) s₁ (.ok (some 1)) s₂ :=
    (runs_iff (show (Task.look "A".toList "B".toList).pendingBelow s₁ < 4 by decide)).2 hlook
  obtain ⟨x, hx⟩ := Option.isSome_iff_exists.1 hpending
  obtain rfl : x = longDigits := Option.some.inj (((hfirst.keeps trivial).pending_eq_some hx).symm.trans rfl)
  obtain ⟨r, s₃, hsecond⟩ := exists_runs (.resolve "C".toList none) s₂
  obtain ⟨e, rfl⟩ := hsecond.resolve_long hc hx not_hasShortNumbers_longDigits
  have hopen : "C".toList ∉ s₂.resolving := by
    rw [show s₂.resolving = ["A".toList] from hresolving]
    decide
  have hlexemes : (lexemes "B+C".toList).1 = [⟨.identifier, "B".toList, "B+C".toList⟩,
      ⟨.operator, "+".toList, "+C".toList⟩, ⟨.identifier, "C".toList, "C".toList⟩] := by decide +kernel
  have hread : Runs (.read "A".toList (lexemes "B+C".toList).1) s₁ (.error e) s₃ := by
    rw [hlexemes]
    exact .name rfl hfirst (Token.ofLexeme_name rfl (fewDigits_toInt 1))
      (.sign (by decide) rfl (.unanswered rfl (.unresolved hopen hpending hsecond)))
  have hrun : Runs (.resolve "A".toList none) s (.error e) (s₃.left "A".toList) := .failed rfl rfl (.unread hread)
  exact ⟨e, _, resolve_iff.1 hrun, hsecond.known_eq_some hb,
    Entries.find?_eq_none_of_sublist hsecond.pending_sublist hgone⟩

/-- `A` needs a value that is given, and then `B`. -/
def behindLong : Entries Text Text := [("A".toList, "BIG+B".toList), ("B".toList, "1".toList)]

/-- A given value with too many digits stops the resolution of `A` before `B` is looked up. -/
theorem resolve_behindLong {v : Int} (hv : ¬ FewDigits v) : ∃ s',
    (resolve "A".toList none).run.run (Session.start behindLong [("BIG".toList, v)] [] []) = (.error .writing, s') ∧
    s'.known.find? "B".toList = none ∧ s'.pending.find? "B".toList = some "1".toList := by
  let s := Session.start behindLong [("BIG".toList, v)] [] []
  have hlexemes : (lexemes "BIG+B".toList).1 = [⟨.identifier, "BIG".toList, "BIG+B".toList⟩,
      ⟨.operator, "+".toList, "+B".toList⟩, ⟨.identifier, "B".toList, "B".toList⟩] := by decide +kernel
  have hopen : "BIG".toList ∉ (s.entered "A".toList).resolving := show "BIG".toList ∉ ["A".toList] by decide
  have hevaluate := @Runs.evaluate_unwritten "A".toList _ _ _ _ _ hlexemes rfl hopen rfl rfl hv
  have hrun : Runs (.resolve "A".toList none) s (.error .writing) _ := .failed rfl rfl hevaluate
  refine ⟨_, resolve_iff.1 hrun, ?_, ?_⟩
  · rw [Session.left_known, Session.answered_known]
    rfl
  · rw [Session.left_pending, Session.answered_pending]
    rfl

/-- **What a resolution that raises leaves behind**, in every session.  Everything known is known as before, and what is
known in addition are the values of pending names whose evaluations were completed on the way.  No name is newly pending,
and each is pending as before, unless a lookup was answered with its value or it may be one of those that were cut short:
the name itself, and from there on names that the expression of the one before mentions, down to one whose expression has
a number that cannot be read or names a value that cannot be written.  Such a value is the last thing that is looked up. -/
theorem resolve_interrupted {name : Text} {e : DigitLimit} {s s' : Session}
    (h : (resolve name none).run.run s = (.error e, s')) :
    s.known <+: s'.known ∧
    (∀ n v, s.known.find? n = none → s'.known.find? n = some v →
      ∃ expression, s.pending.find? n = some expression ∧ s.Completes s' n expression v) ∧
    s'.pending.Sublist s.pending ∧
    (e = .writing → s'.EndsAtLong) ∧
    ∃ cut, s.CutShort s' name cut ∧
      ∀ n, n ∉ cut → s'.pending.find? n = s.pending.find? n ∨ s.AnswersKnown s' n := by
  have hrun : Runs (.resolve name none) s (.error e) s' := resolve_iff.2 h
  obtain ⟨cut, hproceeds, hcut⟩ := hrun.interrupted rfl ⟨e, rfl⟩
  exact ⟨hproceeds.known, hproceeds.learned, hrun.pending_sublist, fun he => hrun.endsAtLong (he ▸ rfl), cut, hcut,
    hproceeds.spared⟩

/-- When `C` stops the resolution of `A`, the value of `B` is kept, and `A` is one of those that were cut short.  A given
value that cannot be written is the last thing that is looked up: `B` behind it is pending and not known. -/
theorem resolve_interrupted_besideLong :
    (let s := Session.start besideLong [] [] []
      ∃ e s', (resolve "A".toList none).run.run s = (.error e, s') ∧ s.known <+: s'.known ∧
        (∃ expression, s.pending.find? "B".toList = some expression ∧ s.Completes s' "B".toList expression 1) ∧
        ∃ cut, s.CutShort s' "A".toList cut) ∧
    let s := Session.start behindLong [("BIG".toList, Nat.pow 10 digitLimit)] [] []
    ∃ s', (resolve "A".toList none).run.run s = (.error .writing, s') ∧ s'.EndsAtLong ∧
      s'.known.find? "B".toList = none ∧ s'.pending.find? "B".toList = some "1".toList ∧
      ∃ cut, s.CutShort s' "A".toList cut := by
  constructor
  · obtain ⟨e, s', hrun, hb, -⟩ := resolve_besideLong
    obtain ⟨hknown, hlearned, -, -, cut, hcut, -⟩ := resolve_interrupted hrun
    exact ⟨e, s', hrun, hknown, hlearned _ _ (by decide) hb, cut, hcut⟩
  · obtain ⟨s', hrun, hunknown, hpending⟩ := resolve_behindLong not_fewDigits_limit
    obtain ⟨-, -, -, hlast, cut, hcut, -⟩ := resolve_interrupted hrun
    exact ⟨s', hrun, hlast rfl, hunknown, hpending, cut, hcut⟩

/-- A resolution that raises does not leave the session as it was: `B` is known then, and pending no longer. -/
theorem resolve_interrupted_changed :
    let s := Session.start besideLong [] [] []
    ∃ e s', (resolve "A".toList none).run.run s = (.error e, s') ∧ s'.known ≠ s.known ∧ s'.pending ≠ s.pending := by
  obtain ⟨e, s', hrun, hb, hgone⟩ := resolve_besideLong
  refine ⟨e, s', hrun, fun heq => ?_, fun heq => ?_⟩
  · rw [heq] at hb
    exact absurd hb (by decide)
  · rw [heq] at hgone
    exact absurd hgone (by decide)

end GameSource
