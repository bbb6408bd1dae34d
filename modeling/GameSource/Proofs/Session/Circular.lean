import GameSource.Proofs.Define.Reference
import GameSource.Proofs.Session.Kept
/-!
# Circular dependencies

Resolving a name searches the names that it leads to, depth first: the names under evaluation are the path from the name
to where the search is, and a name that is neither pending nor on the path has been searched before.  So a circular
dependency is told exactly of names that close a cycle (`Runs.explores`), and in a resolution that comes to a value one
is told if and only if the name leads to a cycle of names that were pending and not known when it began
(`resolve_circular_iff`), whatever the session did before.
-/
namespace GameSource

open Relation (ReflTransGen TransGen)
open SessionStep

/-! ## What is told of circular dependencies -/

/-- The event is the report that a name depends on itself. -/
def SessionEvent.TellsCircular (x : Text) : SessionEvent → Prop
  | recorded _ d => d.cause = .problem (.circularDependency x)
  | _ => False

/-- The problem is no circular dependency. -/
def Problem.IsLocal (p : Problem) : Prop := ∀ x, p ≠ .circularDependency x

theorem Postfix.isLocal {p : Problem} {ts waiting : List Token} (h : p ∈ (ofTokensFrom waiting ts).problems) :
    p.IsLocal := eq_of_mem_problems h ▸ fun _ => nofun

theorem Evaluation.isLocal {p : Problem} {ts : List Token} {values : List Int}
    (h : p ∈ (ofTokensFrom values ts).problems) : p.IsLocal := eq_of_mem_problems h ▸ fun _ => nofun

theorem Problem.isLocal_ofLexeme {l : Lexeme} {answer : Option Int} {p : Problem}
    (h : p ∈ (Problem.ofLexeme? l answer).toList) : p.IsLocal := by
  unfold Problem.ofLexeme? at h
  split at h
  · rw [List.mem_singleton.1 h]
    exact fun _ => nofun
  · split at h
    · cases h
    · rw [List.mem_singleton.1 h]
      exact fun _ => nofun
  · cases h

namespace Session

variable {s s₁ s₂ s' : Session} {C : Text → Prop} {context name rest : Text}

/-- Circular dependencies were told since only of such names. -/
def TellsOnly (C : Text → Prop) (s s' : Session) : Prop :=
  ∃ events, s'.journal = events ++ s.journal ∧ ∀ e ∈ events, ∀ x, e.TellsCircular x → C x

theorem TellsOnly.refl (C : Text → Prop) (s : Session) : s.TellsOnly C s := ⟨[], rfl, fun _ => nofun⟩

/-- What was told in two steps was told in the one or the other. -/
theorem tellsOnly_iff (h : s₁.journal <:+ s₂.journal) (h' : s₂.journal <:+ s'.journal) :
    s₁.TellsOnly C s' ↔ s₁.TellsOnly C s₂ ∧ s₂.TellsOnly C s' := by
  obtain ⟨before, hbefore⟩ := h
  obtain ⟨later, hlater⟩ := h'
  constructor
  · rintro ⟨events, hevents, hall⟩
    have hsplit : events = later ++ before := by
      rw [← hlater, ← hbefore, ← List.append_assoc] at hevents
      exact (List.append_cancel_right hevents).symm
    subst hsplit
    exact ⟨⟨before, hbefore.symm, fun e he => hall e (List.mem_append_right _ he)⟩,
      ⟨later, hlater.symm, fun e he => hall e (List.mem_append_left _ he)⟩⟩
  · rintro ⟨⟨events, hevents, hall⟩, events', hevents', hall'⟩
    refine ⟨events' ++ events, by rw [hevents', hevents, List.append_assoc], fun e he => ?_⟩
    exact (List.mem_append.1 he).elim (hall' e) (hall e)

theorem TellsOnly.trans (h : s₁.TellsOnly C s₂) (h' : s₂.TellsOnly C s') : s₁.TellsOnly C s' := by
  have hbefore : s₁.journal <:+ s₂.journal := ⟨h.choose, h.choose_spec.1.symm⟩
  have hlater : s₂.journal <:+ s'.journal := ⟨h'.choose, h'.choose_spec.1.symm⟩
  exact (tellsOnly_iff hbefore hlater).2 ⟨h, h'⟩

theorem tellsOnly_happened {e : SessionEvent} : s.TellsOnly C (s.happened e) ↔ ∀ x, e.TellsCircular x → C x := by
  constructor
  · rintro ⟨events, hevents, hall⟩
    have hsplit : [e] = events := List.append_cancel_right hevents
    exact hall e (hsplit ▸ List.mem_singleton_self e)
  · exact fun h => ⟨[e], rfl, by simpa using h⟩

theorem tellsOnly_recorded {p : Problem} : s.TellsOnly C (s.recorded context p) ↔
    ∀ x, p = .circularDependency x → C x := by
  have hsame : s.TellsOnly C (s.recorded context p) ↔ s.TellsOnly C (s.happened (.recorded context (diagnose s p))) :=
    Iff.rfl
  rw [hsame, tellsOnly_happened]
  simp [SessionEvent.TellsCircular, diagnose]

theorem TellsOnly.recordedAll (C : Text → Prop) (context : Text) : ∀ (s : Session) {ps : List Problem},
    (∀ p ∈ ps, p.IsLocal) → s.TellsOnly C (s.recordedAll context ps)
  | s, [], _ => .refl C s
  | s, p :: ps, h => by
    have hone : s.TellsOnly C (s.recorded context p) :=
      tellsOnly_recorded.2 fun x hx => absurd hx (h p List.mem_cons_self x)
    exact hone.trans (recordedAll C context _ fun q hq => h q (List.mem_cons_of_mem p hq))

theorem TellsOnly.lexeme (C : Text → Prop) (s : Session) (context : Text) (l : Lexeme) (answer : Option Int) :
    s.TellsOnly C (s.recordedAll context (Problem.ofLexeme? l answer).toList) :=
  recordedAll C context s fun _ => Problem.isLocal_ofLexeme

theorem TellsOnly.answered (C : Text → Prop) (s : Session) (context name : Text) :
    s.TellsOnly C (s.answered context name) := by
  obtain ⟨errors, h⟩ := copied_eq s context name
  rw [Session.answered, h]
  exact ⟨[_], rfl, by simp [SessionEvent.TellsCircular]⟩

theorem TellsOnly.concluded (C : Text → Prop) (s : Session) (context rest : Text) (ts : List Token) :
    s.TellsOnly C (s.concluded context rest ts) := by
  have htokens (s : Session) : s.TellsOnly C ((s.recordedAll context (Postfix.ofTokens ts).problems).recordedAll context
      (Evaluation.ofTokens (Postfix.ofTokens ts).tokens).problems) :=
    (recordedAll C context s fun _ => Postfix.isLocal).trans (recordedAll C context _ fun _ => Evaluation.isLocal)
  unfold Session.concluded
  split
  · exact htokens s
  · exact TellsOnly.trans (tellsOnly_happened.2 (by simp [SessionEvent.TellsCircular])) (htokens _)

end Session

/-! ## The search -/

section
variable {table : Entries Text Text} {known : Entries Text Int}

/-- A name leads to no cycle if none of those it mentions does. -/
theorem Acyclic.of_mentions {n : Text} (h : ∀ m, Mentions table known n m → Acyclic table known m) :
    Acyclic table known n := by
  have hn : ¬ TransGen (Mentions table known) n n := by
    intro hcycle
    obtain ⟨m, hm, hback⟩ := TransGen.head'_iff.1 hcycle
    exact h m hm m .refl (TransGen.tail'_iff.2 ⟨n, hback, hm⟩)
  intro m hm
  rcases ReflTransGen.cases_head hm with rfl | ⟨k, hk, hrest⟩
  · exact hn
  · exact h k hk m hrest

variable (table known)

/-- The session searches what the name leads to, where `table` was pending and `known` known when that began. -/
structure Session.Searches (root : Text) (s : Session) : Prop where
  pending : ∀ n e, s.pending.find? n = some e → table.find? n = some e
  unlearned : ∀ n e, s.pending.find? n = some e → s.known.find? n = known.find? n
  reached : ∀ n ∈ s.resolving, ReflTransGen (Mentions table known) root n

/-- The name is under evaluation, and all others that are lead to it. -/
def Session.Innermost (s : Session) (n : Text) : Prop :=
  n ∈ s.resolving ∧ ∀ x ∈ s.resolving, ReflTransGen (Mentions table known) x n

/-- Every name that was searched leads to no cycle. -/
def Session.Cleared (s : Session) : Prop :=
  ∀ n, s.pending.find? n = none → n ∉ s.resolving → Acyclic table known n

/-- The task is one of the search. -/
def Task.Searches (root : Text) (s : Session) : Task → Prop
  | look context name => s.Innermost table known context ∧ Mentions table known context name
  | read context ls => s.Innermost table known context ∧
    ∀ l ∈ ls, l.kind = .identifier → Mentions table known context l.text
  | evaluate context expression => s.Innermost table known context ∧
    ∀ m ∈ mentioned expression, Mentions table known context m
  | resolve name given => given = none ∧ name ∉ s.resolving ∧ s.pending.contains name ∧
    ReflTransGen (Mentions table known) root name ∧ ∀ x ∈ s.resolving, ReflTransGen (Mentions table known) x name

/-- The names that a task is about lead to no cycle. -/
def Task.Clear : Task → Prop
  | look _ name => Acyclic table known name
  | read _ ls => ∀ l ∈ ls, l.kind = .identifier → Acyclic table known l.text
  | evaluate _ expression => ∀ m ∈ mentioned expression, Acyclic table known m
  | resolve name _ => Acyclic table known name

/-- What a task of the search comes to: circular dependencies are told only of names on cycles to which the first name
leads, and if it comes to a value and none is told then there is none below the names it is about. -/
structure Session.Explored (root : Text) (t : Task) (s : Session) (r : Except DigitLimit t.Result) (s' : Session) :
    Prop where
  sound : s.TellsOnly (fun x => ReflTransGen (Mentions table known) root x ∧ TransGen (Mentions table known) x x) s'
  complete : ∀ answer, r = .ok answer → s.TellsOnly (fun _ => False) s' → s.Cleared table known →
    s'.Cleared table known ∧ t.Clear table known

variable {table known}

namespace Session

variable {s s' : Session} {root context name : Text}

theorem Searches.keeps (h : s.Searches table known root) (hk : s.Keeps s') : s'.Searches table known root where
  pending n e he := h.pending n e (hk.pending_eq_some he)
  unlearned n e he := by
    have hbefore := h.unlearned n e (hk.pending_eq_some he)
    cases hn : s.known.find? n with
    | some v => rw [hk.known_eq_some hn, ← hbefore, hn]
    | none => rw [hk.unlearned n e he hn, ← hbefore, hn]
  reached n hn := h.reached n (hk.resolving ▸ hn)

theorem Searches.entered (h : s.Searches table known root) (hr : ReflTransGen (Mentions table known) root name) :
    (s.entered name).Searches table known root where
  pending n e he := h.pending n e ((Keeps.taken s name).pending_eq_some he)
  unlearned n e he := h.unlearned n e ((Keeps.taken s name).pending_eq_some he)
  reached n hn := by
    rcases List.mem_cons.1 hn with rfl | hn
    · exact hr
    · exact h.reached n hn

theorem Innermost.of_resolving (h : s.Innermost table known context) (hr : s'.resolving = s.resolving) :
    s'.Innermost table known context := by
  unfold Innermost
  rwa [hr]

theorem Innermost.entered (h : ∀ x ∈ s.resolving, ReflTransGen (Mentions table known) x name) :
    (s.entered name).Innermost table known name := by
  refine ⟨List.mem_cons_self, fun x hx => ?_⟩
  rcases List.mem_cons.1 hx with rfl | hx
  · exact .refl
  · exact h x hx

theorem Cleared.of_names (h : s.Cleared table known) (hp : s'.pending = s.pending)
    (hr : s'.resolving = s.resolving) : s'.Cleared table known := by
  unfold Cleared
  rwa [hp, hr]

theorem Cleared.entered (h : s.Cleared table known) : (s.entered name).Cleared table known := by
  intro n hp hn
  rw [entered_resolving, List.mem_cons, not_or] at hn
  rw [entered_pending, Entries.find?_erase, if_neg hn.1] at hp
  exact h n hp hn.2

theorem Cleared.taken (h : s.Cleared table known) (hname : Acyclic table known name) :
    (s.taken name).Cleared table known := by
  intro n hp hn
  by_cases heq : n = name
  · rwa [heq]
  · rw [taken_pending, Entries.find?_erase, if_neg heq] at hp
    exact h n hp hn

/-- When a name is left that leads to no cycle, all names that were searched are clear again. -/
theorem Cleared.leave (h : s'.Cleared table known) (hname : Acyclic table known name) (v : Int) :
    ((s'.left name).learnt name v).Cleared table known := by
  intro n hp hn
  by_cases heq : n = name
  · rwa [heq]
  · refine h n hp fun hmem => hn ?_
    exact List.mem_filter.2 ⟨hmem, by simpa using heq⟩

end Session

/-- **The search is sound and complete**, by induction on what the tasks come to. -/
theorem Runs.explores {t : Task} {s s' : Session} {r : Except DigitLimit t.Result} {root : Text} (h : Runs t s r s')
    (hs : s.Searches table known root) (ht : t.Searches table known root s) : s.Explored table known root t r s' := by
  induction h with
  | @circular s context name hres =>
    -- What is under evaluation leads to the innermost name, and that mentions what is under evaluation.
    obtain ⟨⟨hmem, hpath⟩, hmention⟩ := ht
    have htold (C : Text → Prop) : s.TellsOnly C ((s.recorded context (.circularDependency name)).happened
        (.answered context name (some 0))) ↔ C name := by
      rw [Session.tellsOnly_iff (List.suffix_cons _ _) (List.suffix_cons _ _), Session.tellsOnly_recorded,
        Session.tellsOnly_happened]
      simp [SessionEvent.TellsCircular]
    refine ⟨(htold _).2 ⟨hs.reached name hres, ?_⟩, fun _ _ hnone _ => ((htold _).1 hnone).elim⟩
    exact TransGen.tail'_iff.2 ⟨context, hpath name hres, hmention⟩
  | @settled s context name hres hp =>
    refine ⟨.answered _ s context name, fun _ _ _ hclear => ?_⟩
    have hnone : s.pending.find? name = none := by simpa [Entries.contains] using hp
    exact ⟨hclear.of_names (by simp) (by simp), hclear name hnone hres⟩
  | @resolved s s' context name v hres hp hr ih =>
    obtain ⟨⟨hmem, hpath⟩, hmention⟩ := ht
    have hexplored := ih hs ⟨rfl, hres, hp, (hs.reached context hmem).tail hmention,
      fun x hx => (hpath x hx).tail hmention⟩
    refine ⟨hexplored.sound.trans (.answered _ s' context name), fun _ _ hnone hclear => ?_⟩
    rw [Session.tellsOnly_iff (hr.keeps hres).journal (Session.Keeps.answered s' context name).journal] at hnone
    obtain ⟨hclear', hname⟩ := hexplored.complete v rfl hnone.1 hclear
    exact ⟨hclear'.of_names (by simp) (by simp), hname⟩
  | @unresolved s s' context name e hres hp _ ih =>
    obtain ⟨⟨hmem, hpath⟩, hmention⟩ := ht
    have hexplored := ih hs ⟨rfl, hres, hp, (hs.reached context hmem).tail hmention,
      fun x hx => (hpath x hx).tail hmention⟩
    exact ⟨hexplored.sound, fun _ herror => by cases herror⟩
  | nil => exact ⟨.refl _ _, fun _ _ _ hclear => ⟨hclear, fun l hl => by cases hl⟩⟩
  | @sign s s' context l ls t r hk _ hread ih =>
    obtain ⟨hinner, hmentions⟩ := ht
    have hrecorded := Session.Keeps.recordedAll context s (Problem.ofLexeme? l none).toList
    have hexplored := ih (hs.keeps hrecorded) ⟨hinner.of_resolving (by simp),
      fun l' hl' => hmentions l' (List.mem_cons_of_mem l hl')⟩
    refine ⟨.trans (.lexeme _ s context l none) hexplored.sound, fun answer hr hnone hclear => ?_⟩
    rw [Session.tellsOnly_iff hrecorded.journal (hread.keeps trivial).journal] at hnone
    cases r with
    | error e => cases hr
    | ok ts =>
      obtain ⟨hclear', hrest⟩ := hexplored.complete ts rfl hnone.2 (hclear.of_names (by simp) (by simp))
      refine ⟨hclear', fun l' hl' hk' => ?_⟩
      rcases List.mem_cons.1 hl' with rfl | hl'
      · exact absurd hk' hk
      · exact hrest l' hl' hk'
  | @name s s₁ s' context l ls a t r hk hlook _ hread iha ihs =>
    obtain ⟨hinner, hmentions⟩ := ht
    have hkept : s.Keeps s₁ := hlook.keeps trivial
    have hrecorded := Session.Keeps.recordedAll context s₁ (Problem.ofLexeme? l a).toList
    have hlooked := iha hs ⟨hinner, hmentions l List.mem_cons_self hk⟩
    have hexplored := ihs ((hs.keeps hkept).keeps hrecorded) ⟨hinner.of_resolving (by simp [hkept.resolving]),
      fun l' hl' => hmentions l' (List.mem_cons_of_mem l hl')⟩
    refine ⟨hlooked.sound.trans (.trans (.lexeme _ s₁ context l a) hexplored.sound), fun answer hr hnone hclear => ?_⟩
    rw [Session.tellsOnly_iff (hkept.trans hrecorded).journal (hread.keeps trivial).journal,
      Session.tellsOnly_iff hkept.journal hrecorded.journal] at hnone
    cases r with
    | error e => cases hr
    | ok ts =>
      obtain ⟨hclear₁, hname⟩ := hlooked.complete a rfl hnone.1.1 hclear
      obtain ⟨hclear', hrest⟩ := hexplored.complete ts rfl hnone.2 (hclear₁.of_names (by simp) (by simp))
      refine ⟨hclear', fun l' hl' hk' => ?_⟩
      rcases List.mem_cons.1 hl' with rfl | hl'
      · exact hname
      · exact hrest l' hl' hk'
  | @unwritten s s' context l ls a e hk _ _ ih =>
    exact ⟨(ih hs ⟨ht.1, ht.2 l List.mem_cons_self hk⟩).sound, fun _ herror => by cases herror⟩
  | @unanswered s s' context l ls e hk _ ih =>
    exact ⟨(ih hs ⟨ht.1, ht.2 l List.mem_cons_self hk⟩).sound, fun _ herror => by cases herror⟩
  | @value s s' context expression ts hread ih =>
    obtain ⟨hinner, hmentions⟩ := ht
    have hbegan := Session.Keeps.happened s (.began context expression)
    have hconcluded := Session.Keeps.concluded s' context (lexemes expression).2 ts
    have htold (C : Text → Prop) : s.TellsOnly C (s.happened (.began context expression)) :=
      Session.tellsOnly_happened.2 (by simp [SessionEvent.TellsCircular])
    have hexplored := ih (hs.keeps hbegan) ⟨hinner.of_resolving rfl,
      fun l hl hk => hmentions l.text (mem_mentioned.2 ⟨l, hl, hk, rfl⟩)⟩
    refine ⟨(htold _).trans (hexplored.sound.trans (.concluded _ _ _ _ _)), fun answer _ hnone hclear => ?_⟩
    rw [Session.tellsOnly_iff (hbegan.trans (hread.keeps trivial)).journal hconcluded.journal,
      Session.tellsOnly_iff hbegan.journal (hread.keeps trivial).journal] at hnone
    obtain ⟨hclear', hnames⟩ := hexplored.complete ts rfl hnone.1.2 (hclear.of_names rfl rfl)
    refine ⟨hclear'.of_names (by simp) (by simp), fun m hm => ?_⟩
    obtain ⟨l, hl, hk, rfl⟩ := mem_mentioned.1 hm
    exact hnames l hl hk
  | @unread s s' context expression e _ ih =>
    have hexplored := ih (hs.keeps (.happened s _)) ⟨ht.1.of_resolving rfl,
      fun l hl hk => ht.2 l.text (mem_mentioned.2 ⟨l, hl, hk, rfl⟩)⟩
    exact ⟨.trans (Session.tellsOnly_happened.2 (by simp [SessionEvent.TellsCircular])) hexplored.sound,
      fun _ herror => by cases herror⟩
  | @known s name given v hk =>
    -- A name that was known when the search began mentions none.
    obtain ⟨-, -, hp, -, -⟩ := ht
    obtain ⟨e, he⟩ := Option.isSome_iff_exists.1 hp
    have hname : Acyclic table known name := .of_mentions fun m hm => by
      have hunknown := hm.1
      rw [← hs.unlearned name e he, hk] at hunknown
      cases hunknown
    exact ⟨.refl _ s, fun _ _ _ hclear => ⟨hclear.taken hname, hname⟩⟩
  | undefined _ hnone =>
    obtain ⟨-, -, hp, -, -⟩ := ht
    simp [Entries.contains, hnone] at hp
  | @learned s s' name e given v hk he heval ih =>
    obtain ⟨rfl, hres, hp, hroot, hpath⟩ := ht
    have hmentions : ∀ m ∈ mentioned e, Mentions table known name m := fun m hm =>
      ⟨(hs.unlearned name e he).symm.trans hk, e, hs.pending name e he, hm⟩
    -- While the name is under evaluation it need not be clear; it is when all that it mentions is.
    have hexplored := ih (hs.entered hroot) ⟨.entered hpath, hmentions⟩
    refine ⟨hexplored.sound, fun _ _ hnone hclear => ?_⟩
    obtain ⟨hclear', hnames⟩ := hexplored.complete v rfl hnone hclear.entered
    have hname : Acyclic table known name := .of_mentions fun m hm => by
      obtain ⟨-, e', he', hm⟩ := hm
      obtain rfl : e = e' := Option.some.inj ((hs.pending name e he).symm.trans he')
      exact hnames m hm
    exact ⟨hclear'.leave hname v, hname⟩
  | @failed s s' name e given err hk he _ ih =>
    obtain ⟨rfl, hres, hp, hroot, hpath⟩ := ht
    have hmentions : ∀ m ∈ mentioned e, Mentions table known name m := fun m hm =>
      ⟨(hs.unlearned name e he).symm.trans hk, e, hs.pending name e he, hm⟩
    exact ⟨(ih (hs.entered hroot) ⟨.entered hpath, hmentions⟩).sound, fun _ herror => by cases herror⟩

end

/-- **A circular dependency is told if and only if there is one.**  Whatever a session did before, also if some of it was
stopped: when it resolves a pending name that is not known and comes to a value, the names of which a circular dependency
is told meanwhile are on cycles to which the name leads, and if it leads to any cycle one is told.  Only names that are
pending and not known mention others here, so that the cycles are cycles of such names. -/
theorem resolve_circular_iff (table : Entries Text Text) (values : Entries Text Int) (text filename : Text)
    (requests : List Request) (name : Text) (v : Int) (s' : Session) :
    let s := (Session.start table values text filename).after requests
    s.pending.contains name → s.known.find? name = none → (resolve name none).run.run s = (.ok v, s') →
    ∃ events, s'.journal = events ++ s.journal ∧
      ((∃ x, ∃ e ∈ events, e.TellsCircular x) ↔
        ∃ x, ReflTransGen (Mentions s.pending s.known) name x ∧ TransGen (Mentions s.pending s.known) x x) ∧
      ∀ x, ∀ e ∈ events, e.TellsCircular x →
        ReflTransGen (Mentions s.pending s.known) name x ∧ TransGen (Mentions s.pending s.known) x x := by
  intro s hp hk h
  have hopen : s.resolving = [] := (Session.keeps_after rfl).resolving
  have hsearches : s.Searches s.pending s.known name := ⟨fun _ _ => id, fun _ _ _ => rfl, by simp [hopen]⟩
  have htask : (Task.resolve name none).Searches s.pending s.known name s :=
    ⟨rfl, by simp [hopen], hp, .refl, by simp [hopen]⟩
  have hclear : s.Cleared s.pending s.known := fun n hn _ => .of_mentions fun m hm => by
    obtain ⟨-, e, he, -⟩ := hm
    rw [hn] at he
    cases he
  have hexplored := (resolve_iff.2 h).explores hsearches htask
  obtain ⟨events, hevents, hsound⟩ := hexplored.sound
  refine ⟨events, hevents, ⟨?_, ?_⟩, fun x e he => hsound e he x⟩
  · rintro ⟨x, e, he, htells⟩
    exact ⟨x, hsound e he x htells⟩
  · rintro ⟨x, hreach, hcycle⟩
    by_contra hnone
    have htold : s.TellsOnly (fun _ => False) s' := ⟨events, hevents, fun e he x htells => hnone ⟨x, e, he, htells⟩⟩
    exact (hexplored.complete v rfl htold hclear).2 x hreach hcycle

/-- `A` leads to the cycle of `B` and `C`, and by way of `C` to `D`. -/
def leadingToCycle : Entries Text Text :=
  [("A".toList, "B".toList), ("B".toList, "C+1".toList), ("C".toList, "D*B".toList), ("D".toList, "7".toList)]

/-- `A` is resolved after `D` was, which is known then and no longer pending. -/
theorem resolve_circular_leadingToCycle :
    let s := (Session.start leadingToCycle [] [] []).after [.resolve "D".toList none, .tellProblems "C".toList]
    s.pending.contains "A".toList ∧ s.known.find? "A".toList = none ∧
    ∃ s', (resolve "A".toList none).run.run s = (.ok 1, s') ∧
    ∃ events, s'.journal = events ++ s.journal ∧
      ((∃ x, ∃ e ∈ events, e.TellsCircular x) ↔
        ∃ x, ReflTransGen (Mentions s.pending s.known) "A".toList x ∧ TransGen (Mentions s.pending s.known) x x) ∧
      ∀ x, ∀ e ∈ events, e.TellsCircular x →
        ReflTransGen (Mentions s.pending s.known) "A".toList x ∧ TransGen (Mentions s.pending s.known) x x := by
  intro s
  have hs : s.pending.contains "A".toList ∧ s.known.find? "A".toList = none ∧
      ((resolve "A".toList none).run.run s).1 = .ok 1 := by decide +kernel
  obtain ⟨hp, hk, hvalue⟩ := hs
  generalize hrun : (resolve "A".toList none).run.run s = o at hvalue
  obtain ⟨r, s'⟩ := o
  subst hvalue
  exact ⟨hp, hk, s', rfl, resolve_circular_iff leadingToCycle [] [] [] _ _ _ s' hp hk hrun⟩

end GameSource
