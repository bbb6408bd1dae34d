import GameSource.Proofs.Asm.Bare
import GameSource.Proofs.Command.Fault
import Mathlib
/-!
# What leaves the program

A command line exits with 0, 1 or 2 unless one of four commands is stopped by a fault that is not told, once its file has
been read (`runArguments_exits_iff`).
-/
namespace GameSource

/-- **The faults that are not told**: a label row without a name where the rows under a label are looked for, a label
that is asked for and not given, and a repetition in a search pattern that is too large. -/
inductive Command.Escapes (text : Text) : Command → Fault → Prop where
  | labelRow {file label : Text} {macros : Bool} {before after : List Asm.Row}
      (hrows : Asm.rows text = before ++ [Asm.labelMark] :: after) (hend : Asm.reachesEnd label before = false) :
      Escapes text (.asm file (some label) macros) (.label .missingName)
  | noLabel {file : Text} : Escapes text (.namedArray file none) .noLabel
  | defines {file : Text} {patterns : List Text} {e : BadPattern} (h : DefineFilter.ofPatterns patterns = .error e)
      (hcause : e.fault.cause = .repeatTooLarge) : Escapes text (.defines file patterns true) (.pattern e)
  | defineNames {file : Text} {patterns : List Text} {e : BadPattern} (h : DefineFilter.ofPatterns patterns = .error e)
      (hcause : e.fault.cause = .repeatTooLarge) : Escapes text (.defineNames file patterns) (.pattern e)

section
variable {disk : Disk} {i : Invocation} {p : Project} {file text : Text} {e : Fault}

theorem faultOf_eq_some {ε α : Type} {x : Except ε α} {e : ε} : faultOf x = some e ↔ x = .error e := by
  cases x <;> simp [faultOf]

/-- There is no text for an invocation because of a null character, or because its file is unreadable. -/
theorem Invocation.Opens.text?_eq_error (hopens : i.Opens disk p) {fault : OpenFault}
    (h : p.text? file = .error fault) : fault = .nullInPath ∨ ∃ d, fault = .unreadable d := by
  obtain ⟨known, -, rfl⟩ := opens_iff.1 hopens
  exact (Invocation.text?_eq_error h).imp And.right And.right

/-- Why there is no text of a header is told. -/
theorem Invocation.Opens.header?_told (hopens : i.Opens disk p) {stdin : StandardInput} {fault : OpenFault}
    (h : p.header? stdin file = .error fault) : (Fault.file fault).isTold := by
  unfold Project.header? at h
  split at h
  · cases stdin with
    | text t => cases h
    | undecodable message =>
      cases h
      rfl
  · rcases hopens.text?_eq_error h with rfl | ⟨d, rfl⟩ <;> rfl

/-- A fault that is not told is that of a text that has been read. -/
theorem Invocation.Opens.faultReading_eq_some (hopens : i.Opens disk p) {fault? : Text → Option Fault}
    (htold : e.isTold = false) :
    p.faultReading file fault? = some e ↔ ∃ text, p.text? file = .ok text ∧ fault? text = some e := by
  unfold Project.faultReading
  cases htext : p.text? file with
  | ok text => simp
  | error fault =>
    rcases hopens.text?_eq_error htext with rfl | ⟨d, rfl⟩
    · simp only [Option.some.injEq, reduceCtorEq, false_and, exists_false, iff_false]
      rintro rfl
      cases htold
    · simp

theorem told_of_map {ε α : Type} {x : Except ε α} {fault : ε → Fault} (h : ∀ cause, (fault cause).isTold)
    (he : (faultOf x).map fault = some e) : e.isTold := by
  obtain ⟨cause, -, rfl⟩ := Option.map_eq_some_iff.1 he
  exact h cause

/-- A filter is not told only for a repetition that is too large. -/
theorem filterFault_eq_some {asPatterns : Bool} {filters : List Text} {fault? : DefineFilter → Option Fault}
    (hfilter : ∀ filter e, fault? filter = some e → e.isTold) (htold : e.isTold = false) :
    Project.filterFault asPatterns filters fault? = some e ↔ asPatterns = true ∧
      ∃ bad, DefineFilter.ofPatterns filters = .error bad ∧ bad.fault.cause = .repeatTooLarge ∧ e = .pattern bad := by
  have hread {filter : DefineFilter} : ¬ fault? filter = some e := fun h => by
    rw [hfilter filter e h] at htold
    cases htold
  unfold Project.filterFault DefineFilter.read
  cases asPatterns with
  | false => exact iff_of_false hread fun h => Bool.false_ne_true h.1
  | true =>
    simp only [if_true, true_and]
    cases DefineFilter.ofPatterns filters with
    | ok filter =>
      refine iff_of_false hread ?_
      rintro ⟨bad, h, -⟩
      cases h
    | error bad =>
      simp only
      constructor
      · intro h
        split at h
        · cases h
        · cases h
          exact ⟨bad, rfl, by simpa [Fault.isTold] using htold, rfl⟩
      · rintro ⟨bad', h, hcause, rfl⟩
        cases h
        rw [hcause]
        rfl

namespace Command

/-- **A command is stopped without being told just by what escapes from its text.** -/
theorem fault?_eq_some_iff (hopens : i.Opens disk p) (stdin : StandardInput) (c : Command) (htold : e.isTold = false) :
    c.fault? p stdin = some e ↔
      ∃ file text, c.file? = some file ∧ p.text? file = .ok text ∧ c.Escapes text e := by
  -- A told fault is no fault that escapes.
  have hnot {fault : Option Fault} (h : ∀ e, fault = some e → e.isTold) : fault ≠ some e := fun he => by
    rw [h e he] at htold
    cases htold
  have hread {file : Text} {fault? : Text → Option Fault} (h : ∀ text, fault? text ≠ some e) :
      p.faultReading file fault? ≠ some e := fun he => by
    obtain ⟨text, -, htext⟩ := (hopens.faultReading_eq_some htold).1 he
    exact h text htext
  cases c with
  | defines file names asPatterns =>
    simp only [fault?]
    rw [hopens.faultReading_eq_some htold]
    constructor
    · rintro ⟨text, htext, hfilter⟩
      obtain ⟨rfl, bad, hbad, hcause, rfl⟩ :=
        (filterFault_eq_some (fun _ _ h => told_of_map (fun _ => rfl) h) htold).1 hfilter
      exact ⟨file, text, rfl, htext, .defines hbad hcause⟩
    · rintro ⟨file', text, hfile, htext, hescapes⟩
      cases hfile
      cases hescapes with
      | defines hbad hcause =>
        exact ⟨text, htext, (filterFault_eq_some (fun _ _ h => told_of_map (fun _ => rfl) h) htold).2
          ⟨rfl, _, hbad, hcause, rfl⟩⟩
  | defineNames file patterns =>
    simp only [fault?]
    rw [hopens.faultReading_eq_some htold]
    constructor
    · rintro ⟨text, htext, hfilter⟩
      obtain ⟨-, bad, hbad, hcause, rfl⟩ := (filterFault_eq_some (fun _ _ h => by cases h) htold).1 hfilter
      exact ⟨file, text, rfl, htext, .defineNames hbad hcause⟩
    · rintro ⟨file', text, hfile, htext, hescapes⟩
      cases hfile
      cases hescapes with
      | defineNames hbad hcause =>
        exact ⟨text, htext, (filterFault_eq_some (fun _ _ h => by cases h) htold).2 ⟨rfl, _, hbad, hcause, rfl⟩⟩
  | evaluate expression header =>
    refine iff_of_false (fun he => ?_) ?_
    · cases header with
      | none => exact hnot (fun _ h => told_of_map (fun _ => rfl) h) he
      | some file =>
        simp only [fault?] at he
        cases htext : p.header? stdin file with
        | ok text =>
          rw [htext] at he
          exact hnot (fun _ h => told_of_map (fun _ => rfl) h) he
        | error fault =>
          rw [htext] at he
          refine hnot (fun e' he' => ?_) he
          obtain rfl := Option.some.inj he'
          exact hopens.header?_told htext
    · rintro ⟨file, text, -, -, hescapes⟩
      cases hescapes
  | namedArray file label =>
    simp only [fault?]
    rw [hopens.faultReading_eq_some htold]
    constructor
    · rintro ⟨text, htext, hlabel⟩
      cases label with
      | none =>
        cases hlabel
        exact ⟨file, text, rfl, htext, .noLabel⟩
      | some label => cases hlabel
    · rintro ⟨file', text, hfile, htext, hescapes⟩
      cases hfile
      cases hescapes with
      | noLabel => exact ⟨text, htext, rfl⟩
  | struct file label members =>
    refine iff_of_false (fun he => ?_) ?_
    · simp only [fault?] at he
      cases hmembers : readMembers members with
      | error e' =>
        rw [hmembers] at he
        exact hnot (fun e' he' => Option.some.inj he' ▸ (readMembers_refused hmembers).1) he
      | ok names =>
        rw [hmembers] at he
        exact hread (fun text => hnot fun _ h => told_of_map (fun _ => rfl) h) he
    · rintro ⟨file, text, -, -, hescapes⟩
      cases hescapes
  | asm file label macros =>
    cases label with
    | none =>
      refine iff_of_false (hread fun _ => (Option.some_ne_none e).symm) ?_
      rintro ⟨file, text, -, -, hescapes⟩
      cases hescapes
    | some label =>
      simp only [fault?]
      rw [hopens.faultReading_eq_some htold]
      constructor
      · rintro ⟨text, htext, hlabel⟩
        obtain ⟨cause, hcause, rfl⟩ := Option.map_eq_some_iff.1 hlabel
        obtain ⟨before, after, hrows, hend⟩ := (Asm.macrosUnder_eq_error_iff _ _).1 (faultOf_eq_some.1 hcause)
        exact ⟨file, text, rfl, htext, .labelRow hrows hend⟩
      · rintro ⟨file', text, hfile, htext, hescapes⟩
        cases hfile
        cases hescapes with
        | labelRow hrows hend =>
          refine ⟨text, htext, ?_⟩
          rw [(Asm.macrosUnder_eq_error_iff _ _).2 ⟨_, _, hrows, hend⟩]
          rfl
  | array | incbin =>
    refine iff_of_false (hread fun _ => (Option.some_ne_none e).symm) ?_
    rintro ⟨file, text, -, -, hescapes⟩
    cases hescapes
  | scriptLine | scriptLabels =>
    refine iff_of_false (fun he => ?_) ?_
    · obtain ⟨file, -, hfile⟩ := Option.bind_eq_some_iff.1 he
      exact hread (fun _ => (Option.some_ne_none e).symm) hfile
    · rintro ⟨file, text, -, -, hescapes⟩
      cases hescapes

theorem Escapes.not_told {c : Command} (h : c.Escapes text e) : e.isTold = false := by
  cases h with
  | labelRow => rfl
  | noLabel => rfl
  | defines h hcause => simp [Fault.isTold, hcause]
  | defineNames h hcause => simp [Fault.isTold, hcause]

end Command

end

/-- **A command line exits with 0, 1 or 2, or with a fault that escapes.** -/
theorem runArguments_exits_iff (disk : Disk) (stdin : StandardInput) (args : List Text) :
    (∀ exit, (runArguments disk stdin args).1 = .ok exit → exit.code ≤ 2) ∧
    ∀ e, (runArguments disk stdin args).1 = .error e ↔ ∃ i p file text, Invocation.read args = .ok i ∧
      i.Opens disk p ∧ i.command.file? = some file ∧ p.text? file = .ok text ∧ i.command.Escapes text e := by
  refine ⟨fun exit h => runArguments_code_le h, fun e => ?_⟩
  rw [runArguments_eq_error_iff]
  constructor
  · rintro ⟨i, p, hargs, hopens, hfault, htold⟩
    obtain ⟨file, text, hfile, htext, hescapes⟩ := (Command.fault?_eq_some_iff hopens stdin _ htold).1 hfault
    exact ⟨i, p, file, text, hargs, hopens, hfile, htext, hescapes⟩
  · rintro ⟨i, p, file, text, hargs, hopens, hfile, htext, hescapes⟩
    have htold := hescapes.not_told
    exact ⟨i, p, hargs, hopens, (Command.fault?_eq_some_iff hopens stdin _ htold).2 ⟨file, text, hfile, htext, hescapes⟩,
      htold⟩

/-- A label row of nothing but its mark leaves the program. -/
theorem runArguments_exits_labelRow :
    (runArguments (diskWith "data.s" ".label\n") (.text []) (["asm", "data.s", "L"].map String.toList)).1 =
      .error (.label .missingName) := by
  have hargs : Invocation.read (["asm", "data.s", "L"].map String.toList) =
      .ok ⟨['.'], [], .human, .asm "data.s".toList (some "L".toList) false⟩ := by cbv
  have hopens : Invocation.Opens (diskWith "data.s" ".label\n")
      ⟨['.'], [], .human, .asm "data.s".toList (some "L".toList) false⟩
      ⟨diskWith "data.s" ".label\n", .ofText ['.'], "utf-8".toList, []⟩ :=
    ⟨⟨['.'], "utf-8".toList, [], .human⟩, rfl, rfl⟩
  have htext : Project.text? ⟨diskWith "data.s" ".label\n", .ofText ['.'], "utf-8".toList, []⟩ "data.s".toList =
      .ok ".label\n".toList := by cbv
  have hrows : Asm.rows ".label\n".toList = [] ++ [Asm.labelMark] :: [] := by cbv
  have hescapes : Command.Escapes ".label\n".toList (.asm "data.s".toList (some "L".toList) false)
      (.label .missingName) := .labelRow hrows rfl
  have hfault := (Command.fault?_eq_some_iff hopens (.text []) _ hescapes.not_told).2 ⟨_, _, rfl, htext, hescapes⟩
  exact runArguments_eq_error_iff.2 ⟨_, _, hargs, hopens, hfault, hescapes.not_told⟩

end GameSource
