import GameSource.Proofs.Command.Work
import Mathlib
/-!
# Commands whose file cannot be read

Four commands pass on what kept their file from being read: these exit with 1 and print nothing but that
(`Command.passesOn`).  The others lose it and answer as of an empty file, with exit code 0, so that only a notice is
left of it (`runArguments_unreadable`).
-/
namespace GameSource

/-! ## What commands do with an unreadable file -/

namespace Command

/-- The file that a command comes to read.  The scripts' commands read scripts only, and no script for an empty label;
the members of a struct are checked before its file is read. -/
def reads? : Command → Option Text
  | struct file _ members => if (readMembers members).isOk then some file else none
  | scriptLine file label =>
    if (Script.Dialect.ofPath? (.ofText file)).isSome && !label.isEmpty then some file else none
  | scriptLabels file => if (Script.Dialect.ofPath? (.ofText file)).isSome then some file else none
  | c => c.file?

/-- Whether a command passes on why its file cannot be read. -/
def passesOn : Command → Bool
  | defines .. | defineNames .. | evaluate .. | namedArray .. => true
  | _ => false

/-- What a command answers where it has nothing to answer. -/
def emptyAnswer : Command → Answer
  | defines .. => .numbers []
  | evaluate .. | scriptLine .. => .number 0
  | array _ none => .lists []
  | namedArray .. | incbin _ none false => .texts []
  | incbin _ (some _) false => .word []
  | struct .. => .structs []
  | asm _ none _ | asm _ (some _) true => .rows []
  | defineNames .. | array _ (some _) | incbin _ _ true | asm _ (some _) false | scriptLabels _ => .words []

/-- The result of a command whose file cannot be read. -/
def resultUnreadable (d : Diagnostic) (c : Command) : Except Fault (Answer × Option Diagnostic) :=
  match c with
  | evaluate .. => .error (.file (.unreadable d))
  | c => .ok (c.emptyAnswer, if c.passesOn then some d else none)

/-- The notices of a command whose file cannot be read. -/
def noticesUnreadable (d : Diagnostic) : Command → List Notice
  | evaluate .. => []
  | _ => [.diagnosed d]

end Command

/-- What an invocation prints about a file that cannot be read. -/
def Invocation.failureText (i : Invocation) (d : Diagnostic) : Text :=
  match i.command with
  | .evaluate .. => (programName ++ ": error: " ++ d.text).toList ++ ['\n']
  | _ => d.printed i.format

/-! ## The readers -/

namespace Project

variable {p : Project} {file : Text} {d : Diagnostic} (h : p.text? file = .error (.unreadable d))
include h

theorem gives_tryRead : (p.tryRead file).Gives (.ok (.error d)) [.diagnosed d] := by
  unfold tryRead
  rw [h]
  exact (Work.gives_tell _).answering rfl

theorem gives_readWith {α : Type} (empty : α) (f : Text → Work α) :
    (p.readWith file empty f).Gives (.ok empty) [.diagnosed d] := (gives_tryRead h).answering rfl

theorem gives_scan (asPatterns : Bool) (filters : List Text) :
    (p.scan file asPatterns filters).Gives (.ok (.error d)) [.diagnosed d] := (gives_tryRead h).answering rfl

theorem gives_evaluateDefines (asPatterns : Bool) (filters : List Text) :
    (p.evaluateDefines file asPatterns filters).Gives (.ok ([], some d)) [.diagnosed d] :=
  (gives_scan h asPatterns filters).answering rfl

theorem gives_definesByName (names : List Text) :
    (p.definesByName file names).Gives (.ok ([], some d)) [.diagnosed d] :=
  (gives_evaluateDefines h false names).answering rfl

theorem gives_defineNames (patterns : List Text) :
    (p.defineNames file patterns).Gives (.ok ([], some d)) [.diagnosed d] := (gives_scan h true patterns).answering rfl

theorem gives_indexedArray (label : Text) :
    (p.indexedArray file label).Gives (.ok ([], some d)) [.diagnosed d] := (gives_tryRead h).answering rfl

theorem gives_macrosUnder (label : Text) : (p.macrosUnder file label).Gives (.ok []) [.diagnosed d] :=
  (gives_readWith h _ _).answering rfl

theorem gives_valuesUnder (label : Text) : (p.valuesUnder file label).Gives (.ok []) [.diagnosed d] :=
  (gives_readWith h _ _).answering rfl

/-- A script that cannot be read has no line for a label. -/
theorem gives_scriptLine (hscript : (Script.Dialect.ofPath? (.ofText file)).isSome) {label : Text}
    (hlabel : label.isEmpty = false) : (p.scriptLine file label).Gives (.ok 0) [.diagnosed d] := by
  obtain ⟨dialect, hdialect⟩ := Option.isSome_iff_exists.1 hscript
  unfold scriptLine
  rw [hdialect]
  simp only [hlabel, Bool.false_eq_true, if_false]
  exact gives_readWith h _ _

/-- A script that cannot be read has no labels. -/
theorem gives_scriptLabels (hscript : (Script.Dialect.ofPath? (.ofText file)).isSome) :
    (p.scriptLabels file).Gives (.ok []) [.diagnosed d] := by
  obtain ⟨dialect, hdialect⟩ := Option.isSome_iff_exists.1 hscript
  unfold scriptLabels
  rw [hdialect]
  exact gives_readWith h _ _

theorem gives_readText : (p.readText file).Gives (.error (.file (.unreadable d))) [] := Work.gives_error h

end Project

/-! ## The commands -/

namespace Command

variable {p : Project} {file : Text} {d : Diagnostic}

/-- **What a command gives whose file cannot be read.** -/
theorem gives_answer_unreadable (stdin : StandardInput) {c : Command} (hreads : c.reads? = some file)
    (h : p.text? file = .error (.unreadable d)) :
    (c.answer p stdin).Gives (c.resultUnreadable d) (c.noticesUnreadable d) := by
  cases c with
  | defines _ names asPatterns =>
    cases hreads
    cases asPatterns with
    | true => exact (Project.gives_evaluateDefines h true names).answering rfl
    | false => exact (Project.gives_definesByName h names).answering rfl
  | defineNames _ patterns =>
    cases hreads
    exact (Project.gives_defineNames h patterns).answering rfl
  | evaluate expression header =>
    obtain ⟨rfl, hfile⟩ := Option.filter_eq_some_iff.1 hreads
    have hne : file ≠ standardInput := of_decide_eq_true hfile
    have hover : (evaluateOver p stdin expression (some file)).Gives (.error (.file (.unreadable d))) [] := by
      unfold evaluateOver Project.header
      simp only
      rw [if_neg hne]
      exact (Project.gives_readText h).bind_error
    exact hover.bind_error
  | array _ label =>
    cases hreads
    cases label with
    | none => exact (Project.gives_readWith h _ _).answering rfl
    | some label => exact (Project.gives_readWith h _ _).answering rfl
  | namedArray _ label =>
    cases hreads
    cases label with
    | none => exact (Project.gives_indexedArray h []).answering rfl
    | some label => exact (Project.gives_indexedArray h label).answering rfl
  | incbin _ label asArray =>
    cases hreads
    cases label with
    | none =>
      cases asArray with
      | true => exact (Project.gives_readWith h _ _).answering rfl
      | false => exact (Project.gives_readWith h _ _).answering rfl
    | some label =>
      cases asArray with
      | true => exact (Project.gives_readWith h _ _).answering rfl
      | false => exact (Project.gives_readWith h _ _).answering rfl
  | struct _ label members =>
    obtain ⟨hmembers, heq⟩ := Option.ite_none_right_eq_some.1 hreads
    cases heq
    obtain ⟨names, hnames⟩ : ∃ names, readMembers members = .ok names := by
      cases hm : readMembers members with
      | ok names => exact ⟨names, rfl⟩
      | error e =>
        rw [hm] at hmembers
        cases hmembers
    exact (Work.gives_ok hnames).silently ((Project.gives_readWith h _ _).answering rfl)
  | scriptLine _ label =>
    obtain ⟨hscript, heq⟩ := Option.ite_none_right_eq_some.1 hreads
    cases heq
    obtain ⟨hdialect, hlabel⟩ := Bool.and_eq_true_iff.1 hscript
    exact (Project.gives_scriptLine h hdialect (by simpa using hlabel)).answering rfl
  | asm _ label macros =>
    cases hreads
    cases label with
    | none => exact (Project.gives_readWith h _ _).answering rfl
    | some label =>
      cases macros with
      | true => exact (Project.gives_macrosUnder h label).answering rfl
      | false => exact (Project.gives_valuesUnder h label).answering rfl
  | scriptLabels _ =>
    obtain ⟨hscript, heq⟩ := Option.ite_none_right_eq_some.1 hreads
    cases heq
    exact (Project.gives_scriptLabels h hscript).answering rfl

end Command

/-! ## The exit -/

/-- **A file that cannot be read fails a command line just when its command passes that on**; all other commands answer
as if there were nothing to answer, with exit code 0. -/
theorem runArguments_unreadable {disk : Disk} {stdin : StandardInput} {args : List Text} {i : Invocation} {p : Project}
    {file : Text} {d : Diagnostic} (hargs : Invocation.read args = .ok i) (hopens : i.Opens disk p)
    (hreads : i.command.reads? = some file) (hfile : p.text? file = .error (.unreadable d)) :
    ∃ exit, runArguments disk stdin args = (.ok exit, i.command.noticesUnreadable d) ∧
      (exit = ⟨1, .text [], .text (i.failureText d)⟩ ↔ i.command.passesOn) ∧
      (¬ i.command.passesOn → exit = ⟨0, .text (i.command.emptyAnswer.printed i.format), .text []⟩) := by
  have hgives := Command.gives_answer_unreadable stdin hreads hfile
  unfold runArguments
  rw [hargs]
  simp only
  obtain ⟨root, defines, format, c⟩ := i
  cases c with
  | evaluate expression header =>
    exact ⟨_, Invocation.run_of_fault hopens hgives rfl, iff_of_true rfl rfl, fun h => absurd rfl h⟩
  | defines | defineNames | namedArray =>
    exact ⟨_, Invocation.run_of_diagnostic hopens hgives, iff_of_true rfl rfl, fun h => absurd rfl h⟩
  | array | incbin | struct | scriptLine | asm | scriptLabels =>
    refine ⟨_, Invocation.run_of_answer hopens hgives, iff_of_false (fun h => ?_) Bool.false_ne_true, fun _ => rfl⟩
    exact absurd (congrArg Exit.code h) Nat.zero_ne_one

/-- A disk without files. -/
def emptyDisk : Disk := FileSet.disk {}

/-- The diagnostic about a file that is not there. -/
def notFoundAt (file : Text) : Diagnostic := .ofReadFault file .notFound

/-- The named array of a file that is not there: the failure is all that is printed. -/
theorem runArguments_unreadable_namedArray :
    ∃ exit, runArguments emptyDisk (.text []) (["named-array", "missing.c", "gFoo"].map String.toList) =
        (.ok exit, [.diagnosed (notFoundAt "missing.c".toList)]) ∧
      exit = ⟨1, .text [], .text "missing.c: read: No such file or directory\n".toList⟩ := by
  have hargs : Invocation.read (["named-array", "missing.c", "gFoo"].map String.toList) =
      .ok ⟨['.'], [], .human, .namedArray "missing.c".toList (some "gFoo".toList)⟩ := by cbv
  have hopens : Invocation.Opens emptyDisk ⟨['.'], [], .human, .namedArray "missing.c".toList (some "gFoo".toList)⟩
      ⟨emptyDisk, .ofText ['.'], "utf-8".toList, []⟩ := ⟨⟨['.'], "utf-8".toList, [], .human⟩, rfl, rfl⟩
  have hfile : Project.text? ⟨emptyDisk, .ofText ['.'], "utf-8".toList, []⟩ "missing.c".toList =
      .error (.unreadable (notFoundAt "missing.c".toList)) := by cbv
  have htext : (notFoundAt "missing.c".toList).printed .human =
      "missing.c: read: No such file or directory\n".toList := by decide +kernel
  obtain ⟨exit, hrun, htold, -⟩ := @runArguments_unreadable _ (.text []) _ _ _ _ _ hargs hopens rfl hfile
  exact ⟨exit, hrun, (htold.2 rfl).trans (htext ▸ rfl)⟩

/-- The plain array of the same file, and the line of a label in a script that is not there, come with exit code 0. -/
theorem runArguments_unreadable_array :
    runArguments emptyDisk (.text []) (["array", "missing.c", "gFoo"].map String.toList) =
        (.ok ⟨0, .text [], .text []⟩, [.diagnosed (notFoundAt "missing.c".toList)]) ∧
      runArguments emptyDisk (.text []) (["script-line", "missing.inc", "Start"].map String.toList) =
        (.ok ⟨0, .text ['0', '\n'], .text []⟩, [.diagnosed (notFoundAt "missing.inc".toList)]) := by
  constructor
  · cbv
  · cbv

end GameSource
