import GameSource.Proofs.Command.Unreadable
import GameSource.Proofs.Files.Opened
import GameSource.Proofs.Members
/-!
# Which fault stops a command

A command reads its file first, and what can stop it then is said by its arguments and the text (`Command.fault?`).  No
fault arises elsewhere (`Command.ends_answer`), so the exit of an invocation follows from that fault alone
(`Invocation.run_of_opens`).
-/
namespace GameSource

/-! ## Faults of work -/

/-- What stopped a computation, if anything did. -/
def faultOf {ε α : Type} : Except ε α → Option ε
  | .ok _ => none
  | .error e => some e

theorem faultOf_map {ε α β : Type} (f : α → β) (x : Except ε α) : faultOf (x.map f) = faultOf x := by
  cases x <;> rfl

namespace Work

variable {α β : Type}

/-- The work is stopped by the fault, or by none, whatever notices it gives. -/
def Ends (w : Work α) (e : Option Fault) : Prop := ∃ r ns, w.Gives r ns ∧ faultOf r = e

theorem Gives.ends {w : Work α} {r : Except Fault α} {ns : List Notice} (h : w.Gives r ns) : w.Ends (faultOf r) :=
  ⟨r, ns, h, rfl⟩

theorem ends_pure (a : α) : (pure a : Work α).Ends none := (gives_pure a).ends

theorem ends_stop (e : Fault) : (stop e : Work α).Ends (some e) := (gives_stop e).ends

theorem ends_ofExcept {ε : Type} (fault : ε → Fault) (x : Except ε α) :
    (ofExcept fault x).Ends ((faultOf x).map fault) := by
  cases x with
  | ok a => exact ends_pure a
  | error e => exact ends_stop (fault e)

/-- What is behind work that succeeds may stop it. -/
theorem Gives.ends_bind {w : Work α} {f : α → Work β} {a : α} {ns : List Notice} {e : Option Fault}
    (hw : w.Gives (.ok a) ns) (hf : (f a).Ends e) : (w >>= f).Ends e := by
  obtain ⟨r, ns', hr, he⟩ := hf
  exact ⟨r, ns ++ ns', hw.bind hr, he⟩

/-- What is behind work and cannot be stopped changes nothing. -/
theorem Ends.bind {w : Work α} {f : α → Work β} {e : Option Fault} (hw : w.Ends e) (hf : ∀ a, (f a).Ends none) :
    (w >>= f).Ends e := by
  obtain ⟨r, ns, hr, rfl⟩ := hw
  cases r with
  | error e => exact hr.bind_error.ends
  | ok a => exact hr.ends_bind (hf a)

end Work

/-! ## Reading files -/

namespace Project

/-- What stops work on a file: why there is no text, but for a file that cannot be read, or the fault of the text. -/
def faultReading (p : Project) (file : Text) (fault? : Text → Option Fault) : Option Fault :=
  match p.text? file with
  | .ok text => fault? text
  | .error (.unreadable _) => none
  | .error e => some (.file e)

variable {p : Project} {file : Text} {α : Type}

theorem ends_tryRead {fault? : Text → Option Fault} {f : Except Diagnostic Text → Work α}
    (hread : ∀ text, (f (.ok text)).Ends (fault? text)) (hunread : ∀ d, (f (.error d)).Ends none) :
    (p.tryRead file >>= f).Ends (p.faultReading file fault?) := by
  unfold faultReading
  cases h : p.text? file with
  | ok text =>
    have hgives : (p.tryRead file).Gives (.ok (.ok text)) [] := by
      unfold tryRead
      rw [h]
      exact Work.gives_pure _
    exact hgives.ends_bind (hread text)
  | error e =>
    cases e with
    | unreadable d => exact (gives_tryRead h).ends_bind (hunread d)
    | badEncoding | nullInPath | nullInEncoding | undecodableInput =>
      have hgives (e : Fault) : (Work.stop e >>= f).Ends (some e) := (Work.gives_stop e).bind_error.ends
      unfold tryRead
      rw [h]
      exact hgives _

theorem ends_readWith {empty : α} {fault? : Text → Option Fault} {f : Text → Work α}
    (hread : ∀ text, (f text).Ends (fault? text)) :
    (p.readWith file empty f).Ends (p.faultReading file fault?) :=
  ends_tryRead hread fun _ => Work.ends_pure _

/-- A reader that only computes is stopped by the file only. -/
theorem ends_readWith_pure {empty : α} {f : Text → α} :
    (p.readWith file empty fun text => return f text).Ends (p.faultReading file fun _ => none) :=
  ends_readWith fun _ => Work.ends_pure _

/-! ## Readers that a text can stop -/

/-- What stops work on defines: a filter that cannot be read, unless only its form is bad, or what the filter comes
to. -/
def filterFault (asPatterns : Bool) (filters : List Text) (fault? : DefineFilter → Option Fault) : Option Fault :=
  match DefineFilter.read asPatterns filters with
  | .error e => if e.fault.cause.isForm then none else some (.pattern e)
  | .ok filter => fault? filter

theorem ends_scan {asPatterns : Bool} {filters : List Text} {fault? : Text → DefineFilter → Option Fault}
    {f : Except Diagnostic (Text × DefineTable) → Work α}
    (hread : ∀ text filter, (f (.ok (text, .ofSource filter text))).Ends (fault? text filter))
    (hunread : ∀ d, (f (.error d)).Ends none) :
    (p.scan file asPatterns filters >>= f).Ends
      (p.faultReading file fun text => filterFault asPatterns filters (fault? text)) := by
  unfold scan
  rw [bind_assoc]
  refine ends_tryRead (fun text => ?_) fun d => (Work.gives_pure _).ends_bind (hunread d)
  unfold filterFault
  cases DefineFilter.read asPatterns filters with
  | ok filter => exact (Work.gives_pure _).ends_bind (hread text filter)
  | error e =>
    simp only
    cases he : e.fault.cause.isForm with
    | true =>
      have htold (d : Diagnostic) : (do
          Work.tell [.diagnosed d]
          return .error d : Work (Except Diagnostic (Text × DefineTable))).Gives (.ok (.error d)) [.diagnosed d] :=
        (Work.gives_tell _).answering rfl
      exact (htold _).ends_bind (hunread _)
    | false => exact (Work.gives_stop _).bind_error.bind_error.ends

/-- What stops the evaluation of the defines of a text. -/
def valuesFault (known : Entries Text Int) (file text : Text) (filter : DefineFilter) : Option Fault :=
  (faultOf ((DefineTable.ofSource filter text).evaluate known (bareText text) file).1).map .digits

theorem ends_evaluateDefines {asPatterns : Bool} {filters : List Text} :
    (p.evaluateDefines file asPatterns filters).Ends
      (p.faultReading file fun text => filterFault asPatterns filters (valuesFault p.known file text)) :=
  ends_scan (fun _ _ => (Work.gives_tell _).ends_bind ((Work.ends_ofExcept .digits _).bind fun _ => Work.ends_pure _))
    fun _ => Work.ends_pure _

theorem ends_definesByName {names : List Text} :
    (p.definesByName file names).Ends
      (p.faultReading file fun text => filterFault false names (valuesFault p.known file text)) := by
  refine ends_evaluateDefines.bind ?_
  rintro ⟨values, d⟩
  cases d with
  | none => exact (Work.gives_tell _).ends_bind (Work.ends_pure _)
  | some d => exact (Work.gives_pure _).ends_bind (Work.ends_pure _)

end Project

/-! ## Commands -/

/-- The text of a header, or why there is none. -/
def Project.header? (p : Project) (stdin : StandardInput) (file : Text) : Except OpenFault Text :=
  if file = standardInput then stdin.text? else p.text? file

theorem Project.header_eq (p : Project) (stdin : StandardInput) (file : Text) :
    p.header stdin file = .ofExcept .file (p.header? stdin file) := by
  unfold header header?
  split <;> rfl

/-- What stops the evaluation of an expression over the defines of a text. -/
def expressionFault (p : Project) (expression filename text : Text) : Option Fault :=
  let expressions := if text.isEmpty then [] else (DefineTable.ofSource (.names []) text).expressions
  (faultOf (evaluateIn (.start expressions p.known (bareText text) filename) expression).1).map .digits

namespace Command

/-- What stops a command. -/
def fault? (p : Project) (stdin : StandardInput) : Command → Option Fault
  | defines file names asPatterns => p.faultReading file fun text =>
      Project.filterFault asPatterns names (Project.valuesFault p.known file text)
  | defineNames file patterns => p.faultReading file fun _ => Project.filterFault true patterns fun _ => none
  | evaluate expression none => expressionFault p expression "<expression>".toList []
  | evaluate expression (some file) =>
    match p.header? stdin file with
    | .ok text => expressionFault p expression (if file.isEmpty then "<expression>".toList else file) text
    | .error e => some (.file e)
  | namedArray file label => p.faultReading file fun _ => if label.isNone then some .noLabel else none
  | struct file label members =>
    match readMembers members with
    | .error e => some e
    | .ok names =>
      p.faultReading file fun text => (faultOf (Initializer.structs text label names.find? file).1).map .brackets
  | asm file (some label) _ =>
    p.faultReading file fun text => (faultOf (Asm.macrosUnder (Asm.rows text) label)).map .label
  | array file _ | incbin file _ _ | asm file none _ => p.faultReading file fun _ => none
  | c@(scriptLine ..) | c@(scriptLabels _) => c.reads?.bind fun file => p.faultReading file fun _ => none

/-- **A command is stopped by what its arguments, its file and its text come to, and by nothing else.** -/
theorem ends_answer (p : Project) (stdin : StandardInput) (c : Command) : (c.answer p stdin).Ends (c.fault? p stdin) := by
  cases c with
  | defines file names asPatterns =>
    cases asPatterns with
    | true => exact Project.ends_evaluateDefines.bind fun _ => Work.ends_pure _
    | false => exact Project.ends_definesByName.bind fun _ => Work.ends_pure _
  | defineNames file patterns =>
    have hnames : (p.defineNames file patterns).Ends
        (p.faultReading file fun _ => Project.filterFault true patterns fun _ => none) :=
      Project.ends_scan (fun _ _ => Work.ends_pure _) fun _ => Work.ends_pure _
    exact hnames.bind fun _ => Work.ends_pure _
  | evaluate expression header =>
    have hvalue (w : Except DigitLimit Int × Session) :
        (do Work.tell w.2.notices; Work.ofExcept .digits w.1 : Work Int).Ends ((faultOf w.1).map .digits) :=
      (Work.gives_tell _).ends_bind (Work.ends_ofExcept .digits _)
    cases header with
    | none => exact (hvalue _).bind fun _ => Work.ends_pure _
    | some file =>
      refine Work.Ends.bind ?_ fun _ => Work.ends_pure _
      unfold evaluateOver
      simp only [fault?, Project.header_eq]
      cases htext : p.header? stdin file with
      | ok text =>
        refine (Work.gives_ok rfl).ends_bind ?_
        cases file with
        | nil => exact hvalue _
        | cons c cs => exact hvalue _
      | error e => exact (Work.gives_error rfl).bind_error.ends
  | array file label =>
    cases label with
    | none => exact Project.ends_readWith_pure.bind fun _ => Work.ends_pure _
    | some label => exact Project.ends_readWith_pure.bind fun _ => Work.ends_pure _
  | namedArray file label =>
    simp only [answer, Project.indexedArray, bind_assoc]
    refine Project.ends_tryRead (fun text => (Work.gives_pure _).ends_bind ?_) fun d => (Work.gives_pure _).ends_bind ?_
    · cases label with
      | none => exact (Work.gives_stop _).bind_error.ends
      | some label => exact Work.ends_pure _
    · cases label with
      | none => exact Work.ends_pure _
      | some label => exact Work.ends_pure _
  | incbin file label asArray =>
    cases asArray with
    | true => exact Project.ends_readWith_pure.bind fun _ => Work.ends_pure _
    | false =>
      cases label with
      | none => exact Project.ends_readWith_pure.bind fun _ => Work.ends_pure _
      | some label => exact Project.ends_readWith_pure.bind fun _ => Work.ends_pure _
  | struct file label members =>
    simp only [fault?]
    cases hmembers : readMembers members with
    | error e =>
      have hstop : (Work.ofExcept id (readMembers members)).Gives (.error e) [] := Work.gives_error hmembers
      exact hstop.bind_error.ends
    | ok names =>
      have hread : (p.structs file label names.find?).Ends (p.faultReading file fun text =>
          (faultOf (Initializer.structs text label names.find? file).1).map .brackets) :=
        Project.ends_readWith fun text => (Work.gives_tell _).ends_bind (Work.ends_ofExcept .brackets _)
      exact (Work.gives_ok hmembers).ends_bind (hread.bind fun _ => Work.ends_pure _)
  | scriptLine file label =>
    refine Work.Ends.bind ?_ fun _ => Work.ends_pure _
    unfold Project.scriptLine
    simp only [fault?, reads?]
    rcases Option.eq_none_or_eq_some (Script.Dialect.ofPath? (.ofText file)) with hnone | ⟨dialect, hdialect⟩
    · rw [hnone]
      exact Work.ends_pure 0
    · rw [hdialect]
      cases hlabel : label.isEmpty with
      | true => exact Work.ends_pure 0
      | false => exact Project.ends_readWith_pure
  | asm file label macros =>
    cases label with
    | none => exact Project.ends_readWith_pure.bind fun _ => Work.ends_pure _
    | some label =>
      cases macros with
      | true =>
        simp only [answer, Project.macrosUnder, Project.asmRows, Project.readWith, bind_assoc]
        refine Project.ends_tryRead (fun text => ?_) fun d => ?_
        · exact (Work.gives_pure _).ends_bind ((Work.ends_ofExcept .label _).bind fun _ => Work.ends_pure _)
        · exact (Work.gives_pure _).ends_bind (Work.ends_pure _)
      | false =>
        have hvalues (text : Text) : faultOf (Asm.valuesUnder (Asm.rows text) label) =
            faultOf (Asm.macrosUnder (Asm.rows text) label) := faultOf_map _ _
        simp only [answer, fault?, Project.valuesUnder, Project.asmRows, Project.readWith, bind_assoc, ← hvalues]
        refine Project.ends_tryRead (fun text => ?_) fun d => ?_
        · exact (Work.gives_pure _).ends_bind ((Work.ends_ofExcept .label _).bind fun _ => Work.ends_pure _)
        · exact (Work.gives_pure _).ends_bind (Work.ends_pure _)
  | scriptLabels file =>
    refine Work.Ends.bind ?_ fun _ => Work.ends_pure _
    unfold Project.scriptLabels
    simp only [fault?, reads?]
    rcases Option.eq_none_or_eq_some (Script.Dialect.ofPath? (.ofText file)) with hnone | ⟨dialect, hdialect⟩
    · rw [hnone]
      exact Work.ends_pure []
    · rw [hdialect]
      exact Project.ends_readWith_pure

end Command

/-! ## Members -/

/-- Members that make no sense are refused. -/
theorem readMembers_refused {members : List Text} {e : Fault} (h : readMembers members = .error e) :
    e.isTold ∧ e.code = 2 := by
  have hmapM : members.mapM readMember = .error e := by
    unfold readMembers at h
    cases hm : members.mapM readMember <;> rw [hm] at h <;> cases h
    rfl
  obtain ⟨before, member, after, -, -, hmember⟩ := mapM_eq_error_iff.1 hmapM
  unfold readMember at hmember
  simp only at hmember
  split at hmember
  · cases hmember
    exact ⟨rfl, rfl⟩
  · unfold readIndex at hmember
    simp only at hmember
    split at hmember
    · cases hmember
      exact ⟨rfl, rfl⟩
    · split at hmember
      · cases hmember
        exact ⟨rfl, rfl⟩
      · cases hmember

/-! ## Exits -/

theorem Fault.code_le (e : Fault) : e.code ≤ 2 := by
  unfold code
  split <;> decide

namespace Invocation

variable {disk : Disk} {i : Invocation} {p : Project}

/-- The options of an invocation are valid, and these are the values known beforehand. -/
def Knows (i : Invocation) (known : Entries Text Int) : Prop :=
  ∃ o, Options.read i.root "utf-8".toList i.defines i.format.name = .ok o ∧ o.values = .ok known

theorem Knows.options {o : Options} (h : Options.read i.root "utf-8".toList i.defines i.format.name = .ok o) :
    o.root = i.root ∧ o.encoding = "utf-8".toList := by
  unfold Options.read at h
  cases hformat : OutputFormat.ofName? i.format.name with
  | none =>
    rw [hformat] at h
    cases h
  | some format =>
    rw [hformat] at h
    cases hdefines : i.defines.mapM readDefine with
    | error e =>
      rw [hdefines] at h
      cases h
    | ok defines =>
      rw [hdefines] at h
      cases h
      exact ⟨rfl, rfl⟩

/-- The project of an invocation on a disk: below its root, with files in UTF-8 and the values known. -/
def project (i : Invocation) (known : Entries Text Int) (disk : Disk) : Project :=
  ⟨disk, .ofText i.root, "utf-8".toList, known⟩

/-- Whether there is a null character in the path of a file. -/
def nullIn (i : Invocation) (file : Text) : Bool :=
  ((Path.ofText i.root).join (.ofText file)).text.contains '\x00'

/-- A file of an invocation has no text because of a null character in its path, or because it is unreadable. -/
theorem text?_eq_error {known : Entries Text Int} {file : Text} {e : OpenFault}
    (h : (i.project known disk).text? file = .error e) :
    (i.nullIn file = true ∧ e = .nullInPath) ∨ (i.nullIn file = false ∧ ∃ d, e = .unreadable d) := by
  have hencoding : "utf-8".toList.contains '\x00' = false := by decide
  cases readText_eq_error_iff.1 h with
  | nullInEncoding henc => exact absurd henc (Bool.eq_false_iff.1 hencoding)
  | nullInPath _ hp => exact .inl ⟨hp, rfl⟩
  | codec _ _ _ hcodec => cases (disk.codec_of_ofName? ofName?_utf8).symm.trans hcodec
  | bytes _ hp => exact .inr ⟨hp, _, rfl⟩
  | decoding _ hp => exact .inr ⟨hp, _, rfl⟩

/-- **An invocation opens its project** on every disk, if its options are valid. -/
theorem opens_iff : i.Opens disk p ↔ ∃ known, i.Knows known ∧ p = i.project known disk := by
  have hopen (o : Options) (known : Entries Text Int) (h : o.values = .ok known) :
      Project.open? disk o = .ok ⟨disk, .ofText o.root, o.encoding, known⟩ := by
    unfold Project.open?
    rw [h]
    rfl
  constructor
  · rintro ⟨o, hoptions, hproject⟩
    obtain ⟨hroot, hencoding⟩ := Knows.options hoptions
    cases hvalues : o.values with
    | error e =>
      unfold Project.open? at hproject
      rw [hvalues] at hproject
      cases hproject
    | ok known =>
      rw [hopen o known hvalues, hroot, hencoding] at hproject
      exact ⟨known, ⟨o, hoptions, hvalues⟩, (Except.ok.inj hproject).symm⟩
  · rintro ⟨known, ⟨o, hoptions, hvalues⟩, rfl⟩
    obtain ⟨hroot, hencoding⟩ := Knows.options hoptions
    refine ⟨o, hoptions, ?_⟩
    rw [hopen o known hvalues, hroot, hencoding]
    rfl

theorem Knows.opens {known : Entries Text Int} (h : i.Knows known) (disk : Disk) :
    i.Opens disk (i.project known disk) := opens_iff.2 ⟨known, h, rfl⟩

/-- Options that make no sense are refused, whatever is on the disk. -/
theorem run_of_not_opens (h : ¬ ∃ p, i.Opens disk p) (stdin : StandardInput) : ∃ exit,
    (i.run disk stdin).1 = .ok exit ∧ exit.code = 2 := by
  have hstop : ∃ e, (do
      let options ← Work.ofExcept .option (Options.read i.root "utf-8".toList i.defines i.format.name)
      let project ← Work.ofExcept .option (Project.open? disk options)
      i.command.answer project stdin : Work (Answer × Option Diagnostic)).Gives (.error (.option e)) [] := by
    cases hoptions : Options.read i.root "utf-8".toList i.defines i.format.name with
    | error e => exact ⟨e, (Work.gives_error rfl).bind_error⟩
    | ok options =>
      cases hproject : Project.open? disk options with
      | error e => exact ⟨e, (Work.gives_ok rfl).silently (Work.gives_error hproject).bind_error⟩
      | ok p => exact absurd ⟨p, options, hoptions, hproject⟩ h
  obtain ⟨e, he⟩ := hstop
  simp only [run]
  rw [he.collect]
  exact ⟨_, rfl, rfl⟩

/-- **The exit of an invocation**: a fault that is not told leaves the program, one that is told gives its code, and
without a fault the code is 0 or 1. -/
theorem run_of_opens (hopens : i.Opens disk p) (stdin : StandardInput) :
    match i.command.fault? p stdin with
    | none => ∃ exit, (i.run disk stdin).1 = .ok exit ∧ exit.code ≤ 1
    | some e => (i.run disk stdin).1 = if e.isTold then .ok e.exit else .error e := by
  obtain ⟨r, ns, hgives, hfault⟩ := i.command.ends_answer p stdin
  rw [← hfault]
  cases r with
  | error e =>
    simp only [run, faultOf]
    rw [collect_answer hopens hgives]
  | ok answer =>
    obtain ⟨a, d⟩ := answer
    cases d with
    | none =>
      rw [run_of_answer hopens hgives]
      exact ⟨_, rfl, Nat.zero_le 1⟩
    | some d =>
      rw [run_of_diagnostic hopens hgives]
      exact ⟨_, rfl, Nat.le_refl 1⟩

end Invocation

/-- A fault that is not told leaves a command line, and no other. -/
theorem runArguments_eq_error_iff {disk : Disk} {stdin : StandardInput} {args : List Text} {e : Fault} :
    (runArguments disk stdin args).1 = .error e ↔ ∃ i p, Invocation.read args = .ok i ∧ i.Opens disk p ∧
      i.command.fault? p stdin = some e ∧ e.isTold = false := by
  unfold runArguments
  cases hargs : Invocation.read args with
  | error stop => cases stop <;> simp
  | ok i =>
    constructor
    · intro hrun
      by_cases hopens : ∃ p, i.Opens disk p
      · obtain ⟨p, hp⟩ := hopens
        have hexit := Invocation.run_of_opens hp stdin
        cases hfault : i.command.fault? p stdin with
        | none =>
          rw [hfault] at hexit
          obtain ⟨exit, hexit, -⟩ := hexit
          cases hexit.symm.trans hrun
        | some e' =>
          rw [hfault] at hexit
          cases htold : e'.isTold with
          | true =>
            simp only [htold, if_true] at hexit
            cases hexit.symm.trans hrun
          | false =>
            simp only [htold, Bool.false_eq_true, if_false] at hexit
            obtain rfl := Except.error.inj (hexit.symm.trans hrun)
            exact ⟨i, p, rfl, hp, hfault, htold⟩
      · obtain ⟨exit, hexit, -⟩ := Invocation.run_of_not_opens hopens stdin
        cases hexit.symm.trans hrun
    · rintro ⟨i', p, hi, hp, hfault, htold⟩
      cases hi
      have hexit := Invocation.run_of_opens hp stdin
      rw [hfault] at hexit
      simpa only [htold, Bool.false_eq_true, if_false] using hexit

/-- The exit codes are 0, 1 and 2. -/
theorem runArguments_code_le {disk : Disk} {stdin : StandardInput} {args : List Text} {exit : Exit}
    (h : (runArguments disk stdin args).1 = .ok exit) : exit.code ≤ 2 := by
  unfold runArguments at h
  cases hargs : Invocation.read args with
  | error stop =>
    rw [hargs] at h
    cases stop <;> cases h <;> decide
  | ok i =>
    rw [hargs] at h
    simp only at h
    by_cases hopens : ∃ p, i.Opens disk p
    · obtain ⟨p, hp⟩ := hopens
      have hexit := Invocation.run_of_opens hp stdin
      cases hfault : i.command.fault? p stdin with
      | none =>
        rw [hfault] at hexit
        obtain ⟨exit', hexit, hle⟩ := hexit
        obtain rfl := Except.ok.inj (hexit.symm.trans h)
        exact Nat.le_succ_of_le hle
      | some e =>
        rw [hfault] at hexit
        simp only [h] at hexit
        split at hexit
        · cases hexit
          exact e.code_le
        · cases hexit
    · obtain ⟨exit', hexit, hcode⟩ := Invocation.run_of_not_opens hopens stdin
      obtain rfl := Except.ok.inj (hexit.symm.trans h)
      exact Nat.le_of_eq hcode

/-- A disk with one file, whose characters are of one byte each. -/
def diskWith (file text : String) : Disk :=
  (({} : FileSet).write [file.toList] (text.toList.map fun c => .ofNat c.toNat)).disk

end GameSource
