import GameSource.Proofs.Command.Fault
import GameSource.Proofs.Command.OneName
import GameSource.Proofs.Define.Named
import GameSource.Proofs.Files.Lines
import GameSource.Proofs.Initializer.Unclosed
/-!
# What a refusal depends on

Exit code 2 is for arguments that make no sense.  Seven kinds of arguments make sense and can be refused all the same, by
what a file or standard input holds (`Command.Exposed`); each of them is answered, or fails with another code, over
other files or another input.  All other command lines are refused alike, whatever the files and standard input hold
(`runArguments_refuses_iff`).
-/
namespace GameSource

/-! ## Refusals of one run -/

/-- Whether a fault is told with exit code 2. -/
def Fault.refuses (e : Fault) : Bool := e.isTold && e.code == 2

/-- The command line exits with code 2. -/
def Refuses (disk : Disk) (stdin : StandardInput) (args : List Text) : Prop :=
  ∃ exit, (runArguments disk stdin args).1 = .ok exit ∧ exit.code = 2

/-- Whether a command is stopped by a fault that is told with exit code 2. -/
def Command.isRefused (p : Project) (stdin : StandardInput) (c : Command) : Bool := (c.fault? p stdin).any Fault.refuses

namespace Invocation

variable {i : Invocation} {known : Entries Text Int} {disk : Disk} {stdin : StandardInput} {args : List Text}

/-- An invocation whose options are valid is refused if its command is. -/
theorem Knows.refuses_iff (hargs : read args = .ok i) (h : i.Knows known) :
    Refuses disk stdin args ↔ i.command.isRefused (i.project known disk) stdin := by
  have hexit := run_of_opens (h.opens disk) stdin
  unfold Refuses runArguments Command.isRefused
  rw [hargs]
  cases hfault : i.command.fault? (i.project known disk) stdin with
  | none =>
    rw [hfault] at hexit
    obtain ⟨exit, hexit, hcode⟩ := hexit
    refine iff_of_false ?_ Bool.false_ne_true
    rintro ⟨exit', h', hcode'⟩
    obtain rfl := Except.ok.inj (hexit.symm.trans h')
    omega
  | some e =>
    rw [hfault] at hexit
    simp only [Option.any_some, Fault.refuses, hexit]
    cases e.isTold with
    | true => simp [Fault.exit]
    | false => simp

theorem refuses_of_not_knows (hargs : read args = .ok i) (h : ¬ ∃ known, i.Knows known) : Refuses disk stdin args := by
  have hopens : ¬ ∃ p, i.Opens disk p := by
    rintro ⟨p, hp⟩
    obtain ⟨known, hknown, -⟩ := opens_iff.1 hp
    exact h ⟨known, hknown⟩
  unfold Refuses runArguments
  rw [hargs]
  exact run_of_not_opens hopens stdin

end Invocation

/-! ## Files with any text, and without -/

/-- A disk on which no file is found. -/
def noFiles : Disk := { bytes := fun _ => .error .notFound }

namespace Invocation

variable {i : Invocation} {known : Entries Text Int} {file : Text}

theorem text?_of_nullIn (h : i.nullIn file = true) (disk : Disk) :
    (i.project known disk).text? file = .error .nullInPath :=
  (LacksText.nullInPath rfl h).readText_eq

variable (hnull : i.nullIn file = false)
include hnull

/-- Every text whose lines are closed by line feeds is that of the file on some disk. -/
theorem exists_text (known : Entries Text Int) {text : Text} (hclosed : closeLastLine (unifyLineEnds text) = text) :
    ∃ disk, (i.project known disk).text? file = .ok text := by
  obtain ⟨bytes, hbytes⟩ := exists_decode text
  have hholds : FileHolds { bytes := fun _ => .ok bytes } "utf-8".toList
      ((Path.ofText i.root).join (.ofText file)) text :=
    (fileHolds_iff ofName?_utf8).2 ⟨rfl, hnull, bytes, rfl, hbytes⟩
  exact ⟨{ bytes := fun _ => .ok bytes }, (hholds.readText_eq_ok _).trans (congrArg Except.ok hclosed)⟩

theorem exists_unreadable {disk : Disk} {e : OpenFault} (h : (i.project known disk).text? file = .error e) :
    ∃ d, e = .unreadable d := by
  rcases text?_eq_error h with ⟨htrue, -⟩ | ⟨-, hunreadable⟩
  · rw [hnull] at htrue
    cases htrue
  · exact hunreadable

theorem text?_missing (known : Entries Text Int) :
    ∃ d, (i.project known noFiles).text? file = .error (.unreadable d) :=
  ⟨_, (LacksText.bytes rfl hnull rfl).readText_eq⟩

/-- Work on a file is refused just for what the text comes to. -/
theorem refuses_faultReading_iff {disk : Disk} {fault? : Text → Option Fault} :
    ((i.project known disk).faultReading file fault?).any Fault.refuses ↔
      ∃ text, (i.project known disk).text? file = .ok text ∧ (fault? text).any Fault.refuses := by
  unfold Project.faultReading
  cases htext : (i.project known disk).text? file with
  | ok text => simp
  | error e =>
    obtain ⟨d, rfl⟩ := exists_unreadable hnull htext
    simp

end Invocation

/-! ## Refusals by a text -/

/-- **What exposes a command to what its file or standard input holds**: a bracket that is never closed, a long number
behind a name that is asked for and not known, a search pattern with a number that is too large or with flags that
contradict one another, which is read behind the file, a long number in an expression, which is read behind the file
too, and standard input as a header, which may stand for no text. -/
inductive Command.Exposed (known : Entries Text Int) : Command → Prop where
  | brackets {file label : Text} {members : List Text} {names : Entries Nat Text}
      (h : readMembers members = .ok names) : Exposed known (.struct file label members)
  | defined {file name : Text} {names : List Text} {asPatterns : Bool} {filter : DefineFilter}
      (h : DefineFilter.read asPatterns names = .ok filter) (ha : filter.accepts name) (hn : IsName name)
      (hk : known.contains name = false) : Exposed known (.defines file names asPatterns)
  | definesPattern {file : Text} {patterns : List Text} {asPatterns : Bool} {e : BadPattern}
      (h : DefineFilter.read asPatterns patterns = .error e) (hform : e.fault.cause.isForm = false)
      (hlarge : e.fault.cause ≠ .repeatTooLarge) : Exposed known (.defines file patterns asPatterns)
  | namesPattern {file : Text} {patterns : List Text} {e : BadPattern}
      (h : DefineFilter.read true patterns = .error e) (hform : e.fault.cause.isForm = false)
      (hlarge : e.fault.cause ≠ .repeatTooLarge) : Exposed known (.defineNames file patterns)
  | mentioned {expression file : Text} {l : Lexeme} (hshort : HasShortNumbers expression)
      (hl : l ∈ (lexemes expression).1) (hk : l.kind = .identifier) (hu : known.contains l.text = false)
      (hfile : file ≠ standardInput) : Exposed known (.evaluate expression (some file))
  | digits {expression file : Text} (hlong : ¬ HasShortNumbers expression) (hfile : file ≠ standardInput) :
      Exposed known (.evaluate expression (some file))
  | input {expression : Text} (hshort : HasShortNumbers expression) :
      Exposed known (.evaluate expression (some standardInput))

theorem refuses_digits {α : Type} {x : Except DigitLimit α} :
    ((faultOf x).map Fault.digits).any Fault.refuses ↔ ∃ e, x = .error e := by
  cases x <;> simp [faultOf, Fault.refuses, Fault.isTold, Fault.code]

/-- A filter is refused for a pattern that makes no sense, or for what it comes to. -/
theorem refuses_filterFault_iff {asPatterns : Bool} {filters : List Text} {fault? : DefineFilter → Option Fault} :
    (Project.filterFault asPatterns filters fault?).any Fault.refuses ↔
      (∃ e, DefineFilter.read asPatterns filters = .error e ∧ e.fault.cause.isForm = false ∧
        e.fault.cause ≠ .repeatTooLarge) ∨
      ∃ filter, DefineFilter.read asPatterns filters = .ok filter ∧ (fault? filter).any Fault.refuses := by
  unfold Project.filterFault
  cases DefineFilter.read asPatterns filters with
  | ok filter => simp
  | error e =>
    cases hform : e.fault.cause.isForm with
    | true => simp [hform]
    | false => simp [hform, Fault.refuses, Fault.isTold, Fault.code]

/-- What a file without an end of a bracket comes to. -/
theorem structs_leftOpen (label : Text) (names : Nat → Option Text) (filename : Text) :
    (Initializer.structs "(\n".toList label names filename).1 = .error ⟨.unbalanced, ⟨2, 1⟩⟩ := by
  have hlex : Initializer.lex "(\n".toList = .ok ⟨[⟨.punctuator, ['('], ⟨1, 1⟩⟩], ⟨2, 1⟩⟩ := by rfl
  have hread : Initializer.readObjects ⟨2, 1⟩ [⟨.punctuator, ['('], ⟨1, 1⟩⟩] = .error ⟨.unbalanced, ⟨2, 1⟩⟩ := by cbv
  unfold Initializer.structs
  rw [hlex]
  simp only [hread]

namespace Invocation

variable {i : Invocation} {known : Entries Text Int}

/-- What stops a command is said by the text of its file and by the standard input that it reads. -/
theorem fault?_congr {disk disk' : Disk} {stdin stdin' : StandardInput} {c : Command}
    (htext : ∀ file, c.file? = some file → (i.project known disk).text? file = (i.project known disk').text? file)
    (hinput : c.readsInput → stdin = stdin') :
    c.fault? (i.project known disk) stdin = c.fault? (i.project known disk') stdin' := by
  have hreading {file : Text} (hfile : c.file? = some file) (fault? : Text → Option Fault) :
      (i.project known disk).faultReading file fault? = (i.project known disk').faultReading file fault? := by
    unfold Project.faultReading
    rw [htext file hfile]
  cases c with
  | evaluate expression header =>
    cases header with
    | none => rfl
    | some file =>
      have hheader : (i.project known disk).header? stdin file = (i.project known disk').header? stdin' file := by
        unfold Project.header?
        by_cases hfile : file = standardInput
        · rw [if_pos hfile, if_pos hfile, hinput (by simp [Command.readsInput, hfile])]
        · rw [if_neg hfile, if_neg hfile, htext file (by simp [Command.file?, hfile])]
      simp only [Command.fault?]
      rw [hheader]
      rfl
  | struct file label members =>
    simp only [Command.fault?]
    cases readMembers members with
    | error e => rfl
    | ok names => exact hreading rfl _
  | asm file label macros =>
    cases label with
    | none => exact hreading rfl _
    | some label => exact hreading rfl _
  | scriptLine file label =>
    simp only [Command.fault?, Command.reads?]
    split
    · exact hreading rfl _
    · rfl
  | scriptLabels file =>
    simp only [Command.fault?, Command.reads?]
    split
    · exact hreading rfl _
    · rfl
  | defines | defineNames | array | namedArray | incbin => exact hreading rfl _

/-- The values known in a session, constants and those given by options, are words. -/
theorem Knows.isWord (h : i.Knows known) : ∀ e ∈ Session.constants.putAll known, IsWord e.2 := fun e he =>
  (Entries.mem_of_mem_putAll he).elim (isWord_known (h.opens noFiles) e) (Session.isWord_constants e)

/-- Where no name is exposed a table is evaluated, since only known names are asked for. -/
theorem Knows.exists_values (h : i.Knows known) {file text : Text} {names : List Text} {asPatterns : Bool}
    {filter : DefineFilter}
    (hexposed : ¬ Command.Exposed (Session.constants.putAll known) (.defines file names asPatterns)) (hfilter : DefineFilter.read asPatterns names = .ok filter) (filename : Text) :
    ∃ vs, ((DefineTable.ofSource filter text).evaluate known (bareText text) filename).1 = .ok vs := by
  refine DefineTable.evaluate_settled (fun n hn => ?_) h.isWord
  obtain ⟨haccepts, hname⟩ := DefineTable.mem_matched_isName hn
  by_contra hk
  exact hexposed (.defined hfilter haccepts hname (by simpa using hk))

/-- An expression over a file is refused just for what it comes to over the text. -/
theorem isRefused_evaluate_iff {expression file : Text} (hnull : i.nullIn file = false) (hfile : file ≠ standardInput)
    {disk : Disk} {stdin : StandardInput} :
    (Command.evaluate expression (some file)).isRefused (i.project known disk) stdin ↔
      ∃ text, (i.project known disk).text? file = .ok text ∧
        (expressionFault (i.project known disk) expression (if file.isEmpty then "<expression>".toList else file)
          text).any Fault.refuses := by
  unfold Command.isRefused
  simp only [Command.fault?, Project.header?, if_neg hfile]
  generalize expressionFault (i.project known disk) expression
    (if file.isEmpty then "<expression>".toList else file) = fault?
  cases htext : (i.project known disk).text? file with
  | ok text => simp
  | error e =>
    obtain ⟨d, rfl⟩ := exists_unreadable hnull htext
    refine iff_of_false Bool.false_ne_true ?_
    rintro ⟨text, ht, -⟩
    cases ht

/-- An expression over standard input is refused where the input stands for no text, or for what it comes to. -/
theorem isRefused_input_iff {expression : Text} {disk : Disk} {stdin : StandardInput} :
    (Command.evaluate expression (some standardInput)).isRefused (i.project known disk) stdin ↔
      (∃ message, stdin = .undecodable message) ∨
      ∃ text, stdin = .text text ∧
        (expressionFault (i.project known disk) expression standardInput text).any Fault.refuses := by
  have hname : (if standardInput.isEmpty then "<expression>".toList else standardInput) = standardInput := rfl
  unfold Command.isRefused
  simp only [Command.fault?, Project.header?, if_true, hname]
  generalize expressionFault (i.project known disk) expression standardInput = fault?
  cases stdin with
  | text t => simp [StandardInput.text?]
  | undecodable message => exact iff_of_true rfl (.inl ⟨message, rfl⟩)

/-- A command whose path has a null character is refused alike, since nothing is read. -/
theorem isRefused_of_nullIn {c : Command} {file : Text} (hfile : c.file? = some file) (hnull : i.nullIn file = true)
    (disk disk' : Disk) (stdin stdin' : StandardInput) :
    c.isRefused (i.project known disk) stdin = c.isRefused (i.project known disk') stdin' := by
  have hinput : ¬ c.readsInput := by
    intro hinput
    cases c with
    | evaluate expression header =>
      cases header with
      | none => cases hinput
      | some header =>
        obtain rfl : header = standardInput := by simpa [Command.readsInput] using hinput
        cases hfile
    | _ => cases hinput
  have htext (file' : Text) (h' : c.file? = some file') :
      (i.project known disk).text? file' = (i.project known disk').text? file' := by
    obtain rfl : file = file' := Option.some.inj (hfile.symm.trans h')
    rw [text?_of_nullIn hnull, text?_of_nullIn hnull]
  unfold Command.isRefused
  rw [fault?_congr htext fun h => absurd h hinput]

/-- An expression over a header that is not exposed: over standard input it has a long number, which is refused over
every input; over a file it has a value, whatever the text. -/
theorem Knows.isRefused_evaluate_alike (h : i.Knows known) {expression file : Text}
    (hnull : file ≠ standardInput → i.nullIn file = false)
    (hexposed : ¬ Command.Exposed (Session.constants.putAll known) (.evaluate expression (some file)))
    {disk : Disk} {stdin : StandardInput}
    (href : (Command.evaluate expression (some file)).isRefused (i.project known disk) stdin) (disk' : Disk)
    (stdin' : StandardInput) : (Command.evaluate expression (some file)).isRefused (i.project known disk') stdin' := by
  by_cases hfile : file = standardInput
  · subst hfile
    have hlong : ¬ HasShortNumbers expression := fun hshort => hexposed (.input hshort)
    refine isRefused_input_iff.2 ?_
    cases stdin' with
    | text t => exact .inr ⟨t, rfl, refuses_digits.2 (evaluateIn_long hlong _)⟩
    | undecodable message => exact .inl ⟨message, rfl⟩
  · obtain ⟨text, -, hdigits⟩ := (isRefused_evaluate_iff (hnull hfile) hfile).1 href
    obtain ⟨e, he⟩ := refuses_digits.1 hdigits
    have hshort : HasShortNumbers expression := by_contra fun hlong => hexposed (.digits hlong hfile)
    have hsettled : (Task.evaluate "<expression>".toList expression).SettledBy (Session.constants.putAll known) :=
      ⟨hshort, fun l hl hk =>
        by_contra fun hu => hexposed (.mentioned hshort hl hk (Bool.eq_false_iff.2 hu) hfile)⟩
    obtain ⟨v, hv⟩ := evaluateIn_settled (s := .start _ known _ _) hsettled h.isWord
    cases hv.symm.trans he

/-- **A command that is not exposed is refused over all files and all inputs, or over none.** -/
theorem Knows.isRefused_alike (h : i.Knows known) {c : Command}
    (hexposed : (∀ file, c.file? = some file → i.nullIn file = false) → ¬ c.Exposed (Session.constants.putAll known))
    {disk : Disk} {stdin : StandardInput} (href : c.isRefused (i.project known disk) stdin) (disk' : Disk)
    (stdin' : StandardInput) :
    c.isRefused (i.project known disk') stdin' := by
  by_cases hnull : ∀ file, c.file? = some file → i.nullIn file = false
  case neg =>
    obtain ⟨file, hfile, hnull⟩ : ∃ file, c.file? = some file ∧ i.nullIn file = true := by simpa using hnull
    exact isRefused_of_nullIn hfile hnull disk disk' stdin stdin' ▸ href
  have hexposed := hexposed hnull
  -- What no text can bring about is not what the command was refused for.
  have hread {file : Text} (hfile : c.file? = some file) {fault? : Text → Option Fault}
      (hnone : ∀ text, ¬ (fault? text).any Fault.refuses) :
      ¬ ((i.project known disk).faultReading file fault?).any Fault.refuses := by
    rw [refuses_faultReading_iff (hnull file hfile)]
    rintro ⟨text, -, href⟩
    exact hnone text href
  unfold Command.isRefused at href
  cases c with
  | defines file names asPatterns =>
    refine absurd href (hread rfl fun text => ?_)
    rw [refuses_filterFault_iff]
    rintro (⟨e, he, hform, hlarge⟩ | ⟨filter, hfilter, hdigits⟩)
    · exact hexposed (.definesPattern he hform hlarge)
    · obtain ⟨e, he⟩ := refuses_digits.1 hdigits
      obtain ⟨vs, hvs⟩ := h.exists_values hexposed hfilter file
      cases hvs.symm.trans he
  | defineNames file patterns =>
    refine absurd href (hread rfl fun text => ?_)
    rw [refuses_filterFault_iff]
    rintro (⟨e, he, hform, hlarge⟩ | ⟨filter, -, hnone⟩)
    · exact hexposed (.namesPattern he hform hlarge)
    · cases hnone
  | evaluate expression header =>
    cases header with
    | none => exact href
    | some file =>
      exact h.isRefused_evaluate_alike (fun hfile => hnull file (by simp [Command.file?, hfile])) hexposed href disk'
        stdin'
  | struct file label members =>
    simp only [Command.fault?] at href
    cases hmembers : readMembers members with
    | error e =>
      rw [hmembers] at href
      unfold Command.isRefused
      simp only [Command.fault?, hmembers]
      exact href
    | ok names => exact absurd (.brackets hmembers) hexposed
  | namedArray file label =>
    refine absurd href (hread rfl fun text => ?_)
    cases label <;> simp [Fault.refuses, Fault.isTold]
  | asm file label macros =>
    cases label with
    | none => exact absurd href (hread rfl fun text => by simp)
    | some label =>
      refine absurd href (hread rfl fun text => ?_)
      cases Asm.macrosUnder (Asm.rows text) label <;> simp [faultOf, Fault.refuses, Fault.isTold]
  | array | incbin => exact absurd href (hread rfl fun text => by simp)
  | scriptLine file label =>
    simp only [Command.fault?, Command.reads?] at href
    split at href
    · exact absurd href (hread rfl fun text => by simp)
    · cases href
  | scriptLabels file =>
    simp only [Command.fault?, Command.reads?] at href
    split at href
    · exact absurd href (hread rfl fun text => by simp)
    · cases href

/-- Work on a file is refused over one disk if it is refused for a text, and is not over a disk without the file. -/
theorem exists_refuses_faultReading (known : Entries Text Int) {file text : Text} (hnull : i.nullIn file = false)
    (hclosed : closeLastLine (unifyLineEnds text) = text) {fault? : Text → Option Fault}
    (href : (fault? text).any Fault.refuses) :
    (∃ disk, ((i.project known disk).faultReading file fault?).any Fault.refuses) ∧
      ∃ disk, ¬ ((i.project known disk).faultReading file fault?).any Fault.refuses := by
  constructor
  · obtain ⟨disk, htext⟩ := exists_text hnull known hclosed
    exact ⟨disk, (refuses_faultReading_iff hnull).2 ⟨text, htext, href⟩⟩
  · refine ⟨noFiles, fun href => ?_⟩
    obtain ⟨d, hmissing⟩ := text?_missing hnull known
    obtain ⟨text, htext, -⟩ := (refuses_faultReading_iff hnull).1 href
    cases hmissing.symm.trans htext

end Invocation

theorem closeLastLine_nil : closeLastLine (unifyLineEnds []) = [] := rfl

theorem closeLastLine_longHeader {name : Text} (h : IsName name) :
    closeLastLine (unifyLineEnds (longHeader name)) = longHeader name := by
  have hreturn : '\r' ∉ longHeader name := by
    have hname : '\r' ∉ name := fun hc => absurd (h.2 _ hc) (by decide)
    have hdigits : '\r' ∉ longDigits := fun hc => absurd (isDigit_longDigits _ hc) (by decide)
    simp [longHeader, hname, hdigits]
  have hlast : (longHeader name).getLast? = some '\n' := by
    have hcut : longHeader name =
        ('#' :: ("define".toList ++ ([' '] ++ (name ++ ([' '] ++ longDigits))))) ++ ['\n'] := by simp [longHeader]
    rw [hcut, List.getLast?_concat]
  rw [unifyLineEnds_of_not_mem hreturn]
  exact closeLastLine_of_ends (.inr hlast)

namespace Invocation

variable {i : Invocation} {known : Entries Text Int}

/-- Without a header, an expression without long numbers has a value. -/
theorem Knows.evaluateIn_empty (h : i.Knows known) {expression : Text} (hshort : HasShortNumbers expression)
    (filename : Text) : ∃ v, (evaluateIn (.start [] known (bareText []) filename) expression).1 = .ok v := by
  obtain ⟨r, s', hruns⟩ := exists_runs (.evaluate "<expression>".toList expression)
    (.start [] known (bareText []) filename)
  rw [fst_evaluateIn hruns]
  obtain ⟨⟨v, hv, -⟩, -⟩ := hruns.gives hshort
    (.start (by simp) (isWord_known (h.opens noFiles)) _ _)
  exact ⟨v, hv⟩

theorem fault?_defines (file : Text) (names : List Text) (asPatterns : Bool) (stdin : StandardInput) (disk : Disk) :
    (Command.defines file names asPatterns).fault? (i.project known disk) stdin =
      (i.project known disk).faultReading file fun text =>
        Project.filterFault asPatterns names (Project.valuesFault known file text) := rfl

/-- **A command that is exposed is refused over some files and some input, and over others it is not.** -/
theorem Knows.exists_refused (h : i.Knows known) {c : Command}
    (hnull : ∀ file, c.file? = some file → i.nullIn file = false)
    (hexposed : c.Exposed (Session.constants.putAll known)) :
    (∃ disk stdin, c.isRefused (i.project known disk) stdin) ∧
      ∃ disk stdin, ¬ c.isRefused (i.project known disk) stdin := by
  -- For commands that do not read standard input.
  have hreading {file text : Text} {fault? : Text → Option Fault} (hfile : c.file? = some file)
      (hc : ∀ disk, c.fault? (i.project known disk) (.text []) = (i.project known disk).faultReading file fault?)
      (hclosed : closeLastLine (unifyLineEnds text) = text) (href : (fault? text).any Fault.refuses) :
      (∃ disk stdin, c.isRefused (i.project known disk) stdin) ∧
        ∃ disk stdin, ¬ c.isRefused (i.project known disk) stdin := by
    obtain ⟨⟨disk, hrefused⟩, ⟨disk', hanswered⟩⟩ :=
      exists_refuses_faultReading known (hnull file hfile) hclosed href
    refine ⟨⟨disk, .text [], ?_⟩, ⟨disk', .text [], ?_⟩⟩
    · unfold Command.isRefused
      rwa [hc]
    · unfold Command.isRefused
      rwa [hc]
  cases hexposed with
  | @brackets file label members names hmembers =>
    have hc (disk : Disk) : (Command.struct file label members).fault? (i.project known disk) (.text []) =
        (i.project known disk).faultReading file fun text =>
          (faultOf (Initializer.structs text label names.find? file).1).map .brackets := by
      simp only [Command.fault?, hmembers]
    have hclosed : closeLastLine (unifyLineEnds "(\n".toList) = "(\n".toList := by decide
    refine hreading rfl hc hclosed ?_
    rw [structs_leftOpen]
    rfl
  | @defined file name names asPatterns filter hfilter ha hn hk =>
    refine hreading rfl (fault?_defines file names asPatterns (.text [])) (closeLastLine_longHeader hn) ?_
    refine refuses_filterFault_iff.2 (.inr ⟨filter, hfilter, ?_⟩)
    exact refuses_digits.2 (DefineTable.evaluate_longHeader hn hk ha)
  | @definesPattern file patterns asPatterns e he hform hlarge =>
    refine hreading rfl (fault?_defines file patterns asPatterns (.text [])) closeLastLine_nil ?_
    exact refuses_filterFault_iff.2 (.inl ⟨_, he, hform, hlarge⟩)
  | namesPattern he hform hlarge =>
    refine hreading rfl (fun _ => rfl) closeLastLine_nil ?_
    exact refuses_filterFault_iff.2 (.inl ⟨_, he, hform, hlarge⟩)
  | @mentioned expression file l hshort hl hk hu hfile =>
    have hname := isName_of_identifier hl hk
    have hplain : i.nullIn file = false := hnull file (by simp [Command.file?, hfile])
    obtain ⟨disk, hheader⟩ := exists_text hplain known (closeLastLine_longHeader hname)
    obtain ⟨disk', hempty⟩ := exists_text hplain known closeLastLine_nil
    refine ⟨⟨disk, .text [], (isRefused_evaluate_iff hplain hfile).2 ⟨_, hheader, ?_⟩⟩, disk', .text [], fun href => ?_⟩
    · exact refuses_digits.2 ((blocked_longHeader hname hu).evaluateIn hl hk rfl)
    · obtain ⟨text, htext, hdigits⟩ := (isRefused_evaluate_iff hplain hfile).1 href
      cases hempty.symm.trans htext
      obtain ⟨e, he⟩ := refuses_digits.1 hdigits
      obtain ⟨v, hv⟩ := h.evaluateIn_empty hshort _
      cases hv.symm.trans he
  | @digits expression file hlong hfile =>
    have hplain : i.nullIn file = false := hnull file (by simp [Command.file?, hfile])
    obtain ⟨disk, hempty⟩ := exists_text hplain known closeLastLine_nil
    refine ⟨⟨disk, .text [], (isRefused_evaluate_iff hplain hfile).2 ⟨_, hempty, ?_⟩⟩, noFiles, .text [], fun href => ?_⟩
    · exact refuses_digits.2 (evaluateIn_long hlong _)
    · obtain ⟨text, htext, -⟩ := (isRefused_evaluate_iff hplain hfile).1 href
      obtain ⟨d, hmissing⟩ := text?_missing hplain known
      cases hmissing.symm.trans htext
  | @input expression hshort =>
    refine ⟨⟨noFiles, .undecodable "", isRefused_input_iff.2 (.inl ⟨_, rfl⟩)⟩, noFiles, .text [], fun href => ?_⟩
    obtain ⟨message, hmessage⟩ | ⟨text, htext, hdigits⟩ := isRefused_input_iff.1 href
    · cases hmessage
    · cases htext
      obtain ⟨e, he⟩ := refuses_digits.1 hdigits
      obtain ⟨v, hv⟩ := h.evaluateIn_empty hshort _
      cases hv.symm.trans he

end Invocation

/-! ## Refusals of two runs -/

/-- The invocation has a command that is exposed, and a file with a path that can be opened. -/
structure Invocation.Exposed (i : Invocation) (known : Entries Text Int) : Prop where
  file : ∀ file, i.command.file? = some file → i.nullIn file = false
  command : i.command.Exposed (Session.constants.putAll known)

/-- **Whether a command line is refused is said by its arguments alone, just if its command is not exposed.** -/
theorem runArguments_refuses_iff (args : List Text) :
    (∀ disk stdin disk' stdin', Refuses disk stdin args → Refuses disk' stdin' args) ↔
      ∀ i known, Invocation.read args = .ok i → i.Knows known → ¬ i.Exposed known := by
  constructor
  · intro halike i known hargs hknown hexposed
    obtain ⟨⟨disk, stdin, hrefused⟩, ⟨disk', stdin', hanswered⟩⟩ := hknown.exists_refused hexposed.file hexposed.command
    have hrefuses := halike disk stdin disk' stdin' ((hknown.refuses_iff hargs).2 hrefused)
    exact hanswered ((hknown.refuses_iff hargs).1 hrefuses)
  · intro hexposed disk stdin disk' stdin' href
    cases hargs : Invocation.read args with
    | error stop =>
      unfold Refuses runArguments at href ⊢
      rw [hargs] at href ⊢
      cases stop <;> exact href
    | ok i =>
      by_cases hknown : ∃ known, i.Knows known
      · obtain ⟨known, hknown⟩ := hknown
        have hrefused := (hknown.refuses_iff hargs).1 href
        exact (hknown.refuses_iff hargs).2
          (hknown.isRefused_alike (fun hnull hc => hexposed i known hargs hknown ⟨hnull, hc⟩) hrefused disk' stdin')
      · exact Invocation.refuses_of_not_knows hargs hknown

/-- An open bracket in a file of structs is refused as the arguments are, and with an empty file they are not. -/
theorem runArguments_refuses_bracket :
    Refuses (diskWith "data.c" "(\n") (.text []) (["struct", "data.c"].map String.toList) ∧
      ¬ Refuses (diskWith "data.c" "") (.text []) (["struct", "data.c"].map String.toList) := by
  have hargs : Invocation.read (["struct", "data.c"].map String.toList) =
      .ok ⟨['.'], [], .human, .struct "data.c".toList [] []⟩ := by cbv
  have hknown : Invocation.Knows ⟨['.'], [], .human, .struct "data.c".toList [] []⟩ [] :=
    ⟨⟨['.'], "utf-8".toList, [], .human⟩, rfl, rfl⟩
  rw [hknown.refuses_iff hargs, hknown.refuses_iff hargs]
  exact ⟨by cbv, Bool.eq_false_iff.1 (by cbv)⟩

end GameSource
