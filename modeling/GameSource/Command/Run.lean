import GameSource.Command.Answer
import GameSource.Command.Invocation
import GameSource.Project
/-!
# Running a command

A command line, the disk and what standard input holds give what is printed, the exit code and the notices: code 0 for
an answer or for help, 1 for a diagnostic or an unreadable file, and 2 for arguments that make no sense.
-/
namespace GameSource

/-! ## Members of structs -/

/-- The number that decimal digits of any system stand for. -/
def readIndex (ds : Text) : Except Fault Nat :=
  let lead := ds.takeWhile isDecimal
  if digitLimit < lead.length then .error (.digits (.reading lead.length))
  else if lead.length < ds.length then .error (.badIndex ds)
  else .ok (natOfDecimals ds)

/-- The place and the name that a member `INDEX=NAME` gives. -/
def readMember (member : Text) : Except Fault (Nat × Text) :=
  let index := member.takeWhile (· != '=')
  let name := (member.dropWhile (· != '=')).drop 1
  if index.isEmpty || !index.all isDigit || name.isEmpty then .error (.badMember member)
  else (readIndex index).map fun n => (n, name)

/-- The names of members by place; the last one of a place stands. -/
def readMembers (members : List Text) : Except Fault (Entries Nat Text) :=
  (members.mapM readMember).map Entries.ofList

/-! ## Commands -/

/-- The text of a header, which may be standard input. -/
def Project.header (p : Project) (stdin : StandardInput) (file : Text) : Work Text :=
  if file = standardInput then Work.ofExcept .file stdin.text? else p.readText file

/-- The value of an expression over the defines of a header. -/
def evaluateOver (p : Project) (stdin : StandardInput) (expression : Text) (file : Option Text) : Work Int := do
  let text ← match file with
    | none => pure []
    | some file => p.header stdin file
  let expressions := if text.isEmpty then [] else (DefineTable.ofSource (.names []) text).expressions
  let filename := match file with
    | none | some [] => "<expression>".toList
    | some file => file
  let (value, session) := evaluateIn (.start expressions p.known (bareText text) filename) expression
  Work.tell session.notices
  Work.ofExcept .digits value

/-- What a command answers, and the diagnostic about its file if it has one. -/
def Command.answer (p : Project) (stdin : StandardInput) : Command → Work (Answer × Option Diagnostic)
  | defines file names asPatterns => do
    let (values, d) ← if asPatterns then p.definesByPattern file names else p.definesByName file names
    return (.numbers values, d)
  | defineNames file patterns => do
    let (names, d) ← p.defineNames file patterns
    return (.words names, d)
  | evaluate expression file => return (.number (← evaluateOver p stdin expression file), none)
  | array file none => return (.lists (← p.arrays file), none)
  | array file (some label) => return (.words (← p.array file label), none)
  | namedArray file label => do
    let (rows, d) ← p.indexedArray file (label.getD [])
    if label.isNone && d.isNone then Work.stop .noLabel
    return (.texts rows, d)
  | incbin file label true => return (.words (← p.incbinArray file (label.getD [])), none)
  | incbin file none false => return (.texts (← p.incbins file), none)
  | incbin file (some label) false => return (.word (← p.incbin file label), none)
  | struct file label members => do
    let names ← Work.ofExcept id (readMembers members)
    return (.structs (← p.structs file label names.find?), none)
  | scriptLine file label => return (.number (← p.scriptLine file label), none)
  | asm file none _ => return (.rows (← p.asmRows file), none)
  | asm file (some label) true => return (.rows (← p.macrosUnder file label), none)
  | asm file (some label) false => return (.words (← p.valuesUnder file label), none)
  | scriptLabels file => return (.words (← p.scriptLabels file), none)

/-- The file that a command reads.  Standard input is none. -/
def Command.file? : Command → Option Text
  | evaluate _ file => file.filter (· ≠ standardInput)
  | defines file _ _ | defineNames file _ | array file _ | namedArray file _ | incbin file _ _ | struct file _ _
  | scriptLine file _ | asm file _ _ | scriptLabels file => some file

/-- Whether a command reads standard input. -/
def Command.readsInput : Command → Bool
  | evaluate _ (some file) => file == standardInput
  | _ => false

/-! ## Exits -/

/-- What is printed to one of the two streams. -/
inductive Printed where
  | text (t : Text)
  /-- How the program is used. -/
  | usage
  deriving DecidableEq, Repr

structure Exit where
  code : Nat
  stdout : Printed
  stderr : Printed
  deriving DecidableEq, Repr

/-- Whether a fault is told as an error of the command line.  The others leave the program as they are. -/
def Fault.isTold : Fault → Bool
  | label _ | noLabel | file (.badEncoding ..) => false
  | pattern e => e.fault.cause != .repeatTooLarge
  | _ => true

/-- The exit code of a fault: 1 for an unreadable file, else 2. -/
def Fault.code : Fault → Nat
  | file (.unreadable _) => 1
  | _ => 2

/-- The name under which the program speaks. -/
def programName : String := "symscan"

/-- What a fault prints. -/
def Fault.exit (e : Fault) : Exit :=
  ⟨e.code, .text [], .text ((programName ++ ": error: " ++ e.message).toList ++ ['\n'])⟩

/-- The exit of an invocation. -/
def Invocation.run (disk : Disk) (stdin : StandardInput) (i : Invocation) : Except Fault Exit × List Notice :=
  let work : Work (Answer × Option Diagnostic) := do
    let options ← Work.ofExcept .option (Options.read i.root "utf-8".toList i.defines i.format.name)
    let project ← Work.ofExcept .option (Project.open? disk options)
    i.command.answer project stdin
  match work.collect with
  | (.error e, notices) => (if e.isTold then .ok e.exit else .error e, notices)
  | (.ok (_, some d), notices) => (.ok ⟨1, .text [], .text (d.printed i.format)⟩, notices)
  | (.ok (a, none), notices) => (.ok ⟨0, .text (a.printed i.format), .text []⟩, notices)

/-- The exit of a command line. -/
def runArguments (disk : Disk) (stdin : StandardInput) (args : List Text) : Except Fault Exit × List Notice :=
  match Invocation.read args with
  | .error .help => (.ok ⟨0, .usage, .text []⟩, [])
  | .error .misuse => (.ok ⟨2, .text [], .usage⟩, [])
  | .ok i => i.run disk stdin

end GameSource
