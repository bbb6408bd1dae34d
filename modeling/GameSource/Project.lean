import GameSource.Asm.Row
import GameSource.Define.Session
import GameSource.Files.Disk
import GameSource.Initializer.Struct
import GameSource.Options
import GameSource.Script.Label
import GameSource.Table.Incbin
import GameSource.Table.Indexed
/-!
# Projects

The readers, applied to the files below the root of a project.  A file that cannot be read is told as a notice and as
a diagnostic, and gives an empty result; only a path or an encoding that makes no sense stops the work (`Fault`).
-/
namespace GameSource

/-! ## What stops the work -/

inductive Fault where
  | file (e : OpenFault)
  | option (e : OptionFault)
  | digits (e : DigitLimit)
  | pattern (e : BadPattern)
  | brackets (e : ParseFault)
  | label (e : Asm.LabelFault)
  /-- A member of a struct that is not given as a number and a name. -/
  | badMember (member : Text)
  /-- Digits that make no number. -/
  | badIndex (digits : Text)
  /-- A label is asked for, and two dashes stand in its place. -/
  | noLabel
  deriving DecidableEq, Repr

namespace Fault

/-- As much of a quoted text as messages show. -/
def shownDigits (digits : Text) : Text := (quoted digits).take 200

def message : Fault → String
  | file e => e.message
  | option e => e.message
  | digits e => e.message
  | pattern e => e.message
  | brackets e => e.message
  | label e => e.message
  | badMember member => "Invalid member mapping: " ++ .ofList member
  | badIndex ds => "invalid literal for int() with base 10: " ++ .ofList (shownDigits ds)
  | noLabel => "decoding to str: need a bytes-like object, list found"

end Fault

/-- Work that gives notices; those given before a fault stay given. -/
abbrev Work := ExceptT Fault (StateM (List Notice))

namespace Work

def tell (ns : List Notice) : Work Unit := modify (· ++ ns)

def stop {α : Type} (e : Fault) : Work α := throw e

/-- Goes on with a result, or stops with its fault. -/
def ofExcept {ε α : Type} (fault : ε → Fault) : Except ε α → Work α
  | .ok a => pure a
  | .error e => stop (fault e)

/-- Runs work, and answers with the notices it gave. -/
def collect {α : Type} (w : Work α) : Except Fault α × List Notice := w.run.run []

end Work

/-! ## Projects -/

structure Project where
  disk : Disk
  root : Path
  encoding : Text
  /-- The values known beforehand. -/
  known : Entries Text Int

namespace Project

/-- The project that options describe. -/
def open? (disk : Disk) (o : Options) : Except OptionFault Project := do
  return ⟨disk, .ofText o.root, o.encoding, ← o.values⟩

def path (p : Project) (filename : Text) : Path := p.root.join (.ofText filename)

/-- The text of a file, or why there is none. -/
def text? (p : Project) (filename : Text) : Except OpenFault Text :=
  readText p.disk p.encoding (p.path filename).text (p.path filename)

/-- The text of a file, which has to be readable. -/
def readText (p : Project) (filename : Text) : Work Text := .ofExcept .file (p.text? filename)

/-- The text of a file, or the diagnostic about an unreadable one, which is told. -/
def tryRead (p : Project) (filename : Text) : Work (Except Diagnostic Text) :=
  match p.text? filename with
  | .ok text => pure (.ok text)
  | .error (.unreadable d) => do
    Work.tell [.diagnosed d]
    return .error d
  | .error e => Work.stop (.file e)

/-- A result, or the empty one of an unreadable file. -/
def readWith {α : Type} (p : Project) (filename : Text) (empty : α) (f : Text → Work α) : Work α := do
  match ← p.tryRead filename with
  | .ok text => f text
  | .error _ => return empty

/-! ## Defines -/

/-- The text of a file and its table of defines, or a diagnostic about the file or the filter. -/
def scan (p : Project) (filename : Text) (asPatterns : Bool) (filters : List Text) :
    Work (Except Diagnostic (Text × DefineTable)) := do
  match ← p.tryRead filename with
  | .error d => return .error d
  | .ok text =>
    match DefineFilter.read asPatterns filters with
    | .ok filter => return .ok (text, DefineTable.ofSource filter text)
    | .error e =>
      if !e.fault.cause.isForm then Work.stop (.pattern e)
      let d : Diagnostic := { stage := .define, filename, cause := .badFilter e }
      Work.tell [.diagnosed d]
      return .error d

/-- The values of the defines that a filter accepts. -/
def evaluateDefines (p : Project) (filename : Text) (asPatterns : Bool) (filters : List Text) :
    Work (Entries Text Int × Option Diagnostic) := do
  match ← p.scan filename asPatterns filters with
  | .error d => return ([], some d)
  | .ok (text, table) =>
    let (values, session) := table.evaluate p.known (bareText text) filename
    Work.tell session.notices
    return (← Work.ofExcept .digits values, none)

/-- The values of defines by name; a name without a value is told. -/
def definesByName (p : Project) (filename : Text) (names : List Text) :
    Work (Entries Text Int × Option Diagnostic) := do
  let (values, d) ← p.evaluateDefines filename false names
  if d.isNone then
    Work.tell ((names.filter (!values.contains ·)).map fun name => .defineMissing name filename)
  return (values, d)

/-- The values of the defines whose names match one of the patterns. -/
def definesByPattern (p : Project) (filename : Text) (patterns : List Text) :
    Work (Entries Text Int × Option Diagnostic) :=
  p.evaluateDefines filename true patterns

/-- The names of the defines that match one of the patterns. -/
def defineNames (p : Project) (filename : Text) (patterns : List Text) : Work (List Text × Option Diagnostic) := do
  match ← p.scan filename true patterns with
  | .error d => return ([], some d)
  | .ok (_, table) => return (table.matched, none)

/-! ## Tables -/

def array (p : Project) (filename label : Text) : Work (List Text) :=
  p.readWith filename [] fun text => return Table.array text label

def arrays (p : Project) (filename : Text) : Work (Entries Text (List Text)) :=
  p.readWith filename [] fun text => return Table.arrays text

def indexedArray (p : Project) (filename label : Text) : Work (Entries Text Text × Option Diagnostic) := do
  match ← p.tryRead filename with
  | .ok text => return (Table.indexedArray text label, none)
  | .error d => return ([], some d)

def incbin (p : Project) (filename label : Text) : Work Text :=
  p.readWith filename [] fun text => return Table.incbin text label

def incbins (p : Project) (filename : Text) : Work (Entries Text Text) :=
  p.readWith filename [] fun text => return Table.incbins text

def incbinArray (p : Project) (filename label : Text) : Work (List Text) :=
  p.readWith filename [] fun text => return Table.incbinArray text label

/-- The structs of a file; `names` gives undesignated members a name by place. -/
def structs (p : Project) (filename label : Text) (names : Nat → Option Text) :
    Work (Entries Text (Entries Text Text)) :=
  p.readWith filename [] fun text => do
    let (result, notices) := Initializer.structs text label names filename
    Work.tell notices
    Work.ofExcept .brackets result

/-! ## Assembly data and scripts -/

def asmRows (p : Project) (filename : Text) : Work (List Asm.Row) :=
  p.readWith filename [] fun text => return Asm.rows text

def macrosUnder (p : Project) (filename label : Text) : Work (List Asm.Row) := do
  Work.ofExcept .label (Asm.macrosUnder (← p.asmRows filename) label)

def valuesUnder (p : Project) (filename label : Text) : Work (List Text) := do
  Work.ofExcept .label (Asm.valuesUnder (← p.asmRows filename) label)

end Project

/-- The dialect of a script by the ending of its name. -/
def Script.Dialect.ofPath? (p : Path) : Option Script.Dialect :=
  if p.suffix = ".inc".toList ∨ p.suffix = ".s".toList then some .raw
  else if p.suffix = ".pory".toList then some .pory
  else none

namespace Project

/-- The line that defines a script label, from 1, or 0.  A file that is no script is not read. -/
def scriptLine (p : Project) (filename label : Text) : Work Nat :=
  match Script.Dialect.ofPath? (.ofText filename) with
  | none => return 0
  | some d =>
    if label.isEmpty then return 0
    else p.readWith filename 0 fun text => return Script.lineOfLabel d text label

/-- The script labels that are visible everywhere.  A file that is no script is not read. -/
def scriptLabels (p : Project) (filename : Text) : Work (List Text) :=
  match Script.Dialect.ofPath? (.ofText filename) with
  | none => return []
  | some d => p.readWith filename [] fun text => return Script.visibleLabels d text

end Project

/-! ## Single sources -/

/-- What standard input holds: a text, or bytes that stand for none, and then what its codec says of them. -/
inductive StandardInput where
  | text (t : Text)
  | undecodable (message : String)

instance : Coe Text StandardInput := ⟨.text⟩

def StandardInput.text? : StandardInput → Except OpenFault Text
  | text t => .ok t
  | undecodable message => .error (.undecodableInput message)

/-- The name that standard input is given as a source. -/
def standardInput : Text := ['-']

/-- The name and the text of a source: a file, or standard input. -/
def openSource (disk : Disk) (stdin : StandardInput) (path : Text) : Except OpenFault (Text × Text) :=
  if path = standardInput then stdin.text?.map fun t => ("<stdin>".toList, t)
  else
    let p := Path.ofText path
    (readText disk "utf-8".toList p.text p).map fun t => (p.text, t)

end GameSource
