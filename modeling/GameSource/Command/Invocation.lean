import GameSource.Command.Arguments
import GameSource.Options
/-!
# Commands

The commands, with what their arguments ask for.
-/
namespace GameSource

inductive Command where
  | defines (file : Text) (names : List Text) (asPatterns : Bool)
  | defineNames (file : Text) (patterns : List Text)
  | evaluate (expression : Text) (file : Option Text)
  | array (file : Text) (label : Option Text)
  | namedArray (file : Text) (label : Option Text)
  | incbin (file : Text) (label : Option Text) (asArray : Bool)
  | struct (file label : Text) (members : List Text)
  | scriptLine (file label : Text)
  | asm (file : Text) (label : Option Text) (macros : Bool)
  | scriptLabels (file : Text)
  deriving DecidableEq, Repr

/-- A command with the options for all commands. -/
structure Invocation where
  root : Text
  defines : List Text
  format : OutputFormat
  command : Command
  deriving DecidableEq, Repr

namespace Invocation

open Arguments

/-- What an argument is given for. -/
inductive Key where
  | help | root | define | format | verbose | command
  | file | label | names | expression | header
  | asPatterns | asArray | member | macros
  deriving DecidableEq, Repr

/-! ## Forms -/

def helpSwitches : List (Switch Key) := [⟨['-', 'h'], .help, false⟩, ⟨"--help".toList, .help, false⟩]

def globalForm : Form Key where
  options := helpSwitches ++
    [⟨"--root".toList, .root, true⟩, ⟨['-', 'D'], .define, true⟩, ⟨"--format".toList, .format, true⟩,
      ⟨['-', 'v'], .verbose, false⟩, ⟨"--verbose".toList, .verbose, false⟩]
  places := [(.command, .everything)]

/-- The names of the commands. -/
inductive CommandName where
  | defines | defineNames | evaluate | array | namedArray | incbin | struct | scriptLine | asm | scriptLabels
  deriving DecidableEq, Repr

namespace CommandName

def ofText? (t : Text) : Option CommandName :=
  ([("defines", defines), ("define-names", defineNames), ("eval", evaluate), ("array", array),
    ("named-array", namedArray), ("incbin", incbin), ("struct", struct), ("script-line", scriptLine), ("asm", asm),
    ("script-labels", scriptLabels)].find? fun e => e.1.toList == t).map Prod.snd

def form (c : CommandName) : Form Key :=
  let own : List (Switch Key) × List (Key × Arity) := match c with
    | defines => ([⟨"--regex".toList, .asPatterns, false⟩], [(.file, .one), (.names, .several)])
    | defineNames => ([], [(.file, .one), (.names, .several)])
    | evaluate => ([⟨"--file".toList, .header, true⟩], [(.expression, .one)])
    | array => ([], [(.file, .one), (.label, .optional)])
    | namedArray => ([], [(.file, .one), (.label, .one)])
    | incbin => ([⟨"--array".toList, .asArray, false⟩], [(.file, .one), (.label, .optional)])
    | struct => ([⟨"--member".toList, .member, true⟩], [(.file, .one), (.label, .optional)])
    | scriptLine => ([], [(.file, .one), (.label, .one)])
    | asm => ([⟨"--macros".toList, .macros, false⟩], [(.file, .one), (.label, .optional)])
    | scriptLabels => ([], [(.file, .one)])
  ⟨helpSwitches ++ own.1, own.2⟩

end CommandName

/-- A request for help stops the reading, and so does a format that there is not. -/
def check (g : Given Key) : Except Stop Unit :=
  match g.key with
  | .help => .error .help
  | .format => if g.values.all fun name => (OutputFormat.ofName? name).isSome then .ok () else .error .misuse
  | _ => .ok ()

/-! ## Reading -/

/-- All that was given for a key, in order. -/
def valuesOf (given : List (Given Key)) (key : Key) : List Text :=
  (given.filter fun g => g.key == key).flatMap Given.values

/-- What was given for a key last. -/
def lastOf? (given : List (Given Key)) (key : Key) : Option Text := (valuesOf given key).getLast?

def isGiven (given : List (Given Key)) (key : Key) : Bool := given.any fun g => g.key == key

def commandOf (name : CommandName) (given : List (Given Key)) : Command :=
  let file := (lastOf? given .file).getD []
  let label := lastOf? given .label
  let names := valuesOf given .names
  match name with
  | .defines => .defines file names (isGiven given .asPatterns)
  | .defineNames => .defineNames file names
  | .evaluate => .evaluate ((lastOf? given .expression).getD []) (lastOf? given .header)
  | .array => .array file label
  | .namedArray => .namedArray file label
  | .incbin => .incbin file label (isGiven given .asArray)
  | .struct => .struct file (label.getD []) (valuesOf given .member)
  | .scriptLine => .scriptLine file (label.getD [])
  | .asm => .asm file label (isGiven given .macros)
  | .scriptLabels => .scriptLabels file

/-- Reads the arguments of a command line.  The command's own arguments are read before those that nothing takes are
refused. -/
def read (args : List Text) : Except Stop Invocation := do
  let collected ← Arguments.read globalForm check args
  match valuesOf collected.given .command with
  | [] => throw .misuse
  | name :: rest =>
    let some name := CommandName.ofText? name | throw .misuse
    let own ← Arguments.read name.form check rest
    if !collected.extras.isEmpty || !own.extras.isEmpty then throw .misuse
    let format := ((lastOf? collected.given .format).bind OutputFormat.ofName?).getD .human
    return ⟨(lastOf? collected.given .root).getD ['.'], valuesOf collected.given .define, format,
      commandOf name own.given⟩

end Invocation

end GameSource
