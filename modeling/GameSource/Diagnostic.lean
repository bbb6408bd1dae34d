import GameSource.Expr.Problem
import GameSource.Pattern.Fault
import GameSource.Files.Fault
/-!
# Diagnostics

A diagnostic tells what is wrong with which file, and where in it if the place is known.  What is wrong is kept as a
cause; its wording is made when the diagnostic is shown.
-/
namespace GameSource

/-- The work at which a diagnostic arose. -/
inductive Stage where
  /-- Loading a file. -/
  | read
  /-- Collecting or evaluating defines. -/
  | define
  deriving DecidableEq, Repr

def Stage.text : Stage → String
  | read => "read"
  | define => "define"

/-- A search pattern that cannot be read. -/
structure BadPattern where
  pattern : Text
  fault : PatternFault
  deriving DecidableEq, Repr

def BadPattern.message (e : BadPattern) : String := e.fault.message e.pattern

/-- What a diagnostic tells. -/
inductive Cause where
  | problem (p : Problem)
  | unreadable (e : ReadFault)
  | badFilter (e : BadPattern)
  /-- Something told by its text alone, with a code or without. -/
  | stated (message : String) (code : Option String)
  deriving DecidableEq, Repr

namespace Cause

def message : Cause → String
  | problem p => p.message
  | unreadable e => e.message
  | badFilter e => "Invalid filter pattern: " ++ e.message
  | stated message _ => message

def code : Cause → Option String
  | unreadable e => some e.code
  | stated _ code => code
  | _ => none

end Cause

structure Diagnostic where
  stage : Stage
  filename : Text
  cause : Cause
  line : Option Int := none
  column : Option Int := none
  deriving DecidableEq, Repr

namespace Diagnostic

def message (d : Diagnostic) : String := d.cause.message

def code (d : Diagnostic) : Option String := d.cause.code

/-- One line: the file, the place if line and column are both known, the stage and the message. -/
def text (d : Diagnostic) : String :=
  let place := match d.line, d.column with
    | some line, some column => ":" ++ toString line ++ ":" ++ toString column
    | _, _ => ""
  .ofList d.filename ++ place ++ ": " ++ d.stage.text ++ ": " ++ d.message

/-- A file that could not be read, under the name by which it is shown. -/
def ofReadFault (filename : Text) (e : ReadFault) : Diagnostic := { stage := .read, filename, cause := .unreadable e }

end Diagnostic

end GameSource
