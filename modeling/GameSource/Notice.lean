import GameSource.Diagnostic
import GameSource.Initializer.Fault
/-!
# Notices

What is worth telling while the work goes on.  A notice belongs to the part of the work that gives it and has a level;
its wording is made when it is shown.
-/
namespace GameSource

inductive NoticeLevel where
  | warning | error
  deriving DecidableEq, Repr

/-- The part of the work that gives a notice. -/
inductive NoticeTopic where
  | expressions | defines | initializers | files
  deriving DecidableEq, Repr

inductive Notice where
  /-- Where no token begins, the rest of an expression is left unread. -/
  | untokenized (rest : Text)
  /-- A requested name that no definition gives. -/
  | noDefinition (name : Text)
  /-- The problems met while a name was evaluated. -/
  | defineProblems (name : Text) (problems : List Diagnostic)
  | badInitializers (filename : Text) (e : InitializerFault)
  | diagnosed (d : Diagnostic)
  /-- A requested name that has no value in a file. -/
  | defineMissing (name filename : Text)
  deriving DecidableEq, Repr

namespace Notice

def level : Notice → NoticeLevel
  | defineProblems _ _ | badInitializers _ _ => .error
  | _ => .warning

def topic : Notice → NoticeTopic
  | untokenized _ => .expressions
  | noDefinition _ | defineProblems _ _ => .defines
  | badInitializers _ _ => .initializers
  | diagnosed _ | defineMissing _ _ => .files

def message : Notice → String
  | untokenized rest => "Failed to tokenize expression: '" ++ .ofList rest ++ "'"
  | noDefinition name => "No definition found for '" ++ .ofList name ++ "'"
  | defineProblems name ds => "Failed to parse '" ++ .ofList name ++ "':" ++ .join (ds.map fun d => "\n" ++ d.text)
  | badInitializers filename e => "Failed to parse C structs in '" ++ .ofList filename ++ "': " ++ e.message
  | diagnosed d => d.text
  | defineMissing name filename => "Failed to find define '" ++ .ofList name ++ "' in '" ++ .ofList filename ++ "'"

end Notice

end GameSource
