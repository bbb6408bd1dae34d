import GameSource.Command.Run
/-!
# The program

Reads the one file or the standard input that the command line asks for, runs the command and prints what it answers.
-/
namespace GameSource

/-- How the program is used. -/
def usageText : String :=
  "usage: " ++ programName ++ " [-h] [--root ROOT] [-D NAME=VALUE] [--format human|json] [-v] COMMAND ...\n\n"
    ++ "Extract constants, tables and script labels from game source trees.\n\n"
    ++ "commands: defines FILE NAME... [--regex], define-names FILE PATTERN..., eval EXPRESSION [--file FILE],\n"
    ++ "  array FILE [LABEL], named-array FILE LABEL, incbin FILE [LABEL] [--array],\n"
    ++ "  struct FILE [LABEL] [--member INDEX=NAME], script-line FILE LABEL, asm FILE [LABEL] [--macros],\n"
    ++ "  script-labels FILE\n"

/-- The number of the system's error for a directory in the place of a file. -/
def isDirectoryCode : UInt32 := 21

def faultOfError : IO.Error → ReadFault
  | .noFileOrDirectory .. => .notFound
  | .inappropriateType _ code _ => if code = isDirectoryCode then .isDirectory else .notDirectory
  | .permissionDenied .. => .system "PermissionError" "Permission denied"
  | e => .system "OSError" (toString e)

/-- The bytes behind a path. -/
def readBytes (p : Path) : IO (Except ReadFault Bytes) := do
  try
    let bytes ← IO.FS.readBinFile (String.ofList p.text)
    return .ok bytes.toList
  catch e => return .error (faultOfError e)

partial def readAll (stream : IO.FS.Stream) (before : ByteArray) : IO ByteArray := do
  let bytes ← stream.read 65536
  if bytes.isEmpty then return before else readAll stream (before ++ bytes)

/-- What standard input holds. -/
def readInput : IO StandardInput := do
  let bytes ← readAll (← IO.getStdin) .empty
  match decode .utf8 bytes.toList with
  | .ok t => return .text (unifyLineEnds t)
  | .error e => return .undecodable e.message

def printTo (stream : IO.FS.Stream) : Printed → IO Unit
  | .text t => stream.putStr (.ofList t)
  | .usage => stream.putStr usageText

def run (args : List Text) : IO UInt32 := do
  let (disk, stdin) : Disk × StandardInput ← match Invocation.read args with
    | .error _ => pure ({ bytes := fun _ => .error .notFound }, .text [])
    | .ok i => do
      let stdin ← if i.command.readsInput then readInput else pure (.text [])
      match i.command.file? with
      | none => pure ({ bytes := fun _ => .error .notFound }, stdin)
      | some file =>
        let found ← readBytes ((Path.ofText i.root).join (.ofText file))
        pure ({ bytes := fun _ => found }, stdin)
  let (result, notices) := runArguments disk stdin args
  let stderr ← IO.getStderr
  for n in notices do
    stderr.putStrLn n.message
  match result with
  | .ok exit =>
    printTo (← IO.getStdout) exit.stdout
    printTo stderr exit.stderr
    return .ofNat exit.code
  | .error e =>
    stderr.putStrLn e.message
    return 1

end GameSource

def main (args : List String) : IO UInt32 := GameSource.run (args.map String.toList)
