import GameSource.Entries
import GameSource.Files.Decode
import GameSource.Files.Path
import GameSource.Text.Locate
import GameSource.Diagnostic
/-!
# Disks, and the texts on them

All that the readers ask of a disk is the bytes behind a path and the codecs of encodings that are not given here
(`Disk`), so what they do is known for every disk and every encoding.  `FileSet` is a disk in memory: files and
directories below a working directory, and no further codecs.
-/
namespace GameSource

/-! ## Disks -/

/-- Why there is no codec that makes texts of bytes under a name. -/
inductive EncodingFault where
  | unknown
  /-- There is a codec of that name, and what it makes of bytes is no text. -/
  | notText
  deriving DecidableEq, Repr

def EncodingFault.message (name : Text) : EncodingFault → String
  | unknown => "unknown encoding: " ++ .ofList name
  | notText => "'" ++ .ofList name ++ "' is not a text encoding; use codecs.open() to handle arbitrary codecs"

structure Disk where
  /-- The bytes behind a path, or why there are none. -/
  bytes : Path → Except ReadFault Bytes
  /-- The codecs of encodings that are not given here, by name. -/
  further : Text → Except EncodingFault (Bytes → Except CodecFault Text) := fun _ => .error .unknown

namespace Disk

instance : CoeFun Disk fun _ => Path → Except ReadFault Bytes := ⟨bytes⟩

/-- The codec under a name: one of those given here, or else a further one. -/
def codec (disk : Disk) (name : Text) : Except EncodingFault (Bytes → Except ReadFault Text) :=
  match Encoding.ofName? name with
  | some e => .ok fun bytes => (decode e bytes).mapError .undecodable
  | none => (disk.further name).map fun decode bytes => (decode bytes).mapError .malformed

end Disk

/-! ## Texts -/

/-- Why there is no text behind a path.  Only an unreadable file is told by a diagnostic. -/
inductive OpenFault where
  | unreadable (d : Diagnostic)
  | badEncoding (e : EncodingFault) (name : Text)
  | nullInPath
  | nullInEncoding
  /-- Standard input stands for no text, as its codec says. -/
  | undecodableInput (message : String)
  deriving DecidableEq, Repr

def OpenFault.message : OpenFault → String
  | unreadable d => d.text
  | badEncoding e name => e.message name
  | undecodableInput message => message
  | nullInPath => "embedded null byte"
  | nullInEncoding => "embedded null character"

/-- Every line ends with a line feed, the last one too. -/
def closeLastLine (t : Text) : Text := if t.isEmpty || t.getLast? == some '\n' then t else t ++ ['\n']

/-- The text of a file, with uniform line ends.  `shown` is the name under which a diagnostic tells it. -/
def readText (disk : Disk) (encoding shown : Text) (p : Path) : Except OpenFault Text := do
  let unreadable (e : ReadFault) := OpenFault.unreadable (.ofReadFault shown e)
  if encoding.contains '\x00' then throw .nullInEncoding
  if p.text.contains '\x00' then throw .nullInPath
  let bytes ← (disk p).mapError unreadable
  let decode ← (disk.codec encoding).mapError (.badEncoding · encoding)
  let t ← (decode bytes).mapError unreadable
  return closeLastLine (unifyLineEnds t)

/-- The number of lines of a text, the empty one behind its last line feed counted, and one more. -/
def lineCount (t : Text) : Nat := (Text.lines t).length + 1

/-! ## Files in memory -/

/-- Files and the directories that hold them, each by its parts below the working directory. -/
structure FileSet where
  files : Entries (List Text) Bytes := []
  directories : List (List Text) := []

namespace FileSet

/-- Makes a file, in place of an earlier one, and the directories above it. -/
def write (s : FileSet) (parts : List Text) (bytes : Bytes) : FileSet :=
  let above := (List.range parts.length).map parts.take
  ⟨s.files.put parts bytes, s.directories ++ above.filter fun d => !s.directories.contains d⟩

def delete (s : FileSet) (parts : List Text) : FileSet := { s with files := s.files.erase parts }

/-- Where a walk along a path has come to. -/
inductive Spot where
  | directory (parts : List Text)
  | file (bytes : Bytes)
  /-- A directory above the working directory, of which nothing more is known. -/
  | above

/-- Goes on to one part of a path. -/
def enter (s : FileSet) (part : Text) : Spot → Except ReadFault Spot
  | .file _ => .error .notDirectory
  | .above => if part = ['.', '.'] then .ok .above else .error .notFound
  | .directory parts =>
    if part = ['.', '.'] then .ok (if parts.isEmpty then .above else .directory parts.dropLast)
    else
      let inner := parts ++ [part]
      match s.files.find? inner with
      | some bytes => .ok (.file bytes)
      | none => if s.directories.contains inner then .ok (.directory inner) else .error .notFound

/-- The disk that a set of files is, seen from its working directory. -/
def disk (s : FileSet) : Disk where
  bytes p := do
    let start := if p.isAbsolute then Spot.above else .directory []
    match ← p.parts.foldlM (fun spot part => s.enter part spot) start with
    | .file bytes => return bytes
    | _ => throw .isDirectory

end FileSet

end GameSource
