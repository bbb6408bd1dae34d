import GameSource.Text.Basic
/-!
# Paths

A path is shown without empty parts and without the part `.`; `..` is kept.  Joining a path to an absolute one gives the
absolute one.
-/
namespace GameSource

structure Path where
  /-- Empty, a slash or two slashes. -/
  root : Text
  parts : List Text
  deriving DecidableEq, Repr

namespace Path

/-- The slashes that begin a text, as a root: exactly two are kept. -/
def rootOf (t : Text) : Text :=
  match (t.takeWhile (· == '/')).length with
  | 0 => []
  | 2 => ['/', '/']
  | _ => ['/']

def ofText (t : Text) : Path :=
  ⟨rootOf t, (Text.splitOn '/' t).filter fun part => !part.isEmpty && part != ['.']⟩

def text (p : Path) : Text :=
  let body := p.root ++ ['/'].intercalate p.parts
  if body.isEmpty then ['.'] else body

def isAbsolute (p : Path) : Bool := !p.root.isEmpty

/-- The path `q` seen from `p`. -/
def join (p q : Path) : Path := if q.isAbsolute then q else ⟨p.root, p.parts ++ q.parts⟩

/-- The end of a path's last part from its last point on, if something stands on both sides of that point. -/
def suffix (p : Path) : Text :=
  let name := p.parts.getLast?.getD []
  let extension := (name.reverse.takeWhile (· != '.')).reverse
  let stem := name.take (name.length - extension.length - 1)
  if extension.isEmpty || stem.isEmpty || !name.contains '.' then [] else '.' :: extension

end Path

end GameSource
