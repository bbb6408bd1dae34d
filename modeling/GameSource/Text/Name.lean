import GameSource.Text.Basic
import GameSource.Text.NameRanges
/-!
# Names

A name begins with a letter or an underscore and goes on with letters, digits, marks and underscores, in the sense of
the Unicode properties for identifiers: not every letter begins a name, and some numbers do.
-/
namespace GameSource

/-- A character that a name may begin with. -/
def isNameStart (c : Char) : Bool :=
  c == '_' || (isLetter c && !inRanges CharRange.lettersNotFirst c.toNat) ||
    inRanges CharRange.firstBesideLetters c.toNat

/-- A character that a name may go on with. -/
def isNameChar (c : Char) : Bool := isNameStart c || isDecimal c || inRanges CharRange.nameMarks c.toNat

def isName (t : Text) : Bool := t.head?.any isNameStart && t.all isNameChar

end GameSource
