import GameSource.Text.LetterCase
import GameSource.Text.Basic
/-!
# Search patterns

A pattern is a tree of tests and ways to combine them.  The tests carry the flags under which they were written, so a
tree means the same wherever it stands.
-/
namespace GameSource

/-! ## Tests of one character -/

/-- The flags that the comparison of characters depends on. -/
structure CharFlags where
  ascii : Bool := false
  ignoreCase : Bool := false
  deriving DecidableEq, Repr

namespace CharFlags

/-- The letter by which a character is compared. -/
def lower (f : CharFlags) (n : Nat) : Nat :=
  if !f.ignoreCase then n
  else if f.ascii then (if 65 ≤ n ∧ n ≤ 90 then n + 32 else n)
  else lowerCode n

/-- The letters by which the characters are compared that match a letter. -/
def matching (f : CharFlags) (n : Nat) : List Nat :=
  if f.ignoreCase && !f.ascii then f.lower n :: caseKin (f.lower n) else [f.lower n]

/-- Whether case makes a difference to a character. -/
def isCased (f : CharFlags) (n : Nat) : Bool :=
  f.ignoreCase && if f.ascii then f.lower n != n || (97 ≤ n && n ≤ 122) else lowerCode n != n || upperCode n != n

/-- All characters that are compared by one of these letters. -/
def writtenAs (f : CharFlags) (letters : List Nat) : List Nat :=
  letters.flatMap fun n =>
    n :: if !f.ignoreCase then [] else if f.ascii then (if 97 ≤ n ∧ n ≤ 122 then [n - 32] else []) else uppersOf n

end CharFlags

inductive CharKind where
  | digit | space | word
  deriving DecidableEq, Repr

/-- Whether a character is of a kind, in ASCII or in Unicode. -/
def CharKind.holds (ascii : Bool) (k : CharKind) (c : Char) : Bool :=
  (!ascii || c.toNat < 128) &&
    match k with
    | .digit => isDecimal c
    | .space => if ascii then inRanges [(9, 13), (32, 32)] c.toNat else isSpace c
    | .word => isWord c

/-- A member of a character set; code points stand for characters. -/
inductive SetItem where
  | single (n : Nat)
  | range (low high : Nat)
  | kind (k : CharKind) (negated : Bool)
  deriving DecidableEq, Repr

namespace SetItem

/-- The last code point of the basic plane.  In sets that ignore case the members beyond it follow their own rules. -/
def basicLast : Nat := 0xFFFF

/-- Whether a character is such a member, case counting. -/
def holdsExactly (ascii : Bool) (c : Char) : SetItem → Bool
  | single n => c.toNat == n
  | range low high => low ≤ c.toNat && c.toNat ≤ high
  | kind k negated => k.holds ascii c != negated

/-- Whether a character is such a member up to case.  A single member beyond the basic plane is compared as written
with the lower case of the character, and a range that ends beyond the basic plane has the upper case of that letter
too. -/
def holdsUpToCase (f : CharFlags) (c : Char) : SetItem → Bool
  | single n =>
    if f.lower n ≤ basicLast then (f.matching n).contains (f.lower c.toNat) else f.lower c.toNat == n
  | range low high =>
    let letter := f.lower c.toNat
    let upper := upperCode letter
    ((f.writtenAs (f.matching letter)).any fun n => low ≤ n && n ≤ min high basicLast) ||
      (basicLast < high && ((low ≤ letter && letter ≤ high) || (low ≤ upper && upper ≤ high)))
  | kind k negated => k.holds f.ascii c != negated

def holds (f : CharFlags) (c : Char) (item : SetItem) : Bool :=
  if f.ignoreCase then item.holdsUpToCase f c else item.holdsExactly f.ascii c

/-- Whether case makes a difference to a member.  A range that ends beyond the basic plane counts as such a member. -/
def isCased (f : CharFlags) : SetItem → Bool
  | single n => f.isCased n
  | range low high =>
    f.ignoreCase && (basicLast < high || (List.range' low (high + 1 - low)).any f.isCased)
  | kind _ _ => false

end SetItem

inductive CharTest where
  /-- Any character, or any but the line feed. -/
  | any (lineFeed : Bool)
  /-- One character, or any but that one. -/
  | same (n : Nat) (negated : Bool) (flags : CharFlags)
  | oneOf (items : List SetItem) (negated : Bool) (flags : CharFlags)
  deriving DecidableEq, Repr

namespace CharTest

def holds (c : Char) : CharTest → Bool
  | any lineFeed => lineFeed || c != '\n'
  | same n negated flags => (flags.matching n).contains (flags.lower c.toNat) != negated
  | oneOf items negated flags => items.any (·.holds flags c) != negated

/-- The test for the members of a set, of which each is listed once.  A set of one character is that character. -/
def ofSet (items : List SetItem) (negated : Bool) (flags : CharFlags) : CharTest :=
  match items with
  | [.single n] => same n negated flags
  | _ => oneOf items negated flags

/-- The members of the set that a test stands for, unless it is negated. -/
def setItems? : CharTest → Option (List SetItem)
  | same n false _ => some [.single n]
  | oneOf items false _ => some items
  | _ => none

end CharTest

/-! ## Tests of a place -/

inductive Anchor where
  | textStart | lineStart
  | textEnd
  /-- The end of the text or of its last line. -/
  | lastLineEnd
  | lineEnd
  | boundary (ascii negated : Bool)
  deriving DecidableEq, Repr

/-- Whether the place between the characters passed, the latest first, and the rest is such a place.  An empty text has
neither a boundary nor a place that is none. -/
def Anchor.holds (passed rest : Text) : Anchor → Bool
  | textStart => passed.isEmpty
  | lineStart => passed.isEmpty || passed.head? == some '\n'
  | textEnd => rest.isEmpty
  | lastLineEnd => rest.isEmpty || rest == ['\n']
  | lineEnd => rest.isEmpty || rest.head? == some '\n'
  | boundary ascii negated =>
    !(passed.isEmpty && rest.isEmpty) &&
      (passed.head?.any (CharKind.word.holds ascii) != rest.head?.any (CharKind.word.holds ascii)) != negated

/-! ## Patterns -/

/-- Which number of repetitions is tried first, and whether others are tried at all. -/
inductive Greed where
  | greedy | lazy | possessive
  deriving DecidableEq, Repr

/-- The least and the greatest number of characters that a pattern matches; no greatest if there is none. -/
structure Width where
  low : Nat
  high : Option Nat
  deriving DecidableEq, Repr

namespace Width

def both (a b : Width) : Width :=
  ⟨a.low + b.low, a.high.bind fun m => b.high.map (m + ·)⟩

def either (a b : Width) : Width :=
  ⟨min a.low b.low, a.high.bind fun m => b.high.map (max m ·)⟩

def times (least : Nat) (most : Option Nat) (w : Width) : Width :=
  ⟨w.low * least,
    if w.high = some 0 ∨ most = some 0 then some 0 else w.high.bind fun m => most.map (m * ·)⟩

end Width

inductive Node where
  | empty
  | char (test : CharTest)
  | anchor (a : Anchor)
  | seq (first second : Node)
  | alt (first second : Node)
  | capture (group : Nat) (body : Node)
  | atomic (body : Node)
  | repeated (least : Nat) (most : Option Nat) (greed : Greed) (body : Node)
  | look (behind negated : Bool) (body : Node)
  | backref (group : Nat) (width : Width) (flags : CharFlags)
  | conditional (group : Nat) (yes no : Node)
  deriving Repr

namespace Node

def ofSeq (nodes : List Node) : Node := nodes.foldr seq empty

/-- Tries the branches in order. -/
def firstOf : List Node → Node
  | [] => empty
  | [n] => n
  | n :: ns => alt n (firstOf ns)

def width : Node → Width
  | empty | anchor _ | look _ _ _ => ⟨0, some 0⟩
  | char _ => ⟨1, some 1⟩
  | seq a b => a.width.both b.width
  | alt a b => a.width.either b.width
  | capture _ n | atomic n => n.width
  | repeated least most _ n => n.width.times least most
  | backref _ w _ => w
  | conditional _ yes no => yes.width.either no.width

/-! ### Branches -/

/-- Whether two nodes are the same test, of a character, of a place or for a group. -/
def isSameTest : Node → Node → Bool
  | char a, char b => a == b
  | anchor a, anchor b => a == b
  | backref a _ _, backref b _ _ => a == b
  | _, _ => false

/-- The tests with which all branches begin, the first branch apart from the others, and what is left of each. -/
def sharedStart : (first : List Node) → (others : List (List Node)) → List Node × List (List Node)
  | [], others => ([], [] :: others)
  | n :: first, others =>
    if others.all fun branch => branch.head?.any n.isSameTest then
      let (shared, rests) := sharedStart first (others.map List.tail)
      (n :: shared, rests)
    else ([], (n :: first) :: others)

/-- The members of the set that a branch stands for. -/
def setItems? : List Node → Option (List SetItem)
  | [char test] => test.setItems?
  | _ => none

/-- The nodes of branches that are tried in order: first what all of them begin with, then one test if the rest of
each branch is a character or a set. -/
def ofBranches (flags : CharFlags) : List (List Node) → List Node
  | [] => []
  | [branch] => branch
  | first :: others =>
    let (shared, rests) := sharedStart first others
    shared ++ [match rests.mapM setItems? with
      | some items => char (.oneOf items.flatten false flags)
      | none => firstOf (rests.map ofSeq)]

/-! ### The first character -/

/-- The set with which a pattern begins, and whether it is negated, if case makes no difference to its members and its
alphabet is not the one given. -/
def otherLead? (ascii : Bool) : Node → Option (List SetItem × Bool)
  | seq a _ => a.otherLead? ascii
  | capture _ n => n.otherLead? ascii
  | char (.oneOf items negated flags) =>
    if flags.ascii != ascii && !items.any (·.isCased flags) then some (items, negated) else none
  | _ => none

end Node

/-- What a search looks for, and whether the flags for the whole pattern ask for ASCII. -/
structure Pattern where
  node : Node
  ascii : Bool

namespace Pattern

/-- Whether a match may begin with a character.  A set at the beginning holds it in the alphabet of the whole pattern,
too, whatever flags the group around the set has. -/
def mayBegin (p : Pattern) (c : Char) : Bool :=
  (p.node.otherLead? p.ascii).all fun (items, negated) => items.any (·.holdsExactly p.ascii c) != negated

end Pattern

end GameSource
