import GameSource.Pattern.Node
/-!
# Searching

Matching tries the choices of a pattern in their order of priority and comes back to the next one when what follows
fails: `Node.run` takes what follows as a function of the place reached.  It is structural on the pattern; the
repetitions of a body are counted against a bound that the rest of the text sets (`Node.bound`), because an iteration
that reads nothing is not followed by another one.
-/
namespace GameSource

/-- A place in a text, and what the groups matched last. -/
structure Place where
  /-- The characters before the place, the latest first. -/
  passed : Text
  rest : Text
  groups : List (Nat × Text)

namespace Place

def start (t : Text) : Place := ⟨[], t, []⟩

def group? (p : Place) (n : Nat) : Option Text := p.groups.lookup n

/-- The place `n` characters on. -/
def forward (p : Place) (n : Nat) : Place :=
  { p with passed := (p.rest.take n).reverse ++ p.passed, rest := p.rest.drop n }

/-- The place `n` characters back, if there are as many. -/
def back? (p : Place) (n : Nat) : Option Place :=
  if n ≤ p.passed.length then
    some { p with passed := p.passed.drop n, rest := (p.passed.take n).reverse ++ p.rest }
  else none

end Place

/-- Reaches a place behind what it matches and asks what follows there. -/
abbrev Matcher := (Place → Option Place) → Place → Option Place

/-- Iterates a body greedily or lazily: `count` iterations are done, and the latest one beyond the least number began
where `last` characters were left. -/
def iterate (body : Matcher) (least : Nat) (most : Option Nat) (eager : Bool) (next : Place → Option Place) :
    (bound count : Nat) → (last : Option Nat) → Place → Option Place
  | 0, _, _, p => next p
  | bound + 1, count, last, p =>
    if count < least then body (iterate body least most eager next bound (count + 1) last) p
    else
      let again (_ : Unit) :=
        if most.all (count < ·) && last != some p.rest.length then
          body (iterate body least most eager next bound (count + 1) (some p.rest.length)) p
        else none
      if eager then (again ()).orElse fun _ => next p else (next p).orElse again

/-- Iterates a body as often as it goes, without coming back. -/
def iterateFully (body : Matcher) (least : Nat) (most : Option Nat) :
    (bound count : Nat) → (last : Option Nat) → Place → Option Place
  | 0, _, _, p => some p
  | bound + 1, count, last, p =>
    if count < least then (body some p).bind (iterateFully body least most bound (count + 1) last)
    else if most.all (count < ·) && last != some p.rest.length then
      match body some p with
      | none => some p
      | some q => iterateFully body least most bound (count + 1) (some p.rest.length) q
    else some p

/-- Whether a text begins with `expected`, up to case if so asked. -/
def beginsWith (flags : CharFlags) : (expected rest : Text) → Bool
  | [], _ => true
  | _ :: _, [] => false
  | a :: as, c :: cs => flags.lower a.toNat == flags.lower c.toNat && beginsWith flags as cs

namespace Node

/-- More iterations than can follow one another where the rest of the text is this long. -/
def bound (least : Nat) (p : Place) : Nat := least + p.rest.length + 2

def run : Node → Matcher
  | empty, k, p => k p
  | char test, k, p =>
    match p.rest with
    | [] => none
    | c :: _ => if test.holds c then k (p.forward 1) else none
  | anchor a, k, p => if a.holds p.passed p.rest then k p else none
  | seq a b, k, p => a.run (b.run k) p
  | alt a b, k, p => (a.run k p).orElse fun _ => b.run k p
  | capture n body, k, p =>
    body.run (fun q => k { q with groups := (n, p.rest.take (p.rest.length - q.rest.length)) :: q.groups }) p
  | atomic body, k, p => (body.run some p).bind k
  | repeated least most greed body, k, p =>
    match greed with
    | .greedy => iterate (fun k p => body.run k p) least most true k (bound least p) 0 none p
    | .lazy => iterate (fun k p => body.run k p) least most false k (bound least p) 0 none p
    | .possessive => (iterateFully (fun k p => body.run k p) least most (bound least p) 0 none p).bind k
  | look behind negated body, k, p =>
    let found := if behind then (p.back? body.width.low).bind (body.run some) else body.run some p
    match found, negated with
    | some q, false => k { p with groups := q.groups }
    | none, true => k p
    | _, _ => none
  | backref n _ flags, k, p =>
    match p.group? n with
    | none => none
    | some t => if beginsWith flags t p.rest then k (p.forward t.length) else none
  | conditional n yes no, k, p => if (p.group? n).isSome then yes.run k p else no.run k p

end Node

namespace Pattern

/-- Whether the pattern matches at a place or at one behind it. -/
def searchFrom (p : Pattern) : (passed rest : Text) → Bool
  | passed, [] => (p.node.run some ⟨passed, [], []⟩).isSome
  | passed, c :: cs =>
    (p.mayBegin c && (p.node.run some ⟨passed, c :: cs, []⟩).isSome) || searchFrom p (c :: passed) cs

/-- Whether the pattern matches anywhere in a text. -/
def search (p : Pattern) (t : Text) : Bool := searchFrom p [] t

end Pattern

end GameSource
