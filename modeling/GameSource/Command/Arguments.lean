import GameSource.Text.Basic
/-!
# Arguments of a command line

Each argument is an option, a plain argument, or the two dashes behind which there are plain ones only (`mark`).
Options are taken where they stand; plain arguments go to the positionals in order, as many at a time as fit
(`takePlaces`).  What an option asks for is checked when it is taken, so an earlier request for help comes before a
later mistake.
-/
namespace GameSource

namespace Arguments

/-! ## Forms -/

/-- How many plain arguments a positional takes. -/
inductive Arity where
  | one
  | optional
  | several
  /-- Everything from one plain argument on, options too. -/
  | everything
  deriving DecidableEq, Repr

/-- An option by its name, which begins with one dash or two. -/
structure Switch (κ : Type) where
  name : Text
  key : κ
  takesValue : Bool

/-- The options and the positionals that a command knows. -/
structure Form (κ : Type) where
  options : List (Switch κ)
  places : List (κ × Arity)

/-- Why the arguments are not taken further. -/
inductive Stop where
  | help
  | misuse
  deriving DecidableEq, Repr

variable {κ : Type}

/-! ## Marks -/

/-- What an argument that begins with a dash means. -/
structure Hit (κ : Type) where
  /-- Nothing for an unknown option. -/
  option : Option (Switch κ)
  /-- The text behind the option in the same argument, without an equals sign between them. -/
  value : Option Text := none

inductive Mark (κ : Type) where
  | plain
  | dashes
  | option (hit : Hit κ)

namespace Mark

def isPlain : Mark κ → Bool
  | plain => true
  | _ => false

def isDashes : Mark κ → Bool
  | dashes => true
  | _ => false

def isOption : Mark κ → Bool
  | option _ => true
  | _ => false

end Mark

/-- A dash and digits, among which one point may stand before the last of them. -/
def isNegativeNumber (t : Text) : Bool :=
  match t with
  | '-' :: rest =>
    let number := if rest.getLast? == some '\n' then rest.dropLast else rest
    let fraction := (number.dropWhile isDecimal).drop 1
    (!number.isEmpty && number.all isDecimal) ||
      ((number.dropWhile isDecimal).head? == some '.' && !fraction.isEmpty && fraction.all isDecimal)
  | _ => false

/-- An argument up to its first equals sign, and what follows that. -/
def splitEquals (t : Text) : Text × Option Text :=
  match Text.until? '=' t with
  | some (name, value) => (name, some value)
  | none => (t, none)

/-- The options that an argument may abbreviate: a long one by its beginning, a short one by what follows its letter
as its value. -/
def candidates (options : List (Switch κ)) (t : Text) : List (Hit κ) :=
  match t with
  | '-' :: '-' :: _ =>
    let (name, value) := splitEquals t
    (options.filter fun o => (Text.after? name o.name).isSome).map fun o => ⟨some o, value⟩
  | _ =>
    options.filterMap fun o =>
      if o.name = t.take 2 then some ⟨some o, some (t.drop 2)⟩
      else if (Text.after? t o.name).isSome then some ⟨some o, none⟩
      else none

/-- What an argument is where options are still looked for. -/
def markOf (options : List (Switch κ)) (t : Text) : Except Stop (Mark κ) :=
  match t with
  | '-' :: _ :: _ =>
    match options.find? (·.name == t) with
    | some o => .ok (.option ⟨some o, none⟩)
    | none =>
      let (name, value) := splitEquals t
      match value, options.find? (·.name == name) with
      | some v, some o => .ok (.option ⟨some o, some v⟩)
      | _, _ =>
        match candidates options t with
        | [hit] => .ok (.option hit)
        | [] => .ok (if isNegativeNumber t || t.contains ' ' then .plain else .option ⟨none, none⟩)
        | _ => .error .misuse
  | _ => .ok .plain

structure Argument (κ : Type) where
  text : Text
  mark : Mark κ

/-- Marks all arguments; behind two dashes all are plain. -/
def mark (options : List (Switch κ)) : List Text → Except Stop (List (Argument κ))
  | [] => .ok []
  | t :: ts =>
    if t = ['-', '-'] then .ok (⟨t, .dashes⟩ :: ts.map fun t => ⟨t, .plain⟩)
    else
      match markOf options t with
      | .error e => .error e
      | .ok m => (mark options ts).map (⟨t, m⟩ :: ·)

/-! ## Positionals -/

/-- The number of arguments that a positional takes of those to come, if it fits them. -/
def Arity.count? (marks : List (Mark κ)) (a : Arity) : Option Nat :=
  let lead := (marks.takeWhile Mark.isDashes).length
  let behind := marks.drop (lead + 1)
  let plain := (marks.drop lead).head?.any Mark.isPlain
  match a with
  | .one => if plain then some (lead + 1 + (behind.takeWhile Mark.isDashes).length) else none
  | .optional => some (if plain then lead + 1 + (behind.takeWhile Mark.isDashes).length else lead)
  | .several => if plain then some (lead + 1 + (behind.takeWhile (!·.isOption)).length) else none
  | .everything => if plain then some marks.length else none

/-- What was given for a key. -/
structure Given (κ : Type) where
  key : κ
  values : List Text

/-- What positionals take in a row of the arguments to come, and how many arguments that are, if all of them fit. -/
def fit? : (places : List (κ × Arity)) → List (Argument κ) → Option (List (Given κ) × Nat)
  | [], _ => some ([], 0)
  | (key, arity) :: places, args =>
    match arity.count? (args.map Argument.mark) with
    | none => none
    | some n =>
      let texts := (args.take n).map Argument.text
      let values := if arity = .everything then texts else texts.erase ['-', '-']
      (fit? places (args.drop n)).map fun (given, m) => (⟨key, values⟩ :: given, n + m)

/-- Gives the arguments to come to as many of the first `limit` positionals as fit: what was given, the positionals left
and the number of arguments taken. -/
def takePlaces (places : List (κ × Arity)) (args : List (Argument κ)) :
    (limit : Nat) → List (Given κ) × List (κ × Arity) × Nat
  | 0 => ([], places, 0)
  | limit + 1 =>
    match fit? (places.take (limit + 1)) args with
    | some (given, n) => (given, places.drop (limit + 1), n)
    | none => takePlaces places args limit

/-! ## Options -/

/-- What taking an option gave. -/
structure Taken (κ : Type) where
  given : List (Given κ) := []
  /-- The arguments that nothing takes. -/
  extras : List Text := []
  /-- The number of arguments behind the option that it took. -/
  count : Nat := 0

/-- Takes an option whose value, if it has one, is the argument behind it. -/
def takeAlone (o : Switch κ) (next : Option (Argument κ)) : Except Stop (Taken κ) :=
  if o.takesValue then
    match next with
    | some ⟨t, .plain⟩ => .ok { given := [⟨o.key, [t]⟩], count := 1 }
    | _ => .error .misuse
  else .ok { given := [⟨o.key, []⟩] }

/-- Takes an option with the text behind it in the same argument: its value, or the letters of further short options,
all of which there must be. -/
def takeJoined (options : List (Switch κ)) (next : Option (Argument κ)) (o : Switch κ) : Text → Except Stop (Taken κ)
  | [] => if o.takesValue then .ok { given := [⟨o.key, [[]]⟩] } else .error .misuse
  | c :: rest =>
    if o.takesValue then .ok { given := [⟨o.key, [c :: rest]⟩] }
    else if o.name[1]? = some '-' then .error .misuse
    else
      match options.find? (·.name == ['-', c]) with
      | none => .error .misuse
      | some o' =>
        let more := match rest with
          | [] => takeAlone o' next
          | d :: value => takeJoined options next o' (d :: value)
        more.map fun taken => { taken with given := ⟨o.key, []⟩ :: taken.given }

def takeHit (options : List (Switch κ)) (text : Text) (hit : Hit κ) (next : Option (Argument κ)) :
    Except Stop (Taken κ) :=
  match hit.option, hit.value with
  | none, _ => .ok { extras := [text] }
  | some o, none => takeAlone o next
  | some o, some value => takeJoined options next o value

/-! ## All arguments -/

/-- What the arguments gave, in order, and those that nothing took. -/
structure Collected (κ : Type) where
  given : List (Given κ) := []
  extras : List Text := []

def Collected.before (given : List (Given κ)) (extras : List Text) (c : Collected κ) : Collected κ :=
  ⟨given ++ c.given, extras ++ c.extras⟩

/-- Whether positionals are left that must take something. -/
def missesPlace (places : List (κ × Arity)) : Bool := places.any fun p => p.2 != .optional

/-- Takes marked arguments.  `check` may stop at what is given. -/
def collect (options : List (Switch κ)) (check : Given κ → Except Stop Unit) :
    (places : List (κ × Arity)) → List (Argument κ) → Except Stop (Collected κ)
  | places, [] => do
    let (given, left, _) := takePlaces places [] places.length
    given.forM check
    if missesPlace left then throw .misuse
    return ⟨given, []⟩
  | places, a :: rest =>
    match a.mark with
    | .option hit => do
      let taken ← takeHit options a.text hit rest.head?
      taken.given.forM check
      let more ← collect options check places (rest.drop taken.count)
      return more.before taken.given taken.extras
    | _ => do
      let (given, left, n) := takePlaces places (a :: rest) places.length
      given.forM check
      if n = 0 then
        let skipped := rest.takeWhile (!·.mark.isOption)
        let more ← collect options check left (rest.drop skipped.length)
        return more.before given (a.text :: skipped.map Argument.text)
      else
        let more ← collect options check left (rest.drop (n - 1))
        return more.before given []
  termination_by _ args => args.length

/-- Reads arguments of a form. -/
def read (form : Form κ) (check : Given κ → Except Stop Unit) (args : List Text) : Except Stop (Collected κ) := do
  collect form.options check form.places (← mark form.options args)

end Arguments

end GameSource
