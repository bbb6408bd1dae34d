import GameSource.Define.Table
import GameSource.Expr.Evaluate
import GameSource.Notice
import GameSource.Text.Locate
/-!
# Sessions: the values of defines

A session evaluates names on demand.  A name that an expression mentions is resolved first, each value is kept for the
rest of the session, and a name that is met again while it is being resolved counts as 0 and is told as circular.

Each nested resolution takes a name out of the pending ones, so there are never more of them at a time than pending
names; `lookup` counts that depth down, and `Session.depth` is enough for it.  A step that a number stops
(`DigitLimit`) keeps what was done before.
-/
namespace GameSource

/-! ## State -/

/-- What happened in a session. -/
inductive SessionEvent where
  /-- The evaluation of an expression began, on behalf of a name. -/
  | began (context expression : Text)
  /-- A diagnostic was recorded for the name under evaluation. -/
  | recorded (context : Text) (d : Diagnostic)
  /-- A name that the expression of `context` mentions was looked up. -/
  | answered (context name : Text) (value : Option Int)
  | noticed (n : Notice)
  deriving DecidableEq, Repr

structure Session where
  /-- The names not yet resolved, and their expressions. -/
  pending : Entries Text Text
  known : Entries Text Int
  /-- The diagnostics of each name, with copies of those of the names it depends on. -/
  errors : Entries Text (List Diagnostic) := []
  /-- The names under evaluation, the innermost first. -/
  resolving : List Text := []
  /-- What happened so far, the latest first. -/
  journal : List SessionEvent := []
  /-- The text in which problems are located. -/
  text : Text := []
  filename : Text := "<input>".toList

namespace Session

/-- The constants that need no definition. -/
def constants : Entries Text Int :=
  [("FALSE".toList, 0), ("TRUE".toList, 1), ("SCHAR_MIN".toList, -128), ("SCHAR_MAX".toList, 127),
    ("CHAR_MIN".toList, -128), ("CHAR_MAX".toList, 127), ("UCHAR_MAX".toList, 255), ("SHRT_MIN".toList, -32768),
    ("SHRT_MAX".toList, 32767), ("USHRT_MAX".toList, 65535), ("INT_MIN".toList, -2147483648),
    ("INT_MAX".toList, 2147483647), ("UINT_MAX".toList, wrap32 4294967295)]

/-- A session over a table of expressions; the values given come before those of the table. -/
def start (expressions : Entries Text Text) (values : Entries Text Int) (text filename : Text) : Session :=
  { pending := expressions, known := constants.putAll values, text, filename }

/-- The names whose values `after` knows and `before` did not, in the order in which they were learned. -/
def learned (before after : Session) : Entries Text Int :=
  after.known.filter fun e => !before.known.contains e.1

/-- The notices of `after` that `before` had not given yet, in order. -/
def noticesSince (before after : Session) : List Notice :=
  (after.journal.take (after.journal.length - before.journal.length)).reverse.filterMap fun
    | .noticed n => some n
    | _ => none

def notices (s : Session) : List Notice :=
  s.journal.reverse.filterMap fun
    | .noticed n => some n
    | _ => none

/-- More than the number of resolutions that can be nested. -/
def depth (s : Session) : Nat := s.pending.length + 1

end Session

/-- A step of a session: a value or what stopped it, and the session after it. -/
abbrev SessionStep := ExceptT DigitLimit (StateM Session)

namespace SessionStep

/-! ## Problems and notices -/

def happen (e : SessionEvent) : SessionStep Unit :=
  modify fun s => { s with journal := e :: s.journal }

/-- Adds diagnostics to those of a name. -/
def addErrors (context : Text) (ds : List Diagnostic) : SessionStep Unit :=
  modify fun s => { s with errors := s.errors.put context ((s.errors.find? context).getD [] ++ ds) }

/-- The diagnostic of a problem, placed where its fragment first stands in the text. -/
def diagnose (s : Session) (p : Problem) : Diagnostic :=
  let place := if p.fragment.isEmpty || s.text.isEmpty then none else Position.ofPart? s.text p.fragment
  { stage := .define, filename := s.filename, cause := .problem p,
    line := place.map fun q => q.line, column := place.map fun q => q.column }

/-- Records a problem for the name under evaluation. -/
def record (context : Text) (p : Problem) : SessionStep Unit := do
  let d := diagnose (← get) p
  happen (.recorded context d)
  addErrors context [d]

def recordAll (context : Text) (ps : List Problem) : SessionStep Unit := ps.forM (record context)

/-- Tells the problems of a name, if it has any. -/
def tellProblems (name : Text) : SessionStep Unit := do
  match (← get).errors.find? name with
  | none | some [] => pure ()
  | some ds => happen (.noticed (.defineProblems name ds))

/-! ## Evaluation -/

/-- Goes on with a value, or stops. -/
def ofExcept {α : Type} : Except DigitLimit α → SessionStep α
  | .ok v => pure v
  | .error e => throw e

/-- The tokens of lexemes, where `lookup` answers names one after the other.  A value that cannot be written stops the
step before the names behind it are looked up. -/
def tokens (lookup : Text → SessionStep (Option Int)) (context : Text) : List Lexeme → SessionStep (List Token)
  | [] => pure []
  | l :: ls => do
    let answer ← if l.kind = .identifier then lookup l.text else pure none
    let t ← ofExcept (Token.ofLexeme l answer)
    recordAll context (Problem.ofLexeme? l answer).toList
    return t :: (← tokens lookup context ls)

/-- Evaluates an expression on behalf of `context`. -/
def evaluateWith (lookup : Text → Text → SessionStep (Option Int)) (context expression : Text) :
    SessionStep Int := do
  happen (.began context expression)
  let (ls, rest) := lexemes expression
  let ts ← tokens (lookup context) context ls
  if !rest.isEmpty then happen (.noticed (.untokenized rest))
  let ordered := Postfix.ofTokens ts
  recordAll context ordered.problems
  let result := Evaluation.ofTokens ordered.tokens
  recordAll context result.problems
  ofExcept result.value

/-- Marks a name as under evaluation during a step, also when the step fails. -/
def resolving (name : Text) (step : SessionStep Int) : SessionStep Int := do
  modify fun s => { s with resolving := name :: s.resolving }
  tryFinally step (modify fun s => { s with resolving := s.resolving.filter (· ≠ name) })

/-- Resolves a name, from the expression given or from its pending one, which it takes out. -/
def resolveWith (lookup : Text → Text → SessionStep (Option Int)) (name : Text) (expression : Option Text) :
    SessionStep Int := do
  let own := (← get).pending.find? name
  modify fun s => { s with pending := s.pending.erase name }
  match (← get).known.find? name, expression.or own with
  | some v, _ => return v
  | none, none =>
    record name (.noDefinition name)
    return 0
  | none, some expression =>
    let v ← resolving name (evaluateWith lookup name expression)
    modify fun s => { s with known := s.known.put name v }
    return v

/-- The value of a name that an expression mentions; `resolve` is for a pending one. -/
def lookupWith (resolve : Text → SessionStep Int) (context name : Text) : SessionStep (Option Int) := do
  let s ← get
  if s.resolving.contains name then
    record context (.circularDependency name)
    return some 0
  if s.pending.contains name then
    let _ ← resolve name
  let s ← get
  match s.known.find? name with
  | none => return none
  | some v =>
    if name ≠ context then
      match s.errors.find? name with
      | none => pure ()
      | some ds => addErrors context ds
    return some v

/-- Keeps the answer to a name in the journal. -/
def noted (look : Text → Text → SessionStep (Option Int)) (context name : Text) : SessionStep (Option Int) := do
  let answer ← look context name
  happen (.answered context name answer)
  return answer

/-- The value of a name that an expression mentions, with at most `depth` nested resolutions. -/
def lookup : (depth : Nat) → (context name : Text) → SessionStep (Option Int)
  | 0 => noted (lookupWith fun _ => pure 0)
  | depth + 1 => noted (lookupWith fun name => resolveWith (lookup depth) name none)

/-! ## The steps of a session -/

/-- The value of a name: the known one, or that of the expression given or pending, and 0 if there is none. -/
def resolve (name : Text) (expression : Option Text := none) : SessionStep Int := do
  resolveWith (lookup (← get).depth) name expression

/-- The value of an expression, whose problems are recorded for `context`. -/
def evaluate (expression : Text) (context : Text := "<expression>".toList) : SessionStep Int := do
  evaluateWith (lookup (← get).depth) context expression

/-- Resolves one requested name and tells its problems.  A name with a blank expression has no value, and neither has
one that is neither pending nor known. -/
def request (name : Text) (values : Entries Text Int) : SessionStep (Entries Text Int) := do
  let s ← get
  modify fun s => { s with pending := s.pending.erase name }
  match s.pending.find? name with
  | some expression =>
    if (Text.trim expression).isEmpty then return values
    let v ← resolve name expression
    tellProblems name
    return values.put name v
  | none =>
    if s.known.contains name then
      let v ← resolve name
      tellProblems name
      return values.put name v
    else
      happen (.noticed (.noDefinition name))
      return values

/-- Resolves names in order. -/
def requestAll (names : List Text) : SessionStep (Entries Text Int) :=
  names.foldlM (fun values name => request name values) []

end SessionStep

/-! ## Whole evaluations -/

/-- The values of the names that a table has matched, and the session after it. -/
def DefineTable.evaluate (table : DefineTable) (values : Entries Text Int) (text filename : Text) :
    Except DigitLimit (Entries Text Int) × Session :=
  (SessionStep.requestAll table.matched).run.run (Session.start table.expressions values text filename)

/-- The value of an expression, and the session that evaluated it and told its problems. -/
def evaluateIn (session : Session) (expression : Text) : Except DigitLimit Int × Session :=
  let step : SessionStep Int := do
    let v ← SessionStep.evaluate expression
    SessionStep.tellProblems "<expression>".toList
    return v
  step.run.run session

/-- The value of an expression over values given by name, and the session that evaluated it. -/
def evaluateOverValues (expression : Text) (values : Entries Text Int) : Except DigitLimit Int × Session :=
  evaluateIn (Session.start [] values [] "<input>".toList) expression

end GameSource
