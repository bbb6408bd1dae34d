import GameSource.Entries
import GameSource.Diagnostic
import GameSource.Text.Comments
import GameSource.Number.Literal
import GameSource.Pattern.Reading
import GameSource.Pattern.Match
/-!
# Tables of defines

Every `#define` without parameters and every element of an `enum` gives a name an expression, which is kept as text.
The first expression of a name stands (`DefineTable.add`).  All names are collected, so that any of them can be looked
up; a filter only says which of them are asked for.
-/
namespace GameSource

/-! ## Filters -/

/-- Which names are asked for. -/
inductive DefineFilter where
  | names (names : List Text)
  | patterns (patterns : List Pattern)

namespace DefineFilter

def accepts : DefineFilter → Text → Bool
  | names ns, name => ns.contains name
  | patterns ps, name => ps.any (·.search name)

/-- Reads search patterns; the first one that cannot be read is a fault. -/
def ofPatterns (patterns : List Text) : Except BadPattern DefineFilter :=
  (patterns.mapM fun p => (Pattern.read p).mapError (BadPattern.mk p)).map .patterns

/-- A filter of exact names or of search patterns. -/
def read (asPatterns : Bool) (filters : List Text) : Except BadPattern DefineFilter :=
  if asPatterns then ofPatterns filters else .ok (.names filters)

end DefineFilter

/-! ## Directives and enums -/

/-- At a `#define` directive, its name and its trimmed value.  A name that an opening parenthesis or any other sign
follows at once is no object-like define. -/
def defineDirective? : Text → Option ((Text × Text) × Text)
  | '#' :: rest => do
    let rest ← Text.after? "define".toList (rest.dropWhile isInlineSpace)
    let rest ← Text.dropSome? isInlineSpace rest
    let name := rest.takeWhile isWord
    let rest := rest.dropWhile isWord
    if name.isEmpty then none
    else if rest.head?.all fun c => c == '\n' || isInlineSpace c then
      some ((name, Text.trim (rest.takeWhile (· != '\n'))), rest.dropWhile (· != '\n'))
    else none
  | _ => none

/-- At an `enum` with a brace before the next semicolon, what stands between the braces. -/
def enumBody? (before : Option Char) (t : Text) : Option (Text × Text) := do
  let rest ← Text.after? "enum".toList t
  if before.any isWord || rest.head?.any isWord then none
  else
    match rest.dropWhile fun c => c != '{' && c != ';' with
    | '{' :: rest => Text.until? '}' rest
    | _ => none

/-- A piece of a source text that defines names. -/
inductive Definition where
  | define (name value : Text)
  | enumeration (body : Text)
  deriving DecidableEq, Repr

def definition? : Recognizer Definition := fun before t =>
  match defineDirective? t with
  | some ((name, value), rest) => some (.define name value, rest)
  | none => (enumBody? before t).map fun (body, rest) => (.enumeration body, rest)

/-! ## Elements of enums -/

/-- The text with its directive lines left empty. -/
def eraseDirectives (t : Text) : Text :=
  Text.unlines ((Text.lines t).map fun line =>
    if (line.dropWhile isInlineSpace).head? == some '#' then [] else line)

/-- At a name, the name and its trimmed initializer, up to the next comma. -/
def enumElement? : Recognizer (Text × Text) := fun before t =>
  let name := t.takeWhile isWord
  if name.isEmpty || before.any isWord then none
  else
    let rest := (Text.dropOne '=' ((t.dropWhile isWord).dropWhile isSpace)).dropWhile isSpace
    some ((name, Text.trim (rest.takeWhile (· != ','))), rest.dropWhile (· != ','))

/-- The expression that lies `n` above a base. -/
def offsetExpression (base : Text) (n : Nat) : Text :=
  '(' :: '(' :: base ++ [')', '+'] ++ (toString n).toList ++ [')']

/-- Gives each element its expression: its initializer, or the distance from the latest initializer before it. -/
def countElements : (base : Text) → (offset : Nat) → List (Text × Text) → List (Text × Text)
  | _, _, [] => []
  | base, offset, (name, initializer) :: es =>
    if initializer.isEmpty then (name, offsetExpression base offset) :: countElements base (offset + 1) es
    else (name, initializer) :: countElements initializer 1 es

/-- The names of an enum's body and their expressions; without an initializer they count from 0. -/
def enumElements (body : Text) : List (Text × Text) :=
  countElements ['0'] 0 (scan enumElement? (eraseDirectives body))

/-- The names that a definition gives, with their expressions. -/
def Definition.elements : Definition → List (Text × Text)
  | define name value => [(name, value)]
  | enumeration body => enumElements body

/-! ## Tables -/

structure DefineTable where
  expressions : Entries Text Text := []
  /-- The names that the filter accepts, in the order of their first definitions. -/
  matched : List Text := []

namespace DefineTable

/-- Adds a name unless the table has it. -/
def add (filter : DefineFilter) (t : DefineTable) (name expression : Text) : DefineTable :=
  if t.expressions.contains name then t
  else ⟨t.expressions ++ [(name, expression)], if filter.accepts name then t.matched ++ [name] else t.matched⟩

/-- The table of the names that a text without comments and string literals defines. -/
def ofPrepared (filter : DefineFilter) (t : Text) : DefineTable :=
  ((scan definition? t).flatMap Definition.elements).foldl (fun table e => table.add filter e.1 e.2) {}

end DefineTable

/-- Collects the defines and enum elements of a source text. -/
def DefineTable.ofSource (filter : DefineFilter) (t : Text) : DefineTable := .ofPrepared filter (bareText t)

end GameSource
