import GameSource.Text.Scan
import GameSource.Pattern.Fault
/-!
# Comments, string literals and continued lines

What is taken out of a source text before anything is looked for in it.  A block comment leaves its line feeds behind
(`blockComment?`), so that the lines after it keep their numbers; string literals protect comment marks inside them
(`comment?`).
-/
namespace GameSource

/-! ## Comments of C -/

/-- A string literal whose opening quote has been read: its characters with the closing quote, and the rest. -/
def literalTail? : Text → Option (Text × Text)
  | [] => none
  | '"' :: rest => some (['"'], rest)
  | '\n' :: _ => none
  | ['\\'] => none
  | '\\' :: c :: rest => (literalTail? rest).map fun (body, rest) => ('\\' :: c :: body, rest)
  | c :: rest => (literalTail? rest).map fun (body, rest) => (c :: body, rest)

/-- A block comment whose opening has been read: its line feeds, and the rest behind its end. -/
def blockComment? : Text → Option (Text × Text)
  | [] => none
  | '*' :: '/' :: rest => some ([], rest)
  | c :: rest => (blockComment? rest).map fun (kept, rest) => (if c = '\n' then c :: kept else kept, rest)

/-- At a string literal, the literal itself; at a comment, the line feeds in it. -/
def comment? : Text → Option (Text × Text)
  | '"' :: rest => (literalTail? rest).map fun (body, rest) => ('"' :: body, rest)
  | '/' :: '/' :: rest => some ([], rest.dropWhile (· != '\n'))
  | '/' :: '*' :: rest => blockComment? rest
  | _ => none

/-- At a backslash that only white space parts from the end of its line, what follows that line end. -/
def continuation? : Text → Option (Text × Text)
  | '\\' :: rest =>
    match rest.dropWhile isInlineSpace with
    | '\n' :: rest => some ([], rest)
    | _ => none
  | _ => none

/-- The text without comments, and with continued lines joined. -/
def eraseComments (t : Text) : Text := replace continuation? (replace comment? t)

/-! ## String literals -/

/-- A line without what stands from its first to its last double quote, if it has two. -/
def eraseQuoted (line : Text) : Text :=
  if 2 ≤ line.count '"' then
    line.takeWhile (· != '"') ++ (line.reverse.takeWhile (· != '"')).reverse
  else line

def eraseStringLiterals (t : Text) : Text := Text.unlines ((Text.lines t).map eraseQuoted)

/-- The text in which defines and enums are looked for. -/
def bareText (t : Text) : Text := eraseStringLiterals (eraseComments t)

/-! ## Comments to the end of the line -/

/-- At a comment that `symbol` begins, whose last character may be repeated, what follows the comment's line. -/
def lineComment? (symbol t : Text) : Option (Text × Text) :=
  (Text.after? symbol t).map fun rest =>
    ([], (rest.dropWhile fun c => symbol.getLast? == some c).dropWhile (· != '\n'))

/-- The text without the comments that `symbol` begins.  An empty symbol begins no comment. -/
def eraseLineComments (symbol t : Text) : Text := replace (lineComment? symbol) t

/-- The text without the comments of each symbol, one symbol after the other. -/
def eraseLineCommentsAll (symbols : List Text) (t : Text) : Text :=
  symbols.foldl (fun t symbol => eraseLineComments symbol t) t

/-- The same for symbols that may be empty: an empty one has nothing that could be repeated. -/
def eraseLineComments? (symbols : List Text) (t : Text) : Except PatternFault Text :=
  if symbols.any List.isEmpty then .error ⟨.nothingToRepeat, some 0⟩ else .ok (eraseLineCommentsAll symbols t)

end GameSource
