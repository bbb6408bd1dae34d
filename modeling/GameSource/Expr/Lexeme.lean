import GameSource.Expr.Operator
import GameSource.Expr.Problem
import GameSource.Number.Literal
/-!
# Lexemes and tokens of expressions

An expression is read as a list of lexemes with white space between them, up to the first place where none begins
(`lexemes`).  A lexeme becomes a token once the names are answered (`Token.ofLexeme`): a name with a value is a number
token, one without is an error token and a problem.  The value is written out for the token, so one with too many digits
stops the reading.
-/
namespace GameSource

/-! ## Lexemes -/

inductive LexemeKind where
  | number | identifier | operator | parenthesis
  deriving DecidableEq, Repr

structure Lexeme where
  kind : LexemeKind
  text : Text
  /-- The expression from the lexeme on. -/
  rest : Text
  deriving DecidableEq, Repr

/-- A number ends where a word ends. -/
def endsWord (rest : Text) : Bool := !rest.head?.any isWord

/-- The number of characters of the number that begins a text: hexadecimal or decimal digits, a suffix, and then the
end of the word. -/
def numberLength? (t : Text) : Option Nat :=
  let length? (leading : Nat) (isDigit : Char → Bool) : Option Nat :=
    let digits := (t.drop leading).takeWhile isDigit
    let suffix := ((t.drop leading).dropWhile isDigit).takeWhile isSuffixLetter
    let length := leading + digits.length + suffix.length
    if digits ≠ [] ∧ endsWord (t.drop length) then some length else none
  if t.head? == some '0' && (t[1]? == some 'x' || t[1]? == some 'X') then length? 2 isHexDigit
  else length? 0 Char.isDigit

/-- A character of which runs are read as one operator. -/
def isOperatorChar (c : Char) : Bool :=
  c == '+' || c == '-' || c == '*' || c == '/' || c == '<' || c == '>' || c == '|' || c == '^' || c == '%' || c == '&'

/-- The kind and the number of characters of the lexeme that begins a text. -/
def lexeme? (t : Text) : Option (LexemeKind × Nat) :=
  match t with
  | [] => none
  | c :: _ =>
    match numberLength? t with
    | some n => some (.number, n)
    | none =>
      if isAsciiWord c then some (.identifier, (t.takeWhile isAsciiWord).length)
      else if isOperatorChar c then some (.operator, (t.takeWhile isOperatorChar).length)
      else if c = '(' ∨ c = ')' then some (.parenthesis, 1)
      else none

/-- Skips `skip` characters, then reads lexemes to the end or to the first place where none begins. -/
def lexemesFrom : (skip : Nat) → Text → List Lexeme × Text
  | _, [] => ([], [])
  | skip + 1, _ :: cs => lexemesFrom skip cs
  | 0, c :: cs =>
    if isSpace c then lexemesFrom 0 cs
    else match lexeme? (c :: cs) with
      | none => ([], c :: cs)
      | some (kind, n) =>
        let (ls, rest) := lexemesFrom (n - 1) cs
        (⟨kind, (c :: cs).take n, c :: cs⟩ :: ls, rest)

/-- The lexemes of an expression, and what is left where none begins. -/
def lexemes (expression : Text) : List Lexeme × Text := lexemesFrom 0 (Text.trim expression)

/-! ## Tokens -/

inductive TokenKind where
  | number | operator | error
  deriving DecidableEq, Repr

/-- A token of an expression.  Parentheses are operators without precedence. -/
structure Token where
  text : Text
  kind : TokenKind
  precedence : Option Int := none
  deriving DecidableEq, Repr

/-- The token of a lexeme, where `answer` is the value of a name. -/
def Token.ofLexeme (l : Lexeme) (answer : Option Int) : Except DigitLimit Token :=
  match l.kind, answer with
  | .number, _ => .ok ⟨l.text, .number, none⟩
  | .identifier, none => .ok ⟨l.text, .error, none⟩
  | .identifier, some v => (writeInteger v).map fun t => ⟨t, .number, none⟩
  | .operator, _ => .ok ⟨l.text, .operator, (Operator.ofText? l.text).map fun op => op.precedence⟩
  | .parenthesis, _ => .ok ⟨l.text, .operator, none⟩

/-- What is wrong with a lexeme: a name without a value, a run of operator characters that is no operator. -/
def Problem.ofLexeme? (l : Lexeme) (answer : Option Int) : Option Problem :=
  match l.kind, answer with
  | .identifier, none => some (.unknownToken l.text l.rest)
  | .operator, _ => if (Operator.ofText? l.text).isSome then none else some (.unsupportedOperator l.text l.rest)
  | _, _ => none

/-- What reading an expression comes to. -/
structure Tokenized where
  /-- The tokens, or the value that stopped the reading. -/
  outcome : Except DigitLimit (List Token)
  /-- What was wrong with the lexemes that were read. -/
  problems : List Problem
  /-- What is left where no lexeme begins. -/
  rest : Text

/-- The tokens of an expression, of which there are none if the reading was stopped. -/
def Tokenized.tokens (t : Tokenized) : List Token := t.outcome.toOption.getD []

/-- The value of a lexeme that is a name, if it has one. -/
def Lexeme.answer (values : Text → Option Int) (l : Lexeme) : Option Int :=
  if l.kind = .identifier then values l.text else none

/-- Reads an expression whose names are answered by `values`. -/
def tokenize (values : Text → Option Int) (expression : Text) : Tokenized :=
  let (ls, rest) := lexemes expression
  let token (l : Lexeme) := Token.ofLexeme l (l.answer values)
  let read := ls.takeWhile fun l => (token l).isOk
  ⟨ls.mapM token, read.filterMap fun l => Problem.ofLexeme? l (l.answer values), rest⟩

end GameSource
