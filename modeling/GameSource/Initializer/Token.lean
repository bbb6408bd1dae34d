import GameSource.Initializer.Fault
import GameSource.Text.Basic
/-!
# Tokens of initializers

The text of a data table is cut into pieces: blanks, comments, directive lines and tokens (`piecesFrom`).  The pieces in
order are the text that was read, which places every token (`placeTokens`).
-/
namespace GameSource

/-! ## Joined lines -/

/-- A backslash at the end of a line joins it to the next one. -/
def spliceLines : Text → Text
  | '\\' :: '\n' :: cs => spliceLines cs
  | c :: cs => c :: spliceLines cs
  | [] => []

/-- The text that is cut into pieces: uniform line ends, joined lines. -/
def canonicalSource (t : Text) : Text := spliceLines (unifyLineEnds t)

namespace Initializer

/-! ## Tokens -/

inductive TokenKind where
  | identifier | number | charConstant | string | punctuator
  deriving DecidableEq, Repr

structure Token where
  kind : TokenKind
  text : Text
  position : Position
  deriving DecidableEq, Repr

/-- The punctuators, a longer one before the shorter ones that it begins with. -/
def punctuators : List Text :=
  ["...", ">>=", "<<=", "->", "++", "--", "&&", "||", "<=", ">=", "==", "!=", "<<", ">>", "[", "]", "(", ")", "\x7b",
    "\x7d", ".", "&", "*", "+", "-", "~", "!", "/", "%", "<", ">", "^", "|", "?", ":", ";", "=", ","].map String.toList

/-- The characters between tokens. -/
def isBlank (c : Char) : Bool := c == ' ' || c == '\t' || c == '\x0b' || c == '\x0c' || c == '\n'

/-- Reads on from behind an opening quote: whether the closing quote was found on the way, and how many characters
were read.  A backslash takes any character along; a line feed ends the reading. -/
def readQuoted (quote : Char) : Text → Bool × Nat
  | [] => (false, 0)
  | c :: d :: cs =>
    if c = quote then (true, 1)
    else if c = '\n' then (false, 1)
    else if c = '\\' then
      let (closed, n) := readQuoted quote cs
      (closed, n + 2)
    else
      let (closed, n) := readQuoted quote (d :: cs)
      (closed, n + 1)
  | [c] => (c == quote, 1)

/-- The number of characters up to the end of a block comment whose opening has been read. -/
def blockLength? : Text → Option Nat
  | [] => none
  | '*' :: '/' :: _ => some 2
  | _ :: cs => (blockLength? cs).map (· + 1)

def isExponentMark (c : Char) : Bool := c == 'e' || c == 'E' || c == 'p' || c == 'P'

def isSign (c : Char) : Bool := c == '+' || c == '-'

/-- The number of characters that go on with a number: letters, digits, points, underscores, and a sign behind an
exponent mark. -/
def numberTail : Text → Nat
  | [] => 0
  | [c] => if isWord c || c == '.' then 1 else 0
  | c :: d :: cs =>
    if isExponentMark c && isSign d then numberTail cs + 2
    else if isWord c || c == '.' then numberTail (d :: cs) + 1
    else 0

/-- Whether a number begins the text: a digit, or a point and a digit. -/
def beginsNumber : Text → Bool
  | c :: cs => isDigit c || (c == '.' && cs.head?.any isDigit)
  | [] => false

/-! ## Pieces -/

inductive PieceKind where
  | blank | comment | directive
  | token (k : TokenKind)
  deriving DecidableEq, Repr

structure Piece where
  kind : PieceKind
  text : Text
  deriving DecidableEq, Repr

/-- The kind and the length of the piece that begins a text, or what is wrong with it and how far it was read.
`lineStart` says that only white space stands before it on its line. -/
def piece? (lineStart : Bool) (t : Text) : Except (LexCause × Nat) (PieceKind × Nat) :=
  match t with
  | [] => .error (.unexpectedCharacter, 0)
  | c :: cs =>
    let lineLength := (t.takeWhile (· != '\n')).length
    if isBlank c then .ok (.blank, 1)
    else if c = '#' ∧ lineStart then .ok (.directive, lineLength)
    else if c = '/' ∧ cs.head? = some '/' then .ok (.comment, lineLength)
    else if c = '/' ∧ cs.head? = some '*' then
      match blockLength? cs.tail with
      | some n => .ok (.comment, n + 2)
      | none => .error (.unterminatedComment, t.length)
    else if c = '"' then
      match readQuoted c cs with
      | (true, n) => .ok (.token .string, n + 1)
      | (false, n) => .error (.unterminatedString, n + 1)
    else if c = '\'' then
      match readQuoted c cs with
      | (true, n) => .ok (.token .charConstant, n + 1)
      | (false, n) => .error (.unterminatedChar, n + 1)
    else if beginsNumber t then .ok (.token .number, numberTail cs + 1)
    else if c == '_' || isLetter c then .ok (.token .identifier, (t.takeWhile isWord).length)
    else
      match punctuators.find? fun p => (Text.after? p t).isSome with
      | some p => .ok (.token .punctuator, p.length)
      | none => .error (.unexpectedCharacter, 0)

/-- The pieces of a text, and where they stop: what is wrong, and the text that was read of the bad piece. -/
structure Pieces where
  pieces : List Piece
  fault : Option (LexCause × Text)

/-- Skips `skip` characters, then cuts the text into pieces. -/
def piecesFrom : (skip : Nat) → (lineStart : Bool) → Text → Pieces
  | _, _, [] => ⟨[], none⟩
  | skip + 1, lineStart, c :: cs => piecesFrom skip (c == '\n' || (lineStart && isSpace c)) cs
  | 0, lineStart, c :: cs =>
    match piece? lineStart (c :: cs) with
    | .error (cause, n) => ⟨[], some (cause, (c :: cs).take n)⟩
    | .ok (kind, n) =>
      let rest := piecesFrom (n - 1) (c == '\n' || (lineStart && isSpace c)) cs
      { rest with pieces := ⟨kind, (c :: cs).take n⟩ :: rest.pieces }

/-- The tokens among pieces that begin at a place, and the place behind the pieces. -/
def placeTokens : Position → List Piece → List Token × Position
  | p, [] => ([], p)
  | p, piece :: ps =>
    let (ts, stop) := placeTokens (p.after piece.text) ps
    match piece.kind with
    | .token k => (⟨k, piece.text, p⟩ :: ts, stop)
    | _ => (ts, stop)

/-- The tokens of a text, and the place of its end. -/
structure Lexed where
  tokens : List Token
  stop : Position

/-- Reads the tokens of a source text. -/
def lex (source : Text) : Except LexFault Lexed :=
  let cut := piecesFrom 0 true (canonicalSource source)
  let (tokens, stop) := placeTokens .start cut.pieces
  match cut.fault with
  | none => .ok ⟨tokens, stop⟩
  | some (cause, text) => .error ⟨cause, stop.after text⟩

/-! ## Printing -/

def isPunctuator (c : Char) (t : Token) : Bool := t.kind == .punctuator && t.text == [c]

/-- The texts behind which no space is put. -/
def joinsNext : List Text := ["(", "[", ".", "~", "!", "->"].map String.toList

/-- The texts before which no space is put. -/
def joinsPrevious : List Text := [")", "]", ",", ".", "->"].map String.toList

/-- The signs that bind to what follows unless an operand stands before them. -/
def unarySigns : List Text := ["-", "+", "&", "*"].map String.toList

/-- Whether an operand may end with the token. -/
def endsOperand (t : Token) : Bool :=
  t.kind != .punctuator || isPunctuator ')' t || isPunctuator ']' t

/-- Whether a space stands between two tokens; `earlier` is the one before them. -/
def spaced (earlier : Option Token) (previous t : Token) : Bool :=
  !(joinsNext.contains previous.text || joinsPrevious.contains t.text ||
    ((t.text == ['('] || t.text == ['[']) && previous.kind == .identifier) ||
    (unarySigns.contains previous.text && !earlier.any endsOperand))

/-- The text of tokens, given the two before them, the nearer one last. -/
def renderFrom : (earlier previous : Option Token) → List Token → Text
  | _, _, [] => []
  | earlier, previous, t :: ts =>
    let space := if previous.any (spaced earlier · t) then [' '] else []
    space ++ t.text ++ renderFrom previous (some t) ts

/-- Tokens in one line, with spaces where they are usual. -/
def render (ts : List Token) : Text := renderFrom none none ts

end Initializer

end GameSource
