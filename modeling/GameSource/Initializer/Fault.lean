import GameSource.Text.Locate
/-!
# What can be wrong with an initializer
-/
namespace GameSource

/-- What stops the reading of tokens. -/
inductive LexCause where
  | unterminatedComment | unterminatedString | unterminatedChar | unexpectedCharacter
  deriving DecidableEq, Repr

/-- What stops the reading of a list of values. -/
inductive ParseCause where
  | expectedSeparator
  | expectedSign (c : Char)
  | unterminatedList
  | expectedValue
  | unbalanced
  deriving DecidableEq, Repr

def LexCause.message : LexCause → String
  | unterminatedComment => "Unterminated block comment"
  | unterminatedString => "Unterminated string literal"
  | unterminatedChar => "Unterminated character constant"
  | unexpectedCharacter => "Unexpected character"

def ParseCause.message : ParseCause → String
  | expectedSeparator => "Expected ',' or '\x7d'"
  | expectedSign c => "Expected '" ++ .ofList [c] ++ "'"
  | unterminatedList => "Unterminated initializer list"
  | expectedValue => "Expected initializer value"
  | unbalanced => "Unbalanced brackets"

structure LexFault where
  cause : LexCause
  position : Position
  deriving DecidableEq, Repr

structure ParseFault where
  cause : ParseCause
  position : Position
  deriving DecidableEq, Repr

/-- A message and the place it is about. -/
def messageAt (message : String) (p : Position) : String :=
  message ++ " at " ++ toString p.line ++ ":" ++ toString p.column

def LexFault.message (e : LexFault) : String := messageAt e.cause.message e.position

def ParseFault.message (e : ParseFault) : String := messageAt e.cause.message e.position

/-- A fault of either kind. -/
inductive InitializerFault where
  | lex (e : LexFault)
  | parse (e : ParseFault)
  deriving DecidableEq, Repr

def InitializerFault.message : InitializerFault → String
  | lex e => e.message
  | parse e => e.message

end GameSource
