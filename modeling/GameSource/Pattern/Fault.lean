import GameSource.Number.Literal
import GameSource.Text.Quoted
/-!
# What can be wrong with a search pattern
-/
namespace GameSource

/-- Why a search pattern cannot be read.  A `token` is a character, or a backslash with the one behind it. -/
inductive PatternCause where
  | danglingEscape
  | badEscape (escape : Text)
  | incompleteEscape (escape : Text)
  | octalTooLarge (escape : Text)
  | missingBrace
  | unknownCharacterName (name : Text)
  | openGroup
  | groupInLookbehind
  | unknownGroup (group : Nat)
  | unknownGroupName (name : Text)
  | badGroupName (name : Text)
  | badGroupNumber
  | redefinedGroup (name : Text) (group earlier : Nat)
  | missingName (what : String)
  | unterminatedName (terminator : Char)
  | unterminatedSet
  | badRange (low high : Text)
  | repeatBounds
  | repeatTooLarge
  | nothingToRepeat
  | multipleRepeat
  | unexpectedEnd
  | unknownExtension (token : Text)
  | unterminatedComment
  | unterminatedGroup
  | unbalancedParenthesis
  | thirdBranch
  | lateFlags
  | localeFlag
  | incompatibleFlags
  | unknownFlag
  | missingFlagEnd
  | missingFlag
  | missingColon
  | turnOnGlobal
  | turnOffGlobal
  | turnOffType
  | onAndOff
  | variableLookbehind
  | wideLookbehind
  | repeatRefused (word : String)
  | mixedAlphabets
  | digits (e : DigitLimit)
  deriving DecidableEq, Repr

def PatternCause.message : PatternCause → String
  | danglingEscape => "bad escape (end of pattern)"
  | badEscape e => "bad escape " ++ .ofList e
  | incompleteEscape e => "incomplete escape " ++ .ofList e
  | octalTooLarge e => "octal escape value " ++ .ofList e ++ " outside of range 0-0o377"
  | missingBrace => "missing \x7b"
  | unknownCharacterName name => "undefined character name " ++ .ofList (quoted name)
  | openGroup => "cannot refer to an open group"
  | groupInLookbehind => "cannot refer to group defined in the same lookbehind subpattern"
  | unknownGroup n => "invalid group reference " ++ toString n
  | unknownGroupName name => "unknown group name " ++ .ofList (quoted name)
  | badGroupName name => "bad character in group name " ++ .ofList (quoted name)
  | badGroupNumber => "bad group number"
  | redefinedGroup name group earlier =>
    "redefinition of group name " ++ .ofList (quoted name) ++ " as group " ++ toString group ++ "; was group "
      ++ toString earlier
  | missingName what => "missing " ++ what
  | unterminatedName c => "missing " ++ .ofList [c] ++ ", unterminated name"
  | unterminatedSet => "unterminated character set"
  | badRange low high => "bad character range " ++ .ofList low ++ "-" ++ .ofList high
  | repeatBounds => "min repeat greater than max repeat"
  | repeatTooLarge => "the repetition number is too large"
  | nothingToRepeat => "nothing to repeat"
  | multipleRepeat => "multiple repeat"
  | unexpectedEnd => "unexpected end of pattern"
  | unknownExtension token => "unknown extension ?" ++ .ofList token
  | unterminatedComment => "missing ), unterminated comment"
  | unterminatedGroup => "missing ), unterminated subpattern"
  | unbalancedParenthesis => "unbalanced parenthesis"
  | thirdBranch => "conditional backref with more than two branches"
  | lateFlags => "global flags not at the start of the expression"
  | localeFlag => "bad inline flags: cannot use 'L' flag with a str pattern"
  | incompatibleFlags => "bad inline flags: flags 'a', 'u' and 'L' are incompatible"
  | unknownFlag => "unknown flag"
  | missingFlagEnd => "missing -, : or )"
  | missingFlag => "missing flag"
  | missingColon => "missing :"
  | turnOnGlobal => "bad inline flags: cannot turn on global flag"
  | turnOffGlobal => "bad inline flags: cannot turn off global flag"
  | turnOffType => "bad inline flags: cannot turn off flags 'a', 'u' and 'L'"
  | onAndOff => "bad inline flags: flag turned on and off"
  | variableLookbehind => "look-behind requires fixed-width pattern"
  | wideLookbehind => "looks too much behind"
  | repeatRefused word => "internal: unsupported template operator " ++ word
  | mixedAlphabets => "ASCII and UNICODE flags are incompatible"
  | digits e => e.message

/-- Whether the cause lies in how the pattern is written.  The others are numbers that are too large, and flags that
contradict one another. -/
def PatternCause.isForm : PatternCause → Bool
  | repeatTooLarge | mixedAlphabets | digits _ => false
  | _ => true

/-- A cause, and the number of characters before the place in the pattern where it shows, if it has one. -/
structure PatternFault where
  cause : PatternCause
  position : Option Nat
  deriving DecidableEq, Repr

/-- The text of a fault of `pattern`.  A place in a pattern of several lines is also told by line and column. -/
def PatternFault.message (pattern : Text) (e : PatternFault) : String :=
  match e.position with
  | none => e.cause.message
  | some n =>
    let text := e.cause.message ++ " at position " ++ toString n
    if pattern.contains '\n' then
      let before := pattern.take n
      let column := (before.reverse.takeWhile (· != '\n')).length + 1
      text ++ " (line " ++ toString (before.count '\n' + 1) ++ ", column " ++ toString column ++ ")"
    else text

end GameSource
