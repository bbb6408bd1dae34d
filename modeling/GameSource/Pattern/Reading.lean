import GameSource.Number.Literal
import GameSource.Pattern.Fault
import GameSource.Pattern.Node
import GameSource.Text.CharName
import GameSource.Text.Name
/-!
# Reading search patterns

A pattern is read from left to right, one construct at a time, on a stack of open groups (`Frame`).  A token is one
character, or a backslash with the character behind it; taking a token looks at the next one, and a backslash at the
end of the pattern fails then (`PatternReader.moveTo`).  Each construct takes at least one token, so as many rounds as
there are characters read the whole pattern (`Pattern.read`).
-/
namespace GameSource

/-! ## State -/

/-- The flags in force where a construct stands. -/
structure PatternFlags where
  ignoreCase : Bool := false
  multiline : Bool := false
  dotAll : Bool := false
  verbose : Bool := false
  ascii : Bool := false
  /-- Repetitions are refused. -/
  noRepeat : Bool := false

def PatternFlags.char (f : PatternFlags) : CharFlags := ⟨f.ascii, f.ignoreCase⟩

/-- What an opening parenthesis began. -/
inductive Opening where
  | capture (group : Nat)
  | plain
  /-- A group with flags of its own. -/
  | flagged
  | atomic
  /-- `outermost` when no other look behind is open around it. -/
  | look (behind negated outermost : Bool)
  | conditional (group : Nat)

/-- What a repetition repeats: a node, or a plain group, whose nodes belong to the branch around it. -/
inductive Piece where
  | node (n : Node)
  | group (nodes : List Node)

def Piece.nodes : Piece → List Node
  | node n => [n]
  | group nodes => nodes

/-- An open group, or the whole pattern. -/
structure Frame where
  opening : Opening
  /-- The number of characters before its parenthesis. -/
  start : Nat
  flags : PatternFlags
  /-- The finished branches, the latest first. -/
  branches : List (List Node)
  /-- What the current branch holds so far, the latest first. -/
  pieces : List Piece

namespace Frame

/-- The nodes of the current branch. -/
def branch (f : Frame) : List Node := f.pieces.reverse.flatMap Piece.nodes

/-- What the branches make together. -/
def nodes (f : Frame) : List Node := Node.ofBranches f.flags.char (f.branches.reverse ++ [f.branch])

end Frame

structure PatternState where
  /-- The number of characters of the whole pattern. -/
  size : Nat
  rest : Text
  frame : Frame
  /-- The frames around it, the innermost first. -/
  outer : List Frame
  /-- The number of groups opened so far. -/
  groups : Nat
  names : List (Text × Nat)
  /-- The widths of the groups closed so far. -/
  widths : List (Nat × Width)
  /-- The number of groups opened before the outermost open look behind. -/
  behindGroups : Option Nat
  /-- The groups that conditions ask for by number, and where. -/
  asked : List (Nat × Nat)
  /-- The alphabets that flags for the whole pattern ask for. -/
  alphabets : Text

abbrev PatternReader := StateT PatternState (Except PatternFault)

namespace PatternReader

/-- The number of characters before the next token. -/
def position : PatternReader Nat := do
  let s ← get
  return s.size - s.rest.length

def failAt {α : Type} (n : Nat) (cause : PatternCause) : PatternReader α := throw ⟨cause, some n⟩

/-- Fails `back` characters before the next token. -/
def fail {α : Type} (cause : PatternCause) (back : Nat := 0) : PatternReader α := do
  failAt ((← position) - back) cause

/-! ## Tokens -/

/-- Goes on to the rest given; a backslash at the end of the pattern fails as soon as it comes next. -/
def moveTo (rest : Text) : PatternReader Unit := do
  modify fun s => { s with rest := rest }
  if rest = ['\\'] then fail .danglingEscape

/-- The token that begins a text. -/
def tokenOf : Text → Text
  | '\\' :: c :: _ => ['\\', c]
  | c :: _ => [c]
  | [] => []

/-- The next token, empty at the end. -/
def peek : PatternReader Text := return tokenOf (← get).rest

/-- Takes the next token, empty at the end. -/
def next : PatternReader Text := do
  let token ← peek
  moveTo ((← get).rest.drop token.length)
  return token

/-- Takes the next token if it is the character given. -/
def accept (c : Char) : PatternReader Bool := do
  if (← peek) = [c] then
    let _ ← next
    return true
  else return false

/-- Takes the characters that satisfy `p`, at most `n`. -/
def takeWhile (n : Nat) (p : Char → Bool) : PatternReader Text := do
  let s ← get
  let taken := (s.rest.take n).takeWhile p
  moveTo (s.rest.drop taken.length)
  return taken

/-- The tokens before the first one that is `terminator`, and what follows that one. -/
def splitAtToken (terminator : Char) : Text → Text × Option Text
  | [] => ([], none)
  | ['\\'] => ([], some ['\\'])
  | '\\' :: c :: rest =>
    let (name, tail) := splitAtToken terminator rest
    ('\\' :: c :: name, tail)
  | c :: rest =>
    if c = terminator then ([], some rest)
    else
      let (name, tail) := splitAtToken terminator rest
      (c :: name, tail)

/-- Takes a name and its terminator. -/
def nameUntil (terminator : Char) (what : String) : PatternReader Text := do
  match splitAtToken terminator (← get).rest with
  | (name, none) =>
    moveTo []
    if name.isEmpty then fail (.missingName what) else fail (.unterminatedName terminator) name.length
  | (name, some rest) =>
    moveTo rest
    if name.isEmpty then fail (.missingName what) 1
    return name

/-- Takes the name of a group and its terminator. -/
def groupName (terminator : Char) : PatternReader Text := do
  let name ← nameUntil terminator "group name"
  if !isName name then fail (.badGroupName name) (name.length + 1)
  return name

/-! ## Groups -/

/-- Whether a group has been closed. -/
def isClosed (group : Nat) : PatternReader Bool := return ((← get).widths.lookup group).isSome

/-- Inside a look behind, a group must have been closed before it began. -/
def checkBehind (group : Nat) : PatternReader Unit := do
  match (← get).behindGroups with
  | none => pure ()
  | some n =>
    if !(← isClosed group) then fail .openGroup
    if n < group then fail .groupInLookbehind

def backref (group : Nat) : PatternReader Node := do
  let s ← get
  let width := (s.widths.lookup group).getD ⟨0, some 0⟩
  return .backref group width s.frame.flags.char

/-! ## Escapes -/

def natOfDigits (base : Nat) (digits : Text) : Nat := digits.foldl (fun n c => base * n + hexValue c) 0

/-- The kind that a class escape stands for, and whether it is negated. -/
def kindOf? : Char → Option (CharKind × Bool)
  | 'd' => some (.digit, false)
  | 'D' => some (.digit, true)
  | 's' => some (.space, false)
  | 'S' => some (.space, true)
  | 'w' => some (.word, false)
  | 'W' => some (.word, true)
  | _ => none

/-- The character that a letter escape stands for. -/
def controlOf? : Char → Option Nat
  | 'a' => some 7
  | 'f' => some 12
  | 'n' => some 10
  | 'r' => some 13
  | 't' => some 9
  | 'v' => some 11
  | '\\' => some 92
  | _ => none

/-- A code point written with exactly `n` hexadecimal digits. -/
def hexEscape (c : Char) (n : Nat) : PatternReader Nat := do
  let digits ← takeWhile n isHexDigit
  let escape := '\\' :: c :: digits
  if digits.length ≠ n then fail (.incompleteEscape escape) escape.length
  let value := natOfDigits 16 digits
  if 0x10FFFF < value then fail (.badEscape escape) escape.length
  return value

/-- A character given by its name. -/
def namedEscape : PatternReader Nat := do
  if !(← accept '{') then fail .missingBrace
  let name ← nameUntil '}' "character name"
  match charNamed? name with
  | some n => return n
  | none => fail (.unknownCharacterName name) (name.length + 4)

/-- The code point of an escape that means the same inside and outside of a set, if it is such an escape. -/
def codeEscape? (c : Char) : PatternReader (Option Nat) := do
  match c with
  | 'x' => return some (← hexEscape c 2)
  | 'u' => return some (← hexEscape c 4)
  | 'U' => return some (← hexEscape c 8)
  | 'N' => return some (← namedEscape)
  | _ => return none

/-- An escape that stands for its own character, unless that is a letter or a digit. -/
def plainEscape (c : Char) : PatternReader Nat := do
  if c.isAlphanum then fail (.badEscape ['\\', c]) 2
  return c.toNat

/-- An octal number of up to three digits, the first of which has been read. -/
def octalEscape (digits : Text) : PatternReader Nat := do
  let value := natOfDigits 8 digits
  if 0o377 < value then fail (.octalTooLarge ('\\' :: digits)) (digits.length + 1)
  return value

/-- An escape inside a set. -/
def setEscape (c : Char) : PatternReader SetItem := do
  if c = 'b' then return .single 8
  if let some n := controlOf? c then return .single n
  if let some (k, negated) := kindOf? c then return .kind k negated
  if let some n ← codeEscape? c then return .single n
  if isOctalDigit c then return .single (← octalEscape (c :: (← takeWhile 2 isOctalDigit)))
  return .single (← plainEscape c)

def charNode (n : Nat) : PatternReader Node := do
  return .char (.same n false (← get).frame.flags.char)

/-- An octal escape of three digits, or a reference to a group. -/
def numberEscape (c : Char) : PatternReader Node := do
  let more ← takeWhile 1 Char.isDigit
  let third ← if isOctalDigit c && more.any isOctalDigit then takeWhile 1 isOctalDigit else pure []
  if !third.isEmpty then charNode (← octalEscape (c :: more ++ third))
  else
    let group := natOfDigits 10 (c :: more)
    let length := more.length + 2
    if (← get).groups < group then fail (.unknownGroup group) (length - 1)
    if !(← isClosed group) then fail .openGroup length
    checkBehind group
    backref group

/-- An escape outside of a set. -/
def escape (c : Char) : PatternReader Node := do
  let flags := (← get).frame.flags
  match c with
  | 'A' => return .anchor .textStart
  | 'Z' => return .anchor .textEnd
  | 'b' => return .anchor (.boundary flags.ascii false)
  | 'B' => return .anchor (.boundary flags.ascii true)
  | '0' => charNode (natOfDigits 8 (← takeWhile 2 isOctalDigit))
  | _ =>
    if let some (k, negated) := kindOf? c then
      return .char (.oneOf [.kind k negated] false flags.char)
    if let some n := controlOf? c then return ← charNode n
    if let some n ← codeEscape? c then return ← charNode n
    if c.isDigit then numberEscape c else charNode (← plainEscape c)

/-! ## Sets -/

/-- A member of a set, given its first token. -/
def setMember (token : Text) : PatternReader SetItem :=
  match token with
  | ['\\', c] => setEscape c
  | c :: _ => return .single c.toNat
  | [] => return .single 0

/-- The members of a set up to its closing bracket, the latest first; `start` is the place of the opening one. -/
def setMembers (start : Nat) : (rounds : Nat) → List SetItem → PatternReader (List SetItem)
  | 0, items => return items
  | rounds + 1, items => do
    let token ← next
    if token.isEmpty then failAt start .unterminatedSet
    if token = [']'] && !items.isEmpty then return items
    let low ← setMember token
    if ← accept '-' then
      let token' ← next
      if token'.isEmpty then failAt start .unterminatedSet
      if token' = [']'] then return .single '-'.toNat :: low :: items
      let high ← setMember token'
      match low, high with
      | .single a, .single b =>
        if b < a then fail (.badRange token token') (token.length + 1 + token'.length)
        setMembers start rounds (.range a b :: items)
      | _, _ => fail (.badRange token token') (token.length + 1 + token'.length)
    else setMembers start rounds (low :: items)

/-- A set whose opening bracket has been read. -/
def set : PatternReader Node := do
  let start := (← position) - 1
  let negated ← accept '^'
  let s ← get
  let items ← setMembers start (s.rest.length + 1) []
  return .char (.ofSet items.reverse.eraseDups negated s.frame.flags.char)

/-! ## Repetitions -/

/-- The mark behind a repetition that says which number of iterations is tried first. -/
def greed : PatternReader Greed := do
  if ← accept '?' then return .lazy
  if ← accept '+' then return .possessive
  return .greedy

/-- What may be repeated is what was read last, unless that is a test of a place or a repetition. -/
def repeatLast (start least : Nat) (most : Option Nat) : PatternReader Unit := do
  let s ← get
  match s.frame.pieces with
  | [] | .node (.anchor _) :: _ => failAt start .nothingToRepeat
  | .node (.repeated _ _ _ _) :: _ => failAt start .multipleRepeat
  | piece :: before =>
    let node := Node.repeated least most (← greed) (.ofSeq piece.nodes)
    modify fun s => { s with frame := { s.frame with pieces := .node node :: before } }

def addPiece (p : Piece) : PatternReader Unit :=
  modify fun s => { s with frame := { s.frame with pieces := p :: s.frame.pieces } }

def addNode (n : Node) : PatternReader Unit := addPiece (.node n)

/-- The number of repetitions above which none is read. -/
def repeatLimit : Nat := 4294967295

/-- The number of repetitions that digits give. -/
def repeatCount (digits : Text) : PatternReader Nat := do
  if digitLimit < digits.length then throw ⟨.digits (.reading digits.length), none⟩
  let count := natOfDigits 10 digits
  if repeatLimit ≤ count then throw ⟨.repeatTooLarge, none⟩
  return count

/-- A repetition in braces, the opening one read; a brace that begins none stands for itself. -/
def braces : PatternReader Unit := do
  let here ← position
  let back := (← get).rest
  if (← peek) = ['}'] then addNode (← charNode '{'.toNat)
  else
    let low ← takeWhile back.length Char.isDigit
    let comma ← accept ','
    let high ← if comma then takeWhile back.length Char.isDigit else pure low
    if ← accept '}' then
      let least ← repeatCount low
      let most ← if high.isEmpty then pure none else some <$> repeatCount high
      if most.any (· < least) then failAt here .repeatBounds
      repeatLast (here - 1) least most
    else
      moveTo back
      addNode (← charNode '{'.toNat)

/-! ## Groups and flags -/

def openFrame (opening : Opening) (start : Nat) (flags : PatternFlags) : PatternReader Unit :=
  modify fun s => { s with frame := ⟨opening, start, flags, [], []⟩, outer := s.frame :: s.outer }

/-- Opens a group that is numbered and may be named. -/
def openCapture (start : Nat) (name : Option Text) : PatternReader Unit := do
  let s ← get
  let group := s.groups + 1
  match name with
  | none => pure ()
  | some name =>
    if let some earlier := s.names.lookup name then
      fail (.redefinedGroup name group earlier) (name.length + 1)
    modify fun s => { s with names := (name, group) :: s.names }
  modify fun s => { s with groups := group }
  openFrame (.capture group) start s.frame.flags

def openLook (start : Nat) (behind negated : Bool) : PatternReader Unit := do
  let s ← get
  if behind then modify fun s => { s with behindGroups := some (s.behindGroups.getD s.groups) }
  openFrame (.look behind negated (behind && s.behindGroups.isNone)) start s.frame.flags

/-- The number from which on no group is asked for. -/
def groupLimit : Nat := 1073741823

/-- The number that the condition on a group gives: decimal digits of any system behind a sign or none, with single
underscores between them and white space around. -/
def conditionNumber? (name : Text) : Option Int :=
  let (sign, digits) := readSign (Text.trim name)
  let runs := Text.splitOn '_' digits
  if runs.all (fun run => !run.isEmpty && run.all isDecimal) && (digits.filter isDecimal).length ≤ digitLimit then
    some (sign * natOfDecimals runs.flatten)
  else none

/-- Opens a condition on a group, given by name or number. -/
def openConditional (start : Nat) : PatternReader Unit := do
  let name ← nameUntil ')' "group name"
  let s ← get
  let place := (← position) - (name.length + 1)
  let group ←
    if isName name then
      match s.names.lookup name with
      | some group => pure group
      | none => failAt place (.unknownGroupName name)
    else
      match conditionNumber? name with
      | some 0 => failAt place .badGroupNumber
      | some (.ofNat group) =>
        if groupLimit ≤ group then failAt place (.unknownGroup group)
        if (s.asked.lookup group).isNone then modify fun s => { s with asked := s.asked ++ [(group, place)] }
        pure group
      | _ => failAt place (.badGroupName name)
  checkBehind group
  openFrame (.conditional group) start s.frame.flags

def isFlag (token : Text) : Bool :=
  match token with
  | [c] => "iLmsxatu".toList.contains c
  | _ => false

/-- Whether a flag chooses the alphabet. -/
def isTypeFlag (c : Char) : Bool := c == 'a' || c == 'u' || c == 'L'

def setFlag (on : Bool) (flags : PatternFlags) : Char → PatternFlags
  | 'i' => { flags with ignoreCase := on }
  | 'm' => { flags with multiline := on }
  | 's' => { flags with dotAll := on }
  | 'x' => { flags with verbose := on }
  | 'a' => { flags with ascii := on }
  | 'u' => { flags with ascii := false }
  | 't' => { flags with noRepeat := on }
  | _ => flags

def isLetterToken : Text → Bool
  | [c] => isLetter c
  | _ => false

/-- The flags that are turned on, the first of which has been read, and the token behind them. -/
def flagsOn : (rounds : Nat) → (on : Text) → Char → PatternReader (Text × Text)
  | 0, on, _ => return (on, [])
  | rounds + 1, on, c => do
    if c = 'L' then fail .localeFlag
    let on := on ++ [c]
    if isTypeFlag c && on.any (fun d => isTypeFlag d && d != c) then fail .incompatibleFlags
    let token ← next
    if token.isEmpty then fail .missingFlagEnd
    if token = [')'] || token = ['-'] || token = [':'] then return (on, token)
    if !isFlag token then fail (if isLetterToken token then .unknownFlag else .missingFlagEnd) token.length
    flagsOn rounds on (token.headD ' ')

/-- The flags that are turned off, the first of which has been read. -/
def flagsOff : (rounds : Nat) → (off : Text) → Char → PatternReader Text
  | 0, off, _ => return off
  | rounds + 1, off, c => do
    if isTypeFlag c then fail .turnOffType
    let off := off ++ [c]
    let token ← next
    if token.isEmpty then fail .missingColon
    if token = [':'] then return off
    if !isFlag token then fail (if isLetterToken token then .unknownFlag else .missingColon) token.length
    flagsOff rounds off (token.headD ' ')

/-- Flags for the whole pattern, at its start, or for a group that they open. -/
def flags (start : Nat) (token : Text) : PatternReader Unit := do
  let s ← get
  let rounds := s.rest.length + 1
  let (on, stop) ← if token = ['-'] then pure ([], token) else flagsOn rounds [] (token.headD ' ')
  let withOn := on.foldl (setFlag true) s.frame.flags
  if stop = [')'] then
    if !s.outer.isEmpty || !s.frame.branches.isEmpty || !s.frame.pieces.isEmpty then failAt start .lateFlags
    modify fun s =>
      { s with frame := { s.frame with flags := withOn }, alphabets := s.alphabets ++ on.filter isTypeFlag }
  else
    if on.contains 't' then fail .turnOnGlobal 1
    let off ←
      if stop = ['-'] then
        let token ← next
        if token.isEmpty then fail .missingFlag
        if !isFlag token then fail (if isLetterToken token then .unknownFlag else .missingFlag) token.length
        flagsOff rounds [] (token.headD ' ')
      else pure []
    if off.contains 't' then fail .turnOffGlobal 1
    if on.any off.contains then fail .onAndOff 1
    openFrame .flagged start (off.foldl (setFlag false) withOn)

/-- A construct that a parenthesis and a question mark begin. -/
def extension (start : Nat) : PatternReader Unit := do
  let token ← next
  let inherited := (← get).frame.flags
  match token with
  | [] => fail .unexpectedEnd
  | ['P'] =>
    if ← accept '<' then openCapture start (some (← groupName '>'))
    else if ← accept '=' then
      let name ← groupName ')'
      match (← get).names.lookup name with
      | none => fail (.unknownGroupName name) (name.length + 1)
      | some group =>
        if !(← isClosed group) then fail .openGroup (name.length + 1)
        checkBehind group
        addNode (← backref group)
    else
      let token ← next
      if token.isEmpty then fail .unexpectedEnd
      fail (.unknownExtension ('P' :: token)) (token.length + 2)
  | [':'] => openFrame .plain start inherited
  | ['#'] =>
    match splitAtToken ')' (← get).rest with
    | (_, none) => failAt start .unterminatedComment
    | (_, some rest) => moveTo rest
  | ['='] => openLook start false false
  | ['!'] => openLook start false true
  | ['<'] =>
    let token ← next
    if token = ['='] then openLook start true false
    else if token = ['!'] then openLook start true true
    else if token.isEmpty then fail .unexpectedEnd
    else fail (.unknownExtension ('<' :: token)) (token.length + 2)
  | ['('] => openConditional start
  | ['>'] => openFrame .atomic start inherited
  | _ =>
    if isFlag token || token = ['-'] then flags start token
    else fail (.unknownExtension token) (token.length + 1)

/-- A group whose parenthesis has been read. -/
def group : PatternReader Unit := do
  let start := (← position) - 1
  if ← accept '?' then extension start else openCapture start none

/-- Ends the current branch at a bar. -/
def endBranch : PatternReader Unit := do
  let f := (← get).frame
  match f.opening with
  | .conditional _ => if !f.branches.isEmpty then fail .thirdBranch
  | _ => pure ()
  let _ ← next
  modify fun s => { s with frame := { f with branches := f.branch :: f.branches, pieces := [] } }

/-- Flags for the whole pattern may ask for one alphabet only. -/
def checkAlphabets : PatternReader Unit := do
  let s ← get
  if s.alphabets.contains 'a' && s.alphabets.contains 'u' then throw ⟨.mixedAlphabets, none⟩

/-- Closes the innermost group at its parenthesis. -/
def closeGroup : PatternReader Unit := do
  match (← get).outer with
  | [] =>
    checkAlphabets
    fail .unbalancedParenthesis
  | around :: outer =>
    let _ ← next
    let f := (← get).frame
    let body := Node.ofSeq f.nodes
    modify fun s => { s with frame := around, outer := outer }
    match f.opening with
    | .capture n =>
      modify fun s => { s with widths := (n, body.width) :: s.widths }
      addNode (.capture n body)
    | .plain => addPiece (.group f.nodes)
    | .flagged => addNode (.seq body .empty)
    | .atomic => addNode (.atomic body)
    | .look behind negated outermost =>
      if outermost then modify fun s => { s with behindGroups := none }
      addNode (.look behind negated body)
    | .conditional n =>
      match f.branches with
      | [yes] => addNode (.conditional n (.ofSeq yes) (.ofSeq f.branch))
      | _ => addNode (.conditional n body .empty)

/-! ## The whole pattern -/

def isVerboseSpace (c : Char) : Bool := c == ' ' || inRanges [(9, 13)] c.toNat

/-- Reads the construct that a character begins. -/
def charConstruct (c : Char) : PatternReader Unit := do
  let flags := (← get).frame.flags
  match c with
  | '[' => addNode (← set)
  | '(' => group
  | '?' => repeatLast ((← position) - 1) 0 (some 1)
  | '*' => repeatLast ((← position) - 1) 0 none
  | '+' => repeatLast ((← position) - 1) 1 none
  | '{' => braces
  | '.' => addNode (.char (.any flags.dotAll))
  | '^' => addNode (.anchor (if flags.multiline then .lineStart else .textStart))
  | '$' => addNode (.anchor (if flags.multiline then .lineEnd else .lastLineEnd))
  | _ =>
    if flags.verbose && isVerboseSpace c then pure ()
    else if flags.verbose && c == '#' then moveTo ((splitAtToken '\n' (← get).rest).2.getD [])
    else addNode (← charNode c.toNat)

/-- Reads the construct that a token begins. -/
def construct (token : Text) : PatternReader Unit := do
  match token with
  | [c] => charConstruct c
  | ['\\', c] => addNode (← escape c)
  | _ => pure ()

def constructs : (rounds : Nat) → PatternReader Unit
  | 0 => pure ()
  | rounds + 1 => do
    match ← peek with
    | [] => pure ()
    | ['|'] => endBranch
    | [')'] => closeGroup
    | _ => construct (← next)
    constructs rounds

/-- The word for a kind of repetition where it is refused. -/
def repeatWord : Greed → String
  | .greedy => "MAX_REPEAT"
  | .lazy => "MIN_REPEAT"
  | .possessive => "POSSESSIVE_REPEAT"

/-- The greatest width of what is looked for behind a place. -/
def behindLimit : Nat := 4294967295

/-- What is wrong with nodes that have been read: a refused repetition, or something to look for behind a place that
is too wide or has more than one width. -/
def trouble? (noRepeat : Bool) : Node → Option PatternCause
  | .empty | .char _ | .anchor _ | .backref _ _ _ => none
  | .seq a b | .alt a b | .conditional _ a b => (trouble? noRepeat a).or (trouble? noRepeat b)
  | .capture _ n | .atomic n => trouble? noRepeat n
  | .repeated _ _ greed n => if noRepeat then some (.repeatRefused (repeatWord greed)) else trouble? noRepeat n
  | .look behind _ n =>
    if behind && behindLimit < n.width.low then some .wideLookbehind
    else if behind && n.width.high != some n.width.low then some .variableLookbehind
    else trouble? noRepeat n

/-- What has been read once the pattern is at its end. -/
def finish : PatternReader Pattern := do
  let s ← get
  if !s.outer.isEmpty then failAt s.frame.start .unterminatedGroup
  checkAlphabets
  if let some (group, place) := s.asked.find? fun a => s.groups < a.1 then failAt place (.unknownGroup group)
  let body := Node.ofSeq s.frame.nodes
  if let some cause := trouble? s.frame.flags.noRepeat body then throw ⟨cause, none⟩
  return ⟨body, s.frame.flags.ascii⟩

end PatternReader

/-- Reads a search pattern. -/
def Pattern.read (pattern : Text) : Except PatternFault Pattern :=
  let start : PatternState :=
    { size := pattern.length, rest := pattern, frame := ⟨.plain, 0, {}, [], []⟩, outer := [], groups := 0, names := [],
      widths := [], behindGroups := none, asked := [], alphabets := [] }
  let reader : PatternReader Pattern := do
    PatternReader.moveTo pattern
    PatternReader.constructs pattern.length
    PatternReader.finish
  (reader.run start).map Prod.fst

end GameSource
