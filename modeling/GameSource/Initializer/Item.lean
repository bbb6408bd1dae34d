import GameSource.Initializer.Token
/-!
# Lists of initializers

A list in braces holds items: tokens, or another list, behind a path of designators or none.  Each reader answers with
the tokens that it left over, and with a proof that they are fewer than it was given (`Shorter`) or no more
(`NoLonger`); that is why reading ends.  Inside a value brackets are taken along in pairs (`balanced?`), where a closing
bracket that fits no open one counts as any other token.
-/
namespace GameSource.Initializer

/-! ## Items -/

/-- One step of a path to a member: a name, or the tokens of an index. -/
inductive Designator where
  | member (name : Text)
  | index (tokens : List Token)
  deriving DecidableEq, Repr

def Designator.text : Designator → Text
  | member name => '.' :: name
  | index ts => '[' :: render ts ++ [']']

/-- The text of a path. -/
def pathText (path : List Designator) : Text := path.flatMap Designator.text

inductive Item where
  | scalar (path : List Designator) (tokens : List Token)
  | list (path : List Designator) (items : List Item)
  deriving Repr

/-- A text between braces, its parts joined by commas. -/
def braced (parts : List Text) : Text := '\x7b' :: [',', ' '].intercalate parts ++ ['\x7d']

/-- A value behind the path that designates it. -/
def designated (path : List Designator) (value : Text) : Text :=
  if path.isEmpty then value else pathText path ++ [' ', '=', ' '] ++ value

namespace Item

def path : Item → List Designator
  | scalar p _ => p
  | list p _ => p

mutual

/-- The text of an item's value. -/
def text : Item → Text
  | scalar _ ts => render ts
  | list _ items => braced (texts items)

/-- The texts of items, each behind its path. -/
def texts : List Item → List Text
  | [] => []
  | item :: items => designated item.path (text item) :: texts items

end

/-- The name under which a designated item is found: its path without the point that begins it, or without the
brackets around its first index, up to the first closing one. -/
def member? (item : Item) : Option Text :=
  if item.path.isEmpty then none
  else
    match pathText item.path with
    | '.' :: name => some name
    | t => some ((t.takeWhile (· != ']')).drop 1 ++ (t.dropWhile (· != ']')).drop 1)

/-- The items of a list, if it is one. -/
def items? : Item → Option (List Item)
  | scalar _ _ => none
  | list _ items => some items

end Item

/-! ## Brackets -/

/-- The bracket that closes the one that a token opens. -/
def closer? (t : Token) : Option Char :=
  if isPunctuator '(' t then some ')'
  else if isPunctuator '[' t then some ']'
  else if isPunctuator '\x7b' t then some '\x7d'
  else none

/-- Takes tokens until the last open bracket is closed; `closers` are those still to come, the innermost first. -/
def balanced? : (closers : List Char) → List Token → Option (List Token × List Token)
  | _, [] => none
  | closers, t :: ts =>
    match closer? t, closers with
    | some c, _ => (balanced? (c :: closers) ts).map fun (taken, rest) => (t :: taken, rest)
    | none, [] => (balanced? [] ts).map fun (taken, rest) => (t :: taken, rest)
    | none, c :: below =>
      if isPunctuator c t then
        if below.isEmpty then some ([t], ts)
        else (balanced? below ts).map fun (taken, rest) => (t :: taken, rest)
      else (balanced? (c :: below) ts).map fun (taken, rest) => (t :: taken, rest)

/-- **Taking along loses nothing**: what was taken and the rest are the tokens, and something was taken. -/
theorem balanced?_eq_some : ∀ {closers : List Char} {ts taken rest : List Token},
    balanced? closers ts = some (taken, rest) → taken ++ rest = ts ∧ taken ≠ []
  | _, [], _, _, h => by simp [balanced?] at h
  | closers, t :: ts, taken, rest, h => by
    have step : ∀ {cs : List Char}, (balanced? cs ts).map (fun (a, b) => (t :: a, b)) = some (taken, rest) →
        taken ++ rest = t :: ts ∧ taken ≠ [] := by
      intro cs h
      obtain ⟨⟨a, b⟩, hab, he⟩ := Option.map_eq_some_iff.1 h
      simp only [Prod.mk.injEq] at he
      obtain ⟨rfl, rfl⟩ := he
      have := (balanced?_eq_some hab).1
      simp [this]
    unfold balanced? at h
    split at h
    · exact step h
    · exact step h
    · split at h
      · split at h
        · simp only [Option.some.injEq, Prod.mk.injEq] at h
          obtain ⟨rfl, rfl⟩ := h
          simp
        · exact step h
      · exact step h

theorem length_of_balanced? {closers : List Char} {ts taken rest : List Token}
    (h : balanced? closers ts = some (taken, rest)) : rest.length < ts.length := by
  obtain ⟨rfl, hne⟩ := balanced?_eq_some h
  have := List.length_pos_iff.2 hne
  simp only [List.length_append]
  omega

/-! ## Reading -/

abbrev NoLonger (ts : List Token) := { rest : List Token // rest.length ≤ ts.length }

abbrev Shorter (ts : List Token) := { rest : List Token // rest.length < ts.length }

/-- The place of the first token, or of the end. -/
def placeOf (stop : Position) (ts : List Token) : Position := (ts.head?.map Token.position).getD stop

/-- Reads a path of designators, which may be empty. -/
def readPath (stop : Position) : (ts : List Token) → Except ParseFault (List Designator × NoLonger ts)
  | [] => .ok ([], ⟨[], Nat.le_refl _⟩)
  | [t] => if isPunctuator '[' t then .error ⟨.unbalanced, stop⟩ else .ok ([], ⟨[t], Nat.le_refl _⟩)
  | t :: u :: ts =>
    if isPunctuator '.' t && u.kind == .identifier then
      match readPath stop ts with
      | .error e => .error e
      | .ok (path, ⟨rest, h⟩) => .ok (.member u.text :: path, ⟨rest, by simp only [List.length_cons]; omega⟩)
    else if isPunctuator '[' t then
      match hb : balanced? [] (t :: u :: ts) with
      | none => .error ⟨.unbalanced, stop⟩
      | some (taken, after) =>
        have hlt : after.length < (t :: u :: ts).length := length_of_balanced? hb
        match readPath stop after with
        | .error e => .error e
        | .ok (path, ⟨rest, h⟩) => .ok (.index taken.tail.dropLast :: path, ⟨rest, by omega⟩)
    else .ok ([], ⟨t :: u :: ts, Nat.le_refl _⟩)
  termination_by ts => ts.length
  decreasing_by
    · simp only [List.length_cons]
      omega
    · exact hlt

/-- Reads the path of an item and the equals sign behind it. -/
def readDesignation (stop : Position) (ts : List Token) : Except ParseFault (List Designator × NoLonger ts) :=
  match readPath stop ts with
  | .error e => .error e
  | .ok ([], rest) => .ok ([], rest)
  | .ok (path, ⟨t :: rest, h⟩) =>
    if isPunctuator '=' t then .ok (path, ⟨rest, by simp only [List.length_cons] at h; omega⟩)
    else .error ⟨.expectedSign '=', t.position⟩
  | .ok (_, ⟨[], _⟩) => .error ⟨.expectedSign '=', stop⟩

/-- Reads the tokens of a value, up to the comma or the closing brace behind it. -/
def readTokens (stop : Position) : (ts : List Token) → Except ParseFault (List Token × NoLonger ts)
  | [] => .error ⟨.unterminatedList, stop⟩
  | t :: ts =>
    if isPunctuator ',' t || isPunctuator '\x7d' t then .ok ([], ⟨t :: ts, Nat.le_refl _⟩)
    else if (closer? t).isSome then
      match hb : balanced? [] (t :: ts) with
      | none => .error ⟨.unbalanced, stop⟩
      | some (taken, after) =>
        have hlt : after.length < (t :: ts).length := length_of_balanced? hb
        match readTokens stop after with
        | .error e => .error e
        | .ok (tokens, ⟨rest, h⟩) => .ok (taken ++ tokens, ⟨rest, by omega⟩)
    else
      match readTokens stop ts with
      | .error e => .error e
      | .ok (tokens, ⟨rest, h⟩) => .ok (t :: tokens, ⟨rest, by simp only [List.length_cons]; omega⟩)
  termination_by ts => ts.length
  decreasing_by
    · exact hlt
    · simp only [List.length_cons]
      omega

/-- What stands behind an item. -/
inductive Separator (ts : List Token) where
  | comma (rest : Shorter ts)
  | close (rest : Shorter ts)

/-- Reads the comma behind an item, or the closing brace behind the last one. -/
def readSeparator (stop : Position) : (ts : List Token) → Except ParseFault (Separator ts)
  | [] => .error ⟨.expectedSeparator, stop⟩
  | t :: ts =>
    if isPunctuator ',' t then .ok (.comma ⟨ts, by simp⟩)
    else if isPunctuator '\x7d' t then .ok (.close ⟨ts, by simp⟩)
    else .error ⟨.expectedSeparator, t.position⟩

/-- Reads the items of a list behind its opening brace, and its closing brace. -/
def readItems (stop : Position) (ts : List Token) : Except ParseFault (List Item × Shorter ts) :=
  match ts with
  | [] => .error ⟨.unterminatedList, stop⟩
  | t :: rest =>
    if isPunctuator '\x7d' t then .ok ([], ⟨rest, by simp⟩)
    else
      match readDesignation stop (t :: rest) with
      | .error e => .error e
      | .ok (path, ⟨value, hv⟩) =>
        let item : Except ParseFault (Item × NoLonger value) :=
          match value with
          | [] => .error ⟨.unterminatedList, stop⟩
          | u :: inner =>
            if isPunctuator '\x7b' u then
              match readItems stop inner with
              | .error e => .error e
              | .ok (items, ⟨behind, h⟩) =>
                .ok (.list path items, ⟨behind, by simp only [List.length_cons]; omega⟩)
            else
              match readTokens stop (u :: inner) with
              | .error e => .error e
              | .ok ([], _) => .error ⟨.expectedValue, u.position⟩
              | .ok (tokens, behind) => .ok (.scalar path tokens, behind)
        match item with
        | .error e => .error e
        | .ok (item, ⟨behind, hb⟩) =>
          match readSeparator stop behind with
          | .error e => .error e
          | .ok (.close ⟨after, ha⟩) => .ok ([item], ⟨after, by omega⟩)
          | .ok (.comma ⟨after, ha⟩) =>
            match readItems stop after with
            | .error e => .error e
            | .ok (items, ⟨final, hf⟩) => .ok (item :: items, ⟨final, by omega⟩)
  termination_by ts.length
  decreasing_by
    · simp only [List.length_cons] at hv ⊢
      omega
    · omega

/-- Reads a list from its opening brace on. -/
def readList (stop : Position) : (ts : List Token) → Except ParseFault (List Item × Shorter ts)
  | [] => .error ⟨.expectedSign '\x7b', stop⟩
  | t :: ts =>
    if isPunctuator '\x7b' t then
      match readItems stop ts with
      | .error e => .error e
      | .ok (items, ⟨rest, h⟩) => .ok (items, ⟨rest, by simp only [List.length_cons]; omega⟩)
    else .error ⟨.expectedSign '\x7b', t.position⟩

end GameSource.Initializer
