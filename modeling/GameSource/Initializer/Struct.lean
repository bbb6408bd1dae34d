import GameSource.Initializer.Item
import GameSource.Entries
import GameSource.Notice
/-!
# Objects with initializers, and the members of structs

At the top level of a data table an object is a label, an equals sign and a list in braces; everything else is passed
over, brackets in pairs.  A list that cannot be read is a fault of its own and hides no other object.  A struct maps the
members of an object to the texts of their values (`members`).
-/
namespace GameSource.Initializer

/-! ## Objects -/

inductive Declaration where
  | object (label : Text) (items : List Item)
  | fault (e : ParseFault)

/-- The label for what comes behind a token: an identifier is the new one, a semicolon ends it. -/
def nextLabel (label : Text) (t : Token) : Text :=
  if t.kind = .identifier then t.text else if t.text = [';'] then [] else label

/-- The objects of a table, and the lists that cannot be read.  Behind a bad list that is not closed nothing is read;
any other bracket that is not closed stops the reading for good. -/
def declarationsFrom (stop : Position) : (label : Text) → List Token → Except ParseFault (List Declaration)
  | _, [] => .ok []
  | label, t :: ts =>
    if isPunctuator '=' t && ts.head?.any (isPunctuator '\x7b') then
      match readList stop ts with
      | .ok (items, ⟨rest, _⟩) => (declarationsFrom stop [] rest).map (.object label items :: ·)
      | .error e =>
        match hb : balanced? [] ts with
        | none => .ok [.fault e]
        | some (_, rest) =>
          have := length_of_balanced? hb
          (declarationsFrom stop [] rest).map (.fault e :: ·)
    else if (closer? t).isSome then
      match hb : balanced? [] (t :: ts) with
      | none => .error ⟨.unbalanced, stop⟩
      | some (_, rest) =>
        have := length_of_balanced? hb
        declarationsFrom stop label rest
    else declarationsFrom stop (nextLabel label t) ts
  termination_by _ ts => ts.length
  decreasing_by
    · simp only [List.length_cons]
      omega
    · simp only [List.length_cons]
      omega
    · assumption
    · simp only [List.length_cons]
      omega

/-- The objects by label, the first of each label, and the faults. -/
structure Objects where
  objects : Entries Text (List Item) := []
  faults : List ParseFault := []

def Objects.add (o : Objects) : Declaration → Objects
  | .object label items => { o with objects := o.objects.putNew label items }
  | .fault e => { o with faults := o.faults ++ [e] }

/-- Reads the objects of tokens that end at `stop`. -/
def readObjects (stop : Position) (ts : List Token) : Except ParseFault Objects :=
  (declarationsFrom stop [] ts).map fun ds => ds.foldl Objects.add {}

/-! ## Members -/

/-- Gives the members of items their texts: a designated one always, one that only its place names unless it has one
already. -/
def membersFrom (names : Nat → Option Text) : (place : Nat) → List Item → Entries Text Text → Entries Text Text
  | _, [], es => es
  | i, item :: items, es =>
    membersFrom names (i + 1) items <|
      match item.member?, names i with
      | some name, _ => es.put name item.text
      | none, some name => es.putNew name item.text
      | none, none => es

/-- The members of an object and their texts.  `names` gives undesignated members a name by place. -/
def members (names : Nat → Option Text) (items : List Item) : Entries Text Text := membersFrom names 0 items []

/-- The structs of a source text, or the one with the label given, and what is told about the text.  A bracket that
is never closed stops the reading. -/
def structs (source label : Text) (names : Nat → Option Text) (filename : Text) :
    Except ParseFault (Entries Text (Entries Text Text)) × List Notice :=
  match lex source with
  | .error e => (.ok [], [.badInitializers filename (.lex e)])
  | .ok lexed =>
    match readObjects lexed.stop lexed.tokens with
    | .error e => (.error e, [])
    | .ok o =>
      let wanted := o.objects.filter fun e => !e.1.isEmpty && (label.isEmpty || label == e.1)
      (.ok (wanted.map fun e => (e.1, members names e.2)), o.faults.map fun e => .badInitializers filename (.parse e))

end GameSource.Initializer
