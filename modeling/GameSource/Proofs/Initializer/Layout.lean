import GameSource.Proofs.Initializer.Members
import GameSource.Proofs.Initializer.Moved
import Mathlib
/-!
# The layout of a source text has no say in its structs

Texts of the same lexemes have the same structs, whatever stands between the lexemes and wherever they are; or they stop
the reading for the same reason, and the same is told about them but for the places (`structs_sameLexemes`).  For the
tokens of any text are numbered tokens that stand at its places (`moved_numbered`), and reading looks at no places.
-/
namespace GameSource.Initializer

/-! ## Lexemes -/

/-- A token without its place. -/
def Token.lexeme (t : Token) : TokenKind × Text := (t.kind, t.text)

/-- The place of the token with this number, or of the end. -/
def Lexed.place (l : Lexed) (n : Nat) : Position := (l.tokens[n]?.map Token.position).getD l.stop

/-- What is wrong at the token with this number, or at the end. -/
def Lexed.faultAt (l : Lexed) (e : ParseCause × Nat) : ParseFault := ⟨e.1, l.place e.2⟩

/-- Tokens with these lexemes, each on the line of its number. -/
def numbered (lexemes : List (TokenKind × Text)) : List Token :=
  lexemes.zipIdx.map fun e => ⟨e.1.1, e.1.2, ⟨e.2, 0⟩⟩

/-- The place in the text for that of a numbered token. -/
def Lexed.placeOfLine (l : Lexed) (p : Position) : Position := l.place p.line

/-- The tokens of a text are numbered tokens at its places. -/
theorem moved_numbered (l : Lexed) : (numbered (l.tokens.map Token.lexeme)).map (Token.moved l.placeOfLine) = l.tokens := by
  refine List.ext_getElem? fun n => ?_
  rw [numbered, List.map_map, List.getElem?_map, List.getElem?_zipIdx, List.getElem?_map]
  cases h : l.tokens[n]? with
  | none => rfl
  | some t => simp [Token.lexeme, Token.moved, Lexed.placeOfLine, Lexed.place, h]

theorem place_length (l : Lexed) : l.place l.tokens.length = l.stop := by
  simp [Lexed.place]

/-! ## Structs -/

/-- What is wrong with numbered tokens, and the number of the token it is at. -/
def numberedFault (e : ParseFault) : ParseCause × Nat := (e.cause, e.position.line)

theorem faultAt_numberedFault (l : Lexed) (e : ParseFault) : l.faultAt (numberedFault e) = e.moved l.placeOfLine := rfl

/-- Objects have the same structs at other places. -/
theorem structsOf_moved (f : Position → Position) (label : Text) (names : Nat → Option Text) (o : Objects) :
    structsOf label names (o.moved f).objects = structsOf label names o.objects := by
  rw [structsOf, structsOf, Objects.moved, List.filter_map, List.map_map]
  refine List.map_congr_left fun e _ => ?_
  simp only [Function.comp_apply, members, membersFrom_moved]

/-- **The lexemes of a text decide on its structs** and on what is wrong with it, up to the places. -/
theorem exists_structs (lexemes : List (TokenKind × Text)) (label : Text) (names : Nat → Option Text)
    (filename : Text) : ∃ (result : Except (ParseCause × Nat) (Entries Text (Entries Text Text)))
      (faults : List (ParseCause × Nat)), ∀ source lexed, lex source = .ok lexed →
        lexed.tokens.map Token.lexeme = lexemes → structs source label names filename =
          (result.mapError lexed.faultAt, faults.map fun e => .badInitializers filename (.parse (lexed.faultAt e))) := by
  have hread (lexed : Lexed) (hlexemes : lexed.tokens.map Token.lexeme = lexemes) :
      readObjects lexed.stop lexed.tokens = movedAnswer lexed.placeOfLine (Objects.moved lexed.placeOfLine)
        (readObjects ⟨lexemes.length, 0⟩ (numbered lexemes)) := by
    have hstop : lexed.placeOfLine ⟨lexemes.length, 0⟩ = lexed.stop := by
      rw [← hlexemes, List.length_map]
      exact place_length lexed
    rw [← readObjects_moved, hstop, ← hlexemes, moved_numbered]
  cases hnumbered : readObjects ⟨lexemes.length, 0⟩ (numbered lexemes) with
  | error e =>
    refine ⟨.error (numberedFault e), [], fun source lexed hlex hlexemes => ?_⟩
    have hall := hread lexed hlexemes
    rw [hnumbered, movedAnswer_error, ← faultAt_numberedFault] at hall
    rw [structs_error hlex hall]
    rfl
  | ok o =>
    refine ⟨.ok (structsOf label names o.objects), o.faults.map numberedFault, fun source lexed hlex hlexemes => ?_⟩
    have hall := hread lexed hlexemes
    rw [hnumbered, movedAnswer_ok] at hall
    rw [structs_ok hlex hall, structsOf_moved, Objects.moved, List.map_map, List.map_map]
    rfl

/-- **Texts of the same lexemes have the same structs**, however they are laid out.  A fault is told by what is wrong and
the number of the token it is at, or the number of all tokens at the end.  In these terms there is one result, which is
the structs or what stops the reading, and one list of faults; either text has this result, and these faults are told
about it, at the places that the tokens have in it. -/
theorem structs_sameLexemes {source source' : Text} {lexed lexed' : Lexed} (hlex : lex source = .ok lexed)
    (hlex' : lex source' = .ok lexed') (hsame : lexed.tokens.map Token.lexeme = lexed'.tokens.map Token.lexeme)
    (label : Text) (names : Nat → Option Text) (filename : Text) :
    ∃ (result : Except (ParseCause × Nat) (Entries Text (Entries Text Text))) (faults : List (ParseCause × Nat)),
      structs source label names filename =
        (result.mapError lexed.faultAt, faults.map fun e => .badInitializers filename (.parse (lexed.faultAt e))) ∧
      structs source' label names filename =
        (result.mapError lexed'.faultAt, faults.map fun e => .badInitializers filename (.parse (lexed'.faultAt e))) := by
  obtain ⟨result, faults, hstructs⟩ := exists_structs (lexed'.tokens.map Token.lexeme) label names filename
  exact ⟨result, faults, hstructs source lexed hlex hsame, hstructs source' lexed' hlex' rfl⟩

/-- Two objects, the second with nothing where a value should be. -/
def plainLayout : Text := "A = \x7b1\x7d; B = \x7b,\x7d;".toList

/-- The same with blanks, comments and a directive. -/
def wideLayout : Text := "#define A 1\nA=/* 1 */\x7b 1\n\x7d;B // = 2\n=\x7b\n,\x7d ;".toList

/-- In both layouts the value that is missing is told at the comma. -/
theorem structs_sameLexemes_comments : ∃ lexed lexed',
    lex plainLayout = .ok lexed ∧ lex wideLayout = .ok lexed' ∧
    (∃ (result : Except (ParseCause × Nat) (Entries Text (Entries Text Text))) (faults : List (ParseCause × Nat)),
      structs plainLayout [] (fun _ => some ['x']) [] =
        (result.mapError lexed.faultAt, faults.map fun e => .badInitializers [] (.parse (lexed.faultAt e))) ∧
      structs wideLayout [] (fun _ => some ['x']) [] =
        (result.mapError lexed'.faultAt, faults.map fun e => .badInitializers [] (.parse (lexed'.faultAt e)))) ∧
    structs plainLayout [] (fun _ => some ['x']) [] =
      (.ok [(['A'], [(['x'], ['1'])])], [.badInitializers [] (.parse ⟨.expectedValue, ⟨1, 15⟩⟩)]) ∧
    structs wideLayout [] (fun _ => some ['x']) [] =
      (.ok [(['A'], [(['x'], ['1'])])], [.badInitializers [] (.parse ⟨.expectedValue, ⟨5, 1⟩⟩)]) := by
  have hplain : lex plainLayout = .ok ⟨[⟨.identifier, ['A'], ⟨1, 1⟩⟩, ⟨.punctuator, ['='], ⟨1, 3⟩⟩,
      ⟨.punctuator, ['\x7b'], ⟨1, 5⟩⟩, ⟨.number, ['1'], ⟨1, 6⟩⟩, ⟨.punctuator, ['\x7d'], ⟨1, 7⟩⟩,
      ⟨.punctuator, [';'], ⟨1, 8⟩⟩, ⟨.identifier, ['B'], ⟨1, 10⟩⟩, ⟨.punctuator, ['='], ⟨1, 12⟩⟩,
      ⟨.punctuator, ['\x7b'], ⟨1, 14⟩⟩, ⟨.punctuator, [','], ⟨1, 15⟩⟩, ⟨.punctuator, ['\x7d'], ⟨1, 16⟩⟩,
      ⟨.punctuator, [';'], ⟨1, 17⟩⟩], ⟨1, 18⟩⟩ := by rfl
  have hwide : lex wideLayout = .ok ⟨[⟨.identifier, ['A'], ⟨2, 1⟩⟩, ⟨.punctuator, ['='], ⟨2, 2⟩⟩,
      ⟨.punctuator, ['\x7b'], ⟨2, 10⟩⟩, ⟨.number, ['1'], ⟨2, 12⟩⟩, ⟨.punctuator, ['\x7d'], ⟨3, 1⟩⟩,
      ⟨.punctuator, [';'], ⟨3, 2⟩⟩, ⟨.identifier, ['B'], ⟨3, 3⟩⟩, ⟨.punctuator, ['='], ⟨4, 1⟩⟩,
      ⟨.punctuator, ['\x7b'], ⟨4, 2⟩⟩, ⟨.punctuator, [','], ⟨5, 1⟩⟩, ⟨.punctuator, ['\x7d'], ⟨5, 2⟩⟩,
      ⟨.punctuator, [';'], ⟨5, 4⟩⟩], ⟨5, 5⟩⟩ := by rfl
  exact ⟨_, _, hplain, hwide, structs_sameLexemes hplain hwide rfl [] _ [], by cbv, by cbv⟩

end GameSource.Initializer
