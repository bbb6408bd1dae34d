import GameSource.Proofs.Define.Filtered
/-!
# Patterns of one text

A text without signs, between `^` and `$`, is a pattern.  It is read as tests of its characters, one behind the other
(`Pattern.read_anchored`), and what it finds is this text, or the text with a line feed behind it
(`Pattern.search_ofText`).  No name of a table ends in a line feed, so asking for the pattern of a name is asking for
the name (`DefineTable.ofSource_anchored`).
-/
namespace GameSource

namespace Pattern

/-- The test of one character by which a pattern reads it. -/
def literal (c : Char) : Node := .char (.same c.toNat false {})

/-- The tests of the characters of a text, at the start and at the end of what is searched. -/
def textNodes (t : Text) : List Node := .anchor .textStart :: (t.map literal ++ [.anchor .lastLineEnd])

/-- The pattern of one text. -/
def ofText (t : Text) : Pattern := ⟨.ofSeq (textNodes t), false⟩

/-- A text between anchors, as a pattern is written. -/
def anchored (t : Text) : Text := '^' :: (t ++ ['$'])

end Pattern

/-! ## Reading -/

namespace PatternReader

variable {α β : Type} {size rounds : Nat} {c : Char} {rest : Text} {n : Node} {ns : List Node}

/-- From the first state the reader goes over to the second one and answers. -/
def Reads (r : PatternReader α) (s : PatternState) (a : α) (s' : PatternState) : Prop := r.run s = .ok (a, s')

theorem reads_pure {a : α} (s : PatternState) : Reads (pure a) s a s := rfl

theorem Reads.bind {r : PatternReader α} {f : α → PatternReader β} {a : α} {b : β} {s s' s'' : PatternState}
    (hr : Reads r s a s') (hf : Reads (f a) s' b s'') : Reads (r >>= f) s b s'' := by
  rw [Reads, StateT.run_bind, hr]
  exact hf

theorem Reads.andThen {r : PatternReader α} {q : PatternReader β} {a : α} {b : β} {s s' s'' : PatternState}
    (hr : Reads r s a s') (hq : Reads q s' b s'') : Reads (r >>= fun _ => q) s b s'' := hr.bind hq

/-- The nodes, the latest first, have been read one behind the other, and no group is open. -/
def flat (size : Nat) (rest : Text) (ns : List Node) : PatternState :=
  { size := size, rest := rest, frame := ⟨.plain, 0, {}, [], ns.map .node⟩, outer := [], groups := 0, names := [],
    widths := [], behindGroups := none, asked := [], alphabets := [] }

theorem reads_moveTo {t : Text} (h : rest ≠ ['\\']) : Reads (moveTo rest) (flat size t ns) () (flat size rest ns) := by
  refine .bind rfl ?_
  rw [if_neg h]
  rfl

theorem tokenOf_cons (hc : c ≠ '\\') : tokenOf (c :: rest) = [c] := by
  unfold tokenOf
  split
  · rename_i heq
    cases heq
    exact absurd rfl hc
  · rename_i heq
    cases heq
    rfl
  · contradiction

theorem reads_peek (hc : c ≠ '\\') : Reads peek (flat size (c :: rest) ns) [c] (flat size (c :: rest) ns) := by
  have htoken : tokenOf (c :: rest) = [c] := tokenOf_cons hc
  rw [← htoken]
  rfl

theorem reads_next (hc : c ≠ '\\') (h : rest ≠ ['\\']) :
    Reads next (flat size (c :: rest) ns) [c] (flat size rest ns) := by
  refine .bind (reads_peek hc) (.bind (a := flat size (c :: rest) ns) rfl ?_)
  have hmove : Reads (moveTo rest) (flat size (c :: rest) ns) () (flat size rest ns) := reads_moveTo h
  exact hmove.andThen (reads_pure _)

/-- The characters that a construct begins with, or that end a branch or a group. -/
def signs : List Char := ['\\', '[', '(', '?', '*', '+', '\x7b', '.', '^', '$', '|', ')']

theorem construct_singleton : construct [c] = charConstruct c := rfl

/-- **A character that is no sign stands for itself.** -/
theorem reads_charConstruct_plain (hc : c ∉ signs) :
    Reads (charConstruct c) (flat size rest ns) () (flat size rest (Pattern.literal c :: ns)) := by
  refine .bind (a := flat size rest ns) rfl ?_
  split
  case h_10 => rfl
  -- In the other cases the character is a sign.
  all_goals exact absurd (by decide) hc

theorem reads_charConstruct_start :
    Reads (charConstruct '^') (flat size rest ns) () (flat size rest (.anchor .textStart :: ns)) := rfl

theorem reads_charConstruct_end :
    Reads (charConstruct '$') (flat size rest ns) () (flat size rest (.anchor .lastLineEnd :: ns)) := rfl

/-- One round reads the construct that a character begins. -/
theorem reads_constructs_succ {s s' : PatternState} (hescape : c ≠ '\\') (hrest : rest ≠ ['\\']) (hbar : c ≠ '|')
    (hclose : c ≠ ')') (h : Reads (charConstruct c) (flat size rest ns) () s) (hs : Reads (constructs rounds) s () s') :
    Reads (constructs (rounds + 1)) (flat size (c :: rest) ns) () s' := by
  refine .bind (reads_peek hescape) ?_
  split
  case h_1 heq => cases heq
  case h_2 heq =>
    cases heq
    exact absurd rfl hbar
  case h_3 heq =>
    cases heq
    exact absurd rfl hclose
  case h_4 =>
    rw [← construct_singleton] at h
    exact .bind (reads_next hescape hrest) (h.andThen hs)

/-- **A text without signs is read as tests of its characters**, one behind the other. -/
theorem reads_constructs_plain {t : Text} {s : PatternState} (ht : ∀ c ∈ t, c ∉ signs) (hrest : rest ≠ ['\\'])
    (h : Reads (constructs rounds) (flat size rest ((t.map Pattern.literal).reverse ++ ns)) () s) :
    Reads (constructs (t.length + rounds)) (flat size (t ++ rest) ns) () s := by
  induction t generalizing ns with
  | nil =>
    rw [List.length_nil, Nat.zero_add]
    exact h
  | cons c t ih =>
    obtain ⟨hc, ht⟩ := List.forall_mem_cons.1 ht
    have hne {d : Char} (hd : d ∈ signs) : c ≠ d := fun heq => hc (heq ▸ hd)
    have hrest' : t ++ rest ≠ ['\\'] := by
      cases t with
      | nil => exact hrest
      | cons d t =>
        intro heq
        obtain ⟨rfl, -⟩ := List.cons.inj heq
        exact ht _ List.mem_cons_self (by decide)
    rw [List.length_cons, Nat.add_right_comm]
    refine reads_constructs_succ (hne (by decide)) hrest' (hne (by decide)) (hne (by decide))
      (reads_charConstruct_plain hc) (ih ht ?_)
    simpa using h

theorem trouble?_ofSeq {noRepeat : Bool} : ∀ {ns : List Node}, (∀ n ∈ ns, trouble? noRepeat n = none) →
    trouble? noRepeat (.ofSeq ns) = none
  | [], _ => rfl
  | n :: ns, h => by
    obtain ⟨hn, hns⟩ := List.forall_mem_cons.1 h
    change (trouble? noRepeat n).or (trouble? noRepeat (.ofSeq ns)) = none
    rw [hn, trouble?_ofSeq hns]
    rfl

/-- What has been read without a group and a branch is the nodes in their order. -/
theorem reads_finish (h : ∀ n ∈ ns, trouble? false n = none) :
    Reads finish (flat size [] ns.reverse) ⟨.ofSeq ns, false⟩ (flat size [] ns.reverse) := by
  have hbranch : (flat size [] ns.reverse).frame.branch = ns := by
    simp [Frame.branch, flat, List.flatMap_map, Piece.nodes]
  have hnodes : (flat size [] ns.reverse).frame.nodes = ns := hbranch
  have hasked : (flat size [] ns.reverse).asked = [] := rfl
  have htrouble : trouble? (flat size [] ns.reverse).frame.flags.noRepeat (.ofSeq ns) = none := trouble?_ofSeq h
  refine .bind rfl (.bind rfl ?_)
  simp only [hnodes, hasked, List.find?_nil, htrouble]
  rfl

theorem trouble?_textNodes {t : Text} : ∀ n ∈ Pattern.textNodes t, trouble? false n = none := by
  intro n hn
  rcases List.mem_cons.1 hn with rfl | hn
  · rfl
  rcases List.mem_append.1 hn with hn | hn
  · obtain ⟨c, -, rfl⟩ := List.mem_map.1 hn
    rfl
  · rw [List.mem_singleton.1 hn]
    rfl

theorem reads_constructs_anchored {t : Text} (ht : ∀ c ∈ t, c ∉ signs) :
    Reads (constructs (Pattern.anchored t).length) (flat size (Pattern.anchored t) []) ()
      (flat size [] (Pattern.textNodes t).reverse) := by
  have hlength : (Pattern.anchored t).length = t.length + 1 + 1 := by simp [Pattern.anchored]
  have hnodes : (Pattern.textNodes t).reverse =
      .anchor .lastLineEnd :: ((t.map Pattern.literal).reverse ++ [.anchor .textStart]) := by simp [Pattern.textNodes]
  have hend : t ++ ['$'] ≠ ['\\'] := fun heq => by simpa using congrArg List.getLast? heq
  rw [hlength, hnodes]
  refine reads_constructs_succ (by decide) hend (by decide) (by decide) reads_charConstruct_start ?_
  refine reads_constructs_plain ht (by decide) ?_
  exact reads_constructs_succ (by decide) (by decide) (by decide) (by decide) reads_charConstruct_end rfl

end PatternReader

namespace Pattern

variable {t u : Text}

/-- **A text without signs between anchors is read as the pattern of this text.** -/
theorem read_anchored (ht : ∀ c ∈ t, c ∉ PatternReader.signs) : read (anchored t) = .ok (ofText t) := by
  have hmove : PatternReader.Reads (PatternReader.moveTo (anchored t))
      (PatternReader.flat (anchored t).length (anchored t) []) ()
      (PatternReader.flat (anchored t).length (anchored t) []) := PatternReader.reads_moveTo fun heq => by cases heq
  have hread := hmove.andThen ((PatternReader.reads_constructs_anchored ht).andThen
    (PatternReader.reads_finish PatternReader.trouble?_textNodes))
  exact congrArg (Except.map Prod.fst) hread

/-! ## Searching -/

theorem holds_literal {c d : Char} : (CharTest.same c.toNat false {}).holds d ↔ d = c := by
  simp [CharTest.holds, CharFlags.matching, CharFlags.lower, Char.toNat_inj]

/-- The tests of a text pass it, and then nothing may follow but a line feed. -/
theorem isSome_run_literals {p : Place} :
    ((Node.ofSeq (t.map literal ++ [.anchor .lastLineEnd])).run some p).isSome ↔ p.rest = t ∨ p.rest = t ++ ['\n'] := by
  induction t generalizing p with
  | nil =>
    have hend : Anchor.lastLineEnd.holds p.passed p.rest ↔ p.rest = [] ∨ p.rest = ['\n'] := by simp [Anchor.holds]
    change (if Anchor.lastLineEnd.holds p.passed p.rest then some p else none).isSome ↔ _
    rw [Option.isSome_ite]
    exact hend
  | cons c t ih =>
    cases hrest : p.rest with
    | nil =>
      simp [Node.ofSeq, Node.run, literal, hrest]
    | cons d rest =>
      have hrun : (Node.ofSeq ((c :: t).map literal ++ [.anchor .lastLineEnd])).run some p =
          if d = c then (Node.ofSeq (t.map literal ++ [.anchor .lastLineEnd])).run some (p.forward 1) else none := by
        simp only [List.map_cons, List.cons_append, Node.ofSeq, List.foldr_cons, Node.run, literal, hrest,
          holds_literal]
      rw [hrun]
      split
      · rename_i heq
        rw [ih]
        simp [Place.forward, hrest, heq]
      · rename_i hne
        simp [hne]

/-- A pattern that begins at the start of a text matches nowhere behind it. -/
theorem searchFrom_start {n : Node} {ascii : Bool} {passed rest : Text} (h : passed ≠ []) :
    searchFrom ⟨.seq (.anchor .textStart) n, ascii⟩ passed rest = false := by
  induction rest generalizing passed with
  | nil => simp [searchFrom, Node.run, Anchor.holds, h]
  | cons c rest ih => simp [searchFrom, Node.run, Anchor.holds, h, ih]

theorem search_start {n : Node} {ascii : Bool} :
    search ⟨.seq (.anchor .textStart) n, ascii⟩ t = (n.run some (Place.start t)).isSome := by
  cases t with
  | nil => simp [search, searchFrom, Node.run, Anchor.holds, Place.start]
  | cons c t =>
    simp [search, searchFrom, Node.run, Anchor.holds, Place.start, searchFrom_start, mayBegin, Node.otherLead?]

/-- **What the pattern of a text finds** is the text, and the text with a line feed behind it. -/
theorem search_ofText : (ofText t).search u ↔ u = t ∨ u = t ++ ['\n'] := by
  rw [ofText, textNodes, Node.ofSeq, List.foldr_cons, search_start]
  exact isSome_run_literals

end Pattern

/-! ## Filters -/

theorem not_mem_signs {c : Char} (h : isWord c) : c ∉ PatternReader.signs := fun hmem => by
  have hsigns : (PatternReader.signs.all fun c => !isWord c) = true := rfl
  simpa [h] using List.all_eq_true.1 hsigns c hmem

namespace DefineFilter

variable {names : List Text}

theorem read_anchored (h : ∀ n ∈ names, ∀ c ∈ n, isWord c) :
    read true (names.map Pattern.anchored) = .ok (.patterns (names.map Pattern.ofText)) := by
  have hread : (names.map Pattern.anchored).mapM (fun p => (Pattern.read p).mapError (BadPattern.mk p)) =
      .ok (names.map Pattern.ofText) := by
    induction names with
    | nil => rfl
    | cons n names ih =>
      obtain ⟨hn, hnames⟩ := List.forall_mem_cons.1 h
      rw [List.map_cons, List.mapM_cons, Pattern.read_anchored fun c hc => not_mem_signs (hn c hc), ih hnames]
      rfl
  change ofPatterns _ = _
  rw [ofPatterns, hread]
  rfl

/-- Of texts without a line feed the patterns of names accept the names. -/
theorem accepts_ofText {n : Text} (h : '\n' ∉ n) :
    (patterns (names.map Pattern.ofText)).accepts n = (DefineFilter.names names).accepts n := by
  have hsearch {m : Text} : (Pattern.ofText m).search n ↔ n = m := by
    rw [Pattern.search_ofText, or_iff_left]
    rintro rfl
    exact h (by simp)
  rw [Bool.eq_iff_iff]
  simp [accepts, hsearch]

end DefineFilter

/-- **Asking for names and asking for the anchored patterns of these names** are the same: both can be read, and give
the same table of any source, with the same names matched. -/
theorem DefineTable.ofSource_anchored {names : List Text} (h : ∀ n ∈ names, ∀ c ∈ n, isWord c) (t : Text) :
    ∃ byName byPattern, DefineFilter.read false names = .ok byName ∧
      DefineFilter.read true (names.map Pattern.anchored) = .ok byPattern ∧
      (ofSource byPattern t).expressions = (ofSource byName t).expressions ∧
      (ofSource byPattern t).matched = (ofSource byName t).matched := by
  refine ⟨_, _, rfl, DefineFilter.read_anchored h, expressions_ofSource _ _ t, ?_⟩
  rw [matched_ofSource, matched_ofSource, expressions_ofSource _ (.names names)]
  refine List.filter_congr fun n hn => DefineFilter.accepts_ofText fun hmem => ?_
  exact ne_of_isWord ((isName_of_mem_names hn).2 _ hmem) (by decide) rfl

/-- Two of three names are asked for, and a part of the third is one of them. -/
theorem DefineTable.ofSource_anchored_colors :
    (∀ n ∈ ["größe".toList, "RED".toList], ∀ c ∈ n, isWord c) ∧ ∃ byName byPattern,
      DefineFilter.read false ["größe".toList, "RED".toList] = .ok byName ∧
      DefineFilter.read true ["^größe$".toList, "^RED$".toList] = .ok byPattern ∧
      (ofSource byPattern "#define RED 1\n#define REDS 2\nenum \x7b größe \x7d;\n".toList).matched =
        ["RED".toList, "größe".toList] := by
  have hnames : ∀ n ∈ ["größe".toList, "RED".toList], ∀ c ∈ n, isWord c := fun n hn =>
    List.all_eq_true.1 (List.all_eq_true.1 (rfl : (["größe".toList, "RED".toList].all fun n => n.all isWord) = true)
      n hn)
  obtain ⟨byName, byPattern, hname, hpattern, -, hmatched⟩ :=
    ofSource_anchored hnames "#define RED 1\n#define REDS 2\nenum \x7b größe \x7d;\n".toList
  refine ⟨hnames, byName, byPattern, hname, hpattern, ?_⟩
  cases hname
  rw [hmatched]
  decide +kernel

end GameSource
