import GameSource.Proofs.Command.Work
import GameSource.Proofs.Define.Filtered
import GameSource.Proofs.Session.Served
import GameSource.Proofs.Session.Valued
import Mathlib
/-!
# The value of one name, asked for in two ways

A name can be asked for among the defines of a file, or evaluated as an expression over them.  The one way takes the
name out of the pending ones and resolves its expression, the other one looks the name up and reads the value that is
put in its place.  Both come to the same value (`runArguments_one_name`), whatever else the file defines.
-/
namespace GameSource

open SessionStep

/-! ## Values given by options -/

theorem isWord_of_wrap32 {v : Int} (h : wrap32 v = v) : IsWord v := ⟨.ofInt 32 v, by rw [← wrap32_eq_toInt, h]⟩

theorem isWord_readGameValue {t : Text} {v : Int} (h : readGameValue t = .ok (some v)) : IsWord v := by
  unfold readGameValue at h
  simp only at h
  split at h
  · cases h
    exact ⟨1, rfl⟩
  split at h
  · cases h
    exact ⟨0, rfl⟩
  · exact readInteger_wrapped h

theorem isWord_defineValue {define : Text} {e : Text × Int} (h : defineValue define = .ok e) : IsWord e.2 := by
  obtain ⟨⟨name, text⟩, -, h⟩ := bind_eq_ok.1 h
  obtain ⟨found, hfound, h⟩ := bind_eq_ok.1 h
  cases hread : readGameValue text with
  | error x =>
    rw [hread] at hfound
    cases hfound
  | ok answer =>
    rw [hread] at hfound
    cases hfound
    cases found with
    | none => cases h
    | some v =>
      cases h
      exact isWord_readGameValue hread

/-- **The values that options give are words.** -/
theorem isWord_known {disk : Disk} {i : Invocation} {p : Project} (h : i.Opens disk p) :
    ∀ e ∈ p.known, IsWord e.2 := by
  obtain ⟨o, -, hopen⟩ := h
  obtain ⟨values, hvalues, hp⟩ := bind_eq_ok.1 hopen
  cases hp
  unfold Options.values at hvalues
  cases hes : o.defines.mapM defineValue with
  | error x =>
    rw [hes] at hvalues
    cases hvalues
  | ok es =>
    rw [hes] at hvalues
    cases hvalues
    intro e he
    obtain ⟨define, -, hdefine⟩ := exists_of_mem_mapM hes e (Entries.mem_of_mem_ofList he)
    exact isWord_defineValue hdefine

theorem Session.isWord_constants : ∀ e ∈ Session.constants, IsWord e.2 := fun e he =>
  isWord_of_wrap32 (of_decide_eq_true (List.all_eq_true.1 (by decide : Session.constants.all fun e =>
    decide (wrap32 e.2 = e.2)) e he))

/-- A fresh session is readable if its table has no long numbers and the given values are words. -/
theorem Session.Readable.start {table : Entries Text Text} {values : Entries Text Int}
    (hshort : ∀ e ∈ table, HasShortNumbers e.2) (hwords : ∀ e ∈ values, IsWord e.2) (text filename : Text) :
    (Session.start table values text filename).Readable where
  pending n e he := hshort (n, e) (Entries.mem_of_find? he)
  known n v hv := by
    rcases Entries.mem_of_mem_putAll (Entries.mem_of_find? hv) with hmem | hmem
    · exact hwords (n, v) hmem
    · exact Session.isWord_constants (n, v) hmem

/-! ## A name as an expression -/

/-- A name is read as one lexeme. -/
theorem lexemes_name (i : Identifier) : lexemes i.text = ([⟨.identifier, i.text, i.text⟩], []) :=
  (i.takes (.nil isWord)).lexemes fun c hc => isSpace_of_isAsciiWord (i.isAsciiWord_of_mem c hc)

/-- The value that is put in the place of a name is read as what it is. -/
theorem value_decimalText {v : Int} (h : IsWord v) : valueOfTokens [⟨decimalText v, .number, none⟩] = .ok v := by
  have htokens : (Postfix.ofTokens [⟨decimalText v, .number, none⟩]).tokens = [⟨decimalText v, .number, none⟩] := rfl
  rw [valueOfTokens, htokens]
  simp only [Evaluation.ofTokens, Evaluation.ofTokensFrom, h.readInteger, Option.getD_some, List.headD_cons]

/-- **A pending name that is evaluated as an expression has the value to which it is resolved**, also in a session that
only agrees on the names. -/
theorem Runs.evaluate_name {i : Identifier} {s s₁ u : Session} {v : Int} (context : Text)
    (h : Runs (.resolve i.text none) s (.ok v) s₁) (hv : IsWord v) (hu : s.Agrees u) (hres : i.text ∉ s.resolving)
    (hp : s.pending.contains i.text) : ∃ u₁, Runs (.evaluate context i.text) u (.ok v) u₁ := by
  -- What the evaluation tells before it looks the name up has no part in the value.
  have hbegan : s.Agrees (u.happened (.began context i.text)) := ⟨hu.pending, hu.known, hu.resolving⟩
  obtain ⟨u₁, hresolve, -⟩ := h.agree hbegan
  have hpending : (u.happened (.began context i.text)).pending.contains i.text := hbegan.pending ▸ hp
  have hlook : Runs (.look context i.text) (u.happened (.began context i.text)) (.ok (u₁.known.find? i.text))
      (u₁.answered context i.text) := .resolved (hbegan.resolving ▸ hres) hpending hresolve
  rw [hresolve.known_of_resolve hpending] at hlook
  have hread : Runs (.read context (lexemes i.text).1) (u.happened (.began context i.text))
      (.ok [⟨decimalText v, .number, none⟩]) (u₁.answered context i.text) := by
    rw [lexemes_name]
    exact .name rfl hlook (Token.ofLexeme_name rfl hv.fewDigits) .nil
  have hevaluate := Runs.value hread
  rw [← valueOfTokens, value_decimalText hv] at hevaluate
  exact ⟨_, hevaluate⟩

theorem evaluateIn_eq {s s' : Session} {expression : Text} {v : Int}
    (h : Runs (.evaluate "<expression>".toList expression) s (.ok v) s') :
    evaluateIn s expression = (.ok v, s'.told "<expression>".toList) := by
  have hsteps : Ensures (do
      let v ← evaluate expression
      tellProblems "<expression>".toList
      return v) s fun q u => q = .ok v ∧ u = s'.told "<expression>".toList :=
    .of_bind_eq (evaluate_eq h) (.of_bind_eq tellProblems_eq (.of_pure ⟨rfl, rfl⟩))
  exact Prod.ext hsteps.1 hsteps.2

/-- A name whose expression is not blank is all that a request for it answers. -/
theorem requestAll_name {s s₁ : Session} {name expression : Text} {v : Int}
    (he : s.pending.find? name = some expression) (hblank : Text.trim expression ≠ [])
    (h : Runs (.resolve name none) s (.ok v) s₁) :
    (requestAll [name]).run.run s = (.ok [(name, v)], s₁.told name) := by
  have hresolve : Runs (.resolve name (s.pending.find? name)) (s.taken name) (.ok v) s₁ := he ▸ h.of_pending he
  have hall : RunsAll [name] [] s (.ok [(name, v)]) (s₁.told name) :=
    .value (.inl ⟨expression, he, hblank⟩) hresolve .nil
  have hsteps := requests_eq hall
  exact Prod.ext hsteps.1 hsteps.2

/-! ## The two commands -/

section
variable {p : Project} {file text expression : Text} {name : Identifier}

/-- The defines of a readable file that are asked for by one name. -/
theorem gives_defines {v : Int} {session : Session} (stdin : StandardInput) (htext : p.text? file = .ok text)
    (hmatched : (DefineTable.ofSource (.names [name.text]) text).matched = [name.text])
    (hrequest : (requestAll [name.text]).run.run (.start (DefineTable.ofSource (.names [name.text]) text).expressions
      p.known (bareText text) file) = (.ok [(name.text, v)], session)) :
    ∃ ns, ((Command.defines file [name.text] false).answer p stdin).Gives (.ok (.numbers [(name.text, v)], none))
      ns := by
  have hread : (p.tryRead file).Gives (.ok (.ok text)) [] := by
    unfold Project.tryRead
    rw [htext]
    exact Work.gives_pure _
  have hscan : (p.scan file false [name.text]).Gives
      (.ok (.ok (text, DefineTable.ofSource (.names [name.text]) text))) [] := hread.silently (Work.gives_pure _)
  have hdefines : (p.evaluateDefines file false [name.text]).Gives (.ok ([(name.text, v)], none)) session.notices := by
    refine hscan.silently ?_
    simp only [DefineTable.evaluate, hmatched, hrequest]
    exact (Work.gives_tell _).answering rfl
  have hbyName : (p.definesByName file [name.text]).Gives (.ok ([(name.text, v)], none)) _ :=
    hdefines.bind ((Work.gives_tell _).answering rfl)
  exact ⟨_, hbyName.answering rfl⟩

/-- Notices are told before the value is given. -/
theorem gives_told {w : Except DigitLimit Int × Session} {v : Int} {session : Session} (h : w = (.ok v, session)) :
    (do Work.tell w.2.notices; Work.ofExcept .digits w.1 : Work Int).Gives (.ok v) session.notices := by
  rw [h]
  exact (Work.gives_tell _).answering rfl

/-- A name that is evaluated over the defines of a readable file. -/
theorem gives_evaluate {v : Int} (stdin : StandardInput) (htext : p.text? file = .ok text) (hfile : file ≠ standardInput)
    (hevaluate : ∀ filename, ∃ s₁, Runs (.evaluate "<expression>".toList name.text) (Session.start
      (DefineTable.ofSource (.names []) text).expressions p.known (bareText text) filename) (.ok v) s₁) :
    ∃ ns, ((Command.evaluate name.text (some file)).answer p stdin).Gives (.ok (.number v, none)) ns := by
  have hexpressions : (if text.isEmpty then [] else (DefineTable.ofSource (.names []) text).expressions) =
      (DefineTable.ofSource (.names []) text).expressions := by
    cases text with
    | nil => rfl
    | cons c t => rfl
  rw [← hexpressions] at hevaluate
  choose s₁ hs₁ using hevaluate
  have hover : ∃ ns, (evaluateOver p stdin name.text (some file)).Gives (.ok v) ns := by
    unfold evaluateOver Project.header
    simp only
    rw [if_neg hfile]
    exact ⟨_, (Work.gives_ok htext).silently (gives_told (evaluateIn_eq (hs₁ _)))⟩
  obtain ⟨ns, hover⟩ := hover
  exact ⟨ns, hover.answering rfl⟩

end

theorem printed_number (v : Int) : (Answer.number v).printed .human = decimalText v ++ ['\n'] := List.append_nil _

theorem printed_numbers (name : Text) (v : Int) :
    (Answer.numbers [(name, v)]).printed .human = name ++ '=' :: decimalText v ++ ['\n'] := List.append_nil _

/-- **Both ways of asking for a name give its value.**  A readable file gives the name a non-blank expression, and no
expression has a long number.  Then the defines of the file by that name are one line with the name and its value, and
evaluating the name over the file prints the value, whatever values are given beforehand and whether or not the name
lies on a cycle. -/
theorem runArguments_one_name {disk : Disk} {stdin : StandardInput} {root file text expression : Text}
    {args args' given : List Text} {name : Identifier} {p : Project}
    (hargs : Invocation.read args = .ok ⟨root, given, .human, .defines file [name.text] false⟩)
    (hargs' : Invocation.read args' = .ok ⟨root, given, .human, .evaluate name.text (some file)⟩)
    (hopens : Invocation.Opens disk ⟨root, given, .human, .defines file [name.text] false⟩ p)
    (hfile : file ≠ standardInput) (htext : p.text? file = .ok text)
    (hname : (DefineTable.ofSource (.names []) text).expressions.find? name.text = some expression)
    (hblank : Text.trim expression ≠ [])
    (hshort : ∀ e ∈ (DefineTable.ofSource (.names []) text).expressions, HasShortNumbers e.2) :
    ∃ v, (runArguments disk stdin args).1 =
        .ok ⟨0, .text (name.text ++ '=' :: decimalText v ++ ['\n']), .text []⟩ ∧
      (runArguments disk stdin args').1 = .ok ⟨0, .text (decimalText v ++ ['\n']), .text []⟩ := by
  have hexpressions := DefineTable.expressions_ofSource (.names [name.text]) (.names []) text
  have hmatched := DefineTable.matched_name (hexpressions ▸ hname)
  have hreadable := Session.Readable.start hshort (isWord_known hopens) (bareText text) file
  have hp : (DefineTable.ofSource (.names []) text).expressions.contains name.text := by
    rw [Entries.contains, hname]
    rfl
  obtain ⟨r, s₁, hresolve⟩ := exists_runs (.resolve name.text none)
    (Session.start (DefineTable.ofSource (.names []) text).expressions p.known (bareText text) file)
  obtain ⟨⟨v, rfl, hv⟩, -⟩ := hresolve.gives (by simp [Task.Readable]) hreadable
  have hrequest := requestAll_name hname hblank hresolve
  rw [← hexpressions] at hrequest
  obtain ⟨ns, hdefines⟩ := gives_defines stdin htext hmatched hrequest
  -- The sessions of the two commands differ in the name of the file at most, which has no part in the value.
  obtain ⟨ns', hevaluate⟩ := gives_evaluate stdin htext hfile fun filename =>
    hresolve.evaluate_name "<expression>".toList hv ⟨rfl, rfl, rfl⟩ List.not_mem_nil hp
  have hopens' : Invocation.Opens disk ⟨root, given, .human, .evaluate name.text (some file)⟩ p := hopens
  refine ⟨v, ?_, ?_⟩
  · rw [runArguments, hargs]
    simp only
    rw [Invocation.run_of_answer hopens hdefines, printed_numbers]
  · rw [runArguments, hargs']
    simp only
    rw [Invocation.run_of_answer hopens' hevaluate, printed_number]

/-- A header in which `A` leads to `C` and to itself. -/
def cyclicHeader : Text := "#define A B+C\n#define B A\n#define C 1\n".toList

/-- A disk that has this header and nothing else. -/
def cyclicDisk : Disk :=
  FileSet.disk ⟨[(["a.h".toList], cyclicHeader.map fun c => .ofNat c.toNat)], [[]]⟩

/-- `A` on its cycle, with another value for `C` given beforehand. -/
theorem runArguments_one_name_cyclic :
    ∃ v, (runArguments cyclicDisk (.text []) (["-D", "C=7", "defines", "a.h", "A"].map String.toList)).1 =
        .ok ⟨0, .text (['A'] ++ '=' :: decimalText v ++ ['\n']), .text []⟩ ∧
      (runArguments cyclicDisk (.text []) (["-DC=7", "eval", "A", "--file", "a.h"].map String.toList)).1 =
        .ok ⟨0, .text (decimalText v ++ ['\n']), .text []⟩ := by
  have hargs : Invocation.read (["-D", "C=7", "defines", "a.h", "A"].map String.toList) =
      .ok ⟨['.'], ["C=7".toList], .human, .defines "a.h".toList [['A']] false⟩ := by cbv
  have hargs' : Invocation.read (["-DC=7", "eval", "A", "--file", "a.h"].map String.toList) =
      .ok ⟨['.'], ["C=7".toList], .human, .evaluate ['A'] (some "a.h".toList)⟩ := by cbv
  have hopens : Invocation.Opens cyclicDisk ⟨['.'], ["C=7".toList], .human, .defines "a.h".toList [['A']] false⟩
      ⟨cyclicDisk, .ofText ['.'], "utf-8".toList, [(['C'], 7)]⟩ :=
    ⟨⟨['.'], "utf-8".toList, ["C=7".toList], .human⟩, by cbv, by cbv⟩
  have htext : Project.text? ⟨cyclicDisk, .ofText ['.'], "utf-8".toList, [(['C'], 7)]⟩ "a.h".toList =
      .ok cyclicHeader := by cbv
  have hname : (DefineTable.ofSource (.names []) cyclicHeader).expressions.find? ['A'] = some "B+C".toList := by
    decide +kernel
  have hlength : ∀ e ∈ (DefineTable.ofSource (.names []) cyclicHeader).expressions, e.2.length ≤ digitLimit := by
    decide +kernel
  exact @runArguments_one_name _ (.text []) _ _ _ _ _ _ _ ⟨['A'], List.all_eq_true.1 rfl, 'A', [], rfl, rfl⟩ _ hargs hargs'
    hopens (by decide) htext hname (by decide) fun e he => hasShortNumbers_of_length_le (hlength e he)

end GameSource
