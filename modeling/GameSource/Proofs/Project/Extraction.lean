import GameSource.Proofs.Command.Fault
/-!
# Extractions from files without a text

Fifteen extractions take a file name of a project.  Where the disk has no bytes for the file, or none that can be
decoded, each extraction that opens the file gives one notice and its empty answer, with the diagnostic if its answer
has room for one.  A null character in a name or an encoding without a codec stops it instead, and the extractions from
scripts open scripts only; so which of them tolerate a file without a text is said exactly (`Extraction.run_lacking`).
-/
namespace GameSource

/-! ## Extractions -/

/-- What can be asked of a file of a project. -/
inductive Extraction where
  | definesByName (names : List Text)
  | definesByPattern (patterns : List Text)
  | defineNames (patterns : List Text)
  | array (label : Text)
  | arrays
  | indexedArray (label : Text)
  | incbin (label : Text)
  | incbins
  | incbinArray (label : Text)
  | structs (label : Text) (names : Nat → Option Text)
  | asmRows
  | macrosUnder (label : Text)
  | valuesUnder (label : Text)
  | scriptLine (label : Text)
  | scriptLabels

namespace Extraction

/-- The answer from a file, and the diagnostic about it where there is room for one. -/
def run (p : Project) (file : Text) : Extraction → Work (Answer × Option Diagnostic)
  | definesByName names => return (← p.definesByName file names).map .numbers id
  | definesByPattern patterns => return (← p.definesByPattern file patterns).map .numbers id
  | defineNames patterns => return (← p.defineNames file patterns).map .words id
  | array label => return (.words (← p.array file label), none)
  | arrays => return (.lists (← p.arrays file), none)
  | indexedArray label => return (← p.indexedArray file label).map .texts id
  | incbin label => return (.word (← p.incbin file label), none)
  | incbins => return (.texts (← p.incbins file), none)
  | incbinArray label => return (.words (← p.incbinArray file label), none)
  | structs label names => return (.structs (← p.structs file label names), none)
  | asmRows => return (.rows (← p.asmRows file), none)
  | macrosUnder label => return (.rows (← p.macrosUnder file label), none)
  | valuesUnder label => return (.words (← p.valuesUnder file label), none)
  | scriptLine label => return (.number (← p.scriptLine file label), none)
  | scriptLabels => return (.words (← p.scriptLabels file), none)

/-- The answer from nothing. -/
def empty : Extraction → Answer
  | definesByName _ | definesByPattern _ => .numbers []
  | arrays => .lists []
  | indexedArray _ | incbins => .texts []
  | incbin _ => .word []
  | structs _ _ => .structs []
  | asmRows | macrosUnder _ => .rows []
  | scriptLine _ => .number 0
  | defineNames _ | array _ | incbinArray _ | valuesUnder _ | scriptLabels => .words []

/-- Whether a diagnostic can come with the answer. -/
def hasRoom : Extraction → Bool
  | definesByName _ | definesByPattern _ | defineNames _ | indexedArray _ => true
  | _ => false

/-- Whether the file is opened: a script is recognized by its name, and there is no script label without a name. -/
def opens (file : Text) : Extraction → Bool
  | scriptLine label => (Script.Dialect.ofPath? (.ofText file)).isSome && !label.isEmpty
  | scriptLabels => (Script.Dialect.ofPath? (.ofText file)).isSome
  | _ => true

end Extraction

/-! ## Files without a text -/

theorem Project.of_open? {p : Project} {disk : Disk} {o : Options} (h : Project.open? disk o = .ok p) :
    p.disk = disk ∧ p.encoding = o.encoding := by
  unfold Project.open? at h
  cases hvalues : o.values with
  | error e =>
    rw [hvalues] at h
    cases h
  | ok known =>
    rw [hvalues] at h
    cases h
    exact ⟨rfl, rfl⟩

/-- A reason that no diagnostic tells stops a reader. -/
theorem Project.gives_tryRead_stopped {p : Project} {file : Text} {e : OpenFault} (h : p.text? file = .error e)
    (hnot : ∀ d, e ≠ .unreadable d) : (p.tryRead file).Gives (.error (.file e)) [] := by
  unfold tryRead
  rw [h]
  cases e with
  | unreadable d => exact absurd rfl (hnot d)
  | badEncoding | nullInPath | nullInEncoding | undecodableInput => exact Work.gives_stop _

namespace Extraction

variable {p : Project} {file : Text} {d : Diagnostic}

/-- An extraction that does not open its file answers from nothing. -/
theorem gives_of_not_opens {x : Extraction} (h : x.opens file = false) :
    (x.run p file).Gives (.ok (x.empty, none)) [] := by
  cases x with
  | scriptLine label =>
    have hline : (p.scriptLine file label).Gives (.ok 0) [] := by
      unfold Project.scriptLine
      cases hdialect : Script.Dialect.ofPath? (.ofText file) with
      | none => exact Work.gives_pure 0
      | some dialect =>
        have hlabel : label.isEmpty = true := by simpa [opens, hdialect] using h
        simp only
        rw [if_pos hlabel]
        exact Work.gives_pure 0
    exact hline.answering rfl
  | scriptLabels =>
    have hlabels : (p.scriptLabels file).Gives (.ok []) [] := by
      unfold Project.scriptLabels
      cases hdialect : Script.Dialect.ofPath? (.ofText file) with
      | none => exact Work.gives_pure []
      | some dialect => simp [opens, hdialect] at h
    exact hlabels.answering rfl
  | _ => cases h

/-- **An extraction that opens its file reads it before all else**, and answers from nothing if it cannot be read. -/
theorem exists_run {x : Extraction} (h : x.opens file) : ∃ f, x.run p file = p.tryRead file >>= f ∧
    ∀ d, f (.error d) = pure (x.empty, if x.hasRoom then some d else none) := by
  cases x with
  | definesByName names =>
    simp only [run, Project.definesByName, Project.evaluateDefines, Project.scan, bind_assoc]
    exact ⟨_, rfl, fun _ => rfl⟩
  | definesByPattern patterns =>
    simp only [run, Project.definesByPattern, Project.evaluateDefines, Project.scan, bind_assoc]
    exact ⟨_, rfl, fun _ => rfl⟩
  | defineNames patterns =>
    simp only [run, Project.defineNames, Project.scan, bind_assoc]
    exact ⟨_, rfl, fun _ => rfl⟩
  | indexedArray label =>
    simp only [run, Project.indexedArray, bind_assoc]
    exact ⟨_, rfl, fun _ => rfl⟩
  | array | arrays | incbin | incbins | incbinArray | structs | asmRows | macrosUnder | valuesUnder =>
    simp only [run, Project.array, Project.arrays, Project.incbin, Project.incbins, Project.incbinArray, Project.structs,
      Project.macrosUnder, Project.valuesUnder, Project.asmRows, Project.readWith, bind_assoc]
    exact ⟨_, rfl, fun _ => rfl⟩
  | scriptLine label =>
    obtain ⟨hscript, hlabel⟩ := Bool.and_eq_true_iff.1 h
    obtain ⟨dialect, hdialect⟩ := Option.isSome_iff_exists.1 hscript
    have hnamed : ¬ label.isEmpty = true := by simpa using hlabel
    simp only [run, Project.scriptLine, Project.readWith, hdialect, if_neg hnamed, bind_assoc]
    exact ⟨_, rfl, fun _ => rfl⟩
  | scriptLabels =>
    obtain ⟨dialect, hdialect⟩ := Option.isSome_iff_exists.1 h
    simp only [run, Project.scriptLabels, Project.readWith, hdialect, bind_assoc]
    exact ⟨_, rfl, fun _ => rfl⟩

/-- An extraction that opens an unreadable file tells so, and answers from nothing. -/
theorem gives_of_unreadable (hfile : p.text? file = .error (.unreadable d)) {x : Extraction} (h : x.opens file) :
    (x.run p file).Gives (.ok (x.empty, if x.hasRoom then some d else none)) [.diagnosed d] := by
  obtain ⟨f, hrun, hempty⟩ := exists_run (p := p) h
  rw [hrun]
  exact (Project.gives_tryRead hfile).answering (hempty d)

/-- An extraction that opens a file is stopped where no diagnostic tells why the file has no text. -/
theorem gives_of_stopped {e : OpenFault} (hfile : p.text? file = .error e) (hnot : ∀ d, e ≠ .unreadable d)
    {x : Extraction} (h : x.opens file) : (x.run p file).Gives (.error (.file e)) [] := by
  obtain ⟨f, hrun, -⟩ := exists_run (p := p) h
  rw [hrun]
  exact (Project.gives_tryRead_stopped hfile hnot).bind_error

/-! ## What it comes to -/

/-- The extraction is not stopped: it gives one warning about reading the file and its empty answer, with the same
diagnostic where there is room for one. -/
def Tolerates (x : Extraction) (p : Project) (file : Text) : Prop :=
  ∃ d : Diagnostic, d.stage = .read ∧ (Notice.diagnosed d).level = .warning ∧
    (x.run p file).collect = (.ok (x.empty, if x.hasRoom then some d else none), [.diagnosed d])

/-- What an extraction comes to over a file that has no text for that reason. -/
def resultLacking (file : Text) (e : OpenFault) (x : Extraction) :
    Except Fault (Answer × Option Diagnostic) × List Notice :=
  if x.opens file then
    match e with
    | .unreadable d => (.ok (x.empty, if x.hasRoom then some d else none), [.diagnosed d])
    | e => (.error (.file e), [])
  else (.ok (x.empty, none), [])

/-- **Which extractions tolerate a file without a text.**  A file has no text for one of the reasons that `LacksText`
lists.  Whatever extraction is made from such a file, it gives one warning and its empty answer just if it opens the file
and the reason is an unreadable file, of which the diagnostic tells the cause; a null character or the encoding stops it
with no notice, and an extraction that does not open the file answers from nothing with no notice. -/
theorem run_lacking {disk : Disk} {o : Options} (hopen : Project.open? disk o = .ok p) (file : Text) :
    (∀ e, p.text? file = .error e ↔ LacksText disk o.encoding (p.path file).text (p.path file) e) ∧
    ∀ e, LacksText disk o.encoding (p.path file).text (p.path file) e → ∀ x : Extraction,
      (x.Tolerates p file ↔ x.opens file ∧ ∃ d, e = .unreadable d) ∧
      (x.run p file).collect = x.resultLacking file e := by
  obtain ⟨rfl, hencoding⟩ := Project.of_open? hopen
  rw [← hencoding]
  refine ⟨fun e => readText_eq_error_iff, fun e hlacks x => ?_⟩
  have hfile : p.text? file = .error e := hlacks.readText_eq
  cases hopens : x.opens file with
  | false =>
    have hrun := (gives_of_not_opens (p := p) hopens).collect
    refine ⟨iff_of_false ?_ (fun h => Bool.false_ne_true h.1), by simp only [hrun, resultLacking, hopens]; rfl⟩
    rintro ⟨d, -, -, hcollect⟩
    cases congrArg Prod.snd (hrun.symm.trans hcollect)
  | true =>
    by_cases hunreadable : ∃ d, e = .unreadable d
    · obtain ⟨d, rfl⟩ := hunreadable
      have hrun := (gives_of_unreadable hfile hopens).collect
      have hstage : d.stage = .read := by cases hlacks <;> rfl
      exact ⟨iff_of_true ⟨d, hstage, rfl, hrun⟩ ⟨rfl, d, rfl⟩, by simp only [hrun, resultLacking, hopens, if_true]⟩
    · have hrun := (gives_of_stopped hfile (fun d h => hunreadable ⟨d, h⟩) hopens).collect
      refine ⟨iff_of_false ?_ (fun h => hunreadable h.2), ?_⟩
      · rintro ⟨d, -, -, hcollect⟩
        cases hrun.symm.trans hcollect
      · simp only [hrun, resultLacking, hopens, if_true]
        cases e with
        | unreadable d => exact absurd ⟨d, rfl⟩ hunreadable
        | badEncoding | nullInPath | nullInEncoding | undecodableInput => rfl

/-- The defines of a header of one byte that begins no character. -/
theorem run_lacking_undecodable :
    ∃ d : Diagnostic, d = .ofReadFault "town.h".toList (.undecodable ⟨.utf8, .invalidStart, 0, 0, 255⟩) ∧
      (run ⟨(({} : FileSet).write ["town.h".toList] [255]).disk, .ofText ['.'], "utf-8".toList, []⟩ "town.h".toList
        (.definesByName [['A']])).collect = (.ok (.numbers [], some d), [.diagnosed d]) ∧
      (definesByName [['A']]).Tolerates
        ⟨(({} : FileSet).write ["town.h".toList] [255]).disk, .ofText ['.'], "utf-8".toList, []⟩ "town.h".toList := by
  have hlacks : LacksText (({} : FileSet).write ["town.h".toList] [255]).disk "utf-8".toList "town.h".toList
      (.ofText "town.h".toList) (.unreadable (.ofReadFault "town.h".toList
        (.undecodable ⟨.utf8, .invalidStart, 0, 0, 255⟩))) := .decoding rfl rfl rfl rfl rfl
  obtain ⟨-, hlacking⟩ := @run_lacking _ _ {} rfl "town.h".toList
  obtain ⟨htolerates, hrun⟩ := hlacking _ hlacks (.definesByName [['A']])
  exact ⟨_, rfl, hrun, htolerates.2 ⟨rfl, _, rfl⟩⟩

/-- An array of a file that is there, in an encoding that is unknown: the extraction is stopped, and nothing is told. -/
theorem run_lacking_unknownEncoding :
    Project.open? (diskWith "a.c" "") { encoding := "no-such".toList } =
        .ok ⟨diskWith "a.c" "", .ofText ['.'], "no-such".toList, []⟩ ∧
      LacksText (diskWith "a.c" "") "no-such".toList "a.c".toList (.ofText "a.c".toList)
        (.badEncoding .unknown "no-such".toList) ∧
      (run ⟨diskWith "a.c" "", .ofText ['.'], "no-such".toList, []⟩ "a.c".toList (.array ['x'])).collect =
        (.error (.file (.badEncoding .unknown "no-such".toList)), []) ∧
      ¬ (array ['x']).Tolerates ⟨diskWith "a.c" "", .ofText ['.'], "no-such".toList, []⟩ "a.c".toList := by
  have hlacks : LacksText (diskWith "a.c" "") "no-such".toList "a.c".toList (.ofText "a.c".toList)
      (.badEncoding .unknown "no-such".toList) := .codec rfl rfl rfl rfl
  have hfile : Project.text? ⟨diskWith "a.c" "", .ofText ['.'], "no-such".toList, []⟩ "a.c".toList =
      .error (.badEncoding .unknown "no-such".toList) := hlacks.readText_eq
  have hrun : (run ⟨diskWith "a.c" "", .ofText ['.'], "no-such".toList, []⟩ "a.c".toList (.array ['x'])).collect =
      (.error (.file (.badEncoding .unknown "no-such".toList)), []) :=
    (gives_of_stopped hfile (fun _ => by simp) rfl).collect
  refine ⟨rfl, hlacks, hrun, ?_⟩
  rintro ⟨d, -, -, hcollect⟩
  cases hrun.symm.trans hcollect

end Extraction

end GameSource
