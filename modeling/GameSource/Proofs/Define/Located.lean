import GameSource.Proofs.Define.Counted
import GameSource.Proofs.Define.Spelling
import GameSource.Proofs.Session.Placed
import GameSource.Proofs.Text.Located
/-!
# Where the problems of a define are placed

A directive stands on one line of the prepared text, and its value is a part of that line (`value_within`).  A problem
with the value is placed on the first line that has the fragment at which it was met, so on the line of the directive if
no line before has that fragment.  That line has the number that it has in the source if no lines before were joined,
and otherwise a smaller one (`recorded_line`).
-/
namespace GameSource

/-! ## The line of a directive -/

/-- The value of a directive is a part of it. -/
theorem Directive.value_within {name value text : Text} (h : Directive name value text) : value <:+: text := by
  obtain @⟨gap, blanks, line, -, -, -, -, -⟩ := h
  exact (trim_within line).trans ⟨'#' :: (gap ++ ("define".toList ++ (blanks ++ name))), [], by simp⟩

/-- **The value of a directive is a part of the line on which the directive stands.** -/
theorem value_within {t name value : Text} {i : Nat} (h : (i, .define name value) ∈ scanAt definition? t) :
    ∃ line, (Text.lines t)[(t.take i).count '\n']? = some line ∧ value <:+: line := by
  obtain ⟨hlt, rest, hread⟩ := readAt_of_mem_scanAt h
  obtain ⟨before, behind, rfl, rfl, hr⟩ := (readAt_eq_some (Nat.le_of_lt hlt)).1 hread
  obtain ⟨directive, rfl, hdirective, -⟩ := defineDirective?_eq_some_iff.1 (definition?_define_iff.1 hr)
  obtain ⟨p, q, hplace, -, -⟩ := Text.exists_line hdirective.newline before rest
  rw [List.take_left, ← List.append_assoc]
  exact ⟨_, hplace, hdirective.value_within.trans ⟨p, q, rfl⟩⟩

/-! ## The place of a problem -/

section
variable {filter : DefineFilter} {t : Text} {pre post : List (Nat × Definition)} {i : Nat} {name value : Text}

theorem find?_ofSource_directive (hscan : scanAt definition? (bareText t) = pre ++ (i, .define name value) :: post)
    (hfirst : ∀ e ∈ pre, name ∉ e.2.elements.map Prod.fst) :
    (DefineTable.ofSource filter t).expressions.find? name = some value := by
  have hscan' : scan definition? (bareText t) = pre.map Prod.snd ++ .define name value :: post.map Prod.snd := by
    rw [scan, hscan, List.map_append, List.map_cons]
  refine find?_ofSource_first hscan' (fun d hd => ?_) (if_pos rfl)
  obtain ⟨e, he, rfl⟩ := List.mem_map.1 hd
  exact hfirst e he

/-- **Where the problems of a directive are placed.**  Let a directive be the first definition of its name, let no
carriage return stand in the prepared text up to the end of the directive's line, and let anything be requested of a
session over the table, but for another expression of the name.  What is recorded for the name is then a problem with
its expression, or that it has none any more.  If it is a problem with the expression and has a line, this is no line
behind the directive's in the prepared text, and it is a line of the source on which the directive stands if and only if
no line before the directive has the fragment at which the problem was met and no lines before it were joined. -/
theorem recorded_line (filter : DefineFilter) (values : Entries Text Int) (filename : Text) (requests : List Request)
    (hscan : scanAt definition? (bareText t) = pre ++ (i, .define name value) :: post)
    (hfirst : ∀ e ∈ pre, name ∉ e.2.elements.map Prod.fst) (hrequests : ∀ q ∈ requests, q.Leaves name value) :
    let s := (Session.start (DefineTable.ofSource filter t).expressions values (bareText t) filename).after requests
    let k := ((bareText t).take i).count '\n'
    (∀ line ∈ (Text.lines (bareText t)).take (k + 1), '\r' ∉ line) → ∀ d, .recorded name d ∈ s.journal →
    ∃ p, d.cause = .problem p ∧ (p = .noDefinition name ∨ p.fragment <:+: value ∧
      ∀ l : Int, d.line = some l → ∃ n : Nat, l = n ∧ n ≤ k + 1 ∧ (n ∈ Text.headerLines t k ↔
        (∀ line ∈ (Text.lines (bareText t)).take k, ¬p.fragment <:+: line) ∧
          ∀ j < k, (Text.headerLines t j).length = 1)) := by
  intro s k hreturn d hd
  have hstart : (Session.start (DefineTable.ofSource filter t).expressions values (bareText t) filename).Confines
      (bareText t) name value := by
    refine ⟨rfl, fun x hx => ?_, fun d hd => by cases hd⟩
    have hfind : (DefineTable.ofSource filter t).expressions.find? name = some value :=
      find?_ofSource_directive hscan hfirst
    exact Option.some.inj (hx.symm.trans hfind)
  have hafter : s.Confines (bareText t) name value := hstart.after hrequests
  obtain ⟨p, hp, rfl⟩ := hafter.recorded d hd
  refine ⟨p, rfl, hp.symm.imp_right fun hwithin => ⟨hwithin, fun l hl => ?_⟩⟩
  obtain ⟨line, hline, hvalue⟩ := value_within (hscan ▸ List.mem_append_right pre List.mem_cons_self)
  obtain ⟨q, hq, hle, hiff⟩ := Position.ofPart?_line hline (hwithin.trans hvalue) hreturn
  simp only [SessionStep.diagnose, hafter.text] at hl
  split at hl
  · cases hl
  · rw [hq] at hl
    obtain rfl : (q.line : Int) = l := Option.some.inj hl
    refine ⟨q.line, rfl, hle, ?_⟩
    rw [Text.mem_headerLines hline hle, hiff]

end

/-- The directive stands on the line behind two that are joined. -/
def behindJoined : Text := "#define A 1 + \\\n2\n#define B MISSING\n".toList

/-- The unknown name is placed on the line before that of the directive. -/
theorem recorded_line_behindJoined :
    let s := (Session.start (DefineTable.ofSource (.names []) behindJoined).expressions [] (bareText behindJoined)
      "<input>".toList).after [.resolve "B".toList none]
    scanAt definition? (bareText behindJoined) =
        [(0, .define "A".toList "1 + 2".toList)] ++ (16, .define "B".toList "MISSING".toList) :: [] ∧
    Text.headerLines behindJoined 1 = [3] ∧
    ∃ d p, .recorded "B".toList d ∈ s.journal ∧ d.cause = .problem p ∧ d.line = some 2 ∧
      (p = .noDefinition "B".toList ∨ p.fragment <:+: "MISSING".toList ∧
        ∀ l : Int, d.line = some l → ∃ n : Nat, l = n ∧ n ≤ 2 ∧ (n ∈ Text.headerLines behindJoined 1 ↔
          (∀ line ∈ (Text.lines (bareText behindJoined)).take 1, ¬p.fragment <:+: line) ∧
            ∀ j < 1, (Text.headerLines behindJoined j).length = 1)) := by
  intro s
  have hscan : scanAt definition? (bareText behindJoined) =
      [(0, .define "A".toList "1 + 2".toList)] ++ (16, .define "B".toList "MISSING".toList) :: [] := by decide +kernel
  have hlines : Text.headerLines behindJoined 1 = [3] := by decide +kernel
  let d : Diagnostic := ⟨.define, "<input>".toList, .problem (.unknownToken "MISSING".toList "MISSING".toList), some 2,
    some 11⟩
  have hd : .recorded "B".toList d ∈ s.journal := by decide +kernel
  obtain ⟨p, hp, hplace⟩ := recorded_line (.names []) [] "<input>".toList [.resolve "B".toList none] hscan (by decide)
    (by simp [Request.Leaves]) (by decide +kernel) d hd
  exact ⟨hscan, hlines, d, p, hd, hp, rfl, hplace⟩

/-- The unknown name of the directive stands on a line before, or lines before are joined, or a carriage return stands
before. -/
def placedElsewhere : List Text :=
  ["int MISSING;\n#define B MISSING\n".toList, "#define A 1 + \\\n2\n#define B MISSING\n".toList,
    "\r#define B MISSING\n".toList]

/-- **The name has one directive in each of these texts, and its problem is placed on no line of it.** -/
theorem recorded_line_elsewhere : placedElsewhere.Forall fun t => ∃ pre i post d, ∃ l : Nat,
    scanAt definition? (bareText t) = pre ++ (i, .define "B".toList "MISSING".toList) :: post ∧
    (∀ e ∈ pre ++ post, "B".toList ∉ e.2.elements.map Prod.fst) ∧
    .recorded "B".toList d ∈ ((Session.start (DefineTable.ofSource (.names []) t).expressions [] (bareText t)
      "<input>".toList).after [.resolve "B".toList none]).journal ∧
    d.cause = .problem (.unknownToken "MISSING".toList "MISSING".toList) ∧ d.line = some (l : Int) ∧ d.column.isSome ∧
    l ∉ Text.headerLines t (((bareText t).take i).count '\n') := by
  let d (line column : Int) : Diagnostic :=
    ⟨.define, "<input>".toList, .problem (.unknownToken "MISSING".toList "MISSING".toList), some line, some column⟩
  refine ⟨?_, ?_, ?_⟩
  · exact ⟨[], 13, [], d 1 5, 1, by decide +kernel, by decide, by decide +kernel, rfl, rfl, rfl, by decide +kernel⟩
  · exact ⟨[(0, .define "A".toList "1 + 2".toList)], 16, [], d 2 11, 2, by decide +kernel, by decide, by decide +kernel,
      rfl, rfl, rfl, by decide +kernel⟩
  · exact ⟨[], 1, [], d 2 11, 2, by decide +kernel, by decide, by decide +kernel, rfl, rfl, rfl, by decide +kernel⟩

end GameSource
