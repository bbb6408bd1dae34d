import GameSource.Proofs.Define.Printed
import GameSource.Proofs.Text.Scanned
import Mathlib.Data.List.Nodup
/-!
# Tables and filters

A filter has no part in the expressions of a table (`expressions_ofSource`); it only picks names, each of them once and
in the order of the table (`matched_ofSource`).  Which table that is depends on the names that occur in the source, one
behind the other (`ofSource_filtered`); all of them are words (`isName_of_mem_names`).
-/
namespace GameSource

/-! ## Names -/

theorem isName_takeWhile {t : Text} (h : (t.takeWhile isWord).isEmpty = false) : IsName (t.takeWhile isWord) :=
  ⟨by simpa using h, fun _ hc => List.all_eq_true.1 List.all_takeWhile _ hc⟩

theorem enumElement?_name {before : Option Char} {t rest : Text} {e : Text × Text}
    (h : enumElement? before t = some (e, rest)) : IsName e.1 := by
  unfold enumElement? at h
  simp only at h
  split at h
  · cases h
  · rename_i hname
    cases h
    exact isName_takeWhile (Bool.or_eq_false_iff.1 (Bool.eq_false_iff.2 hname)).1

theorem map_fst_countElements : ∀ (base : Text) (offset : Nat) (es : List (Text × Text)),
    (countElements base offset es).map Prod.fst = es.map Prod.fst
  | _, _, [] => rfl
  | base, offset, (name, initializer) :: es => by
    rw [countElements]
    split
    · rw [List.map_cons, map_fst_countElements, List.map_cons]
    · rw [List.map_cons, map_fst_countElements, List.map_cons]

/-- The names of a definition are words. -/
theorem definition?_name {before : Option Char} {t rest : Text} {d : Definition}
    (h : definition? before t = some (d, rest)) : ∀ n ∈ d.elements.map Prod.fst, IsName n := by
  intro n hn
  cases d with
  | define name value =>
    obtain ⟨_, -, ⟨-, -, hname, -, -⟩, -⟩ := defineDirective?_eq_some_iff.1 (definition?_define_iff.1 h)
    obtain rfl : n = name := by simpa [Definition.elements] using hn
    exact hname
  | enumeration body =>
    have hn : n ∈ (enumElements body).map Prod.fst := hn
    rw [enumElements, map_fst_countElements] at hn
    obtain ⟨e, he, rfl⟩ := List.mem_map.1 hn
    obtain ⟨found, hfound, rfl⟩ := List.mem_map.1 he
    obtain ⟨-, rest, hread⟩ := readAt_of_mem_scanAt hfound
    exact enumElement?_name hread

namespace DefineTable

variable {filter : DefineFilter} {n : Text}

/-! ## Occurrences -/

/-- The names that a source text defines, with their expressions, in the order of the text.  A name may come again. -/
def occurrences (t : Text) : List (Text × Text) := (scan definition? (bareText t)).flatMap Definition.elements

/-- The table has the first occurrence of each name. -/
theorem expressions_eq (filter : DefineFilter) (t : Text) :
    (ofSource filter t).expressions = (occurrences t).eraseDupsBy fun e d => e.1 == d.1 := by
  have hall : ((occurrences t).filter fun e => !Entries.contains e.1 ([] : Entries Text Text)) = occurrences t :=
    List.filter_eq_self.2 fun _ _ => rfl
  rw [ofSource, ofPrepared, foldl_add]
  exact congrArg (List.eraseDupsBy _) hall

/-- **The expressions of a table are those of the source**, whichever names are asked for. -/
theorem expressions_ofSource (filter other : DefineFilter) (t : Text) :
    (ofSource filter t).expressions = (ofSource other t).expressions := by
  rw [expressions_eq filter, expressions_eq other]

theorem find?_add (t : DefineTable) (name expression : Text) : (t.add filter name expression).expressions.find? n =
    (t.expressions.find? n).or (if name = n then some expression else none) := by
  unfold add
  split
  · rename_i hknown
    by_cases he : name = n
    · obtain ⟨v, hv⟩ := Option.isSome_iff_exists.1 (he ▸ hknown)
      rw [hv]
      rfl
    · rw [if_neg he, Option.or_none]
  · rw [Entries.find?_append]
    rfl

/-- Of each name the first expression stands. -/
theorem find?_foldl_add : ∀ (es : List (Text × Text)) (t : DefineTable),
    (es.foldl (fun t e => t.add filter e.1 e.2) t).expressions.find? n =
      (t.expressions.find? n).or (Entries.find? n es)
  | [], t => by simp [Entries.find?]
  | e :: es, t => by
    rw [List.foldl_cons, find?_foldl_add es, find?_add, Option.or_assoc, Entries.find?]
    congr 1
    split <;> rfl

theorem find?_expressions (name t : Text) :
    (ofSource filter t).expressions.find? name = Entries.find? name (occurrences t) := by
  rw [ofSource, ofPrepared, find?_foldl_add]
  rfl

theorem mem_names_iff {name t : Text} :
    name ∈ (ofSource filter t).expressions.map Prod.fst ↔ name ∈ (occurrences t).map Prod.fst := by
  rw [← Entries.isSome_find?, find?_expressions, Entries.isSome_find?]

/-- The names of a table are those of the definitions that are found. -/
theorem mem_names_ofSource {name t : Text} : name ∈ (ofSource filter t).expressions.map Prod.fst ↔
    ∃ e ∈ scanAt definition? (bareText t), name ∈ e.2.elements.map Prod.fst := by
  rw [mem_names_iff, occurrences, List.map_flatMap, List.mem_flatMap, scan]
  simp only [List.mem_map, exists_exists_and_eq_and]

/-- The names of a table are words. -/
theorem isName_of_mem_names {name t : Text} (h : name ∈ (ofSource filter t).expressions.map Prod.fst) :
    IsName name := by
  obtain ⟨e, he, hname⟩ := mem_names_ofSource.1 h
  obtain ⟨-, rest, hread⟩ := readAt_of_mem_scanAt he
  exact definition?_name hread name hname

/-! ## Filters -/

/-- The names of a table are different ones, and it matches those that the filter accepts. -/
structure Picks (filter : DefineFilter) (t : DefineTable) : Prop where
  nodup : (t.expressions.map Prod.fst).Nodup
  matched : t.matched = (t.expressions.map Prod.fst).filter filter.accepts

theorem Picks.add {t : DefineTable} (h : t.Picks filter) (name expression : Text) :
    (t.add filter name expression).Picks filter := by
  unfold DefineTable.add
  split
  · exact h
  · rename_i hknown
    have hnew : name ∉ t.expressions.map Prod.fst := fun hmem => by
      obtain ⟨v, hv⟩ := Entries.exists_find?_of_mem hmem
      exact hknown (by rw [Entries.contains, hv]; rfl)
    constructor
    · rw [List.map_append]
      exact h.nodup.append (List.nodup_singleton name) (by simpa using hnew)
    · simp only [List.map_append, List.filter_append, ← h.matched, List.map_cons, List.map_nil]
      split
      · rw [List.filter_cons_of_pos ‹_›, List.filter_nil]
      · rw [List.filter_cons_of_neg ‹_›, List.filter_nil, List.append_nil]

theorem picks_ofSource (filter : DefineFilter) (t : Text) : (ofSource filter t).Picks filter :=
  List.foldlRecOn _ _ ⟨List.nodup_nil, rfl⟩ fun _ h e _ => h.add e.1 e.2

/-- **A table matches the names that the filter accepts**, in the order of their first definitions. -/
theorem matched_ofSource (filter : DefineFilter) (t : Text) :
    (ofSource filter t).matched = ((ofSource filter t).expressions.map Prod.fst).filter filter.accepts :=
  (picks_ofSource filter t).matched

/-- **A filter picks names of a table and changes nothing else.**  The table has each name that occurs once, in the
order of the first occurrences and with the expressions of these, whatever the filter; and the names that the filter
accepts are matched, each once and in the order of the table. -/
theorem ofSource_filtered (filter other : DefineFilter) (t : Text) :
    (ofSource filter t).expressions = (ofSource other t).expressions ∧
      (ofSource filter t).expressions = (occurrences t).eraseDupsBy (fun e d => e.1 == d.1) ∧
      (∀ name expression, (name, expression) ∈ (ofSource filter t).expressions ↔
        ∃ before after, occurrences t = before ++ (name, expression) :: after ∧ name ∉ before.map Prod.fst) ∧
      (ofSource filter t).matched = ((ofSource filter t).expressions.map Prod.fst).filter filter.accepts ∧
      (ofSource filter t).matched.Nodup := by
  have hpicks := picks_ofSource filter t
  refine ⟨expressions_ofSource filter other t, expressions_eq filter t, fun name expression => ?_, hpicks.matched, ?_⟩
  · rw [← Entries.find?_eq_some_iff, ← find?_expressions]
    exact ⟨Entries.find?_of_mem hpicks.nodup, Entries.mem_of_find?⟩
  · rw [hpicks.matched]
    exact hpicks.nodup.filter _

/-- One name that is asked for, and that the source defines, is all that is matched. -/
theorem matched_name {name expression : Text} {t : Text}
    (h : (ofSource (.names [name]) t).expressions.find? name = some expression) :
    (ofSource (.names [name]) t).matched = [name] := by
  have hmem : name ∈ (ofSource (.names [name]) t).expressions.map Prod.fst :=
    List.mem_map.2 ⟨_, Entries.mem_of_find? h, rfl⟩
  have haccepts : (DefineFilter.names [name]).accepts = fun n => n == name := by
    funext n
    rw [DefineFilter.accepts, List.contains_cons, List.contains_nil, Bool.or_false]
  rw [matched_ofSource, haccepts, List.filter_beq, List.count_eq_one_of_mem (picks_ofSource _ t).nodup hmem]
  rfl

end DefineTable

end GameSource
