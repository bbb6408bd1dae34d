import GameSource.Proofs.Define.Filtered
import GameSource.Proofs.Expr.Pasted
import GameSource.Proofs.Session.Confined
/-!
# The values of enum elements

An element without an initializer gets the latest initializer pasted into an expression that counts on from it.  Where
the initializers are properly parenthesized and read to their ends, evaluating these expressions counts: the elements
behind an initializer have its value and 1, 2, … more, and those before the first one have 0, 1, 2, …
(`evaluate_counts`).  Of the text around the enum it only takes that it does not define the elements before, and that
the elements are all the names that are asked for.
-/
namespace GameSource

open Relation (ReflTransGen TransGen)
open SessionStep

/-! ## Elements -/

/-- The elements of an enum's body, as they are read: one has an initializer if there is anything behind its name. -/
def bodyElements (body : Text) : List EnumElement :=
  (scan enumElement? (eraseDirectives body)).map fun e => ⟨e.1, if e.2.isEmpty then none else some e.2⟩

theorem trim_initializer {body x : Text} {e : EnumElement} (he : e ∈ bodyElements body) (hx : e.initializer = some x) :
    x ≠ [] ∧ Text.trim x = x := by
  obtain ⟨found, hfound, rfl⟩ := List.mem_map.1 he
  obtain ⟨a, ha, rfl⟩ := List.mem_map.1 hfound
  obtain ⟨-, rest, hr⟩ := readAt_of_mem_scanAt ha
  have htrimmed : Text.trim a.2.2 = a.2.2 := by
    unfold readAt enumElement? at hr
    simp only at hr
    split at hr
    · cases hr
    · rw [← (Prod.mk.inj (Option.some.inj hr)).1]
      exact trim_trim _
  simp only at hx
  split at hx
  · cases hx
  · rename_i hne
    rw [← Option.some.inj hx]
    exact ⟨by simpa using hne, htrimmed⟩

/-- Counting gives the elements of a body their expressions. -/
theorem enumElements_eq (body : Text) : enumElements body =
    (bodyElements body).mapIdx fun i e => (e.name, e.expression ((bodyElements body).take i)) := by
  have hpairs : (bodyElements body).map (fun e => (e.name, e.initializer.getD [])) =
      scan enumElement? (eraseDirectives body) := by
    rw [bodyElements, List.map_map]
    refine (List.map_congr_left fun e _ => ?_).trans (List.map_id _)
    obtain ⟨name, initializer⟩ := e
    cases initializer <;> rfl
  have hcount := countElements_eq (bodyElements body) [] fun e he hx => (trim_initializer he hx).1 rfl
  rw [hpairs] at hcount
  exact hcount

theorem map_fst_enumElements (body : Text) :
    (enumElements body).map Prod.fst = (bodyElements body).map EnumElement.name := by
  rw [enumElements, map_fst_countElements, bodyElements, List.map_map]
  rfl

/-- The expression of an element is the one that it has behind the elements before. -/
theorem mem_enumElements {body : Text} {before after : List EnumElement} {e : EnumElement}
    (h : bodyElements body = before ++ e :: after) : (e.name, e.expression before) ∈ enumElements body := by
  rw [enumElements_eq, h, List.mapIdx_append, List.mapIdx_cons]
  simp

namespace EnumElement

/-- Elements of these names that have no initializer. -/
def plain (names : List Text) : List EnumElement := names.map fun n => ⟨n, none⟩

theorem expression_plain (before : List EnumElement) (name : Text) :
    expression before ⟨name, none⟩ = offsetExpression (latest before).1 (latest before).2 := by
  simp [expression, offsetExpression]

theorem latest_append_plain : ∀ (names : List Text) (before : List EnumElement),
    latest (before ++ plain names) = ((latest before).1, (latest before).2 + names.length)
  | [], before => by simp [plain]
  | name :: names, before => by
    have hcut : before ++ plain (name :: names) = before ++ [⟨name, none⟩] ++ plain names := by simp [plain]
    rw [hcut, latest_append_plain names, latest_concat_none]
    simp [Nat.add_assoc, Nat.add_comm]

/-- The `k`-th of elements without initializers counts `k` from the first one. -/
theorem plain_split {names : List Text} {k : Nat} {m : Text} (hm : names[k]? = some m) (before : List EnumElement) :
    ∃ front back, plain names = front ++ ⟨m, none⟩ :: back ∧
      latest (before ++ front) = ((latest before).1, (latest before).2 + k) := by
  obtain ⟨hk, hget⟩ := List.getElem?_eq_some_iff.1 hm
  refine ⟨plain (names.take k), plain (names.drop (k + 1)), ?_, ?_⟩
  · have hcut : names = names.take k ++ m :: names.drop (k + 1) := by
      rw [← hget, List.getElem_cons_drop, List.take_append_drop]
    exact (congrArg plain hcut).trans List.map_append
  · rw [latest_append_plain, List.length_take, Nat.min_eq_left (Nat.le_of_lt hk)]

end EnumElement

/-! ## Values -/

/-- The expression has the value over right answers to its names. -/
def Evaluates (table : Entries Text Text) (known : Entries Text Int) (expression : Text) (v : Int) : Prop :=
  ∃ answers, (∀ m ∈ mentioned expression, Settles table known m (answers m)) ∧ valueOver answers expression = .ok v

section
variable {table : Entries Text Text} {known : Entries Text Int} {x : Text} {v w : Int} {k : Nat}

theorem Evaluates.unique (hv : Evaluates table known x v) (hw : Evaluates table known x w) : v = w := by
  obtain ⟨answers, hanswers, hv⟩ := hv
  obtain ⟨answers', hanswers', hw⟩ := hw
  rw [valueOver_congr fun m hm => Settles.unique (hanswers m hm) (hanswers' m hm), hw] at hv
  cases hv
  rfl

/-- **Counting on from an expression evaluates it again**, with the same value. -/
theorem Evaluates.of_offset (hx : Text.trim x = x) (hread : (lexemes x).2 = []) (hp : Parenthesized x)
    (h : Evaluates table known (offsetExpression x k) w) : ∃ v, Evaluates table known x v ∧ w = wrap32 (v + k) := by
  obtain ⟨answers, hanswers, hw⟩ := h
  rw [mentioned_offsetExpression hx hread] at hanswers
  obtain ⟨v, hv, hcount⟩ := valueOver_offsetExpression hx hread hp hw
  exact ⟨v, ⟨answers, hanswers, hv⟩, hcount⟩

theorem evaluates_zero (h : Evaluates table known ['0'] v) : v = 0 := by
  obtain ⟨answers, -, hv⟩ := h
  have hnone : mentioned ['0'] = [] := by decide
  have hzero : valueOver (fun _ => none) ['0'] = .ok 0 := by decide
  rw [valueOver_congr (b := fun _ => none) (by simp [hnone]), hzero] at hv
  cases hv
  rfl

end

/-! ## Evaluating an enum -/

section
variable {filter : DefineFilter} {t body : Text} {pre post : List Definition}

/-- **Of each name the first definition stands.** -/
theorem find?_ofSource_first {d : Definition} {n expression : Text}
    (hscan : scan definition? (bareText t) = pre ++ d :: post) (hbefore : ∀ e ∈ pre, n ∉ e.elements.map Prod.fst)
    (hd : Entries.find? n d.elements = some expression) :
    (DefineTable.ofSource filter t).expressions.find? n = some expression := by
  have hpre : Entries.find? n (pre.flatMap Definition.elements) = none := by
    refine Entries.find?_eq_none_of_not_mem fun hmem => ?_
    obtain ⟨p, hp, hname⟩ := List.mem_map.1 hmem
    obtain ⟨e, he, hp⟩ := List.mem_flatMap.1 hp
    exact hbefore e he (List.mem_map.2 ⟨p, hp, hname⟩)
  rw [DefineTable.ofSource, DefineTable.ofPrepared, DefineTable.find?_foldl_add, hscan, List.flatMap_append,
    List.flatMap_cons, Entries.find?_append, hpre, Entries.find?_append, hd]
  rfl

/-- An element of an enum has the expression that counting gives it, unless the text defines it before. -/
theorem find?_ofSource (hscan : scan definition? (bareText t) = pre ++ .enumeration body :: post)
    (hnodup : ((bodyElements body).map EnumElement.name).Nodup)
    (hbefore : ∀ e ∈ bodyElements body, ∀ d ∈ pre, e.name ∉ d.elements.map Prod.fst)
    {before after : List EnumElement} {e : EnumElement} (h : bodyElements body = before ++ e :: after) :
    (DefineTable.ofSource filter t).expressions.find? e.name = some (e.expression before) := by
  have he : e ∈ bodyElements body := by rw [h]; simp
  have hbody : Entries.find? e.name (enumElements body) = some (e.expression before) :=
    Entries.find?_of_mem (by rwa [map_fst_enumElements]) (mem_enumElements h)
  exact find?_ofSource_first hscan (hbefore e he) hbody

theorem mem_matched_ofSource (hscan : scan definition? (bareText t) = pre ++ .enumeration body :: post)
    (haccepts : ∀ e ∈ bodyElements body, filter.accepts e.name)
    (hothers : ∀ d ∈ pre ++ post, ∀ n ∈ d.elements.map Prod.fst, filter.accepts n →
      n ∈ (bodyElements body).map EnumElement.name) {n : Text} :
    n ∈ (DefineTable.ofSource filter t).matched ↔ n ∈ (bodyElements body).map EnumElement.name := by
  rw [DefineTable.matched_ofSource, List.mem_filter, DefineTable.mem_names_iff, DefineTable.occurrences, hscan]
  constructor
  · rintro ⟨hmem, hn⟩
    obtain ⟨p, hp, rfl⟩ := List.mem_map.1 hmem
    obtain ⟨d, hd, hp⟩ := List.mem_flatMap.1 hp
    have hname : p.1 ∈ d.elements.map Prod.fst := List.mem_map.2 ⟨p, hp, rfl⟩
    rcases List.mem_append.1 hd with hd | hd
    · exact hothers d (List.mem_append_left _ hd) p.1 hname hn
    · rcases List.mem_cons.1 hd with rfl | hd
      · exact map_fst_enumElements body ▸ hname
      · exact hothers d (List.mem_append_right _ hd) p.1 hname hn
  · intro hn
    obtain ⟨e, he, rfl⟩ := List.mem_map.1 hn
    refine ⟨?_, haccepts e he⟩
    rw [← map_fst_enumElements] at hn
    simp only [List.flatMap_append, List.flatMap_cons, List.map_append, List.mem_append]
    exact .inr (.inl hn)

/-- The expression of an element is not blank. -/
theorem trim_expression {before after : List EnumElement} {e : EnumElement}
    (h : bodyElements body = before ++ e :: after) : Text.trim (e.expression before) ≠ [] := by
  have he : e ∈ bodyElements body := by rw [h]; simp
  obtain ⟨name, initializer⟩ := e
  cases initializer with
  | none =>
    rw [EnumElement.expression_plain, trim_offsetExpression]
    exact List.cons_ne_nil _ _
  | some x =>
    obtain ⟨hne, htrim⟩ := trim_initializer he rfl
    change Text.trim x ≠ []
    rwa [htrim]

variable {table : Entries Text Text} {values : Entries Text Int}

/-- **Evaluating the elements of an enum gives each its value.** -/
theorem evaluate_elements (hscan : scan definition? (bareText t) = pre ++ .enumeration body :: post)
    (htable : (DefineTable.ofSource filter t).expressions = table)
    (haccepts : ∀ e ∈ bodyElements body, filter.accepts e.name)
    (hothers : ∀ d ∈ pre ++ post, ∀ n ∈ d.elements.map Prod.fst, filter.accepts n →
      n ∈ (bodyElements body).map EnumElement.name)
    (hnodup : ((bodyElements body).map EnumElement.name).Nodup)
    (hbefore : ∀ e ∈ bodyElements body, ∀ d ∈ pre, e.name ∉ d.elements.map Prod.fst)
    (hacyclic : ∀ e ∈ bodyElements body, Acyclic table (Session.constants.putAll values) e.name)
    (hshort : ∀ e ∈ bodyElements body, ShortBelow table (Session.constants.putAll values) e.name)
    (text filename : Text) :
    ∃ vs, ((DefineTable.ofSource filter t).evaluate values text filename).1 = .ok vs ∧
      ∀ e ∈ bodyElements body, ∃ v, Reference table (Session.constants.putAll values) e.name v ∧
        vs.find? e.name = some v := by
  have hfind {before after : List EnumElement} {e : EnumElement} (h : bodyElements body = before ++ e :: after) :
      table.find? e.name = some (e.expression before) := htable ▸ find?_ofSource hscan hnodup hbefore h
  have hmatched {n : Text} : n ∈ (DefineTable.ofSource filter t).matched ↔
      ∃ e ∈ bodyElements body, e.name = n := by
    rw [mem_matched_ofSource hscan haccepts hothers, List.mem_map]
  have hreference (e : EnumElement) (he : e ∈ bodyElements body) :
      ∃ v, Reference table (Session.constants.putAll values) e.name v := by
    obtain ⟨before, after, h⟩ := List.append_of_mem he
    exact exists_reference_below (List.mem_map.2 ⟨_, Entries.mem_of_find? (hfind h), rfl⟩) (hacyclic e he) (hshort e he)
  have hrequests : Ensures (requestAll (DefineTable.ofSource filter t).matched)
      (Session.start table values text filename) _ :=
    requests_reference (.start table values text filename) rfl (fun n hn expression hexpression => ?_) fun n hn => ?_
  · obtain ⟨vs, hvs, -, hgiven⟩ := hrequests
    refine ⟨vs, by rw [DefineTable.evaluate, htable]; exact hvs, fun e he => ?_⟩
    obtain ⟨v, hv⟩ := hreference e he
    exact ⟨v, hv, hgiven e.name (hmatched.2 ⟨e, he, rfl⟩) v hv⟩
  · obtain ⟨e, he, rfl⟩ := hmatched.1 hn
    obtain ⟨before, after, h⟩ := List.append_of_mem he
    obtain rfl := Option.some.inj (hexpression.symm.trans (hfind h))
    exact trim_expression h
  · obtain ⟨e, he, rfl⟩ := hmatched.1 hn
    exact hreference e he

/-- **The elements of an enum count.**  In any source text, let the elements of an enum have different names, which the
text does not define before and nothing gives a value at first, and let their initializers be properly parenthesized and
read to their ends.  Let them be all the names of the text that are asked for.  Then, unless a cycle or a number beyond
the limit of digits can be reached from an element, evaluating the elements succeeds; an initializer gives its element
its value, the `k`-th element behind it has `k` more, wrapped, and the elements before the first initializer have 0, 1,
2, …, wrapped as well. -/
theorem evaluate_counts (hscan : scan definition? (bareText t) = pre ++ .enumeration body :: post)
    (htable : (DefineTable.ofSource filter t).expressions = table)
    (haccepts : ∀ e ∈ bodyElements body, filter.accepts e.name)
    (hothers : ∀ d ∈ pre ++ post, ∀ n ∈ d.elements.map Prod.fst, filter.accepts n →
      n ∈ (bodyElements body).map EnumElement.name)
    (hnodup : ((bodyElements body).map EnumElement.name).Nodup)
    (hbefore : ∀ e ∈ bodyElements body, ∀ d ∈ pre, e.name ∉ d.elements.map Prod.fst)
    (hunknown : ∀ e ∈ bodyElements body, (Session.constants.putAll values).find? e.name = none)
    (hinitializer : ∀ e ∈ bodyElements body, ∀ x, e.initializer = some x → Parenthesized x ∧ (lexemes x).2 = [])
    (hacyclic : ∀ e ∈ bodyElements body, Acyclic table (Session.constants.putAll values) e.name)
    (hshort : ∀ e ∈ bodyElements body, ShortBelow table (Session.constants.putAll values) e.name)
    (text filename : Text) :
    ∃ vs, ((DefineTable.ofSource filter t).evaluate values text filename).1 = .ok vs ∧
      (∀ before n x names after, bodyElements body = before ++ ⟨n, some x⟩ :: (EnumElement.plain names ++ after) →
        ∃ v, Evaluates table (Session.constants.putAll values) x v ∧ vs.find? n = some v ∧
          ∀ (k : Nat) m, names[k]? = some m → vs.find? m = some (wrap32 (v + (k + 1 : Nat)))) ∧
      ∀ names after, bodyElements body = EnumElement.plain names ++ after →
        ∀ (k : Nat) m, names[k]? = some m →
          vs.find? m = some (wrap32 k) ∧ (k < 2147483648 → vs.find? m = some (k : Int)) := by
  obtain ⟨vs, hvs, hgiven⟩ :=
    evaluate_elements hscan htable haccepts hothers hnodup hbefore hacyclic hshort text filename
  have helement {before after : List EnumElement} {e : EnumElement} (h : bodyElements body = before ++ e :: after) :
      ∃ v, Evaluates table (Session.constants.putAll values) (e.expression before) v ∧ vs.find? e.name = some v := by
    have he : e ∈ bodyElements body := by rw [h]; simp
    obtain ⟨v, hv, hfind⟩ := hgiven e he
    exact ⟨v, hv.exists_answers (hunknown e he) (htable ▸ find?_ofSource hscan hnodup hbefore h), hfind⟩
  -- An element counts on from the latest initializer before the elements of its kind, which is evaluated once more.
  have hplain {before after : List EnumElement} {names : List Text} {k : Nat} {m : Text}
      (h : bodyElements body = before ++ (EnumElement.plain names ++ after)) (hm : names[k]? = some m) :
      ∃ w, Evaluates table (Session.constants.putAll values)
        (offsetExpression (EnumElement.latest before).1 ((EnumElement.latest before).2 + k)) w ∧
          vs.find? m = some w := by
    obtain ⟨front, back, hcut, hlatest⟩ := EnumElement.plain_split hm before
    have hwhole : bodyElements body = (before ++ front) ++ ⟨m, none⟩ :: (back ++ after) := by simp [h, hcut]
    obtain ⟨w, hw, hfind⟩ := helement hwhole
    rw [EnumElement.expression_plain, hlatest] at hw
    exact ⟨w, hw, hfind⟩
  refine ⟨vs, hvs, fun before n x names after h => ?_, fun names after h k m hm => ?_⟩
  · have he : ⟨n, some x⟩ ∈ bodyElements body := by rw [h]; simp
    obtain ⟨hp, hread⟩ := hinitializer _ he x rfl
    obtain ⟨v, hv, hfind⟩ := helement h
    refine ⟨v, hv, hfind, fun k m hm => ?_⟩
    have hwhole : bodyElements body = (before ++ [⟨n, some x⟩]) ++ (EnumElement.plain names ++ after) := by simp [h]
    obtain ⟨w, hw, hm⟩ := hplain hwhole hm
    rw [EnumElement.latest_concat_some] at hw
    obtain ⟨v', hv', hcount⟩ := hw.of_offset (trim_initializer he rfl).2 hread hp
    rw [hm, hcount, hv'.unique hv, Nat.add_comm]
  · have hwhole : bodyElements body = [] ++ (EnumElement.plain names ++ after) := h
    -- Before any initializer the elements count on from a pasted 0.
    obtain ⟨w, hw, hm⟩ := hplain hwhole hm
    obtain ⟨v, hv, hcount⟩ := hw.of_offset (x := ['0']) rfl (by decide) (by decide)
    have hk : w = wrap32 k := by
      rw [hcount, evaluates_zero hv]
      simp [EnumElement.latest]
    refine ⟨by rw [hm, hk], fun hlt => ?_⟩
    have hself : wrap32 (k : Int) = k := by
      have hbounds := wrap32_bounds k
      have hmod := wrap32_emod k
      omega
    rw [hm, hk, hself]

end

/-- The table of a define and an enum that has an initializer in its middle, in which operators lack operands. -/
def countedTable : Entries Text Text :=
  [("A".toList, "2".toList), ("X".toList, "((0)+0)".toList), ("Y".toList, "-(A|Q)".toList),
    ("Z".toList, "((-(A|Q))+1)".toList), ("W".toList, "((-(A|Q))+2)".toList)]

theorem countedTable_mentions {known : Entries Text Int} {n m : Text} (h : Mentions countedTable known n m) :
    n ≠ "A".toList ∧ n ≠ "Q".toList ∧ (m = "A".toList ∨ m = "Q".toList) := by
  obtain ⟨-, e, he, hm⟩ := h
  have hall : ∀ p ∈ countedTable, ∀ m ∈ mentioned p.2,
      p.1 ≠ "A".toList ∧ p.1 ≠ "Q".toList ∧ (m = "A".toList ∨ m = "Q".toList) := by decide
  exact hall _ (Entries.mem_of_find? he) m hm

theorem countedTable_acyclic {known : Entries Text Int} (n : Text) : Acyclic countedTable known n := by
  intro m _ hcycle
  obtain ⟨k, hk, hback⟩ := TransGen.head'_iff.1 hcycle
  have hend : ∀ l, ¬ Mentions countedTable known k l := fun l hl => by
    obtain ⟨hA, hQ, -⟩ := countedTable_mentions hl
    exact (countedTable_mentions hk).2.2.elim hA hQ
  rcases hback.cases_head with rfl | ⟨l, hl, -⟩
  · exact hend k hk
  · exact hend l hl

theorem countedTable_shortBelow (n : Text) : ShortBelow countedTable (Session.constants.putAll []) n where
  numbers m e _ _ he l hl hkind numeral hn _ := by
    have hnumbers : ∀ e ∈ countedTable, ∀ l ∈ (lexemes e.2).1, l.kind = .number →
        ((Numeral.ofText? l.text).map fun n => n.digits.length).all (· < 2) := by decide
    have hlength := hnumbers _ (Entries.mem_of_find? he) l hl hkind
    rw [hn, Option.map_some, Option.all_some, decide_eq_true_iff] at hlength
    exact Nat.le_trans (Nat.le_of_lt hlength) (by decide)
  values m v _ hv := by
    have hsmall : ∀ e ∈ Session.constants.putAll [], e.2.natAbs < 10 ^ 10 := by decide
    exact fewDigits_of_lt (by decide) (by decide) (hsmall _ (Entries.mem_of_find? hv))

/-- `Z` and `W` count on from `Y`, and `X` counts from 0. -/
theorem evaluate_counts_lackingOperands :
    ∃ vs v, ((DefineTable.ofSource (.names ["X".toList, "Y".toList, "Z".toList, "W".toList])
        "#define A 2\nenum \x7b X, Y = -(A|Q), Z, W \x7d;".toList).evaluate [] [] []).1 = .ok vs ∧
      Evaluates countedTable (Session.constants.putAll []) "-(A|Q)".toList v ∧ vs.find? "X".toList = some 0 ∧
      vs.find? "Y".toList = some v ∧ vs.find? "Z".toList = some (wrap32 (v + 1)) ∧
      vs.find? "W".toList = some (wrap32 (v + 2)) := by
  have hread : scan definition? (bareText "#define A 2\nenum \x7b X, Y = -(A|Q), Z, W \x7d;".toList) =
        [.define "A".toList "2".toList] ++ .enumeration " X, Y = -(A|Q), Z, W ".toList :: [] ∧
      (DefineTable.ofSource (.names ["X".toList, "Y".toList, "Z".toList, "W".toList])
        "#define A 2\nenum \x7b X, Y = -(A|Q), Z, W \x7d;".toList).expressions = countedTable ∧
      bodyElements " X, Y = -(A|Q), Z, W ".toList = [⟨"X".toList, none⟩, ⟨"Y".toList, some "-(A|Q)".toList⟩,
        ⟨"Z".toList, none⟩, ⟨"W".toList, none⟩] := by decide +kernel
  obtain ⟨hscan, htable, helements⟩ := hread
  have hnames : (bodyElements " X, Y = -(A|Q), Z, W ".toList).map EnumElement.name =
      ["X".toList, "Y".toList, "Z".toList, "W".toList] := by rw [helements]; rfl
  obtain ⟨vs, hvs, hbehind, hfirst⟩ := evaluate_counts hscan htable
    (by rw [helements]; decide) (by rw [hnames]; decide) (by rw [hnames]; decide) (by rw [helements]; decide)
    (by rw [helements]; decide) (by rw [helements]; decide) (fun e _ => countedTable_acyclic e.name)
    (fun e _ => countedTable_shortBelow e.name) [] []
  obtain ⟨v, hv, hY, hcounted⟩ := hbehind [⟨"X".toList, none⟩] "Y".toList "-(A|Q)".toList ["Z".toList, "W".toList] []
    helements
  exact ⟨vs, v, hvs, hv, (hfirst ["X".toList] _ helements 0 _ rfl).2 (by decide), hY, hcounted 0 _ rfl,
    hcounted 1 _ rfl⟩

end GameSource
