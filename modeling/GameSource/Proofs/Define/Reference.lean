import GameSource.Entries
import GameSource.Proofs.Expr.Outcome
import Mathlib.Data.Fintype.Order
import Mathlib.Data.Set.Finite.List
import Mathlib.Logic.Relation
import Mathlib.Order.WellFounded
/-!
# The values that a table of expressions gives its names

A name has the value it had at first, or else that of its expression, in which every name stands for its own value
(`Reference`).  This says nothing of the order in which names are evaluated.  A name has at most one such value
(`Reference.unique`), a name with a value is on no cycle (`Reference.not_cyclic`), and a name from which no cycle can be
reached has one (`exists_reference`).
-/
namespace GameSource

open Relation (ReflTransGen TransGen)

/-- The names that an expression mentions, in order. -/
def mentioned (expression : Text) : List Text :=
  ((lexemes expression).1.filter fun l => l.kind = .identifier).map fun l => l.text

theorem mem_mentioned {expression name : Text} :
    name ∈ mentioned expression ↔ ∃ l ∈ (lexemes expression).1, l.kind = .identifier ∧ l.text = name := by
  simp [mentioned, and_assoc]

/-- The value of an expression depends on the answers to the names that it mentions. -/
theorem valueOver_congr {a b : Text → Option Int} {expression : Text} (h : ∀ m ∈ mentioned expression, a m = b m) :
    valueOver a expression = valueOver b expression := by
  have hanswer : ∀ l ∈ (lexemes expression).1, l.answer a = l.answer b := fun l hl => by
    unfold Lexeme.answer
    split
    · exact h l.text (mem_mentioned.2 ⟨l, hl, ‹_›, rfl⟩)
    · rfl
  have htokens : (tokenize a expression).outcome = (tokenize b expression).outcome :=
    mapM_congr fun l hl => by rw [hanswer l hl]
  rw [valueOver, valueOver, htokens]

section Values

variable (table : Entries Text Text) (known : Entries Text Int)

/-- Evaluating the name, which has no value at first, looks up the other one. -/
def Mentions (n m : Text) : Prop :=
  known.find? n = none ∧ ∃ expression, table.find? n = some expression ∧ m ∈ mentioned expression

/-- The name has neither a value nor an expression. -/
def Undefined (n : Text) : Prop := known.find? n = none ∧ table.find? n = none

/-- **The value of a name**: the one it had at first, else that of its expression, whose names stand for their own values
and are passed over where they are undefined. -/
inductive Reference : Text → Int → Prop where
  | known {n : Text} {v : Int} (h : known.find? n = some v) : Reference n v
  | defined {n expression : Text} {v : Int} (answers : Text → Option Int) (hn : known.find? n = none)
      (he : table.find? n = some expression)
      (hvalue : ∀ m ∈ mentioned expression, ∀ w, answers m = some w → Reference m w)
      (hnone : ∀ m ∈ mentioned expression, answers m = none → Undefined table known m)
      (hv : valueOver answers expression = .ok v) : Reference n v

/-- The right answer to a name: its value, or none if it is undefined. -/
def Settles (n : Text) : Option Int → Prop
  | some v => Reference table known n v
  | none => Undefined table known n

variable {table known}

/-- The value of a name that had none at first is that of its expression over right answers. -/
theorem Reference.exists_answers {n expression : Text} {v : Int} (h : Reference table known n v)
    (hn : known.find? n = none) (he : table.find? n = some expression) :
    ∃ answers, (∀ m ∈ mentioned expression, Settles table known m (answers m)) ∧
      valueOver answers expression = .ok v := by
  cases h with
  | known h => exact absurd (h.symm.trans hn) (by simp)
  | @defined _ expression' _ answers _ he' hvalue hnone hv =>
    obtain rfl : expression = expression' := Option.some.inj (he.symm.trans he')
    refine ⟨answers, fun m hm => ?_, hv⟩
    cases ha : answers m with
    | none => exact hnone m hm ha
    | some w => exact hvalue m hm w ha

theorem not_mentions_of_undefined {n m : Text} (h : Undefined table known n) : ¬ Mentions table known n m := by
  rintro ⟨-, expression, he, -⟩
  rw [h.2] at he
  cases he

theorem Undefined.not_reference {n : Text} (h : Undefined table known n) {v : Int} : ¬ Reference table known n v := by
  intro hv
  cases hv with
  | known hk =>
    rw [h.1] at hk
    cases hk
  | defined answers hn he hvalue hnone hv =>
    rw [h.2] at he
    cases he

/-- **A name has at most one value.** -/
theorem Reference.unique {n : Text} {v w : Int} (hv : Reference table known n v) (hw : Reference table known n w) :
    v = w := by
  induction hv generalizing w with
  | known h =>
    cases hw with
    | known h' => exact Option.some.inj (h.symm.trans h')
    | defined _ hn => exact absurd (h.symm.trans hn) (by simp)
  | @defined n expression v answers hn he hvalue hnone hv ih =>
    cases hw with
    | known h => exact absurd (h.symm.trans hn) (by simp)
    | @defined _ expression' _ answers' _ he' hvalue' hnone' hv' =>
      obtain rfl : expression = expression' := Option.some.inj (he.symm.trans he')
      have hsame : ∀ m ∈ mentioned expression, answers m = answers' m := by
        intro m hm
        cases ha : answers m with
        | none =>
          cases ha' : answers' m with
          | none => rfl
          | some w' => exact absurd (hvalue' m hm w' ha') (hnone m hm ha).not_reference
        | some w =>
          cases ha' : answers' m with
          | none => exact absurd (hvalue m hm w ha) (hnone' m hm ha').not_reference
          | some w' => rw [ih m hm w ha (hvalue' m hm w' ha')]
      rw [valueOver_congr hsame, hv'] at hv
      cases hv
      rfl

/-- There is at most one right answer. -/
theorem Settles.unique {n : Text} : ∀ {a b : Option Int}, Settles table known n a → Settles table known n b → a = b
  | some _, some _, ha, hb => congrArg some (Reference.unique ha hb)
  | some _, none, ha, hb => absurd ha (Undefined.not_reference hb)
  | none, some _, ha, hb => absurd hb (Undefined.not_reference ha)
  | none, none, _, _ => rfl

/-- **A name with a value is on no cycle.** -/
theorem Reference.not_cyclic {n : Text} {v : Int} (h : Reference table known n v) :
    ¬ TransGen (Mentions table known) n n := by
  intro hcycle
  induction h with
  | known h =>
    obtain ⟨m, ⟨hn, -⟩, -⟩ := TransGen.head'_iff.1 hcycle
    exact absurd (h.symm.trans hn) (by simp)
  | @defined n expression v answers hn he hvalue hnone hv ih =>
    obtain ⟨m, hm, hback⟩ := TransGen.head'_iff.1 hcycle
    have hcycle' : TransGen (Mentions table known) m m := TransGen.tail'_iff.2 ⟨n, hback, hm⟩
    obtain ⟨-, expression', he', hmem⟩ := hm
    obtain rfl : expression = expression' := Option.some.inj (he.symm.trans he')
    cases ha : answers m with
    | some w => exact ih m hmem w ha hcycle'
    | none =>
      obtain ⟨k, hk, -⟩ := TransGen.head'_iff.1 hcycle'
      exact not_mentions_of_undefined (hnone m hmem ha) hk

/-! ## Existence -/

/-- No cycle can be reached from the name. -/
def Acyclic (table : Entries Text Text) (known : Entries Text Int) (n : Text) : Prop :=
  ∀ m, ReflTransGen (Mentions table known) n m → ¬ TransGen (Mentions table known) m m

/-- A name that has a value but did not have it at first has that of a 32-bit word. -/
theorem Reference.word {n : Text} {v : Int} (h : Reference table known n v) (hn : known.find? n = none) :
    ∃ w : BitVec 32, v = w.toInt := by
  cases h with
  | known h => exact absurd (h.symm.trans hn) (by simp)
  | defined answers _ _ _ _ hv => exact valueOver_word hv

/-- The names of the table below a name without cycles are well-founded. -/
theorem wellFounded_of_acyclic {n : Text} (h : Acyclic table known n) :
    WellFounded fun a b : {m // m ∈ table.map Prod.fst} =>
      TransGen (Mentions table known) b a ∧ ReflTransGen (Mentions table known) n b := by
  have hfinite : Finite {m // m ∈ table.map Prod.fst} := (List.finite_toSet (table.map Prod.fst)).to_subtype
  have htrans : IsTrans {m // m ∈ table.map Prod.fst} fun a b =>
      TransGen (Mentions table known) b a ∧ ReflTransGen (Mentions table known) n b :=
    ⟨fun a b c hab hbc => ⟨hbc.1.trans hab.1, hbc.2⟩⟩
  have hirrefl : Std.Irrefl fun a b : {m // m ∈ table.map Prod.fst} =>
      TransGen (Mentions table known) b a ∧ ReflTransGen (Mentions table known) n b :=
    ⟨fun a ha => h a ha.2 ha.1⟩
  exact Finite.wellFounded_of_trans_of_irrefl _

/-- No number is in the way of evaluating the name: those in the expressions it leads to, and the values that it leads to
and that are there at first, have no more digits than are read. -/
structure ShortBelow (table : Entries Text Text) (known : Entries Text Int) (n : Text) : Prop where
  numbers : ∀ m e, ReflTransGen (Mentions table known) n m → known.find? m = none → table.find? m = some e →
    HasShortNumbers e
  values : ∀ m v, TransGen (Mentions table known) n m → known.find? m = some v → FewDigits v

/-- **A name from which no cycle can be reached has a value**, if no number is in the way of it. -/
theorem exists_reference_below {n : Text} (hn : n ∈ table.map Prod.fst) (hacyclic : Acyclic table known n)
    (hshort : ShortBelow table known n) : ∃ v, Reference table known n v := by
  suffices h : ∀ k : {m // m ∈ table.map Prod.fst}, ReflTransGen (Mentions table known) n k →
      ∃ v, Reference table known k v from h ⟨n, hn⟩ .refl
  intro k
  induction k using (wellFounded_of_acyclic hacyclic).induction with
  | _ k ih =>
    intro hreach
    cases hk : known.find? k.1 with
    | some v => exact ⟨v, .known hk⟩
    | none =>
      obtain ⟨expression, he⟩ := Entries.exists_find?_of_mem k.2
      have hsettled : ∀ m ∈ mentioned expression, ∃ a, Settles table known m a := by
        intro m hm
        have hmention : Mentions table known k m := ⟨hk, expression, he, hm⟩
        by_cases hmem : m ∈ table.map Prod.fst
        · obtain ⟨v, hv⟩ := ih ⟨m, hmem⟩ ⟨.single hmention, hreach⟩ (hreach.tail hmention)
          exact ⟨some v, hv⟩
        · cases hm' : known.find? m with
          | some v => exact ⟨some v, .known hm'⟩
          | none => exact ⟨none, hm', Entries.find?_eq_none_of_not_mem hmem⟩
      choose! answers hanswers using hsettled
      have hdigits : ∀ l ∈ (lexemes expression).1, l.kind = .identifier → ∀ v, answers l.text = some v →
          FewDigits v := by
        intro l hl hident v hv
        have hmem := mem_mentioned.2 ⟨l, hl, hident, rfl⟩
        have hvalue := hanswers l.text hmem
        rw [hv] at hvalue
        cases hm : known.find? l.text with
        | some w =>
          obtain rfl : v = w := Reference.unique hvalue (.known hm)
          exact hshort.values l.text v (TransGen.tail' hreach ⟨hk, expression, he, hmem⟩) hm
        | none =>
          obtain ⟨w, rfl⟩ := Reference.word hvalue hm
          exact fewDigits_toInt w
      obtain ⟨v, hv⟩ := exists_valueOver (hshort.numbers _ _ hreach hk he) hdigits
      refine ⟨v, .defined answers hk he (fun m hm w hw => ?_) (fun m hm hnone => ?_) hv⟩
      · have := hanswers m hm
        rwa [hw] at this
      · have := hanswers m hm
        rwa [hnone] at this

theorem exists_reference {n : Text} (hn : n ∈ table.map Prod.fst) (hacyclic : Acyclic table known n)
    (hshort : ∀ e ∈ table, HasShortNumbers e.2)
    (hfew : ∀ m v, TransGen (Mentions table known) n m → known.find? m = some v → FewDigits v) :
    ∃ v, Reference table known n v :=
  exists_reference_below hn hacyclic ⟨fun _ _ _ _ he => hshort _ (Entries.mem_of_find? he), hfew⟩

end Values

end GameSource
