import GameSource.Proofs.Expr.Tree
/-!
# From infix tokens to values

The tokens of an expression in infix order (`Infix`) are put into postfix order and evaluated.  Reading them on a stack
of waiting operators sends a part of the postfix order to the output and leaves the rest on the stack: the operators on
the right edge of the tree (`ofTokensFrom_infix`).  Evaluating the postfix order pushes the value of the tree
(`ofTokensFrom_postfix`).
-/
namespace GameSource

/-! ## Tokens -/

namespace Token

def ofOperator (op : Operator) : Token := ⟨op.text, .operator, some op.precedence⟩

def opening : Token := ⟨['('], .operator, none⟩

def closing : Token := ⟨[')'], .operator, none⟩

/-- A waiting operator goes before the one that comes in exactly if it binds no looser. -/
theorem releases_ofOperator (op waiting : Operator) :
    (ofOperator op).releases (ofOperator waiting) = decide (waiting.looseness ≤ op.looseness) := by
  cases op <;> cases waiting <;> rfl

theorem releases_opening (t : Token) : t.releases opening = false := rfl

theorem ofOperator_plain (op : Operator) :
    (ofOperator op).isOperator = true ∧ (ofOperator op).isOpening = false ∧ (ofOperator op).isClosing = false := by
  cases op <;> decide

end Token

namespace Expression

/-- `Infix env k ts e`: the tokens are those of a text that spells `e`, with the values of names in their place. -/
inductive Infix (env : Text → Int) : Nat → List Token → Expression → Prop where
  | literal (k : Nat) (l : Literal) : Infix env k [⟨l.text, .number, none⟩] (.literal l)
  | name (k : Nat) (i : Identifier) : Infix env k [⟨decimalText (env i.text), .number, none⟩] (.name i)
  | parens (k : Nat) {ts : List Token} {e : Expression} (h : Infix env Operator.or.looseness ts e) :
      Infix env k (.opening :: (ts ++ [.closing])) e
  | binary {k : Nat} {s t : List Token} {left right : Expression} (op : Operator) (hop : op.looseness ≤ k)
      (hl : Infix env op.looseness s left) (hr : Infix env (op.looseness - 1) t right) :
      Infix env k (s ++ .ofOperator op :: t) (.binary op left right)

/-- The tokens of an expression in postfix order. -/
def toPostfix (env : Text → Int) : Expression → List Token
  | literal l => [⟨l.text, .number, none⟩]
  | name i => [⟨decimalText (env i.text), .number, none⟩]
  | binary op left right => left.toPostfix env ++ right.toPostfix env ++ [.ofOperator op]

end Expression

/-! ## Postfix order -/

namespace Postfix

@[simp] theorem emit_emit (a b : List Token) (p : Postfix) : emit a (emit b p) = emit (a ++ b) p := by
  simp [emit]

/-- The latest of the waiting tokens is kept there by every operator of looseness at most `k`. -/
def Holds (k : Nat) (waiting : List Token) : Prop :=
  ∀ t ∈ waiting.head?, t = .opening ∨ ∃ op : Operator, t = .ofOperator op ∧ k < op.looseness

theorem Holds.mono {j k : Nat} (h : j ≤ k) {waiting : List Token} (hw : Holds k waiting) : Holds j waiting := by
  intro t ht
  rcases hw t ht with ho | ⟨op, hop, hk⟩
  · exact .inl ho
  · exact .inr ⟨op, hop, Nat.lt_of_le_of_lt h hk⟩

/-- Operators of looseness at most `k`. -/
def Tight (k : Nat) (ops : List Token) : Prop := ∀ t ∈ ops, ∃ op : Operator, t = .ofOperator op ∧ op.looseness ≤ k

theorem Tight.releases {k : Nat} {ops : List Token} (h : Tight k ops) {op : Operator} (hk : k ≤ op.looseness) :
    ∀ t ∈ ops, (Token.ofOperator op).releases t = true := by
  intro t ht
  obtain ⟨w, rfl, hw⟩ := h t ht
  rw [Token.releases_ofOperator]
  exact decide_eq_true (Nat.le_trans hw hk)

theorem Tight.isOpening {k : Nat} {ops : List Token} (h : Tight k ops) : ∀ t ∈ ops, (!t.isOpening) = true := by
  intro t ht
  obtain ⟨w, rfl, -⟩ := h t ht
  rw [(Token.ofOperator_plain w).2.1]
  rfl

theorem Holds.releases {op : Operator} {waiting : List Token} (h : Holds op.looseness waiting) :
    ∀ t ∈ waiting.head?, (Token.ofOperator op).releases t = false := by
  intro t ht
  rcases h t ht with rfl | ⟨w, rfl, hw⟩
  · exact Token.releases_opening _
  · rw [Token.releases_ofOperator]
    exact decide_eq_false (Nat.not_le.2 hw)

theorem ofTokensFrom_number {t : Token} (h : t.isOperator = false) (waiting ts : List Token) :
    ofTokensFrom waiting (t :: ts) = emit [t] (ofTokensFrom waiting ts) := by
  rw [ofTokensFrom, h, Bool.not_false, if_pos rfl]

theorem ofTokensFrom_opening (waiting ts : List Token) :
    ofTokensFrom waiting (.opening :: ts) = ofTokensFrom (.opening :: waiting) ts := by
  rw [ofTokensFrom]
  rfl

theorem ofTokensFrom_closing {k : Nat} {ops : List Token} (h : Tight k ops) (below ts : List Token) :
    ofTokensFrom (ops ++ .opening :: below) (.closing :: ts) = emit ops (ofTokensFrom below ts) := by
  have hstop : Stops (fun t : Token => !t.isOpening) (.opening :: below) := .cons rfl
  rw [ofTokensFrom, takeWhile_run h.isOpening hstop, dropWhile_run h.isOpening hstop]
  rfl

theorem ofTokensFrom_operator {k : Nat} {op : Operator} {ops waiting : List Token} (h : Tight k ops)
    (hk : k ≤ op.looseness) (hw : Holds op.looseness waiting) (ts : List Token) :
    ofTokensFrom (ops ++ waiting) (.ofOperator op :: ts) =
      emit ops (ofTokensFrom (.ofOperator op :: waiting) ts) := by
  obtain ⟨h1, h2, h3⟩ := Token.ofOperator_plain op
  rw [ofTokensFrom, h1, h2, h3, takeWhile_run (h.releases hk) hw.releases, dropWhile_run (h.releases hk) hw.releases]
  rfl

open Expression in
/-- **The stack of waiting operators holds the right edge of the tree**: behind the tokens of an expression a part of
its postfix order is in the output and the rest waits, the latest operator first to go. -/
theorem ofTokensFrom_infix {env : Text → Int} {k : Nat} {ts : List Token} {e : Expression} (h : Infix env k ts e) :
    ∀ waiting rest : List Token, Holds k waiting → ∃ out ops, out ++ ops = e.toPostfix env ∧ Tight k ops ∧
      ofTokensFrom waiting (ts ++ rest) = emit out (ofTokensFrom (ops ++ waiting) rest) := by
  induction h with
  | literal k l => exact fun waiting rest _ => ⟨_, [], rfl, by simp [Tight], ofTokensFrom_number rfl _ _⟩
  | name k i => exact fun waiting rest _ => ⟨_, [], rfl, by simp [Tight], ofTokensFrom_number rfl _ _⟩
  | @parens k ts e h ih =>
    intro waiting rest hw
    obtain ⟨out, ops, hpost, htight, hrun⟩ := ih (.opening :: waiting) (.closing :: rest)
      (fun t ht => .inl (by simpa using ht.symm))
    refine ⟨out ++ ops, [], by rw [List.append_nil, hpost], by simp [Tight], ?_⟩
    rw [List.cons_append, List.append_assoc, List.singleton_append, ofTokensFrom_opening, hrun,
      ofTokensFrom_closing htight, emit_emit, List.nil_append]
  | @binary k s t left right op hop hl hr ihl ihr =>
    intro waiting rest hw
    have hw' : Holds op.looseness waiting := hw.mono hop
    obtain ⟨out, ops, hpost, htight, hrun⟩ := ihl waiting (.ofOperator op :: (t ++ rest)) hw'
    have hpos : op.looseness - 1 < op.looseness := by cases op <;> decide
    obtain ⟨out', ops', hpost', htight', hrun'⟩ := ihr (.ofOperator op :: waiting) rest
      (fun u hu => .inr ⟨op, by simpa using hu.symm, hpos⟩)
    refine ⟨out ++ ops ++ out', ops' ++ [.ofOperator op], ?_, ?_, ?_⟩
    · rw [toPostfix, ← hpost, ← hpost']
      simp only [List.append_assoc]
    · intro u hu
      rcases List.mem_append.1 hu with hu | hu
      · obtain ⟨w, hw, hle⟩ := htight' u hu
        exact ⟨w, hw, by omega⟩
      · exact ⟨op, by simpa using hu, hop⟩
    · rw [List.append_assoc, List.cons_append, hrun, ofTokensFrom_operator htight (Nat.le_refl _) hw', hrun',
        emit_emit, emit_emit, List.append_assoc, List.append_assoc]
      rfl

/-- **The tokens of an expression are put into its postfix order**, and nothing is wrong with them. -/
theorem ofTokens_infix {env : Text → Int} {k : Nat} {ts : List Token} {e : Expression}
    (h : Expression.Infix env k ts e) : ofTokens ts = ⟨e.toPostfix env, []⟩ := by
  obtain ⟨out, ops, hpost, htight, hrun⟩ := ofTokensFrom_infix h [] [] (fun _ ht => by cases ht)
  have hplain : ∀ t ∈ ops, (t.isOpening || t.isClosing) = false := by
    intro t ht
    obtain ⟨op, rfl, -⟩ := htight t ht
    obtain ⟨-, h2, h3⟩ := Token.ofOperator_plain op
    rw [h2, h3, Bool.or_false]
  rw [List.append_nil, List.append_nil] at hrun
  have hfilter : ops.filter (fun t => !(t.isOpening || t.isClosing)) = ops :=
    List.filter_eq_self.2 fun t ht => by rw [hplain t ht]; rfl
  have hnone : ops.filter (fun t => t.isOpening || t.isClosing) = [] :=
    List.filter_eq_nil_iff.2 fun t ht => by rw [hplain t ht]; exact Bool.false_ne_true
  rw [ofTokens, hrun, ofTokensFrom, finish, emit, ← hpost]
  simp only [hfilter, hnone, List.map_nil]

end Postfix

/-! ## Values -/

namespace Evaluation

open Expression

theorem tell_tell (ps qs : List Problem) (e : Evaluation) : (e.tell qs).tell ps = e.tell (ps ++ qs) := by
  simp [tell]

theorem ofTokensFrom_number {t : Token} (ht : t.kind = .number) {v : Option Int} (hv : readInteger t.text = .ok v)
    (values : List Int) (ts : List Token) : ofTokensFrom values (t :: ts) = ofTokensFrom (v.getD 0 :: values) ts := by
  conv => lhs; unfold ofTokensFrom
  simp [ht, hv]

theorem ofTokensFrom_operator {t : Token} (ht : t.kind = .operator) (right left : Int) (below : List Int)
    (ts : List Token) : ofTokensFrom (right :: left :: below) (t :: ts) =
      (ofTokensFrom ((applyText t.text left right).1 :: below) ts).tell (applyText t.text left right).2 := by
  rw [ofTokensFrom]
  simp [ht]

/-- **Evaluating the postfix order of a tree pushes its value** and tells its divisions by zero. -/
theorem ofTokensFrom_postfix {env : Text → Int} : ∀ {e : Expression}, (∀ n ∈ e.names, FewDigits (env n)) →
    ∀ (values : List Int) (rest : List Token), ofTokensFrom values (e.toPostfix env ++ rest) =
      (ofTokensFrom ((e.word env).toInt :: values) rest).tell (List.replicate (e.zeroDivisions env) .divisionByZero)
  | .literal l, _, values, rest => by
    have hread := readInteger_literal l
    rw [toPostfix, List.singleton_append, ofTokensFrom_number (t := ⟨l.text, .number, none⟩) rfl hread,
      Option.getD_some, wrap32_eq_toInt, BitVec.ofInt_natCast]
    rfl
  | .name i, hw, values, rest => by
    have hread := readInteger_decimalText (hw i.text (by simp [names]))
    rw [toPostfix, List.singleton_append, ofTokensFrom_number (t := ⟨decimalText (env i.text), .number, none⟩) rfl hread,
      Option.getD_some, wrap32_eq_toInt]
    rfl
  | .binary op left right, hw, values, rest => by
    have hl : ∀ n ∈ left.names, FewDigits (env n) := fun n hn => hw n (by simp [names, hn])
    have hr : ∀ n ∈ right.names, FewDigits (env n) := fun n hn => hw n (by simp [names, hn])
    rw [toPostfix, List.append_assoc, List.append_assoc, ofTokensFrom_postfix hl, ofTokensFrom_postfix hr,
      List.singleton_append, ofTokensFrom_operator rfl, Token.ofOperator, applyText_toInt, tell_tell, tell_tell,
      zeroDivisions, word, List.replicate_add, List.replicate_add]
    split <;> rfl

end Evaluation

end GameSource
