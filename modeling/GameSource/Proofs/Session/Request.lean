import GameSource.Proofs.Session.Step
/-!
# Sessions that serve requests

A session is asked for one thing after another.  A request that a number stops gives no value, and the session that it
leaves serves the next one.  What every request preserves holds after any number of them (`serve_ensures`).
-/
namespace GameSource

inductive Request where
  | resolve (name : Text) (expression : Option Text)
  | resolveAll (names : List Text)
  | evaluate (expression context : Text)
  | tellProblems (name : Text)
  deriving DecidableEq, Repr

inductive Reply where
  | value (v : Int)
  | values (vs : Entries Text Int)
  | told
  deriving DecidableEq, Repr

namespace Request

def step : Request → SessionStep Reply
  | resolve name expression => do return .value (← SessionStep.resolve name expression)
  | resolveAll names => do return .values (← SessionStep.requestAll names)
  | evaluate expression context => do return .value (← SessionStep.evaluate expression context)
  | tellProblems name => do
    SessionStep.tellProblems name
    return .told

/-- The request is for the value of a name as it is pending, or for that of an expression. -/
def IsPlain : Request → Prop
  | resolve _ none => True
  | resolve _ (some _) => False
  | resolveAll _ => False
  | evaluate _ _ => True
  | tellProblems _ => False

end Request

namespace Session

/-- Serves requests in order: what each was answered, and the session after them. -/
def serve : Session → List Request → List (Request × Except DigitLimit Reply) × Session
  | s, [] => ([], s)
  | s, q :: qs =>
    let (r, s') := q.step.run.run s
    let (rs, s'') := s'.serve qs
    ((q, r) :: rs, s'')

theorem serve_cons (s : Session) (q : Request) (qs : List Request) :
    s.serve (q :: qs) = ((q, (q.step.run.run s).1) :: ((q.step.run.run s).2.serve qs).1,
      ((q.step.run.run s).2.serve qs).2) := rfl

/-- Every request is answered. -/
theorem map_fst_serve : ∀ (s : Session) (qs : List Request), (s.serve qs).1.map Prod.fst = qs
  | _, [] => rfl
  | s, q :: qs => by
    rw [serve_cons, List.map_cons, map_fst_serve]

/-- **What every request preserves holds after all of them**, and what it then ensures of its answer holds of every
answer. -/
theorem serve_ensures {P : Session → Prop} {A : Request → Except DigitLimit Reply → Prop} : ∀ {qs : List Request},
    (∀ q ∈ qs, ∀ s, P s → SessionStep.Ensures q.step s fun r s' => A q r ∧ P s') →
    ∀ {s : Session}, P s → (∀ a ∈ (s.serve qs).1, A a.1 a.2) ∧ P (s.serve qs).2
  | [], _, s, hs => ⟨by simp [serve], hs⟩
  | q :: qs, h, s, hs => by
    obtain ⟨hanswer, hnext⟩ := h q (by simp) s hs
    obtain ⟨hanswers, hlast⟩ := serve_ensures (fun q' hq' => h q' (List.mem_cons_of_mem q hq')) hnext
    rw [serve_cons]
    refine ⟨fun a ha => ?_, hlast⟩
    rcases List.mem_cons.1 ha with rfl | ha
    · exact hanswer
    · exact hanswers a ha

end Session

end GameSource
