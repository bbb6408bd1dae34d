import GameSource.Command.Run
/-!
# What work gives, and what it exits with

`Work.Gives` says with which result work ends and which notices it adds to those given before.  There is one rule for
each way in which work is put together, and from what a command's work gives follows the exit of its invocation
(`Invocation.run_of_answer`, `run_of_diagnostic`, `run_of_fault`).
-/
namespace GameSource

namespace Work

variable {α β : Type}

/-- The work ends with the result, and adds the notices to those given before. -/
def Gives (w : Work α) (r : Except Fault α) (ns : List Notice) : Prop :=
  ∀ before, w.run.run before = (r, before ++ ns)

theorem gives_pure (a : α) : (pure a : Work α).Gives (.ok a) [] := fun before => by
  rw [List.append_nil]
  rfl

theorem gives_stop (e : Fault) : (stop e : Work α).Gives (.error e) [] := fun before => by
  rw [List.append_nil]
  rfl

theorem gives_tell (ns : List Notice) : (tell ns).Gives (.ok ()) ns := fun _ => rfl

theorem gives_ok {ε : Type} {fault : ε → Fault} {x : Except ε α} {a : α} (h : x = .ok a) :
    (ofExcept fault x).Gives (.ok a) [] := h ▸ gives_pure a

theorem gives_error {ε : Type} {fault : ε → Fault} {x : Except ε α} {e : ε} (h : x = .error e) :
    (ofExcept fault x).Gives (.error (fault e)) [] := h ▸ gives_stop (fault e)

namespace Gives

variable {w : Work α} {f : α → Work β} {ns ns' : List Notice}

theorem bind {a : α} {r : Except Fault β} (hw : w.Gives (.ok a) ns) (hf : (f a).Gives r ns') :
    (w >>= f).Gives r (ns ++ ns') := fun before => by
  have hrun : (w >>= f).run.run before = match w.run.run before with
      | (.ok a, after) => (f a).run.run after
      | (.error e, after) => (.error e, after) := by
    change (ExceptT.bindCont f (w.run.run before).1).run (w.run.run before).2 = _
    cases w.run.run before with
    | mk r after => cases r <;> rfl
  rw [hrun, hw before]
  simp only
  rw [hf (before ++ ns), List.append_assoc]

/-- What is behind a fault is not done. -/
theorem bind_error {e : Fault} (hw : w.Gives (.error e) ns) : (w >>= f).Gives (.error e) ns := fun before => by
  change (ExceptT.bindCont f (w.run.run before).1).run (w.run.run before).2 = _
  rw [hw before]
  rfl

/-- Work that goes on without notices of its own. -/
theorem silently {a : α} {r : Except Fault β} (hw : w.Gives (.ok a) []) (hf : (f a).Gives r ns) :
    (w >>= f).Gives r ns := hw.bind hf

/-- Work that answers after its notices. -/
theorem answering {a : α} {b : β} (hw : w.Gives (.ok a) ns) (hf : f a = pure b) : (w >>= f).Gives (.ok b) ns := by
  have hb : (f a).Gives (.ok b) [] := hf ▸ gives_pure b
  have h := hw.bind hb
  rwa [List.append_nil] at h

theorem collect {r : Except Fault α} (h : w.Gives r ns) : w.collect = (r, ns) := h []

end Gives

end Work

namespace Invocation

/-- The options of an invocation are valid and describe a project. -/
def Opens (disk : Disk) (i : Invocation) (p : Project) : Prop :=
  ∃ o, Options.read i.root "utf-8".toList i.defines i.format.name = .ok o ∧ Project.open? disk o = .ok p

variable {disk : Disk} {stdin : StandardInput} {i : Invocation} {p : Project} {ns : List Notice}

/-- The work of an invocation is that of its command. -/
theorem collect_answer {r : Except Fault (Answer × Option Diagnostic)} (hopens : i.Opens disk p)
    (h : (i.command.answer p stdin).Gives r ns) :
    (do let options ← Work.ofExcept .option (Options.read i.root "utf-8".toList i.defines i.format.name)
        let project ← Work.ofExcept .option (Project.open? disk options)
        i.command.answer project stdin : Work (Answer × Option Diagnostic)).collect = (r, ns) := by
  obtain ⟨o, hoptions, hproject⟩ := hopens
  exact ((Work.gives_ok hoptions).silently ((Work.gives_ok hproject).silently h)).collect

theorem run_of_answer {a : Answer} (hopens : i.Opens disk p)
    (h : (i.command.answer p stdin).Gives (.ok (a, none)) ns) :
    i.run disk stdin = (.ok ⟨0, .text (a.printed i.format), .text []⟩, ns) := by
  simp only [run]
  rw [collect_answer hopens h]

theorem run_of_diagnostic {a : Answer} {d : Diagnostic} (hopens : i.Opens disk p)
    (h : (i.command.answer p stdin).Gives (.ok (a, some d)) ns) :
    i.run disk stdin = (.ok ⟨1, .text [], .text (d.printed i.format)⟩, ns) := by
  simp only [run]
  rw [collect_answer hopens h]

theorem run_of_fault {e : Fault} (hopens : i.Opens disk p) (h : (i.command.answer p stdin).Gives (.error e) ns)
    (htold : e.isTold) : i.run disk stdin = (.ok e.exit, ns) := by
  simp only [run]
  rw [collect_answer hopens h]
  simp only
  rw [if_pos htold]

end Invocation

end GameSource
