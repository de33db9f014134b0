import DeviceMonitoring.Agreement
import DeviceMonitoring.TaskCalls

/-! Operations made one after the other. `processTask` is one of them, with everything that
the handlers it calls do. -/
namespace DeviceMonitoring
variable {η : Type}

def Call.binds : Call η → Bool
  | .bind .. => true
  | _ => false

/-- What a handler calls. `bind` is left out, which in a new-connection handler would give the
announced client another identifier; and so are `processTask` and the destruction of what the
handler's own task goes back to (`World.permits`). -/
abbrev HandlerCall (η : Type) := { call : Call η // call.binds = false }

def HandlerCall.step (call : HandlerCall η) : WorldStep η := .call call.1

inductive Operation (η : Type) where
  | newClient
  | newServer
  | call (call : Call η)
  /-- A task calls two handlers at most, and neither calls `processTask`. -/
  | processTask (first second : List (HandlerCall η))

def Operation.steps : Operation η → List (WorldStep η)
  | .newClient => [.newClient]
  | .newServer => [.newServer]
  | .call made => [.call made]
  | .processTask first second =>
      .start :: first.map HandlerCall.step ++ .resume :: second.map HandlerCall.step ++ [.resume]

namespace World

def operate (I : Iteration) (w : World η) (operations : List (Operation η)) : World η :=
  w.run I (operations.flatMap Operation.steps)

theorem operate_append (I : Iteration) (w : World η) (operations more : List (Operation η)) :
    w.operate I (operations ++ more) = (w.operate I operations).operate I more := by
  unfold operate
  rw [List.flatMap_append, run_append]

/-- Nothing runs between two operations. -/
structure Idle (w : World η) : Prop where
  running : w.running = none
  settled : w.Settled

theorem Idle.consistent {w : World η} (h : w.Idle) : w.Consistent none none := by
  obtain ⟨hrunning, floating, closing, hsituation, hw⟩ := h
  rw [hrunning] at hsituation
  obtain ⟨rfl, rfl⟩ := hsituation
  exact hw

theorem idle_empty : ({} : World η).Idle := ⟨rfl, settled_empty⟩

/-- The calls of a handler. -/
theorem settled_calls (I : Iteration) {w : World η} (h : w.Settled) (calls : List (HandlerCall η)) :
    (w.run I (calls.map HandlerCall.step)).Settled ∧
      (w.run I (calls.map HandlerCall.step)).running = w.running := by
  induction calls generalizing w with
  | nil => exact ⟨h, rfl⟩
  | cons call calls ih =>
      obtain ⟨call, hcall⟩ := call
      have hstep : w.keepsIdentifier (.call call) = true := by
        cases call with
        | bind c clientId => cases hcall
        | _ => rfl
      have hrunning : (w.step I (.call call)).running = w.running := by
        simp only [step]
        split
        · exact running_perform I w call
        · rfl
      obtain ⟨hsettled, hkeep⟩ := ih (settled_step I h hstep)
      exact ⟨hsettled, hkeep.trans hrunning⟩

/-- A handler that returns is followed by a connected handler, or by none. -/
theorem running_resume (w : World η) :
    w.resume.running = none ∨
      (∃ i q c s, w.running = some (i, .connecting q c s)) ∧
        ∃ handler c, w.resume.running = some (.connected handler, .notified c) := by
  cases hresume : w.resume.running with
  | none => exact .inl rfl
  | some running =>
      obtain ⟨announced, q, c, s, client, handler, hrunning, -, -, hinvocation, hmoment⟩ := calls_resume hresume
      exact .inr ⟨⟨announced, q, c, s, hrunning⟩, handler, c, by rw [← hinvocation, ← hmoment]⟩

theorem Idle.allows {w : World η} (h : w.Idle) (call : Call η) : w.allows call = true := by
  rw [World.allows, h.running, Option.all_none]

theorem idle_perform (I : Iteration) {w : World η} (h : w.Idle) (call : Call η) :
    (w.perform I call).Idle := by
  refine ⟨(running_perform I w call).trans h.running, settled_perform I h.settled (h.allows call) ?_⟩
  rintro c clientId - ⟨q, s, hmoment⟩
  rw [h.running] at hmoment
  cases hmoment

/-- An operation returns. -/
theorem idle_steps (I : Iteration) {w : World η} (h : w.Idle) (operation : Operation η) :
    (w.run I operation.steps).Idle := by
  cases operation with
  | newClient => exact ⟨h.running, settled_newClient h.settled⟩
  | newServer => exact ⟨h.running, settled_newServer h.settled⟩
  | call call =>
      have hperform : w.run I (Operation.call call).steps = w.perform I call := if_pos (h.allows call)
      rw [hperform]
      exact idle_perform I h call
  | processTask first second =>
      obtain ⟨hfirst, -⟩ := settled_calls I (settled_start h.settled) first
      obtain ⟨hsecond, hkeep⟩ := settled_calls I (settled_resume hfirst) second
      have hsteps : w.run I (Operation.processTask first second).steps =
          ((((w.start.run I (first.map HandlerCall.step)).resume).run I
            (second.map HandlerCall.step)).resume) := by
        simp only [Operation.steps, run_append]
        rfl
      rw [hsteps]
      refine ⟨?_, settled_resume hsecond⟩
      rcases running_resume ((w.start.run I (first.map HandlerCall.step)).resume.run I
        (second.map HandlerCall.step)) with hnone | ⟨⟨i, q, c, s, hconnecting⟩, -⟩
      · exact hnone
      · rw [hkeep] at hconnecting
        rcases running_resume (w.start.run I (first.map HandlerCall.step)) with hnone | ⟨-, j, d, hsome⟩
        · rw [hnone] at hconnecting
          cases hconnecting
        · rw [hsome] at hconnecting
          cases hconnecting

theorem idle_operate (I : Iteration) {w : World η} (h : w.Idle) (operations : List (Operation η)) :
    (w.operate I operations).Idle := by
  induction operations generalizing w with
  | nil => exact h
  | cons operation operations ih =>
      rw [← List.singleton_append, operate_append]
      apply ih
      have hone : w.operate I [operation] = w.run I operation.steps := by
        unfold operate
        rw [List.flatMap_singleton]
      rw [hone]
      exact idle_steps I h operation

end World
end DeviceMonitoring
