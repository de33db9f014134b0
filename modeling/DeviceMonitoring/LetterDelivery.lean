import DeviceMonitoring.Letters
import DeviceMonitoring.Notifications

/-! What becomes of the letters of a run: in the order in which they were posted, each arrives or is
lost, and none is lost whose channel is still there. A letter that arrives is what the message
handler of its channel is called with, if there is one. -/
namespace DeviceMonitoring
variable {η : Type}
namespace World

/-- The queue carries the letters that have neither arrived nor been lost, and each is still for
the one it was posted for. `letter` is what the queue knows of what is posted. -/
structure Underway {α : Type} (letter : α → Letter) (posted arrived : List α) (w : World η) : Prop where
  conveyed : ∃ pending, w.net.mail = pending.map (fun p => (letter p).slot) ∧
    Conveys (fun p => (w.net.channels.get (letter p).channel).isSome = true) posted arrived pending
  addressed : ∀ p ∈ posted, (letter p).channel < w.net.channels.next ∧
    ((w.net.channels.get (letter p).channel).isSome = true →
      w.address (letter p).channel = some ((letter p).toServer, (letter p).clientId))

namespace Underway
variable {w w' : World η}

section Letter
variable {α : Type} {letter : α → Letter} {posted arrived new : List α}

theorem empty : Underway letter [] [] ({} : World η) :=
  ⟨⟨[], rfl, .nil⟩, fun _ hp => absurd hp List.not_mem_nil⟩

theorem passage (h : Underway letter posted arrived w) (hnew : Passage (new.map letter) w w') :
    Underway letter (posted ++ new) arrived w' := by
  obtain ⟨⟨pending, hmail, hconveys⟩, haddressed⟩ := h
  constructor
  · refine ⟨pending ++ new, ?_, ?_⟩
    · rw [hnew.mail, hmail, List.map_map, List.map_append]
      rfl
    · apply Conveys.post
      apply hconveys.mono
      intro p hp hlive
      exact (hnew.stays _ (haddressed p hp).1 hlive).1
  · intro p hp
    rcases List.mem_append.mp hp with hp | hp
    · obtain ⟨hlt, hto⟩ := haddressed p hp
      refine ⟨Nat.lt_of_lt_of_le hlt hnew.next, fun hlive => ?_⟩
      obtain ⟨hlive', haddress⟩ := hnew.stays _ hlt hlive
      exact haddress.trans (hto hlive')
    · exact hnew.addressed _ (List.mem_map_of_mem hp)

theorem unposted (h : Underway letter posted arrived w) (hnew : Passage [] w w') :
    Underway letter posted arrived w' := by
  have hafter : Underway letter (posted ++ []) arrived w' := h.passage hnew
  rwa [List.append_nil] at hafter

/-- The head of the queue arrives at a channel that is there, or is lost. -/
theorem popped (h : Underway letter posted arrived w) (hrunning : w.running = none)
    {task : Task ConnectToServerTask} {tasks : List (Task ConnectToServerTask)}
    (htasks : w.net.tasks = task :: tasks) : ∃ given : List α, given.map letter = w.arrived .start ∧
      Underway letter posted (arrived ++ given) { w with net := { w.net with tasks } } := by
  obtain ⟨⟨pending, hmail, hconveys⟩, haddressed⟩ := h
  unfold Net.mail at hmail
  rw [htasks] at hmail
  cases task with
  | disconnect a =>
      refine ⟨[], by simp only [World.arrived, hrunning, htasks, List.map_nil], ?_, haddressed⟩
      rw [List.append_nil]
      exact ⟨pending, hmail, hconveys⟩
  | other request =>
      refine ⟨[], by simp only [World.arrived, hrunning, htasks, List.map_nil], ?_, haddressed⟩
      rw [List.append_nil]
      exact ⟨pending, hmail, hconveys⟩
  | sendMessage message a =>
      have hhanded : w.arrived .start = (w.address a).toList.map fun whom =>
          ⟨a, whom.1, whom.2, message⟩ := by
        simp only [World.arrived, hrunning, htasks]
      rw [hhanded]
      cases pending with
      | nil => cases hmail
      | cons p pending =>
          obtain ⟨hslot, hrest⟩ := List.cons.inj hmail
          obtain ⟨hmessage, hchannel⟩ := Prod.mk.inj hslot
          obtain ⟨-, hto⟩ := haddressed p (hconveys.pending_subset List.mem_cons_self)
          cases haddress : w.address a with
          | none =>
              refine ⟨[], rfl, ⟨pending, hrest, ?_⟩, haddressed⟩
              rw [List.append_nil]
              apply hconveys.drop
              intro hlive
              rw [← hchannel] at hto hlive
              rw [haddress] at hto
              cases hto hlive
          | some whom =>
              have hlive : (w.net.channels.get a).isSome = true := by
                obtain ⟨channel, hget, -⟩ := Option.bind_eq_some_iff.mp haddress
                rw [hget, Option.isSome_some]
              rw [← hchannel, haddress] at hto
              refine ⟨[p], ?_, ⟨pending, hrest, hconveys.handOver⟩, haddressed⟩
              rw [Option.toList_some, List.map_singleton, List.map_singleton,
                Option.some.inj (hto hlive), hmessage, hchannel]

theorem address_of_head (h : Underway letter posted arrived w) {message : Bytes} {a : Ref}
    {tasks : List (Task ConnectToServerTask)} (htasks : w.net.tasks = .sendMessage message a :: tasks)
    (hlive : (w.net.channels.get a).isSome = true) : ∃ whom, w.address a = some whom := by
  obtain ⟨⟨pending, hmail, hconveys⟩, haddressed⟩ := h
  unfold Net.mail at hmail
  rw [htasks] at hmail
  cases pending with
  | nil => cases hmail
  | cons p pending =>
      obtain ⟨hslot, -⟩ := List.cons.inj hmail
      obtain ⟨-, rfl⟩ := Prod.mk.inj hslot
      exact ⟨_, (haddressed p (hconveys.pending_subset List.mem_cons_self)).2 hlive⟩

theorem start (h : Underway letter posted arrived w) (hw : w.Settled) : ∃ given : List α,
    given.map letter = w.arrived .start ∧ Underway letter posted (arrived ++ given) w.start := by
  cases hrunning : w.running with
  | some running =>
      refine ⟨[], by simp only [World.arrived, hrunning, List.map_nil], ?_⟩
      rwa [World.start_busy hrunning, List.append_nil]
  | none =>
      cases htasks : w.net.tasks with
      | nil =>
          refine ⟨[], by simp only [World.arrived, hrunning, htasks, List.map_nil], ?_⟩
          rwa [World.start_idle hrunning htasks, List.append_nil]
      | cons task tasks =>
          obtain ⟨given, hgiven, hpopped⟩ := h.popped hrunning htasks
          exact ⟨given, hgiven, hpopped.unposted (.start hw hrunning htasks)⟩

end Letter

variable {posted arrived : List Letter}

theorem step (I : Iteration) (h : Underway id posted arrived w) (hw : w.Settled) {step : WorldStep η}
    (hstep : w.keepsIdentifier step = true) :
    Underway id (posted ++ w.posted step) (arrived ++ w.arrived step) (w.step I step) := by
  cases step with
  | newClient =>
      simp only [World.posted, World.arrived, List.append_nil]
      exact h.unposted (.newClient hw)
  | newServer =>
      simp only [World.posted, World.arrived, List.append_nil]
      exact h.unposted (.of_net rfl rfl rfl)
  | start =>
      simp only [World.posted, List.append_nil]
      obtain ⟨given, hgiven, hstart⟩ := h.start hw
      rw [List.map_id] at hgiven
      rwa [← hgiven]
  | resume =>
      simp only [World.posted, World.arrived, List.append_nil]
      exact h.unposted (.resume hw)
  | call call =>
      simp only [World.posted, World.arrived, List.append_nil, World.step]
      split
      next hallows =>
        apply h.passage
        rw [List.map_id]
        apply Passage.perform I hw hallows
        rintro c clientId rfl ⟨q, s, hmoment⟩
        obtain ⟨⟨invocation, moment⟩, hrunning, rfl⟩ := Option.map_eq_some_iff.mp hmoment
        simpa [keepsIdentifier, hrunning] using hstep
      · rwa [List.append_nil]

theorem run (I : Iteration) (h : Underway id posted arrived w) (hw : w.Settled)
    (steps : List (WorldStep η)) (hsteps : w.along I keepsIdentifier steps = true) :
    Underway id (posted ++ trace (World.step I) World.posted w steps)
      (arrived ++ trace (World.step I) World.arrived w steps) (w.run I steps) := by
  induction steps generalizing w posted arrived with
  | nil =>
      rw [trace, trace, List.append_nil, List.append_nil]
      exact h
  | cons step steps ih =>
      obtain ⟨hstep, hrest⟩ := Bool.and_eq_true_iff.mp hsteps
      have hafter := ih (h.step I hw hstep) (settled_step I hw hstep) hrest
      rwa [List.append_assoc, List.append_assoc] at hafter

end Underway

/-- The letters that arrive in a step, each with the message handler of its channel. -/
def arrivals (w : World η) (step : WorldStep η) : List (Letter × Option η) :=
  (w.arrived step).map fun l => (l, (w.net.channels.get l.channel).bind (·.messageHandler))

/-- The message handler that a step calls, and what it is called with. -/
def messageCalls (I : Iteration) (w : World η) (step : WorldStep η) : List (η × Bytes) :=
  match w.running, (w.step I step).running with
  | none, some (.message handler message, _) => [(handler, message)]
  | _, _ => []

/-- Nobody is called where the channel has no message handler. -/
def callOf : Letter × Option η → Option (η × Bytes)
  | (l, handler) => handler.map fun handler => (handler, l.message)

section Calls
variable {w : World η} {posted arrived : List Letter}

theorem messageCalls_of_running (I : Iteration) {step : WorldStep η}
    (h : (w.step I step).running = w.running) : w.messageCalls I step = [] := by
  unfold messageCalls
  rw [h]
  cases w.running <;> rfl

theorem messageCalls_of_ne (I : Iteration) {step : WorldStep η} (h : ∀ handler message moment,
    (w.step I step).running ≠ some (.message handler message, moment)) : w.messageCalls I step = [] := by
  unfold messageCalls
  split
  next hcalled => exact absurd hcalled (h _ _ _)
  · rfl

/-- Only the task of a message calls a message handler. -/
theorem messageCalls_other (I : Iteration) (hrunning : w.running = none)
    (htasks : ∀ message a tasks, w.net.tasks ≠ .sendMessage message a :: tasks) :
    w.messageCalls I .start = (w.arrivals .start).filterMap callOf := by
  have hnone : w.arrived .start = [] := by
    simp only [World.arrived, hrunning]
    split
    next hcons => exact absurd hcons (htasks _ _ _)
    · rfl
  rw [arrivals, hnone, messageCalls_of_ne I fun handler message moment hcalled => ?_]
  · rfl
  · obtain ⟨task, tasks, hcons, hcalls⟩ := calls_start hrunning hcalled
    cases hcalls
    exact htasks _ _ _ hcons

theorem messageCalls_start (I : Iteration) (h : Underway id posted arrived w) :
    w.messageCalls I .start = (w.arrivals .start).filterMap callOf := by
  cases hrunning : w.running with
  | some running =>
      have hnone : w.arrived .start = [] := by simp only [World.arrived, hrunning]
      rw [arrivals, hnone, messageCalls_of_running I (by rw [step, start_busy hrunning])]
      rfl
  | none =>
      cases htasks : w.net.tasks with
      | nil => exact messageCalls_other I hrunning (by simp [htasks])
      | cons task tasks =>
          cases task with
          | disconnect a => exact messageCalls_other I hrunning (by simp [htasks])
          | other request => exact messageCalls_other I hrunning (by simp [htasks])
          | sendMessage message a =>
              have harrived : w.arrived .start = (w.address a).toList.map fun whom =>
                  ⟨a, whom.1, whom.2, message⟩ := by
                simp only [World.arrived, hrunning, htasks]
              rw [arrivals, harrived, messageCalls, hrunning, step]
              cases hget : w.net.channels.get a with
              | none =>
                  have hnone : w.address a = none := by rw [address, hget, Option.bind_none]
                  rw [start_nothing hrunning htasks (deliver_gone (.inr ⟨message, rfl⟩) hget), hnone]
                  simp [hrunning]
              | some channel =>
                  obtain ⟨whom, haddress⟩ := h.address_of_head htasks (by rw [hget]; rfl)
                  rw [start_sendMessage hrunning htasks hget, haddress]
                  simp only [Option.toList_some, List.map_singleton, hget, Option.bind_some]
                  cases channel.messageHandler <;> rfl

/-- A letter that arrives is what the handler of its channel is called with, and no message handler
is called but with a letter that arrives. -/
theorem messageCalls_step (I : Iteration) (h : Underway id posted arrived w) (step : WorldStep η) :
    w.messageCalls I step = (w.arrivals step).filterMap callOf := by
  cases step with
  | start => exact messageCalls_start I h
  | newClient => exact messageCalls_of_running I rfl
  | newServer => exact messageCalls_of_running I rfl
  | call call =>
      refine messageCalls_of_running I ?_
      simp only [World.step]
      split
      · exact running_perform I w call
      · rfl
  | resume =>
      refine messageCalls_of_ne I fun handler message moment hcalled => ?_
      obtain ⟨_, _, _, _, _, _, -, -, -, heq, -⟩ := calls_resume hcalled
      cases heq

theorem messageCalls_run (I : Iteration) (h : Underway id posted arrived w) (hw : w.Settled)
    (steps : List (WorldStep η)) (hsteps : w.along I keepsIdentifier steps = true) :
    trace (World.step I) (messageCalls I) w steps =
      (trace (World.step I) arrivals w steps).filterMap callOf := by
  induction steps generalizing w posted arrived with
  | nil => rfl
  | cons step steps ih =>
      obtain ⟨hstep, hrest⟩ := Bool.and_eq_true_iff.mp hsteps
      rw [trace, trace, List.filterMap_append, messageCalls_step I h step,
        ih (h.step I hw hstep) (settled_step I hw hstep) hrest]

end Calls

/-- The letters that are put into the queue in a run. -/
def postedDuring (I : Iteration) (w : World η) (steps : List (WorldStep η)) : List Letter :=
  trace (step I) posted w steps

def arrivedDuring (I : Iteration) (w : World η) (steps : List (WorldStep η)) :
    List (Letter × Option η) :=
  trace (step I) arrivals w steps

/-- The calls of message handlers in a run. -/
def calledDuring (I : Iteration) (w : World η) (steps : List (WorldStep η)) : List (η × Bytes) :=
  trace (step I) (messageCalls I) w steps

/-- In an orderly run: what arrives was posted, by the same client or for it, in this order, and no
letter twice. The message handlers are called with what arrives at channels that have one, and with
nothing else. On a channel that is still there nothing is lost: what was posted for it has arrived,
or is in the queue. -/
theorem letters_delivered (I : Iteration) (steps : List (WorldStep η))
    (hsteps : ({} : World η).along I orderly steps = true) :
    ((arrivedDuring I ({} : World η) steps).map Prod.fst).Sublist (postedDuring I {} steps) ∧
      calledDuring I ({} : World η) steps = (arrivedDuring I {} steps).filterMap callOf ∧
      ∀ a, ((({} : World η).run I steps).net.channels.get a).isSome = true →
        ((postedDuring I ({} : World η) steps).filter fun l => l.channel = a).map (·.message) =
          (((arrivedDuring I {} steps).map Prod.fst).filter fun l => l.channel = a).map (·.message) ++
            ((({} : World η).run I steps).net.mail.filter fun slot => slot.2 = a).map Prod.fst := by
  have hkeeps := along_mono I (fun _ _ => keepsIdentifier_of_orderly) hsteps
  have h := Underway.empty.run I settled_empty steps hkeeps
  rw [List.nil_append, List.nil_append] at h
  have harrived : (arrivedDuring I ({} : World η) steps).map Prod.fst =
      trace (step I) arrived ({} : World η) steps := by
    have hfst : (fun (w : World η) step => (w.arrivals step).map Prod.fst) = arrived := by
      funext w step
      rw [arrivals, List.map_map]
      exact List.map_id _
    rw [arrivedDuring, map_trace, hfst]
  obtain ⟨⟨pending, hmail, hconveys⟩, -⟩ := h
  refine ⟨harrived ▸ hconveys.handed_sublist, messageCalls_run I .empty settled_empty steps hkeeps,
    fun a hlive => ?_⟩
  have hcomplete := hconveys.complete (fun l => decide (l.channel = a)) fun l _ hl => by
    rw [id_eq, of_decide_eq_true hl]
    exact hlive
  have hmail' : (({} : World η).run I steps).net.mail = pending.map Letter.slot := hmail
  have hpending : (pending.filter fun l => decide (l.channel = a)).map (·.message) =
      ((pending.map Letter.slot).filter fun slot => decide (slot.2 = a)).map Prod.fst := by
    rw [List.filter_map, List.map_map]
    rfl
  rw [harrived, hmail', ← hpending, ← List.map_append]
  exact congrArg (List.map (·.message)) hcomplete

/-- The client's channel has no message handler when the second message arrives. -/
def lettersRun : List (WorldStep Nat) :=
  [.newClient, .newServer, .call (.bind 0 7), .call (.listen 0 5),
    .call (.setNewConnectionHandler 0 (some 1)), .call (.connectToHost 0 5), .start,
    .call (.connectionSetMessageHandler 0 (some 2)), .resume, .call (.clientSendMessage 0 [1]),
    .call (.connectionSendMessage 0 [2]), .start, .resume, .start]

theorem letters_delivered_unheard : calledDuring .byEntry ({} : World Nat) lettersRun = [(2, [1])] := by
  have h := (letters_delivered .byEntry lettersRun (by decide)).2.1
  have harrived : arrivedDuring .byEntry ({} : World Nat) lettersRun =
      [(⟨0, true, 7, [1]⟩, some 2), (⟨1, false, 7, [2]⟩, none)] := by decide
  rw [harrived] at h
  exact h

end World
end DeviceMonitoring
