import DeviceMonitoring.Letters
import DeviceMonitoring.Lines
import DeviceMonitoring.Notifications
import Mathlib.Algebra.Order.BigOperators.Group.List

/-! What the connections still have to do: channels that may go down, tasks in the queue. Each
kind of work is worth what can come of it. -/
namespace DeviceMonitoring

def Task.isDisconnect {τ : Type} : Task τ → Bool
  | .disconnect _ => true
  | _ => false

def Task.isOther {τ : Type} : Task τ → Bool
  | .other _ => true
  | _ => false

namespace Net
variable {μ δ τ : Type}

/-- A connected channel may put one disconnect task into the queue. A `ConnectToServerTask`
makes two channels and calls two handlers. -/
def strain (net : Net μ δ τ) : Nat :=
  3 * (net.channels.count (·.connected) + net.tasks.countP Task.isDisconnect) +
    9 * net.tasks.countP Task.isOther

theorem count_modify_of_keep (net : Net μ δ τ) (ch : Ref)
    {f : ConnectionChannel μ δ → ConnectionChannel μ δ} (hf : ∀ c, (f c).connected = c.connected) :
    (net.channels.modify ch f).count (·.connected) = net.channels.count (·.connected) := by
  cases hget : net.channels.get ch with
  | none => rw [Heap.modify_of_none hget]
  | some c =>
      have hcount := Heap.count_modify hget f (·.connected)
      rw [hf] at hcount
      omega

/-- What leaves the flags and the queue alone. -/
theorem strain_modify (net : Net μ δ τ) (ch : Ref)
    {f : ConnectionChannel μ δ → ConnectionChannel μ δ} (hf : ∀ c, (f c).connected = c.connected) :
    ({ net with channels := net.channels.modify ch f } : Net μ δ τ).strain = net.strain := by
  unfold strain
  rw [count_modify_of_keep net ch hf]

theorem strain_setMessageHandler (net : Net μ δ τ) (ch : Ref) (handler : Option μ) :
    (net.setMessageHandler ch handler).strain = net.strain := strain_modify net ch fun _ => rfl

theorem strain_setDisconnectedHandler (net : Net μ δ τ) (ch : Ref) (handler : Option δ) :
    (net.setDisconnectedHandler ch handler).strain = net.strain := strain_modify net ch fun _ => rfl

/-- Every channel that goes off leaves one task. -/
theorem strain_turnOff {net : Net μ δ τ} {ch : Ref} (hon : net.connected ch = true) :
    (net.turnOff ch).strain = net.strain := by
  obtain ⟨c, hget, hc⟩ := (Option.any_eq_true _ _).mp hon
  have hcount := Heap.count_modify hget switchOff (·.connected)
  rw [hc] at hcount
  have hoff : (switchOff c).connected = false := rfl
  rw [hoff, Bool.toNat_true, Bool.toNat_false] at hcount
  simp only [strain, turnOff, scheduleTask, List.countP_append, List.countP_singleton, Task.isDisconnect,
    Task.isOther, if_true, Bool.false_eq_true, if_false]
  omega

theorem strain_disconnectIn (fuel : Nat) (net : Net μ δ τ) (ch : Ref) :
    (disconnectIn fuel net ch).strain = net.strain := by
  induction fuel generalizing net ch with
  | zero => rfl
  | succ fuel ih =>
      rw [disconnectIn]
      split
      next hon =>
        have hoff := strain_turnOff hon
        simp only
        split
        · exact hoff
        · rw [ih]
          exact hoff
      · rfl

theorem strain_disconnect (net : Net μ δ τ) (ch : Ref) : (net.disconnect ch).strain = net.strain :=
  strain_disconnectIn _ net ch

theorem strain_destroy (net : Net μ δ τ) (ch : Ref) : (net.destroy ch).strain ≤ net.strain := by
  have hpeer : (net.disconnectPeer ch).strain = net.strain := by
    unfold disconnectPeer
    split
    · rfl
    · exact strain_disconnect net _
  rw [← hpeer]
  unfold destroy
  cases hget : (net.disconnectPeer ch).channels.get ch with
  | none => simp only [Heap.free_of_none hget, le_refl]
  | some c =>
      have hcount := Heap.count_free hget (·.connected)
      unfold strain
      simp only
      omega

theorem strain_sendMessage (net : Net μ δ τ) (ch : Ref) (message : Bytes) :
    (net.sendMessage ch message).strain = net.strain := by
  rcases net.sendMessage_cases ch message with ⟨p, -, -, -, hsent⟩ | ⟨-, hsame⟩
  · rw [hsent]
    simp [strain, Task.isDisconnect, Task.isOther]
  · rw [hsame]

end Net

/-- What may come of a message: one for the server is answered. -/
def Letter.weight (l : Letter) : Nat := if l.toServer then 4 else 2

namespace World
variable {η : Type}

theorem strain_destroyConnection (w : World η) (n : Ref) :
    (w.destroyConnection n).net.strain ≤ w.net.strain := by
  unfold destroyConnection
  simp only
  split
  · exact Nat.le_refl _
  · exact w.net.strain_destroy _

theorem strain_serverOnDisconnected (w : World η) (s : Ref) (k : UInt64) :
    (w.serverOnDisconnected s k).net.strain ≤ w.net.strain := by
  unfold serverOnDisconnected
  split
  · exact Nat.le_refl _
  · exact w.strain_destroyConnection _

theorem strain_clientOnDisconnected (w : World η) (c : Ref) :
    (w.clientOnDisconnected c).net.strain ≤ w.net.strain := by
  unfold clientOnDisconnected
  split
  · exact Nat.le_refl _
  · exact w.net.strain_destroy _

theorem strain_clientSetChannel (w : World η) (c ch : Ref) :
    (w.clientSetChannel c ch).net.strain ≤ w.net.strain := by
  unfold clientSetChannel
  split
  · exact Nat.le_refl _
  next client _ =>
    split
    · exact w.net.strain_destroy _
    · refine Nat.le_of_eq ?_
      simp only
      rw [Net.strain_setDisconnectedHandler, Net.strain_setMessageHandler]

theorem strain_addConnection (w : World η) (s n : Ref) (next : Moment) :
    (w.addConnection s n next).net.strain ≤ w.net.strain := by
  unfold addConnection
  split
  · exact Nat.le_refl _
  · split
    · exact w.strain_destroyConnection n
    · exact Nat.le_refl _

theorem strain_opened (w : World η) (s : Ref) (task : ConnectToServerTask) :
    (w.opened s task).net.strain = w.net.strain + 6 := by
  unfold opened Net.strain
  simp only [Heap.count_alloc, Bool.toNat_true]
  omega

/-- Two new channels may be left. -/
theorem strain_connectToServer (w : World η) (task : ConnectToServerTask) :
    (w.connectToServer task).net.strain ≤ w.net.strain + 6 := by
  cases hs : w.serversMap task.serverId with
  | none =>
      unfold connectToServer
      rw [hs]
      exact Nat.le_add_right _ _
  | some s =>
      cases hc : w.clientsMap task.clientId with
      | none =>
          unfold connectToServer
          rw [hs, hc]
          exact Nat.le_add_right _ _
      | some c =>
          rw [connectToServer_eq task hs hc]
          have hadded := strain_addConnection (w.opened s task) s w.connections.next
            (.connecting (w.net.channels.next + 1) c s)
          rw [strain_opened] at hadded
          simp only
          split
          · exact hadded
          · exact (strain_clientSetChannel _ c _).trans hadded

theorem strain_resume (w : World η) : w.resume.net.strain ≤ w.net.strain := by
  unfold resume
  split
  · exact Nat.le_refl _
  · simp only
    split
    · exact Nat.le_refl _
    · exact Nat.le_refl _
    · exact strain_clientOnDisconnected _ _
    · exact strain_serverOnDisconnected _ _ _
    · exact strain_clientSetChannel _ _ _

theorem strain_withTasks (w : World η) {task : Task ConnectToServerTask}
    {tasks : List (Task ConnectToServerTask)} (htasks : w.net.tasks = task :: tasks) :
    (w.withTasks tasks).net.strain + (if task.isDisconnect then 3 else 0) +
      (if task.isOther then 9 else 0) = w.net.strain := by
  unfold Net.strain withTasks
  rw [htasks, List.countP_cons, List.countP_cons]
  cases task with
  | sendMessage message ch => simp [Task.isDisconnect, Task.isOther]
  | disconnect ch =>
      simp only [Task.isDisconnect, Task.isOther, if_true, Bool.false_eq_true, if_false]
      omega
  | other request =>
      simp only [Task.isDisconnect, Task.isOther, if_true, Bool.false_eq_true, if_false]
      omega

/-- What a task but one of a message is worth covers the handlers that it calls. -/
theorem strain_start {w : World η} (hrun : w.running = none) {task : Task ConnectToServerTask}
    {tasks : List (Task ConnectToServerTask)} (htasks : w.net.tasks = task :: tasks) :
    w.start.net.strain + (if task.slot.isSome then 0 else 3) ≤ w.net.strain := by
  have hpopped := w.strain_withTasks htasks
  cases task with
  | sendMessage message ch =>
      have hstart : w.start.net = (w.withTasks tasks).net := by
        cases hget : w.net.channels.get ch with
        | none => rw [start_nothing hrun htasks (deliver_gone (.inr ⟨message, rfl⟩) hget)]; rfl
        | some channel =>
            cases hhandler : channel.messageHandler with
            | none =>
                have hdeliver : w.net.deliver (.sendMessage message ch) = .nothing := by
                  rw [Net.deliver, hget, Option.bind_some, hhandler]
                rw [start_nothing hrun htasks hdeliver]
                rfl
            | some handler =>
                have hdeliver : w.net.deliver (.sendMessage message ch) = .message handler message := by
                  rw [Net.deliver, hget, Option.bind_some, hhandler]
                rw [start_message hrun htasks hdeliver]
                rfl
      rw [hstart, ← hpopped]
      simp [Task.slot, Task.isDisconnect, Task.isOther]
  | disconnect ch =>
      have hstart : w.start.net.strain ≤ (w.withTasks tasks).net.strain := by
        cases howner : (w.net.channels.get ch).bind (·.disconnectedHandler) with
        | none =>
            have hdeliver : w.net.deliver (.disconnect ch) = .nothing := by rw [Net.deliver, howner]
            rw [start_nothing hrun htasks hdeliver]
            exact Nat.le_refl _
        | some owner =>
            have hdeliver : w.net.deliver (.disconnect ch) = .disconnected owner := by
              rw [Net.deliver, howner]
            cases owner with
            | client c =>
                rw [start_client hrun htasks hdeliver]
                unfold clientDisconnectedHandler
                split
                · exact strain_clientOnDisconnected _ c
                · exact Nat.le_refl _
            | connection n =>
                rw [start_connection hrun htasks hdeliver]
                unfold connectionDisconnectedHandler
                split
                · exact Nat.le_refl _
                · split
                  · exact strain_serverOnDisconnected _ _ _
                  · exact Nat.le_refl _
      simp only [Task.isDisconnect, Task.isOther, if_true, Bool.false_eq_true, if_false] at hpopped
      simp only [Task.slot, Option.isSome_none, Bool.false_eq_true, if_false]
      omega
  | other request =>
      have hstart : w.start = (w.withTasks tasks).connectToServer request :=
        start_other hrun htasks rfl
      have hconnects := strain_connectToServer (w.withTasks tasks) request
      rw [hstart]
      simp only [Task.isDisconnect, Task.isOther, if_true, Bool.false_eq_true, if_false] at hpopped
      simp only [Task.slot, Option.isSome_none, Bool.false_eq_true, if_false]
      omega

/-! The messages in the queue. -/

def weight (w : World η) (a : Ref) : Nat := if (w.address a).any (·.1) then 4 else 2

def load (w : World η) : Nat := (w.net.mail.map fun slot => w.weight slot.2).sum

/-- The messages in the queue are for channels that were made. -/
def Mailed (w : World η) : Prop := ∀ slot ∈ w.net.mail, slot.2 < w.net.channels.next

section Passage
variable {w w' : World η} {posted : List Letter}

theorem weight_pos (w : World η) (a : Ref) : 2 ≤ w.weight a := by
  unfold weight
  split <;> omega

theorem weight_gone {a : Ref} (h : w.net.channels.get a = none) : w.weight a = 2 := by
  simp [weight, address, h]

theorem Mailed.passage (h : w.Mailed) (hpassage : Passage posted w w') : w'.Mailed := by
  intro slot hslot
  rw [hpassage.mail] at hslot
  rcases List.mem_append.mp hslot with hold | hnew
  · exact Nat.lt_of_lt_of_le (h slot hold) hpassage.next
  · obtain ⟨l, hl, rfl⟩ := List.mem_map.mp hnew
    exact (hpassage.addressed l hl).1

/-- The letters that are put into the queue are added to the load, and no other message gets a
new address. -/
theorem load_passage (h : w.Mailed) (hpassage : Passage posted w w') :
    w'.load ≤ w.load + (posted.map Letter.weight).sum := by
  unfold load
  rw [hpassage.mail, List.map_append, List.sum_append, List.map_map]
  apply Nat.add_le_add
  · apply List.sum_le_sum
    intro slot hslot
    cases hget : w'.net.channels.get slot.2 with
    | none =>
        rw [weight_gone hget]
        exact w.weight_pos slot.2
    | some channel =>
        obtain ⟨-, hsame⟩ := hpassage.stays slot.2 (h slot hslot) (by rw [hget, Option.isSome_some])
        unfold weight
        rw [hsame]
  · apply List.sum_le_sum
    intro l hl
    have hchannel : (Letter.slot l).2 = l.channel := rfl
    simp only [Function.comp_apply, hchannel]
    cases hget : w'.net.channels.get l.channel with
    | none =>
        rw [weight_gone hget]
        unfold Letter.weight
        split <;> omega
    | some channel =>
        have hto := (hpassage.addressed l hl).2 (by rw [hget, Option.isSome_some])
        simp [weight, Letter.weight, hto]

end Passage
end World
end DeviceMonitoring
