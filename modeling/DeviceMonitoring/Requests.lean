import DeviceMonitoring.Agreement
import DeviceMonitoring.Changes

/-! The requests of clients. A run is timely if every task still finds what it was queued
for; then every task that would find a client was asked for by this client. -/
namespace DeviceMonitoring
variable {η : Type}
namespace World

/-- No `ConnectToServerTask` is queued under the identifier, but the client's own. -/
def takesOver (w : World η) (c : Ref) (clientId : UInt64) : Bool :=
  w.net.tasks.any fun task =>
    match task with
    | .other task => task.clientId = clientId && !decide ((c, task.serverId) ∈ w.requests)
    | _ => false

/-- The server would refuse the connection that the client is waiting for. -/
def refuses (w : World η) : Bool :=
  match w.net.tasks with
  | .other task :: _ =>
      match w.serversMap task.serverId, w.clientsMap task.clientId with
      | some s, some c => (w.clientChannel c).isNone && (w.connection s task.clientId).isSome
      | _, _ => false
  | _ => false

/-- In an orderly run, a client takes no identifier with another client's task queued under it;
a task does not run while the server still holds an old connection of its client; the handler
of a new connection does not close it, nor disconnect or destroy its server. -/
def timely (w : World η) (step : WorldStep η) : Bool :=
  w.orderly step && match step with
  | .call (.bind c clientId) => !(w.bind c clientId).1 || !w.takesOver c clientId
  | .call (.connectionDisconnect n) =>
      match w.running with
      | some (.newConnection _ m, _) => n ≠ m
      | _ => true
  | .call (.serverDisconnect s) | .call (.destroyServer s) =>
      match w.running with
      | some (_, .connecting _ _ t) => s ≠ t
      | _ => true
  | .start => !w.refuses
  | _ => true

theorem orderly_of_timely {w : World η} {step : WorldStep η} (h : w.timely step = true) :
    w.orderly step = true :=
  (Bool.and_eq_true_iff.mp h).1

/-- A queued task that would find a client was asked for by this client. -/
def Asked (w : World η) : Prop :=
  ∀ task c, .other task ∈ w.net.tasks → w.clientsMap task.clientId = some c →
    (c, task.serverId) ∈ w.requests

/-- A step that asks for nothing, and binds no client. -/
structure Keeps (w w' : World η) : Prop where
  others : ∀ task, .other task ∈ w'.net.tasks → .other task ∈ w.net.tasks
  clientsMap : ∀ k c, w'.clientsMap k = some c → w.clientsMap k = some c
  requests : w'.requests = w.requests

theorem Keeps.refl (w : World η) : Keeps w w := ⟨fun _ h => h, fun _ _ h => h, rfl⟩

theorem Keeps.trans {w w' w'' : World η} (h : Keeps w w') (h' : Keeps w' w'') : Keeps w w'' :=
  ⟨fun task hmem => h.others task (h'.others task hmem),
    fun k c hc => h.clientsMap k c (h'.clientsMap k c hc), h'.requests.trans h.requests⟩

theorem Keeps.asked {w w' : World η} (h : Keeps w w') (hasked : w.Asked) : w'.Asked := by
  intro task c hmem hc
  rw [h.requests]
  exact hasked task c (h.others task hmem) (h.clientsMap _ c hc)

theorem Keeps.change (w : World η) (change : Change η)
    (hrequested : ∀ c task, change ≠ .requested c task)
    (hbound : ∀ k c, change ≠ .findsClient k (some c)) : Keeps w (w.change change) := by
  cases change with
  | popped => exact ⟨fun _ => List.mem_of_mem_tail, fun _ _ h => h, rfl⟩
  | sent ch message =>
      have hquiet : Quiet (fun _ => True) w { w with net := w.net.sendMessage ch message } :=
        .sendMessage w ch message
      exact ⟨fun task => (hquiet.others task).mp, fun _ _ h => h, rfl⟩
  | disconnected ch => exact ⟨fun task => (w.net.other_mem_disconnect ch task).mp, fun _ _ h => h, rfl⟩
  | destroyed ch => exact ⟨fun task => (w.net.other_mem_destroy ch task).mp, fun _ _ h => h, rfl⟩
  | requested c task => exact absurd rfl (hrequested c task)
  | findsClient k c =>
      cases c with
      | none => exact ⟨fun _ h => h, fun _ _ => Shape.update_none_eq_some, rfl⟩
      | some c => exact absurd rfl (hbound k c)
  | messageHandler owner handler =>
      cases owner with
      | client c =>
          simp only [World.change, clientSetMessageHandler]
          split <;> exact ⟨fun _ h => h, fun _ _ h => h, rfl⟩
      | connection n =>
          simp only [World.change, connectionSetMessageHandler]
          split <;> exact ⟨fun _ h => h, fun _ _ h => h, rfl⟩
  | disconnectedHandler owner handler => cases owner <;> exact ⟨fun _ h => h, fun _ _ h => h, rfl⟩
  | adopted c ch =>
      simp only [World.change, clientSetChannel]
      split
      · exact .refl w
      · split
        · exact ⟨fun task => (w.net.other_mem_destroy _ task).mp, fun _ _ h => h, rfl⟩
        · exact ⟨fun _ h => h, fun _ _ h => h, rfl⟩
  | _ => exact ⟨fun _ h => h, fun _ _ h => h, rfl⟩

theorem Keeps.of_changes {w w' : World η} {may : Change η → Prop}
    (hrequested : ∀ c task, ¬may (.requested c task))
    (hbound : ∀ k c, ¬may (.findsClient k (some c))) (h : Changes may w w') : Keeps w w' :=
  h.lift .refl (fun _ _ _ => .trans) fun w change hchange _ =>
    .change w change (fun c task heq => hrequested c task (heq ▸ hchange))
      fun k c heq => hbound k c (heq ▸ hchange)

theorem keeps_start (w : World η) : Keeps w w.start :=
  .of_changes (fun _ _ => id) (fun _ _ => id) (.start w)

theorem keeps_resume (w : World η) : Keeps w w.resume :=
  .of_changes (fun _ _ => id) (fun _ _ => id) (.resume w)

theorem asked_bind {w : World η} (h : w.Asked) (c : Ref) {clientId : UInt64}
    (htakes : (w.bind c clientId).1 = true → w.takesOver c clientId = false) :
    (w.bind c clientId).2.Asked := by
  rcases bind_cases w c clientId with hbind | ⟨k, -, hid, hfree, hbind, -⟩
  · rw [hbind]
    exact h
  · rw [hbind] at htakes ⊢
    intro task d hmem hd
    by_cases hk : task.clientId = clientId
    · have hdc : d = c := by
        simp only [hk, Function.update_self, Option.some.injEq] at hd
        exact hd.symm
      subst hdc
      have hown := htakes rfl
      unfold takesOver at hown
      rw [List.any_eq_false] at hown
      simpa [hk] using hown _ hmem
    · simp only [Function.update_of_ne hk] at hd
      by_cases hold : task.clientId = k
      · rw [hold, Function.update_self] at hd
        cases hd
      · rw [Function.update_of_ne hold] at hd
        exact h task d hmem hd

theorem asked_connectToHost {w : World η} (h : w.Asked) {floating closing : Option Ref}
    (hw : w.Consistent floating closing) (c : Ref) (serverId : UInt64) :
    (w.connectToHost c serverId).2.Asked := by
  unfold connectToHost
  split
  next => exact h
  next client hc =>
    split
    next => exact h
    next hguard =>
      intro task d hmem hd
      rw [Net.tasks_scheduleTask, List.mem_append, List.mem_singleton] at hmem
      rcases hmem with hmem | hmem
      · exact List.mem_append_left _ (h task d hmem hd)
      · cases hmem
        -- the identifier leads back to the client itself
        obtain ⟨hzero, hd⟩ := (hw.clientsMap _ d).mp hd
        have hcid : w.shape.clientIds c = some client.clientId :=
          Shape.clientIds_eq_some ((Heap.view_eq_some _ _).mpr ⟨client, hc, rfl⟩)
        rw [hw.clientsMap.unique hzero hd hcid]
        exact List.mem_append_right _ (List.mem_singleton_self _)

/-- Every call but `bind` and `connectToHost`. -/
theorem keeps_perform (I : Iteration) (w : World η) {call : Call η}
    (hbind : ∀ c clientId, call ≠ .bind c clientId)
    (hconnect : ∀ c serverId, call ≠ .connectToHost c serverId) : Keeps w (w.perform I call) := by
  refine .of_changes (fun c task hchange => ?_) (fun k c hchange => ?_) (.perform I w call)
  · cases call with
    | connectToHost d serverId => exact hconnect d serverId rfl
    | _ => cases hchange
  · cases call with
    | bind d clientId => exact hbind d clientId rfl
    | _ => cases hchange

theorem asked_perform (I : Iteration) {w : World η} (h : w.Asked) (hw : w.Settled) {call : Call η}
    (htimely : w.timely (.call call) = true) : (w.perform I call).Asked := by
  cases call with
  | bind c clientId =>
      apply asked_bind h
      intro hbind
      simpa [hbind] using (Bool.and_eq_true_iff.mp htimely).2
  | connectToHost c serverId =>
      obtain ⟨floating, closing, -, hconsistent⟩ := hw
      exact asked_connectToHost h hconsistent c serverId
  | _ => exact (keeps_perform I w (by simp) (by simp)).asked h

end World
end DeviceMonitoring
