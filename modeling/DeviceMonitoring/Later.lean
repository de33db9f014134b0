import DeviceMonitoring.Agreement
import DeviceMonitoring.Changes
import DeviceMonitoring.Teardown

/-! What never comes back: a channel that is off or gone, and the channel that a connection
has lost. -/
namespace DeviceMonitoring
variable {η : Type}

namespace Net
variable {μ δ τ : Type} {net net' net'' : Net μ δ τ}

structure Fades (net net' : Net μ δ τ) : Prop where
  next : net.channels.next ≤ net'.channels.next
  off : ∀ r, r < net.channels.next → net.connected r = false → net'.connected r = false

namespace Fades

theorem of_channels (h : net'.channels = net.channels) : Fades net net' := by
  constructor
  · rw [h]
  · intro r _ hr
    rwa [connected, h]

theorem trans (h : Fades net net') (h' : Fades net' net'') : Fades net net'' := by
  constructor
  · exact h.next.trans h'.next
  · intro r hr hoff
    exact h'.off r (Nat.lt_of_lt_of_le hr h.next) (h.off r hr hoff)

/-- Whatever leaves the flag of the channel alone. -/
theorem modify (net : Net μ δ τ) (ch : Ref) {f : ConnectionChannel μ δ → ConnectionChannel μ δ}
    (hf : ∀ c, (f c).connected = c.connected) :
    Fades net { net with channels := net.channels.modify ch f } := by
  constructor
  · exact Nat.le_refl _
  · intro r _ hoff
    unfold connected at hoff ⊢
    by_cases hr : r = ch
    · subst hr
      rw [Heap.get_modify_self]
      cases hget : net.channels.get r with
      | none => rfl
      | some c => simpa [hget, hf] using hoff
    · rwa [Heap.get_modify_of_ne _ _ hr]

theorem setMessageHandler (net : Net μ δ τ) (ch : Ref) (handler : Option μ) :
    Fades net (net.setMessageHandler ch handler) :=
  modify net ch fun _ => rfl

theorem setDisconnectedHandler (net : Net μ δ τ) (ch : Ref) (handler : Option δ) :
    Fades net (net.setDisconnectedHandler ch handler) :=
  modify net ch fun _ => rfl

theorem disconnect (net : Net μ δ τ) (ch : Ref) : Fades net (net.disconnect ch) := by
  obtain ⟨-, met, -, hoff⟩ := disconnect_meets net ch
  constructor
  · exact Nat.le_of_eq hoff.next.symm
  · intro r _ hr
    unfold connected at hr ⊢
    rw [hoff.channels]
    split
    · cases net.channels.get r <;> simp [switchOff]
    · exact hr

theorem destroy (net : Net μ δ τ) (ch : Ref) : Fades net (net.destroy ch) := by
  have hpeer : Fades net (net.disconnectPeer ch) := by
    unfold disconnectPeer
    split
    · exact of_channels rfl
    · exact disconnect net _
  refine hpeer.trans ⟨Nat.le_refl _, ?_⟩
  intro r _ hr
  unfold connected at hr ⊢
  by_cases hch : r = ch
  · subst hch
    simp [Net.destroy]
  · simpa [Net.destroy, hch] using hr

end Fades
end Net

namespace World

structure Later (w w' : World η) : Prop where
  net : w.net.Fades w'.net
  connections : w.connections.next ≤ w'.connections.next
  channel : ∀ m b, m < w.connections.next → w'.connectionChannel m = some b →
    w.connectionChannel m = some b

namespace Later
variable {w w' w'' : World η}

theorem of_connections (hnet : w.net.Fades w'.net) (hconnections : w'.connections = w.connections) :
    Later w w' := by
  refine ⟨hnet, by rw [hconnections], ?_⟩
  intro m b _ hb
  rwa [connectionChannel, hconnections] at hb

theorem of_net (hnet : w'.net = w.net) (hconnections : w'.connections = w.connections) :
    Later w w' :=
  of_connections (.of_channels (by rw [hnet])) hconnections

theorem refl (w : World η) : Later w w := of_net rfl rfl

theorem trans (h : Later w w') (h' : Later w' w'') : Later w w'' := by
  refine ⟨h.net.trans h'.net, h.connections.trans h'.connections, ?_⟩
  intro m b hm hb
  exact h.channel m b hm (h'.channel m b (Nat.lt_of_lt_of_le hm h.connections) hb)

/-- Whatever leaves the channel of the connection alone. -/
theorem modify_connection (w : World η) (n : Ref) {f : ConnectionMock η → ConnectionMock η}
    (hf : ∀ conn, (f conn).channel = conn.channel) :
    Later w { w with connections := w.connections.modify n f } := by
  refine ⟨.of_channels rfl, Nat.le_refl _, ?_⟩
  intro m b _ hb
  obtain ⟨conn', hconn', hb⟩ := Option.bind_eq_some_iff.mp hb
  obtain ⟨conn, hconn, rfl⟩ := Heap.get_modify_eq_some.mp hconn'
  rw [connectionChannel, hconn, Option.bind_some]
  split at hb
  · rwa [hf] at hb
  · exact hb

theorem free_connection (w : World η) (n : Ref) :
    Later w { w with connections := w.connections.free n } := by
  refine ⟨.of_channels rfl, Nat.le_refl _, ?_⟩
  intro m b _ hb
  obtain ⟨conn, hconn, hb⟩ := Option.bind_eq_some_iff.mp hb
  rw [connectionChannel, (Heap.get_free_eq_some.mp hconn).2]
  exact hb

theorem opened (w : World η) (s : Ref) (task : ConnectToServerTask) : Later w (w.opened s task) := by
  constructor
  · constructor
    · exact Nat.le_succ_of_le (Nat.le_succ _)
    · intro r hr hoff
      have hne : r ≠ w.net.channels.next := Nat.ne_of_lt hr
      have hne' : r ≠ w.net.channels.next + 1 := Nat.ne_of_lt (Nat.lt_succ_of_lt hr)
      have hget : (w.opened s task).net.channels.get r = w.net.channels.get r :=
        (Heap.get_alloc_of_ne _ _ hne').trans (Heap.get_alloc_of_ne _ _ hne)
      rwa [Net.connected, hget]
  · exact Nat.le_succ _
  · intro m b hm hb
    rwa [connectionChannel, show (w.opened s task).connections.get m = w.connections.get m from
      Heap.get_alloc_of_ne _ _ (Nat.ne_of_lt hm)] at hb

theorem clientSetChannel (w : World η) (c ch : Ref) : Later w (w.clientSetChannel c ch) := by
  unfold World.clientSetChannel
  split
  · exact refl w
  · split
    · exact of_connections (.destroy _ _) rfl
    · exact of_connections ((Net.Fades.setMessageHandler _ ch _).trans
        (Net.Fades.setDisconnectedHandler _ ch _)) rfl

theorem change (w : World η) (change : Change η) : Later w (w.change change) := by
  cases change with
  | popped => exact of_connections (.of_channels rfl) rfl
  | sent ch message => exact of_connections (.of_channels (Net.channels_sendMessage ..)) rfl
  | disconnected ch => exact of_connections (.disconnect _ ch) rfl
  | destroyed ch => exact of_connections (.destroy _ ch) rfl
  | requested c task => exact of_connections (.of_channels rfl) rfl
  | messageHandler owner handler =>
      cases owner with
      | client c =>
          simp only [World.change, clientSetMessageHandler]
          split
          · exact of_net rfl rfl
          next ch _ => exact of_connections (.setMessageHandler _ ch _) rfl
      | connection n =>
          have hset := modify_connection w n (f := fun conn => { conn with messageHandler := handler })
            fun _ => rfl
          simp only [World.change, connectionSetMessageHandler]
          split
          · exact hset
          next ch _ => exact hset.trans (of_connections (.setMessageHandler _ ch _) rfl)
  | disconnectedHandler owner handler =>
      cases owner with
      | client c => exact of_net rfl rfl
      | connection n => exact modify_connection w n fun _ => rfl
  | opened s task => exact opened w s task
  | adopted c q => exact clientSetChannel w c q
  | connectionGone n => exact free_connection w n
  | _ => exact of_net rfl rfl

/-- Nothing comes back, whatever is changed. -/
theorem of_changes {may : Change η → Prop} (h : Changes may w w') : Later w w' :=
  h.lift refl (fun _ _ _ => trans) fun w change _ _ => Later.change w change

theorem perform (I : Iteration) (w : World η) (call : Call η) : Later w (w.perform I call) :=
  of_changes (.perform I w call)

theorem start (w : World η) : Later w w.start := of_changes (.start w)

theorem resume (w : World η) : Later w w.resume := of_changes (.resume w)

theorem run (I : Iteration) (w : World η) (steps : List (WorldStep η)) : Later w (w.run I steps) := by
  induction steps generalizing w with
  | nil => exact refl w
  | cons first steps ih => exact (of_changes (.step I w first)).trans (ih _)

end Later
end World
end DeviceMonitoring
