import DeviceMonitoring.Settled

/-! The calls that neither register nor destroy anything. -/
namespace DeviceMonitoring
variable {η : Type}

/-- The calls that register, unregister, destroy or ask for a connection. -/
def Call.registers : Call η → Bool
  | .bind .. | .connectToHost .. | .destroyClient _ | .listen .. | .serverDisconnect _
  | .destroyServer _ => true
  | _ => false

namespace World

/-- A call that moves no channel, neither registers nor unregisters, and switches off the
channels of `cut` at most. -/
structure Quiet (cut : Ref → Prop) (w w' : World η) : Prop where
  shape : w'.shape = w.shape
  wired : ∀ closing, w.net.Wired closing → w'.net.Wired closing
  joined : ∀ closing a b, w.net.Wired closing → w.net.Joined a b → ¬cut a → ¬cut b →
    w'.net.Joined a b
  others : ∀ task, .other task ∈ w'.net.tasks ↔ .other task ∈ w.net.tasks
  running : w'.running = w.running
  clientsMap : w'.clientsMap = w.clientsMap
  serversMap : w'.serversMap = w.serversMap
  serverIds : w'.servers.view (·.serverId) = w.servers.view (·.serverId)
  requests : w'.requests = w.requests

namespace Quiet
variable {cut : Ref → Prop} {w w' w'' : World η}

theorem refl (w : World η) : Quiet cut w w :=
  ⟨rfl, fun _ h => h, fun _ _ _ _ h _ _ => h, fun _ => Iff.rfl, rfl, rfl, rfl, rfl, rfl⟩

theorem trans (h : Quiet cut w w') (h' : Quiet cut w' w'') : Quiet cut w w'' where
  shape := h'.shape.trans h.shape
  wired closing hw := h'.wired closing (h.wired closing hw)
  joined closing a b hw hj ha hb :=
    h'.joined closing a b (h.wired closing hw) (h.joined closing a b hw hj ha hb) ha hb
  others task := (h'.others task).trans (h.others task)
  running := h'.running.trans h.running
  clientsMap := h'.clientsMap.trans h.clientsMap
  serversMap := h'.serversMap.trans h.serversMap
  serverIds := h'.serverIds.trans h.serverIds
  requests := h'.requests.trans h.requests

theorem consistent (h : Quiet cut w w') {floating closing : Option Ref}
    (hw : w.Consistent floating closing) : w'.Consistent floating closing := by
  constructor
  · exact h.wired closing hw.wired
  · rw [h.shape]
    exact hw.owned
  · rw [h.shape, h.clientsMap]
    exact hw.clientsMap
  · rw [h.serversMap, h.serverIds]
    exact hw.serversMap

theorem settled (h : Quiet cut w w') (hw : w.Settled) : w'.Settled := by
  obtain ⟨floating, closing, hsituation, hconsistent⟩ := hw
  refine ⟨floating, closing, ?_, h.consistent hconsistent⟩
  rw [h.shape, h.running]
  exact hsituation

theorem sendMessage (w : World η) (ch : Ref) (message : Bytes) :
    Quiet cut w { w with net := w.net.sendMessage ch message } := by
  have htasks : ∃ l, (w.net.sendMessage ch message).tasks = w.net.tasks ++ l ∧
      ∀ task ∈ l, ∃ p, task = .sendMessage message p := by
    unfold Net.sendMessage
    split
    · split
      · exact ⟨[], (List.append_nil _).symm, by simp⟩
      next p _ =>
        split
        · exact ⟨[.sendMessage message p], rfl, by simp⟩
        · exact ⟨[], (List.append_nil _).symm, by simp⟩
    · exact ⟨[], (List.append_nil _).symm, by simp⟩
  obtain ⟨l, hl, hsend⟩ := htasks
  have hmem : ∀ task, (∀ p, task ≠ .sendMessage message p) →
      (task ∈ (w.net.sendMessage ch message).tasks ↔ task ∈ w.net.tasks) := by
    intro task htask
    rw [hl, List.mem_append]
    refine or_iff_left fun h => ?_
    obtain ⟨p, hp⟩ := hsend task h
    exact htask p hp
  refine ⟨?_, ?_, ?_, fun task => hmem _ (by simp), rfl, rfl, rfl, rfl, rfl⟩
  · unfold World.shape
    simp only [Net.channels_sendMessage]
    rfl
  · intro closing hw
    refine hw.congr (fun _ => by rw [Net.channels_sendMessage]) (by rw [Net.channels_sendMessage]) ?_
    exact fun a => hmem _ (by simp)
  · intro _ a b _ hj _ _
    exact hj.congr fun _ _ => by rw [Net.channels_sendMessage]

theorem setMessageHandler (w : World η) (ch : Ref) (handler : Option η) :
    Quiet cut w { w with net := w.net.setMessageHandler ch handler } := by
  refine ⟨?_, ?_, ?_, fun _ => Iff.rfl, rfl, rfl, rfl, rfl, rfl⟩
  · unfold World.shape Net.setMessageHandler
    rw [Heap.view_modify_of_keep]
    · rfl
    · intro c
      rfl
  · intro closing hw
    exact hw.congr (fun a => Heap.map_get_modify _ _ _ fun _ => rfl) rfl fun _ => Iff.rfl
  · intro _ a b _ hj _ _
    exact hj.congr fun x _ => Heap.map_get_modify _ _ _ fun _ => rfl

theorem disconnect (w : World η) {ch : Ref} (hch : cut ch) :
    Quiet cut w { w with net := w.net.disconnect ch } := by
  refine ⟨?_, ?_, ?_, ?_, rfl, rfl, rfl, rfl, rfl⟩
  · unfold World.shape
    rw [Net.view_disconnect]
    rfl
  · intro closing hw
    exact hw.disconnect ch
  · intro closing a b hw hj ha hb
    refine hj.disconnect hw ⟨?_, ?_⟩
    · rintro rfl
      exact ha hch
    · rintro rfl
      exact hb hch
  · exact w.net.other_mem_disconnect ch

theorem modify_client (w : World η) (c : Ref)
    {f : ClientConnectionMock η → ClientConnectionMock η} (hf : ∀ client, (f client).toEnd = client.toEnd) :
    Quiet cut w { w with clients := w.clients.modify c f } := by
  refine ⟨?_, fun _ h => h, fun _ _ _ _ h _ _ => h, fun _ => Iff.rfl, rfl, rfl, rfl, rfl, rfl⟩
  unfold World.shape
  simp only [Heap.view_modify_of_keep w.clients _ c hf]
  rfl

theorem modify_connection (w : World η) (n : Ref) {f : ConnectionMock η → ConnectionMock η}
    (hf : ∀ conn, (f conn).toEnd = conn.toEnd) :
    Quiet cut w { w with connections := w.connections.modify n f } := by
  refine ⟨?_, fun _ h => h, fun _ _ _ _ h _ _ => h, fun _ => Iff.rfl, rfl, rfl, rfl, rfl, rfl⟩
  unfold World.shape
  simp only [Heap.view_modify_of_keep w.connections _ n hf]
  rfl

end Quiet

theorem quiet_connectionDisconnect {cut : Ref → Prop} (w : World η) (n : Ref)
    (hcut : ∀ b, w.connectionChannel n = some b → cut b) : Quiet cut w (w.connectionDisconnect n) := by
  unfold connectionDisconnect
  split
  next => exact Quiet.refl w
  next b hb => exact Quiet.disconnect w (hcut b hb)

theorem connectionChannel_congr {w w' : World η} (h : w'.shape = w.shape) (n : Ref) :
    w'.connectionChannel n = w.connectionChannel n := by
  ext b
  rw [connectionChannel_eq_some, connectionChannel_eq_some, h]

/-- The loop of `ConnectionServerMock::disconnect`. -/
theorem quiet_disconnectAll (cut : Ref → Prop) (w : World η)
    (entries : List (Sigma fun _ : UInt64 => Ref))
    (hcut : ∀ e ∈ entries, ∀ b, w.connectionChannel e.2 = some b → cut b) :
    Quiet cut w (entries.foldl (fun w e => w.connectionDisconnect e.2) w) := by
  induction entries generalizing w with
  | nil => exact Quiet.refl w
  | cons e entries ih =>
      have hstep := quiet_connectionDisconnect w e.2 (hcut e List.mem_cons_self)
      refine hstep.trans (ih _ ?_)
      intro e' he' b hb
      rw [connectionChannel_congr hstep.shape] at hb
      exact hcut e' (List.mem_cons_of_mem _ he') b hb

/-- The channels that a call switches off. -/
def cuts (w : World η) : Call η → Ref → Prop
  | .clientDisconnect c, a => w.clientChannel c = some a
  | .connectionDisconnect n, a => w.connectionChannel n = some a
  | _, _ => False

theorem quiet_perform (I : Iteration) (w : World η) {call : Call η} (hcall : call.registers = false) :
    Quiet (w.cuts call) w (w.perform I call) := by
  cases call with
  | bind c clientId => cases hcall
  | connectToHost c serverId => cases hcall
  | destroyClient c => cases hcall
  | listen s serverId => cases hcall
  | serverDisconnect s => cases hcall
  | destroyServer s => cases hcall
  | clientDisconnect c =>
      simp only [perform, clientDisconnect]
      split
      next => exact Quiet.refl w
      next a ha => exact Quiet.disconnect w ha
  | clientSendMessage c message =>
      simp only [perform, clientSendMessage]
      split
      · exact Quiet.refl w
      · exact Quiet.sendMessage w _ message
  | clientSetMessageHandler c handler =>
      have hset : Quiet (w.cuts (.clientSetMessageHandler c handler)) w
          { w with clients := w.clients.modify c fun client =>
            { client with messageHandler := handler } } := Quiet.modify_client w c fun _ => rfl
      simp only [perform, clientSetMessageHandler]
      split
      · exact hset
      · exact hset.trans (Quiet.setMessageHandler _ _ handler)
  | clientSetDisconnectedHandler c handler => exact Quiet.modify_client w c fun _ => rfl
  | setConnectedHandler c handler => exact Quiet.modify_client w c fun _ => rfl
  | connectionDisconnect n => exact quiet_connectionDisconnect w n fun _ hb => hb
  | connectionSendMessage n message =>
      simp only [perform, connectionSendMessage]
      split
      · exact Quiet.refl w
      · exact Quiet.sendMessage w _ message
  | connectionSetMessageHandler n handler =>
      have hset : Quiet (w.cuts (.connectionSetMessageHandler n handler)) w
          { w with connections := w.connections.modify n fun conn =>
            { conn with messageHandler := handler } } := Quiet.modify_connection w n fun _ => rfl
      simp only [perform, connectionSetMessageHandler]
      split
      · exact hset
      · exact hset.trans (Quiet.setMessageHandler _ _ handler)
  | connectionSetDisconnectedHandler n handler => exact Quiet.modify_connection w n fun _ => rfl
  | setNewConnectionHandler s handler =>
      refine ⟨?_, fun _ h => h, fun _ _ _ _ h _ _ => h, fun _ => Iff.rfl, rfl, rfl, rfl, ?_, rfl⟩
      · have hentry : (w.perform I (.setNewConnectionHandler s handler)).connection = w.connection :=
          connection_congr (Heap.view_modify_of_keep _ _ _ fun _ => rfl)
        unfold shape
        rw [hentry]
        rfl
      · exact Heap.view_modify_of_keep _ _ _ fun _ => rfl

theorem settled_connectToHost {w : World η} (h : w.Settled) (c : Ref) (serverId : UInt64) :
    (w.connectToHost c serverId).2.Settled := by
  unfold connectToHost
  split
  next => exact h
  next client _ =>
    split
    next => exact h
    next =>
      obtain ⟨floating, closing, hsituation, hw⟩ := h
      refine ⟨floating, closing, hsituation, ?_, hw.owned, hw.clientsMap, hw.serversMap⟩
      exact hw.wired.congr (fun _ => rfl) rfl fun a => by simp

end World

end DeviceMonitoring
