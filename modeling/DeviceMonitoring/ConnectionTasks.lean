import DeviceMonitoring.ConnectionCalls

/-! What the tasks of the queue do to the wiring and the ownership: a pair of channels
is opened, given to a connection and to a client, and closed end by end. -/
namespace DeviceMonitoring
variable {η : Type}
namespace World

/-- The client gives up the channel whose disconnect task runs. -/
theorem settled_clientOnDisconnected {w : World η} {a c : Ref} {k : UInt64}
    (hw : w.Consistent none (some a)) (hrunning : w.running = none)
    (hc : w.shape.client c = some (k, some a)) : (w.clientOnDisconnected c).Settled := by
  have hworld : w.clientOnDisconnected c = { w with
      net := w.net.destroy a
      clients := w.clients.modify c fun client => { client with channel := none } } := by
    unfold clientOnDisconnected
    rw [clientChannel_eq_some.mpr ⟨k, hc⟩]
  have hshape : (w.clientOnDisconnected c).shape =
      (w.shape.setChannel a none).setClient c (some (k, none)) := by
    obtain ⟨client, hget, hclient⟩ := (Heap.view_eq_some _ _).mp hc
    rw [ClientConnectionMock.toEnd, Prod.mk.injEq] at hclient
    obtain ⟨rfl, -⟩ := hclient
    rw [hworld]
    unfold shape Shape.setClient Shape.setChannel
    rw [Heap.view_modify, Net.view_destroy, hget]
    rfl
  refine ⟨none, none, ?_, ?_, ?_, ?_, ?_⟩
  · rw [hworld, show ({ w with
      net := w.net.destroy a
      clients := w.clients.modify c fun client => { client with channel := none } } :
        World η).running = none from hrunning]
    exact ⟨rfl, rfl⟩
  · rw [hworld]
    apply hw.wired.destroy a
    intro x
    simp [eq_comm]
  · rw [hshape]
    exact hw.owned.dropClientChannel hc (by simp)
  · rw [hshape, hworld, Shape.clientIds_keep (σ := w.shape.setChannel a none) hc]
    exact hw.clientsMap
  · rw [hworld]
    exact hw.serversMap

theorem connectionPeerId_eq {w : World η} {n s b : Ref} {e : ChannelEnd}
    (hn : w.shape.connection n = some (s, some b)) (he : w.shape.channel b = some e) :
    w.connectionPeerId n = e.peerId := by
  obtain ⟨channel, hget, rfl⟩ := (Heap.view_eq_some _ _).mp he
  unfold connectionPeerId
  rw [connectionChannel_eq_some.mpr ⟨s, hn⟩]
  simp only [hget]
  rfl

/-- The server gives up the connection whose disconnect task runs. -/
theorem settled_connectionClosed {w : World η} {n s b : Ref} (hw : w.Consistent none (some b))
    (hrunning : w.running = none) (hn : w.shape.connection n = some (s, some b)) :
    (w.serverOnDisconnected s (w.connectionPeerId n)).Settled := by
  obtain ⟨b', e, hb', he, -, hentry⟩ := hw.owned.connection_owns n s _ hn
  cases hb'
  rw [connectionPeerId_eq hn he]
  have hclosing : ∀ x, (none : Option Ref) = some x ↔ some b = some x ∧ x ≠ b := by
    intro x
    simp [eq_comm]
  refine ⟨none, none, ?_, consistent_serverOnDisconnected hw hentry hn hclosing⟩
  rw [running_serverOnDisconnected, hrunning]
  exact ⟨rfl, rfl⟩

/-- The client end of a new pair finds its client. -/
theorem settled_clientSetChannel {w : World η} {q c : Ref} {k : UInt64} {x : Option Ref}
    {e : ChannelEnd} (hw : w.Consistent (some q) none) (hrunning : w.running = none)
    (he : w.shape.channel q = some e) (ho : e.owner = none)
    (hc : w.shape.client c = some (k, x)) (hfaces : w.shape.FacesConnection k e) :
    (w.clientSetChannel c q).Settled := by
  obtain ⟨client, hget, hclient⟩ := (Heap.view_eq_some _ _).mp hc
  cases hclient
  cases hch : client.channel with
  | some a =>
      have hworld : w.clientSetChannel c q = { w with net := w.net.destroy q } := by
        simp only [clientSetChannel, hget, hch]
      have hshape : (w.clientSetChannel c q).shape = w.shape.setChannel q none := by
        rw [hworld]
        unfold shape Shape.setChannel
        rw [Net.view_destroy]
        rfl
      refine ⟨none, none, ?_, ?_, ?_, ?_, ?_⟩
      · rw [hworld, hrunning]
        exact ⟨rfl, rfl⟩
      · rw [hworld]
        apply hw.wired.destroy q
        simp
      · rw [hshape]
        exact hw.owned.dropFloating he ho
      · rw [hshape, hworld]
        exact hw.clientsMap
      · rw [hworld]
        exact hw.serversMap
  | none =>
      rw [hch] at hc
      obtain ⟨channel, hchannel, rfl⟩ := (Heap.view_eq_some _ _).mp he
      have hworld : w.clientSetChannel c q = { w with
          clients := w.clients.modify c fun client => { client with channel := some q }
          net := (w.net.setMessageHandler q client.messageHandler).setDisconnectedHandler q
            (some (.client c))
          running := client.connectedHandler.map fun handler => (.connected handler, .notified c) } := by
        simp only [clientSetChannel, hget, hch]
      have hshape : (w.clientSetChannel c q).shape =
          (w.shape.setChannel q (some { channelEnd channel with owner := some (.client c) })).setClient c
            (some (client.clientId, some q)) := by
        rw [hworld]
        unfold shape Shape.setClient Shape.setChannel
        simp only [Net.setMessageHandler, Net.setDisconnectedHandler, Heap.view_modify, hget,
          Heap.get_modify_self, hchannel, Function.update_idem]
        rfl
      refine ⟨none, none, ?_, ?_, ?_, ?_, ?_⟩
      · rw [hworld]
        cases client.connectedHandler <;> exact ⟨rfl, rfl⟩
      · rw [hworld]
        have hhandler : (w.net.setMessageHandler q client.messageHandler).Wired none :=
          hw.wired.congr (fun a => Heap.map_get_modify _ _ _ fun _ => rfl) rfl fun _ => Iff.rfl
        exact hhandler.congr (fun a => Heap.map_get_modify _ _ _ fun _ => rfl) rfl fun _ => Iff.rfl
      · rw [hshape]
        exact hw.owned.adopt hc he ho hfaces
      · rw [hshape, hworld, Shape.clientIds_keep (σ := w.shape.setChannel q _) hc]
        exact hw.clientsMap
      · rw [hworld]
        exact hw.serversMap

/-! `ConnectToServerTask` -/

/-- A pair of new channels, connected to each other. -/
theorem connect_alloc {μ δ τ : Type} (net : Net μ δ τ) (c d : ConnectionChannel μ δ) :
    (({ net with channels := (net.channels.alloc c).alloc d } : Net μ δ τ).connect net.channels.next
      (net.channels.next + 1)).connect (net.channels.next + 1) net.channels.next =
    { net with
      channels := (net.channels.alloc
        { c with peerChannel := some (net.channels.next + 1), connected := true }).alloc
        { d with peerChannel := some net.channels.next, connected := true } } := by
  unfold Net.connect
  rw [Heap.modify_alloc_alloc]
  congr 1
  exact Heap.modify_alloc (net.channels.alloc _) d _

/-- What `connect` asserts holds of two new channels. -/
theorem connectAllowed_alloc {μ δ τ : Type} (net : Net μ δ τ) (peerId peerId' : UInt64) :
    let net' : Net μ δ τ :=
      { net with channels := (net.channels.alloc { peerId }).alloc { peerId := peerId' } }
    net'.connectAllowed net.channels.next (net.channels.next + 1) = true ∧
      (net'.connect net.channels.next (net.channels.next + 1)).connectAllowed (net.channels.next + 1)
        net.channels.next = true := by
  intro net'
  have hfirst : net'.channels.get net.channels.next = some { peerId } :=
    (Heap.get_alloc_of_ne _ _ (Nat.ne_of_lt (Nat.lt_succ_self _))).trans (Heap.get_alloc_next ..)
  have hsecond : (net'.connect net.channels.next (net.channels.next + 1)).channels.get
      (net.channels.next + 1) = some { peerId := peerId' } :=
    (Heap.get_modify_of_ne _ _ (Nat.succ_ne_self _)).trans
      (Heap.get_alloc_next (net.channels.alloc { peerId }) _)
  constructor
  · simp [Net.connectAllowed, Net.peer, hfirst]
  · simp [Net.connectAllowed, Net.peer, hsecond]

/-- The pair is open, and the server's end belongs to a new connection. -/
def opened (w : World η) (s : Ref) (task : ConnectToServerTask) : World η :=
  { w with
    net := { w.net with
      channels := (w.net.channels.alloc
        { peerId := task.clientId
          disconnectedHandler := some (.connection w.connections.next)
          peerChannel := some (w.net.channels.next + 1)
          connected := true }).alloc
        { peerId := task.serverId
          peerChannel := some w.net.channels.next
          connected := true } }
    connections := w.connections.alloc { server := s, channel := some w.net.channels.next } }

theorem connectToServer_eq {w : World η} (task : ConnectToServerTask) {s c : Ref}
    (hs : w.serversMap task.serverId = some s) (hc : w.clientsMap task.clientId = some c) :
    w.connectToServer task =
      let w' := (w.opened s task).addConnection s w.connections.next
        (.connecting (w.net.channels.next + 1) c s)
      if w'.running.isSome then w' else w'.clientSetChannel c (w.net.channels.next + 1) := by
  unfold connectToServer
  rw [hs, hc]
  simp only [connect_alloc, addChannel, connectionSetChannel, Heap.get_alloc_next, Heap.modify_alloc,
    Net.setMessageHandler, Net.setDisconnectedHandler, Heap.modify_alloc_alloc]
  rfl

section Opened
variable (w : World η) (s : Ref) (task : ConnectToServerTask)

theorem connectionChannel_opened :
    (w.opened s task).connectionChannel w.connections.next = some w.net.channels.next := by
  unfold connectionChannel opened
  rw [Heap.get_alloc_next]
  rfl

theorem get_opened :
    (w.opened s task).net.channels.get w.net.channels.next = some
      { peerId := task.clientId
        disconnectedHandler := some (.connection w.connections.next)
        peerChannel := some (w.net.channels.next + 1)
        connected := true } :=
  (Heap.get_alloc_of_ne _ _ (Nat.succ_ne_self _).symm).trans (Heap.get_alloc_next ..)

theorem connectionPeerId_opened :
    (w.opened s task).connectionPeerId w.connections.next = task.clientId := by
  unfold connectionPeerId
  rw [connectionChannel_opened]
  simp only [get_opened]
  rfl

theorem wired_opened {w : World η} (hw : w.net.Wired none) : (w.opened s task).net.Wired none :=
  hw.opened _ _ ⟨rfl, rfl⟩ ⟨rfl, rfl⟩

/-- The two ends, as the client's end is concerned. -/
def clientSide : ChannelEnd :=
  ⟨task.serverId, none, some w.net.channels.next⟩

def serverSide : ChannelEnd :=
  ⟨task.clientId, some (.connection w.connections.next), some (w.net.channels.next + 1)⟩

theorem shape_opened : (w.opened s task).shape =
    { w.shape with
      channel := Function.update (Function.update w.shape.channel w.net.channels.next
        (some (serverSide w task))) (w.net.channels.next + 1) (some (clientSide w task))
      connection := Function.update w.shape.connection w.connections.next
        (some (s, some w.net.channels.next)) } := by
  unfold opened shape
  simp only [Heap.view_alloc]
  rfl

theorem channel_next {r : Ref} (hr : w.net.channels.next ≤ r) :
    w.shape.channel r = none := by
  unfold shape Heap.view
  simp only [Heap.get_of_next_le _ hr]
  rfl

/-- No channel is opposite to one that is still to come. -/
theorem peer_ne_new {w : World η} (hw : w.net.Wired none) {r : Ref} (hr : w.net.channels.next ≤ r) :
    ∀ a f, w.shape.channel a = some f → f.peer ≠ some r := by
  intro a f hf hpeer
  obtain ⟨channel, hget, rfl⟩ := (Heap.view_eq_some _ _).mp hf
  obtain ⟨b, hb, -, hlt, -⟩ := hw.paired a channel hget
  have hbr : some b = some r := hb.symm.trans hpeer
  cases hbr
  exact Nat.lt_irrefl _ (Nat.lt_of_lt_of_le hlt hr)

theorem owned_clientSide {w : World η} (hw : w.Consistent none none) :
    (w.shape.setChannel (w.net.channels.next + 1) (some (clientSide w task))).Owned
      (some (w.net.channels.next + 1)) :=
  hw.owned.addFloating (channel_next w (Nat.le_succ _)) (peer_ne_new hw.wired (Nat.le_succ _)) rfl

variable {w s}

/-- The server has a connection under the key already: the new one goes at once. -/
theorem addConnection_taken {server : ConnectionServerMock η} {m : Ref} (next : Moment)
    (hserver : w.servers.get s = some server) (htaken : w.connection s task.clientId = some m) :
    (w.opened s task).addConnection s w.connections.next next =
      (w.opened s task).destroyConnection w.connections.next := by
  have hlookup : (server.connections.lookup task.clientId).isSome = true := by
    unfold connection at htaken
    rw [hserver, Option.bind_some] at htaken
    rw [htaken, Option.isSome_some]
  have hget : (w.opened s task).servers.get s = some server := hserver
  rw [← connectionPeerId_opened w s task] at hlookup
  unfold addConnection
  rw [hget]
  exact if_pos hlookup

theorem addConnection_free {server : ConnectionServerMock η} (next : Moment)
    (hserver : w.servers.get s = some server) (hfree : w.connection s task.clientId = none) :
    (w.opened s task).addConnection s w.connections.next next =
      { w.opened s task with
        servers := w.servers.modify s fun server =>
          { server with connections := server.connections.insert task.clientId w.connections.next }
        running := server.newConnectionHandler.map fun handler =>
          (.newConnection handler w.connections.next, next) } := by
  have hlookup : ¬(server.connections.lookup task.clientId).isSome = true := by
    unfold connection at hfree
    rw [hserver, Option.bind_some] at hfree
    rw [hfree]
    simp
  have hget : (w.opened s task).servers.get s = some server := hserver
  rw [← connectionPeerId_opened w s task] at hlookup
  unfold addConnection
  rw [hget]
  refine (if_neg hlookup).trans ?_
  simp only [connectionPeerId_opened]
  rfl

theorem shape_addConnection_taken {server : ConnectionServerMock η} {m : Ref} (next : Moment)
    (hserver : w.servers.get s = some server) (htaken : w.connection s task.clientId = some m) :
    ((w.opened s task).addConnection s w.connections.next next).shape =
      w.shape.setChannel (w.net.channels.next + 1) (some (clientSide w task)) := by
  have hworld : (w.opened s task).destroyConnection w.connections.next =
      { w.opened s task with
        net := (w.opened s task).net.destroy w.net.channels.next
        connections := (w.opened s task).connections.free w.connections.next } := by
    simp only [destroyConnection, connectionChannel_opened]
  have hchannel : Function.update (w.opened s task).shape.channel w.net.channels.next none =
      Function.update w.shape.channel (w.net.channels.next + 1) (some (clientSide w task)) := by
    have hold : Function.update w.shape.channel w.net.channels.next none = w.shape.channel :=
      Function.update_eq_self_iff.mpr (channel_next w (Nat.le_refl _)).symm
    rw [shape_opened]
    simp only
    rw [Function.update_comm (Nat.succ_ne_self _), Function.update_idem, hold]
  have hconnection : Function.update (w.opened s task).shape.connection w.connections.next none =
      w.shape.connection := by
    rw [shape_opened]
    simp only
    rw [Function.update_idem, Function.update_eq_self_iff]
    exact (w.connections.view_next _).symm
  rw [addConnection_taken task next hserver htaken, hworld]
  unfold shape at hchannel hconnection ⊢
  unfold Shape.setChannel
  simp only at hchannel hconnection ⊢
  rw [Heap.view_free, Net.view_destroy, hchannel, hconnection]
  rfl

theorem shape_addConnection_free {server : ConnectionServerMock η} (next : Moment)
    (hserver : w.servers.get s = some server) (hfree : w.connection s task.clientId = none) :
    ((w.opened s task).addConnection s w.connections.next next).shape =
      (w.shape.setChannel (w.net.channels.next + 1) (some (clientSide w task))).addConnection s
        w.connections.next w.net.channels.next (serverSide w task) := by
  rw [addConnection_free task next hserver hfree]
  have hentry := connection_insert w { w.opened s task with
      servers := w.servers.modify s fun server =>
        { server with connections := server.connections.insert task.clientId w.connections.next }
      running := server.newConnectionHandler.map fun handler =>
        (.newConnection handler w.connections.next, next) } hserver rfl
  have hchannel : (w.opened s task).shape.channel =
      Function.update (Function.update w.shape.channel (w.net.channels.next + 1)
        (some (clientSide w task))) w.net.channels.next (some (serverSide w task)) := by
    rw [shape_opened]
    exact Function.update_comm (Nat.succ_ne_self _).symm _ _ _
  have hconnection := congrArg Shape.connection (shape_opened w s task)
  unfold shape at hchannel hconnection ⊢
  unfold Shape.setChannel Shape.addConnection
  simp only at hchannel hconnection ⊢
  rw [hchannel, hconnection, hentry]
  rfl

/-- The server has its end, or none; the client's end is on its way. -/
theorem consistent_addConnection (hw : w.Consistent none none) (next : Moment)
    (hs : w.serversMap task.serverId = some s) :
    ((w.opened s task).addConnection s w.connections.next next).Consistent
      (some (w.net.channels.next + 1)) none := by
  obtain ⟨-, hid⟩ := (hw.serversMap _ s).mp hs
  obtain ⟨server, hserver, -⟩ := (Heap.view_eq_some _ _).mp hid
  cases hentry : w.connection s task.clientId with
  | some m =>
      have hworld := addConnection_taken task next hserver hentry
      have hshape := shape_addConnection_taken task next hserver hentry
      constructor
      · rw [hworld]
        simp only [destroyConnection, connectionChannel_opened]
        apply (wired_opened s task hw.wired).destroy
        simp
      · rw [hshape]
        exact owned_clientSide task hw
      · rw [hshape, hworld]
        exact hw.clientsMap
      · rw [hworld]
        exact hw.serversMap
  | none =>
      have hworld := addConnection_free task next hserver hentry
      have hshape := shape_addConnection_free task next hserver hentry
      constructor
      · rw [hworld]
        exact wired_opened s task hw.wired
      · rw [hshape]
        have hserverSide : (w.shape.setChannel (w.net.channels.next + 1)
            (some (clientSide w task))).entry s (serverSide w task).peerId = none := hentry
        refine (owned_clientSide task hw).addConnection ?_ (w.connections.view_next _) hserverSide rfl rfl
          rfl ?_
        · exact (Function.update_of_ne (Nat.succ_ne_self _).symm _ _).trans
            (channel_next w (Nat.le_refl _))
        · intro a f hf ho
          rcases Shape.update_eq_some.mp hf with ⟨-, hf⟩ | ⟨-, hf⟩
          · cases hf
            exact absurd rfl ho
          · exact peer_ne_new hw.wired (Nat.le_refl _) a f hf
      · rw [hshape, hworld]
        exact hw.clientsMap
      · rw [hworld]
        have hids : (w.servers.modify s fun server => { server with
            connections := server.connections.insert task.clientId w.connections.next }).view
              (·.serverId) = w.servers.view (·.serverId) :=
          Heap.view_modify_of_keep _ _ _ fun _ => rfl
        rw [hids]
        exact hw.serversMap

/-- The client's end, when the server has done its part. -/
theorem clientSide_addConnection (next : Moment) {server : ConnectionServerMock η}
    (hserver : w.servers.get s = some server) :
    ((w.opened s task).addConnection s w.connections.next next).shape.channel
        (w.net.channels.next + 1) = some (clientSide w task) ∧
      ((w.opened s task).addConnection s w.connections.next next).shape.client = w.shape.client ∧
      ((w.opened s task).addConnection s w.connections.next next).shape.FacesConnection
        task.clientId (clientSide w task) := by
  cases hentry : w.connection s task.clientId with
  | some m =>
      rw [shape_addConnection_taken task next hserver hentry]
      refine ⟨Function.update_self .., rfl, ?_⟩
      intro b f hb hf
      cases hb
      rw [show (w.shape.setChannel (w.net.channels.next + 1) (some (clientSide w task))).channel
        w.net.channels.next = none from (Function.update_of_ne (Nat.succ_ne_self _).symm _ _).trans
          (channel_next w (Nat.le_refl _))] at hf
      cases hf
  | none =>
      rw [shape_addConnection_free task next hserver hentry]
      refine ⟨(Function.update_of_ne (Nat.succ_ne_self _) _ _).trans (Function.update_self ..), rfl, ?_⟩
      intro b f hb hf
      cases hb
      cases (Function.update_self (β := fun _ => Option ChannelEnd) w.net.channels.next
        (some (serverSide w task)) _).symm.trans hf
      exact ⟨rfl, w.connections.next, rfl⟩

theorem running_addConnection (next : Moment) {server : ConnectionServerMock η}
    (hserver : w.servers.get s = some server) (hrunning : w.running = none) :
    ∀ running, ((w.opened s task).addConnection s w.connections.next next).running = some running →
      running.2 = next := by
  intro running hrun
  cases hentry : w.connection s task.clientId with
  | some m =>
      rw [addConnection_taken task next hserver hentry] at hrun
      rw [show ((w.opened s task).destroyConnection w.connections.next).running = none from hrunning] at hrun
      cases hrun
  | none =>
      rw [addConnection_free task next hserver hentry] at hrun
      obtain ⟨handler, -, rfl⟩ := Option.map_eq_some_iff.mp hrun
      rfl

end Opened

theorem settled_connectToServer {w : World η} (hw : w.Consistent none none)
    (hrunning : w.running = none) (task : ConnectToServerTask) : (w.connectToServer task).Settled := by
  have hsettled : w.Settled := ⟨none, none, by rw [hrunning]; exact ⟨rfl, rfl⟩, hw⟩
  cases hs : w.serversMap task.serverId with
  | none =>
      unfold connectToServer
      rw [hs]
      exact hsettled
  | some s =>
      cases hc : w.clientsMap task.clientId with
      | none =>
          unfold connectToServer
          rw [hs, hc]
          exact hsettled
      | some c =>
          rw [connectToServer_eq task hs hc]
          obtain ⟨-, hkey⟩ := (hw.clientsMap _ c).mp hc
          obtain ⟨⟨k, x⟩, hcend, rfl⟩ := Option.map_eq_some_iff.mp hkey
          obtain ⟨-, hid⟩ := (hw.serversMap _ s).mp hs
          obtain ⟨server, hserver, -⟩ := (Heap.view_eq_some _ _).mp hid
          have hafter := consistent_addConnection task hw
            (.connecting (w.net.channels.next + 1) c s) hs
          obtain ⟨hchannel, hclient, hfaces⟩ := clientSide_addConnection task
            (.connecting (w.net.channels.next + 1) c s) hserver
          have hrunning' := running_addConnection task (.connecting (w.net.channels.next + 1) c s)
            hserver hrunning
          rw [← hclient] at hcend
          simp only
          generalize (w.opened s task).addConnection s w.connections.next
            (.connecting (w.net.channels.next + 1) c s) = w' at *
          cases hrun : w'.running with
          | none => exact settled_clientSetChannel hafter hrun hchannel rfl hcend hfaces
          | some running =>
              show w'.Settled
              refine ⟨_, none, ?_, hafter⟩
              rw [hrun, Option.map_some, hrunning' running hrun]
              exact ⟨rfl, rfl, clientSide w task, task.clientId, x, hchannel, rfl, hcend, hfaces⟩

/-! `processTask` -/

/-- A task leaves the queue; `closing` is the live channel that it disconnects. -/
theorem consistent_popped {w : World η} (hw : w.Consistent none none) {task : Task ConnectToServerTask}
    {tasks : List (Task ConnectToServerTask)} (htasks : w.net.tasks = task :: tasks)
    (closing : Option Ref)
    (hclosing : ∀ x, (∃ e, w.shape.channel x = some e) → (task = .disconnect x ↔ closing = some x))
    (hlive : ∀ x ∈ closing, ∃ e, w.shape.channel x = some e) :
    ({ w with net := { w.net with tasks } } : World η).Consistent none closing := by
  refine ⟨?_, hw.owned, hw.clientsMap, hw.serversMap⟩
  apply hw.wired.popped htasks
  · rintro x ⟨channel, hget⟩
    exact hclosing x ⟨_, (Heap.view_eq_some _ _).mpr ⟨channel, hget, rfl⟩⟩
  · intro x hx
    obtain ⟨e, he⟩ := hlive x hx
    obtain ⟨channel, hget, -⟩ := (Heap.view_eq_some _ _).mp he
    exact ⟨channel, hget⟩

theorem settled_of_idle {w : World η} (hw : w.Consistent none none) (hrunning : w.running = none) :
    w.Settled := by
  refine ⟨none, none, ?_, hw⟩
  rw [hrunning]
  exact ⟨rfl, rfl⟩

theorem settled_clientDisconnectedHandler {w : World η} {a c : Ref} {k : UInt64}
    (hw : w.Consistent none (some a)) (hrunning : w.running = none)
    (hc : w.shape.client c = some (k, some a)) : (w.clientDisconnectedHandler c).Settled := by
  unfold clientDisconnectedHandler
  split
  · exact settled_clientOnDisconnected hw hrunning hc
  · exact ⟨none, some a, ⟨rfl, k, a, rfl, hc⟩, hw.wired, hw.owned, hw.clientsMap, hw.serversMap⟩

theorem settled_connectionDisconnectedHandler {w : World η} {n s b : Ref}
    (hw : w.Consistent none (some b)) (hrunning : w.running = none)
    (hn : w.shape.connection n = some (s, some b)) : (w.connectionDisconnectedHandler n).Settled := by
  obtain ⟨conn, hconn, hend⟩ := (Heap.view_eq_some _ _).mp hn
  rw [ConnectionMock.toEnd, Prod.mk.injEq] at hend
  obtain ⟨rfl, -⟩ := hend
  unfold connectionDisconnectedHandler
  rw [hconn]
  simp only
  split
  · exact settled_connectionClosed hw hrunning hn
  · exact ⟨none, some b, ⟨rfl, b, rfl, hn⟩, hw.wired, hw.owned, hw.clientsMap, hw.serversMap⟩

/-- No task is started from within a handler. -/
theorem start_busy {w : World η} {running : Invocation η × Moment} (hrun : w.running = some running) :
    w.start = w := by
  unfold start
  rw [hrun]
  rfl

/-- With an empty queue `processTask` does nothing. -/
theorem start_idle {w : World η} (hrun : w.running = none) (htasks : w.net.tasks = []) : w.start = w := by
  unfold start Net.processTask
  rw [hrun, htasks]
  rfl

/-! `processTask`, by what its task comes down to. -/

section Start
variable {w : World η} {task : Task ConnectToServerTask} {tasks : List (Task ConnectToServerTask)}

theorem start_nothing (h : w.running = none) (htasks : w.net.tasks = task :: tasks)
    (hdeliver : w.net.deliver task = .nothing) : w.start = { w with net := { w.net with tasks } } := by
  unfold start Net.processTask
  simp only [h, htasks, hdeliver]
  rfl

theorem start_message (h : w.running = none) (htasks : w.net.tasks = task :: tasks) {handler : η}
    {message : Bytes} (hdeliver : w.net.deliver task = .message handler message) :
    w.start = { w with
      net := { w.net with tasks }
      running := some (.message handler message, .message) } := by
  unfold start Net.processTask
  simp only [h, htasks, hdeliver]
  rfl

theorem start_client (h : w.running = none) (htasks : w.net.tasks = task :: tasks) {c : Ref}
    (hdeliver : w.net.deliver task = .disconnected (.client c)) :
    w.start = ({ w with net := { w.net with tasks } } : World η).clientDisconnectedHandler c := by
  unfold start Net.processTask
  simp only [h, htasks, hdeliver]
  rfl

theorem start_connection (h : w.running = none) (htasks : w.net.tasks = task :: tasks) {n : Ref}
    (hdeliver : w.net.deliver task = .disconnected (.connection n)) :
    w.start = ({ w with net := { w.net with tasks } } : World η).connectionDisconnectedHandler n := by
  unfold start Net.processTask
  simp only [h, htasks, hdeliver]
  rfl

theorem start_other (h : w.running = none) (htasks : w.net.tasks = task :: tasks)
    {request : ConnectToServerTask} (hdeliver : w.net.deliver task = .other request) :
    w.start = ({ w with net := { w.net with tasks } } : World η).connectToServer request := by
  unfold start Net.processTask
  simp only [h, htasks, hdeliver]
  rfl

end Start

theorem settled_start {w : World η} (h : w.Settled) : w.start.Settled := by
  unfold start
  split
  next => exact h
  next hrun =>
    rw [Bool.not_eq_true, Option.isSome_eq_false_iff, Option.isNone_iff_eq_none] at hrun
    obtain ⟨floating, closing, hsituation, hw⟩ := id h
    rw [hrun] at hsituation
    obtain ⟨rfl, rfl⟩ := hsituation
    unfold Net.processTask
    cases htasks : w.net.tasks with
    | nil => exact h
    | cons task tasks =>
        cases task with
        | sendMessage message ch =>
            have hw' := consistent_popped hw htasks none (by simp) (by simp)
            simp only [Net.deliver]
            cases (w.net.channels.get ch).bind (·.messageHandler) with
            | none => exact settled_of_idle hw' hrun
            | some handler =>
                exact ⟨none, none, ⟨rfl, rfl⟩, hw'.wired, hw'.owned, hw'.clientsMap, hw'.serversMap⟩
        | other task =>
            have hw' := consistent_popped hw htasks none (by simp) (by simp)
            exact settled_connectToServer hw' hrun task
        | disconnect ch =>
            simp only [Net.deliver]
            cases hget : w.net.channels.get ch with
            | none =>
                -- the channel is gone, its task has nothing to do
                have hgone : ∀ x, (∃ e, w.shape.channel x = some e) → x ≠ ch := by
                  rintro x ⟨e, he⟩ rfl
                  obtain ⟨channel, hlive, -⟩ := (Heap.view_eq_some _ _).mp he
                  rw [hget] at hlive
                  cases hlive
                have hw' := consistent_popped hw htasks none
                  (fun x hx => by simp [(hgone x hx).symm]) (by simp)
                exact settled_of_idle hw' hrun
            | some channel =>
                have he : w.shape.channel ch = some (channelEnd channel) :=
                  (Heap.view_eq_some _ _).mpr ⟨channel, hget, rfl⟩
                have hw' := consistent_popped hw htasks (some ch) (by simp)
                  (by simpa using ⟨_, he⟩)
                simp only [Option.bind_some]
                cases howner : channel.disconnectedHandler with
                | none => cases hw.owned.ownerless ch _ he howner
                | some owner =>
                    cases owner with
                    | client c =>
                        obtain ⟨k, hc, -⟩ := hw.owned.of_client ch _ c he howner
                        exact settled_clientDisconnectedHandler hw' hrun hc
                    | connection n =>
                        obtain ⟨⟨s, hn⟩, -⟩ := hw.owned.of_connection ch _ n he howner
                        exact settled_connectionDisconnectedHandler hw' hrun hn

theorem settled_resume {w : World η} (h : w.Settled) : w.resume.Settled := by
  unfold resume
  cases hrun : w.running with
  | none => exact h
  | some running =>
      obtain ⟨floating, closing, hsituation, hw⟩ := h
      rw [hrun] at hsituation
      obtain ⟨invocation, moment⟩ := running
      simp only [Option.map_some] at hsituation ⊢
      have hw' : ({ w with running := none } : World η).Consistent floating closing :=
        ⟨hw.wired, hw.owned, hw.clientsMap, hw.serversMap⟩
      cases moment with
      | message =>
          obtain ⟨rfl, rfl⟩ := hsituation
          exact ⟨none, none, ⟨rfl, rfl⟩, hw'⟩
      | notified c =>
          obtain ⟨rfl, rfl⟩ := hsituation
          exact ⟨none, none, ⟨rfl, rfl⟩, hw'⟩
      | closingClient c =>
          obtain ⟨rfl, k, a, rfl, hc⟩ := hsituation
          exact settled_clientOnDisconnected hw' rfl hc
      | closingConnection n s =>
          obtain ⟨rfl, b, rfl, hn⟩ := hsituation
          exact settled_connectionClosed hw' rfl hn
      | connecting q c s =>
          obtain ⟨rfl, rfl, e, k, x, he, ho, hc, hfaces⟩ := hsituation
          exact settled_clientSetChannel hw' rfl he ho hc hfaces

end World
end DeviceMonitoring
