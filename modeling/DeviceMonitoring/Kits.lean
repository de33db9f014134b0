import DeviceMonitoring.Library.Descent
import DeviceMonitoring.Redundant

/-! The handlers that clients, connections and servers have, and the channels and connections
themselves, through the calls that a session makes and through the steps of its tasks. -/
namespace DeviceMonitoring
variable {η : Type}

def ClientConnectionMock.kit (client : ClientConnectionMock η) : Option η × Option η × Option η :=
  (client.messageHandler, client.connectedHandler, client.disconnectedHandler)

def ConnectionMock.kit (conn : ConnectionMock η) : Option η × Option η :=
  (conn.messageHandler, conn.disconnectedHandler)

/-- The calls that destroy something. -/
def Call.destroys : Call η → Bool
  | .destroyClient _ | .destroyServer _ => true
  | _ => false

/-- The changes that make somebody, or give him a handler. -/
def Change.equips : Change η → Prop
  | .newClient | .newServer | .opened .. | .messageHandler .. | .disconnectedHandler ..
  | .connectedHandler .. | .newConnectionHandler .. => True
  | _ => False

/-- The changes to the channel of a client, or to the connections of a server. -/
def Change.moves : Change η → Prop
  | .adopted .. | .released _ | .entered .. | .erased .. | .newClient | .newServer | .clientGone _
  | .serverGone _ => True
  | _ => False

namespace World

/-- Whoever is there was there before, with the same handlers. -/
structure SameKits (w w' : World η) : Prop where
  clients : w.clients.Descends ClientConnectionMock.kit w'.clients
  connections : w.connections.Descends ConnectionMock.kit w'.connections
  servers : w.servers.Descends ConnectionServerMock.newConnectionHandler w'.servers
  next : w'.clients.next = w.clients.next

namespace SameKits
variable {w w' w'' : World η}

theorem of_eq (hclients : w'.clients = w.clients) (hconnections : w'.connections = w.connections)
    (hservers : w'.servers = w.servers) : SameKits w w' := by
  refine ⟨?_, ?_, ?_, by rw [hclients]⟩
  · rw [hclients]
    exact .refl _
  · rw [hconnections]
    exact .refl _
  · rw [hservers]
    exact .refl _

theorem refl (w : World η) : SameKits w w := of_eq rfl rfl rfl

theorem trans (h : SameKits w w') (h' : SameKits w' w'') : SameKits w w'' :=
  ⟨h.clients.trans h'.clients, h.connections.trans h'.connections, h.servers.trans h'.servers,
    h'.next.trans h.next⟩

/-- Whatever leaves the handlers of the client alone. -/
theorem modify_client (w : World η) (c : Ref) {f : ClientConnectionMock η → ClientConnectionMock η}
    (hclients : w'.clients = w.clients.modify c f) (hconnections : w'.connections = w.connections)
    (hservers : w'.servers = w.servers) (hf : ∀ client, (f client).kit = client.kit) :
    SameKits w w' := by
  refine ⟨?_, ?_, ?_, by rw [hclients, Heap.next_modify]⟩
  · rw [hclients]
    exact .modify _ _ hf
  · rw [hconnections]
    exact .refl _
  · rw [hservers]
    exact .refl _

theorem modify_server (w : World η) (s : Ref) {f : ConnectionServerMock η → ConnectionServerMock η}
    (hclients : w'.clients = w.clients) (hconnections : w'.connections = w.connections)
    (hservers : w'.servers = w.servers.modify s f)
    (hf : ∀ server, (f server).newConnectionHandler = server.newConnectionHandler) :
    SameKits w w' := by
  refine ⟨?_, ?_, ?_, by rw [hclients]⟩
  · rw [hclients]
    exact .refl _
  · rw [hconnections]
    exact .refl _
  · rw [hservers]
    exact .modify _ _ hf

theorem change (w : World η) (change : Change η) (hchange : ¬change.equips) :
    SameKits w (w.change change) := by
  cases change with
  | clientId c _ => exact modify_client w c rfl rfl rfl fun _ => rfl
  | serverId s _ => exact modify_server w s rfl rfl rfl fun _ => rfl
  | adopted c ch =>
      simp only [World.change, World.clientSetChannel]
      split
      · exact refl w
      · split
        · exact of_eq rfl rfl rfl
        · exact modify_client w c rfl rfl rfl fun _ => rfl
  | released c => exact modify_client w c rfl rfl rfl fun _ => rfl
  | entered s _ _ => exact modify_server w s rfl rfl rfl fun _ => rfl
  | erased s _ => exact modify_server w s rfl rfl rfl fun _ => rfl
  | clientGone c => exact ⟨.free _ _, .refl _, .refl _, rfl⟩
  | connectionGone n => exact ⟨.refl _, .free _ _, .refl _, rfl⟩
  | serverGone s => exact ⟨.refl _, .refl _, .free _ _, rfl⟩
  | newClient | newServer | opened | messageHandler | disconnectedHandler | connectedHandler
  | newConnectionHandler => exact absurd trivial hchange
  | _ => exact of_eq rfl rfl rfl

theorem of_changes {may : Change η → Prop} (hmay : ∀ change, may change → ¬change.equips)
    (h : Changes may w w') : SameKits w w' :=
  h.lift refl (fun _ _ _ => trans) fun w change hchange _ => .change w change (hmay change hchange)

/-- What the current task does when the handler returns. -/
theorem resume (w : World η) : SameKits w w.resume :=
  of_changes (fun change hchange => by cases change <;> first | exact id | cases hchange) (.resume w)

theorem perform (I : Iteration) (w : World η) {call : Call η} (hcall : call.installs = false) :
    SameKits w (w.perform I call) := by
  refine of_changes (fun change hchange => ?_) (.perform I w call)
  cases call with
  | clientSetMessageHandler c handler => cases hcall
  | clientSetDisconnectedHandler c handler => cases hcall
  | setConnectedHandler c handler => cases hcall
  | connectionSetMessageHandler n handler => cases hcall
  | connectionSetDisconnectedHandler n handler => cases hcall
  | setNewConnectionHandler s handler => cases hcall
  | _ => cases change <;> first | exact id | cases hchange

end SameKits

/-- The same clients have the same channels, and the servers the same connections. -/
structure SameEnds (w w' : World η) : Prop where
  clientChannel : w'.clientChannel = w.clientChannel
  connection : w'.connection = w.connection

namespace SameEnds
variable {w w' w'' : World η}

theorem refl (w : World η) : SameEnds w w := ⟨rfl, rfl⟩

theorem of_eq (hclients : w'.clients = w.clients) (hservers : w'.servers = w.servers) :
    SameEnds w w' := by
  constructor
  · funext c
    rw [World.clientChannel, World.clientChannel, hclients]
  · funext s k
    rw [World.connection, World.connection, hservers]

theorem of_shape (h : w'.shape = w.shape) : SameEnds w w' := by
  constructor
  · funext c
    apply Option.ext
    intro a
    rw [clientChannel_eq_some, clientChannel_eq_some, h]
  · exact congrArg Shape.entry h

theorem trans (h : SameEnds w w') (h' : SameEnds w' w'') : SameEnds w w'' :=
  ⟨h'.clientChannel.trans h.clientChannel, h'.connection.trans h.connection⟩

theorem clientChannel_modify {c : Ref} {f : ClientConnectionMock η → ClientConnectionMock η}
    (w : World η) (hf : ∀ client, (f client).channel = client.channel) :
    ({ w with clients := w.clients.modify c f } : World η).clientChannel = w.clientChannel := by
  funext d
  simp only [World.clientChannel]
  by_cases hd : d = c
  · rw [hd, Heap.get_modify_self, Option.bind_map]
    exact congrArg _ (funext hf)
  · rw [Heap.get_modify_of_ne _ _ hd]

theorem connection_modify {s : Ref} {f : ConnectionServerMock η → ConnectionServerMock η}
    (w : World η) (hf : ∀ server, (f server).connections = server.connections) :
    ({ w with servers := w.servers.modify s f } : World η).connection = w.connection := by
  funext t k
  simp only [World.connection]
  by_cases ht : t = s
  · rw [ht, Heap.get_modify_self, Option.bind_map]
    simp only [Function.comp_def, hf]
  · rw [Heap.get_modify_of_ne _ _ ht]

theorem change (w : World η) (change : Change η) (hchange : ¬change.moves) :
    SameEnds w (w.change change) := by
  cases change with
  | clientId c _ => exact ⟨clientChannel_modify w fun _ => rfl, rfl⟩
  | connectedHandler c _ => exact ⟨clientChannel_modify w fun _ => rfl, rfl⟩
  | serverId s _ => exact ⟨rfl, connection_modify w fun _ => rfl⟩
  | newConnectionHandler s _ => exact ⟨rfl, connection_modify w fun _ => rfl⟩
  | messageHandler owner handler =>
      cases owner with
      | client c =>
          have hset : SameEnds w { w with
              clients := w.clients.modify c fun client => { client with messageHandler := handler } } :=
            ⟨clientChannel_modify w fun _ => rfl, rfl⟩
          refine hset.trans ?_
          simp only [World.change, clientSetMessageHandler]
          split
          · exact refl _
          · exact of_eq rfl rfl
      | connection n =>
          simp only [World.change, connectionSetMessageHandler]
          split <;> exact of_eq rfl rfl
  | disconnectedHandler owner handler =>
      cases owner with
      | client c => exact ⟨clientChannel_modify w fun _ => rfl, rfl⟩
      | connection n => exact of_eq rfl rfl
  | adopted | released | entered | erased | newClient | newServer | clientGone | serverGone =>
      exact absurd trivial hchange
  | _ => exact of_eq rfl rfl

theorem of_changes {may : Change η → Prop} (hmay : ∀ change, may change → ¬change.moves)
    (h : Changes may w w') : SameEnds w w' :=
  h.lift refl (fun _ _ _ => trans) fun w change hchange _ => .change w change (hmay change hchange)

/-- A call that destroys nothing moves no channel and no connection. -/
theorem perform (I : Iteration) (w : World η) {call : Call η} (hcall : call.destroys = false) :
    SameEnds w (w.perform I call) := by
  refine of_changes (fun change hchange => ?_) (.perform I w call)
  cases call with
  | destroyClient c => cases hcall
  | destroyServer s => cases hcall
  | _ => cases change <;> first | exact id | cases hchange

end SameEnds
end World
end DeviceMonitoring
