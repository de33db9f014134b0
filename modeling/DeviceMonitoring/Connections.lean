import DeviceMonitoring.Channel
import Mathlib.Data.List.AList

/-! `ClientConnectionMock`, `ConnectionMock` and `ConnectionServerMock` over one task queue,
with the two global maps. Handlers set by the user are tokens of a type `η`. The call
of a handler is a state of its own: what the handler does is a sequence of further
calls, and `resume` is its return. -/
namespace DeviceMonitoring

/-- The `DisconnectedHandler` member of a client or of a connection. -/
inductive Owner where
  | client (client : Ref)
  | connection (connection : Ref)
  deriving DecidableEq, Repr

structure ConnectToServerTask where
  clientId : UInt64
  serverId : UInt64
  deriving DecidableEq, Repr

structure ClientConnectionMock (η : Type) where
  clientId : UInt64 := 0
  channel : Option Ref := none
  messageHandler : Option η := none
  connectedHandler : Option η := none
  disconnectedHandler : Option η := none

structure ConnectionMock (η : Type) where
  server : Ref
  channel : Option Ref := none
  messageHandler : Option η := none
  disconnectedHandler : Option η := none

abbrev ConnectionMap := AList fun _ : UInt64 => Ref

structure ConnectionServerMock (η : Type) where
  serverId : UInt64 := 0
  connections : ConnectionMap := ∅
  newConnectionHandler : Option η := none

/-- The order in which a loop goes through `m_connections`; a hash map leaves it open. -/
structure Iteration where
  entries : ConnectionMap → List (Sigma fun _ : UInt64 => Ref)
  perm : ∀ m, (entries m).Perm m.entries

def Iteration.byEntry : Iteration := ⟨AList.entries, fun _ => .refl _⟩

/-- A call of a handler set by the user. -/
inductive Invocation (η : Type) where
  | message (handler : η) (message : Bytes)
  | disconnected (handler : η)
  | newConnection (handler : η) (connection : Ref)
  | connected (handler : η)
  deriving DecidableEq

/-- What remains to be done when the handler returns. -/
inductive Moment where
  | message
  | closingClient (client : Ref)
  | closingConnection (connection server : Ref)
  | connecting (channel client server : Ref)
  | notified (client : Ref)
  deriving DecidableEq, Repr

structure World (η : Type) where
  net : Net η Owner ConnectToServerTask := {}
  clients : Heap (ClientConnectionMock η) := {}
  connections : Heap (ConnectionMock η) := {}
  servers : Heap (ConnectionServerMock η) := {}
  clientsMap : UInt64 → Option Ref := fun _ => none
  serversMap : UInt64 → Option Ref := fun _ => none
  /-- the handler that is running -/
  running : Option (Invocation η × Moment) := none
  /-- every successful `connectToHost`: the client and the server asked for -/
  requests : List (Ref × UInt64) := []

namespace World
variable {η : Type}

/-! `ClientConnectionMock` -/

def clientChannel (w : World η) (c : Ref) : Option Ref := (w.clients.get c).bind (·.channel)

def bind (w : World η) (c : Ref) (clientId : UInt64) : Bool × World η :=
  match w.clients.get c with
  | none => (false, w)
  | some client =>
      if (w.clientsMap clientId).isSome || client.channel.isSome || clientId == 0 then (false, w)
      else
        (true, { w with
          clients := w.clients.modify c fun client => { client with clientId }
          clientsMap := Function.update (Function.update w.clientsMap client.clientId none)
            clientId (some c) })

def connectToHost (w : World η) (c : Ref) (serverId : UInt64) : Bool × World η :=
  match w.clients.get c with
  | none => (false, w)
  | some client =>
      if client.clientId == 0 || serverId == 0 then (false, w)
      else
        (true, { w with
          net := w.net.scheduleTask (.other ⟨client.clientId, serverId⟩)
          requests := w.requests ++ [(c, serverId)] })

def clientDisconnect (w : World η) (c : Ref) : World η :=
  match w.clientChannel c with
  | none => w
  | some ch => { w with net := w.net.disconnect ch }

def clientConnected (w : World η) (c : Ref) : Bool :=
  match w.clientChannel c with
  | none => false
  | some ch => w.net.connected ch

def clientSendMessage (w : World η) (c : Ref) (message : Bytes) : World η :=
  match w.clientChannel c with
  | none => w
  | some ch => { w with net := w.net.sendMessage ch message }

def clientSetDisconnectedHandler (w : World η) (c : Ref) (handler : Option η) : World η :=
  { w with clients := w.clients.modify c fun client => { client with disconnectedHandler := handler } }

def setConnectedHandler (w : World η) (c : Ref) (handler : Option η) : World η :=
  { w with clients := w.clients.modify c fun client => { client with connectedHandler := handler } }

def clientSetMessageHandler (w : World η) (c : Ref) (handler : Option η) : World η :=
  let w := { w with
    clients := w.clients.modify c fun client => { client with messageHandler := handler } }
  match w.clientChannel c with
  | none => w
  | some ch => { w with net := w.net.setMessageHandler ch handler }

/-- `setChannel`; the connected handler is called last. -/
def clientSetChannel (w : World η) (c ch : Ref) : World η :=
  match w.clients.get c with
  | none => w
  | some client =>
      match client.channel with
      | some _ => { w with net := w.net.destroy ch }
      | none =>
          { w with
            clients := w.clients.modify c fun client => { client with channel := some ch }
            net := (w.net.setMessageHandler ch client.messageHandler).setDisconnectedHandler ch
              (some (.client c))
            running := client.connectedHandler.map fun handler =>
              (.connected handler, .notified c) }

def clientOnDisconnected (w : World η) (c : Ref) : World η :=
  match w.clientChannel c with
  | none => w
  | some ch =>
      { w with
        net := w.net.destroy ch
        clients := w.clients.modify c fun client => { client with channel := none } }

/-- `~ClientConnectionMock` -/
def destroyClient (w : World η) (c : Ref) : World η :=
  match w.clients.get c with
  | none => w
  | some client =>
      { w with
        clientsMap := Function.update w.clientsMap client.clientId none
        net := match client.channel with
          | none => w.net
          | some ch => w.net.destroy ch
        clients := w.clients.free c }

/-! `ConnectionMock` -/

def connectionChannel (w : World η) (n : Ref) : Option Ref :=
  (w.connections.get n).bind (·.channel)

def connectionPeerId (w : World η) (n : Ref) : UInt64 :=
  match w.connectionChannel n with
  | none => 0
  | some ch => ((w.net.channels.get ch).map (·.peerId)).getD 0

def connectionConnected (w : World η) (n : Ref) : Bool := (w.connectionChannel n).isSome

def connectionDisconnect (w : World η) (n : Ref) : World η :=
  match w.connectionChannel n with
  | none => w
  | some ch => { w with net := w.net.disconnect ch }

def connectionSendMessage (w : World η) (n : Ref) (message : Bytes) : World η :=
  match w.connectionChannel n with
  | none => w
  | some ch => { w with net := w.net.sendMessage ch message }

def connectionSetDisconnectedHandler (w : World η) (n : Ref) (handler : Option η) : World η :=
  { w with
    connections := w.connections.modify n fun conn => { conn with disconnectedHandler := handler } }

def connectionSetMessageHandler (w : World η) (n : Ref) (handler : Option η) : World η :=
  let w := { w with
    connections := w.connections.modify n fun conn => { conn with messageHandler := handler } }
  match w.connectionChannel n with
  | none => w
  | some ch => { w with net := w.net.setMessageHandler ch handler }

/-- `setChannel` of a connection that has no channel yet -/
def connectionSetChannel (w : World η) (n ch : Ref) : World η :=
  match w.connections.get n with
  | none => w
  | some conn =>
      match conn.channel with
      | some _ => { w with net := w.net.destroy ch }
      | none =>
          { w with
            connections := w.connections.modify n fun conn => { conn with channel := some ch }
            net := (w.net.setMessageHandler ch conn.messageHandler).setDisconnectedHandler ch
              (some (.connection n)) }

/-- `~ConnectionMock` -/
def destroyConnection (w : World η) (n : Ref) : World η :=
  { w with
    net := match w.connectionChannel n with
      | none => w.net
      | some ch => w.net.destroy ch
    connections := w.connections.free n }

/-! `ConnectionServerMock` -/

/-- `connection(clientId)` -/
def connection (w : World η) (s : Ref) (clientId : UInt64) : Option Ref :=
  (w.servers.get s).bind fun server => server.connections.lookup clientId

def listen (w : World η) (s : Ref) (serverId : UInt64) : Bool × World η :=
  match w.servers.get s with
  | none => (false, w)
  | some server =>
      if (w.serversMap serverId).isSome || server.serverId != 0 || serverId == 0 then (false, w)
      else
        (true, { w with
          servers := w.servers.modify s fun server => { server with serverId }
          serversMap := Function.update w.serversMap serverId (some s) })

def setNewConnectionHandler (w : World η) (s : Ref) (handler : Option η) : World η :=
  { w with servers := w.servers.modify s fun server => { server with newConnectionHandler := handler } }

def serverDisconnect (I : Iteration) (w : World η) (s : Ref) : World η :=
  match w.servers.get s with
  | none => w
  | some server =>
      let w := (I.entries server.connections).foldl (fun w e => w.connectionDisconnect e.2) w
      { w with
        serversMap := Function.update w.serversMap server.serverId none
        servers := w.servers.modify s fun server => { server with serverId := 0 } }

def serverOnDisconnected (w : World η) (s : Ref) (clientId : UInt64) : World η :=
  match w.connection s clientId with
  | none => w
  | some n =>
      let w := w.destroyConnection n
      { w with
        servers := w.servers.modify s fun server =>
          { server with connections := server.connections.erase clientId } }

/-- `~ConnectionServerMock` -/
def destroyServer (I : Iteration) (w : World η) (s : Ref) : World η :=
  match w.servers.get s with
  | none => w
  | some server =>
      let w := (I.entries server.connections).foldl (fun w e => w.destroyConnection e.2) w
      { w with
        serversMap := Function.update w.serversMap server.serverId none
        servers := w.servers.free s }

/-- `addConnection`; `next` is what remains to be done after the handler's call. -/
def addConnection (w : World η) (s n : Ref) (next : Moment) : World η :=
  match w.servers.get s with
  | none => w
  | some server =>
      if (server.connections.lookup (w.connectionPeerId n)).isSome then w.destroyConnection n
      else
        let clientId := w.connectionPeerId n
        { w with
          servers := w.servers.modify s fun server =>
            { server with connections := server.connections.insert clientId n }
          running := server.newConnectionHandler.map fun handler =>
            (.newConnection handler n, next) }

def addChannel (w : World η) (s ch : Ref) (next : Moment) : World η :=
  let n := w.connections.next
  let w := { w with connections := w.connections.alloc { server := s } }
  (w.connectionSetChannel n ch).addConnection s n next

/-! Tasks -/

/-- `ConnectToServerTask::operator()` up to the first call of a handler. -/
def connectToServer (w : World η) (task : ConnectToServerTask) : World η :=
  match w.serversMap task.serverId, w.clientsMap task.clientId with
  | some s, some c =>
      let serverChannel := w.net.channels.next
      let clientChannel := serverChannel + 1
      let net := { w.net with
        channels := (w.net.channels.alloc { peerId := task.clientId }).alloc
          { peerId := task.serverId } }
      let net := (net.connect serverChannel clientChannel).connect clientChannel serverChannel
      let w := ({ w with net } : World η).addChannel s serverChannel (.connecting clientChannel c s)
      if w.running.isSome then w else w.clientSetChannel c clientChannel
  | _, _ => w

/-- `ClientConnectionMock::DisconnectedHandler::operator()` -/
def clientDisconnectedHandler (w : World η) (c : Ref) : World η :=
  match (w.clients.get c).bind (·.disconnectedHandler) with
  | none => w.clientOnDisconnected c
  | some handler => { w with running := some (.disconnected handler, .closingClient c) }

/-- `ConnectionMock::DisconnectedHandler::operator()` -/
def connectionDisconnectedHandler (w : World η) (n : Ref) : World η :=
  match w.connections.get n with
  | none => w
  | some conn =>
      match conn.disconnectedHandler with
      | none => w.serverOnDisconnected conn.server (w.connectionPeerId n)
      | some handler =>
          { w with running := some (.disconnected handler, .closingConnection n conn.server) }

/-- `processTask` up to the first call of a handler. A `processTask` called by a handler is left
out: `permits` is false of it. By a handler that its task ends with, it is one made after the
handler's return; another handler's runs tasks in the middle of its own. -/
def start (w : World η) : World η :=
  if w.running.isSome then w
  else
    match w.net.processTask with
    | none => w
    | some (delivery, net) =>
        let w := { w with net }
        match delivery with
        | .nothing => w
        | .message handler message => { w with running := some (.message handler message, .message) }
        | .disconnected (.client c) => w.clientDisconnectedHandler c
        | .disconnected (.connection n) => w.connectionDisconnectedHandler n
        | .other task => w.connectToServer task

/-- The handler returns: the task goes on up to the next call of a handler. -/
def resume (w : World η) : World η :=
  match w.running with
  | none => w
  | some (_, moment) =>
      let w := { w with running := none }
      match moment with
      | .message => w
      | .notified _ => w
      | .closingClient c => w.clientOnDisconnected c
      | .closingConnection n s => w.serverOnDisconnected s (w.connectionPeerId n)
      | .connecting ch c _ => w.clientSetChannel c ch

end World

/-- The calls that a user of the classes makes, from outside or in a handler. -/
inductive Call (η : Type) where
  | bind (client : Ref) (clientId : UInt64)
  | connectToHost (client : Ref) (serverId : UInt64)
  | clientDisconnect (client : Ref)
  | clientSendMessage (client : Ref) (message : Bytes)
  | clientSetMessageHandler (client : Ref) (handler : Option η)
  | clientSetDisconnectedHandler (client : Ref) (handler : Option η)
  | setConnectedHandler (client : Ref) (handler : Option η)
  | destroyClient (client : Ref)
  | connectionDisconnect (connection : Ref)
  | connectionSendMessage (connection : Ref) (message : Bytes)
  | connectionSetMessageHandler (connection : Ref) (handler : Option η)
  | connectionSetDisconnectedHandler (connection : Ref) (handler : Option η)
  | listen (server : Ref) (serverId : UInt64)
  | serverDisconnect (server : Ref)
  | setNewConnectionHandler (server : Ref) (handler : Option η)
  | destroyServer (server : Ref)

/-- A handler does not destroy what its task goes back to: the client or server whose
disconnected handler it is, or the client that is being connected. The code would use freed
memory; in the model `permits` is false of such a call, and it changes nothing. -/
def Moment.allows {η : Type} : Moment → Call η → Bool
  | .closingClient c, .destroyClient d => d ≠ c
  | .closingConnection _ s, .destroyServer t => t ≠ s
  | .connecting _ c _, .destroyClient d => d ≠ c
  | _, _ => true

inductive WorldStep (η : Type) where
  | newClient
  | newServer
  | call (call : Call η)
  | start
  | resume

namespace World
variable {η : Type}

/-- A call on an object that is gone is not part of a run: it changes nothing. -/
def perform (I : Iteration) (w : World η) : Call η → World η
  | .bind c clientId => (w.bind c clientId).2
  | .connectToHost c serverId => (w.connectToHost c serverId).2
  | .clientDisconnect c => w.clientDisconnect c
  | .clientSendMessage c message => w.clientSendMessage c message
  | .clientSetMessageHandler c handler => w.clientSetMessageHandler c handler
  | .clientSetDisconnectedHandler c handler => w.clientSetDisconnectedHandler c handler
  | .setConnectedHandler c handler => w.setConnectedHandler c handler
  | .destroyClient c => w.destroyClient c
  | .connectionDisconnect n => w.connectionDisconnect n
  | .connectionSendMessage n message => w.connectionSendMessage n message
  | .connectionSetMessageHandler n handler => w.connectionSetMessageHandler n handler
  | .connectionSetDisconnectedHandler n handler => w.connectionSetDisconnectedHandler n handler
  | .listen s serverId => (w.listen s serverId).2
  | .serverDisconnect s => w.serverDisconnect I s
  | .setNewConnectionHandler s handler => w.setNewConnectionHandler s handler
  | .destroyServer s => w.destroyServer I s

/-- The call may be made now. -/
def allows (w : World η) (call : Call η) : Bool := w.running.all fun running => running.2.allows call

def step (I : Iteration) (w : World η) : WorldStep η → World η
  | .newClient => { w with clients := w.clients.alloc {} }
  | .newServer => { w with servers := w.servers.alloc {} }
  | .call call => if w.allows call then w.perform I call else w
  | .start => w.start
  | .resume => w.resume

/-- The step stands for what the code does. Left out are the calls that `allows` refuses, and
`processTask` inside a handler. -/
def permits (w : World η) : WorldStep η → Bool
  | .call call => w.allows call
  | .start => w.running.isNone
  | _ => true

def run (I : Iteration) (w : World η) (steps : List (WorldStep η)) : World η := steps.foldl (step I) w

theorem run_append (I : Iteration) (w : World η) (steps more : List (WorldStep η)) :
    w.run I (steps ++ more) = (w.run I steps).run I more := List.foldl_append ..

end World
end DeviceMonitoring
