import DeviceMonitoring.Inheritance
import DeviceMonitoring.Library.HeapTotal
import DeviceMonitoring.Library.Trace
import DeviceMonitoring.Lifetimes
import DeviceMonitoring.Notifications
import Mathlib.Tactic.Abel

/-! The handler objects. Whoever a handler is passed to owns it, and deletes it when it gets
another one, or goes itself. -/
namespace DeviceMonitoring
variable {η : Type}

/-- In the order in which the destructor deletes them. -/
def ClientConnectionMock.handlers (client : ClientConnectionMock η) : List η :=
  client.messageHandler.toList ++ client.connectedHandler.toList ++ client.disconnectedHandler.toList

def ConnectionMock.handlers (conn : ConnectionMock η) : List η :=
  conn.messageHandler.toList ++ conn.disconnectedHandler.toList

def ConnectionServerMock.handlers (server : ConnectionServerMock η) : List η :=
  server.newConnectionHandler.toList

def Invocation.handler : Invocation η → η
  | .message handler _ => handler
  | .disconnected handler => handler
  | .newConnection handler _ => handler
  | .connected handler => handler

namespace World

def clientHandlers (w : World η) : Multiset η := w.clients.total fun client => client.handlers

def connectionHandlers (w : World η) : Multiset η := w.connections.total fun conn => conn.handlers

def serverHandlers (w : World η) : Multiset η := w.servers.total fun server => server.handlers

/-- The handlers that clients, connections and servers have. -/
def held (w : World η) : Multiset η := w.clientHandlers + w.connectionHandlers + w.serverHandlers

def clientHas (w : World η) (c : Ref) (handlers : ClientConnectionMock η → List η) : List η :=
  ((w.clients.get c).map handlers).getD []

def connectionHas (w : World η) (n : Ref) (handlers : ConnectionMock η → List η) : List η :=
  ((w.connections.get n).map handlers).getD []

def serverHas (w : World η) (s : Ref) (handlers : ConnectionServerMock η → List η) : List η :=
  ((w.servers.get s).map handlers).getD []

/-- The handler that a live object takes. -/
def takes (w : World η) : Call η → List η
  | .clientSetMessageHandler c handler => w.clientHas c fun _ => handler.toList
  | .clientSetDisconnectedHandler c handler => w.clientHas c fun _ => handler.toList
  | .setConnectedHandler c handler => w.clientHas c fun _ => handler.toList
  | .connectionSetMessageHandler n handler => w.connectionHas n fun _ => handler.toList
  | .connectionSetDisconnectedHandler n handler => w.connectionHas n fun _ => handler.toList
  | .setNewConnectionHandler s handler => w.serverHas s fun _ => handler.toList
  | _ => []

/-- The loop of `~ConnectionServerMock` -/
def connectionsDelete : World η → List (Sigma fun _ : UInt64 => Ref) → List η
  | _, [] => []
  | w, e :: rest =>
      w.connectionHas e.2 ConnectionMock.handlers ++ connectionsDelete (w.destroyConnection e.2) rest

/-- What a call deletes. -/
def deletes (I : Iteration) (w : World η) : Call η → List η
  | .clientSetMessageHandler c _ => w.clientHas c (·.messageHandler.toList)
  | .clientSetDisconnectedHandler c _ => w.clientHas c (·.disconnectedHandler.toList)
  | .setConnectedHandler c _ => w.clientHas c (·.connectedHandler.toList)
  | .destroyClient c => w.clientHas c ClientConnectionMock.handlers
  | .connectionSetMessageHandler n _ => w.connectionHas n (·.messageHandler.toList)
  | .connectionSetDisconnectedHandler n _ => w.connectionHas n (·.disconnectedHandler.toList)
  | .setNewConnectionHandler s _ => w.serverHas s (·.newConnectionHandler.toList)
  | .destroyServer s =>
      match w.servers.get s with
      | none => []
      | some server => server.newConnectionHandler.toList ++ w.connectionsDelete (I.entries server.connections)
  | _ => []

/-- `ConnectionServerMock::onDisconnected` deletes a connection. -/
def serverDeletes (w : World η) (s : Ref) (clientId : UInt64) : List η :=
  match w.connection s clientId with
  | none => []
  | some n => w.connectionHas n ConnectionMock.handlers

/-- The handlers that a step deletes. -/
def deleted (I : Iteration) (w : World η) : WorldStep η → List η
  | .call call => if w.allows call then w.deletes I call else []
  | .start =>
      match w.running, w.net.tasks with
      | none, task :: _ =>
          match w.net.deliver task with
          | .disconnected (.connection n) =>
              match w.connections.get n with
              | none => []
              | some conn =>
                  match conn.disconnectedHandler with
                  | none => w.serverDeletes conn.server (w.connectionPeerId n)
                  | some _ => []
          | _ => []
      | _, _ => []
  | .resume =>
      match w.running with
      | some (_, .closingConnection n s) => w.serverDeletes s (w.connectionPeerId n)
      | _ => []
  | _ => []

/-- The handlers that are taken in a step. -/
def taken (w : World η) : WorldStep η → List η
  | .call call => if w.allows call then w.takes call else []
  | _ => []

/-- Nothing is lost: what is taken is held until it is deleted. -/
def Balanced (w w' : World η) (given gone : List η) : Prop :=
  w'.held + (gone : Multiset η) = w.held + (given : Multiset η)

namespace Balanced
variable {w w' w'' : World η} {given gone given' gone' : List η}

theorem of_eq (hclients : w'.clients = w.clients) (hconnections : w'.connections = w.connections)
    (hservers : w'.servers = w.servers) : Balanced w w' [] [] := by
  unfold Balanced held clientHandlers connectionHandlers serverHandlers
  rw [hclients, hconnections, hservers]

theorem refl (w : World η) : Balanced w w [] [] := of_eq rfl rfl rfl

theorem trans (h : Balanced w w' given gone) (h' : Balanced w' w'' given' gone') :
    Balanced w w'' (given ++ given') (gone ++ gone') := by
  unfold Balanced at *
  rw [← Multiset.coe_add, ← Multiset.coe_add, add_comm (gone : Multiset η), ← add_assoc, h',
    add_right_comm, h, add_assoc]

/-- The clients balance, and nothing else that has handlers changes. -/
theorem of_clients (hclients : w'.clientHandlers + gone = w.clientHandlers + given)
    (hconnections : w'.connections = w.connections) (hservers : w'.servers = w.servers) :
    Balanced w w' given gone := by
  have hrest : w'.connectionHandlers + w'.serverHandlers = w.connectionHandlers + w.serverHandlers := by
    unfold connectionHandlers serverHandlers
    rw [hconnections, hservers]
  calc
    w'.held + (gone : Multiset η) =
        w'.clientHandlers + gone + (w'.connectionHandlers + w'.serverHandlers) := by unfold held; abel
    _ = w.clientHandlers + given + (w.connectionHandlers + w.serverHandlers) := by rw [hclients, hrest]
    _ = w.held + given := by unfold held; abel

theorem of_connections (hclients : w'.clients = w.clients)
    (hconnections : w'.connectionHandlers + gone = w.connectionHandlers + given)
    (hservers : w'.servers = w.servers) : Balanced w w' given gone := by
  have hrest : w'.clientHandlers + w'.serverHandlers = w.clientHandlers + w.serverHandlers := by
    unfold clientHandlers serverHandlers
    rw [hclients, hservers]
  calc
    w'.held + (gone : Multiset η) =
        w'.connectionHandlers + gone + (w'.clientHandlers + w'.serverHandlers) := by unfold held; abel
    _ = w.connectionHandlers + given + (w.clientHandlers + w.serverHandlers) := by
      rw [hconnections, hrest]
    _ = w.held + given := by unfold held; abel

theorem of_servers (hclients : w'.clients = w.clients) (hconnections : w'.connections = w.connections)
    (hservers : w'.serverHandlers + gone = w.serverHandlers + given) : Balanced w w' given gone := by
  have hrest : w'.clientHandlers + w'.connectionHandlers = w.clientHandlers + w.connectionHandlers := by
    unfold clientHandlers connectionHandlers
    rw [hclients, hconnections]
  unfold Balanced held
  rw [hrest, add_assoc, hservers, ← add_assoc]

theorem total_modify_lists {α : Type} (h : Heap α) (r : Ref) {f : α → α}
    {handlers came went : α → List η}
    (hf : ∀ a, (handlers (f a) ++ went a).Perm (handlers a ++ came a)) :
    (h.modify r f).total (fun a => (handlers a : Multiset η)) + (((h.get r).map went).getD [] : List η) =
      h.total (fun a => (handlers a : Multiset η)) + (((h.get r).map came).getD [] : List η) := by
  cases hr : h.get r with
  | none => rw [Heap.modify_of_none hr]; rfl
  | some a =>
      apply Heap.total_exchange hr
      have hperm := Multiset.coe_eq_coe.mpr (hf a)
      rwa [← Multiset.coe_add, ← Multiset.coe_add] at hperm

theorem modify_client {c : Ref} {f : ClientConnectionMock η → ClientConnectionMock η}
    {came went : ClientConnectionMock η → List η} (hclients : w'.clients = w.clients.modify c f)
    (hconnections : w'.connections = w.connections) (hservers : w'.servers = w.servers)
    (hf : ∀ client, ((f client).handlers ++ went client).Perm (client.handlers ++ came client)) :
    Balanced w w' (w.clientHas c came) (w.clientHas c went) := by
  refine of_clients ?_ hconnections hservers
  unfold clientHandlers
  rw [hclients]
  exact total_modify_lists w.clients c hf

theorem modify_connection {n : Ref} {f : ConnectionMock η → ConnectionMock η}
    {came went : ConnectionMock η → List η} (hclients : w'.clients = w.clients)
    (hconnections : w'.connections = w.connections.modify n f) (hservers : w'.servers = w.servers)
    (hf : ∀ conn, ((f conn).handlers ++ went conn).Perm (conn.handlers ++ came conn)) :
    Balanced w w' (w.connectionHas n came) (w.connectionHas n went) := by
  refine of_connections hclients ?_ hservers
  unfold connectionHandlers
  rw [hconnections]
  exact total_modify_lists w.connections n hf

theorem modify_server {s : Ref} {f : ConnectionServerMock η → ConnectionServerMock η}
    {came went : ConnectionServerMock η → List η} (hclients : w'.clients = w.clients)
    (hconnections : w'.connections = w.connections) (hservers : w'.servers = w.servers.modify s f)
    (hf : ∀ server, ((f server).handlers ++ went server).Perm (server.handlers ++ came server)) :
    Balanced w w' (w.serverHas s came) (w.serverHas s went) := by
  refine of_servers hclients hconnections ?_
  unfold serverHandlers
  rw [hservers]
  exact total_modify_lists w.servers s hf

theorem keep_client {c : Ref} {f : ClientConnectionMock η → ClientConnectionMock η}
    (hclients : w'.clients = w.clients.modify c f) (hconnections : w'.connections = w.connections)
    (hservers : w'.servers = w.servers) (hf : ∀ client, (f client).handlers = client.handlers) :
    Balanced w w' [] [] := by
  have h : Balanced w w' (w.clientHas c fun _ => []) (w.clientHas c fun _ => []) :=
    modify_client hclients hconnections hservers fun client => by rw [hf]
  have hnone : (w.clientHas c fun _ => []) = [] := by
    unfold clientHas
    cases w.clients.get c <;> rfl
  rwa [hnone] at h

theorem keep_server {s : Ref} {f : ConnectionServerMock η → ConnectionServerMock η}
    (hclients : w'.clients = w.clients) (hconnections : w'.connections = w.connections)
    (hservers : w'.servers = w.servers.modify s f) (hf : ∀ server, (f server).handlers = server.handlers) :
    Balanced w w' [] [] := by
  have h : Balanced w w' (w.serverHas s fun _ => []) (w.serverHas s fun _ => []) :=
    modify_server hclients hconnections hservers fun server => by rw [hf]
  have hnone : (w.serverHas s fun _ => []) = [] := by
    unfold serverHas
    cases w.servers.get s <;> rfl
  rwa [hnone] at h

/-! Who goes. -/

theorem destroyClient (w : World η) (c : Ref) :
    Balanced w (w.destroyClient c) [] (w.clientHas c ClientConnectionMock.handlers) := by
  unfold World.destroyClient clientHas
  cases hc : w.clients.get c with
  | none => exact refl w
  | some client =>
      have hfree := Heap.total_free hc fun client => (client.handlers : Multiset η)
      exact of_clients (hfree.trans (add_zero _).symm) rfl rfl

theorem destroyConnection (w : World η) (n : Ref) :
    Balanced w (w.destroyConnection n) [] (w.connectionHas n ConnectionMock.handlers) := by
  unfold World.destroyConnection connectionHas
  cases hn : w.connections.get n with
  | none => exact of_eq rfl (Heap.free_of_none hn) rfl
  | some conn =>
      have hfree := Heap.total_free hn fun conn => (conn.handlers : Multiset η)
      exact of_connections rfl (hfree.trans (add_zero _).symm) rfl

theorem connectionsDelete (w : World η) (entries : List (Sigma fun _ : UInt64 => Ref)) :
    Balanced w (entries.foldl (fun w e => w.destroyConnection e.2) w) [] (w.connectionsDelete entries) := by
  induction entries generalizing w with
  | nil => exact refl w
  | cons e rest ih => exact (destroyConnection w e.2).trans (ih _)

theorem serverOnDisconnected (w : World η) (s : Ref) (clientId : UInt64) :
    Balanced w (w.serverOnDisconnected s clientId) [] (w.serverDeletes s clientId) := by
  unfold World.serverOnDisconnected serverDeletes
  cases w.connection s clientId with
  | none => exact refl w
  | some n =>
      have herased : Balanced (w.destroyConnection n) { w.destroyConnection n with
          servers := w.servers.modify s fun server =>
            { server with connections := server.connections.erase clientId } } [] [] :=
        keep_server rfl rfl rfl fun _ => rfl
      have h := (destroyConnection w n).trans herased
      simp only [List.append_nil] at h
      exact h

theorem servers_connectionsDelete (w : World η) (entries : List (Sigma fun _ : UInt64 => Ref)) :
    (entries.foldl (fun w e => w.destroyConnection e.2) w).servers = w.servers := by
  induction entries generalizing w with
  | nil => rfl
  | cons e rest ih => exact ih _

theorem destroyServer (I : Iteration) (w : World η) (s : Ref) :
    Balanced w (w.destroyServer I s) [] (w.deletes I (.destroyServer s)) := by
  simp only [World.destroyServer, deletes]
  cases hs : w.servers.get s with
  | none => exact refl w
  | some server =>
      have hgone := connectionsDelete w (I.entries server.connections)
      have hservers := servers_connectionsDelete w (I.entries server.connections)
      have hfree : Balanced ((I.entries server.connections).foldl (fun w e => w.destroyConnection e.2) w)
          (w.destroyServer I s) [] server.newConnectionHandler.toList := by
        unfold World.destroyServer
        rw [hs]
        refine of_servers rfl rfl ?_
        unfold serverHandlers
        simp only [hservers]
        exact (Heap.total_free hs fun server => (server.handlers : Multiset η)).trans (add_zero _).symm
      have h := hgone.trans hfree
      unfold World.destroyServer at h
      rw [hs] at h
      unfold Balanced at h ⊢
      rw [← Multiset.coe_add, add_comm (server.newConnectionHandler.toList : Multiset η), Multiset.coe_add]
      exact h

/-! The calls and the tasks. -/

theorem clientSetChannel (w : World η) (c ch : Ref) : Balanced w (w.clientSetChannel c ch) [] [] := by
  unfold World.clientSetChannel
  split
  · exact refl w
  · split
    · exact of_eq rfl rfl rfl
    · exact keep_client rfl rfl rfl fun _ => rfl

theorem addConnection (w : World η) {s n : Ref} (next : Moment)
    (hnew : w.connectionHas n ConnectionMock.handlers = []) :
    Balanced w (w.addConnection s n next) [] [] := by
  unfold World.addConnection
  split
  · exact refl w
  · split
    · have h := destroyConnection w n
      rwa [hnew] at h
    · exact keep_server rfl rfl rfl fun _ => rfl

theorem connectToServer (w : World η) (task : ConnectToServerTask) :
    Balanced w (w.connectToServer task) [] [] := by
  cases hs : w.serversMap task.serverId with
  | none =>
      unfold World.connectToServer
      rw [hs]
      exact refl w
  | some s =>
      cases hc : w.clientsMap task.clientId with
      | none =>
          unfold World.connectToServer
          rw [hs, hc]
          exact refl w
      | some c =>
          have hopened : Balanced w (w.opened s task) [] [] := of_connections rfl
            (congrArg (· + (0 : Multiset η)) ((Heap.total_alloc w.connections _ _).trans (add_zero _))) rfl
          have hnew : (w.opened s task).connectionHas w.connections.next ConnectionMock.handlers = [] := by
            unfold connectionHas opened
            rw [Heap.get_alloc_next]
            rfl
          have hadded := hopened.trans (addConnection (s := s) (w.opened s task)
            (.connecting (w.net.channels.next + 1) c s) hnew)
          rw [connectToServer_eq task hs hc]
          simp only
          split
          · exact hadded
          · exact hadded.trans (clientSetChannel _ c _)

theorem serverDisconnect (I : Iteration) (w : World η) (s : Ref) :
    Balanced w (w.serverDisconnect I s) [] [] := by
  have hloop : ∀ (entries : List (Sigma fun _ : UInt64 => Ref)) (w : World η),
      Balanced w (entries.foldl (fun w e => w.connectionDisconnect e.2) w) [] [] ∧
        (entries.foldl (fun w e => w.connectionDisconnect e.2) w).servers = w.servers := by
    intro entries
    induction entries with
    | nil => exact fun w => ⟨refl w, rfl⟩
    | cons e rest ih =>
        intro w
        obtain ⟨hrest, hservers⟩ := ih (w.connectionDisconnect e.2)
        have hfirst : Balanced w (w.connectionDisconnect e.2) [] [] ∧
            (w.connectionDisconnect e.2).servers = w.servers := by
          unfold connectionDisconnect
          split
          · exact ⟨refl w, rfl⟩
          · exact ⟨of_eq rfl rfl rfl, rfl⟩
        exact ⟨hfirst.1.trans hrest, hservers.trans hfirst.2⟩
  unfold World.serverDisconnect
  split
  · exact refl w
  next server _ =>
    obtain ⟨hloop, hservers⟩ := hloop (I.entries server.connections) w
    refine hloop.trans (keep_server (s := s) (f := fun server => { server with serverId := 0 }) rfl rfl ?_
      fun _ => rfl)
    simp only [hservers]

/-- Every call. -/
theorem perform (I : Iteration) (w : World η) (call : Call η) :
    Balanced w (w.perform I call) (w.takes call) (w.deletes I call) := by
  cases call with
  | bind c clientId =>
      simp only [World.perform, World.bind]
      split
      · exact refl w
      · split
        · exact refl w
        · exact keep_client rfl rfl rfl fun _ => rfl
  | connectToHost c serverId =>
      simp only [World.perform, World.connectToHost]
      split
      · exact refl w
      · split <;> exact of_eq rfl rfl rfl
  | clientDisconnect c =>
      simp only [World.perform, World.clientDisconnect]
      split <;> exact of_eq rfl rfl rfl
  | clientSendMessage c message =>
      simp only [World.perform, World.clientSendMessage]
      split <;> exact of_eq rfl rfl rfl
  | clientSetMessageHandler c handler =>
      have hperm : ∀ client : ClientConnectionMock η, ({ client with
          messageHandler := handler }.handlers ++ client.messageHandler.toList).Perm
            (client.handlers ++ handler.toList) := fun client =>
        Multiset.coe_eq_coe.mp (by simp only [ClientConnectionMock.handlers, ← Multiset.coe_add]; abel)
      change Balanced w (w.clientSetMessageHandler c handler) (w.clientHas c fun _ => handler.toList)
        (w.clientHas c (·.messageHandler.toList))
      simp only [World.clientSetMessageHandler]
      split <;> exact modify_client rfl rfl rfl hperm
  | clientSetDisconnectedHandler c handler =>
      change Balanced w (w.clientSetDisconnectedHandler c handler)
        (w.clientHas c fun _ => handler.toList) (w.clientHas c (·.disconnectedHandler.toList))
      exact modify_client rfl rfl rfl fun client =>
        Multiset.coe_eq_coe.mp (by simp only [ClientConnectionMock.handlers, ← Multiset.coe_add]; abel)
  | setConnectedHandler c handler =>
      change Balanced w (w.setConnectedHandler c handler) (w.clientHas c fun _ => handler.toList)
        (w.clientHas c (·.connectedHandler.toList))
      exact modify_client rfl rfl rfl fun client =>
        Multiset.coe_eq_coe.mp (by simp only [ClientConnectionMock.handlers, ← Multiset.coe_add]; abel)
  | destroyClient c => exact destroyClient w c
  | connectionDisconnect n =>
      simp only [World.perform, World.connectionDisconnect]
      split <;> exact of_eq rfl rfl rfl
  | connectionSendMessage n message =>
      simp only [World.perform, World.connectionSendMessage]
      split <;> exact of_eq rfl rfl rfl
  | connectionSetMessageHandler n handler =>
      have hperm : ∀ conn : ConnectionMock η, ({ conn with
          messageHandler := handler }.handlers ++ conn.messageHandler.toList).Perm
            (conn.handlers ++ handler.toList) := fun conn =>
        Multiset.coe_eq_coe.mp (by simp only [ConnectionMock.handlers, ← Multiset.coe_add]; abel)
      change Balanced w (w.connectionSetMessageHandler n handler)
        (w.connectionHas n fun _ => handler.toList) (w.connectionHas n (·.messageHandler.toList))
      simp only [World.connectionSetMessageHandler]
      split <;> exact modify_connection rfl rfl rfl hperm
  | connectionSetDisconnectedHandler n handler =>
      change Balanced w (w.connectionSetDisconnectedHandler n handler)
        (w.connectionHas n fun _ => handler.toList) (w.connectionHas n (·.disconnectedHandler.toList))
      exact modify_connection rfl rfl rfl fun conn =>
        Multiset.coe_eq_coe.mp (by simp only [ConnectionMock.handlers, ← Multiset.coe_add]; abel)
  | listen s serverId =>
      simp only [World.perform, World.listen]
      split
      · exact refl w
      · split
        · exact refl w
        · exact keep_server rfl rfl rfl fun _ => rfl
  | serverDisconnect s => exact serverDisconnect I w s
  | setNewConnectionHandler s handler =>
      change Balanced w (w.setNewConnectionHandler s handler) (w.serverHas s fun _ => handler.toList)
        (w.serverHas s (·.newConnectionHandler.toList))
      exact modify_server rfl rfl rfl fun server => List.perm_append_comm
  | destroyServer s => exact destroyServer I w s

theorem clientOnDisconnected (w : World η) (c : Ref) : Balanced w (w.clientOnDisconnected c) [] [] := by
  unfold World.clientOnDisconnected
  split
  · exact refl w
  · exact keep_client rfl rfl rfl fun _ => rfl

theorem start (I : Iteration) (w : World η) : Balanced w w.start [] (w.deleted I .start) := by
  cases hrunning : w.running with
  | some running =>
      have hnone : w.deleted I .start = [] := by simp only [deleted, hrunning]
      rw [hnone, start_busy hrunning]
      exact refl w
  | none =>
      cases htasks : w.net.tasks with
      | nil =>
          have hnone : w.deleted I .start = [] := by simp only [deleted, hrunning, htasks]
          rw [hnone, start_idle hrunning htasks]
          exact refl w
      | cons task tasks =>
          have hpopped : Balanced w { w with net := { w.net with tasks } } [] [] := of_eq rfl rfl rfl
          cases hdeliver : w.net.deliver task with
          | nothing =>
              rw [start_nothing hrunning htasks hdeliver]
              simp only [deleted, hrunning, htasks, hdeliver]
              exact hpopped
          | message handler message =>
              rw [start_message hrunning htasks hdeliver]
              simp only [deleted, hrunning, htasks, hdeliver]
              exact of_eq rfl rfl rfl
          | other request =>
              rw [start_other hrunning htasks hdeliver]
              simp only [deleted, hrunning, htasks, hdeliver]
              exact hpopped.trans (connectToServer _ request)
          | disconnected owner =>
              cases owner with
              | client c =>
                  rw [start_client hrunning htasks hdeliver]
                  simp only [deleted, hrunning, htasks, hdeliver]
                  unfold clientDisconnectedHandler
                  split
                  · exact hpopped.trans (clientOnDisconnected _ c)
                  · exact of_eq rfl rfl rfl
              | connection n =>
                  rw [start_connection hrunning htasks hdeliver]
                  cases hn : w.connections.get n with
                  | none =>
                      simp only [deleted, hrunning, htasks, hdeliver, connectionDisconnectedHandler, hn]
                      exact hpopped
                  | some conn =>
                      cases hhandler : conn.disconnectedHandler with
                      | none =>
                          simp only [deleted, hrunning, htasks, hdeliver, connectionDisconnectedHandler,
                            hn, hhandler]
                          exact hpopped.trans (serverOnDisconnected _ conn.server _)
                      | some handler =>
                          simp only [deleted, hrunning, htasks, hdeliver, connectionDisconnectedHandler,
                            hn, hhandler]
                          exact of_eq rfl rfl rfl

theorem resume (I : Iteration) (w : World η) : Balanced w w.resume [] (w.deleted I .resume) := by
  cases hrunning : w.running with
  | none =>
      have hsame : w.resume = w := by
        unfold World.resume
        rw [hrunning]
      rw [hsame]
      simp only [deleted, hrunning]
      exact refl w
  | some running =>
      obtain ⟨invocation, moment⟩ := running
      have hreturned : Balanced w { w with running := none } [] [] := of_eq rfl rfl rfl
      simp only [World.resume, deleted, hrunning]
      cases moment with
      | message => exact hreturned
      | notified c => exact hreturned
      | closingClient c => exact hreturned.trans (clientOnDisconnected _ c)
      | closingConnection n s => exact hreturned.trans (serverOnDisconnected _ s _)
      | connecting ch c s => exact hreturned.trans (clientSetChannel _ c ch)

theorem step (I : Iteration) (w : World η) (step : WorldStep η) :
    Balanced w (w.step I step) (w.taken step) (w.deleted I step) := by
  cases step with
  | newClient =>
      have hnew := Heap.total_alloc w.clients {} fun client => (client.handlers : Multiset η)
      have hnone : ({} : ClientConnectionMock η).handlers = [] := rfl
      simp only [hnone, Multiset.coe_nil, add_zero] at hnew
      refine of_clients ?_ rfl rfl
      unfold clientHandlers
      simp only [World.step, hnew]
      rfl
  | newServer =>
      have hnew := Heap.total_alloc w.servers {} fun server => (server.handlers : Multiset η)
      have hnone : ({} : ConnectionServerMock η).handlers = [] := rfl
      simp only [hnone, Multiset.coe_nil, add_zero] at hnew
      refine of_servers rfl rfl ?_
      unfold serverHandlers
      simp only [World.step, hnew]
      rfl
  | call call =>
      simp only [World.step, taken, deleted]
      split
      · exact perform I w call
      · exact refl w
  | start => exact start I w
  | resume => exact resume I w

theorem run (I : Iteration) (w : World η) (steps : List (WorldStep η)) :
    Balanced w (w.run I steps) (trace (World.step I) taken w steps)
      (trace (World.step I) (deleted I) w steps) := by
  induction steps generalizing w with
  | nil => exact refl w
  | cons first rest ih => exact (step I w first).trans (ih _)

end Balanced

/-- The handlers that live objects take in a run. -/
def takenDuring (I : Iteration) (w : World η) (steps : List (WorldStep η)) : List η :=
  trace (World.step I) taken w steps

def deletedDuring (I : Iteration) (w : World η) (steps : List (WorldStep η)) : List η :=
  trace (World.step I) (deleted I) w steps

theorem held_run (I : Iteration) (steps : List (WorldStep η)) :
    (({} : World η).run I steps).held + (deletedDuring I {} steps : Multiset η) =
      takenDuring I {} steps := by
  have h := Balanced.run I {} steps
  have hempty : ({} : World η).held = 0 := rfl
  unfold Balanced at h
  rwa [hempty, zero_add] at h

/-! The handlers that are called. -/

/-- The handler that is running is one that somebody has. -/
def CallsHeld (w : World η) : Prop := ∀ running ∈ w.running, running.1.handler ∈ w.held

section Calls
variable {w : World η} {handler : η}

theorem held_of_client {c : Ref} {client : ClientConnectionMock η} (hc : w.clients.get c = some client)
    (h : handler ∈ client.handlers) : handler ∈ w.held := by
  unfold held clientHandlers
  rw [Multiset.mem_add, Multiset.mem_add]
  exact .inl (.inl (Heap.mem_total.mpr ⟨c, client, hc, h⟩))

theorem held_of_connection {n : Ref} {conn : ConnectionMock η} (hn : w.connections.get n = some conn)
    (h : handler ∈ conn.handlers) : handler ∈ w.held := by
  unfold held connectionHandlers
  rw [Multiset.mem_add, Multiset.mem_add]
  exact .inl (.inr (Heap.mem_total.mpr ⟨n, conn, hn, h⟩))

theorem held_of_server {s : Ref} {server : ConnectionServerMock η} (hs : w.servers.get s = some server)
    (h : handler ∈ server.handlers) : handler ∈ w.held := by
  unfold held serverHandlers
  rw [Multiset.mem_add]
  exact .inr (Heap.mem_total.mpr ⟨s, server, hs, h⟩)

theorem held_of_handlerOf {owner : Option Owner} (h : w.handlerOf owner = some handler) :
    handler ∈ w.held := by
  cases owner with
  | none => cases h
  | some owner =>
      cases owner with
      | client c =>
          obtain ⟨client, hc, hhandler⟩ := handlerOf_client.mp h
          exact held_of_client hc (by simp [ClientConnectionMock.handlers, hhandler])
      | connection n =>
          obtain ⟨conn, hn, hhandler⟩ := handlerOf_connection.mp h
          exact held_of_connection hn (by simp [ConnectionMock.handlers, hhandler])

theorem CallsHeld.of_none (h : w.running = none) : w.CallsHeld := by
  intro running hrunning
  rw [h] at hrunning
  cases hrunning

theorem callsHeld_clientSetChannel (h : w.running = none) (c ch : Ref) :
    (w.clientSetChannel c ch).CallsHeld := by
  unfold clientSetChannel
  split
  · exact .of_none h
  next client hc =>
    split
    · exact .of_none h
    · intro running hrunning
      obtain ⟨handler, hhandler, rfl⟩ := Option.map_eq_some_iff.mp hrunning
      have hget : (w.clients.modify c fun client => { client with channel := some ch }).get c =
          some { client with channel := some ch } := by
        rw [Heap.get_modify_self, hc, Option.map_some]
      refine held_of_client hget ?_
      simp [ClientConnectionMock.handlers, Invocation.handler, hhandler]

theorem callsHeld_addConnection (h : w.running = none) (s n : Ref) (next : Moment) :
    (w.addConnection s n next).CallsHeld := by
  unfold addConnection
  split
  · exact .of_none h
  next server hs =>
    split
    · exact .of_none h
    · intro running hrunning
      obtain ⟨handler, hhandler, rfl⟩ := Option.map_eq_some_iff.mp hrunning
      have hget : (w.servers.modify s fun server => { server with
          connections := server.connections.insert (w.connectionPeerId n) n }).get s =
            some { server with connections := server.connections.insert (w.connectionPeerId n) n } := by
        rw [Heap.get_modify_self, hs, Option.map_some]
      refine held_of_server hget ?_
      simp [ConnectionServerMock.handlers, Invocation.handler, hhandler]

theorem callsHeld_connectToServer (h : w.running = none) (task : ConnectToServerTask) :
    (w.connectToServer task).CallsHeld := by
  cases hs : w.serversMap task.serverId with
  | none =>
      unfold connectToServer
      rw [hs]
      exact .of_none h
  | some s =>
      cases hc : w.clientsMap task.clientId with
      | none =>
          unfold connectToServer
          rw [hs, hc]
          exact .of_none h
      | some c =>
          rw [connectToServer_eq task hs hc]
          have hadded := callsHeld_addConnection (w := w.opened s task) h s w.connections.next
            (.connecting (w.net.channels.next + 1) c s)
          simp only
          split
          · exact hadded
          next hnone =>
            rw [Bool.not_eq_true, Option.isSome_eq_false_iff, Option.isNone_iff_eq_none] at hnone
            exact callsHeld_clientSetChannel hnone c _

theorem callsHeld_clientDisconnectedHandler (h : w.running = none) (c : Ref) :
    (w.clientDisconnectedHandler c).CallsHeld := by
  unfold clientDisconnectedHandler
  cases hhandler : (w.clients.get c).bind (·.disconnectedHandler) with
  | none => exact .of_none ((running_clientOnDisconnected w c).trans h)
  | some handler =>
      obtain ⟨client, hc, hsome⟩ := Option.bind_eq_some_iff.mp hhandler
      intro running hrunning
      cases hrunning
      refine held_of_client hc ?_
      simp [ClientConnectionMock.handlers, Invocation.handler, hsome]

theorem callsHeld_connectionDisconnectedHandler (h : w.running = none) (n : Ref) :
    (w.connectionDisconnectedHandler n).CallsHeld := by
  unfold connectionDisconnectedHandler
  cases hn : w.connections.get n with
  | none => exact .of_none h
  | some conn =>
      cases hhandler : conn.disconnectedHandler with
      | none =>
          simp only [hhandler]
          exact .of_none ((running_serverOnDisconnected ..).trans h)
      | some handler =>
          simp only [hhandler]
          intro running hrunning
          cases hrunning
          refine held_of_connection hn ?_
          simp [ConnectionMock.handlers, Invocation.handler, hhandler]

theorem channel_of_deliver {net : Net η Owner ConnectToServerTask} {task : Task ConnectToServerTask}
    {message : Bytes} (h : net.deliver task = .message handler message) :
    ∃ a channel, net.channels.get a = some channel ∧ channel.messageHandler = some handler := by
  cases task with
  | sendMessage sent a =>
      unfold Net.deliver at h
      cases hhandler : (net.channels.get a).bind (·.messageHandler) with
      | none => simp [hhandler] at h
      | some own =>
          simp only [hhandler] at h
          cases h
          obtain ⟨channel, hget, hsome⟩ := Option.bind_eq_some_iff.mp hhandler
          exact ⟨a, channel, hget, hsome⟩
  | disconnect a =>
      unfold Net.deliver at h
      cases hhandler : (net.channels.get a).bind (·.disconnectedHandler) <;> simp [hhandler] at h
  | other request => cases h

/-- The second handler of a task. -/
theorem callsHeld_resume (w : World η) : w.resume.CallsHeld := by
  rcases running_resume w with hnone | ⟨⟨i, q, c, s, hconnecting⟩, -⟩
  · exact .of_none hnone
  · unfold resume
    rw [hconnecting]
    exact callsHeld_clientSetChannel (w := { w with running := none }) rfl c q

/-- The handler that a task calls first. -/
theorem callsHeld_start (h : w.Current) (hidle : w.running = none) : w.start.CallsHeld := by
  cases htasks : w.net.tasks with
  | nil =>
      rw [start_idle hidle htasks]
      exact .of_none hidle
  | cons task tasks =>
      cases hdeliver : w.net.deliver task with
      | nothing =>
          rw [start_nothing hidle htasks hdeliver]
          exact .of_none hidle
      | message handler message =>
          rw [start_message hidle htasks hdeliver]
          intro running hrunning
          cases hrunning
          -- the channel's handler is the one that its owner has
          obtain ⟨a, channel, hget, hhandler⟩ := channel_of_deliver hdeliver
          have hown := h _ channel hget
          rw [hhandler, eq_comm] at hown
          exact held_of_handlerOf hown
      | other request =>
          rw [start_other hidle htasks hdeliver]
          exact callsHeld_connectToServer (w := { w with net := { w.net with tasks } }) hidle request
      | disconnected owner =>
          cases owner with
          | client c =>
              rw [start_client hidle htasks hdeliver]
              exact callsHeld_clientDisconnectedHandler (w := { w with net := { w.net with tasks } }) hidle c
          | connection n =>
              rw [start_connection hidle htasks hdeliver]
              exact callsHeld_connectionDisconnectedHandler (w := { w with net := { w.net with tasks } })
                hidle n

end Calls

/-- The only steps that call a handler are the start of a task and the return of a handler. -/
theorem callsHeld_step (I : Iteration) {w : World η} (h : w.Current) (step : WorldStep η)
    (hcalls : (w.step I step).running ≠ w.running) :
    (w.step I step).CallsHeld ∧ w.taken step = [] := by
  cases step with
  | newClient => exact absurd rfl hcalls
  | newServer => exact absurd rfl hcalls
  | call call =>
      refine absurd ?_ hcalls
      simp only [World.step]
      split
      · exact running_perform I w call
      · rfl
  | start =>
      cases hrunning : w.running with
      | none => exact ⟨callsHeld_start h hrunning, rfl⟩
      | some running =>
          refine absurd ?_ hcalls
          rw [World.step, start_busy hrunning]
  | resume => exact ⟨callsHeld_resume w, rfl⟩

/-- In an orderly run in which no handler object is passed twice: every handler that was passed to
a live object has been deleted, or somebody has it still; none is deleted twice; a handler that
the next step calls is one that somebody has, and has not been deleted; when every client and
every server has been destroyed, all handlers are deleted. -/
theorem handlers_deleted_once (I : Iteration) (steps : List (WorldStep η))
    (hsteps : ({} : World η).along I orderly steps = true)
    (honce : (takenDuring I ({} : World η) steps).Nodup) :
    (({} : World η).run I steps).held + (deletedDuring I {} steps : Multiset η) =
      takenDuring I {} steps ∧
    (deletedDuring I ({} : World η) steps).Nodup ∧
    (∀ step, ((({} : World η).run I steps).step I step).running ≠ (({} : World η).run I steps).running →
      ∀ running ∈ ((({} : World η).run I steps).step I step).running,
        running.1.handler ∈ ((({} : World η).run I steps).step I step).held ∧
          running.1.handler ∉ deletedDuring I {} (steps ++ [step])) ∧
    ((∀ c, (({} : World η).run I steps).clients.get c = none) →
      (∀ s, (({} : World η).run I steps).servers.get s = none) →
        (deletedDuring I ({} : World η) steps).Perm (takenDuring I {} steps)) := by
  have hcurrent : (({} : World η).run I steps).Current :=
    (Attached.empty.run I steps).current
  have hheld := held_run (η := η) I steps
  refine ⟨hheld, ?_, ?_, ?_⟩
  · apply Multiset.coe_nodup.mp
    apply Multiset.nodup_of_le _ (Multiset.coe_nodup.mpr honce)
    rw [← hheld]
    exact Multiset.le_add_left _ _
  · intro step hcalls running hrunning
    obtain ⟨hcallsHeld, htaken⟩ := callsHeld_step I hcurrent step hcalls
    have hmem := hcallsHeld running hrunning
    have hrun : ({} : World η).run I (steps ++ [step]) = (({} : World η).run I steps).step I step :=
      run_append I {} steps [step]
    have htakenStep : takenDuring I ({} : World η) (steps ++ [step]) = takenDuring I {} steps := by
      unfold takenDuring
      rw [trace_append, trace, trace]
      exact (congrArg (_ ++ ·) (congrArg (· ++ []) htaken)).trans (List.append_nil _)
    have hstep := held_run (η := η) I (steps ++ [step])
    rw [htakenStep, hrun] at hstep
    have hnodup := Multiset.coe_nodup.mpr honce
    rw [← hstep, Multiset.nodup_add] at hnodup
    exact ⟨hmem, Multiset.disjoint_left.mp hnodup.2.2 hmem⟩
  · intro hclients hservers
    obtain ⟨floating, closing, -, hw⟩ := settled_orderly I steps hsteps
    have hconnections := connections_gone hw.owned hservers
    have hempty : (({} : World η).run I steps).held = 0 := by
      unfold held clientHandlers connectionHandlers serverHandlers
      rw [Heap.total_eq_zero fun c client hc => absurd hc (by simp [hclients]),
        Heap.total_eq_zero fun n conn hn => absurd hn (by simp [hconnections]),
        Heap.total_eq_zero fun s server hs => absurd hs (by simp [hservers])]
      rfl
    rw [hempty, zero_add] at hheld
    exact Multiset.coe_eq_coe.mp hheld

/-- A handler replaces itself while it runs, and the server goes with what it has. -/
def handlersRun : List (WorldStep Nat) :=
  [.newClient, .newServer, .call (.bind 0 7), .call (.listen 0 5),
    .call (.setNewConnectionHandler 0 (some 1)), .call (.setConnectedHandler 0 (some 2)),
    .call (.connectToHost 0 5), .start, .call (.connectionSetMessageHandler 0 (some 3)),
    .call (.setNewConnectionHandler 0 (some 4)), .resume, .resume, .call (.destroyServer 0)]

theorem handlers_deleted_once_replaced :
    (({} : World Nat).run .byEntry handlersRun).held + {1, 4, 3} = {1, 2, 3, 4} := by
  have h := (handlers_deleted_once .byEntry handlersRun (by decide) (by decide)).1
  have hdeleted : deletedDuring .byEntry ({} : World Nat) handlersRun = [1, 4, 3] := by decide
  have htaken : takenDuring .byEntry ({} : World Nat) handlersRun = [1, 2, 3, 4] := by decide
  rw [hdeleted, htaken] at h
  exact h

end World
end DeviceMonitoring
