import DeviceMonitoring.ConnectionTasks
import DeviceMonitoring.Teardown
import Mathlib.Logic.Relation

/-! What the calls and the tasks change, one change at a time. What every change of a step keeps is
kept by the step. -/
namespace DeviceMonitoring
variable {η : Type}

namespace Net
variable {μ δ τ β : Type} {p : ConnectionChannel μ δ → β} {net net' net'' : Net μ δ τ}

theorem next_disconnect (net : Net μ δ τ) (ch : Ref) :
    (net.disconnect ch).channels.next = net.channels.next := by
  obtain ⟨-, met, -, hoff⟩ := disconnect_meets net ch
  exact hoff.next

theorem next_destroy (net : Net μ δ τ) (ch : Ref) :
    (net.destroy ch).channels.next = net.channels.next := by
  unfold destroy disconnectPeer
  split
  · rfl
  · exact next_disconnect net _

/-- No channel comes, and none changes what `p` reads of it. -/
def Retains (p : ConnectionChannel μ δ → β) (net net' : Net μ δ τ) : Prop :=
  ∀ a channel', net'.channels.get a = some channel' → ∃ channel, net.channels.get a = some channel ∧
    p channel' = p channel

namespace Retains

theorem of_channels (h : net'.channels = net.channels) : Retains p net net' := by
  intro a channel hget
  rw [h] at hget
  exact ⟨channel, hget, rfl⟩

theorem trans (h : Retains p net net') (h' : Retains p net' net'') : Retains p net net'' := by
  intro a channel'' hget
  obtain ⟨channel', hget', hsame'⟩ := h' a channel'' hget
  obtain ⟨channel, hget, hsame⟩ := h a channel' hget'
  exact ⟨channel, hget, hsame'.trans hsame⟩

theorem disconnect (hp : ∀ c, p (switchOff c) = p c) (net : Net μ δ τ) (ch : Ref) :
    Retains p net (net.disconnect ch) := by
  intro a channel' hget
  have hmap := net.map_disconnect ch a
  rw [hget, Option.map_some, eq_comm, Option.map_eq_some_iff] at hmap
  obtain ⟨channel, hget, heq⟩ := hmap
  exact ⟨channel, hget, by rw [← hp channel', ← hp channel, heq]⟩

theorem destroy (hp : ∀ c, p (switchOff c) = p c) (net : Net μ δ τ) (ch : Ref) :
    Retains p net (net.destroy ch) := by
  have hpeer : Retains p net (net.disconnectPeer ch) := by
    unfold disconnectPeer
    split
    · exact of_channels rfl
    · exact disconnect hp net _
  refine hpeer.trans ?_
  intro a channel hget
  exact ⟨channel, (Heap.get_free_eq_some.mp hget).2, rfl⟩

theorem modify (net : Net μ δ τ) (ch : Ref) {f : ConnectionChannel μ δ → ConnectionChannel μ δ}
    (hf : ∀ c, p (f c) = p c) : Retains p net { net with channels := net.channels.modify ch f } := by
  intro a channel' hget'
  obtain ⟨channel, hget, rfl⟩ := Heap.get_modify_eq_some.mp hget'
  refine ⟨channel, hget, ?_⟩
  split
  · exact hf channel
  · rfl

end Retains
end Net

/-- A change to an object, to one of the maps, or to the queue. -/
inductive Change (η : Type) where
  | popped
  | turned (running : Option (Invocation η × Moment))
  | sent (channel : Ref) (message : Bytes)
  | disconnected (channel : Ref)
  | destroyed (channel : Ref)
  | requested (client : Ref) (task : ConnectToServerTask)
  | clientId (client : Ref) (clientId : UInt64)
  | findsClient (clientId : UInt64) (client : Option Ref)
  | serverId (server : Ref) (serverId : UInt64)
  | findsServer (serverId : UInt64) (server : Option Ref)
  | messageHandler (owner : Owner) (handler : Option η)
  | disconnectedHandler (owner : Owner) (handler : Option η)
  | connectedHandler (client : Ref) (handler : Option η)
  | newConnectionHandler (server : Ref) (handler : Option η)
  | opened (server : Ref) (task : ConnectToServerTask)
  | adopted (client channel : Ref)
  | released (client : Ref)
  | entered (server : Ref) (clientId : UInt64) (connection : Ref)
  | erased (server : Ref) (clientId : UInt64)
  | newClient
  | newServer
  | clientGone (client : Ref)
  | connectionGone (connection : Ref)
  | serverGone (server : Ref)

namespace World

def change (w : World η) : Change η → World η
  | .popped => { w with net := { w.net with tasks := w.net.tasks.tail } }
  | .turned running => { w with running }
  | .sent ch message => { w with net := w.net.sendMessage ch message }
  | .disconnected ch => { w with net := w.net.disconnect ch }
  | .destroyed ch => { w with net := w.net.destroy ch }
  | .requested c task =>
      { w with
        net := w.net.scheduleTask (.other task)
        requests := w.requests ++ [(c, task.serverId)] }
  | .clientId c clientId =>
      { w with clients := w.clients.modify c fun client => { client with clientId } }
  | .findsClient clientId c => { w with clientsMap := Function.update w.clientsMap clientId c }
  | .serverId s serverId =>
      { w with servers := w.servers.modify s fun server => { server with serverId } }
  | .findsServer serverId s => { w with serversMap := Function.update w.serversMap serverId s }
  | .messageHandler (.client c) handler => w.clientSetMessageHandler c handler
  | .messageHandler (.connection n) handler => w.connectionSetMessageHandler n handler
  | .disconnectedHandler (.client c) handler => w.clientSetDisconnectedHandler c handler
  | .disconnectedHandler (.connection n) handler => w.connectionSetDisconnectedHandler n handler
  | .connectedHandler c handler => w.setConnectedHandler c handler
  | .newConnectionHandler s handler => w.setNewConnectionHandler s handler
  | .opened s task => w.opened s task
  | .adopted c ch => w.clientSetChannel c ch
  | .released c => { w with clients := w.clients.modify c fun client => { client with channel := none } }
  | .entered s clientId n =>
      { w with servers := w.servers.modify s fun server =>
        { server with connections := server.connections.insert clientId n } }
  | .erased s clientId =>
      { w with servers := w.servers.modify s fun server =>
        { server with connections := server.connections.erase clientId } }
  | .newClient => { w with clients := w.clients.alloc {} }
  | .newServer => { w with servers := w.servers.alloc {} }
  | .clientGone c => { w with clients := w.clients.free c }
  | .connectionGone n => { w with connections := w.connections.free n }
  | .serverGone s => { w with servers := w.servers.free s }

/-- The channel belongs to nobody yet, or is gone. -/
structure Unowned (w : World η) (q : Ref) : Prop where
  bound : q < w.net.channels.next
  owner : ∀ channel, w.net.channels.get q = some channel → channel.disconnectedHandler = none

theorem unowned_opened (w : World η) (s : Ref) (task : ConnectToServerTask) :
    (w.opened s task).Unowned (w.net.channels.next + 1) := by
  refine ⟨Nat.lt_succ_self _, fun channel hget => ?_⟩
  rcases Heap.get_alloc_eq_some.mp hget with ⟨-, rfl⟩ | hget
  · rfl
  · exact absurd (Heap.lt_next hget) (Nat.lt_irrefl _)

theorem Unowned.retains {w w' : World η} {q : Ref} (h : w.Unowned q)
    (hnext : w.net.channels.next ≤ w'.net.channels.next)
    (hnet : Net.Retains (·.disconnectedHandler) w.net w'.net) : w'.Unowned q := by
  refine ⟨Nat.lt_of_lt_of_le h.bound hnext, fun channel' hget' => ?_⟩
  obtain ⟨channel, hget, hsame⟩ := hnet q channel' hget'
  exact hsame.trans (h.owner channel hget)

theorem Unowned.addConnection {w : World η} {q : Ref} (h : w.Unowned q) (s n : Ref) (next : Moment) :
    (w.addConnection s n next).Unowned q := by
  unfold World.addConnection World.destroyConnection
  split
  · exact h
  · split
    · apply h.retains
      · simp only
        split
        · exact Nat.le_refl _
        next b _ => exact Nat.le_of_eq (w.net.next_destroy b).symm
      · simp only
        split
        · exact .of_channels rfl
        · exact .destroy (fun _ => rfl) _ _
    · exact ⟨h.bound, h.owner⟩

/-- What the code has made sure of where the change is made. -/
def Fits (w : World η) : Change η → Prop
  | .turned running => ∀ invocation q c s, running = some (invocation, .connecting q c s) → w.Unowned q
  | .clientId c _ => w.clientChannel c = none
  | .opened s _ => ∃ serverId, w.serversMap serverId = some s
  | .entered s _ _ => ∃ serverId, w.serversMap serverId = some s
  | .adopted c q => (∃ client, w.clients.get c = some client ∧ client.channel = none) ∧
      (w.Unowned q ∨ ∃ invocation s, w.running = some (invocation, .connecting q c s))
  | .released c => ∀ a, w.clientChannel c = some a → w.net.channels.get a = none
  | .clientGone c => ∀ a, w.clientChannel c = some a → w.net.channels.get a = none
  | .connectionGone n => ∀ b, w.connectionChannel n = some b → w.net.channels.get b = none
  | _ => True

/-- The channel that a client is waiting for belongs to nobody yet. -/
def Waits (w : World η) : Prop :=
  ∀ invocation q c s, w.running = some (invocation, .connecting q c s) → w.Unowned q

theorem Waits.retains {w w' : World η} (h : w.Waits) (hrunning : w'.running = w.running)
    (hnext : w.net.channels.next ≤ w'.net.channels.next)
    (hnet : Net.Retains (·.disconnectedHandler) w.net w'.net) : w'.Waits :=
  fun invocation q c s hrun => (h invocation q c s (hrunning ▸ hrun)).retains hnext hnet

theorem Waits.change {w : World η} (h : w.Waits) {change : Change η} (hfits : w.Fits change) :
    (w.change change).Waits := by
  cases change with
  | turned running =>
      exact fun invocation q c s hrun =>
        (hfits invocation q c s hrun).retains (Nat.le_refl _) (.of_channels rfl)
  | sent ch message =>
      have hchannels := Net.channels_sendMessage w.net ch message
      exact h.retains rfl (Nat.le_of_eq (congrArg Heap.next hchannels).symm) (.of_channels hchannels)
  | disconnected ch =>
      exact h.retains rfl (Nat.le_of_eq (w.net.next_disconnect ch).symm) (.disconnect (fun _ => rfl) _ ch)
  | destroyed ch =>
      exact h.retains rfl (Nat.le_of_eq (w.net.next_destroy ch).symm) (.destroy (fun _ => rfl) _ ch)
  | messageHandler owner handler =>
      cases owner with
      | client c =>
          simp only [World.change, clientSetMessageHandler]
          split
          · exact h.retains rfl (Nat.le_refl _) (.of_channels rfl)
          · exact h.retains rfl (Nat.le_refl _) (.modify _ _ fun _ => rfl)
      | connection n =>
          simp only [World.change, connectionSetMessageHandler]
          split
          · exact h.retains rfl (Nat.le_refl _) (.of_channels rfl)
          · exact h.retains rfl (Nat.le_refl _) (.modify _ _ fun _ => rfl)
  | disconnectedHandler owner handler =>
      cases owner <;> exact h.retains rfl (Nat.le_refl _) (.of_channels rfl)
  | opened s task =>
      intro invocation q c t hrun
      obtain ⟨hq, howner⟩ := h invocation q c t hrun
      refine ⟨Nat.lt_succ_of_lt (Nat.lt_succ_of_lt hq), fun channel hget => ?_⟩
      rcases Heap.get_alloc_eq_some.mp hget with ⟨rfl, -⟩ | hget
      · exact absurd hq (Nat.not_lt.mpr (Nat.le_succ _))
      · rcases Heap.get_alloc_eq_some.mp hget with ⟨rfl, -⟩ | hget
        · exact absurd hq (Nat.lt_irrefl _)
        · exact howner channel hget
  | adopted c q =>
      -- from here on it is the client's turn
      obtain ⟨⟨client, hc, hch⟩, -⟩ := hfits
      intro invocation p d s hrun
      simp only [World.change, clientSetChannel, hc, hch] at hrun
      obtain ⟨handler, -, heq⟩ := Option.map_eq_some_iff.mp hrun
      cases heq
  | _ => exact h.retains rfl (Nat.le_refl _) (.of_channels rfl)

/-- The second world comes of the first by changes of a kind, each where it fits. -/
def Changes (may : Change η → Prop) : World η → World η → Prop :=
  Relation.ReflTransGen fun w w' => ∃ change, may change ∧ w.Fits change ∧ w' = w.change change

namespace Changes
variable {may may' : Change η → Prop} {w w' w'' : World η}

theorem refl (w : World η) : Changes may w w := Relation.ReflTransGen.refl

theorem trans (h : Changes may w w') (h' : Changes may w' w'') : Changes may w w'' :=
  Relation.ReflTransGen.trans h h'

theorem one (w : World η) (change : Change η) (hmay : may change) (hfits : w.Fits change) :
    Changes may w (w.change change) :=
  .single ⟨change, hmay, hfits, rfl⟩

theorem next (h : Changes may w w') (change : Change η) (hmay : may change) (hfits : w'.Fits change) :
    Changes may w (w'.change change) :=
  h.trans (one w' change hmay hfits)

theorem mono (h : Changes may w w') (hmay : ∀ change, may change → may' change) :
    Changes may' w w' := by
  refine Relation.ReflTransGen.mono ?_ _ _ h
  rintro _ _ ⟨change, hchange, hfits, rfl⟩
  exact ⟨change, hmay change hchange, hfits, rfl⟩

/-- What holds of every change, of none and of one after the other, holds of the whole. -/
theorem lift {R : World η → World η → Prop} (hrefl : ∀ w, R w w)
    (htrans : ∀ w w' w'', R w w' → R w' w'' → R w w'')
    (hchange : ∀ w change, may change → w.Fits change → R w (w.change change))
    (h : Changes may w w') : R w w' := by
  induction h with
  | refl => exact hrefl w
  | tail _ hlast ih =>
      obtain ⟨change, hmay, hfits, rfl⟩ := hlast
      exact htrans _ _ _ ih (hchange _ change hmay hfits)

/-- What every change keeps. -/
theorem keep {P : World η → Prop}
    (hchange : ∀ w change, P w → may change → w.Fits change → P (w.change change))
    (h : Changes may w w') (hw : P w) : P w' :=
  lift (R := fun w w' => P w → P w') (fun _ h => h) (fun _ _ _ h h' hw => h' (h hw))
    (fun w change hmay hfits hw => hchange w change hw hmay hfits) h hw

/-! The functions of the classes. -/

theorem connectionDisconnect (hmay : ∀ ch, may (.disconnected ch)) (w : World η) (n : Ref) :
    Changes may w (w.connectionDisconnect n) := by
  unfold World.connectionDisconnect
  split
  · exact refl w
  next ch _ => exact one w _ (hmay ch) trivial

theorem disconnectAll (hmay : ∀ ch, may (.disconnected ch)) (w : World η)
    (entries : List (Sigma fun _ : UInt64 => Ref)) :
    Changes may w (entries.foldl (fun w e => w.connectionDisconnect e.2) w) := by
  induction entries generalizing w with
  | nil => exact refl w
  | cons e entries ih => exact (connectionDisconnect hmay w e.2).trans (ih _)

theorem get_destroy_self (w : World η) (ch : Ref) :
    (w.change (.destroyed ch)).net.channels.get ch = none := by
  simp only [change, Net.destroy, Heap.get_free_self]

theorem destroyConnection (hdestroyed : ∀ ch, may (.destroyed ch)) (hgone : ∀ n, may (.connectionGone n))
    (w : World η) (n : Ref) : Changes may w (w.destroyConnection n) := by
  unfold World.destroyConnection
  cases hb : w.connectionChannel n with
  | none =>
      refine one w (.connectionGone n) (hgone n) fun b hb' => ?_
      rw [hb] at hb'
      cases hb'
  | some b =>
      refine (one w _ (hdestroyed b) trivial).trans
        (one _ (.connectionGone n) (hgone n) fun b' hb' => ?_)
      have hsame : w.connectionChannel n = some b' := hb'
      rw [hb] at hsame
      cases hsame
      exact get_destroy_self w b

theorem destroyAll (hdestroyed : ∀ ch, may (.destroyed ch)) (hgone : ∀ n, may (.connectionGone n))
    (w : World η) (entries : List (Sigma fun _ : UInt64 => Ref)) :
    Changes may w (entries.foldl (fun w e => w.destroyConnection e.2) w) := by
  induction entries generalizing w with
  | nil => exact refl w
  | cons e entries ih => exact (destroyConnection hdestroyed hgone w e.2).trans (ih _)

theorem serverOnDisconnected (hdestroyed : ∀ ch, may (.destroyed ch))
    (hgone : ∀ n, may (.connectionGone n)) (w : World η) (s : Ref) (k : UInt64)
    (herased : may (.erased s k)) : Changes may w (w.serverOnDisconnected s k) := by
  unfold World.serverOnDisconnected
  split
  · exact refl w
  next n _ => exact (destroyConnection hdestroyed hgone w n).trans (one _ _ herased trivial)

theorem clientOnDisconnected (hdestroyed : ∀ ch, may (.destroyed ch)) (w : World η) (c : Ref)
    (hreleased : may (.released c)) : Changes may w (w.clientOnDisconnected c) := by
  unfold World.clientOnDisconnected
  cases ha : w.clientChannel c with
  | none => exact refl w
  | some a =>
      refine (one w _ (hdestroyed a) trivial).trans
        (one _ (.released c) hreleased fun a' ha' => ?_)
      have hsame : w.clientChannel c = some a' := ha'
      rw [ha] at hsame
      cases hsame
      exact get_destroy_self w a

/-- The client takes the channel, or destroys it when it has one already. -/
theorem clientSetChannel (hdestroyed : ∀ ch, may (.destroyed ch)) (hadopted : ∀ c q, may (.adopted c q))
    (w : World η) (c : Ref) {q : Ref} (hq : w.Unowned q) : Changes may w (w.clientSetChannel c q) := by
  cases hc : w.clients.get c with
  | none =>
      simp only [World.clientSetChannel, hc]
      exact refl w
  | some client =>
      cases hch : client.channel with
      | some a =>
          simp only [World.clientSetChannel, hc, hch]
          exact one w _ (hdestroyed q) trivial
      | none => exact one w _ (hadopted c q) ⟨⟨client, hc, hch⟩, .inl hq⟩

end Changes
end World

/-- The changes that a call may make. -/
def Call.changes : Call η → Change η → Prop
  | .bind c _, .clientId d _ => d = c
  | .bind c _, .findsClient _ d => ∀ e ∈ d, e = c
  | .connectToHost c _, .requested d _ => d = c
  | .clientDisconnect _, .disconnected _ => True
  | .clientSendMessage _ sent, .sent _ message => message = sent
  | .clientSetMessageHandler c handler, .messageHandler owner given => owner = .client c ∧ given = handler
  | .clientSetDisconnectedHandler c _, .disconnectedHandler owner _ => owner = .client c
  | .setConnectedHandler c _, .connectedHandler d _ => d = c
  | .destroyClient _, .destroyed _ => True
  | .destroyClient _, .findsClient _ d => d = none
  | .destroyClient c, .clientGone d => d = c
  | .connectionDisconnect _, .disconnected _ => True
  | .connectionSendMessage _ sent, .sent _ message => message = sent
  | .connectionSetMessageHandler n handler, .messageHandler owner given =>
      owner = .connection n ∧ given = handler
  | .connectionSetDisconnectedHandler n _, .disconnectedHandler owner _ => owner = .connection n
  | .listen s _, .serverId t _ => t = s
  | .listen s _, .findsServer _ t => t = some s
  | .serverDisconnect _, .disconnected _ => True
  | .serverDisconnect s, .serverId t _ => t = s
  | .serverDisconnect _, .findsServer _ t => t = none
  | .setNewConnectionHandler s _, .newConnectionHandler t _ => t = s
  | .destroyServer _, .destroyed _ => True
  | .destroyServer _, .connectionGone _ => True
  | .destroyServer _, .findsServer _ t => t = none
  | .destroyServer s, .serverGone t => t = s
  | _, _ => False

/-- The changes that a task may make when its handler has returned. -/
def Change.onReturn : Change η → Prop
  | .turned _ | .destroyed _ | .adopted .. | .released _ | .erased .. | .connectionGone _ => True
  | _ => False

/-- The changes that a task may make when it has left the queue. -/
def Change.onStart : Change η → Prop
  | .opened .. | .entered .. => True
  | change => change.onReturn

/-- The changes that a task may make. -/
def Change.byTask : Change η → Prop
  | .popped => True
  | change => change.onStart

/-- The changes that a step may make. -/
def WorldStep.changes : WorldStep η → Change η → Prop
  | .newClient, .newClient => True
  | .newServer, .newServer => True
  | .call made, change => made.changes change
  | .start, change => change.byTask
  | .resume, change => change.onReturn
  | _, _ => False

namespace World
namespace Changes

theorem perform (I : Iteration) (w : World η) (call : Call η) :
    Changes call.changes w (w.perform I call) := by
  cases call with
  | bind c clientId =>
      simp only [World.perform, World.bind]
      split
      · exact refl w
      next client hc =>
        split
        · exact refl w
        next hguard =>
          have hfree : w.clientChannel c = none := by
            rw [clientChannel, hc, Option.bind_some]
            cases hch : client.channel with
            | none => rfl
            | some a => simp [hch] at hguard
          have hlast : (({ w with clientsMap := Function.update (Function.update w.clientsMap
              client.clientId none) clientId (some c) } : World η)).Fits (.clientId c clientId) := hfree
          have hunlisted : Changes (Call.bind (η := η) c clientId).changes w
              (w.change (.findsClient client.clientId none)) := one w _ (fun _ h => by cases h) trivial
          exact (hunlisted.next (.findsClient clientId (some c)) (fun _ h => by cases h; rfl)
            trivial).next (.clientId c clientId) rfl hlast
  | connectToHost c serverId =>
      simp only [World.perform, connectToHost]
      split
      · exact refl w
      next client _ =>
        split
        · exact refl w
        · exact one w (.requested c ⟨client.clientId, serverId⟩) rfl trivial
  | clientDisconnect c =>
      simp only [World.perform, clientDisconnect]
      split
      · exact refl w
      next ch _ => exact one w (.disconnected ch) trivial trivial
  | clientSendMessage c message =>
      simp only [World.perform, clientSendMessage]
      split
      · exact refl w
      next ch _ => exact one w (.sent ch message) rfl trivial
  | clientSetMessageHandler c handler =>
      exact one w (.messageHandler (.client c) handler) ⟨rfl, rfl⟩ trivial
  | clientSetDisconnectedHandler c handler =>
      exact one w (.disconnectedHandler (.client c) handler) rfl trivial
  | setConnectedHandler c handler => exact one w (.connectedHandler c handler) rfl trivial
  | destroyClient c =>
      simp only [World.perform, World.destroyClient]
      split
      · exact refl w
      next client hc =>
        have hunlisted : Changes (Call.destroyClient (η := η) c).changes w
            (w.change (.findsClient client.clientId none)) := one w _ rfl trivial
        cases hch : client.channel with
        | none =>
            refine hunlisted.trans (one _ (.clientGone c) rfl fun a ha => ?_)
            have hnone : w.clientChannel c = some a := ha
            rw [clientChannel, hc, Option.bind_some, hch] at hnone
            cases hnone
        | some b =>
            refine (hunlisted.trans (one _ (.destroyed b) trivial trivial)).trans
              (one _ (.clientGone c) rfl fun a ha => ?_)
            have hown : w.clientChannel c = some a := ha
            rw [clientChannel, hc, Option.bind_some, hch] at hown
            cases hown
            exact get_destroy_self _ b
  | connectionDisconnect n => exact connectionDisconnect (fun _ => trivial) w n
  | connectionSendMessage n message =>
      simp only [World.perform, connectionSendMessage]
      split
      · exact refl w
      next ch _ => exact one w (.sent ch message) rfl trivial
  | connectionSetMessageHandler n handler =>
      exact one w (.messageHandler (.connection n) handler) ⟨rfl, rfl⟩ trivial
  | connectionSetDisconnectedHandler n handler =>
      exact one w (.disconnectedHandler (.connection n) handler) rfl trivial
  | listen s serverId =>
      simp only [World.perform, World.listen]
      split
      · exact refl w
      · split
        · exact refl w
        · have hserver : Changes (Call.listen (η := η) s serverId).changes w
              (w.change (.serverId s serverId)) := one w _ rfl trivial
          exact hserver.next (.findsServer serverId (some s)) rfl trivial
  | serverDisconnect s =>
      simp only [World.perform, World.serverDisconnect]
      split
      · exact refl w
      next server _ =>
        have hloop : Changes (Call.serverDisconnect (η := η) s).changes w _ :=
          disconnectAll (fun _ => trivial) w (I.entries server.connections)
        exact (hloop.next (.findsServer server.serverId none) rfl trivial).next (.serverId s 0) rfl trivial
  | setNewConnectionHandler s handler =>
      exact one w (.newConnectionHandler s handler) rfl trivial
  | destroyServer s =>
      simp only [World.perform, World.destroyServer]
      split
      · exact refl w
      next server _ =>
        have hloop : Changes (Call.destroyServer (η := η) s).changes w _ :=
          destroyAll (fun _ => trivial) (fun _ => trivial) w (I.entries server.connections)
        exact (hloop.next (.findsServer server.serverId none) rfl trivial).next (.serverGone s) rfl trivial

/-! The tasks. -/

/-- The server keeps the connection and tells of it, or destroys it. -/
theorem addConnection {w : World η} {s : Ref} (hs : ∃ serverId, w.serversMap serverId = some s)
    (n : Ref) {next : Moment} (hnext : ∀ q c t, next = .connecting q c t → w.Unowned q) :
    Changes Change.onStart w (w.addConnection s n next) := by
  unfold World.addConnection
  split
  · exact refl w
  next server _ =>
    split
    · exact destroyConnection (fun _ => trivial) (fun _ => trivial) w n
    · refine (one w (.entered s (w.connectionPeerId n) n) trivial hs).trans
        (one _ (.turned (server.newConnectionHandler.map fun handler =>
          (.newConnection handler n, next))) trivial ?_)
      intro invocation q c t hrunning
      obtain ⟨handler, -, heq⟩ := Option.map_eq_some_iff.mp hrunning
      have hq := hnext q c t (congrArg Prod.snd heq)
      exact ⟨hq.bound, hq.owner⟩

theorem connectToServer (w : World η) (task : ConnectToServerTask) :
    Changes Change.onStart w (w.connectToServer task) := by
  cases hs : w.serversMap task.serverId with
  | none =>
      unfold World.connectToServer
      rw [hs]
      exact refl w
  | some s =>
      cases hc : w.clientsMap task.clientId with
      | none =>
          unfold World.connectToServer
          rw [hs, hc]
          exact refl w
      | some c =>
          have hq := unowned_opened w s task
          have hopened : Changes Change.onStart w (w.opened s task) :=
            one w (.opened s task) trivial ⟨_, hs⟩
          have hadded : Changes Change.onStart w ((w.opened s task).addConnection s w.connections.next
              (.connecting (w.net.channels.next + 1) c s)) := by
            refine hopened.trans (addConnection (w := w.opened s task) ⟨_, hs⟩ _ ?_)
            rintro q d t heq
            cases heq
            exact hq
          rw [connectToServer_eq task hs hc]
          simp only
          split
          · exact hadded
          · exact hadded.trans (clientSetChannel (fun _ => trivial) (fun _ _ => trivial) _ c
              (hq.addConnection _ _ _))

/-- The task at the head of the queue, when it has left the queue. -/
theorem started {w : World η} (hrunning : w.running = none) {task : Task ConnectToServerTask}
    {tasks : List (Task ConnectToServerTask)} (htasks : w.net.tasks = task :: tasks) :
    Changes Change.onStart { w with net := { w.net with tasks } } w.start := by
  have hcalls : ∀ running : Invocation η × Moment, (∀ q c s, running.2 ≠ .connecting q c s) →
      Changes Change.onStart { w with net := { w.net with tasks } }
        { w with net := { w.net with tasks }, running := some running } := by
    intro running hmoment
    refine one _ (.turned (some running)) trivial fun invocation q c s hrun => ?_
    cases hrun
    exact absurd rfl (hmoment q c s)
  cases hdeliver : w.net.deliver task with
  | nothing =>
      rw [start_nothing hrunning htasks hdeliver]
      exact refl _
  | message handler message =>
      rw [start_message hrunning htasks hdeliver]
      exact hcalls _ fun q c s h => by cases h
  | disconnected owner =>
      cases owner with
      | client c =>
          rw [start_client hrunning htasks hdeliver]
          unfold clientDisconnectedHandler
          split
          · exact clientOnDisconnected (fun _ => trivial) _ c trivial
          · exact hcalls _ fun q d s h => by cases h
      | connection n =>
          rw [start_connection hrunning htasks hdeliver]
          unfold connectionDisconnectedHandler
          split
          · exact refl _
          · split
            · exact serverOnDisconnected (fun _ => trivial) (fun _ => trivial) _ _ _ trivial
            · exact hcalls _ fun q c s h => by cases h
  | other request =>
      rw [start_other hrunning htasks hdeliver]
      exact connectToServer _ request

theorem start (w : World η) : Changes Change.byTask w w.start := by
  cases hrunning : w.running with
  | some running =>
      rw [World.start_busy hrunning]
      exact refl w
  | none =>
      cases htasks : w.net.tasks with
      | nil =>
          rw [World.start_idle hrunning htasks]
          exact refl w
      | cons task tasks =>
          have hpopped : Changes Change.byTask w { w with net := { w.net with tasks } } := by
            have hone : Changes Change.byTask w (w.change .popped) := one w .popped trivial trivial
            rwa [World.change, htasks, List.tail_cons] at hone
          refine hpopped.trans ((started hrunning htasks).mono fun change hchange => ?_)
          cases change <;> first | exact hchange | trivial

theorem resume (w : World η) : Changes Change.onReturn w w.resume := by
  have hreturned : Changes Change.onReturn w { w with running := none } := by
    refine one w (.turned none) trivial ?_
    intro invocation q c s hrunning
    cases hrunning
  cases hrunning : w.running with
  | none =>
      unfold World.resume
      rw [hrunning]
      exact refl w
  | some running =>
      obtain ⟨invocation, moment⟩ := running
      simp only [World.resume, hrunning]
      cases moment with
      | message => exact hreturned
      | notified c => exact hreturned
      | closingClient c =>
          exact hreturned.trans (clientOnDisconnected (fun _ => trivial) _ c trivial)
      | closingConnection n s =>
          exact hreturned.trans (serverOnDisconnected (fun _ => trivial) (fun _ => trivial) _ _ _ trivial)
      | connecting q c s =>
          cases hc : w.clients.get c with
          | none =>
              simp only [World.clientSetChannel, hc]
              exact hreturned
          | some client =>
              cases hch : client.channel with
              | some a =>
                  simp only [World.clientSetChannel, hc, hch]
                  exact hreturned.trans (one _ (.destroyed q) trivial trivial)
              | none =>
                  have hadopted : Changes Change.onReturn w (w.clientSetChannel c q) :=
                    one w (.adopted c q) trivial ⟨⟨client, hc, hch⟩, .inr ⟨invocation, s, hrunning⟩⟩
                  simpa only [World.clientSetChannel, hc, hch] using hadopted

theorem step (I : Iteration) (w : World η) (step : WorldStep η) :
    Changes step.changes w (w.step I step) := by
  cases step with
  | newClient => exact one w (.newClient) trivial trivial
  | newServer => exact one w (.newServer) trivial trivial
  | call call =>
      simp only [World.step]
      split
      · exact perform I w call
      · exact refl w
  | start => exact start w
  | resume => exact resume w

end Changes
end World
end DeviceMonitoring
