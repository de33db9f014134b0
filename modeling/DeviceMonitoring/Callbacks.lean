import DeviceMonitoring.Kits
import DeviceMonitoring.Library.Trace
import DeviceMonitoring.Traffic

/-! The callbacks of a session. A device is told that it is connected, is handed messages, and is
told that it is not any more; so is the server for every identifier. -/
namespace DeviceMonitoring

/-- What one end of a connection is told. -/
inductive Callback where
  | connected
  | message
  | disconnected
  deriving DecidableEq, Repr

/-- Whether there is a connection after the callback; any other one is out of order. -/
def Callback.next : Bool → Callback → Option Bool
  | false, .connected => some true
  | true, .message => some true
  | true, .disconnected => some false
  | _, _ => none

/-- The callbacks that a device gets. -/
def deviceCallback (d : Ref) : Invocation Handler → Option Callback
  | .connected (.deviceConnected e) => if e = d then some .connected else none
  | .message (.deviceMessage e) _ => if e = d then some .message else none
  | .disconnected (.deviceDisconnected e) => if e = d then some .disconnected else none
  | _ => none

/-- The callbacks that the server gets for the client of this identifier. -/
def serverCallback (w : World Handler) (k : UInt64) : Invocation Handler → Option Callback
  | .newConnection .newConnection n => if w.connectionPeerId n = k then some .connected else none
  | .message (.serverMessage l) _ => if l = k then some .message else none
  | .disconnected (.serverDisconnected l) => if l = k then some .disconnected else none
  | _ => none

namespace World

def notified {η : Type} (w : World η) : Option Ref :=
  match w.running with
  | some (_, .notified c) => some c
  | _ => none

def introduced {η : Type} (w : World η) : Option Ref :=
  match w.running with
  | some (.newConnection _ n, _) => some n
  | _ => none

/-- The client has a channel, and has been told. -/
def clientUp {η : Type} (w : World η) (c : Ref) : Bool :=
  (w.clientChannel c).isSome && w.notified != some c

def serverUp {η : Type} (w : World η) (s : Ref) (k : UInt64) : Bool :=
  (w.connection s k).any fun n => w.introduced != some n

/-- The handlers of a session are in their places; `pending` may have none yet. -/
structure Equipped (pending : Option Ref) (w : World Handler) : Prop where
  clients : ∀ c kit, w.clients.view ClientConnectionMock.kit c = some kit →
    kit = (some (.deviceMessage c), some (.deviceConnected c), some (.deviceDisconnected c))
  servers : ∀ s handler, w.servers.view ConnectionServerMock.newConnectionHandler s = some handler →
    s = 0 ∧ handler = some .newConnection
  connections : ∀ n kit, w.connections.view ConnectionMock.kit n = some kit → pending ≠ some n →
    ∃ k, kit = (some (.serverMessage k), some (.serverDisconnected k))

theorem Equipped.same {pending : Option Ref} {w w' : World Handler} (h : w.Equipped pending)
    (hkits : SameKits w w') : w'.Equipped pending :=
  ⟨fun c kit hc => h.clients c kit (hkits.clients c kit hc),
    fun s handler hs => h.servers s handler (hkits.servers s handler hs),
    fun n kit hn => h.connections n kit (hkits.connections n kit hn)⟩

/-- What a handler is called for. -/
inductive Expects (w : World Handler) : Invocation Handler → Moment → Prop
  | deviceMessage {c : Ref} {message : Bytes} (hc : (w.clientChannel c).isSome = true) :
      Expects w (.message (.deviceMessage c) message) .message
  | serverMessage {k : UInt64} {message : Bytes} (hk : (w.connection 0 k).isSome = true) :
      Expects w (.message (.serverMessage k) message) .message
  | deviceConnected {c : Ref} (hc : (w.clientChannel c).isSome = true) :
      Expects w (.connected (.deviceConnected c)) (.notified c)
  | newConnection {n q c s : Ref} (hn : w.connection 0 (w.connectionPeerId n) = some n) :
      Expects w (.newConnection .newConnection n) (.connecting q c s)
  | deviceDisconnected {c : Ref} (hc : (w.clientChannel c).isSome = true) :
      Expects w (.disconnected (.deviceDisconnected c)) (.closingClient c)
  | serverDisconnected {n : Ref} (hn : w.connection 0 (w.connectionPeerId n) = some n) :
      Expects w (.disconnected (.serverDisconnected (w.connectionPeerId n))) (.closingConnection n 0)

/-- What holds whenever a session is looked at. -/
structure Ordered (w : World Handler) : Prop where
  equipped : w.Equipped w.introduced
  expects : ∀ invocation moment, w.running = some (invocation, moment) → w.Expects invocation moment

section Idle
variable {η : Type} {w : World η}

theorem notified_of_none (h : w.running = none) : w.notified = none := by
  rw [notified, h]

theorem introduced_of_none (h : w.running = none) : w.introduced = none := by
  rw [introduced, h]

theorem clientUp_of_none (h : w.running = none) (c : Ref) : w.clientUp c = (w.clientChannel c).isSome := by
  rw [clientUp, notified_of_none h]
  exact Bool.and_true _

theorem serverUp_of_none (h : w.running = none) (s : Ref) (k : UInt64) :
    w.serverUp s k = (w.connection s k).isSome := by
  rw [serverUp, introduced_of_none h]
  cases w.connection s k <;> rfl

end Idle

theorem Equipped.ordered {w : World Handler} (hkit : w.Equipped none) (hrun : w.running = none) :
    w.Ordered := by
  refine ⟨by rwa [introduced_of_none hrun], fun invocation moment hrunning => ?_⟩
  rw [hrun] at hrunning
  cases hrunning

theorem Ordered.idle {w : World Handler} (h : w.Ordered) (hrun : w.running = none) : w.Equipped none := by
  rw [← introduced_of_none hrun]
  exact h.equipped

/-- The state after the start of a task, or of what is left of it: nobody has been told yet. -/
structure Begun (w w' : World Handler) : Prop where
  clientUp : w'.clientUp = w.clientUp
  serverUp : w'.serverUp = w.serverUp
  clients : w.clients.Descends ClientConnectionMock.kit w'.clients
  next : w'.clients.next = w.clients.next
  ordered : w'.Ordered

namespace Begun
variable {w w' : World Handler}

theorem nothing (hrun : w.running = none) (hkit : w.Equipped none) (hkits : SameKits w w')
    (hends : SameEnds w w') (hrun' : w'.running = none) : Begun w w' := by
  refine ⟨?_, ?_, hkits.clients, hkits.next, (hkit.same hkits).ordered hrun'⟩
  · funext c
    rw [clientUp_of_none hrun, clientUp_of_none hrun', hends.clientChannel]
  · funext s k
    rw [serverUp_of_none hrun, serverUp_of_none hrun', hends.connection]

/-- What came before moved nothing. -/
theorem after {w₁ : World Handler} (h : Begun w₁ w') (hrun : w.running = none)
    (hrun₁ : w₁.running = none) (hkits : SameKits w w₁) (hends : SameEnds w w₁) : Begun w w' := by
  refine ⟨?_, ?_, hkits.clients.trans h.clients, h.next.trans hkits.next, h.ordered⟩
  · rw [h.clientUp]
    funext c
    rw [clientUp_of_none hrun, clientUp_of_none hrun₁, hends.clientChannel]
  · rw [h.serverUp]
    funext s k
    rw [serverUp_of_none hrun, serverUp_of_none hrun₁, hends.connection]

theorem calls (hrun : w.running = none) (hkit : w.Equipped none) (hkits : SameKits w w')
    (hends : SameEnds w w') {invocation : Invocation Handler} {moment : Moment}
    (hrun' : w'.running = some (invocation, moment)) (hexpects : w'.Expects invocation moment)
    (hnotified : w'.notified = none) (hintroduced : w'.introduced = none) : Begun w w' := by
  refine ⟨?_, ?_, hkits.clients, hkits.next, ?_, ?_⟩
  · funext c
    rw [clientUp_of_none hrun, World.clientUp, hnotified, hends.clientChannel]
    exact Bool.and_true _
  · funext s k
    rw [serverUp_of_none hrun, World.serverUp, hintroduced, hends.connection]
    cases w.connection s k <;> rfl
  · rw [hintroduced]
    exact hkit.same hkits
  · intro invocation' moment' hrunning
    rw [hrun'] at hrunning
    cases hrunning
    exact hexpects

end Begun

section Channels
variable {w : World Handler} {c q : Ref}

/-- `setChannel` of a client: the connected handler, if the client had no channel. -/
theorem begun_clientSetChannel (hrun : w.running = none) (hkit : w.Equipped none) (c q : Ref) :
    Begun w (w.clientSetChannel c q) := by
  have hkits := SameKits.change w (.adopted c q) id
  cases hc : w.clients.get c with
  | none =>
      have hsame : w.clientSetChannel c q = w := by simp only [clientSetChannel, hc]
      rw [hsame]
      exact .nothing hrun hkit (.refl w) (.refl w) hrun
  | some client =>
      cases hchannel : client.channel with
      | some a =>
          have hworld : w.clientSetChannel c q = { w with net := w.net.destroy q } := by
            simp only [clientSetChannel, hc, hchannel]
          rw [hworld]
          exact .nothing hrun hkit (.of_eq rfl rfl rfl) (.of_eq rfl rfl) hrun
      | none =>
          have hhandlers := hkit.clients c client.kit ((Heap.view_eq_some _ _).mpr ⟨client, hc, rfl⟩)
          obtain ⟨-, hconnected, -⟩ : client.messageHandler = some (.deviceMessage c) ∧
              client.connectedHandler = some (.deviceConnected c) ∧
                client.disconnectedHandler = some (.deviceDisconnected c) := by
            simpa only [ClientConnectionMock.kit, Prod.mk.injEq] using hhandlers
          have hrunning : (w.clientSetChannel c q).running =
              some (.connected (.deviceConnected c), .notified c) := by
            simp only [clientSetChannel, hc, hchannel, hconnected, Option.map_some]
          have hself : (w.clientSetChannel c q).clientChannel c = some q := by
            simp only [clientSetChannel, hc, hchannel, clientChannel, Heap.get_modify_self,
              Option.map_some, Option.bind_some]
          have hother : ∀ d, d ≠ c → (w.clientSetChannel c q).clientChannel d = w.clientChannel d := by
            intro d hd
            simp only [clientSetChannel, hc, hchannel, clientChannel, Heap.get_modify_of_ne _ _ hd]
          have hconnection : (w.clientSetChannel c q).connection = w.connection := by
            simp only [clientSetChannel, hc, hchannel]
            rfl
          have hnotified : (w.clientSetChannel c q).notified = some c := by rw [notified, hrunning]
          have hintroduced : (w.clientSetChannel c q).introduced = none := by rw [introduced, hrunning]
          refine ⟨?_, ?_, hkits.clients, hkits.next, ?_, ?_⟩
          · funext d
            rw [clientUp_of_none hrun, clientUp, hnotified]
            by_cases hd : d = c
            · rw [hd, hself, clientChannel, hc, Option.bind_some, hchannel]
              simp
            · rw [hother d hd]
              simp [Ne.symm hd]
          · funext s k
            rw [serverUp_of_none hrun, serverUp, hintroduced, hconnection]
            cases w.connection s k <;> rfl
          · rw [hintroduced]
            exact hkit.same hkits
          · intro invocation moment h
            rw [hrunning] at h
            cases h
            exact .deviceConnected (by rw [hself, Option.isSome_some])

/-- A live connection of a session is the one that the server holds under its identifier. -/
theorem connection_of_channel {floating pending : Option Ref} (hw : w.shape.Owned floating)
    (hkit : w.Equipped pending) {n b : Ref} (hb : w.connectionChannel n = some b) :
    w.connection 0 (w.connectionPeerId n) = some n ∧
      ∀ conn, w.connections.get n = some conn → conn.server = 0 := by
  obtain ⟨s, hs⟩ := connectionChannel_eq_some.mp hb
  obtain ⟨b', e, hb', he, -, hentry⟩ := hw.connection_owns n s _ hs
  cases hb'
  have hn : w.connection s e.peerId = some n := hentry
  obtain ⟨server, hserver, -⟩ := Option.bind_eq_some_iff.mp hn
  obtain ⟨rfl, -⟩ := hkit.servers s _ ((Heap.view_eq_some _ _).mpr ⟨server, hserver, rfl⟩)
  rw [connectionPeerId_eq hs he]
  refine ⟨hn, fun conn hconn => ?_⟩
  obtain ⟨conn', hconn', hend⟩ := (Heap.view_eq_some _ _).mp hs
  rw [hconn] at hconn'
  cases hconn'
  exact congrArg Prod.fst hend

/-- The server is told of a connection that it did not have. -/
theorem begun_introduced (hrun : w.running = none) (hkit : w.Equipped none) (hw : w.Consistent none none)
    (task : ConnectToServerTask) {server : ConnectionServerMock Handler}
    (hserver : w.servers.get 0 = some server) (hfree : w.connection 0 task.clientId = none) (q c : Ref) :
    Begun w { w.opened 0 task with
      servers := w.servers.modify 0 fun server =>
        { server with connections := server.connections.insert task.clientId w.connections.next }
      running := some (.newConnection .newConnection w.connections.next, .connecting q c 0) } := by
  have hconnection := connection_insert w { w.opened 0 task with
    servers := w.servers.modify 0 fun server =>
      { server with connections := server.connections.insert task.clientId w.connections.next }
    running := some (.newConnection .newConnection w.connections.next, .connecting q c 0) } hserver rfl
  refine ⟨?_, ?_, .refl _, rfl, ⟨hkit.clients, ?_, ?_⟩, ?_⟩
  · funext d
    rw [clientUp_of_none hrun]
    exact Bool.and_true _
  · funext t l
    rw [serverUp_of_none hrun, serverUp, hconnection]
    by_cases hnew : t = 0 ∧ l = task.clientId
    · obtain ⟨rfl, rfl⟩ := hnew
      rw [hfree]
      simp [introduced]
    · simp only [if_neg hnew]
      cases hn : w.connection t l with
      | none => rfl
      | some n =>
          -- a connection that was there is not the new one
          obtain ⟨b, e, hb, -⟩ := hw.owned.entry_end hn
          obtain ⟨conn, hconn, -⟩ := (Heap.view_eq_some _ _).mp hb
          have hne : w.connections.next ≠ n := Nat.ne_of_gt (Heap.lt_next hconn)
          simp [introduced, hne]
  · intro s handler hs
    have hkeeps : w.servers.Descends ConnectionServerMock.newConnectionHandler
        (w.servers.modify 0 fun server =>
          { server with connections := server.connections.insert task.clientId w.connections.next }) :=
      .modify _ _ fun _ => rfl
    exact hkit.servers s handler (hkeeps s handler hs)
  · intro n kit hn hne
    obtain ⟨conn, hconn, rfl⟩ := (Heap.view_eq_some _ _).mp hn
    rcases Heap.get_alloc_eq_some.mp hconn with ⟨rfl, -⟩ | hold
    · exact absurd rfl hne
    · exact hkit.connections n _ ((Heap.view_eq_some _ _).mpr ⟨conn, hold, rfl⟩) (by simp)
  · intro invocation moment hrunning
    cases hrunning
    have hpeer : ({ w.opened 0 task with
        servers := w.servers.modify 0 fun server =>
          { server with connections := server.connections.insert task.clientId w.connections.next }
        running := some (.newConnection .newConnection w.connections.next, .connecting q c 0) } :
          World Handler).connectionPeerId w.connections.next = task.clientId :=
      connectionPeerId_opened w 0 task
    refine .newConnection ?_
    rw [hpeer, hconnection]
    exact if_pos ⟨rfl, rfl⟩

/-- A new connection, that the server is told of; or none, if it has one for the client. -/
theorem begun_connectToServer (hrun : w.running = none) (hkit : w.Equipped none)
    (hw : w.Consistent none none) (task : ConnectToServerTask) : Begun w (w.connectToServer task) := by
  cases hs : w.serversMap task.serverId with
  | none =>
      have hsame : w.connectToServer task = w := by
        unfold connectToServer
        rw [hs]
      rw [hsame]
      exact .nothing hrun hkit (.refl w) (.refl w) hrun
  | some s =>
      cases hc : w.clientsMap task.clientId with
      | none =>
          have hsame : w.connectToServer task = w := by
            unfold connectToServer
            rw [hs, hc]
          rw [hsame]
          exact .nothing hrun hkit (.refl w) (.refl w) hrun
      | some c =>
          obtain ⟨-, hid⟩ := (hw.serversMap _ s).mp hs
          obtain ⟨server, hserver, -⟩ := (Heap.view_eq_some _ _).mp hid
          obtain ⟨rfl, hhandler⟩ :=
            hkit.servers s _ ((Heap.view_eq_some _ _).mpr ⟨server, hserver, rfl⟩)
          rw [connectToServer_eq task hs hc]
          cases hentry : w.connection 0 task.clientId with
          | some m =>
              rw [addConnection_taken task _ hserver hentry]
              have hrun' : ((w.opened 0 task).destroyConnection w.connections.next).running = none := hrun
              have hkits : SameKits w ((w.opened 0 task).destroyConnection w.connections.next) :=
                ⟨.refl _, .free_alloc _ _, .refl _, rfl⟩
              have hbegun := begun_clientSetChannel hrun' (hkit.same hkits) c (w.net.channels.next + 1)
              simp only [hrun', Option.isSome_none, Bool.false_eq_true, if_false]
              exact hbegun.after hrun hrun' hkits (.of_eq rfl rfl)
          | none =>
              rw [addConnection_free task _ hserver hentry, hhandler]
              exact begun_introduced hrun hkit hw task hserver hentry _ _

end Channels

/-! A handler returns. -/

section Returns
variable {w : World Handler} {invocation : Invocation Handler} {moment : Moment}

theorem told_none (up : Bool) :
    (none : Option Callback).toList.foldlM Callback.next up = some up := rfl

theorem told_if {p : Prop} [Decidable p] {callback : Callback} {up up' : Bool}
    (hyes : p → Callback.next up callback = some up') (hno : ¬p → up = up') :
    (if p then some callback else none).toList.foldlM Callback.next up = some up' := by
  by_cases hp : p
  · simp [hp, hyes hp]
  · simp [hp, hno hp]

/-- What is told to a device and to the server when the handler that is running returns. -/
structure Returned (w w' : World Handler) (invocation : Invocation Handler) : Prop where
  devices : ∀ d, (deviceCallback d invocation).toList.foldlM Callback.next (w.clientUp d) =
    some (w'.clientUp d)
  server : ∀ k, (serverCallback w k invocation).toList.foldlM Callback.next (w.serverUp 0 k) =
    some (w'.serverUp 0 k)
  ordered : w'.Ordered

theorem clientUp_running (hrun : w.running = some (invocation, moment))
    (hmoment : ∀ c, moment ≠ .notified c) (d : Ref) : w.clientUp d = (w.clientChannel d).isSome := by
  have hnotified : w.notified = none := by
    rw [notified, hrun]
    cases moment with
    | notified c => exact absurd rfl (hmoment c)
    | _ => rfl
  rw [clientUp, hnotified]
  exact Bool.and_true _

theorem introduced_of_running (hrun : w.running = some (invocation, moment))
    (hinvocation : ∀ handler n, invocation ≠ .newConnection handler n) : w.introduced = none := by
  rw [introduced, hrun]
  cases invocation with
  | newConnection handler n => exact absurd rfl (hinvocation handler n)
  | _ => rfl

theorem serverUp_running (hrun : w.running = some (invocation, moment))
    (hinvocation : ∀ handler n, invocation ≠ .newConnection handler n) (s : Ref) (k : UInt64) :
    w.serverUp s k = (w.connection s k).isSome := by
  rw [serverUp, introduced_of_running hrun hinvocation]
  cases w.connection s k <;> rfl

theorem clientChannel_clientOnDisconnected (w : World Handler) (c d : Ref) :
    (w.clientOnDisconnected c).clientChannel d = if d = c then none else w.clientChannel d := by
  unfold clientOnDisconnected
  split
  next hnone =>
    split
    next hd => rw [hd, hnone]
    · rfl
  · simp only [clientChannel]
    split
    next hd => simp [hd]
    next hd => rw [Heap.get_modify_of_ne _ _ hd]

theorem returned_message {handler : Handler} {message : Bytes} (hkit : w.Equipped none)
    (hrun : w.running = some (.message handler message, .message))
    (hdevice : ∀ c, handler = .deviceMessage c → (w.clientChannel c).isSome = true)
    (hserver : ∀ k, handler = .serverMessage k → (w.connection 0 k).isSome = true) :
    Returned w w.resume (.message handler message) := by
  have hresume : w.resume = { w with running := none } := by rw [resume, hrun]
  have hclient : ∀ d, w.resume.clientUp d = w.clientUp d := by
    intro d
    rw [hresume, clientUp_of_none rfl, clientUp_running hrun (by simp)]
    rfl
  have hconnection : ∀ k, w.resume.serverUp 0 k = w.serverUp 0 k := by
    intro k
    rw [hresume, serverUp_of_none rfl, serverUp_running hrun (by simp)]
    rfl
  refine ⟨fun d => ?_, fun k => ?_, ?_⟩
  · rw [hclient]
    cases handler with
    | deviceMessage c =>
        refine told_if ?_ fun _ => rfl
        rintro rfl
        rw [clientUp_running hrun (by simp), hdevice c rfl]
        rfl
    | _ => exact told_none _
  · rw [hconnection]
    cases handler with
    | serverMessage l =>
        refine told_if ?_ fun _ => rfl
        rintro rfl
        rw [serverUp_running hrun (by simp), hserver l rfl]
        rfl
    | _ => exact told_none _
  · exact (hkit.same (.resume w)).ordered (by rw [hresume])

/-- A client has been told that it is connected. -/
theorem returned_connected {c : Ref} (hkit : w.Equipped none)
    (hrun : w.running = some (.connected (.deviceConnected c), .notified c))
    (hc : (w.clientChannel c).isSome = true) :
    Returned w w.resume (.connected (.deviceConnected c)) := by
  have hresume : w.resume = { w with running := none } := by rw [resume, hrun]
  have hnotified : w.notified = some c := by rw [notified, hrun]
  have hidle : ({ w with running := none } : World Handler).running = none := rfl
  rw [hresume]
  refine ⟨fun d => told_if ?_ ?_, fun k => ?_, ?_⟩
  · rintro rfl
    rw [clientUp_of_none hidle, clientUp, hnotified, bne_self_eq_false, Bool.and_false]
    exact congrArg some hc.symm
  · intro hne
    rw [clientUp_of_none hidle, clientUp, hnotified]
    have hother : (some c != some d) = true := by simpa using hne
    rw [hother, Bool.and_true]
    rfl
  · rw [serverUp_running hrun (by simp), serverUp_of_none hidle]
    exact told_none _
  · have hkits : SameKits w { w with running := none } := .of_eq rfl rfl rfl
    exact (hkit.same hkits).ordered hidle

/-- The server has been told of a connection; it is the client's turn. -/
theorem returned_newConnection {n q c s : Ref} (hkit : w.Equipped none)
    (hrun : w.running = some (.newConnection .newConnection n, .connecting q c s))
    (hn : w.connection 0 (w.connectionPeerId n) = some n) (hw : w.Settled) :
    Returned w w.resume (.newConnection .newConnection n) := by
  have hresume : w.resume = ({ w with running := none } : World Handler).clientSetChannel c q := by
    rw [resume, hrun]
  have hidle : ({ w with running := none } : World Handler).running = none := rfl
  have hbegun := begun_clientSetChannel hidle (hkit.same (.of_eq rfl rfl rfl)) c q
  have hintroduced : w.introduced = some n := by rw [introduced, hrun]
  rw [hresume]
  refine ⟨fun d => ?_, fun k => told_if ?_ ?_, hbegun.ordered⟩
  · rw [hbegun.clientUp, clientUp_of_none hidle, clientUp_running hrun (by simp)]
    exact told_none _
  · rintro rfl
    rw [hbegun.serverUp, serverUp_of_none hidle, serverUp, hn, hintroduced]
    have hafter : ({ w with running := none } : World Handler).connection 0 (w.connectionPeerId n) =
        some n := hn
    rw [hafter]
    simp [Callback.next]
  · intro hne
    rw [hbegun.serverUp, serverUp_of_none hidle, serverUp, hintroduced]
    have hafter : ({ w with running := none } : World Handler).connection 0 k = w.connection 0 k := rfl
    rw [hafter]
    cases hm : w.connection 0 k with
    | none => rfl
    | some m =>
        -- under another identifier the server has another connection
        obtain ⟨_, _, -, hconsistent⟩ := hw
        obtain ⟨b, e, hb, he, hk, -⟩ := hconsistent.owned.entry_end hm
        have hother : n ≠ m := by
          rintro rfl
          exact hne ((connectionPeerId_eq hb he).trans hk)
        simp [hother]

/-- A client has been told that it is not connected any more. -/
theorem returned_deviceDisconnected {c : Ref} (hkit : w.Equipped none)
    (hrun : w.running = some (.disconnected (.deviceDisconnected c), .closingClient c))
    (hc : (w.clientChannel c).isSome = true) :
    Returned w w.resume (.disconnected (.deviceDisconnected c)) := by
  have hresume : w.resume = ({ w with running := none } : World Handler).clientOnDisconnected c := by
    rw [resume, hrun]
  have hrun' : w.resume.running = none := by
    rw [hresume]
    exact running_clientOnDisconnected _ _
  have hchannel : ∀ d, w.resume.clientChannel d = if d = c then none else w.clientChannel d := by
    intro d
    rw [hresume]
    exact clientChannel_clientOnDisconnected _ c d
  have hconnection : w.resume.connection = w.connection := by
    rw [hresume]
    unfold clientOnDisconnected
    split <;> rfl
  refine ⟨fun d => told_if ?_ ?_, fun k => ?_, ?_⟩
  · rintro rfl
    rw [clientUp_running hrun (by simp), clientUp_of_none hrun', hchannel, if_pos rfl, hc]
    rfl
  · intro hne
    rw [clientUp_running hrun (by simp), clientUp_of_none hrun', hchannel, if_neg (Ne.symm hne)]
  · rw [serverUp_running hrun (by simp), serverUp_of_none hrun', hconnection]
    exact told_none _
  · exact (hkit.same (.resume w)).ordered hrun'

/-- The server has been told that a connection is gone. -/
theorem returned_serverDisconnected {n : Ref} (hkit : w.Equipped none)
    (hrun : w.running = some (.disconnected (.serverDisconnected (w.connectionPeerId n)),
      .closingConnection n 0))
    (hn : w.connection 0 (w.connectionPeerId n) = some n) :
    Returned w w.resume (.disconnected (.serverDisconnected (w.connectionPeerId n))) := by
  have hresume : w.resume =
      ({ w with running := none } : World Handler).serverOnDisconnected 0 (w.connectionPeerId n) := by
    rw [resume, hrun]
    rfl
  have hrun' : w.resume.running = none := by
    rw [hresume]
    exact running_serverOnDisconnected _ _ _
  have hconnection : ∀ k, w.resume.connection 0 k =
      if k = w.connectionPeerId n then none else w.connection 0 k := by
    intro k
    rw [hresume, connection_serverOnDisconnected]
    simp only [true_and]
    rfl
  have hclients : w.resume.clientChannel = w.clientChannel := by
    rw [hresume]
    unfold serverOnDisconnected
    split <;> rfl
  refine ⟨fun d => ?_, fun k => told_if ?_ ?_, ?_⟩
  · rw [clientUp_running hrun (by simp), clientUp_of_none hrun', hclients]
    exact told_none _
  · rintro rfl
    rw [serverUp_running hrun (by simp), serverUp_of_none hrun', hconnection, if_pos rfl, hn]
    rfl
  · intro hne
    rw [serverUp_running hrun (by simp), serverUp_of_none hrun', hconnection, if_neg (Ne.symm hne)]
  · exact (hkit.same (.resume w)).ordered hrun'

theorem returned (hkit : w.Equipped none) (hrun : w.running = some (invocation, moment))
    (hexpects : w.Expects invocation moment) (hw : w.Settled) : Returned w w.resume invocation := by
  cases hexpects with
  | deviceMessage hc =>
      exact returned_message hkit hrun (fun _ h => by cases h; exact hc) fun _ h => by cases h
  | serverMessage hk =>
      exact returned_message hkit hrun (fun _ h => by cases h) fun _ h => by cases h; exact hk
  | deviceConnected hc => exact returned_connected hkit hrun hc
  | newConnection hn => exact returned_newConnection hkit hrun hn hw
  | deviceDisconnected hc => exact returned_deviceDisconnected hkit hrun hc
  | serverDisconnected hn => exact returned_serverDisconnected hkit hrun hn

end Returns

end World
end DeviceMonitoring
