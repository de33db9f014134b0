import DeviceMonitoring.ConnectionCalls
import DeviceMonitoring.MonitoringServer

/-! A `DeviceMonitoringServer` and its devices over one task queue: the handlers that the
constructors install, and `processTask` together with the handlers it calls. -/
namespace DeviceMonitoring

/-- The handler objects made by `DeviceMock` and by `DeviceMonitoringServer`. -/
inductive Handler where
  | deviceConnected (device : Ref)
  | deviceDisconnected (device : Ref)
  | deviceMessage (device : Ref)
  | newConnection
  | serverDisconnected (clientId : UInt64)
  | serverMessage (clientId : UInt64)
  deriving DecidableEq, Repr

/-- A device and the client connection it owns. -/
structure Device extends DeviceMock where
  clientConnection : Ref

def Device.setMock (device : Device) (mock : DeviceMock) : Device :=
  { device with toDeviceMock := mock }

structure Monitoring where
  world : World Handler := {}
  server : DeviceMonitoringServer := {}
  connectionServer : Ref := 0
  devices : Heap Device := {}

/-- A handler that does not return. -/
inductive Fault where
  | exception (what : String)
  | outOfBounds
  deriving DecidableEq, Repr

inductive MonitoringStep where
  | startMeterageSending (device : Ref)
  | processTask
  deriving DecidableEq, Repr

namespace Monitoring

/-- `DeviceMonitoringServer(new ConnectionServerMock(taskQueue))` -/
def create : Monitoring :=
  let world : World Handler := { servers := ({} : Heap _).alloc {} }
  { world := world.setNewConnectionHandler 0 (some .newConnection) }

/-- `DeviceMock(new ClientConnectionMock(taskQueue))` -/
def newDevice (m : Monitoring) : Monitoring :=
  let c := m.world.clients.next
  let d := m.devices.next
  let world : World Handler := { m.world with clients := m.world.clients.alloc {} }
  let world := world.setConnectedHandler c (some (.deviceConnected d))
  let world := world.clientSetDisconnectedHandler c (some (.deviceDisconnected d))
  { m with
    world := world.clientSetMessageHandler c (some (.deviceMessage d))
    devices := m.devices.alloc { clientConnection := c } }

def listen (m : Monitoring) (serverId : UInt64) : Bool × Monitoring :=
  let (accepted, world) := m.world.listen m.connectionServer serverId
  (accepted, { m with world })

def bind (m : Monitoring) (d : Ref) (deviceId : UInt64) : Bool × Monitoring :=
  match m.devices.get d with
  | none => (false, m)
  | some device =>
      let (accepted, world) := m.world.bind device.clientConnection deviceId
      (accepted, { m with world })

def connectToServer (m : Monitoring) (d : Ref) (serverId : UInt64) : Bool × Monitoring :=
  match m.devices.get d with
  | none => (false, m)
  | some device =>
      let (accepted, world) := m.world.connectToHost device.clientConnection serverId
      (accepted, { m with world })

/-- `DeviceMonitoringServer::sendMessage` -/
def sendMessage (m : Monitoring) (deviceId : UInt64) (message : Bytes) : Monitoring :=
  match m.world.connection m.connectionServer deviceId with
  | none => m
  | some n => { m with world := m.world.connectionSendMessage n message }

/-- `addMessageHandler`, then `addDisconnectedHandler` -/
def onNewIncomingConnection (m : Monitoring) (n : Ref) : Monitoring :=
  let clientId := m.world.connectionPeerId n
  let world := m.world.connectionSetMessageHandler n (some (.serverMessage clientId))
  { m with world := world.connectionSetDisconnectedHandler n (some (.serverDisconnected clientId)) }

/-- A member function of the device; what it sends goes through its client connection. -/
def onDevice (m : Monitoring) (d : Ref)
    (f : DeviceMock → Except String (DeviceMock × List Bytes)) : Except Fault Monitoring :=
  match m.devices.get d with
  | none => .ok m
  | some device =>
      match f device.toDeviceMock with
      | .error what => .error (.exception what)
      | .ok (mock, sent) => .ok { m with
          devices := m.devices.modify d (·.setMock mock)
          world := sent.foldl (fun w message => w.clientSendMessage device.clientConnection message)
            m.world }

def startMeterageSending (m : Monitoring) (d : Ref) : Except Fault Monitoring :=
  m.onDevice d DeviceMock.startMeterageSending

def onMessageReceived (m : Monitoring) (deviceId : UInt64) (message : Bytes) :
    Except Fault Monitoring :=
  match m.server.onMessageReceived deviceId message with
  | none => .error .outOfBounds
  | some (server, sent) =>
      .ok (sent.foldl (fun m (deviceId, message) => m.sendMessage deviceId message) { m with server })

/-- What a handler does: `onConnected` and `onDisconnected` do nothing. -/
def handle (m : Monitoring) : Invocation Handler → Except Fault Monitoring
  | .message (.deviceMessage d) message => m.onDevice d (·.onMessageReceived message)
  | .message (.serverMessage clientId) message => m.onMessageReceived clientId message
  | .newConnection .newConnection n => .ok (m.onNewIncomingConnection n)
  | _ => .ok m

/-- The handlers that a task calls, one after the other. -/
def handlers : Nat → Monitoring → Except Fault Monitoring
  | 0, m => .ok m
  | calls+1, m =>
      match m.world.running with
      | none => .ok m
      | some (invocation, _) => do
          let m ← m.handle invocation
          handlers calls { m with world := m.world.resume }

/-- No task calls more than two handlers. -/
def processTask (m : Monitoring) : Except Fault Monitoring :=
  handlers 2 { m with world := m.world.start }

def step (m : Monitoring) : MonitoringStep → Except Fault Monitoring
  | .startMeterageSending d => m.startMeterageSending d
  | .processTask => m.processTask

def run : Monitoring → List MonitoringStep → Except Fault Monitoring
  | m, [] => .ok m
  | m, step :: steps => do
      let m ← m.step step
      run m steps

theorem bind_eq_ok {ε α β : Type} {x : Except ε α} {f : α → Except ε β} {b : β}
    (h : (x >>= f) = .ok b) : ∃ a, x = .ok a ∧ f a = .ok b := by
  cases x with
  | error e => cases h
  | ok a => exact ⟨a, rfl, h⟩

/-- The calls by which a handler changes the connections, one after the other. Each
is one that a handler may make at any moment. -/
def Calls (w w' : World Handler) : Prop :=
  ∀ I : Iteration, ∃ calls : List (Call Handler),
    (∀ call ∈ calls, ∀ moment : Moment, moment.allows call = true) ∧
      w' = calls.foldl (World.perform I) w

namespace Calls
variable {w w' w'' : World Handler}

theorem refl (w : World Handler) : Calls w w := fun _ => ⟨[], by simp, rfl⟩

theorem trans (h : Calls w w') (h' : Calls w' w'') : Calls w w'' := by
  intro I
  obtain ⟨calls, hcalls, rfl⟩ := h I
  obtain ⟨calls', hcalls', rfl⟩ := h' I
  refine ⟨calls ++ calls', ?_, (List.foldl_append ..).symm⟩
  intro call hcall
  rcases List.mem_append.mp hcall with hcall | hcall
  · exact hcalls call hcall
  · exact hcalls' call hcall

theorem single (call : Call Handler) (hcall : ∀ moment : Moment, moment.allows call = true)
    (h : ∀ I, w' = w.perform I call) : Calls w w' := by
  intro I
  refine ⟨[call], ?_, h I⟩
  simpa using hcall

theorem clientSendMessages (w : World Handler) (c : Ref) (sent : List Bytes) :
    Calls w (sent.foldl (fun w message => w.clientSendMessage c message) w) := by
  induction sent generalizing w with
  | nil => exact refl w
  | cons message sent ih =>
      have hsend : Calls w (w.clientSendMessage c message) :=
        single (.clientSendMessage c message) (fun moment => by cases moment <;> rfl)
          fun _ => rfl
      exact hsend.trans (ih _)

theorem running (h : Calls w w') : w'.running = w.running := by
  obtain ⟨calls, -, rfl⟩ := h .byEntry
  clear h
  induction calls generalizing w with
  | nil => rfl
  | cons call calls ih => exact ih.trans (World.running_perform .byEntry w call)

end Calls

theorem calls_sendMessage (m : Monitoring) (deviceId : UInt64) (message : Bytes) :
    Calls m.world (m.sendMessage deviceId message).world := by
  unfold sendMessage
  split
  · exact .refl _
  next n _ =>
    exact .single (.connectionSendMessage n message) (fun moment => by cases moment <;> rfl)
      fun _ => rfl

theorem calls_sendMessages (m : Monitoring) (sent : List (UInt64 × Bytes)) :
    Calls m.world
      (sent.foldl (fun m (deviceId, message) => m.sendMessage deviceId message) m).world := by
  induction sent generalizing m with
  | nil => exact .refl _
  | cons message sent ih => exact (m.calls_sendMessage _ _).trans (ih _)

theorem calls_onNewIncomingConnection (m : Monitoring) (n : Ref) :
    Calls m.world (m.onNewIncomingConnection n).world := by
  have hmessage : Calls m.world (m.world.connectionSetMessageHandler n
      (some (.serverMessage (m.world.connectionPeerId n)))) :=
    .single (.connectionSetMessageHandler n _) (fun moment => by cases moment <;> rfl)
      fun _ => rfl
  refine hmessage.trans ?_
  exact .single (.connectionSetDisconnectedHandler n _)
    (fun moment => by cases moment <;> rfl) fun _ => rfl

theorem calls_onDevice {m m' : Monitoring} {d : Ref}
    {f : DeviceMock → Except String (DeviceMock × List Bytes)}
    (h : m.onDevice d f = .ok m') : Calls m.world m'.world := by
  unfold onDevice at h
  split at h
  · cases h
    exact .refl _
  next device _ =>
    split at h
    · cases h
    · cases h
      exact .clientSendMessages _ _ _

/-- Handlers change the connections by calls that may be made at any moment. -/
theorem calls_handle {m m' : Monitoring} {invocation : Invocation Handler}
    (h : m.handle invocation = .ok m') : Calls m.world m'.world := by
  unfold handle at h
  split at h
  · exact calls_onDevice h
  · unfold onMessageReceived at h
    split at h
    · cases h
    next server sent _ =>
      cases h
      exact calls_sendMessages { m with server } sent
  · cases h
    exact m.calls_onNewIncomingConnection _
  · cases h
    exact .refl _

/-- The calls of handlers still to come in the task that is running. -/
def remaining (w : World Handler) : Nat :=
  match w.running with
  | none => 0
  | some (_, .connecting ..) => 2
  | some _ => 1

theorem remaining_le (w : World Handler) : remaining w ≤ 2 := by
  unfold remaining
  split <;> decide

theorem remaining_clientSetChannel {w : World Handler} (h : w.running = none) (c ch : Ref) :
    remaining (w.clientSetChannel c ch) ≤ 1 := by
  unfold World.clientSetChannel
  split
  · simp [remaining, h]
  next client _ =>
    split
    · simp [remaining, h]
    · cases client.connectedHandler <;> simp [remaining]

theorem remaining_resume {w : World Handler} (h : w.running.isSome = true) :
    remaining w.resume < remaining w := by
  obtain ⟨⟨invocation, moment⟩, hrunning⟩ := Option.isSome_iff_exists.mp h
  have hquiet : ∀ w' : World Handler, w'.running = none → remaining w' = 0 := by
    intro w' hnone
    simp [remaining, hnone]
  cases moment with
  | message => simp [World.resume, remaining, hrunning]
  | notified c => simp [World.resume, remaining, hrunning]
  | closingClient c =>
      simp only [World.resume, hrunning]
      rw [hquiet]
      · simp [remaining, hrunning]
      · unfold World.clientOnDisconnected
        split <;> rfl
  | closingConnection n s =>
      simp only [World.resume, hrunning]
      rw [hquiet]
      · simp [remaining, hrunning]
      · unfold World.serverOnDisconnected
        split <;> rfl
  | connecting ch c s =>
      simp only [World.resume, hrunning]
      have hle := remaining_clientSetChannel (w := { w with running := none }) rfl c ch
      simp only [remaining, hrunning] at hle ⊢
      omega

end Monitoring
end DeviceMonitoring
