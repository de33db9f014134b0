import DeviceMonitoring.Corrections
import DeviceMonitoring.Monitoring
import DeviceMonitoring.Notifications
import DeviceMonitoring.Operations

/-! Any run of a server and its devices: calls from outside, in any order, and `processTask`
taken apart. First the task leaves the queue, then each handler does its work and returns. -/
namespace DeviceMonitoring

/-- A call from outside. -/
inductive MonitoringCall where
  | newDevice
  | destroyDevice (device : Ref)
  | bind (device : Ref) (deviceId : UInt64)
  | connectToServer (device : Ref) (serverId : UInt64)
  | setMeterages (device : Ref) (meterages : List UInt8)
  | startMeterageSending (device : Ref)
  | selectDeviceExecutor (device : Ref) (name : String)
  | addDeviceExecutor (device : Ref) (object : Option ExecutorObject)
  | disconnectDevice (device : Ref)
  | disconnectConnection (deviceId : UInt64)
  | disconnectServer
  | listen (serverId : UInt64)
  | setDeviceWorkSchedule (schedule : DeviceWorkSchedule)
  | deviationStats (deviceId : UInt64)
  | selectExecutor (name : String)
  | addExecutor (object : Option ExecutorObject)

inductive SessionStep where
  | call (call : MonitoringCall)
  | start
  | handle

namespace World
variable {η : Type}

/-- A message handler that runs was called by the task that carried the message. -/
def HandsMessages (w : World η) : Prop :=
  ∀ running ∈ w.running, ∀ handler message, running.1 = .message handler message →
    running.2 = .message

namespace HandsMessages
variable {w w' : World η}

theorem of_none (hrunning : w.running = none) : w.HandsMessages := by
  intro running hsome
  rw [hrunning] at hsome
  cases hsome

theorem start (h : w.HandsMessages) : w.start.HandsMessages := by
  cases hrunning : w.running with
  | some running => rwa [World.start_busy hrunning]
  | none =>
      rintro ⟨invocation, moment⟩ hstart handler message rfl
      obtain ⟨task, tasks, -, hcalls⟩ := calls_start hrunning hstart
      cases hcalls with
      | message => rfl

theorem resume (w : World η) : w.resume.HandsMessages := by
  rintro ⟨invocation, moment⟩ hresume handler message rfl
  obtain ⟨_, _, _, _, _, _, -, -, -, heq, -⟩ := calls_resume hresume
  cases heq

end HandsMessages
end World

namespace Monitoring

def setDevice (m : Monitoring) (d : Ref) (f : DeviceMock → DeviceMock) : Monitoring :=
  { m with devices := m.devices.modify d fun device => device.setMock (f device.toDeviceMock) }

/-- A call on the client connection of a device. -/
def onClient (I : Iteration) (m : Monitoring) (d : Ref) (call : Ref → Call Handler) : Monitoring :=
  match m.devices.get d with
  | none => m
  | some device => { m with world := m.world.perform I (call device.clientConnection) }

def call (S : PhaseSort) (I : Iteration) (m : Monitoring) : MonitoringCall → Monitoring
  | .newDevice => m.newDevice
  | .destroyDevice d =>
      let m := m.onClient I d .destroyClient
      { m with devices := m.devices.free d }
  | .bind d deviceId => (m.bind d deviceId).2
  | .connectToServer d serverId => (m.connectToServer d serverId).2
  | .setMeterages d meterages => m.setDevice d (·.setMeterages meterages)
  | .startMeterageSending d =>
      match m.startMeterageSending d with
      | .ok m => m
      | .error _ => m
  | .selectDeviceExecutor d name =>
      m.setDevice d fun mock => { mock with encoder := (mock.encoder.selectExecutor name).2 }
  | .addDeviceExecutor d object =>
      m.setDevice d fun mock => { mock with encoder := (mock.encoder.addExecutor object).2 }
  | .disconnectDevice d => m.onClient I d .clientDisconnect
  | .disconnectConnection deviceId =>
      match m.world.connection m.connectionServer deviceId with
      | none => m
      | some n => { m with world := m.world.connectionDisconnect n }
  | .disconnectServer => { m with world := m.world.serverDisconnect I m.connectionServer }
  | .listen serverId => (m.listen serverId).2
  | .setDeviceWorkSchedule schedule => { m with server := m.server.setDeviceWorkSchedule S schedule }
  | .deviationStats deviceId => { m with server := (m.server.deviationStats deviceId).2 }
  | .selectExecutor name =>
      { m with server := { m.server with encoder := (m.server.encoder.selectExecutor name).2 } }
  | .addExecutor object =>
      { m with server := { m.server with encoder := (m.server.encoder.addExecutor object).2 } }

/-- An exception ends the task: what the handler has thrown leaves `processTask`. -/
def sessionStep (S : PhaseSort) (I : Iteration) (m : Monitoring) : SessionStep → Monitoring
  | .call call => if m.world.running.isSome then m else m.call S I call
  | .start => { m with world := m.world.start }
  | .handle =>
      match m.world.running with
      | none => m
      | some (invocation, _) =>
          match m.handle invocation with
          | .ok m => { m with world := m.world.resume }
          | .error _ => { m with world := { m.world with running := none } }

def session (S : PhaseSort) (I : Iteration) (m : Monitoring) (steps : List SessionStep) : Monitoring :=
  steps.foldl (sessionStep S I) m

/-- What holds after every step. -/
structure Sound (S : PhaseSort) (m : Monitoring) : Prop where
  settled : m.world.Settled
  history : ∃ past, CommandCenter.after S past = some m.server.commandCenter
  handsMessages : m.world.HandsMessages

theorem settled_unregistering {w : World Handler} (h : w.Settled) (call : Call Handler)
    (hcall : call.registers = false) : (w.perform .byEntry call).Settled :=
  (World.quiet_perform .byEntry w hcall).settled h

theorem settled_messages {w : World Handler} (h : w.Settled) (c : Ref) (sent : List Bytes) :
    (sent.foldl (fun w message => w.clientSendMessage c message) w).Settled := by
  induction sent generalizing w with
  | nil => exact h
  | cons message sent ih =>
      exact ih (settled_unregistering h (.clientSendMessage c message) rfl)

theorem settled_onDevice {m m' : Monitoring} {d : Ref}
    {f : DeviceMock → Except String (DeviceMock × List Bytes)} (h : m.world.Settled)
    (hcall : m.onDevice d f = .ok m') : m'.world.Settled := by
  unfold onDevice at hcall
  split at hcall
  · cases hcall
    exact h
  · split at hcall
    · cases hcall
    · cases hcall
      exact settled_messages h _ _

theorem settled_sendMessage {m : Monitoring} (h : m.world.Settled) (deviceId : UInt64)
    (message : Bytes) : (m.sendMessage deviceId message).world.Settled := by
  unfold sendMessage
  split
  · exact h
  next n _ =>
    exact settled_unregistering h (.connectionSendMessage n message) rfl

theorem settled_sendMessages {m : Monitoring} (h : m.world.Settled) (sent : List (UInt64 × Bytes)) :
    (sent.foldl (fun m (deviceId, message) => m.sendMessage deviceId message) m).world.Settled := by
  induction sent generalizing m with
  | nil => exact h
  | cons message sent ih => exact ih (settled_sendMessage h message.1 message.2)

/-- What the server sends changes the connections only. -/
theorem sendMessages_world (m : Monitoring) (sent : List (UInt64 × Bytes)) :
    ∃ world, sent.foldl (fun m (deviceId, message) => m.sendMessage deviceId message) m =
      { m with world } := by
  induction sent generalizing m with
  | nil => exact ⟨m.world, rfl⟩
  | cons message sent ih =>
      obtain ⟨deviceId, message⟩ := message
      obtain ⟨world, hrest⟩ := ih (m.sendMessage deviceId message)
      refine ⟨world, hrest.trans ?_⟩
      simp only [sendMessage]
      split <;> rfl

theorem settled_handle {m m' : Monitoring} {invocation : Invocation Handler} (h : m.world.Settled)
    (hcall : m.handle invocation = .ok m') : m'.world.Settled := by
  unfold handle at hcall
  split at hcall
  · exact settled_onDevice h hcall
  · unfold onMessageReceived at hcall
    split at hcall
    · cases hcall
    next server sent _ =>
      cases hcall
      exact settled_sendMessages (m := { m with server }) h sent
  next n =>
    cases hcall
    have hmessage := settled_unregistering h (.connectionSetMessageHandler n
      (some (.serverMessage (m.world.connectionPeerId n)))) rfl
    exact settled_unregistering hmessage (.connectionSetDisconnectedHandler n
      (some (.serverDisconnected (m.world.connectionPeerId n)))) rfl
  · cases hcall
    exact h

theorem server_onDevice {m m' : Monitoring} {d : Ref}
    {f : DeviceMock → Except String (DeviceMock × List Bytes)} (hcall : m.onDevice d f = .ok m') :
    m'.server = m.server := by
  unfold onDevice at hcall
  split at hcall
  · cases hcall
    rfl
  · split at hcall
    · cases hcall
    · cases hcall
      rfl

theorem history_handle {S : PhaseSort} {m m' : Monitoring} {invocation : Invocation Handler}
    (h : ∃ past, CommandCenter.after S past = some m.server.commandCenter)
    (hcall : m.handle invocation = .ok m') :
    ∃ past, CommandCenter.after S past = some m'.server.commandCenter := by
  unfold handle at hcall
  split at hcall
  · rw [server_onDevice hcall]
    exact h
  next deviceId message =>
    unfold onMessageReceived at hcall
    split at hcall
    · cases hcall
    next server sent hreceived =>
      cases hcall
      obtain ⟨past, hpast⟩ := h
      obtain ⟨server', past', hserver, hpast'⟩ :=
        DeviceMonitoringServer.perform_history hpast (.onMessageReceived deviceId message)
      rw [DeviceMonitoringServer.perform, hreceived] at hserver
      cases hserver
      obtain ⟨world, hsent⟩ := sendMessages_world { m with server } sent
      exact ⟨past', by rw [hsent]; exact hpast'⟩
  · cases hcall
    exact h
  · cases hcall
    exact h

section Step
variable {S : PhaseSort} {I : Iteration} {m : Monitoring}

theorem idle_onClient (h : m.world.Idle) (d : Ref) (call : Ref → Call Handler) :
    (m.onClient I d call).world.Idle := by
  unfold onClient
  split
  · exact h
  · exact World.idle_perform I h _

theorem bind_onClient (I : Iteration) (m : Monitoring) (d : Ref) (deviceId : UInt64) :
    (m.bind d deviceId).2 = m.onClient I d (.bind · deviceId) := by
  unfold bind onClient
  cases m.devices.get d <;> rfl

theorem connectToServer_onClient (I : Iteration) (m : Monitoring) (d : Ref) (serverId : UInt64) :
    (m.connectToServer d serverId).2 = m.onClient I d (.connectToHost · serverId) := by
  unfold connectToServer onClient
  cases m.devices.get d <;> rfl

theorem idle_call (h : m.world.Idle) (call : MonitoringCall) : (m.call S I call).world.Idle := by
  cases call with
  | newDevice =>
      have hnew : ({ m.world with clients := m.world.clients.alloc {} } : World Handler).Idle :=
        ⟨h.running, World.settled_newClient h.settled⟩
      have hconnected := World.idle_perform I hnew (.setConnectedHandler m.world.clients.next
        (some (.deviceConnected m.devices.next)))
      have hdisconnected := World.idle_perform I hconnected
        (.clientSetDisconnectedHandler m.world.clients.next (some (.deviceDisconnected m.devices.next)))
      exact World.idle_perform I hdisconnected
        (.clientSetMessageHandler m.world.clients.next (some (.deviceMessage m.devices.next)))
  | destroyDevice d => exact idle_onClient h d _
  | bind d deviceId =>
      rw [call, bind_onClient I]
      exact idle_onClient h d _
  | connectToServer d serverId =>
      rw [call, connectToServer_onClient I]
      exact idle_onClient h d _
  | startMeterageSending d =>
      simp only [call]
      split
      next m' hstart =>
        exact ⟨(calls_onDevice hstart).running.trans h.running, settled_onDevice h.settled hstart⟩
      · exact h
  | disconnectDevice d => exact idle_onClient h d _
  | disconnectConnection deviceId =>
      simp only [call]
      split
      · exact h
      next n _ => exact World.idle_perform I h (.connectionDisconnect n)
  | disconnectServer => exact World.idle_perform I h (.serverDisconnect m.connectionServer)
  | listen serverId => exact World.idle_perform I h (.listen m.connectionServer serverId)
  | _ => exact h

theorem server_onClient (d : Ref) (call : Ref → Call Handler) :
    (m.onClient I d call).server = m.server := by
  unfold onClient
  split <;> rfl

theorem history_call (h : ∃ past, CommandCenter.after S past = some m.server.commandCenter)
    (call : MonitoringCall) :
    ∃ past, CommandCenter.after S past = some (m.call S I call).server.commandCenter := by
  cases call with
  | destroyDevice d =>
      have hsame : (m.call S I (.destroyDevice d)).server = m.server := server_onClient d .destroyClient
      rwa [hsame]
  | bind d deviceId =>
      rw [call, bind_onClient I, server_onClient]
      exact h
  | connectToServer d serverId =>
      rw [call, connectToServer_onClient I, server_onClient]
      exact h
  | startMeterageSending d =>
      simp only [call]
      split
      next m' hstart =>
        rw [server_onDevice hstart]
        exact h
      · exact h
  | disconnectDevice d =>
      rw [call, server_onClient]
      exact h
  | disconnectConnection deviceId =>
      simp only [call]
      split <;> exact h
  | setDeviceWorkSchedule schedule =>
      obtain ⟨past, hpast⟩ := h
      exact ⟨.setSchedule schedule :: past, by rw [CommandCenter.after, hpast]; rfl⟩
  | deviationStats deviceId =>
      obtain ⟨past, hpast⟩ := h
      exact ⟨.deviationStats deviceId :: past, by rw [CommandCenter.after, hpast]; rfl⟩
  | _ => exact h

/-- Only what is received can make a handler throw. -/
theorem message_of_error {invocation : Invocation Handler} {fault : Fault}
    (h : m.handle invocation = .error fault) : ∃ handler message, invocation = .message handler message := by
  unfold handle at h
  split at h
  · exact ⟨_, _, rfl⟩
  · exact ⟨_, _, rfl⟩
  · cases h
  · cases h

/-- No step leaves the sound states. -/
theorem Sound.step (h : Sound S m) (step : SessionStep) : Sound S (m.sessionStep S I step) := by
  cases step with
  | call call =>
      simp only [sessionStep]
      split
      · exact h
      next hrunning =>
        rw [Bool.not_eq_true, Option.isSome_eq_false_iff, Option.isNone_iff_eq_none] at hrunning
        have hidle := idle_call (S := S) (I := I) ⟨hrunning, h.settled⟩ call
        exact ⟨hidle.settled, history_call h.history call, .of_none hidle.running⟩
  | start =>
      exact ⟨World.settled_start h.settled, h.history, h.handsMessages.start⟩
  | handle =>
      simp only [sessionStep]
      split
      · exact h
      next invocation moment hrunning =>
        split
        next m' hhandle =>
          have hhistory := history_handle h.history hhandle
          exact ⟨World.settled_resume (settled_handle h.settled hhandle), hhistory, .resume _⟩
        next fault hfault =>
          obtain ⟨handler, message, rfl⟩ := message_of_error hfault
          obtain rfl : moment = .message := h.handsMessages _ hrunning handler message rfl
          have hreturn : m.world.resume = { m.world with running := none } := by
            unfold World.resume
            rw [hrunning]
          rw [← hreturn]
          exact ⟨World.settled_resume h.settled, h.history, .resume _⟩

theorem Sound.run (h : Sound S m) (steps : List SessionStep) : Sound S (m.session S I steps) := by
  induction steps generalizing m with
  | nil => exact h
  | cons step steps ih => exact ih (h.step step)

theorem sound_create (S : PhaseSort) : Sound S .create := by
  have hserver : ({ servers := ({} : Heap _).alloc {} } : World Handler).Idle :=
    ⟨rfl, World.settled_newServer World.settled_empty⟩
  have hidle := World.idle_perform .byEntry hserver (.setNewConnectionHandler 0 (some .newConnection))
  exact ⟨hidle.settled, ⟨[], rfl⟩, .of_none rfl⟩

end Step
end Monitoring
end DeviceMonitoring
