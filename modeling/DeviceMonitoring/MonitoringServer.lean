import DeviceMonitoring.CommandCenter
import DeviceMonitoring.MessageEncoder
import DeviceMonitoring.Serializer

/-! `DeviceMonitoringServer` and `DeviceMock` over their connections: what they send is a
result, what they receive an argument. -/
namespace DeviceMonitoring

structure DeviceMonitoringServer where
  commandCenter : CommandCenter := {}
  encoder : MessageEncoder := .create 0 1 2

namespace DeviceMonitoringServer

def setDeviceWorkSchedule (S : PhaseSort) (server : DeviceMonitoringServer)
    (schedule : DeviceWorkSchedule) : DeviceMonitoringServer :=
  { server with commandCenter := server.commandCenter.setSchedule S schedule }

/-- The string passed on by `sendMessage(deviceId, message)`. -/
def outgoing (server : DeviceMonitoringServer) (message : Message) : Bytes :=
  server.encoder.encode (serialize message)

/-- The callback given to `deserialize`; sent strings are collected with their device. -/
def onMessage (server : DeviceMonitoringServer) (deviceId : UInt64) (message : Message) :
    StateT (CommandCenter × List (UInt64 × Bytes)) Option Unit := fun (center, sent) =>
  match message with
  | .meterage meterage =>
      (center.processMeterage deviceId meterage).map fun (center, calls) =>
        ((), center, sent ++ calls.map fun (deviceId, reply) => (deviceId, server.outgoing reply))
  | _ => some ((), center, sent)

def onMessageReceived (server : DeviceMonitoringServer) (deviceId : UInt64) (message : Bytes) :
    Option (DeviceMonitoringServer × List (UInt64 × Bytes)) :=
  ((deserialize (server.encoder.decode message) (server.onMessage deviceId)).run
    (server.commandCenter, [])).map fun (_, center, sent) =>
      ({ server with commandCenter := center }, sent)

/-- A string that begins with a meterage is processed, once. -/
theorem onMessageReceived_meterage {server : DeviceMonitoringServer} {message : Bytes}
    {meterage : MessageMeterage}
    (h : serialize (.meterage meterage) <+: server.encoder.decode message) (deviceId : UInt64) :
    server.onMessageReceived deviceId message =
      (server.commandCenter.processMeterage deviceId meterage).map fun (center, calls) =>
        ({ server with commandCenter := center },
          calls.map fun (deviceId, reply) => (deviceId, server.outgoing reply)) := by
  obtain ⟨t, ht⟩ := h
  rw [onMessageReceived, ← ht, deserialize_serialize_append, StateT.run_bind]
  cases hc : server.commandCenter.processMeterage deviceId meterage with
  | none => simp [StateT.run, onMessage, hc]
  | some result =>
      simp only [StateT.run_pure]
      simp [StateT.run, onMessage, hc]

/-- Every other string leaves the server as it is. -/
theorem onMessageReceived_other {server : DeviceMonitoringServer} {message : Bytes}
    (h : ∀ meterage, ¬ serialize (.meterage meterage) <+: server.encoder.decode message)
    (deviceId : UInt64) : server.onMessageReceived deviceId message = some (server, []) := by
  by_cases hm : ∃ m, serialize m <+: server.encoder.decode message
  · obtain ⟨m, t, ht⟩ := hm
    rw [onMessageReceived, ← ht, deserialize_serialize_append]
    cases m with
    | error e => rfl
    | command command => rfl
    | meterage meterage => exact absurd ⟨t, ht⟩ (h meterage)
  · push Not at hm
    rw [onMessageReceived, deserialize_reject _ hm]
    rfl

end DeviceMonitoringServer

structure DeviceMock where
  meterages : List UInt8 := []
  timeStamp : UInt64 := 0
  messages : List Message := []
  encoder : MessageEncoder := .create 0 1 2

namespace DeviceMock

def setMeterages (device : DeviceMock) (meterages : List UInt8) : DeviceMock :=
  { device with meterages, timeStamp := 0 }

/-- The result lists the strings passed to `sendMessage`; an error is an exception. -/
def sendNextMeterage (device : DeviceMock) : Except String (DeviceMock × List Bytes) :=
  if h : device.timeStamp.toNat < device.meterages.length then
    let meterage := device.meterages[device.timeStamp.toNat]
    let string := serialize (.meterage ⟨device.timeStamp, meterage⟩)
    if string.isEmpty then .error "Message serialization error!"
    else .ok ({ device with timeStamp := device.timeStamp + 1 }, [device.encoder.encode string])
  else .ok (device, [])

def startMeterageSending (device : DeviceMock) : Except String (DeviceMock × List Bytes) :=
  device.sendNextMeterage

/-- The callback given to `deserialize`. -/
def onMessage : Message → StateT DeviceMock (Except String) Unit
  | .command command => modify fun device =>
      { device with messages := device.messages ++ [.command command] }
  | .error e => modify fun device => { device with messages := device.messages ++ [.error e] }
  | .meterage _ => throw "Wrong message type!"

def onMessageReceived (device : DeviceMock) (message : Bytes) :
    Except String (DeviceMock × List Bytes) := do
  let (accepted, device) ← (deserialize (device.encoder.decode message) onMessage).run device
  if accepted then device.sendNextMeterage
  else throw "Message deserialization error!"

/-- A string that begins with a command or an error: it is kept, and the next
meterage is sent. -/
theorem onMessageReceived_reply {device : DeviceMock} {message : Bytes} {reply : Message}
    (h : serialize reply <+: device.encoder.decode message)
    (hreply : ∀ meterage, reply ≠ .meterage meterage) :
    device.onMessageReceived message =
      { device with messages := device.messages ++ [reply] }.sendNextMeterage := by
  obtain ⟨t, ht⟩ := h
  rw [onMessageReceived, ← ht, deserialize_serialize_append]
  cases reply with
  | error e => rfl
  | command command => rfl
  | meterage meterage => exact absurd rfl (hreply meterage)

theorem sendNextMeterage_done {device : DeviceMock}
    (h : device.meterages.length ≤ device.timeStamp.toNat) :
    device.sendNextMeterage = .ok (device, []) := dif_neg (Nat.not_lt.mpr h)

theorem sendNextMeterage_next {device : DeviceMock}
    (h : device.timeStamp.toNat < device.meterages.length) :
    device.sendNextMeterage = .ok ({ device with timeStamp := device.timeStamp + 1 },
      [device.encoder.encode (serialize
        (.meterage ⟨device.timeStamp, device.meterages[device.timeStamp.toNat]⟩))]) := by
  unfold sendNextMeterage
  rw [dif_pos h]
  exact if_neg (by simp [serialize, toBigEndian])

/-- Sending never fails and keeps the messages received. -/
theorem sendNextMeterage_ok (device : DeviceMock) :
    ∃ device' sent, device.sendNextMeterage = .ok (device', sent) ∧
      device'.messages = device.messages := by
  by_cases h : device.timeStamp.toNat < device.meterages.length
  · exact ⟨_, _, sendNextMeterage_next h, rfl⟩
  · exact ⟨_, _, sendNextMeterage_done (Nat.le_of_not_lt h), rfl⟩

end DeviceMock
end DeviceMonitoring
