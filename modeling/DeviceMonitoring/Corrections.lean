import DeviceMonitoring.CenterStatistics
import DeviceMonitoring.MonitoringServer
import DeviceMonitoring.Mismatch
import Mathlib.Algebra.Order.Ring.Int

/-! The value of a correction on its way to the device. The statistics use the exact
difference; the message carries it in one signed byte. -/
namespace DeviceMonitoring

inductive ServerCall where
  | setDeviceWorkSchedule (schedule : DeviceWorkSchedule)
  | onMessageReceived (deviceId : UInt64) (message : Bytes)
  | deviationStats (deviceId : UInt64)
  | selectExecutor (name : String)
  | addExecutor (object : Option ExecutorObject)

namespace DeviceMonitoringServer

def deviationStats (server : DeviceMonitoringServer) (deviceId : UInt64) :
    List DeviationStats × DeviceMonitoringServer :=
  let (stats, commandCenter) := server.commandCenter.deviationStats deviceId
  (stats, { server with commandCenter })

def perform (S : PhaseSort) (server : DeviceMonitoringServer) :
    ServerCall → Option DeviceMonitoringServer
  | .setDeviceWorkSchedule schedule => some (server.setDeviceWorkSchedule S schedule)
  | .onMessageReceived deviceId message =>
      (server.onMessageReceived deviceId message).map Prod.fst
  | .deviationStats deviceId => some (server.deviationStats deviceId).2
  | .selectExecutor name => some { server with encoder := (server.encoder.selectExecutor name).2 }
  | .addExecutor object => some { server with encoder := (server.encoder.addExecutor object).2 }

/-- The state of a server after the given calls, the newest one first. -/
def after (S : PhaseSort) : List ServerCall → Option DeviceMonitoringServer
  | [] => some {}
  | call :: past => (after S past).bind fun server => server.perform S call

theorem perform_history {S : PhaseSort} {server : DeviceMonitoringServer} {past : History}
    (h : CommandCenter.after S past = some server.commandCenter) (call : ServerCall) :
    ∃ server' past', server.perform S call = some server' ∧
      CommandCenter.after S past' = some server'.commandCenter := by
  have hmore : ∀ centerCall, ∃ center, server.commandCenter.perform S centerCall = some center ∧
      CommandCenter.after S (centerCall :: past) = some center := by
    intro centerCall
    obtain ⟨center, hcenter, -⟩ := (agrees_of_after h).perform centerCall
    exact ⟨center, hcenter, by rw [CommandCenter.after, h]; exact hcenter⟩
  cases call with
  | setDeviceWorkSchedule schedule =>
      obtain ⟨center, hcenter, hafter⟩ := hmore (.setSchedule schedule)
      cases hcenter
      exact ⟨_, _, rfl, hafter⟩
  | deviationStats deviceId =>
      obtain ⟨center, hcenter, hafter⟩ := hmore (.deviationStats deviceId)
      cases hcenter
      exact ⟨_, _, rfl, hafter⟩
  | selectExecutor name => exact ⟨_, past, rfl, h⟩
  | addExecutor object => exact ⟨_, past, rfl, h⟩
  | onMessageReceived deviceId message =>
      by_cases hm : ∃ m, serialize (.meterage m) <+: server.encoder.decode message
      · obtain ⟨meterage, hm⟩ := hm
        obtain ⟨center, hcenter, hafter⟩ := hmore (.processMeterage deviceId meterage)
        obtain ⟨⟨c, calls⟩, hp, rfl⟩ := Option.map_eq_some_iff.mp hcenter
        refine ⟨{ server with commandCenter := c }, _, ?_, hafter⟩
        rw [perform, onMessageReceived_meterage hm, hp]
        rfl
      · push Not at hm
        exact ⟨server, past, by rw [perform, onMessageReceived_other hm]; rfl, h⟩

/-- The command centre of a server is one that some history leads to. -/
theorem after_history (S : PhaseSort) (calls : List ServerCall) :
    ∃ server past, after S calls = some server ∧
      CommandCenter.after S past = some server.commandCenter := by
  induction calls with
  | nil => exact ⟨{}, [], rfl, rfl⟩
  | cons call calls ih =>
      obtain ⟨server, past, hserver, hpast⟩ := ih
      obtain ⟨server', past', hserver', hpast'⟩ := perform_history hpast call
      exact ⟨server', past', by rw [after, hserver]; exact hserver', hpast'⟩

end DeviceMonitoringServer

/-- A difference of two bytes as it comes out of a signed byte. -/
theorem command_toInt8 (phase : Phase) (meterage : UInt8) :
    let difference := CommandCenter.command phase meterage
    difference.toInt8.toInt =
      if 127 < difference then difference - 256
      else if difference < -128 then difference + 256 else difference := by
  intro difference
  have hp := phase.value.toNat_lt
  have hm := meterage.toNat_lt
  have hd : difference = (phase.value.toNat : Int) - meterage.toNat := rfl
  have hb : difference.toInt8.toInt = difference.bmod 256 := Int8.toInt_ofInt
  rw [hb, Int.bmod_def]
  split <;> split <;> omega

theorem command_exact_iff (phase : Phase) (meterage : UInt8) :
    let difference := CommandCenter.command phase meterage
    (meterage.toNat + difference.toInt8.toInt = phase.value.toNat ↔
      -128 ≤ difference ∧ difference ≤ 127) ∧
    (difference.toInt8.toInt * difference.toInt8.toInt = difference * difference ↔
      -128 ≤ difference ∧ difference ≤ 128) := by
  intro difference
  have hp := phase.value.toNat_lt
  have hm := meterage.toNat_lt
  have hd : difference = (phase.value.toNat : Int) - meterage.toNat := rfl
  have hk := command_toInt8 phase meterage
  change difference.toInt8.toInt = _ at hk
  rw [mul_self_eq_mul_self_iff, hk]
  constructor
  · split
    · omega
    · split <;> omega
  · split
    · omega
    · split <;> omega

theorem recordVerdict_last (statsInfo : StatsInfo) (meterage : MessageMeterage) (phase : Phase) :
    (recordVerdict statsInfo meterage (.ok phase)).squareDiffs.getLast? =
      some (squareDiff ⟨phase, meterage⟩) := by
  rw [recordVerdict, CommandCenter.record]
  exact List.getLast?_concat ..

theorem server_answers {S : PhaseSort} {server : DeviceMonitoringServer} {past : History}
    (hpast : CommandCenter.after S past = some server.commandCenter) {deviceId : UInt64}
    {message : Bytes} {meterage : MessageMeterage} {phase : Phase}
    (hmessage : serialize (.meterage meterage) <+: server.encoder.decode message)
    (hverdict : verdict S past deviceId meterage = .ok phase) :
    ∃ server', server.onMessageReceived deviceId message = some (server', [(deviceId,
        server.outgoing (.command (CommandCenter.command phase meterage.meterage).toInt8))]) ∧
      (server'.commandCenter.state deviceId).statsInfo.squareDiffs.getLast? =
        some (squareDiff ⟨phase, meterage⟩) := by
  obtain ⟨center, hcenter, hagrees'⟩ :=
    (agrees_of_after hpast).processMeterage deviceId meterage
  refine ⟨{ server with commandCenter := center }, ?_, ?_⟩
  · rw [DeviceMonitoringServer.onMessageReceived_meterage hmessage, hcenter, reply, hverdict]
    rfl
  · rw [(hagrees' deviceId).2, ledger_samples, hverdict]
    exact recordVerdict_last _ meterage phase

/-- For every command sent in answer to a meterage, whatever the server was called
with before: the difference recorded is exact, and the command the device obtains
is exact if and only if the difference fits a signed byte. -/
theorem corrections_exact_within_a_byte (S : PhaseSort) (calls : List ServerCall) :
    ∃ server past, DeviceMonitoringServer.after S calls = some server ∧
      CommandCenter.after S past = some server.commandCenter ∧
      ∀ (E : BaseEncoderExecutor) (device : DeviceMock) (deviceId : UInt64) (message : Bytes)
        (meterage : MessageMeterage) (phase : Phase),
        (∀ s, E.decode (E.encode s) = s) →
        server.encoder.selected = some E → device.encoder.selected = some E →
        serialize (.meterage meterage) <+: server.encoder.decode message →
        verdict S past deviceId meterage = .ok phase →
        ∃ server' sent device' next, ∃ k : Int8,
          server.onMessageReceived deviceId message = some (server', [(deviceId, sent)]) ∧
          device.onMessageReceived sent = .ok (device', next) ∧
          device'.messages = device.messages ++ [.command k] ∧
          let difference : Int := phase.value.toNat - meterage.meterage.toNat
          (server'.commandCenter.state deviceId).statsInfo.squareDiffs.getLast? =
            some (difference * difference) ∧
          ((meterage.meterage.toNat : Int) + k.toInt = phase.value.toNat ↔
            -128 ≤ difference ∧ difference ≤ 127) ∧
          (k.toInt * k.toInt = difference * difference ↔
            -128 ≤ difference ∧ difference ≤ 128) := by
  obtain ⟨server, past, hserver, hpast⟩ := DeviceMonitoringServer.after_history S calls
  refine ⟨server, past, hserver, hpast, ?_⟩
  intro E device deviceId message meterage phase hE hserverE hdeviceE hmessage hverdict
  obtain ⟨server', hsent, hdiff⟩ := server_answers hpast hmessage hverdict
  obtain ⟨hvalue, hsquare⟩ := command_exact_iff phase meterage.meterage
  have hread : serialize (.command (CommandCenter.command phase meterage.meterage).toInt8) <+:
      device.encoder.decode (server.outgoing
        (.command (CommandCenter.command phase meterage.meterage).toInt8)) := by
    rw [MessageEncoder.decode_of_selected hdeviceE, DeviceMonitoringServer.outgoing,
      MessageEncoder.encode_of_selected hserverE, hE]
  have haccept := DeviceMock.onMessageReceived_reply hread (fun _ => by simp)
  obtain ⟨device', next, hnext, hmessages⟩ := DeviceMock.sendNextMeterage_ok
    { device with messages := device.messages ++
      [.command (CommandCenter.command phase meterage.meterage).toInt8] }
  exact ⟨server', _, device', next, _, hsent, haccept.trans hnext, hmessages, hdiff, hvalue, hsquare⟩

/-- A phase value of 255 and a meterage of 0: the device obtains -1, the
statistics record the square of 255. -/
theorem correction_wraps : ∃ server server' sent device',
    DeviceMonitoringServer.after .stable
      [.setDeviceWorkSchedule ⟨1, [⟨0, 255⟩]⟩, .selectExecutor "ROT3"] = some server ∧
    server.onMessageReceived 1 (rot3EncoderExecutor.encode (serialize (.meterage ⟨0, 0⟩))) =
      some (server', [(1, sent)]) ∧
    ({ encoder := ((MessageEncoder.create 0 1 2).selectExecutor "ROT3").2 } :
      DeviceMock).onMessageReceived sent = .ok (device', []) ∧
    device'.messages = [.command (-1)] ∧
    (server'.commandCenter.state 1).statsInfo.squareDiffs = [65025] ∧
    0 + (-1 : Int8).toInt ≠ 255 ∧ (-1 : Int8).toInt * (-1 : Int8).toInt ≠ 65025 :=
  ⟨_, _, _, _, rfl, rfl, rfl, rfl, rfl, by decide, by decide⟩

end DeviceMonitoring
