import DeviceMonitoring.CenterReplies
import DeviceMonitoring.Mismatch
import DeviceMonitoring.MonitoringServer

/-! The exchange between one device and the server: meterages numbered from zero on,
each answered before the next one is sent. What the server answers depends on the
device's own schedule and its own meterages. -/
namespace DeviceMonitoring

/-- The meterage that carries the given number. -/
def numbered (meterages : List UInt8) (k : Nat) : MessageMeterage :=
  ⟨UInt64.ofNat k, meterages.getD k 0⟩

/-- The meterages with smaller numbers, as calls of a command centre. -/
def asked (deviceId : UInt64) (meterages : List UInt8) : Nat → History
  | 0 => []
  | k+1 => .processMeterage deviceId (numbered meterages k) :: asked deviceId meterages k

def ownSchedules (deviceId : UInt64) (past : History) : History :=
  past.filter fun call =>
    match call with
    | .setSchedule schedule => schedule.deviceId = deviceId
    | _ => false

/-- The reply to a meterage that comes after those with smaller numbers. -/
def answer (S : PhaseSort) (past : History) (deviceId : UInt64) (meterages : List UInt8) (k : Nat) :
    Message := reply S (asked deviceId meterages k ++ past) deviceId (numbered meterages k)

/-- What was encoded with an algorithm begins, decoded with it, with what it was. -/
theorem prefix_decode {A : Algorithm} {encoder : MessageEncoder}
    (h : encoder.selected = some A.executor) (s : Bytes) :
    s <+: encoder.decode (A.executor.encode s) := by
  have hdecode : encoder.decode (A.executor.encode s) = s := by
    rw [MessageEncoder.decode_of_selected h, A.decode_encode]
  exact ⟨[], by rw [List.append_nil, hdecode]⟩

theorem answer_ne_meterage (S : PhaseSort) (past : History) (deviceId : UInt64)
    (meterages : List UInt8) (k : Nat) (meterage : MessageMeterage) :
    answer S past deviceId meterages k ≠ .meterage meterage := by
  unfold answer reply replyTo
  split <;> simp

theorem reply_concerning (S : PhaseSort) (past : History) (deviceId : UInt64)
    (meterage : MessageMeterage) :
    reply S (concerning deviceId past) deviceId meterage = reply S past deviceId meterage := by
  unfold reply
  rw [verdict_congr S (latestSchedule_concerning deviceId past)
    (fun t => isObsolete_concerning deviceId t past)]

section Own
variable (deviceId : UInt64) (meterages : List UInt8)

theorem concerning_asked (k : Nat) :
    concerning deviceId (asked deviceId meterages k) = asked deviceId meterages k := by
  induction k with
  | zero => rfl
  | succ k ih =>
      rw [asked, concerning_self (by rfl), ih]

/-- The calls that concern a device are all that its reply depends on. -/
theorem reply_of_concerning (S : PhaseSort) {past past' : History} {k : Nat}
    (h : concerning deviceId past' = asked deviceId meterages k ++ concerning deviceId past) :
    reply S past' deviceId (numbered meterages k) = answer S past deviceId meterages k := by
  have hown : concerning deviceId (asked deviceId meterages k ++ past) = concerning deviceId past' := by
    rw [h, concerning, List.filter_append, ← concerning, ← concerning, concerning_asked]
  rw [answer, ← reply_concerning S past', ← hown, reply_concerning]

theorem latestSchedule_asked (past : History) (k : Nat) :
    latestSchedule deviceId (asked deviceId meterages k ++ past) = latestSchedule deviceId past := by
  induction k with
  | zero => rfl
  | succ k ih => exact ih

theorem latestSchedule_own (past : History) :
    latestSchedule deviceId (ownSchedules deviceId past) = latestSchedule deviceId past := by
  induction past with
  | nil => rfl
  | cons call past ih =>
      unfold ownSchedules at ih ⊢
      cases call with
      | setSchedule schedule =>
          by_cases hid : schedule.deviceId = deviceId
          · simp [latestSchedule, hid]
          · simp [latestSchedule, hid, ih]
      | processMeterage other meterage => simpa [latestSchedule] using ih
      | deviationStats other => simpa [latestSchedule] using ih

theorem answer_own (S : PhaseSort) {past : History}
    (hpast : ∀ meterage, .processMeterage deviceId meterage ∉ past) (k : Nat) :
    answer S (ownSchedules deviceId past) deviceId meterages k =
      answer S past deviceId meterages k := by
  unfold answer reply
  rw [verdict_congr S]
  · rw [latestSchedule_asked, latestSchedule_asked, latestSchedule_own]
  · intro t
    rw [Bool.eq_iff_iff, isObsolete_iff, isObsolete_iff]
    simp [ownSchedules, hpast]

end Own

/-- The state of a device that has sent and received as many messages. -/
def DeviceMock.progress (S : PhaseSort) (past : History) (deviceId : UInt64) (device : DeviceMock)
    (sent received : Nat) : DeviceMock :=
  { device with
    timeStamp := UInt64.ofNat sent
    messages := (List.range received).map (answer S past deviceId device.meterages) }

section Device
variable {A : Algorithm} {S : PhaseSort} {past : History} {deviceId : UInt64} {device : DeviceMock}
  (hlength : device.meterages.length < 2 ^ 64)
include hlength

theorem sendNextMeterage_progress (hselected : device.encoder.selected = some A.executor)
    {k received : Nat} (hk : k < device.meterages.length) :
    (device.progress S past deviceId k received).sendNextMeterage =
      .ok (device.progress S past deviceId (k + 1) received,
        [A.executor.encode (serialize (.meterage (numbered device.meterages k)))]) := by
  have hstamp : (UInt64.ofNat k).toNat = k := UInt64.toNat_ofNat_of_lt' (Nat.lt_trans hk hlength)
  have hnext : UInt64.ofNat k + 1 = UInt64.ofNat (k + 1) := by simp
  have hlt : (device.progress S past deviceId k received).timeStamp.toNat <
      (device.progress S past deviceId k received).meterages.length := by
    simpa only [DeviceMock.progress, hstamp] using hk
  rw [DeviceMock.sendNextMeterage_next hlt]
  simp only [DeviceMock.progress, hstamp, hnext, MessageEncoder.encode_of_selected hselected,
    numbered, List.getD_eq_getElem _ _ hk]

theorem sendNextMeterage_last (received : Nat) :
    (device.progress S past deviceId device.meterages.length received).sendNextMeterage =
      .ok (device.progress S past deviceId device.meterages.length received, []) := by
  apply DeviceMock.sendNextMeterage_done
  exact (UInt64.toNat_ofNat_of_lt' hlength).ge

omit hlength in
/-- The reply to the last meterage sent is kept, and the next meterage is sent. -/
theorem onMessageReceived_progress (hselected : device.encoder.selected = some A.executor)
    (sent k : Nat) :
    (device.progress S past deviceId sent k).onMessageReceived
        (A.executor.encode (serialize (answer S past deviceId device.meterages k))) =
      (device.progress S past deviceId sent (k + 1)).sendNextMeterage := by
  have hprefix : serialize (answer S past deviceId device.meterages k) <+:
      (device.progress S past deviceId sent k).encoder.decode
        (A.executor.encode (serialize (answer S past deviceId device.meterages k))) :=
    prefix_decode hselected _
  rw [DeviceMock.onMessageReceived_reply hprefix (answer_ne_meterage S past deviceId _ k)]
  simp only [DeviceMock.progress, List.range_succ, List.map_append, List.map_cons, List.map_nil]

end Device

/-- A server that has processed the meterages with smaller numbers answers the next one. -/
theorem onMessageReceived_answer {A : Algorithm} {S : PhaseSort} {past past' : History}
    {server : DeviceMonitoringServer} (hselected : server.encoder.selected = some A.executor)
    (hafter : CommandCenter.after S past' = some server.commandCenter) {deviceId : UInt64}
    {meterages : List UInt8} {k : Nat}
    (hown : concerning deviceId past' = asked deviceId meterages k ++ concerning deviceId past) :
    ∃ center, server.onMessageReceived deviceId
        (A.executor.encode (serialize (.meterage (numbered meterages k)))) =
          some ({ server with commandCenter := center }, [(deviceId,
            A.executor.encode (serialize (answer S past deviceId meterages k)))]) ∧
      CommandCenter.after S (.processMeterage deviceId (numbered meterages k) :: past') =
        some center := by
  obtain ⟨center, hcenter, -⟩ :=
    (agrees_of_after hafter).processMeterage deviceId (numbered meterages k)
  refine ⟨center, ?_, ?_⟩
  · rw [DeviceMonitoringServer.onMessageReceived_meterage (prefix_decode hselected _), hcenter,
      reply_of_concerning deviceId meterages S hown]
    simp [DeviceMonitoringServer.outgoing, MessageEncoder.encode_of_selected hselected]
  · rw [CommandCenter.after, hafter, Option.bind_some, CommandCenter.perform, hcenter]
    rfl

end DeviceMonitoring
