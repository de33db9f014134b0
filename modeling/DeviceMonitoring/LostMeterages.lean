import DeviceMonitoring.ConnectedFlags
import DeviceMonitoring.Lines
import DeviceMonitoring.Receipts

/-! What becomes of a meterage when `sendNextMeterage` is called. The device counts it as sent
in any case; it is on its way only if the client is connected. -/
namespace DeviceMonitoring

theorem DeviceMock.onMessageReceived_ok {device : DeviceMock} {message : Bytes}
    {result : DeviceMock × List Bytes} (h : device.onMessageReceived message = .ok result) :
    ∃ mock, (deserialize (device.encoder.decode message) DeviceMock.onMessage).run device =
      .ok (true, mock) ∧ mock.sendNextMeterage = .ok result := by
  unfold onMessageReceived at h
  obtain ⟨⟨accepted, mock⟩, hread, hsend⟩ := Monitoring.bind_eq_ok h
  cases accepted with
  | true => exact ⟨mock, hread, hsend⟩
  | false => cases hsend

namespace World
variable {η : Type}

/-- A connected client's message is queued for the other end; any other one is dropped. -/
theorem clientSendMessage_cases {w : World η} (hw : w.Consistent none none) (c : Ref)
    (message : Bytes) :
    (w.clientConnected c = true ∧ ∃ a b, w.clientChannel c = some a ∧ w.net.peer a = some b ∧
      (w.clientSendMessage c message).net.tasks = w.net.tasks ++ [.sendMessage message b]) ∨
    w.clientConnected c = false ∧ w.clientSendMessage c message = w := by
  cases ha : w.clientChannel c with
  | none => exact .inr ⟨by simp only [clientConnected, ha], by simp only [clientSendMessage, ha]⟩
  | some a =>
      simp only [clientConnected, clientSendMessage, ha]
      cases hon : w.net.connected a with
      | true =>
          left
          obtain ⟨channel, hget, hcon⟩ := (Option.any_eq_true _ _).mp hon
          obtain ⟨b, -, hj⟩ := hw.wired.joined hget hcon
          exact ⟨rfl, a, b, rfl, hj.peer, by rw [Net.sendMessage_joined hj]; rfl⟩
      | false =>
          right
          refine ⟨rfl, ?_⟩
          rw [Net.sendMessage, hon, if_neg Bool.false_ne_true]

end World

namespace Monitoring

/-- The call of `sendNextMeterage` in a step: the state it is made in, and the device. -/
def sends (m : Monitoring) : SessionStep → Option (Monitoring × Ref)
  | .call (.startMeterageSending d) => if m.world.running.isSome then none else some (m, d)
  | .handle =>
      match m.world.running with
      | some (.message (.deviceMessage d) message, _) =>
          match m.devices.get d with
          | none => none
          | some device =>
              match (deserialize (device.encoder.decode message) DeviceMock.onMessage).run
                device.toDeviceMock with
              | .ok (true, mock) => some (m.setDevice d fun _ => mock, d)
              | _ => none
      | _ => none
  | _ => none

/-- The channel of a connection that a server holds under the identifier of the device. -/
def ServerEnd (m : Monitoring) (device : Device) (b : Ref) : Prop :=
  ∃ s n, m.world.connection s (m.deviceId device) = some n ∧ m.world.connectionChannel n = some b

/-- If the device has advanced, exactly one task carries the meterage to the server; if nothing
is queued, the device has not advanced. -/
structure Kept (device device' : Device) (m m' : Monitoring)
    (due : device.timeStamp.toNat < device.meterages.length) : Prop where
  queued : device'.timeStamp = device.timeStamp + 1 → ∃ b, m.ServerEnd device b ∧
    m'.world.net.tasks = m.world.net.tasks ++ [.sendMessage (device.encoder.encode (serialize
      (.meterage ⟨device.timeStamp, device.meterages[device.timeStamp.toNat]⟩))) b]
  left : m'.world.net.tasks = m.world.net.tasks → device'.timeStamp = device.timeStamp

/-- The meterage that the call is about, if one is due, is kept. -/
def KeepsNext (m : Monitoring) (d : Ref) (m' : Monitoring) : Prop :=
  ∀ device device', m.devices.get d = some device → m'.devices.get d = some device' →
    ∀ due, Kept device device' m m' due

/-- The client of the device is connected, if a meterage is due. -/
def Linked (m : Monitoring) (d : Ref) : Prop :=
  ∀ device, m.devices.get d = some device → device.timeStamp.toNat < device.meterages.length →
    m.world.clientConnected device.clientConnection = true

section Call
variable {m m' : Monitoring} {d : Ref}

theorem succ_ne_self (t : UInt64) : t + 1 ≠ t := by
  intro h
  simp at h

theorem onDevice_next {device : Device} (hget : m.devices.get d = some device)
    (due : device.timeStamp.toNat < device.meterages.length) :
    m.onDevice d DeviceMock.sendNextMeterage = .ok { m with
      devices := m.devices.modify d
        (·.setMock { device.toDeviceMock with timeStamp := device.timeStamp + 1 })
      world := m.world.clientSendMessage device.clientConnection (device.encoder.encode (serialize
        (.meterage ⟨device.timeStamp, device.meterages[device.timeStamp.toNat]⟩))) } := by
  unfold onDevice
  rw [hget]
  simp only [DeviceMock.sendNextMeterage_next due, List.foldl_cons, List.foldl_nil]

theorem serverEnd_of_peer (hw : m.world.Consistent none none) {device : Device} {a b : Ref}
    (ha : m.deviceChannel device = some a) (hb : m.world.net.peer a = some b) :
    m.ServerEnd device b := by
  obtain ⟨client, hc, hclient⟩ := Option.bind_eq_some_iff.mp ha
  obtain ⟨s, n, hn, hnb, -⟩ := World.opposite_of_client hw hc hclient hb
  have hid : m.deviceId device = client.clientId := by
    unfold deviceId
    rw [hc]
    rfl
  exact ⟨s, n, by rw [hid]; exact hn, hnb⟩

theorem keepsNext_iff (hw : m.world.Consistent none none)
    (h : m.onDevice d DeviceMock.sendNextMeterage = .ok m') : KeepsNext m d m' ↔ m.Linked d := by
  have hnothing : (∀ device, m.devices.get d = some device →
      ¬device.timeStamp.toNat < device.meterages.length) → (KeepsNext m d m' ↔ m.Linked d) := by
    intro hdone
    constructor
    · intro _ device hget due
      exact absurd due (hdone device hget)
    · intro _ device device' hget _ due
      exact absurd due (hdone device hget)
  cases hget : m.devices.get d with
  | none =>
      apply hnothing
      intro device hdevice
      rw [hget] at hdevice
      cases hdevice
  | some device =>
      by_cases due : device.timeStamp.toNat < device.meterages.length
      · rw [onDevice_next hget due] at h
        cases h
        rcases World.clientSendMessage_cases hw device.clientConnection (device.encoder.encode (serialize
          (.meterage ⟨device.timeStamp, device.meterages[device.timeStamp.toNat]⟩))) with
          ⟨hon, a, b, ha, hb, htasks⟩ | ⟨hoff, hsame⟩
        · constructor
          · intro _ device' hdevice' _
            rw [hget] at hdevice'
            cases hdevice'
            exact hon
          · intro _ sender sender' hsender _ due'
            rw [hget] at hsender
            cases hsender
            refine ⟨fun _ => ⟨b, serverEnd_of_peer hw ha hb, htasks⟩, fun hnothing => ?_⟩
            rw [htasks] at hnothing
            simp at hnothing
        · constructor
          · intro hkeeps
            -- the message is dropped, the time stamp goes up
            have hadvanced := Heap.get_modify_self m.devices d
              (·.setMock { device.toDeviceMock with timeStamp := device.timeStamp + 1 })
            rw [hget] at hadvanced
            have hleft := (hkeeps device _ hget hadvanced due).left (by rw [hsame])
            exact absurd hleft (succ_ne_self _)
          · intro hlinked
            have hon := hlinked device hget due
            rw [hoff] at hon
            cases hon
      · apply hnothing
        intro device' hdevice'
        rw [hget] at hdevice'
        cases hdevice'
        exact due

theorem keepsNext_congr {m'' : Monitoring} (hdevices : m''.devices = m'.devices)
    (hnet : m''.world.net = m'.world.net) : KeepsNext m d m'' ↔ KeepsNext m d m' := by
  unfold KeepsNext
  rw [hdevices]
  constructor
  · intro h device device' hget hget' due
    have hkept := h device device' hget hget' due
    exact ⟨by rw [← hnet]; exact hkept.queued, by rw [← hnet]; exact hkept.left⟩
  · intro h device device' hget hget' due
    have hkept := h device device' hget hget' due
    exact ⟨by rw [hnet]; exact hkept.queued, by rw [hnet]; exact hkept.left⟩

theorem onDevice_sendNextMeterage (m : Monitoring) (d : Ref) :
    ∃ m', m.onDevice d DeviceMock.sendNextMeterage = .ok m' := by
  unfold onDevice
  cases m.devices.get d with
  | none => exact ⟨m, rfl⟩
  | some device =>
      obtain ⟨mock, sent, hsend, -⟩ := device.toDeviceMock.sendNextMeterage_ok
      simp only [hsend]
      exact ⟨_, rfl⟩

theorem onDevice_received {device : Device} (hget : m.devices.get d = some device) {message : Bytes}
    {mock : DeviceMock} (hread : (deserialize (device.encoder.decode message) DeviceMock.onMessage).run
      device.toDeviceMock = .ok (true, mock)) :
    m.onDevice d (·.onMessageReceived message) =
      (m.setDevice d fun _ => mock).onDevice d DeviceMock.sendNextMeterage := by
  have hreceived : device.toDeviceMock.onMessageReceived message = mock.sendNextMeterage := by
    unfold DeviceMock.onMessageReceived
    rw [hread]
    rfl
  have hget' : (m.setDevice d fun _ => mock).devices.get d = some (device.setMock mock) := by
    rw [setDevice, Heap.get_modify_self, hget]
    rfl
  have htwice : ∀ mock', (m.setDevice d fun _ => mock).devices.modify d (·.setMock mock') =
      m.devices.modify d (·.setMock mock') := by
    intro mock'
    ext r : 1
    · by_cases hr : r = d
      · subst hr
        rw [Heap.get_modify_self, Heap.get_modify_self, hget', hget]
        rfl
      · rw [Heap.get_modify_of_ne _ _ hr, Heap.get_modify_of_ne _ _ hr]
        exact Heap.get_modify_of_ne _ _ hr
    · rfl
  unfold onDevice
  rw [hget, hget']
  simp only [hreceived]
  have hsame : (device.setMock mock).toDeviceMock = mock := rfl
  rw [hsame]
  cases mock.sendNextMeterage with
  | error what => rfl
  | ok result =>
      simp only [htwice]
      rfl

end Call

section Step
variable {S : PhaseSort} {I : Iteration} {m m₁ : Monitoring} {d : Ref}

theorem sessionStep_start (hidle : m.world.running = none) (d : Ref) :
    m.onDevice d DeviceMock.sendNextMeterage =
      .ok (m.sessionStep S I (.call (.startMeterageSending d))) := by
  obtain ⟨m₂, hsent⟩ := onDevice_sendNextMeterage m d
  have hstart : m.startMeterageSending d = .ok m₂ := hsent
  have hstep : m.sessionStep S I (.call (.startMeterageSending d)) = m₂ := by
    simp only [sessionStep, hidle, Option.isSome_none, Bool.false_eq_true, if_false, call, hstart]
  rw [hstep]
  exact hsent

theorem sessionStep_reply {device : Device} {message : Bytes} {mock : DeviceMock}
    (hrunning : m.world.running = some (.message (.deviceMessage d) message, .message))
    (hget : m.devices.get d = some device)
    (hread : (deserialize (device.encoder.decode message) DeviceMock.onMessage).run
      device.toDeviceMock = .ok (true, mock)) :
    ∃ m₂, (m.setDevice d fun _ => mock).onDevice d DeviceMock.sendNextMeterage = .ok m₂ ∧
      m.sessionStep S I .handle = { m₂ with world := { m₂.world with running := none } } := by
  obtain ⟨m₂, hsent⟩ := onDevice_sendNextMeterage (m.setDevice d fun _ => mock) d
  have hhandle : m.handle (.message (.deviceMessage d) message) = .ok m₂ :=
    (onDevice_received hget hread).trans hsent
  have hresume : m₂.world.resume = { m₂.world with running := none } := by
    unfold World.resume
    rw [(calls_handle hhandle).running, hrunning]
  refine ⟨m₂, hsent, ?_⟩
  rw [← hresume]
  simp only [sessionStep, hrunning, hhandle]

/-- The step does what the call does, and nothing else to the devices and the channels. -/
theorem sessionStep_sends (h : Sound S m) {step : SessionStep} (hsends : m.sends step = some (m₁, d)) :
    m₁.world.Consistent none none ∧ ∃ m₂, m₁.onDevice d DeviceMock.sendNextMeterage = .ok m₂ ∧
      (m.sessionStep S I step).devices = m₂.devices ∧
      (m.sessionStep S I step).world.net = m₂.world.net := by
  unfold sends at hsends
  split at hsends
  next d' =>
    split at hsends
    · cases hsends
    next hidle =>
      cases hsends
      rw [Bool.not_eq_true, Option.isSome_eq_false_iff, Option.isNone_iff_eq_none] at hidle
      exact ⟨h.consistent (by simp [hidle]), _, sessionStep_start hidle d, rfl, rfl⟩
  next =>
    split at hsends
    next d' message moment hrunning =>
      split at hsends
      · cases hsends
      next device hget =>
        split at hsends
        next mock hread =>
          cases hsends
          obtain rfl : moment = .message := h.handsMessages _ hrunning _ _ rfl
          obtain ⟨m₂, hsent, hstep⟩ := sessionStep_reply (S := S) (I := I) hrunning hget hread
          have hw : m.world.Consistent none none := by
            apply h.consistent
            rw [hrunning]
            rintro running ⟨⟩
            rfl
          rw [hstep]
          exact ⟨hw, m₂, hsent, rfl, rfl⟩
        · cases hsends
    · cases hsends
  · cases hsends

theorem devices_onClient (m : Monitoring) (d : Ref) (made : Ref → Call Handler) :
    (m.onClient I d made).devices = m.devices := by
  unfold onClient
  split <;> rfl

def StepKeeps (S : PhaseSort) (I : Iteration) (m : Monitoring) (step : SessionStep) : Prop :=
  ∀ m₁ d, m.sends step = some (m₁, d) → KeepsNext m₁ d (m.sessionStep S I step)

def StepLinked (m : Monitoring) (step : SessionStep) : Prop :=
  ∀ m₁ d, m.sends step = some (m₁, d) → m₁.Linked d

theorem stepKeeps_iff (h : Sound S m) (step : SessionStep) : StepKeeps S I m step ↔ m.StepLinked step := by
  have hcall : ∀ m₁ d, m.sends step = some (m₁, d) →
      (KeepsNext m₁ d (m.sessionStep S I step) ↔ m₁.Linked d) := by
    intro m₁ d hsends
    obtain ⟨hw, m₂, hsent, hdevices, hnet⟩ := sessionStep_sends (I := I) h hsends
    rw [keepsNext_congr hdevices hnet]
    exact keepsNext_iff hw hsent
  constructor
  · intro hkeeps m₁ d hsends
    exact (hcall m₁ d hsends).mp (hkeeps m₁ d hsends)
  · intro hlinked m₁ d hsends
    exact (hcall m₁ d hsends).mpr (hlinked m₁ d hsends)

/-- Every step of a session is made in a state that it fits. -/
def throughout (S : PhaseSort) (I : Iteration) (P : Monitoring → SessionStep → Prop) :
    Monitoring → List SessionStep → Prop
  | _, [] => True
  | m, step :: steps => P m step ∧ throughout S I P (m.sessionStep S I step) steps

theorem throughout_keeps_iff (h : Sound S m) (steps : List SessionStep) :
    throughout S I (StepKeeps S I) m steps ↔ throughout S I StepLinked m steps := by
  induction steps generalizing m with
  | nil => exact Iff.rfl
  | cons step steps ih => exact and_congr (stepKeeps_iff h step) (ih (h.step step))

/-- A session loses no meterage if and only if, whenever `sendNextMeterage` is called and a
meterage is due, the client of the device is connected. -/
theorem meterages_kept_iff (S : PhaseSort) (I : Iteration) (steps : List SessionStep) :
    throughout S I (StepKeeps S I) create steps ↔ throughout S I StepLinked create steps :=
  throughout_keeps_iff (sound_create S) steps

/-- The device starts to send before it is connected. -/
def earlyStart : List SessionStep :=
  [.call .newDevice, .call (.selectDeviceExecutor 0 "ROT3"), .call (.setMeterages 0 [5]),
    .call (.startMeterageSending 0)]

/-- Nothing is queued, but the device has advanced. -/
theorem meterage_lost : ¬ ∀ (S : PhaseSort) (I : Iteration) (steps : List SessionStep),
    throughout S I (StepKeeps S I) create steps := by
  intro h
  obtain ⟨-, -, -, hkeeps, -⟩ := h .stable .byEntry earlyStart
  have hleft := (hkeeps _ 0 rfl _ _ rfl rfl (by decide)).left rfl
  revert hleft
  decide

end Step
end Monitoring
end DeviceMonitoring
