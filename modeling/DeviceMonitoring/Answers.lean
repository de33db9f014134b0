import DeviceMonitoring.Setup

/-! What every device is answered, whatever the other devices do and in whichever order
the tasks come. -/
namespace DeviceMonitoring

/-- The reply that a command centre gives which holds nothing but the device's schedule
and has processed nothing but the device's meterages with smaller numbers. -/
def SoloReply (S : PhaseSort) (past : History) (deviceId : UInt64) (meterages : List UInt8)
    (k : Nat) (r : Message) : Prop :=
  callbacks S (asked deviceId meterages k ++ ownSchedules deviceId past) deviceId
    (numbered meterages k) = some [(deviceId, r)]

theorem soloReply_answer (S : PhaseSort) {past : History} {deviceId : UInt64}
    (hpast : ∀ meterage, .processMeterage deviceId meterage ∉ past) (meterages : List UInt8)
    (k : Nat) : SoloReply S past deviceId meterages k (answer S past deviceId meterages k) := by
  rw [← answer_own deviceId meterages S hpast]
  exact callbacks_eq S _ deviceId _

namespace Monitoring

/-- The meterage that the device waits to be answered, or the reply to it. -/
inductive Awaited (S : PhaseSort) (A : Algorithm) (past : History) (m : Monitoring)
    (device : Device) : MessageTask → Prop
  | meterage (ch : Ref) (channel : m.serverChannel device = some ch) :
      Awaited S A past m device (.sendMessage (A.executor.encode (serialize (.meterage
        (numbered device.meterages device.messages.length)))) ch)
  | reply (ch : Ref) (channel : m.deviceChannel device = some ch) (r : Message)
      (solo : SoloReply S past (m.deviceId device) device.meterages device.messages.length r) :
      Awaited S A past m device (.sendMessage (A.executor.encode (serialize r)) ch)

/-- An exchange at any moment. -/
structure Exchanging (S : PhaseSort) (A : Algorithm) (past : History) (m : Monitoring)
    (device : Device) : Prop where
  bound : device.messages.length ≤ device.meterages.length
  single : (m.inFlight device).length ≤ 1
  awaited : ∀ task ∈ m.inFlight device,
    device.messages.length < device.meterages.length ∧ m.Awaited S A past device task
  replies : ∀ k r, device.messages[k]? = some r →
    SoloReply S past (m.deviceId device) device.meterages k r

section
variable {S : PhaseSort} {A : Algorithm} {past : History} {m m' : Monitoring} {d : Ref}
  {device : Device} {a b : Ref} {r : RoundRobin Ref} {begun : Ref → Prop}

theorem messages_progress (deviceId : UInt64) (sent received : Nat) :
    (device.progress S past deviceId sent received).messages =
      (List.range received).map (answer S past deviceId device.meterages) := rfl

theorem carries_sendMessage (m : Monitoring) (device : Device) (message : Bytes) (ch : Ref) :
    m.carries device (.sendMessage message ch) = true ↔
      some ch = m.deviceChannel device ∨ some ch = m.serverChannel device := by
  simp only [carries, Bool.or_eq_true, beq_iff_eq]

/-- A message of an exchange is on the line of its own device. -/
theorem carries_pending (hready : m.Ready S A past) (hget : m.devices.get d = some device)
    {e : Ref} {other : Device} (hother : m.devices.get e = some other) (turns : Nat) :
    m.carries device (m.pending S A past e turns) = true ↔ e = d := by
  obtain ⟨a, b, hline⟩ := hready.connected d device hget
  obtain ⟨a', b', hline'⟩ := hready.connected e other hother
  have hchannel : ∀ ch, ch = a' ∨ ch = b' → (some ch = m.deviceChannel device ∨
      some ch = m.serverChannel device ↔ e = d) := by
    intro ch hch
    constructor
    · intro hon
      by_contra hne
      have hid : m.deviceId device ≠ m.deviceId other := fun hid =>
        hne (hready.distinct d e device other hget hother hid).symm
      obtain ⟨hleft, hright⟩ := hline.disjoint hline' (Ne.symm hne) hid
      simp only [hline.deviceChannel, hline.serverChannel, Option.some.injEq] at hon
      rcases hch with rfl | rfl
      · exact hon.elim hleft.1 hleft.2
      · exact hon.elim hright.1 hright.2
    · rintro rfl
      obtain rfl : device = other := Option.some.inj (hget.symm.trans hother)
      rcases hch with rfl | rfl
      · exact .inl hline'.deviceChannel.symm
      · exact .inr hline'.serverChannel.symm
  rcases Nat.even_or_odd' turns with ⟨k, rfl | rfl⟩
  · rw [pending_even hother hline', carries_sendMessage]
    exact hchannel b' (.inr rfl)
  · rw [pending_odd hother hline', carries_sendMessage]
    exact hchannel a' (.inl rfl)

/-- What is in flight for a device is the message of its own exchange. -/
theorem Follows.inFlight (h : m.Follows S A past r m') (hready : m.Ready S A past)
    (hfair : r.Fair m.work begun) (hget : m.devices.get d = some device) (sent received : Nat) :
    m'.inFlight (device.progress S past (m.deviceId device) sent received) =
      if d ∈ r.queue then [m.pending S A past d (r.done d)] else [] := by
  obtain ⟨a, b, hline⟩ := hready.connected d device hget
  have hline' := h.line hline sent received
  have hcarries : m'.carries (device.progress S past (m.deviceId device) sent received) =
      m.carries device := by
    funext task
    cases task with
    | sendMessage message ch =>
        simp only [carries, hline.deviceChannel, hline.serverChannel, hline'.deviceChannel,
          hline'.serverChannel]
    | disconnect ch => rfl
    | other task => rfl
  have hown : r.queue.filter (m.carries device ∘ fun e => m.pending S A past e (r.done e)) =
      r.queue.filter (· == d) := by
    apply List.filter_congr
    intro e he
    obtain ⟨other, hother, -⟩ := exists_of_work ((hfair.mem e).mp he).2
    rw [Bool.eq_iff_iff, beq_iff_eq]
    exact carries_pending hready hget hother _
  unfold Monitoring.inFlight
  rw [hcarries, h.world, World.tasks_withTasks, List.filter_map, hown, List.filter_beq]
  split
  next hmem => rw [List.count_eq_one_of_mem hfair.nodup hmem]; rfl
  next hmem => rw [List.count_eq_zero_of_not_mem hmem]; rfl

theorem length_messages_progress (deviceId : UInt64) (sent received : Nat) :
    (device.progress S past deviceId sent received).messages.length = received := by
  rw [messages_progress, List.length_map, List.length_range]

theorem Follows.awaited (h : m.Follows S A past r m') (hready : m.Ready S A past)
    (hget : m.devices.get d = some device) (sent turns : Nat) :
    m'.Awaited S A past (device.progress S past (m.deviceId device) sent (turns / 2))
      (m.pending S A past d turns) := by
  obtain ⟨a, b, hline⟩ := hready.connected d device hget
  rcases Nat.even_or_odd' turns with ⟨k, rfl | rfl⟩
  · have hline' := h.line hline sent k
    have hmeterage := @Awaited.meterage S A past m' _ b hline'.serverChannel
    rw [length_messages_progress] at hmeterage
    rw [pending_even hget hline, show 2 * k / 2 = k by omega]
    exact hmeterage
  · have hline' := h.line hline sent k
    rw [pending_odd hget hline, show (2 * k + 1) / 2 = k by omega]
    refine .reply a hline'.deviceChannel _ ?_
    rw [h.deviceId, length_messages_progress]
    exact soloReply_answer S (hready.unheard d device hget) _ k

theorem Follows.exchanging (h : m.Follows S A past r m') (hready : m.Ready S A past)
    (hfair : r.Fair m.work begun) (hget : m.devices.get d = some device) :
    m'.Exchanging S A past
      (device.progress S past (m.deviceId device) (sentBy r d) (r.done d / 2)) where
  bound := by
    have hle := hfair.bound d
    rw [work_of_get hget] at hle
    rw [length_messages_progress]
    exact Nat.div_le_of_le_mul hle
  single := by
    rw [h.inFlight hready hfair hget]
    split <;> simp
  awaited := by
    intro task htask
    rw [h.inFlight hready hfair hget] at htask
    split at htask
    next hmem =>
      have hlt := ((hfair.mem d).mp hmem).2
      rw [work_of_get hget] at hlt
      obtain rfl := List.mem_singleton.mp htask
      refine ⟨?_, h.awaited hready hget _ _⟩
      rw [length_messages_progress]
      exact Nat.div_lt_of_lt_mul hlt
    next => cases htask
  replies := by
    intro k reply hk
    rw [messages_progress, List.getElem?_map] at hk
    obtain ⟨i, hi, rfl⟩ := Option.map_eq_some_iff.mp hk
    obtain ⟨hlt, rfl⟩ := List.getElem?_eq_some_iff.mp hi
    rw [h.deviceId, List.getElem_range]
    exact soloReply_answer S (hready.unheard d device hget) _ k

/-- From a state in which the devices are ready, every run that starts each device at
most once: no handler throws; at most one message is in flight for a device, the
meterage it waits to be answered or the reply to it; every message received is the
reply that the device would be given if it were alone; and the queue runs empty, when
each device that was started has been answered as often as it has meterages. -/
theorem meterages_answered (hready : m.Ready S A past) (steps : List MonitoringStep)
    (honce : (started steps).Nodup) :
    ∃ m', m.run steps = .ok m' ∧
      (∃ n m'', m'.run (List.replicate n .processTask) = .ok m'' ∧ m''.world.net.tasks = []) ∧
      ∀ d device, m.devices.get d = some device →
        ∃ device', m'.devices.get d = some device' ∧ device'.meterages = device.meterages ∧
          m'.deviceId device' = m.deviceId device ∧ m'.Exchanging S A past device' ∧
          (m'.world.net.tasks = [] → d ∈ started steps →
            device'.messages.length = device.meterages.length) := by
  obtain ⟨r, m', hrun, hfollows, hfair⟩ := (Follows.initial hready).run hready RoundRobin.Fair.initial
    steps honce fun _ _ hbegun => hbegun
  refine ⟨m', hrun, ?_, ?_⟩
  · obtain ⟨m'', hturns, hfinal⟩ := hfollows.turns hready hfair (r.left m.work)
    refine ⟨_, m'', hturns, ?_⟩
    rw [hfinal.world, World.tasks_withTasks, hfair.finishes, List.map_nil]
  · intro d device hget
    refine ⟨_, hfollows.get hget, rfl, hfollows.deviceId _ _,
      hfollows.exchanging hready hfair hget, ?_⟩
    intro hempty hstarted
    rw [hfollows.world, World.tasks_withTasks, List.map_eq_nil_iff] at hempty
    rw [length_messages_progress, hfair.complete hempty (.inr hstarted), work_of_get hget]
    omega

end

def firstSchedule : DeviceWorkSchedule := ⟨111, [⟨0, 0⟩, ⟨1, 0⟩, ⟨2, 3⟩]⟩

def secondSchedule : DeviceWorkSchedule := ⟨654, [⟨1, 100⟩, ⟨2, 50⟩, ⟨3, 0⟩]⟩

def fleet : List (UInt64 × List UInt8) := [(111, [0, 1, 2]), (654, [0, 0, 50, 100])]

/-- Two devices with schedules of their own. -/
def twoDevices : Monitoring :=
  ((connectDevices 11 "ROT3" (listeningServer 11 "ROT3") fleet).toOption.getD create).setSchedules .stable
    [firstSchedule, secondSchedule]

theorem twoDevices_ready : twoDevices.Ready .stable .rot3
    [.setSchedule secondSchedule, .setSchedule firstSchedule] := by
  have hserverId : (11 : UInt64) ≠ 0 := by decide
  have hexecutor : (newMock "ROT3" []).encoder.selected = some Algorithm.rot3.executor := rfl
  have hdistinct : (fleet.map Prod.fst).Nodup := by decide
  have hfleet : ∀ new ∈ fleet, new.1 ≠ 0 ∧ new.2.length < 2 ^ 64 := by decide
  obtain ⟨m, hm, hready, -⟩ := devices_ready .stable hserverId hexecutor hdistinct hfleet
    [firstSchedule, secondSchedule]
  unfold twoDevices
  rw [hm]
  exact hready

/-- The second device starts first, and its first meterage is processed before the
first device starts. -/
def interleaved : List MonitoringStep :=
  [.startMeterageSending 1, .processTask, .startMeterageSending 0] ++ List.replicate 13 .processTask

theorem meterages_answered_two_devices : ∃ m', twoDevices.run interleaved = .ok m' ∧
    ∀ d device, twoDevices.devices.get d = some device → ∃ device',
      m'.devices.get d = some device' ∧ device'.messages.length = device.meterages.length ∧
        m'.Exchanging .stable .rot3 [.setSchedule secondSchedule, .setSchedule firstSchedule]
          device' := by
  obtain ⟨m', hrun, -, hdevices⟩ := meterages_answered twoDevices_ready interleaved (by decide)
  have hempty : (twoDevices.run interleaved).toOption.map (·.world.net.tasks) = some [] := rfl
  rw [hrun] at hempty
  refine ⟨m', hrun, ?_⟩
  intro d device hget
  have hlt : d < 2 := Heap.lt_next hget
  obtain ⟨device', hget', -, -, hexchanging, hcomplete⟩ := hdevices d device hget
  refine ⟨device', hget', hcomplete (Option.some.inj hempty) ?_, hexchanging⟩
  match d, hlt with
  | 0, _ => decide
  | 1, _ => decide

example : (twoDevices.run interleaved).toOption.map (fun m =>
    [0, 1].map fun d => (m.devices.get d).map (·.toDeviceMock.messages)) =
      some [some [.command 0, .command (-1), .command 1],
        some [.error .noTimestamp, .command 100, .command 0, .command (-100)]] := by decide

end Monitoring
end DeviceMonitoring
