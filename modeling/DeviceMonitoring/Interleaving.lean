import DeviceMonitoring.Exchange
import DeviceMonitoring.Library.RoundRobin
import DeviceMonitoring.Lines
import Mathlib.Algebra.Group.Nat.Even

/-! The exchanges of all devices with one server, interleaved over one task queue. Each
exchange is a job that takes two turns for every meterage; the tasks in the queue are
the jobs in the order of their turns. -/
namespace DeviceMonitoring

def Device.progress (S : PhaseSort) (past : History) (deviceId : UInt64) (device : Device)
    (sent received : Nat) : Device :=
  device.setMock (device.toDeviceMock.progress S past deviceId sent received)

namespace Monitoring

section
variable (S : PhaseSort) (A : Algorithm) (past : History) (m : Monitoring)

/-- A device that has not sent anything yet. -/
structure Fresh (device : Device) : Prop where
  executor : device.encoder.selected = some A.executor
  timeStamp : device.timeStamp = 0
  messages : device.messages = []
  -- a `std::vector` cannot hold more
  length : device.meterages.length < 2 ^ 64

/-- The devices are connected and have not started, and the calls `past` have led the
command centre to where it is. -/
structure Ready : Prop where
  idle : m.world.running = none
  tasks : m.world.net.tasks = []
  center : CommandCenter.after S past = some m.server.commandCenter
  executor : m.server.encoder.selected = some A.executor
  connected : ∀ d device, m.devices.get d = some device → ∃ a b, m.Line d device a b
  fresh : ∀ d device, m.devices.get d = some device → Fresh A device
  distinct : ∀ d e device other, m.devices.get d = some device → m.devices.get e = some other →
    m.deviceId device = m.deviceId other → d = e
  unheard : ∀ d device, m.devices.get d = some device →
    ∀ meterage, .processMeterage (m.deviceId device) meterage ∉ past

/-- Two turns for every meterage of the device. -/
def work (d : Ref) : Nat := 2 * ((m.devices.get d).map (·.meterages.length)).getD 0

/-- The message in flight after so many turns: a meterage, or the reply to it. -/
def pending (d : Ref) (turns : Nat) : MessageTask :=
  match m.devices.get d with
  | none => .other ⟨0, 0⟩
  | some device =>
      if turns % 2 = 0 then
        .sendMessage (A.executor.encode (serialize (.meterage
          (numbered device.meterages (turns / 2))))) ((m.serverChannel device).getD 0)
      else
        .sendMessage (A.executor.encode (serialize
          (answer S past (m.deviceId device) device.meterages (turns / 2))))
          ((m.deviceChannel device).getD 0)

/-- The messages a device has sent: one more than it has received, if one is in flight. -/
def sentBy (r : RoundRobin Ref) (d : Ref) : Nat := r.done d / 2 + if d ∈ r.queue then 1 else 0

/-- The state that the jobs stand for. -/
structure Follows (r : RoundRobin Ref) (m' : Monitoring) : Prop where
  world : m'.world = m.world.withTasks (r.queue.map fun d => m.pending S A past d (r.done d))
  connectionServer : m'.connectionServer = m.connectionServer
  executor : m'.server.encoder.selected = some A.executor
  center : ∃ past', CommandCenter.after S past' = some m'.server.commandCenter ∧
    ∀ d device, m.devices.get d = some device → concerning (m.deviceId device) past' =
      asked (m.deviceId device) device.meterages ((r.done d + 1) / 2) ++
        concerning (m.deviceId device) past
  devices : ∀ d, m'.devices.get d = (m.devices.get d).map fun device =>
    device.progress S past (m.deviceId device) (sentBy r d) (r.done d / 2)

end

section Exchanges
variable {S : PhaseSort} {A : Algorithm} {past : History} {m m' : Monitoring} {d : Ref}
  {device : Device} {a b : Ref} {r : RoundRobin Ref}

theorem work_of_get (h : m.devices.get d = some device) :
    m.work d = 2 * device.meterages.length := by
  unfold work
  rw [h]
  rfl

/-- Work is left to a device only if there is such a device. -/
theorem exists_of_work {n : Nat} (h : n < m.work d) :
    ∃ device, m.devices.get d = some device ∧ n < 2 * device.meterages.length := by
  cases hget : m.devices.get d with
  | none =>
      unfold work at h
      rw [hget] at h
      cases h
  | some device => exact ⟨device, rfl, by rwa [work_of_get hget] at h⟩

theorem pending_even (h : m.devices.get d = some device) (hline : m.Line d device a b) (k : Nat) :
    m.pending S A past d (2 * k) = .sendMessage
      (A.executor.encode (serialize (.meterage (numbered device.meterages k)))) b := by
  have hhalf : 2 * k / 2 = k := by omega
  unfold pending
  rw [h]
  simp only [if_pos (Nat.mul_mod_right 2 k), hhalf, hline.serverChannel, Option.getD_some]

theorem pending_odd (h : m.devices.get d = some device) (hline : m.Line d device a b) (k : Nat) :
    m.pending S A past d (2 * k + 1) = .sendMessage (A.executor.encode (serialize
      (answer S past (m.deviceId device) device.meterages k))) a := by
  have hhalf : (2 * k + 1) / 2 = k := by omega
  have hodd : ¬(2 * k + 1) % 2 = 0 := by omega
  unfold pending
  rw [h]
  simp only [if_neg hodd, hhalf, hline.deviceChannel, Option.getD_some]

theorem sentBy_idle {k : Nat} (hdone : r.done d = 2 * k) (hd : d ∉ r.queue) : sentBy r d = k := by
  unfold sentBy
  rw [hdone, if_neg hd]
  omega

theorem sentBy_waiting {k : Nat} (hdone : r.done d = 2 * k ∨ r.done d = 2 * k + 1)
    (hd : d ∈ r.queue) : sentBy r d = k + 1 := by
  unfold sentBy
  rw [if_pos hd]
  omega

theorem sentBy_congr {r' : RoundRobin Ref} (hdone : r'.done d = r.done d)
    (hqueue : d ∈ r'.queue ↔ d ∈ r.queue) : sentBy r' d = sentBy r d := by
  unfold sentBy
  simp only [hdone, hqueue]

/-- The tasks of the other devices stay what they are. -/
theorem pending_advance {queue : List Ref} (hd : d ∉ queue) :
    (queue.map fun e => m.pending S A past e ((r.advance d).done e)) =
      queue.map fun e => m.pending S A past e (r.done e) := by
  apply List.map_congr_left
  intro e he
  have hne : e ≠ d := fun hed => hd (hed ▸ he)
  rw [RoundRobin.done_advance_of_ne _ hne]

namespace Follows

theorem initial (h : m.Ready S A past) : m.Follows S A past {} m where
  world := by
    have htasks := h.tasks
    unfold World.withTasks
    rw [List.map_nil, ← htasks]
  connectionServer := rfl
  executor := h.executor
  center := ⟨past, h.center, fun _ _ _ => by simp [asked]⟩
  devices d := by
    cases hget : m.devices.get d with
    | none => rfl
    | some device =>
        have hfresh := h.fresh d device hget
        have hprogress : device.progress S past (m.deviceId device) 0 0 = device := by
          unfold Device.progress DeviceMock.progress Device.setMock
          rw [show UInt64.ofNat 0 = device.timeStamp from hfresh.timeStamp.symm, List.range_zero,
            List.map_nil, ← hfresh.messages]
        have hsent : sentBy {} d = 0 := sentBy_idle rfl List.not_mem_nil
        rw [Option.map_some, hsent, Nat.zero_div, hprogress]

section
variable (h : m.Follows S A past r m')
include h

theorem idle (hready : m.Ready S A past) : m'.world.running = none := by
  rw [h.world]
  exact hready.idle

theorem line (hline : m.Line d device a b) (sent received : Nat) :
    m'.Line d (device.progress S past (m.deviceId device) sent received) a b := by
  obtain ⟨hdevice, hserver, hjoined, hdeviceHandler, hserverHandler⟩ := hline
  obtain ⟨world, server, connectionServer, devices⟩ := m'
  obtain rfl : world = _ := h.world
  obtain rfl : connectionServer = _ := h.connectionServer
  exact ⟨hdevice, hserver, World.joined_withTasks hjoined _, hdeviceHandler, hserverHandler⟩

theorem deviceId (sent received : Nat) :
    m'.deviceId (device.progress S past (m.deviceId device) sent received) = m.deviceId device := by
  unfold Monitoring.deviceId
  rw [h.world]
  rfl

theorem get (hget : m.devices.get d = some device) : m'.devices.get d =
    some (device.progress S past (m.deviceId device) (sentBy r d) (r.done d / 2)) := by
  rw [h.devices, hget, Option.map_some]

/-- Another state that the initial one leads to. -/
theorem resumed {r' : RoundRobin Ref} {tasks : List MessageTask} {server : DeviceMonitoringServer}
    {devices : Heap Device} (htasks : tasks = r'.queue.map fun d => m.pending S A past d (r'.done d))
    (hexecutor : server.encoder.selected = some A.executor)
    (hcenter : ∃ past', CommandCenter.after S past' = some server.commandCenter ∧
      ∀ d device, m.devices.get d = some device → concerning (m.deviceId device) past' =
        asked (m.deviceId device) device.meterages ((r'.done d + 1) / 2) ++
          concerning (m.deviceId device) past)
    (hdevices : ∀ d, devices.get d = (m.devices.get d).map fun device =>
      device.progress S past (m.deviceId device) (sentBy r' d) (r'.done d / 2)) :
    m.Follows S A past r' (m'.resumed tasks server devices) where
  world := by
    unfold Monitoring.resumed
    rw [htasks, h.world]
    rfl
  connectionServer := h.connectionServer
  executor := hexecutor
  center := hcenter
  devices := hdevices

/-- A device whose exchange is not in the queue sends its next meterage, if there is one. -/
theorem send (hready : m.Ready S A past) (hget : m.devices.get d = some device)
    (hline : m.Line d device a b) (hd : d ∉ r.queue) {k : Nat} (hdone : r.done d = 2 * k)
    (hk : k ≤ device.meterages.length) :
    ∃ mock sent, (device.toDeviceMock.progress S past (m.deviceId device) k k).sendNextMeterage =
        .ok (mock, sent) ∧
      ∀ devices : Heap Device,
        (∀ e, devices.get e = if e = d then some (device.setMock mock) else m'.devices.get e) →
        m.Follows S A past (r.enqueue m.work d) (m'.resumed
          (m'.world.net.tasks ++ sent.map fun message => .sendMessage message b) m'.server
          devices) := by
  have hfresh := hready.fresh d device hget
  have htasks : m'.world.net.tasks = r.queue.map fun d => m.pending S A past d (r.done d) := by
    rw [h.world]
    rfl
  by_cases hlt : k < device.meterages.length
  · have henqueue : r.enqueue m.work d = { r with queue := r.queue ++ [d] } :=
      RoundRobin.enqueue_left _ (by rw [work_of_get hget]; omega)
    refine ⟨_, _, sendNextMeterage_progress hfresh.length hfresh.executor hlt, ?_⟩
    intro devices hdevices
    rw [henqueue]
    refine h.resumed ?_ h.executor h.center ?_
    · rw [htasks, List.map_append, List.map_cons, List.map_nil, List.map_cons, List.map_nil, hdone,
        pending_even hget hline]
    · intro e
      rw [hdevices e]
      by_cases he : e = d
      · subst he
        have hsent : sentBy { r with queue := r.queue ++ [e] } e = k + 1 :=
          sentBy_waiting (.inl hdone) (List.mem_append_right _ List.mem_cons_self)
        have hreceived : r.done e / 2 = k := by omega
        rw [if_pos rfl, hget, Option.map_some, hsent, hreceived]
        rfl
      · have hsent : sentBy { r with queue := r.queue ++ [d] } e = sentBy r e :=
          sentBy_congr rfl (by simp [he])
        rw [if_neg he, h.devices e, hsent]
  · obtain rfl : k = device.meterages.length := by omega
    have henqueue : r.enqueue m.work d = r :=
      RoundRobin.enqueue_done _ (by rw [work_of_get hget]; omega)
    refine ⟨_, _, sendNextMeterage_last hfresh.length _, ?_⟩
    intro devices hdevices
    rw [henqueue]
    refine h.resumed ?_ h.executor h.center ?_
    · rw [htasks, List.map_nil, List.append_nil]
    · intro e
      rw [hdevices e]
      by_cases he : e = d
      · subst he
        have hreceived : r.done e / 2 = device.meterages.length := by omega
        rw [if_pos rfl, hget, Option.map_some, sentBy_idle hdone hd, hreceived]
        rfl
      · rw [if_neg he, h.devices e]

theorem start (hready : m.Ready S A past) (hd : d ∉ r.queue) (hdone : r.done d = 0) :
    ∃ m'', m'.startMeterageSending d = .ok m'' ∧ m.Follows S A past (r.enqueue m.work d) m'' := by
  cases hget : m.devices.get d with
  | none =>
      have hnone : m'.devices.get d = none := by rw [h.devices, hget, Option.map_none]
      have henqueue : r.enqueue m.work d = r :=
        RoundRobin.enqueue_done _ (by unfold work; rw [hget]; exact Nat.zero_le _)
      refine ⟨m', ?_, by rwa [henqueue]⟩
      unfold startMeterageSending onDevice
      rw [hnone]
  | some device =>
      obtain ⟨a, b, hline⟩ := hready.connected d device hget
      obtain ⟨mock, sent, hsend, hfollows⟩ :=
        h.send hready hget hline hd (k := 0) hdone (Nat.zero_le _)
      have hget' := h.get hget
      rw [sentBy_idle (k := 0) hdone hd, hdone, Nat.zero_div] at hget'
      have hline' := h.line hline 0 0
      refine ⟨_, onDevice_sends hget' hline'.deviceChannel hline'.joined hsend, hfollows _ ?_⟩
      intro e
      by_cases he : e = d
      · subst he
        rw [Heap.get_modify_self, hget', if_pos rfl]
        rfl
      · rw [Heap.get_modify_of_ne _ _ he, if_neg he]

/-- A meterage is at the head of the queue: the server answers it. -/
theorem turn_server (hready : m.Ready S A past) {queue : List Ref} (hqueue : r.queue = d :: queue)
    (hd : d ∉ queue) (hget : m.devices.get d = some device) {k : Nat} (hdone : r.done d = 2 * k)
    (hk : k < device.meterages.length) :
    ∃ m'', m'.processTask = .ok m'' ∧ m.Follows S A past (r.turn m.work) m'' := by
  obtain ⟨a, b, hline⟩ := hready.connected d device hget
  obtain ⟨past', hafter, hown⟩ := h.center
  have htasks : m'.world.net.tasks = .sendMessage (A.executor.encode (serialize (.meterage
      (numbered device.meterages k)))) b ::
        queue.map fun e => m.pending S A past e (r.done e) := by
    rw [h.world, World.tasks_withTasks, hqueue, List.map_cons, hdone, pending_even hget hline]
  have hownd := hown d device hget
  rw [hdone, show (2 * k + 1) / 2 = k by omega] at hownd
  obtain ⟨center, hreceive, hafter'⟩ := onMessageReceived_answer h.executor hafter hownd
  have hturn : r.turn m.work = ({ r with queue := queue ++ [d] } : RoundRobin Ref).advance d := by
    rw [RoundRobin.turn_cons _ hqueue, RoundRobin.enqueue_left]
    · rfl
    · rw [RoundRobin.done_advance_self, work_of_get hget]
      change r.done d + 1 < 2 * device.meterages.length
      omega
  rw [← h.deviceId 0 0] at hreceive
  refine ⟨_, processTask_server (h.idle hready) (h.line hline 0 0) htasks hreceive, ?_⟩
  rw [hturn]
  have hdone' : (({ r with queue := queue ++ [d] } : RoundRobin Ref).advance d).done d = 2 * k + 1 := by
    rw [RoundRobin.done_advance_self, hdone]
  refine h.resumed ?_ h.executor ⟨_, hafter', ?_⟩ ?_
  · rw [h.deviceId, RoundRobin.queue_advance, List.map_append, pending_advance hd, List.map_cons,
      List.map_nil, hdone', pending_odd hget hline]
  · intro e other hother
    by_cases he : e = d
    · subst he
      obtain rfl : device = other := Option.some.inj (hget.symm.trans hother)
      rw [hdone', show (2 * k + 1 + 1) / 2 = k + 1 by omega, asked, List.cons_append, ← hownd,
        concerning_self (by rfl)]
    · have hid : m.deviceId device ≠ m.deviceId other := fun hid =>
        he (hready.distinct d e device other hget hother hid).symm
      rw [RoundRobin.done_advance_of_ne _ he, concerning_other (by exact hid)]
      exact hown e other hother
  · intro e
    rw [h.devices e]
    by_cases he : e = d
    · subst he
      have hsent : sentBy (({ r with queue := queue ++ [e] } : RoundRobin Ref).advance e) e =
          sentBy r e := by
        rw [sentBy_waiting (.inl hdone) (by rw [hqueue]; exact List.mem_cons_self)]
        exact sentBy_waiting (.inr hdone') (List.mem_append_right _ List.mem_cons_self)
      rw [hsent, hdone', hdone, show (2 * k + 1) / 2 = 2 * k / 2 by omega]
    · have hsent : sentBy (({ r with queue := queue ++ [d] } : RoundRobin Ref).advance d) e =
          sentBy r e := by
        apply sentBy_congr
        · exact RoundRobin.done_advance_of_ne _ he
        · rw [RoundRobin.queue_advance, hqueue]
          simp [he]
      rw [hsent, RoundRobin.done_advance_of_ne _ he]

/-- A reply is at the head of the queue: the device keeps it and goes on. -/
theorem turn_device (hready : m.Ready S A past) {queue : List Ref} (hqueue : r.queue = d :: queue)
    (hd : d ∉ queue) (hget : m.devices.get d = some device) {k : Nat}
    (hdone : r.done d = 2 * k + 1) (hk : k < device.meterages.length) :
    ∃ m'', m'.processTask = .ok m'' ∧ m.Follows S A past (r.turn m.work) m'' := by
  obtain ⟨a, b, hline⟩ := hready.connected d device hget
  have htasks : m'.world.net.tasks = .sendMessage (A.executor.encode (serialize
      (answer S past (m.deviceId device) device.meterages k))) a ::
        queue.map fun e => m.pending S A past e (r.done e) := by
    rw [h.world, World.tasks_withTasks, hqueue, List.map_cons, hdone, pending_odd hget hline]
  have hget' := h.get hget
  rw [sentBy_waiting (.inr hdone) (by rw [hqueue]; exact List.mem_cons_self), hdone,
    show (2 * k + 1) / 2 = k by omega] at hget'
  -- the state after the reply was kept and before the next meterage is sent
  let r' : RoundRobin Ref := ({ r with queue } : RoundRobin Ref).advance d
  have hdone' : r'.done d = 2 * (k + 1) := by
    change (({ r with queue } : RoundRobin Ref).advance d).done d = _
    rw [RoundRobin.done_advance_self]
    change r.done d + 1 = _
    omega
  let kept := device.toDeviceMock.progress S past (m.deviceId device) (k + 1) (k + 1)
  have hkept : m.Follows S A past r' (m'.resumed
      (queue.map fun e => m.pending S A past e (r.done e)) m'.server
      (m'.devices.modify d (·.setMock kept))) := by
    refine h.resumed (pending_advance hd).symm h.executor ?_ ?_
    · obtain ⟨past', hafter, hown⟩ := h.center
      refine ⟨past', hafter, ?_⟩
      intro e other hother
      rw [hown e other hother]
      by_cases he : e = d
      · subst he
        rw [hdone, hdone', show (2 * k + 1 + 1) / 2 = (2 * (k + 1) + 1) / 2 by omega]
      · rw [show r'.done e = r.done e from RoundRobin.done_advance_of_ne _ he]
    · intro e
      by_cases he : e = d
      · subst he
        rw [Heap.get_modify_self, hget', hget, Option.map_some, Option.map_some,
          sentBy_idle hdone' hd, hdone', show 2 * (k + 1) / 2 = k + 1 by omega]
        rfl
      · have hsent : sentBy r' e = sentBy r e := by
          apply sentBy_congr
          · exact RoundRobin.done_advance_of_ne _ he
          · rw [hqueue]
            simp [r', he]
        rw [Heap.get_modify_of_ne _ _ he, h.devices e, hsent,
          show r'.done e = r.done e from RoundRobin.done_advance_of_ne _ he]
  obtain ⟨mock, sent, hsend, hfollows⟩ := hkept.send hready hget hline hd hdone' (by omega)
  have hselected := (hready.fresh d device hget).executor
  have hreceive := (onMessageReceived_progress hselected (k + 1) k).trans hsend
  refine ⟨_, processTask_device (h.idle hready) (h.line hline _ _) hget' htasks hreceive, ?_⟩
  rw [RoundRobin.turn_cons _ hqueue]
  refine hfollows _ ?_
  intro e
  by_cases he : e = d
  · subst he
    rw [Heap.get_modify_self, hget', if_pos rfl]
    rfl
  · rw [Heap.get_modify_of_ne _ _ he, if_neg he]
    exact (Heap.get_modify_of_ne _ _ he).symm

/-- Every task is the turn of one exchange. -/
theorem turn (hready : m.Ready S A past) {begun : Ref → Prop} (hfair : r.Fair m.work begun) :
    ∃ m'', m'.processTask = .ok m'' ∧ m.Follows S A past (r.turn m.work) m'' := by
  cases hqueue : r.queue with
  | nil =>
      have htasks : m'.world.net.tasks = [] := by
        rw [h.world, World.tasks_withTasks, hqueue, List.map_nil]
      exact ⟨m', processTask_empty (h.idle hready) htasks, by rwa [RoundRobin.turn_nil _ hqueue]⟩
  | cons d queue =>
      have hnodup := hfair.nodup
      rw [hqueue, List.nodup_cons] at hnodup
      have hlt := ((hfair.mem d).mp (by rw [hqueue]; exact List.mem_cons_self)).2
      obtain ⟨device, hget, hlt⟩ := exists_of_work hlt
      rcases Nat.even_or_odd' (r.done d) with ⟨k, hdone | hdone⟩
      · exact h.turn_server hready hqueue hnodup.1 hget hdone (by omega)
      · exact h.turn_device hready hqueue hnodup.1 hget hdone (by omega)

end

end Follows

/-- The devices that are started. -/
def started (steps : List MonitoringStep) : List Ref :=
  steps.filterMap fun step =>
    match step with
    | .startMeterageSending d => some d
    | .processTask => none

theorem Follows.run (hready : m.Ready S A past) {begun : Ref → Prop} (h : m.Follows S A past r m')
    (hfair : r.Fair m.work begun) (steps : List MonitoringStep) (honce : (started steps).Nodup)
    (hnew : ∀ d ∈ started steps, ¬begun d) :
    ∃ r' m'', m'.run steps = .ok m'' ∧ m.Follows S A past r' m'' ∧
      r'.Fair m.work fun d => begun d ∨ d ∈ started steps := by
  induction steps generalizing begun r m' with
  | nil => exact ⟨r, m', rfl, h, by simpa [started] using hfair⟩
  | cons step steps ih =>
      cases step with
      | startMeterageSending d =>
          obtain ⟨hd, honce⟩ := List.nodup_cons.mp honce
          have hidle : ¬begun d := hnew d List.mem_cons_self
          have hwaiting : d ∉ r.queue := fun hmem => hidle ((hfair.mem d).mp hmem).1
          obtain ⟨next, hstep, hnext⟩ := h.start hready hwaiting (hfair.idle d hidle)
          obtain ⟨r', m'', hrun, hfollows, hfair'⟩ := ih hnext (hfair.begin hidle) honce (by
            rintro e he (rfl | hbegun)
            · exact hd he
            · exact hnew e (List.mem_cons_of_mem _ he) hbegun)
          refine ⟨r', m'', ?_, hfollows, ?_⟩
          · rw [Monitoring.run, Monitoring.step, hstep]
            exact hrun
          · have hsame : (fun e => begun e ∨ e ∈ started (.startMeterageSending d :: steps)) =
                fun e => (e = d ∨ begun e) ∨ e ∈ started steps := by
              funext e
              have hmem : e ∈ started (.startMeterageSending d :: steps) ↔
                e = d ∨ e ∈ started steps := List.mem_cons
              rw [hmem, ← or_assoc, or_comm (a := begun e)]
            rwa [hsame]
      | processTask =>
          obtain ⟨next, hstep, hnext⟩ := h.turn hready hfair
          obtain ⟨r', m'', hrun, hfollows, hfair'⟩ := ih hnext hfair.turn honce hnew
          refine ⟨r', m'', ?_, hfollows, hfair'⟩
          rw [Monitoring.run, Monitoring.step, hstep]
          exact hrun

/-- As many turns as calls of `processTask`. -/
theorem Follows.turns (hready : m.Ready S A past) {begun : Ref → Prop}
    (h : m.Follows S A past r m') (hfair : r.Fair m.work begun) (n : Nat) :
    ∃ m'', m'.run (List.replicate n .processTask) = .ok m'' ∧
      m.Follows S A past ((RoundRobin.turn m.work)^[n] r) m'' := by
  induction n generalizing r m' with
  | zero => exact ⟨m', rfl, h⟩
  | succ n ih =>
      obtain ⟨next, hstep, hnext⟩ := h.turn hready hfair
      obtain ⟨m'', hrun, hfollows⟩ := ih hnext hfair.turn
      refine ⟨m'', ?_, hfollows⟩
      rw [List.replicate_succ, Monitoring.run, Monitoring.step, hstep]
      exact hrun

end Exchanges
end Monitoring
end DeviceMonitoring
