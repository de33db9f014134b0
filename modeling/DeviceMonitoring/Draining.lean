import DeviceMonitoring.Agreement
import DeviceMonitoring.Library.HeapTotal
import DeviceMonitoring.Library.Rounds
import DeviceMonitoring.Receipts
import DeviceMonitoring.Strain
import DeviceMonitoring.Traffic

/-! When nothing more is called from outside, the tasks come to an end. -/
namespace DeviceMonitoring

/-- The meterages that a device has not sent yet. -/
def Device.unsent (device : Device) : Nat := device.meterages.length - device.timeStamp.toNat

namespace World

/-- The server may answer the message that it is handling. -/
def owed (w : World Handler) : Nat :=
  match w.running with
  | some (.message (.serverMessage _) _, _) => 2
  | _ => 0

theorem owed_of_none {w : World Handler} (h : w.running = none) : w.owed = 0 := by
  simp only [owed, h]

theorem owed_le (w : World Handler) : w.owed ≤ 2 := by
  unfold owed
  split <;> decide

theorem serverMessage_of_owed {w : World Handler} (h : w.owed ≠ 0) : ∃ deviceId message moment,
    w.running = some (.message (.serverMessage deviceId) message, moment) := by
  unfold owed at h
  split at h
  next deviceId message moment hrunning => exact ⟨deviceId, message, moment, hrunning⟩
  · exact absurd rfl h

theorem owed_resume (w : World Handler) : w.resume.owed = 0 := by
  rcases running_resume w with hnone | ⟨-, handler, c, hsome⟩
  · exact owed_of_none hnone
  · simp only [owed, hsome]

/-- The first task leaves the queue. -/
theorem load_withTasks {η : Type} {w : World η} {task : Task ConnectToServerTask}
    {tasks : List (Task ConnectToServerTask)} (htasks : w.net.tasks = task :: tasks) :
    w.load = (task.slot.map fun slot => w.weight slot.2).getD 0 + (w.withTasks tasks).load := by
  unfold load Net.mail
  rw [htasks, List.filterMap_cons]
  cases task.slot with
  | none => exact (Nat.zero_add _).symm
  | some slot => rfl

theorem Mailed.withTasks {η : Type} {w : World η} (h : w.Mailed) {task : Task ConnectToServerTask}
    {tasks : List (Task ConnectToServerTask)} (htasks : w.net.tasks = task :: tasks) :
    (w.withTasks tasks).Mailed := by
  intro slot hslot
  apply h slot
  unfold Net.mail at hslot ⊢
  rw [htasks, List.filterMap_cons]
  cases task.slot with
  | none => exact hslot
  | some first => exact List.mem_cons_of_mem _ hslot

theorem Mailed.start {η : Type} {w : World η} (h : w.Mailed) (hw : w.Settled) : w.start.Mailed := by
  cases hrunning : w.running with
  | some running =>
      rw [start_busy hrunning]
      exact h
  | none =>
      cases htasks : w.net.tasks with
      | nil =>
          rw [start_idle hrunning htasks]
          exact h
      | cons task tasks => exact (h.withTasks htasks).passage (.start hw hrunning htasks)

theorem strain_clientSendMessage {η : Type} (w : World η) (c : Ref) (message : Bytes) :
    (w.clientSendMessage c message).net.strain = w.net.strain := by
  unfold clientSendMessage
  split
  · rfl
  · exact w.net.strain_sendMessage _ message

theorem strain_connectionSendMessage {η : Type} (w : World η) (n : Ref) (message : Bytes) :
    (w.connectionSendMessage n message).net.strain = w.net.strain := by
  unfold connectionSendMessage
  split
  · rfl
  · exact w.net.strain_sendMessage _ message

theorem strain_connectionSetMessageHandler {η : Type} (w : World η) (n : Ref) (handler : Option η) :
    (w.connectionSetMessageHandler n handler).net.strain = w.net.strain := by
  unfold connectionSetMessageHandler
  simp only
  split
  · rfl
  · exact w.net.strain_setMessageHandler _ handler

/-- No call puts more than one letter into the queue. -/
theorem weight_clientSendMessage {η : Type} (w : World η) (c : Ref) (message : Bytes) :
    ((w.posts (.clientSendMessage c message)).map Letter.weight).sum ≤ 4 := by
  simp only [posts]
  cases w.clients.get c with
  | none => exact Nat.zero_le _
  | some client =>
      cases hb : client.channel.bind w.net.receiver with
      | none => simp [hb]
      | some b => simp [hb, Letter.weight]

theorem weight_connectionSendMessage {η : Type} (w : World η) (n : Ref) (message : Bytes) :
    ((w.posts (.connectionSendMessage n message)).map Letter.weight).sum ≤ 2 := by
  simp only [posts]
  cases ha : (w.connectionChannel n).bind w.net.receiver with
  | none => simp
  | some a => simp [Letter.weight]

end World

namespace Monitoring

/-- Tasks left to do, handlers left to call, meterages left to send. -/
def outstanding (m : Monitoring) : Nat :=
  m.world.net.strain + m.world.load + remaining m.world + m.world.owed + 4 * m.devices.total Device.unsent

def Done (m : Monitoring) : Prop := m.world.running = none ∧ m.world.net.tasks = []

/-- Time stamps count the meterages that a device holds. -/
def Countable (m : Monitoring) : Prop :=
  ∀ d device, m.devices.get d = some device → device.meterages.length < 2 ^ 64

structure Measured (S : PhaseSort) (m : Monitoring) : Prop where
  placed : m.Placed
  sound : Sound S m
  mailed : m.world.Mailed
  countable : m.Countable

section Start
variable {m : Monitoring}

/-- A message is worth the handler that it is handed to, and the answer. -/
theorem owed_start (h : m.Placed) (hidle : m.world.running = none) {a : Ref} {message : Bytes}
    {tasks : List MessageTask} (htasks : m.world.net.tasks = .sendMessage message a :: tasks) :
    remaining m.world.start + m.world.start.owed < m.world.weight a := by
  obtain ⟨_, _, -, hw⟩ := id h.settled
  have hpos := m.world.weight_pos a
  have hrunning : remaining m.world.start ≤ 1 := by
    cases hget : m.world.net.channels.get a with
    | none =>
        rw [World.start_nothing hidle htasks (World.deliver_gone (.inr ⟨message, rfl⟩) hget)]
        simp [remaining, hidle]
    | some channel =>
        unfold remaining
        rw [World.start_sendMessage hidle htasks hget]
        cases channel.messageHandler <;> simp
  by_cases howed : m.world.start.owed = 0
  · omega
  · obtain ⟨deviceId, sent, moment, hserver⟩ := World.serverMessage_of_owed howed
    have hgiven : ((m.world.arrived .start).map fun l => (⟨l, .error .obsolete⟩ : Parcel)).map
        Parcel.letter = m.world.arrived .start := by
      rw [List.map_map]
      exact List.map_id _
    have hin := inHand_start h.attributed hw.owned h.current hidle hgiven
    obtain ⟨p, hp, -, hfor⟩ := hin _ _ _ hserver
    have hto : p.letter.toServer = true := by
      rcases hfor with ⟨hto, -⟩ | ⟨-, d, device, hhandler, -⟩
      · exact hto
      · cases hhandler
    have hletter : p.letter ∈ m.world.arrived .start := by
      have hmem : p ∈ (m.world.arrived .start).map fun l => (⟨l, .error .obsolete⟩ : Parcel) := by
        rw [hp]
        exact List.mem_singleton_self p
      obtain ⟨l, hl, rfl⟩ := List.mem_map.mp hmem
      exact hl
    simp only [World.arrived, hidle, htasks, List.mem_map, Option.mem_toList] at hletter
    obtain ⟨whom, hwhom, hl⟩ := hletter
    have hfour : m.world.weight a = 4 := by
      rw [← hl] at hto
      unfold World.weight
      rw [hwhom]
      exact if_pos hto
    have hle := m.world.start.owed_le
    omega

theorem owed_start_slot (hidle : m.world.running = none) {task : MessageTask} {tasks : List MessageTask}
    (htasks : m.world.net.tasks = task :: tasks) (hslot : task.slot = none) : m.world.start.owed = 0 := by
  by_contra howed
  obtain ⟨deviceId, sent, moment, hserver⟩ := World.serverMessage_of_owed howed
  obtain ⟨a, rest, -, hfirst, -⟩ := World.message_of_start hidle hserver
  rw [htasks] at hfirst
  cases hfirst
  cases hslot

theorem outstanding_start (h : m.Placed) (hmailed : m.world.Mailed) (hidle : m.world.running = none)
    (htasks : m.world.net.tasks ≠ []) :
    ({ m with world := m.world.start } : Monitoring).outstanding < m.outstanding := by
  obtain ⟨task, tasks, hcons⟩ := List.exists_cons_of_ne_nil htasks
  have hstrain := World.strain_start hidle hcons
  have hload := World.load_withTasks hcons
  have hpassed : m.world.start.load ≤ (m.world.withTasks tasks).load :=
    World.load_passage (hmailed.withTasks hcons) (.start h.settled hidle hcons)
  have hremaining := remaining_le m.world.start
  unfold outstanding
  simp only
  cases hslot : task.slot with
  | none =>
      have howed := owed_start_slot hidle hcons hslot
      simp only [hslot, Option.isSome_none, Bool.false_eq_true, if_false, Option.map_none,
        Option.getD_none] at hstrain hload
      omega
  | some slot =>
      cases task with
      | sendMessage message a =>
          cases hslot
          have howed := owed_start h hidle hcons
          simp only [Task.slot, Option.isSome_some, if_true, Option.map_some, Option.getD_some] at hstrain hload
          omega
      | disconnect a => cases hslot
      | other request => cases hslot

end Start

section Handle
variable {S : PhaseSort} {I : Iteration} {m m' : Monitoring} {d : Ref} {invocation : Invocation Handler}
  {moment : Moment}

/-- A device that sends a meterage has one less to send. -/
theorem unsent_onDevice (hcountable : m.Countable)
    (hsent : m.onDevice d DeviceMock.sendNextMeterage = .ok m') :
    m'.world.net.strain = m.world.net.strain ∧ ((m.nextLetters d).map Letter.weight).sum +
      4 * m'.devices.total Device.unsent ≤ 4 * m.devices.total Device.unsent ∧ m'.Countable := by
  cases hget : m.devices.get d with
  | none =>
      unfold Monitoring.onDevice at hsent
      rw [hget] at hsent
      cases hsent
      have hnone : m.nextLetters d = [] := by simp only [nextLetters, hget]
      rw [hnone]
      exact ⟨rfl, Nat.le_of_eq (Nat.zero_add _), hcountable⟩
  | some device =>
      by_cases due : device.timeStamp.toNat < device.meterages.length
      · rw [onDevice_next hget due] at hsent
        cases hsent
        have hletters := World.weight_clientSendMessage m.world device.clientConnection
          (device.encoder.encode (serialize
            (.meterage ⟨device.timeStamp, device.meterages[device.timeStamp.toNat]⟩)))
        have htotal := Heap.total_modify hget
          (·.setMock { device.toDeviceMock with timeStamp := device.timeStamp + 1 }) Device.unsent
        -- the time stamp does not overflow
        have hnext : (device.timeStamp + 1).toNat = device.timeStamp.toNat + 1 := by
          have hlt := hcountable d device hget
          rw [UInt64.toNat_add, UInt64.toNat_one]
          omega
        have hone : (device.setMock { device.toDeviceMock with
            timeStamp := device.timeStamp + 1 }).unsent + 1 = device.unsent := by
          simp only [Device.unsent, Device.setMock, hnext]
          omega
        refine ⟨World.strain_clientSendMessage _ _ _, ?_, ?_⟩
        · simp only [nextLetters, hget, dif_pos due]
          simp only at hone htotal
          omega
        · intro e device' hget'
          obtain ⟨old, hold, rfl⟩ := Heap.get_modify_eq_some.mp hget'
          split
          · exact hcountable d device hget
          · exact hcountable e old hold
      · have hdone := DeviceMock.sendNextMeterage_done (Nat.not_lt.mp due)
        unfold Monitoring.onDevice at hsent
        simp only [hget, hdone, List.foldl_nil] at hsent
        cases hsent
        have hletters : m.nextLetters d = [] := by simp only [nextLetters, hget, dif_neg due]
        have htotal := Heap.total_modify hget (·.setMock device.toDeviceMock) Device.unsent
        have hsame : (device.setMock device.toDeviceMock).unsent = device.unsent := rfl
        rw [hletters]
        refine ⟨rfl, ?_, ?_⟩
        · simp only [List.map_nil, List.sum_nil]
          omega
        · intro e device' hget'
          obtain ⟨old, hold, rfl⟩ := Heap.get_modify_eq_some.mp hget'
          split
          · exact hcountable d device hget
          · exact hcountable e old hold

/-- A handler leaves no more to do than there was: a device sends a meterage that was not sent
yet, and the server the answer that it owed. -/
theorem outstanding_does (h : m.Placed) (hcountable : m.Countable)
    (hrunning : m.world.running = some (invocation, moment)) (hdoes : m.Does invocation m') :
    ∃ letters, Sends m m' letters ∧ m'.world.running = m.world.running ∧
      m'.world.net.strain ≤ m.world.net.strain ∧
        (letters.map Letter.weight).sum + 4 * m'.devices.total Device.unsent ≤
          m.world.owed + 4 * m.devices.total Device.unsent ∧ m'.Countable := by
  cases hdoes with
  | nothing => exact ⟨[], h.stays rfl fun _ => rfl, rfl, Nat.le_refl _, by simp, hcountable⟩
  | takesOver n =>
      exact ⟨[], h.onNewIncomingConnection n, (m.calls_onNewIncomingConnection n).running,
        Nat.le_of_eq (World.strain_connectionSetMessageHandler m.world n _), by
          simp [Monitoring.onNewIncomingConnection], hcountable⟩
  | @keeps _ d message device mock hget hread hsent =>
      obtain ⟨reply, -, hmock⟩ := DeviceMock.read_reply hread
      have hkept : Sends m (m.setDevice d fun _ => mock) [] :=
        h.stays rfl fun e => m.devices.map_get_modify d e fun _ => rfl
      have htotal := Heap.total_modify hget (fun device => device.setMock mock) Device.unsent
      have hcounts : (m.setDevice d fun _ => mock).Countable := by
        intro e device' hget'
        obtain ⟨old, hold, rfl⟩ := Heap.get_modify_eq_some.mp hget'
        split
        · simp only [Device.setMock, hmock]
          exact hcountable d device hget
        · exact hcountable e old hold
      obtain ⟨hstrain, hspent, hcountable'⟩ := unsent_onDevice hcounts hsent
      obtain ⟨hsends, -⟩ := hkept.placed.onDevice hsent
      refine ⟨_, hkept.trans hsends, (calls_onDevice hsent).running, Nat.le_of_eq hstrain, ?_,
        hcountable'⟩
      have hsame : (device.setMock mock).unsent = device.unsent := by
        simp only [Device.unsent, Device.setMock, hmock]
      have hdevices : (m.setDevice d fun _ => mock).devices.total Device.unsent =
          m.devices.total Device.unsent := by
        rw [hsame] at htotal
        exact Nat.add_right_cancel htotal
      rw [hdevices] at hspent
      exact hspent.trans (Nat.le_add_left _ _)
  | @answers deviceId message meterage center reply hread hprocessed =>
      have hserver : Sends m { m with server := { m.server with commandCenter := center } } [] :=
        h.stays rfl fun _ => rfl
      have howed : m.world.owed = 2 := by simp only [World.owed, hrunning]
      obtain ⟨world, hworld⟩ := sendMessage_world
        ({ m with server := { m.server with commandCenter := center } } : Monitoring) deviceId
        (m.server.outgoing reply)
      refine ⟨_, hserver.trans (hserver.placed.sendMessage deviceId (m.server.outgoing reply)),
        (calls_sendMessage _ _ _).running, ?_, ?_, ?_⟩
      · unfold Monitoring.sendMessage
        split
        · exact Nat.le_refl _
        · exact Nat.le_of_eq (World.strain_connectionSendMessage _ _ _)
      · rw [hworld, howed]
        apply Nat.add_le_add_right
        unfold replyLetters
        split
        · exact Nat.zero_le _
        · exact World.weight_connectionSendMessage _ _ _
      · rw [hworld]
        exact hcountable

/-- A handler that returns. -/
theorem outstanding_handle (h : Measured S m) (hrunning : m.world.running.isSome = true) :
    (m.sessionStep S I .handle).outstanding < m.outstanding ∧ Measured S (m.sessionStep S I .handle) := by
  obtain ⟨⟨invocation, moment⟩, hsome⟩ := Option.isSome_iff_exists.mp hrunning
  obtain ⟨m', hdoes, hstep⟩ := does_of_running (I := I) h.sound hsome
  obtain ⟨letters, hsends, hsame, hstrain, hspent, hcountable⟩ :=
    outstanding_does h.placed h.countable hsome hdoes
  have hreturns := hsends.followed hsends.placed.returns
  have hload := World.load_passage h.mailed hreturns.moves.passage
  have hresume := m'.world.strain_resume
  have hremaining := remaining_resume (w := m'.world) (by rw [hsame, hsome]; rfl)
  have hbefore : remaining m'.world = remaining m.world := by simp only [remaining, hsame]
  have howed := m'.world.owed_resume
  have hsound := h.sound.step (I := I) .handle
  rw [hstep] at hsound ⊢
  refine ⟨?_, hreturns.placed, hsound, h.mailed.passage hreturns.moves.passage, hcountable⟩
  unfold outstanding
  simp only at hload ⊢
  omega

end Handle

section Round
variable {S : PhaseSort} {I : Iteration} {m : Monitoring}

/-- `processTask`, with the handlers of the task. -/
def round (S : PhaseSort) (I : Iteration) (m : Monitoring) : Monitoring :=
  m.session S I [.start, .handle, .handle]

/-- Neither adds to what is outstanding. -/
theorem Measured.next (h : Measured S m) {step : SessionStep} (hstep : step = .start ∨ step = .handle) :
    Measured S (m.sessionStep S I step) ∧ (m.sessionStep S I step).outstanding ≤ m.outstanding := by
  rcases hstep with rfl | rfl
  · refine ⟨⟨h.placed.start, h.sound.step .start, h.mailed.start h.placed.settled, h.countable⟩, ?_⟩
    cases hrunning : m.world.running with
    | some running => simp only [sessionStep, World.start_busy hrunning, le_refl]
    | none =>
        cases htasks : m.world.net.tasks with
        | nil => simp only [sessionStep, World.start_idle hrunning htasks, le_refl]
        | cons task tasks =>
            exact Nat.le_of_lt (outstanding_start h.placed h.mailed hrunning (by rw [htasks]; simp))
  · cases hrunning : m.world.running with
    | none =>
        have hsame : m.sessionStep S I .handle = m := by simp only [sessionStep, hrunning]
        rw [hsame]
        exact ⟨h, Nat.le_refl _⟩
    | some running =>
        obtain ⟨hlt, hnext⟩ := outstanding_handle (I := I) h (by rw [hrunning]; rfl)
        exact ⟨hnext, Nat.le_of_lt hlt⟩

theorem measured_round (h : Measured S m) : Measured S (m.round S I) :=
  (((h.next (I := I) (.inl rfl)).1.next (I := I) (.inr rfl)).1.next (I := I) (.inr rfl)).1

theorem done_round (h : m.Done) : (m.round S I).Done := by
  have hstart : m.sessionStep S I .start = m := by rw [sessionStep, World.start_idle h.1 h.2]
  have hhandle : m.sessionStep S I .handle = m := by simp only [sessionStep, h.1]
  have hround : m.round S I = m := by
    simp only [round, session, List.foldl_cons, List.foldl_nil, hstart, hhandle]
  rwa [hround]

/-- While there is something to do, a round leaves less of it. -/
theorem outstanding_round (h : Measured S m) (hnot : ¬m.Done) : (m.round S I).outstanding < m.outstanding := by
  obtain ⟨hstarted, hstart⟩ := h.next (I := I) (.inl rfl)
  obtain ⟨hhandled, hfirst⟩ := hstarted.next (I := I) (.inr rfl)
  obtain ⟨-, hsecond⟩ := hhandled.next (I := I) (.inr rfl)
  have hround : m.round S I =
      ((m.sessionStep S I .start).sessionStep S I .handle).sessionStep S I .handle := rfl
  rw [hround]
  cases hrunning : m.world.running with
  | some running =>
      have hlt := (outstanding_handle (I := I) hstarted (by
        rw [sessionStep, World.start_busy hrunning, hrunning]
        rfl)).1
      omega
  | none =>
      have hlt : (m.sessionStep S I .start).outstanding < m.outstanding :=
        outstanding_start h.placed h.mailed hrunning fun hempty => hnot ⟨hrunning, hempty⟩
      omega

theorem mailed_run (h : m.Placed) (hsound : Sound S m) (hmailed : m.world.Mailed)
    (steps : List SessionStep) : (m.session S I steps).world.Mailed := by
  induction steps generalizing m with
  | nil => exact hmailed
  | cons step steps ih =>
      refine ih (h.step hsound step) (hsound.step step) ?_
      by_cases hstart : step = .start
      · rw [hstart]
        exact hmailed.start h.settled
      · obtain ⟨letters, hsends⟩ := h.sends (I := I) hsound hstart
        exact hmailed.passage hsends.moves.passage

end Round

/-- Whatever was called before, the tasks come to an end when nothing more is called: after as many
rounds as there is work outstanding none is left, and the clients and the servers agree. -/
theorem session_drains (S : PhaseSort) (I : Iteration) (steps : List SessionStep)
    (hcountable : (create.session S I steps).Countable) :
    ∀ k, (create.session S I steps).outstanding ≤ k →
      ((round S I)^[k] (create.session S I steps)).Done ∧
        ((round S I)^[k] (create.session S I steps)).world.Agreement := by
  intro k hk
  have hmeasured : Measured S (create.session S I steps) :=
    ⟨placed_create.run (sound_create S) steps, (sound_create S).run steps,
      mailed_run placed_create (sound_create S) (fun slot hslot => absurd hslot List.not_mem_nil) steps,
      hcountable⟩
  have hdone := Rounds.done_iterate (fun m => measured_round (S := S) (I := I) (m := m))
    (fun m => done_round (m := m)) (fun m => outstanding_round (m := m)) hmeasured hk
  have hfinal := Rounds.inv_iterate (fun m => measured_round (S := S) (I := I) (m := m)) hmeasured k
  exact ⟨hdone, World.agreement_of_settled hfinal.placed.settled hdone.1 hdone.2⟩

/-- A device is about to send two meterages. -/
def waiting : List SessionStep :=
  greeting ++ [.call (.selectDeviceExecutor 0 "ROT3"), .call (.setMeterages 0 [5, 6]),
    .call (.startMeterageSending 0)]

theorem session_drains_waiting :
    ((create.session .stable .byEntry waiting).devices.get 0).map Device.unsent = some 1 ∧
      (((round .stable .byEntry)^[14] (create.session .stable .byEntry waiting)).devices.get 0).map
        (·.messages) = some [.error .noSchedule, .error .noSchedule] ∧
      ((round .stable .byEntry)^[14] (create.session .stable .byEntry waiting)).world.Agreement := by
  have hcountable : (create.session .stable .byEntry waiting).Countable := by
    intro d device hget
    have hlt : d < 1 := Heap.lt_next hget
    obtain rfl : d = 0 := Nat.lt_one_iff.mp hlt
    have hlength : ((create.session .stable .byEntry waiting).devices.get 0).map
        (·.meterages.length) = some 2 := rfl
    rw [hget, Option.map_some, Option.some.injEq] at hlength
    omega
  exact ⟨rfl, by decide +kernel,
    (session_drains .stable .byEntry waiting hcountable 14 (by decide +kernel)).2⟩

end Monitoring
end DeviceMonitoring
