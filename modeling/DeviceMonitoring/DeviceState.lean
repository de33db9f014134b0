import DeviceMonitoring.CenterHistory

/-! A command centre keeps one independent state for each device: each call changes
the entries of the device it names, by a function of those entries alone. -/
namespace DeviceMonitoring

/-- What the three maps hold for one device, defaults standing for missing entries. -/
structure DeviceState where
  scheduleInfo : ScheduleInfo := {}
  statsInfo : StatsInfo := {}
  lastTimeStamp : Option UInt64 := none

namespace DeviceState

/-- `process_meterage` on the entries of one device. -/
def answer (s : DeviceState) (meterage : MessageMeterage) : Option (DeviceState × Message) :=
  let t := meterage.timeStamp
  if s.lastTimeStamp.any (fun last => decide (last ≥ t)) then some (s, .error .obsolete)
  else if s.scheduleInfo.phases.isEmpty then
    some ({ s with lastTimeStamp := some t }, .error .noSchedule)
  else
    let index := Cursor.advance (due t) s.scheduleInfo.phases s.scheduleInfo.currentPhaseIndex
    let scheduleInfo := { s.scheduleInfo with currentPhaseIndex := index }
    match s.scheduleInfo.phases[index]? with
    | none => none
    | some phase =>
        if phase.timeStamp > t then
          some ({ s with scheduleInfo, lastTimeStamp := some t }, .error .noTimestamp)
        else
          let command := CommandCenter.command phase meterage.meterage
          some ({ scheduleInfo
                  statsInfo := CommandCenter.record s.statsInfo phase t command
                  lastTimeStamp := some t }, .command command.toInt8)

end DeviceState

namespace CommandCenter

def state (c : CommandCenter) (deviceId : UInt64) : DeviceState where
  scheduleInfo := (c.scheduleInfo deviceId).getD {}
  statsInfo := (c.statsInfo deviceId).getD {}
  lastTimeStamp := c.lastTimeStamp deviceId

/-- Writing all three entries of a device replaces its state and no other. -/
theorem state_update (c : CommandCenter) (d : UInt64) (scheduleInfo : ScheduleInfo)
    (statsInfo : StatsInfo) (last : Option UInt64) :
    state ⟨Function.update c.scheduleInfo d (some scheduleInfo),
      Function.update c.statsInfo d (some statsInfo), Function.update c.lastTimeStamp d last⟩ =
      Function.update c.state d ⟨scheduleInfo, statsInfo, last⟩ := by
  funext other
  by_cases h : other = d
  · subst h
    simp [state]
  · simp [state, Function.update_of_ne h]

theorem setSchedule_state (S : PhaseSort) (c : CommandCenter) (schedule : DeviceWorkSchedule) :
    (c.setSchedule S schedule).state =
      Function.update c.state schedule.deviceId
        { c.state schedule.deviceId with scheduleInfo := { phases := S.sort schedule.schedule } } := by
  funext other
  by_cases h : other = schedule.deviceId
  · subst h
    simp [state, setSchedule]
  · simp [state, setSchedule, Function.update_of_ne h]

theorem deviationStats_state (c : CommandCenter) (deviceId : UInt64) :
    (c.deviationStats deviceId).2.state = c.state := by
  funext other
  by_cases h : other = deviceId
  · subst h
    simp [state, deviationStats]
  · simp [state, deviationStats, Function.update_of_ne h]

/-- `process_meterage` answers once, for the device named, as its own entries say. -/
theorem processMeterage_answer {c : CommandCenter} {deviceId : UInt64} {meterage : MessageMeterage}
    {s : DeviceState} {r : Message} (h : (c.state deviceId).answer meterage = some (s, r)) :
    ∃ c', c.processMeterage deviceId meterage = some (c', [(deviceId, r)]) ∧
      c'.state = Function.update c.state deviceId s := by
  have hstate : c.state deviceId = ⟨(c.scheduleInfo deviceId).getD {},
    (c.statsInfo deviceId).getD {}, c.lastTimeStamp deviceId⟩ := rfl
  rw [hstate] at h
  by_cases obsolete : (c.lastTimeStamp deviceId).any
      (fun last => decide (last ≥ meterage.timeStamp)) = true
  · rw [DeviceState.answer, if_pos obsolete] at h
    obtain ⟨rfl, rfl⟩ := Prod.mk.inj (Option.some.inj h)
    rw [processMeterage, if_pos obsolete, ← hstate]
    exact ⟨c, rfl, (Function.update_eq_self deviceId c.state).symm⟩
  rw [DeviceState.answer, if_neg obsolete] at h
  rw [processMeterage, if_neg obsolete]
  by_cases empty : ((c.scheduleInfo deviceId).getD {}).phases.isEmpty = true
  · rw [if_pos empty] at h
    obtain ⟨rfl, rfl⟩ := Prod.mk.inj (Option.some.inj h)
    simp only [if_pos empty]
    exact ⟨_, rfl, state_update c deviceId _ _ _⟩
  rw [if_neg empty] at h
  simp only [if_neg empty, Function.update_idem]
  cases hphase : ((c.scheduleInfo deviceId).getD {}).phases[Cursor.advance
      (due meterage.timeStamp) ((c.scheduleInfo deviceId).getD {}).phases
      ((c.scheduleInfo deviceId).getD {}).currentPhaseIndex]? with
  | none =>
      simp only [hphase] at h
      cases h
  | some phase =>
      simp only [hphase] at h ⊢
      by_cases late : phase.timeStamp > meterage.timeStamp
      · rw [if_pos late] at h ⊢
        obtain ⟨rfl, rfl⟩ := Prod.mk.inj (Option.some.inj h)
        exact ⟨_, rfl, state_update c deviceId _ _ _⟩
      · rw [if_neg late] at h ⊢
        obtain ⟨rfl, rfl⟩ := Prod.mk.inj (Option.some.inj h)
        exact ⟨_, rfl, state_update c deviceId _ _ _⟩

theorem processMeterage_others {c c' : CommandCenter} {deviceId : UInt64}
    {meterage : MessageMeterage} {calls : List (UInt64 × Message)}
    (h : c.processMeterage deviceId meterage = some (c', calls)) {other : UInt64}
    (hother : other ≠ deviceId) :
    c'.scheduleInfo other = c.scheduleInfo other ∧ c'.statsInfo other = c.statsInfo other ∧
      c'.lastTimeStamp other = c.lastTimeStamp other := by
  unfold processMeterage at h
  simp only at h
  split at h
  · cases h
    exact ⟨rfl, rfl, rfl⟩
  · split at h
    · cases h
      simp only [Function.update_of_ne hother, and_self]
    · split at h
      · cases h
      · split at h
        · cases h
          simp only [Function.update_of_ne hother, and_self]
        · cases h
          simp only [Function.update_of_ne hother, and_self]

end CommandCenter
end DeviceMonitoring
