import DeviceMonitoring.CenterReplies

/-! What the cursor saves. However many meterages are processed, the loop of
`process_meterage` passes over each phase at most once for each time it is planned. -/
namespace DeviceMonitoring

def DeviceState.rounds (s : DeviceState) (meterage : MessageMeterage) : Nat :=
  if s.lastTimeStamp.any (fun last => decide (last ≥ meterage.timeStamp)) then 0
  else if s.scheduleInfo.phases.isEmpty then 0
  else Cursor.rounds (due meterage.timeStamp) s.scheduleInfo.phases s.scheduleInfo.currentPhaseIndex

def CommandCenter.rounds (c : CommandCenter) (deviceId : UInt64) : CenterCall → Nat
  | .processMeterage other meterage =>
      if other = deviceId then (c.state deviceId).rounds meterage else 0
  | _ => 0

def totalRounds (S : PhaseSort) (deviceId : UInt64) : History → Nat
  | [] => 0
  | call :: past => totalRounds S deviceId past +
      ((CommandCenter.after S past).map (·.rounds deviceId call)).getD 0

/-- The phases planned for a device that come after the first one of their schedule. -/
def laterPhases (deviceId : UInt64) : History → Nat
  | [] => 0
  | .setSchedule schedule :: past => laterPhases deviceId past +
      if schedule.deviceId = deviceId then schedule.schedule.length - 1 else 0
  | _ :: past => laterPhases deviceId past

namespace DeviceState

def remaining (s : DeviceState) : Nat :=
  s.scheduleInfo.phases.length - 1 - s.scheduleInfo.currentPhaseIndex

/-- Each round is paid for by a phase. -/
theorem rounds_add_remaining {s s' : DeviceState} {meterage : MessageMeterage} {r : Message}
    (h : s.answer meterage = some (s', r)) : s.rounds meterage + s'.remaining = s.remaining := by
  have hle := Cursor.rounds_le (due meterage.timeStamp) s.scheduleInfo.phases
    s.scheduleInfo.currentPhaseIndex
  have hmoved : s.scheduleInfo.phases.length - 1 - Cursor.advance (due meterage.timeStamp)
      s.scheduleInfo.phases s.scheduleInfo.currentPhaseIndex + Cursor.rounds (due meterage.timeStamp)
        s.scheduleInfo.phases s.scheduleInfo.currentPhaseIndex = s.remaining := by
    rw [Cursor.advance_eq_add, remaining]
    omega
  unfold answer at h
  unfold rounds
  simp only at h
  split at h
  next hobsolete =>
    cases h
    rw [if_pos hobsolete, Nat.zero_add]
  next hfresh =>
    rw [if_neg hfresh]
    split at h
    next hempty =>
      cases h
      rw [if_pos hempty, Nat.zero_add]
      rfl
    next hplanned =>
      rw [if_neg hplanned, Nat.add_comm, ← hmoved]
      split at h
      · cases h
      · split at h <;> cases h <;> rfl

end DeviceState

/-- The phases that the cursor has not reached are the potential. -/
theorem rounds_perform {S : PhaseSort} {past : History} {c c' : CommandCenter}
    (hagrees : Agrees S past c) (deviceId : UInt64) {call : CenterCall}
    (hcall : c.perform S call = some c') :
    c.rounds deviceId call + (c'.state deviceId).remaining + laterPhases deviceId past ≤
      (c.state deviceId).remaining + laterPhases deviceId (call :: past) := by
  cases call with
  | setSchedule schedule =>
      cases hcall
      simp only [CommandCenter.setSchedule_state, laterPhases, CommandCenter.rounds]
      by_cases hdevice : schedule.deviceId = deviceId
      · subst hdevice
        rw [Function.update_self, if_pos rfl]
        have hlength := (S.perm schedule.schedule).length_eq
        simp only [DeviceState.remaining, hlength]
        omega
      · rw [Function.update_of_ne (Ne.symm hdevice), if_neg hdevice]
        omega
  | deviationStats other =>
      cases hcall
      simp only [CommandCenter.deviationStats_state, laterPhases, CommandCenter.rounds]
      omega
  | processMeterage other meterage =>
      obtain ⟨s, hanswer, -⟩ := (hagrees other).1.answer meterage
      obtain ⟨c'', hprocessed, hstate⟩ := CommandCenter.processMeterage_answer hanswer
      rw [CommandCenter.perform, hprocessed] at hcall
      cases hcall
      simp only [hstate, laterPhases, CommandCenter.rounds]
      by_cases hdevice : other = deviceId
      · subst hdevice
        have hpaid := DeviceState.rounds_add_remaining hanswer
        rw [Function.update_self, if_pos rfl]
        omega
      · rw [Function.update_of_ne (Ne.symm hdevice), if_neg hdevice]
        omega

theorem rounds_after (S : PhaseSort) (deviceId : UInt64) (past : History) {c : CommandCenter}
    (h : CommandCenter.after S past = some c) :
    totalRounds S deviceId past + (c.state deviceId).remaining ≤ laterPhases deviceId past := by
  induction past generalizing c with
  | nil =>
      cases h
      exact Nat.le_refl _
  | cons call past ih =>
      obtain ⟨before, hbefore, hagrees⟩ := after_agrees S past
      rw [CommandCenter.after, hbefore, Option.bind_some] at h
      have hold := ih hbefore
      have hstep := rounds_perform hagrees deviceId h
      rw [totalRounds, hbefore, Option.map_some, Option.getD_some]
      omega

/-- Whatever the meterages, their number and their time stamps: the loop runs no more often than
there are phases planned, less one for each schedule; the search from scratch would look at
them again for each meterage. -/
theorem cursor_amortized (S : PhaseSort) (deviceId : UInt64) (past : History) :
    totalRounds S deviceId past ≤ laterPhases deviceId past := by
  obtain ⟨c, hc, -⟩ := after_agrees S past
  exact Nat.le_trans (Nat.le_add_right _ _) (rounds_after S deviceId past hc)

example : totalRounds .stable 7 [.processMeterage 7 ⟨9, 0⟩, .processMeterage 7 ⟨4, 0⟩,
    .setSchedule ⟨7, [⟨8, 1⟩, ⟨1, 1⟩, ⟨3, 1⟩]⟩] = 2 := by decide +kernel

end DeviceMonitoring
