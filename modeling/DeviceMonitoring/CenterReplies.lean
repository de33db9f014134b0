import DeviceMonitoring.DeviceState

/-! The replies of a command centre are those the history alone determines. The
invariant ties the cursor to the time stamps already seen: the phase it stands on
has begun before any time stamp that is still to be answered. -/
namespace DeviceMonitoring

section Stamps
variable {deviceId : UInt64} {meterage : MessageMeterage} {past : History}

theorem isObsolete_stale (h : isObsolete deviceId meterage.timeStamp past = true) (t : UInt64) :
    isObsolete deviceId t (.processMeterage deviceId meterage :: past) =
      isObsolete deviceId t past := by
  rw [isObsolete, Bool.or_eq_right_iff_imp]
  intro ht
  exact isObsolete_mono (of_decide_eq_true ht).2 h

/-- A meterage that is not obsolete carries the greatest time stamp so far. -/
theorem isObsolete_fresh (h : isObsolete deviceId meterage.timeStamp past = false) (t : UInt64) :
    isObsolete deviceId t (.processMeterage deviceId meterage :: past) =
      decide (t ≤ meterage.timeStamp) := by
  cases ht : isObsolete deviceId t past with
  | false => simp [isObsolete, ht]
  | true =>
      have hle : t ≤ meterage.timeStamp := by
        rcases UInt64.le_total t meterage.timeStamp with hle | hge
        · exact hle
        · rw [isObsolete_mono hge ht] at h
          cases h
      simp [isObsolete, hle]

end Stamps

/-- The entries of a device agree with the history. -/
structure Tracks (S : PhaseSort) (past : History) (deviceId : UInt64) (s : DeviceState) : Prop where
  last : ∀ t, s.lastTimeStamp.any (fun last => decide (last ≥ t)) = isObsolete deviceId t past
  phases : s.scheduleInfo.phases = S.sort (latestSchedule deviceId past)
  cursor : s.scheduleInfo.currentPhaseIndex = 0 ∨
    ∃ p, s.scheduleInfo.phases[s.scheduleInfo.currentPhaseIndex]? = some p ∧
      isObsolete deviceId p.timeStamp past = true

namespace Tracks
variable {S : PhaseSort} {past : History} {deviceId : UInt64} {s : DeviceState}

theorem initial (S : PhaseSort) (deviceId : UInt64) : Tracks S [] deviceId {} where
  last _ := rfl
  phases := (S.sort_eq_nil.mpr rfl).symm
  cursor := .inl rfl

theorem bounds (h : Tracks S past deviceId s) (hne : s.scheduleInfo.phases ≠ []) :
    s.scheduleInfo.currentPhaseIndex < s.scheduleInfo.phases.length := by
  rcases h.cursor with hi | ⟨p, hp, -⟩
  · rw [hi]
    exact List.length_pos_iff.mpr hne
  · exact (List.getElem?_eq_some_iff.mp hp).1

/-- For a time stamp that is not obsolete, the search resumed at the cursor ends
within the schedule and finds what a search from scratch finds. -/
theorem search (h : Tracks S past deviceId s) (hne : s.scheduleInfo.phases ≠ []) {t : UInt64}
    (hfresh : isObsolete deviceId t past = false) :
    ∃ p, s.scheduleInfo.phases[Cursor.advance (due t) s.scheduleInfo.phases
        s.scheduleInfo.currentPhaseIndex]? = some p ∧
      (if due t p then some p else none) = Cursor.latest (due t) s.scheduleInfo.phases := by
  have hmono : Cursor.Downward (due t) s.scheduleInfo.phases := by
    rw [h.phases]
    exact S.downward t _
  refine Cursor.advance_latest (due t) hmono (h.bounds hne) ?_
  rcases h.cursor with hi | ⟨p, hp, hobs⟩
  · exact .inl hi
  · obtain ⟨hlt, rfl⟩ := List.getElem?_eq_some_iff.mp hp
    refine .inr (decide_eq_true ?_)
    rcases UInt64.le_total (s.scheduleInfo.phases[s.scheduleInfo.currentPhaseIndex]).timeStamp t
      with hle | hge
    · exact hle
    · rw [isObsolete_mono hge hobs] at hfresh
      cases hfresh

theorem phases_eq_nil (h : Tracks S past deviceId s) :
    s.scheduleInfo.phases = [] ↔ latestSchedule deviceId past = [] := by
  rw [h.phases, S.sort_eq_nil]

/-- A call that names another device. -/
theorem other (h : Tracks S past deviceId s) {call : CenterCall} (hne : call.device ≠ deviceId) :
    Tracks S (call :: past) deviceId s where
  last t := by rw [h.last, isObsolete_other hne]
  phases := by rw [h.phases, latestSchedule_other hne]
  cursor := by simpa only [isObsolete_other hne] using h.cursor

theorem setSchedule (h : Tracks S past deviceId s) (schedule : List Phase) :
    Tracks S (.setSchedule ⟨deviceId, schedule⟩ :: past) deviceId
      { s with scheduleInfo := { phases := S.sort schedule } } where
  last t := h.last t
  phases := by rw [latestSchedule, if_pos rfl]
  cursor := .inl rfl

theorem deviationStats (h : Tracks S past deviceId s) :
    Tracks S (.deviationStats deviceId :: past) deviceId s := ⟨h.last, h.phases, h.cursor⟩

/-- A fresh meterage: the cursor may move within the begun phases of the schedule. -/
theorem fresh (h : Tracks S past deviceId s) {meterage : MessageMeterage} (statsInfo : StatsInfo)
    (hfresh : isObsolete deviceId meterage.timeStamp past = false) {index : Nat}
    (hindex : index = s.scheduleInfo.currentPhaseIndex ∨
      ∃ p, s.scheduleInfo.phases[index]? = some p ∧ due meterage.timeStamp p = true) :
    Tracks S (.processMeterage deviceId meterage :: past) deviceId
      { scheduleInfo := { s.scheduleInfo with currentPhaseIndex := index }
        statsInfo, lastTimeStamp := some meterage.timeStamp } where
  last t := by simp [isObsolete_fresh hfresh]
  phases := h.phases
  cursor := by
    rcases hindex with rfl | ⟨p, hp, hdue⟩
    · rcases h.cursor with hi | ⟨p, hp, hobs⟩
      · exact .inl hi
      · exact .inr ⟨p, hp, isObsolete_cons _ hobs⟩
    · exact .inr ⟨p, hp, (isObsolete_fresh hfresh p.timeStamp).trans hdue⟩

end Tracks

/-- What `process_meterage` does to the statistics of a device. -/
def recordVerdict (statsInfo : StatsInfo) (meterage : MessageMeterage) :
    Except ErrorType Phase → StatsInfo
  | .error _ => statsInfo
  | .ok phase => CommandCenter.record statsInfo phase meterage.timeStamp
      (CommandCenter.command phase meterage.meterage)

/-- The reply is the one of the history, and the entries keep agreeing with it. -/
theorem Tracks.answer {S : PhaseSort} {past : History} {deviceId : UInt64} {s : DeviceState}
    (h : Tracks S past deviceId s) (meterage : MessageMeterage) :
    ∃ s', s.answer meterage = some (s', reply S past deviceId meterage) ∧
      Tracks S (.processMeterage deviceId meterage :: past) deviceId s' ∧
      s'.statsInfo = recordVerdict s.statsInfo meterage (verdict S past deviceId meterage) := by
  have hlast := h.last meterage.timeStamp
  cases hobs : isObsolete deviceId meterage.timeStamp past with
  | true =>
      have hv : verdict S past deviceId meterage = .error .obsolete := by rw [verdict, if_pos hobs]
      refine ⟨s, ?_, ⟨?_, h.phases, ?_⟩, ?_⟩
      · rw [DeviceState.answer, if_pos (hlast.trans hobs), reply, hv]
        rfl
      · intro t
        rw [h.last, isObsolete_stale hobs]
      · simpa only [isObsolete_stale hobs] using h.cursor
      · rw [hv]
        rfl
  | false =>
      have hnot : ¬ s.lastTimeStamp.any (fun last => decide (last ≥ meterage.timeStamp)) = true := by
        simp [hlast, hobs]
      have hobs' : ¬ isObsolete deviceId meterage.timeStamp past = true := by simp [hobs]
      by_cases hempty : s.scheduleInfo.phases = []
      · have hv : verdict S past deviceId meterage = .error .noSchedule := by
          rw [verdict, if_neg hobs', if_pos (by simp [h.phases_eq_nil.mp hempty])]
        refine ⟨{ s with lastTimeStamp := some meterage.timeStamp }, ?_, ?_, ?_⟩
        · rw [DeviceState.answer, if_neg hnot, if_pos (by simp [hempty]), reply, hv]
          rfl
        · exact h.fresh s.statsInfo hobs (.inl rfl)
        · rw [hv]
          rfl
      · have hsched : ¬ (latestSchedule deviceId past).isEmpty = true := by
          simpa using mt h.phases_eq_nil.mpr hempty
        obtain ⟨p, hp, hlatest⟩ := h.search hempty hobs
        rw [h.phases] at hlatest
        have hmoved := Cursor.advance_due (due meterage.timeStamp) s.scheduleInfo.phases
          s.scheduleInfo.currentPhaseIndex
        cases hdue : due meterage.timeStamp p with
        | true =>
            have hv : verdict S past deviceId meterage = .ok p := by
              rw [verdict, if_neg hobs', if_neg hsched, ← hlatest, if_pos hdue]
            have hbegun : ¬ p.timeStamp > meterage.timeStamp := by simpa [due] using hdue
            refine ⟨_, ?_, h.fresh (recordVerdict s.statsInfo meterage (.ok p)) hobs hmoved, ?_⟩
            · rw [DeviceState.answer, if_neg hnot, if_neg (by simpa using hempty), reply, hv]
              simp only [hp, if_neg hbegun]
              rfl
            · rw [hv]
        | false =>
            have hv : verdict S past deviceId meterage = .error .noTimestamp := by
              rw [verdict, if_neg hobs', if_neg hsched, ← hlatest, if_neg (by simp [hdue])]
            have hlate : p.timeStamp > meterage.timeStamp := by simpa [due] using hdue
            refine ⟨_, ?_, h.fresh s.statsInfo hobs hmoved, ?_⟩
            · rw [DeviceState.answer, if_neg hnot, if_neg (by simpa using hempty), reply, hv]
              simp only [hp, if_pos hlate]
              rfl
            · rw [hv]
              rfl

/-- The statistics after a list of samples. -/
def ledger (taken : List Sample) : StatsInfo :=
  taken.foldl (fun statsInfo sample => recordVerdict statsInfo sample.meterage (.ok sample.phase)) {}

theorem ledger_concat (taken : List Sample) (sample : Sample) :
    ledger (taken ++ [sample]) = recordVerdict (ledger taken) sample.meterage (.ok sample.phase) := by
  rw [ledger, List.foldl_append]
  rfl

theorem ledger_samples (S : PhaseSort) (past : History) (deviceId : UInt64)
    (meterage : MessageMeterage) :
    ledger (samples S deviceId (.processMeterage deviceId meterage :: past)) =
      recordVerdict (ledger (samples S deviceId past)) meterage (verdict S past deviceId meterage) := by
  rw [samples, if_pos rfl]
  cases verdict S past deviceId meterage with
  | error e => rfl
  | ok phase => exact ledger_concat _ ⟨phase, meterage⟩

/-- The command centre agrees with the history on every device. -/
def Agrees (S : PhaseSort) (past : History) (c : CommandCenter) : Prop :=
  ∀ deviceId, Tracks S past deviceId (c.state deviceId) ∧
    (c.state deviceId).statsInfo = ledger (samples S deviceId past)

namespace Agrees
variable {S : PhaseSort} {past : History} {c : CommandCenter}

/-- A call that replaces the state of the device it names keeps the agreement
with the history if it does for that device. -/
theorem update (h : Agrees S past c) {c' : CommandCenter} {call : CenterCall} {s : DeviceState}
    (hstate : c'.state = Function.update c.state call.device s)
    (hs : Tracks S (call :: past) call.device s ∧
      s.statsInfo = ledger (samples S call.device (call :: past))) : Agrees S (call :: past) c' := by
  intro d
  rw [hstate]
  by_cases hd : d = call.device
  · subst hd
    rwa [Function.update_self]
  · rw [Function.update_of_ne hd, samples_other (Ne.symm hd)]
    exact ⟨(h d).1.other (Ne.symm hd), (h d).2⟩

theorem processMeterage (h : Agrees S past c) (d : UInt64) (meterage : MessageMeterage) :
    ∃ c', c.processMeterage d meterage = some (c', [(d, reply S past d meterage)]) ∧
      Agrees S (.processMeterage d meterage :: past) c' := by
  obtain ⟨s, hans, htracks, hstats⟩ := (h d).1.answer meterage
  obtain ⟨c', hc', hstate⟩ := CommandCenter.processMeterage_answer hans
  refine ⟨c', hc', h.update hstate ⟨htracks, ?_⟩⟩
  rw [hstats, (h d).2]
  exact (ledger_samples S past d meterage).symm

/-- No call reads outside a vector, and the agreement is kept. -/
theorem perform (h : Agrees S past c) (call : CenterCall) :
    ∃ c', c.perform S call = some c' ∧ Agrees S (call :: past) c' := by
  cases call with
  | setSchedule schedule =>
      refine ⟨_, rfl, h.update (CommandCenter.setSchedule_state S c schedule) ⟨?_, ?_⟩⟩
      · exact (h schedule.deviceId).1.setSchedule schedule.schedule
      · exact (h schedule.deviceId).2
  | processMeterage d meterage =>
      obtain ⟨c', hc', hagrees⟩ := h.processMeterage d meterage
      exact ⟨c', by rw [CommandCenter.perform, hc']; rfl, hagrees⟩
  | deviationStats d =>
      refine ⟨_, rfl, h.update (s := c.state d) ?_ ⟨(h d).1.deviationStats, (h d).2⟩⟩
      rw [CommandCenter.deviationStats_state]
      exact (Function.update_eq_self d c.state).symm

end Agrees

/-- Every sequence of calls on a fresh command centre. -/
theorem after_agrees (S : PhaseSort) (past : History) :
    ∃ c, CommandCenter.after S past = some c ∧ Agrees S past c := by
  induction past with
  | nil => exact ⟨{}, rfl, fun d => ⟨Tracks.initial S d, rfl⟩⟩
  | cons call past ih =>
      obtain ⟨c, hc, hagrees⟩ := ih
      obtain ⟨c', hc', hagrees'⟩ := hagrees.perform call
      exact ⟨c', by rw [CommandCenter.after, hc]; exact hc', hagrees'⟩

theorem agrees_of_after {S : PhaseSort} {past : History} {c : CommandCenter}
    (h : CommandCenter.after S past = some c) : Agrees S past c := by
  obtain ⟨c', hc', hagrees⟩ := after_agrees S past
  rw [h] at hc'
  cases hc'
  exact hagrees

/-- The calls of `callback` made for a meterage that comes after the calls `past`. -/
def callbacks (S : PhaseSort) (past : History) (deviceId : UInt64) (meterage : MessageMeterage) :
    Option (List (UInt64 × Message)) :=
  (CommandCenter.after S past).bind fun c => (c.processMeterage deviceId meterage).map Prod.snd

theorem callbacks_eq (S : PhaseSort) (past : History) (deviceId : UInt64)
    (meterage : MessageMeterage) :
    callbacks S past deviceId meterage = some [(deviceId, reply S past deviceId meterage)] := by
  obtain ⟨c, hc, hagrees⟩ := after_agrees S past
  obtain ⟨c', hc', -⟩ := hagrees.processMeterage deviceId meterage
  rw [callbacks, hc, Option.bind_some, hc']
  rfl

/-- The reply that the history calls for. Equal time stamps leave a choice of phase. -/
inductive IsReply (past : History) (deviceId : UInt64) (meterage : MessageMeterage) : Message → Prop
  | obsolete (earlier : MessageMeterage) (sent : .processMeterage deviceId earlier ∈ past)
      (later : meterage.timeStamp ≤ earlier.timeStamp) :
      IsReply past deviceId meterage (.error .obsolete)
  | noSchedule
      (fresh : ∀ earlier, .processMeterage deviceId earlier ∈ past →
        earlier.timeStamp < meterage.timeStamp)
      (empty : latestSchedule deviceId past = []) :
      IsReply past deviceId meterage (.error .noSchedule)
  | noTimestamp
      (fresh : ∀ earlier, .processMeterage deviceId earlier ∈ past →
        earlier.timeStamp < meterage.timeStamp)
      (nonempty : latestSchedule deviceId past ≠ [])
      (later : ∀ p ∈ latestSchedule deviceId past, meterage.timeStamp < p.timeStamp) :
      IsReply past deviceId meterage (.error .noTimestamp)
  | command
      (fresh : ∀ earlier, .processMeterage deviceId earlier ∈ past →
        earlier.timeStamp < meterage.timeStamp)
      (p : Phase) (member : p ∈ latestSchedule deviceId past)
      (begun : p.timeStamp ≤ meterage.timeStamp)
      (greatest : ∀ q ∈ latestSchedule deviceId past, q.timeStamp ≤ meterage.timeStamp →
        q.timeStamp ≤ p.timeStamp) :
      IsReply past deviceId meterage
        (.command ((p.value.toNat : Int) - meterage.meterage.toNat).toInt8)

theorem isReply_reply (S : PhaseSort) (past : History) (deviceId : UInt64)
    (meterage : MessageMeterage) :
    IsReply past deviceId meterage (reply S past deviceId meterage) := by
  rw [reply, verdict]
  split
  next hobs =>
    obtain ⟨earlier, sent, later⟩ := (isObsolete_iff _ _ _).mp hobs
    exact .obsolete earlier sent later
  next hobs =>
    have fresh : ∀ earlier, .processMeterage deviceId earlier ∈ past →
        earlier.timeStamp < meterage.timeStamp := by
      intro earlier sent
      rw [isObsolete_iff] at hobs
      exact UInt64.not_le.mp fun later => hobs ⟨earlier, sent, later⟩
    have hmono := S.downward meterage.timeStamp (latestSchedule deviceId past)
    split
    next hempty => exact .noSchedule fresh (List.isEmpty_iff.mp hempty)
    next hempty =>
      split
      next hnone =>
        refine .noTimestamp fresh (by simpa using hempty) ?_
        intro p hp
        have hnot := (Cursor.latest_none _ hmono).mp hnone p (S.mem_sort.mpr hp)
        simpa [due] using hnot
      next p hsome =>
        have begun : due meterage.timeStamp p = true := Cursor.latest_due _ hsome
        refine .command fresh p (S.mem_sort.mp (Cursor.latest_mem _ hsome))
          (of_decide_eq_true begun) ?_
        intro q hq hdue
        exact Cursor.latest_greatest _ (S.sorted _) (fun a => UInt64.le_refl _) hmono hsome
          (S.mem_sort.mpr hq) (decide_eq_true hdue)

/-- Every meterage is answered once, with the reply the history calls for; the cursor
of every device stands within its schedule, and for every time stamp still to be
answered the search resumed there finds what a search from scratch finds; neither
a schedule sent once more nor the calls for other devices change a reply. -/
theorem replies_follow_history (S : PhaseSort) (past : History) (deviceId : UInt64)
    (meterage : MessageMeterage) :
    (∃ r, callbacks S past deviceId meterage = some [(deviceId, r)] ∧
      IsReply past deviceId meterage r) ∧
    (∃ c, CommandCenter.after S past = some c ∧ ∀ d,
      let info := (c.state d).scheduleInfo
      info.phases = S.sort (latestSchedule d past) ∧
      (info.phases ≠ [] → info.currentPhaseIndex < info.phases.length ∧
        ∀ t, (∀ earlier, .processMeterage d earlier ∈ past → earlier.timeStamp < t) →
          ∃ p, info.phases[Cursor.advance (due t) info.phases info.currentPhaseIndex]? = some p ∧
            (if due t p then some p else none) = Cursor.latest (due t) info.phases)) ∧
    (∀ newer older other, callbacks S (resend other newer older) deviceId meterage =
      callbacks S (newer ++ older) deviceId meterage) ∧
    callbacks S (concerning deviceId past) deviceId meterage =
      callbacks S past deviceId meterage := by
  refine ⟨⟨_, callbacks_eq S past deviceId meterage, isReply_reply S past deviceId meterage⟩,
    ?_, ?_, ?_⟩
  · obtain ⟨c, hc, hagrees⟩ := after_agrees S past
    refine ⟨c, hc, fun d => ⟨(hagrees d).1.phases, fun hne => ⟨(hagrees d).1.bounds hne, ?_⟩⟩⟩
    intro t hfresh
    refine (hagrees d).1.search hne ?_
    rw [Bool.eq_false_iff, ne_eq, isObsolete_iff]
    rintro ⟨earlier, sent, later⟩
    exact UInt64.not_le.mpr (hfresh earlier sent) later
  · intro newer older other
    rw [callbacks_eq, callbacks_eq, reply, reply,
      verdict_congr S (latestSchedule_resend deviceId other newer older)
        (fun t => isObsolete_resend deviceId other t newer older)]
  · rw [callbacks_eq, callbacks_eq, reply, reply,
      verdict_congr S (latestSchedule_concerning deviceId past)
        (fun t => isObsolete_concerning deviceId t past)]

end DeviceMonitoring
