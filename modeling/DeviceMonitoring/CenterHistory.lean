import DeviceMonitoring.CommandCenter

/-! What the calls made so far say about a device: its latest schedule, whether a
time stamp is obsolete, the phase a meterage is judged against. Nothing here
looks at the state of the command centre. -/
namespace DeviceMonitoring

def CenterCall.device : CenterCall → UInt64
  | .setSchedule schedule => schedule.deviceId
  | .processMeterage deviceId _ => deviceId
  | .deviationStats deviceId => deviceId

/-- The phases as last passed to `set_schedule`, in the order they were passed. -/
def latestSchedule (deviceId : UInt64) : History → List Phase
  | [] => []
  | .setSchedule schedule :: past =>
      if schedule.deviceId = deviceId then schedule.schedule else latestSchedule deviceId past
  | _ :: past => latestSchedule deviceId past

/-- A meterage of the device carried this time stamp or a later one. -/
def isObsolete (deviceId : UInt64) (timeStamp : UInt64) : History → Bool
  | [] => false
  | .processMeterage other meterage :: past =>
      decide (other = deviceId ∧ timeStamp ≤ meterage.timeStamp) || isObsolete deviceId timeStamp past
  | _ :: past => isObsolete deviceId timeStamp past

theorem isObsolete_iff (deviceId timeStamp : UInt64) (past : History) :
    isObsolete deviceId timeStamp past = true ↔
      ∃ meterage, .processMeterage deviceId meterage ∈ past ∧ timeStamp ≤ meterage.timeStamp := by
  induction past with
  | nil => simp [isObsolete]
  | cons call past ih =>
      cases call with
      | setSchedule schedule => simp [isObsolete, ih]
      | deviationStats other => simp [isObsolete, ih]
      | processMeterage other meterage =>
          rw [isObsolete, Bool.or_eq_true, decide_eq_true_iff, ih]
          constructor
          · rintro (⟨rfl, h⟩ | ⟨m, hm, h⟩)
            · exact ⟨meterage, List.mem_cons_self, h⟩
            · exact ⟨m, List.mem_cons_of_mem _ hm, h⟩
          · rintro ⟨m, hm, h⟩
            rcases List.mem_cons.mp hm with hm | hm
            · cases hm
              exact .inl ⟨rfl, h⟩
            · exact .inr ⟨m, hm, h⟩

/-- What was obsolete stays so, and so is every earlier time stamp. -/
theorem isObsolete_mono {deviceId t u : UInt64} {past : History} (hle : t ≤ u)
    (h : isObsolete deviceId u past = true) : isObsolete deviceId t past = true := by
  obtain ⟨m, hm, hu⟩ := (isObsolete_iff deviceId u past).mp h
  exact (isObsolete_iff deviceId t past).mpr ⟨m, hm, UInt64.le_trans hle hu⟩

theorem isObsolete_cons {deviceId t : UInt64} {past : History} (call : CenterCall)
    (h : isObsolete deviceId t past = true) : isObsolete deviceId t (call :: past) = true := by
  obtain ⟨m, hm, hu⟩ := (isObsolete_iff deviceId t past).mp h
  exact (isObsolete_iff deviceId t _).mpr ⟨m, List.mem_cons_of_mem call hm, hu⟩

theorem due_downward (timeStamp : UInt64) {phases : List Phase}
    (h : phases.Pairwise (fun a b => a.timeStamp ≤ b.timeStamp)) :
    Cursor.Downward (due timeStamp) phases := by
  refine h.imp ?_
  intro a b hab hb
  simp only [due, decide_eq_true_eq] at hb ⊢
  exact UInt64.le_trans hab hb

theorem PhaseSort.downward (S : PhaseSort) (timeStamp : UInt64) (schedule : List Phase) :
    Cursor.Downward (due timeStamp) (S.sort schedule) := due_downward timeStamp (S.sorted schedule)

theorem PhaseSort.mem_sort (S : PhaseSort) {schedule : List Phase} {p : Phase} :
    p ∈ S.sort schedule ↔ p ∈ schedule := (S.perm schedule).mem_iff

theorem PhaseSort.sort_eq_nil (S : PhaseSort) {schedule : List Phase} :
    S.sort schedule = [] ↔ schedule = [] := by
  constructor
  · intro h
    have hp := S.perm schedule
    rw [h] at hp
    exact hp.nil_eq.symm
  · rintro rfl
    exact (S.perm []).eq_nil

/-- The phase a meterage is judged against, or the error it is answered with:
a search from scratch in the latest schedule. -/
def verdict (S : PhaseSort) (past : History) (deviceId : UInt64) (meterage : MessageMeterage) :
    Except ErrorType Phase :=
  if isObsolete deviceId meterage.timeStamp past then .error .obsolete
  else if (latestSchedule deviceId past).isEmpty then .error .noSchedule
  else
    match Cursor.latest (due meterage.timeStamp) (S.sort (latestSchedule deviceId past)) with
    | none => .error .noTimestamp
    | some phase => .ok phase

def replyTo (meterage : MessageMeterage) : Except ErrorType Phase → Message
  | .error e => .error e
  | .ok phase => .command (CommandCenter.command phase meterage.meterage).toInt8

/-- The reply to a meterage that comes after the calls `past`. -/
def reply (S : PhaseSort) (past : History) (deviceId : UInt64) (meterage : MessageMeterage) :
    Message := replyTo meterage (verdict S past deviceId meterage)

/-- A meterage answered with a command, and the phase it was judged against. -/
structure Sample where
  phase : Phase
  meterage : MessageMeterage
  deriving DecidableEq, Repr

/-- The samples of a device, the oldest one first. -/
def samples (S : PhaseSort) (deviceId : UInt64) : History → List Sample
  | [] => []
  | .processMeterage other meterage :: past =>
      if other = deviceId then
        match verdict S past deviceId meterage with
        | .ok phase => samples S deviceId past ++ [⟨phase, meterage⟩]
        | .error _ => samples S deviceId past
      else samples S deviceId past
  | _ :: past => samples S deviceId past

section Frame
variable {deviceId : UInt64} {call : CenterCall} (h : call.device ≠ deviceId) (past : History)
include h

theorem latestSchedule_other :
    latestSchedule deviceId (call :: past) = latestSchedule deviceId past := by
  cases call with
  | setSchedule schedule => exact if_neg h
  | processMeterage other meterage => rfl
  | deviationStats other => rfl

theorem isObsolete_other (t : UInt64) :
    isObsolete deviceId t (call :: past) = isObsolete deviceId t past := by
  cases call with
  | setSchedule schedule => rfl
  | processMeterage other meterage =>
      have hne : other ≠ deviceId := h
      simp [isObsolete, hne]
  | deviationStats other => rfl

theorem samples_other (S : PhaseSort) :
    samples S deviceId (call :: past) = samples S deviceId past := by
  cases call with
  | setSchedule schedule => rfl
  | processMeterage other meterage => exact if_neg h
  | deviationStats other => rfl

end Frame

/-- The calls that name the device. -/
def concerning (deviceId : UInt64) (past : History) : History :=
  past.filter (fun call => call.device = deviceId)

theorem concerning_self {deviceId : UInt64} {call : CenterCall} (h : call.device = deviceId)
    (past : History) : concerning deviceId (call :: past) = call :: concerning deviceId past :=
  List.filter_cons_of_pos (by simpa using h)

theorem concerning_other {deviceId : UInt64} {call : CenterCall} (h : call.device ≠ deviceId)
    (past : History) : concerning deviceId (call :: past) = concerning deviceId past :=
  List.filter_cons_of_neg (by simpa using h)

theorem latestSchedule_concerning (deviceId : UInt64) (past : History) :
    latestSchedule deviceId (concerning deviceId past) = latestSchedule deviceId past := by
  induction past with
  | nil => rfl
  | cons call past ih =>
      by_cases h : call.device = deviceId
      · rw [concerning_self h]
        cases call with
        | setSchedule schedule => simp only [latestSchedule, ih]
        | processMeterage other meterage => exact ih
        | deviationStats other => exact ih
      · rw [concerning_other h, ih, latestSchedule_other h]

theorem isObsolete_concerning (deviceId t : UInt64) (past : History) :
    isObsolete deviceId t (concerning deviceId past) = isObsolete deviceId t past := by
  induction past with
  | nil => rfl
  | cons call past ih =>
      by_cases h : call.device = deviceId
      · rw [concerning_self h]
        cases call with
        | setSchedule schedule => exact ih
        | processMeterage other meterage => simp only [isObsolete, ih]
        | deviationStats other => exact ih
      · rw [concerning_other h, ih, isObsolete_other h]

/-- The verdict needs the history only through the device's schedule and its time stamps. -/
theorem verdict_congr (S : PhaseSort) {past past' : History} {deviceId : UInt64}
    (hs : latestSchedule deviceId past = latestSchedule deviceId past')
    (ho : ∀ t, isObsolete deviceId t past = isObsolete deviceId t past')
    (meterage : MessageMeterage) :
    verdict S past deviceId meterage = verdict S past' deviceId meterage := by
  rw [verdict, verdict, hs, ho]

theorem samples_concerning (S : PhaseSort) (deviceId : UInt64) (past : History) :
    samples S deviceId (concerning deviceId past) = samples S deviceId past := by
  induction past with
  | nil => rfl
  | cons call past ih =>
      by_cases h : call.device = deviceId
      · rw [concerning_self h]
        cases call with
        | setSchedule schedule => exact ih
        | processMeterage other meterage =>
            have hv := verdict_congr S (latestSchedule_concerning deviceId past)
              (fun t => isObsolete_concerning deviceId t past) meterage
            simp only [samples, hv, ih]
        | deviationStats other => exact ih
      · rw [concerning_other h, ih, samples_other h]

/-- The same schedule set once more at any point of a sequence of calls. -/
def resend (deviceId : UInt64) (newer older : History) : History :=
  newer ++ .setSchedule ⟨deviceId, latestSchedule deviceId older⟩ :: older

theorem latestSchedule_resend (deviceId other : UInt64) (newer older : History) :
    latestSchedule deviceId (resend other newer older) = latestSchedule deviceId (newer ++ older) := by
  induction newer with
  | nil =>
      by_cases h : other = deviceId
      · subst h
        exact if_pos rfl
      · exact if_neg h
  | cons call newer ih =>
      rw [resend] at ih
      cases call with
      | setSchedule schedule => simp only [resend, List.cons_append, latestSchedule, ih]
      | processMeterage d meterage => exact ih
      | deviationStats d => exact ih

theorem isObsolete_resend (deviceId other t : UInt64) (newer older : History) :
    isObsolete deviceId t (resend other newer older) = isObsolete deviceId t (newer ++ older) := by
  induction newer with
  | nil => rfl
  | cons call newer ih =>
      rw [resend] at ih
      cases call with
      | setSchedule schedule => exact ih
      | processMeterage d meterage => simp only [resend, List.cons_append, isObsolete, ih]
      | deviationStats d => exact ih

end DeviceMonitoring
