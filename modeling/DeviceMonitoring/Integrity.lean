import DeviceMonitoring.Effects

/-! The integrity of a session: what the server processes was sent, by the device that it is
attributed to, and what a device keeps is an answer to it. Letters may be lost, when a channel
goes or when the two ends use different executors; none is altered, repeated or misattributed. -/
namespace DeviceMonitoring

def Record.answer (r : Record) : UInt64 × Message := (r.deviceId, r.reply)

def CenterCall.meterage : CenterCall → Option (UInt64 × MessageMeterage)
  | .processMeterage deviceId meterage => some (deviceId, meterage)
  | _ => none

theorem meteragesIn_append (calls past : History) :
    meteragesIn (calls ++ past) = meteragesIn past ++ calls.reverse.filterMap CenterCall.meterage := by
  induction calls with
  | nil => exact (List.append_nil _).symm
  | cons call calls ih =>
      rw [List.reverse_cons, List.filterMap_append]
      cases call with
      | processMeterage deviceId meterage =>
          rw [List.cons_append, meteragesIn, ih, List.append_assoc]
          rfl
      | _ => exact ih.trans (congrArg (meteragesIn past ++ ·) (List.append_nil _).symm)

namespace Monitoring

/-- The account of a session: what was sent, the calls of the command centre, what was kept. -/
structure Accounted (S : PhaseSort) (sent : List (UInt64 × MessageMeterage)) (past : History)
    (records : List Record) (m : Monitoring) : Prop where
  sound : Sound S m
  orderly : m.Orderly
  history : CommandCenter.after S past = some m.server.commandCenter
  /-- the letters put into the queue, those whose handler has returned, and the one in hand -/
  letters : ∃ posted handled inHand : List Parcel,
    World.Underway Parcel.letter posted (handled ++ inHand) m.world ∧ (∀ p ∈ posted, p.Sealed) ∧
      (posted.filterMap Parcel.meterage).Sublist sent ∧
      (posted.filterMap Parcel.reply).Sublist (answersIn S past) ∧
      (meteragesIn past).Sublist (handled.filterMap Parcel.meterage) ∧
      (records.map Record.answer).Sublist (handled.filterMap Parcel.reply) ∧ m.InHand inHand
  messages : ∀ d device, m.devices.get d = some device →
    device.messages = (records.filter (·.device = d)).map (·.reply)
  recent : ∀ r ∈ records, r.device < m.devices.next

section Step
variable {S : PhaseSort} {I : Iteration} {m m' : Monitoring} {past : History}
  {sent : List (UInt64 × MessageMeterage)} {records : List Record}

/-- What is processed and kept in a step is what is in hand. -/
theorem inHand_handled (h : m.Orderly) {inHand : List Parcel} (hinHand : m.InHand inHand)
    (hsealed : ∀ p ∈ inHand, p.Sealed) :
    ((m.centerCalls .handle).filterMap CenterCall.meterage).Sublist (inHand.filterMap Parcel.meterage) ∧
      ((m.recordedIn .handle).map Record.answer).Sublist (inHand.filterMap Parcel.reply) := by
  cases hrunning : m.world.running with
  | none =>
      simp only [centerCalls, recordedIn, hrunning]
      exact ⟨List.nil_sublist _, List.nil_sublist _⟩
  | some running =>
      obtain ⟨invocation, moment⟩ := running
      cases invocation with
      | message handler message =>
          obtain ⟨p, rfl, hmessage, hto⟩ := hinHand handler message moment hrunning
          have hp := hsealed p List.mem_cons_self
          rcases hto with ⟨hserver, rfl⟩ | ⟨hdevice, d, device, rfl, hget, hid⟩
          · simp only [centerCalls, recordedIn, hrunning]
            refine ⟨?_, List.nil_sublist _⟩
            by_cases hread : ∃ content, serialize content <+: m.server.encoder.decode message
            · obtain ⟨content, hread⟩ := hread
              rw [received_of_message hread]
              rw [← hmessage] at hread
              obtain rfl := hp.content_eq h.server hread
              cases hcontent : p.content with
              | meterage meterage => simp [CenterCall.meterage, Parcel.meterage, hserver, hcontent]
              | _ => exact List.nil_sublist _
            · push Not at hread
              rw [received_reject _ hread]
              exact List.nil_sublist _
          · simp only [centerCalls, recordedIn, hrunning, hget]
            refine ⟨List.nil_sublist _, ?_⟩
            split
            next mock hread =>
              obtain ⟨reply, hreply, rfl⟩ := DeviceMock.read_reply hread
              rw [← hmessage] at hreply
              obtain rfl := hp.content_eq (h.devices d device hget) hreply
              simp [Record.answer, Parcel.reply, hdevice, hid]
            · exact List.nil_sublist _
      | _ =>
          simp only [centerCalls, recordedIn, hrunning]
          exact ⟨List.nil_sublist _, List.nil_sublist _⟩

theorem inHand_returned (m : Monitoring) : (m.sessionStep S I .handle).InHand [] := by
  intro handler message moment hrunning
  simp only [sessionStep] at hrunning
  split at hrunning
  next hnone =>
    rw [hnone] at hrunning
    cases hrunning
  · split at hrunning
    next m' _ =>
      rcases World.running_resume m'.world with hnone | ⟨-, handler, c, hsome⟩
      · rw [hnone] at hrunning
        cases hrunning
      · rw [hsome] at hrunning
        cases hrunning
    · cases hrunning

theorem meterages_call (m : Monitoring) (call : MonitoringCall) :
    (m.centerCalls (.call call)).filterMap CenterCall.meterage = [] := by
  simp only [centerCalls]
  split
  · rfl
  · cases call <;> rfl

namespace Accounted

/-- A step that takes no task from the queue; what was in hand has then been handled. -/
theorem effect (h : Accounted S sent past records m) {step : SessionStep} {new : List Parcel}
    (heffect : Effect S m step past m' new) (hsound : Sound S m')
    (hhandled : ∀ inHand : List Parcel, m.InHand inHand → (∀ p ∈ inHand, p.Sealed) →
      ((m.centerCalls step).filterMap CenterCall.meterage).Sublist (inHand.filterMap Parcel.meterage) ∧
        ((m.recordedIn step).map Record.answer).Sublist (inHand.filterMap Parcel.reply))
    (hinHand : m'.InHand []) :
    Accounted S (sent ++ m.sentIn step) ((m.centerCalls step).reverse ++ past)
      (records ++ m.recordedIn step) m' := by
  obtain ⟨posted, handled, inHand, hunderway, hsealed, hsent, hanswered, hprocessed, hrecorded, hnow⟩ :=
    h.letters
  obtain ⟨more, hmore, hreplies⟩ := heffect.answered
  obtain ⟨pending, -, hconveys⟩ := hunderway.conveyed
  have hgiven : ∀ p ∈ inHand, p.Sealed := fun p hp =>
    hsealed p (hconveys.handed_sublist.subset (List.mem_append_right _ hp))
  obtain ⟨hcalls, hkept⟩ := hhandled inHand hnow hgiven
  refine ⟨hsound, heffect.orderly, heffect.history, ⟨posted ++ new, handled ++ inHand, [], ?_, ?_, ?_, ?_,
    ?_, ?_, hinHand⟩, ?_, ?_⟩
  · rw [List.append_nil]
    exact hunderway.passage heffect.moves.passage
  · intro p hp
    rcases List.mem_append.mp hp with hp | hp
    · exact hsealed p hp
    · exact heffect.isSealed p hp
  · rw [List.filterMap_append]
    exact hsent.append heffect.sent
  · rw [hmore, List.filterMap_append]
    exact hanswered.append hreplies
  · rw [meteragesIn_append, List.reverse_reverse, List.filterMap_append]
    exact hprocessed.append hcalls
  · rw [List.map_append, List.filterMap_append]
    exact hrecorded.append hkept
  · intro d device' hget'
    rw [List.filter_append, List.map_append]
    rcases heffect.messages d device' hget' with ⟨device, hget, hsame⟩ | ⟨hnew, hempty⟩
    · rw [hsame, h.messages d device hget]
    · -- a device that is new has kept nothing
      have hnone : ∀ l : List Record, (∀ r ∈ l, r.device < m.devices.next) →
          l.filter (·.device = d) = [] := by
        intro l hl
        rw [List.filter_eq_nil_iff]
        intro r hr heq
        exact absurd (hl r hr) (Nat.not_lt.mpr (of_decide_eq_true heq ▸ hnew))
      rw [hempty, hnone _ h.recent, hnone _ heffect.recent]
      rfl
  · intro r hr
    rcases List.mem_append.mp hr with hr | hr
    · exact Nat.lt_of_lt_of_le (h.recent r hr) heffect.next
    · exact Nat.lt_of_lt_of_le (heffect.recent r hr) heffect.next

/-- A letter is taken from the queue, or another task. -/
theorem start (h : Accounted S sent past records m) :
    Accounted S sent past records { m with world := m.world.start } := by
  have hsound : Sound S { m with world := m.world.start } := h.sound.step (I := .byEntry) .start
  cases hrunning : m.world.running with
  | some running =>
      rw [World.start_busy hrunning]
      exact h
  | none =>
      obtain ⟨_, _, -, hw⟩ := id h.orderly.settled
      obtain ⟨posted, handled, inHand, hunderway, hsealed, hsent, hanswered, hprocessed, hrecorded, -⟩ :=
        h.letters
      obtain ⟨given, hgiven, hafter⟩ := hunderway.start h.orderly.settled
      have hinHand := inHand_start h.orderly.attributed hw.owned h.orderly.current hrunning hgiven
      refine ⟨hsound, ⟨h.orderly.start, h.orderly.server, h.orderly.devices⟩, h.history,
        ⟨posted, handled ++ inHand, given, hafter, hsealed, hsent, hanswered, ?_, ?_, hinHand⟩,
        h.messages, h.recent⟩
      · rw [List.filterMap_append]
        exact hprocessed.trans (List.sublist_append_left _ _)
      · rw [List.filterMap_append]
        exact hrecorded.trans (List.sublist_append_left _ _)

theorem step (h : Accounted S sent past records m) {step : SessionStep} (hknown : step.Known) :
    Accounted S (sent ++ m.sentIn step) ((m.centerCalls step).reverse ++ past)
      (records ++ m.recordedIn step) (m.sessionStep S I step) := by
  have hsound : Sound S (m.sessionStep S I step) := h.sound.step step
  cases step with
  | start =>
      have hnothing : m.sentIn .start = [] ∧ m.centerCalls .start = [] ∧ m.recordedIn .start = [] :=
        ⟨rfl, rfl, rfl⟩
      rw [hnothing.1, hnothing.2.1, hnothing.2.2, List.append_nil, List.append_nil]
      exact h.start
  | handle =>
      obtain ⟨new, heffect⟩ := effect_handle (I := I) h.orderly h.sound h.history
      exact h.effect heffect hsound (fun inHand => inHand_handled h.orderly) m.inHand_returned
  | call call =>
      cases hrunning : m.world.running with
      | some running =>
          -- nobody calls while a handler runs
          have hbusy : m.world.running.isSome = true := by rw [hrunning, Option.isSome_some]
          have hstep : m.sessionStep S I (.call call) = m := by simp only [sessionStep, if_pos hbusy]
          have hcalls : m.centerCalls (.call call) = [] := by simp only [centerCalls, if_pos hbusy]
          have hnothing : m.sentIn (.call call) = [] := by
            unfold sentIn sends
            cases call with
            | startMeterageSending d => simp only [if_pos hbusy, Option.toList_none, List.flatMap_nil]
            | _ => rfl
          rw [hstep, hcalls, hnothing, show m.recordedIn (.call call) = [] from rfl, List.append_nil,
            List.append_nil]
          exact h
      | none =>
          obtain ⟨new, heffect⟩ := effect_call (S := S) (I := I) h.orderly hrunning h.history hknown
          have hstep : m.sessionStep S I (.call call) = m.call S I call := by
            simp only [sessionStep, hrunning, Option.isSome_none, Bool.false_eq_true, if_false]
          have hidle := idle_call (S := S) (I := I) ⟨hrunning, h.orderly.settled⟩ call
          rw [hstep] at hsound ⊢
          refine h.effect heffect hsound (fun inHand _ _ => ?_) (inHand_of_none hidle.running [])
          rw [meterages_call]
          exact ⟨List.nil_sublist _, List.nil_sublist _⟩

theorem run (h : Accounted S sent past records m) {steps : List SessionStep}
    (hknown : ∀ step ∈ steps, step.Known) :
    Accounted S (sent ++ trace (sessionStep S I) sentIn m steps)
      ((trace (sessionStep S I) centerCalls m steps).reverse ++ past)
      (records ++ trace (sessionStep S I) recordedIn m steps) (m.session S I steps) := by
  induction steps generalizing m sent past records with
  | nil =>
      rw [trace, trace, trace, List.append_nil, List.append_nil]
      exact h
  | cons step steps ih =>
      have hafter := ih (h.step (I := I) (hknown step List.mem_cons_self)) fun step hstep =>
        hknown step (List.mem_cons_of_mem _ hstep)
      rw [trace, trace, trace, List.reverse_append, List.append_assoc, ← List.append_assoc sent,
        ← List.append_assoc records]
      exact hafter

theorem create (S : PhaseSort) : Accounted S [] [] [] Monitoring.create := by
  have hdevices : ∀ d, Monitoring.create.devices.get d = none := fun _ => rfl
  refine ⟨sound_create S, ⟨placed_create, .create 0 1 2, ?_⟩, rfl, ⟨[], [], [], ?_, by simp,
    List.nil_sublist _, List.nil_sublist _, List.nil_sublist _, List.nil_sublist _,
    inHand_of_none rfl []⟩, ?_, by simp⟩
  · intro d device hget
    cases (hdevices d).symm.trans hget
  · exact World.Underway.empty.unposted (.of_net rfl rfl rfl)
  · intro d device hget
    cases (hdevices d).symm.trans hget

end Accounted
end Step

def sentDuring (S : PhaseSort) (I : Iteration) (steps : List SessionStep) :
    List (UInt64 × MessageMeterage) := trace (sessionStep S I) sentIn create steps

def recordedDuring (S : PhaseSort) (I : Iteration) (steps : List SessionStep) : List Record :=
  trace (sessionStep S I) recordedIn create steps

/-- The calls that the server makes to its command centre in a session, the last one first. -/
def historyOf (S : PhaseSort) (I : Iteration) (steps : List SessionStep) : History :=
  (trace (sessionStep S I) centerCalls create steps).reverse

/-- In every session, in which channels may go at any moment and the executors may change: the
command centre has processed meterages that were sent, by the devices they are attributed to, in
this order, each at most once; the replies that the devices have kept are answers to meterages of
their own, in this order, each at most once. -/
theorem session_integrity (S : PhaseSort) (I : Iteration) (steps : List SessionStep)
    (hknown : ∀ step ∈ steps, step.Known) :
    CommandCenter.after S (historyOf S I steps) =
        some (create.session S I steps).server.commandCenter ∧
      (meteragesIn (historyOf S I steps)).Sublist (sentDuring S I steps) ∧
      ((recordedDuring S I steps).map Record.answer).Sublist (answersIn S (historyOf S I steps)) ∧
      ∀ d device, (create.session S I steps).devices.get d = some device →
        device.messages = ((recordedDuring S I steps).filter (·.device = d)).map (·.reply) := by
  have h := (Accounted.create S).run (I := I) hknown
  rw [List.append_nil, List.nil_append, List.nil_append] at h
  obtain ⟨posted, handled, inHand, hunderway, -, hsent, hanswered, hprocessed, hrecorded, -⟩ := h.letters
  obtain ⟨pending, -, hconveys⟩ := hunderway.conveyed
  have hhandled := (List.sublist_append_left handled inHand).trans hconveys.handed_sublist
  refine ⟨h.history, ?_, ?_, h.messages⟩
  · exact (hprocessed.trans (hhandled.filterMap _)).trans hsent
  · exact (hrecorded.trans (hhandled.filterMap _)).trans hanswered

/-- The server takes up another executor before the second meterage gets to it. -/
def talk : List SessionStep :=
  greeting ++ [.call (.selectDeviceExecutor 0 "ROT3"), .call (.setMeterages 0 [5, 6]),
    .call (.startMeterageSending 0), .start, .handle, .call (.addExecutor (some ⟨3, dummyEncoderExecutor⟩)),
    .start, .handle, .call (.selectExecutor "Mirror"), .start, .handle]

theorem session_integrity_talk :
    sentDuring .stable .byEntry talk = [(7, ⟨0, 5⟩), (7, ⟨1, 6⟩)] ∧
      meteragesIn (historyOf .stable .byEntry talk) = [(7, ⟨0, 5⟩)] ∧
      recordedDuring .stable .byEntry talk = [⟨0, 7, .error .noSchedule⟩] ∧
      ((recordedDuring .stable .byEntry talk).map Record.answer).Sublist
        (answersIn .stable (historyOf .stable .byEntry talk)) := by
  have hknown : ∀ step ∈ talk, step.Known := by
    have hdummy : (⟨3, dummyEncoderExecutor⟩ : ExecutorObject).Known := ⟨.dummy, rfl⟩
    simpa [talk, greeting, SessionStep.Known, MonitoringCall.Known] using hdummy
  exact ⟨rfl, by decide +kernel, by decide +kernel, (session_integrity .stable .byEntry talk hknown).2.2.1⟩

end Monitoring
end DeviceMonitoring
