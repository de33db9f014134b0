import DeviceMonitoring.CenterReplies
import DeviceMonitoring.Session

/-! What the order of the phases can change. `std::sort` leaves a choice among the phases
that begin together, so an answer depends on it only where two of them are current. -/
namespace DeviceMonitoring

/-- A phase that has begun, and none has begun after it. -/
structure Current (schedule : List Phase) (timeStamp : UInt64) (phase : Phase) : Prop where
  member : phase ∈ schedule
  begun : phase.timeStamp ≤ timeStamp
  greatest : ∀ other ∈ schedule, other.timeStamp ≤ timeStamp → other.timeStamp ≤ phase.timeStamp

namespace Current
variable {schedule : List Phase} {timeStamp : UInt64} {p q : Phase}

theorem together (hp : Current schedule timeStamp p) (hq : Current schedule timeStamp q) :
    p.timeStamp = q.timeStamp :=
  UInt64.le_antisymm (hq.greatest p hp.member hp.begun) (hp.greatest q hq.member hq.begun)

theorem of_latest (S : PhaseSort) (h : Cursor.latest (due timeStamp) (S.sort schedule) = some p) :
    Current schedule timeStamp p where
  member := S.mem_sort.mp (Cursor.latest_mem _ h)
  begun := by simpa [due] using Cursor.latest_due _ h
  greatest other hother hbegun :=
    Cursor.latest_greatest _ (S.sorted schedule) (fun a => UInt64.le_refl a.timeStamp)
      (S.downward timeStamp schedule) h (S.mem_sort.mpr hother) (by simpa [due] using hbegun)

theorem latest (S : PhaseSort) (h : Current schedule timeStamp p) :
    ∃ q, Cursor.latest (due timeStamp) (S.sort schedule) = some q := by
  refine Option.ne_none_iff_exists'.mp ?_
  intro hnone
  have hnot := (Cursor.latest_none _ (S.downward timeStamp schedule)).mp hnone p
    (S.mem_sort.mpr h.member)
  rw [due, decide_eq_false_iff_not] at hnot
  exact hnot h.begun

end Current

/-- Ordered by time stamp and, among equals, by value. -/
def Before (R : UInt8 → UInt8 → Prop) (p q : Phase) : Prop :=
  p.timeStamp < q.timeStamp ∨ p.timeStamp = q.timeStamp ∧ R p.value q.value

section Before
variable (R : UInt8 → UInt8 → Prop)

instance [DecidableRel R] : DecidableRel (Before R) := fun _ _ => inferInstanceAs (Decidable (_ ∨ _))

theorem Before.le {p q : Phase} (h : Before R p q) : p.timeStamp ≤ q.timeStamp := by
  rcases h with h | ⟨h, -⟩
  · exact UInt64.le_of_lt h
  · exact UInt64.le_of_eq h

instance [IsTrans UInt8 R] : IsTrans Phase (Before R) where
  trans p q r hpq hqr := by
    rcases hpq with hpq | ⟨hpq, hv⟩
    · exact .inl (UInt64.lt_of_lt_of_le hpq hqr.le)
    · rcases hqr with hqr | ⟨hqr, hv'⟩
      · exact .inl (hpq ▸ hqr)
      · exact .inr ⟨hpq.trans hqr, IsTrans.trans _ _ _ hv hv'⟩

instance [Std.Total R] : Std.Total (Before R) where
  total p q := by
    by_cases h : p.timeStamp = q.timeStamp
    · rcases Std.Total.total (r := R) p.value q.value with hv | hv
      · exact .inl (.inr ⟨h, hv⟩)
      · exact .inr (.inr ⟨h.symm, hv⟩)
    · rcases UInt64.le_total p.timeStamp q.timeStamp with hle | hle
      · exact .inl (.inl (UInt64.lt_of_le_of_ne hle h))
      · exact .inr (.inl (UInt64.lt_of_le_of_ne hle (Ne.symm h)))

/-- An implementation of `std::sort` that orders equals by value. -/
def PhaseSort.byValue [DecidableRel R] [IsTrans UInt8 R] [Std.Total R] : PhaseSort where
  sort l := l.insertionSort (Before R)
  perm l := List.perm_insertionSort _ l
  sorted l := (List.pairwise_insertionSort (Before R) l).imp (Before.le R)

/-- It finds the extreme value among the phases current at the time. -/
theorem PhaseSort.latest_byValue [DecidableRel R] [IsTrans UInt8 R] [Std.Total R]
    {schedule : List Phase} {timeStamp : UInt64} {p q : Phase} (hrefl : ∀ v, R v v)
    (h : Cursor.latest (due timeStamp) ((byValue R).sort schedule) = some q)
    (hp : Current schedule timeStamp p) : R p.value q.value := by
  have hsorted : ((byValue R).sort schedule).Pairwise (Before R) :=
    List.pairwise_insertionSort (Before R) schedule
  have hbefore : Before R p q :=
    Cursor.latest_greatest _ hsorted
      (fun a => .inr ⟨rfl, hrefl a.value⟩) ((byValue R).downward timeStamp schedule) h
      ((byValue R).mem_sort.mpr hp.member) (by simpa [due] using hp.begun)
  rcases hbefore with hlt | ⟨-, hv⟩
  · have hsame := hp.together (.of_latest (byValue R) h)
    rw [hsame] at hlt
    exact absurd hlt (UInt64.lt_irrefl _)
  · exact hv

end Before

instance ascending_trans : IsTrans UInt8 (· ≤ ·) := ⟨fun _ _ _ => UInt8.le_trans⟩

instance ascending_total : Std.Total (α := UInt8) (· ≤ ·) := ⟨UInt8.le_total⟩

instance descending_trans : IsTrans UInt8 (fun v w => w ≤ v) := ⟨fun _ _ _ h h' => UInt8.le_trans h' h⟩

instance descending_total : Std.Total (α := UInt8) (fun v w => w ≤ v) := ⟨fun v w => UInt8.le_total w v⟩

theorem command_injective {p q : Phase} {meterage : UInt8}
    (h : (CommandCenter.command p meterage).toInt8 = (CommandCenter.command q meterage).toInt8) :
    p.value = q.value := by
  have hmod : (CommandCenter.command p meterage).bmod 256 =
      (CommandCenter.command q meterage).bmod 256 := by
    have hreads : ∀ difference : Int, difference.toInt8.toInt = difference.bmod 256 := fun _ =>
      Int8.toInt_ofInt
    rw [← hreads, ← hreads, h]
  have hp := p.value.toNat_lt
  have hq := q.value.toNat_lt
  apply UInt8.toNat.inj
  simp only [CommandCenter.command, Int.bmod] at hmod
  omega

/-- An answer is the same under every implementation of `std::sort` exactly when the
meterage is obsolete or no two different phases are current at its time stamp. -/
theorem replies_determined_iff (past : History) (deviceId : UInt64) (meterage : MessageMeterage) :
    (∀ S S' : PhaseSort, callbacks S past deviceId meterage = callbacks S' past deviceId meterage) ↔
      isObsolete deviceId meterage.timeStamp past = true ∨
        ∀ p q, Current (latestSchedule deviceId past) meterage.timeStamp p →
          Current (latestSchedule deviceId past) meterage.timeStamp q → p = q := by
  simp only [callbacks_eq, reply, verdict]
  by_cases hobs : isObsolete deviceId meterage.timeStamp past = true
  · simp [hobs]
  constructor
  · intro h
    refine .inr fun p q hp hq => ?_
    have hnonempty : ¬ (latestSchedule deviceId past).isEmpty = true := by
      intro hnil
      rw [List.isEmpty_iff.mp hnil] at hp
      cases hp.member
    obtain ⟨a, ha⟩ := hp.latest (.byValue (· ≤ ·))
    obtain ⟨b, hb⟩ := hp.latest (.byValue fun v w => w ≤ v)
    -- the greatest and the least value among the phases current at the time
    have hsame := h (.byValue (· ≤ ·)) (.byValue fun v w => w ≤ v)
    simp only [if_neg hobs, if_neg hnonempty, ha, hb, replyTo, Option.some.injEq, List.cons.injEq,
      Prod.mk.injEq, Message.command.injEq, true_and, and_true] at hsame
    have hab : a.value = b.value := command_injective hsame
    have hle := fun {r} => PhaseSort.latest_byValue (· ≤ ·) UInt8.le_refl ha (p := r)
    have hge := fun {r} => PhaseSort.latest_byValue (fun v w => w ≤ v) UInt8.le_refl hb (p := r)
    have hpq : p.value = q.value :=
      UInt8.le_antisymm (UInt8.le_trans (hle hp) (hab ▸ hge hq))
        (UInt8.le_trans (hle hq) (hab ▸ hge hp))
    have htogether := hp.together hq
    cases p
    cases q
    cases hpq
    cases htogether
    rfl
  · rintro (hyes | hone) S S'
    · exact absurd hyes hobs
    · cases hl : Cursor.latest (due meterage.timeStamp) (S.sort (latestSchedule deviceId past)) with
      | none =>
          cases hl' : Cursor.latest (due meterage.timeStamp)
              (S'.sort (latestSchedule deviceId past)) with
          | none => rfl
          | some q =>
              obtain ⟨p, hp⟩ := (Current.of_latest S' hl').latest S
              rw [hl] at hp
              cases hp
      | some p =>
          have hp := Current.of_latest S hl
          obtain ⟨q, hq⟩ := hp.latest S'
          rw [hq, hone p q hp (.of_latest S' hq)]

/-- Phases that begin together are the same phase. -/
def Unambiguous (schedule : List Phase) : Prop :=
  ∀ p ∈ schedule, ∀ q ∈ schedule, p.timeStamp = q.timeStamp → p = q

instance : DecidablePred Unambiguous := fun schedule =>
  inferInstanceAs (Decidable (∀ p ∈ schedule, ∀ q ∈ schedule, p.timeStamp = q.timeStamp → p = q))

/-- Whatever the implementation and the order of the phases, the result is one. -/
theorem PhaseSort.sort_eq (S S' : PhaseSort) {l l' : List Phase} (h : Unambiguous l)
    (hperm : l'.Perm l) : S.sort l = S'.sort l' := by
  refine List.Perm.eq_of_pairwise ?_ (S.sorted l) (S'.sorted l')
    ((S.perm l).trans ((S'.perm l').trans hperm).symm)
  intro p q hp hq hpq hqp
  have hq' : q ∈ l := hperm.mem_iff.mp (S'.mem_sort.mp hq)
  exact h p (S.mem_sort.mp hp) q hq' (UInt64.le_antisymm hpq hqp)

namespace Monitoring

/-- The same step, but a schedule may list its phases in another order. -/
inductive Reordered : SessionStep → SessionStep → Prop
  | same (step : SessionStep)
      (other : ∀ schedule, step ≠ .call (.setDeviceWorkSchedule schedule)) : Reordered step step
  | schedule {deviceId : UInt64} {phases phases' : List Phase} (perm : phases'.Perm phases)
      (unambiguous : Unambiguous phases) :
      Reordered (.call (.setDeviceWorkSchedule ⟨deviceId, phases⟩))
        (.call (.setDeviceWorkSchedule ⟨deviceId, phases'⟩))

section
variable {S S' : PhaseSort} {I : Iteration}

theorem setDeviceWorkSchedule_reordered (S S' : PhaseSort) {deviceId : UInt64}
    {phases phases' : List Phase} (hperm : phases'.Perm phases) (hone : Unambiguous phases)
    (server : DeviceMonitoringServer) :
    server.setDeviceWorkSchedule S ⟨deviceId, phases⟩ =
      server.setDeviceWorkSchedule S' ⟨deviceId, phases'⟩ := by
  unfold DeviceMonitoringServer.setDeviceWorkSchedule CommandCenter.setSchedule
  rw [PhaseSort.sort_eq S S' hone hperm]

/-- Only `set_schedule` sorts. -/
theorem call_sort (m : Monitoring) {call : MonitoringCall}
    (h : ∀ schedule, call ≠ .setDeviceWorkSchedule schedule) : m.call S I call = m.call S' I call := by
  cases call with
  | setDeviceWorkSchedule schedule => exact absurd rfl (h schedule)
  | _ => rfl

theorem sessionStep_reordered (m : Monitoring) {step step' : SessionStep} (h : Reordered step step') :
    m.sessionStep S I step = m.sessionStep S' I step' := by
  cases h with
  | same _ other =>
      cases step with
      | call call =>
          have hcall : m.call S I call = m.call S' I call :=
            m.call_sort fun schedule heq => other schedule (congrArg _ heq)
          simp only [sessionStep, hcall]
      | start => rfl
      | handle => rfl
  | schedule perm unambiguous =>
      simp only [sessionStep, call, setDeviceWorkSchedule_reordered S S' perm unambiguous]

end

/-- In a session of unambiguous schedules nothing depends on the order in which they list
their phases, nor on the implementation of `std::sort`. -/
theorem sessions_ignore_phase_order (S S' : PhaseSort) (I : Iteration) (m : Monitoring)
    {steps steps' : List SessionStep} (h : List.Forall₂ Reordered steps steps') :
    m.session S I steps = m.session S' I steps' := by
  induction h generalizing m with
  | nil => rfl
  | cons hstep _ ih =>
      exact (congrArg (fun m' => session S I m' _) (m.sessionStep_reordered hstep)).trans (ih _)

/-- The device is connected, sends its only meterage and is answered. -/
def asking : List SessionStep :=
  [.call .newDevice, .call (.selectDeviceExecutor 0 "ROT3"), .call (.setMeterages 0 [4]),
    .call (.bind 0 7), .call (.listen 1), .call (.selectExecutor "ROT3"), .call (.connectToServer 0 1),
    .start, .handle, .handle, .call (.startMeterageSending 0), .start, .handle, .start, .handle]

theorem sessions_ignore_phase_order_swap :
    create.session .stable .byEntry
        (.call (.setDeviceWorkSchedule ⟨7, [⟨5, 30⟩, ⟨0, 10⟩]⟩) :: asking) =
      create.session (.byValue fun v w => w ≤ v) .byEntry
        (.call (.setDeviceWorkSchedule ⟨7, [⟨0, 10⟩, ⟨5, 30⟩]⟩) :: asking) ∧
    ((create.session .stable .byEntry
        (.call (.setDeviceWorkSchedule ⟨7, [⟨5, 30⟩, ⟨0, 10⟩]⟩) :: asking)).devices.get 0).map
      (·.messages) = some [.command 6] := by
  have hone : Unambiguous [⟨5, 30⟩, ⟨0, 10⟩] := by decide
  have hasking : ∀ step ∈ asking, Reordered step step := by
    intro step hmem
    refine .same step ?_
    rintro schedule rfl
    simp [asking] at hmem
  refine ⟨?_, by decide +kernel⟩
  exact sessions_ignore_phase_order _ _ _ _
    (.cons (.schedule (by decide) hone) (List.forall₂_same.mpr hasking))

end Monitoring
end DeviceMonitoring
