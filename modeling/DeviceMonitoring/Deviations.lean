import DeviceMonitoring.CenterStatistics
import DeviceMonitoring.Library.RootMeanSquare
import DeviceMonitoring.Schedules

/-! What can stand in the statistics of a device: entries in the order of time, each for a
phase that was planned and had begun, with a deviation between the bounds of its run. -/
namespace DeviceMonitoring
open MaximalRuns RootMeanSquare

theorem mem_latestSchedule {deviceId : UInt64} {past : History} {p : Phase}
    (h : p ∈ latestSchedule deviceId past) :
    ∃ schedule, .setSchedule ⟨deviceId, schedule⟩ ∈ past ∧ p ∈ schedule := by
  induction past with
  | nil => cases h
  | cons call past ih =>
      have hlater : p ∈ latestSchedule deviceId past →
          ∃ schedule, .setSchedule ⟨deviceId, schedule⟩ ∈ call :: past ∧ p ∈ schedule := by
        intro hp
        obtain ⟨schedule, hsent, hmem⟩ := ih hp
        exact ⟨schedule, List.mem_cons_of_mem _ hsent, hmem⟩
      cases call with
      | setSchedule schedule =>
          rw [latestSchedule] at h
          split at h
          next hdevice =>
            subst hdevice
            exact ⟨schedule.schedule, List.mem_cons_self, h⟩
          · exact hlater h
      | processMeterage other meterage => exact hlater h
      | deviationStats other => exact hlater h

theorem verdict_ok {S : PhaseSort} {past : History} {deviceId : UInt64} {meterage : MessageMeterage}
    {p : Phase} (h : verdict S past deviceId meterage = .ok p) :
    isObsolete deviceId meterage.timeStamp past = false ∧
      Current (latestSchedule deviceId past) meterage.timeStamp p := by
  rw [verdict] at h
  split at h
  · cases h
  next hfresh =>
    split at h
    · cases h
    · split at h
      · cases h
      next found hlatest =>
        cases h
        exact ⟨Bool.not_eq_true _ ▸ hfresh, .of_latest S hlatest⟩

/-- A sample is a meterage sent after its phase was planned and had begun. -/
structure Taken (past : History) (deviceId : UInt64) (sample : Sample) : Prop where
  sent : .processMeterage deviceId sample.meterage ∈ past
  planned : ∃ schedule, .setSchedule ⟨deviceId, schedule⟩ ∈ past ∧ sample.phase ∈ schedule
  begun : sample.phase.timeStamp ≤ sample.meterage.timeStamp

theorem Taken.later {past : History} {deviceId : UInt64} {sample : Sample}
    (h : Taken past deviceId sample) (call : CenterCall) : Taken (call :: past) deviceId sample where
  sent := List.mem_cons_of_mem _ h.sent
  planned := h.planned.imp fun _ hsent => ⟨List.mem_cons_of_mem _ hsent.1, hsent.2⟩
  begun := h.begun

/-- In the order of time, and taken from the calls. -/
structure Chronicle (past : History) (deviceId : UInt64) (taken : List Sample) : Prop where
  increasing : taken.Pairwise (fun a b => a.meterage.timeStamp < b.meterage.timeStamp)
  taken : ∀ sample ∈ taken, Taken past deviceId sample

namespace Chronicle
variable {past : History} {deviceId : UInt64} {taken : List Sample}

theorem later (h : Chronicle past deviceId taken) (call : CenterCall) :
    Chronicle (call :: past) deviceId taken :=
  ⟨h.increasing, fun sample hs => (h.taken sample hs).later call⟩

/-- A meterage answered with a command comes after all earlier ones. -/
theorem append (h : Chronicle past deviceId taken) {S : PhaseSort} {meterage : MessageMeterage}
    {p : Phase} (hok : verdict S past deviceId meterage = .ok p) :
    Chronicle (.processMeterage deviceId meterage :: past) deviceId (taken ++ [⟨p, meterage⟩]) := by
  obtain ⟨hfresh, hcurrent⟩ := verdict_ok hok
  refine ⟨List.pairwise_append.mpr ⟨h.increasing, List.pairwise_singleton _ _, ?_⟩, ?_⟩
  · intro a ha b hb
    rw [List.mem_singleton.mp hb]
    rw [Bool.eq_false_iff, ne_eq, isObsolete_iff] at hfresh
    exact UInt64.not_le.mp fun hle => hfresh ⟨a.meterage, (h.taken a ha).sent, hle⟩
  · intro sample hs
    rcases List.mem_append.mp hs with hs | hs
    · exact (h.taken sample hs).later _
    · rw [List.mem_singleton.mp hs]
      obtain ⟨schedule, hsent, hmem⟩ := mem_latestSchedule hcurrent.member
      exact ⟨List.mem_cons_self, ⟨schedule, List.mem_cons_of_mem _ hsent, hmem⟩, hcurrent.begun⟩

end Chronicle

theorem chronicle_samples (S : PhaseSort) (deviceId : UInt64) (past : History) :
    Chronicle past deviceId (samples S deviceId past) := by
  induction past with
  | nil => exact ⟨.nil, by simp [samples]⟩
  | cons call past ih =>
      cases call with
      | setSchedule schedule => exact ih.later _
      | deviationStats other => exact ih.later _
      | processMeterage other meterage =>
          rw [samples]
          split
          next hdevice =>
            subst hdevice
            split
            next p hok => exact ih.append hok
            · exact ih.later _
          · exact ih.later _

/-- How far the meterage is from the plan. -/
def difference (sample : Sample) : ℝ :=
  (sample.phase.value.toNat : ℝ) - sample.meterage.meterage.toNat

theorem difference_le (sample : Sample) : |difference sample| ≤ 255 := by
  have hp : (sample.phase.value.toNat : ℝ) ≤ 255 := by
    exact_mod_cast Nat.le_of_lt_succ sample.phase.value.toNat_lt
  have hm : (sample.meterage.meterage.toNat : ℝ) ≤ 255 := by
    exact_mod_cast Nat.le_of_lt_succ sample.meterage.meterage.toNat_lt
  have hp' : (0 : ℝ) ≤ sample.phase.value.toNat := Nat.cast_nonneg _
  have hm' : (0 : ℝ) ≤ sample.meterage.meterage.toNat := Nat.cast_nonneg _
  rw [difference, abs_le]
  constructor <;> linarith

theorem difference_eq_zero {sample : Sample} :
    difference sample = 0 ↔ sample.meterage.meterage = sample.phase.value := by
  rw [difference, sub_eq_zero, Nat.cast_inj, UInt8.toNat_inj]
  exact eq_comm

theorem IsEntry.deviation_eq {run : List Sample} {e : DeviationStats} (h : IsEntry run e) :
    e.deviation.value = rms (run.map difference) := by
  rw [h.deviation, rms, List.map_map, List.length_map]
  rfl

/-- The deviation of an entry against the differences of its run. -/
structure Deviates (run : List Sample) (deviation : ℝ) : Prop where
  nonneg : 0 ≤ deviation
  le_byte : deviation ≤ 255
  lower : ∀ b ≥ 0, (∀ sample ∈ run, b ≤ |difference sample|) → b ≤ deviation
  upper : ∀ b ≥ 0, (∀ sample ∈ run, |difference sample| ≤ b) → deviation ≤ b
  exact_iff : deviation = 0 ↔ ∀ sample ∈ run, sample.meterage.meterage = sample.phase.value

theorem IsEntry.deviates {run : List Sample} {e : DeviationStats} (h : IsEntry run e) :
    Deviates run e.deviation.value := by
  have hne : run.map difference ≠ [] := by simpa using h.nonempty
  rw [h.deviation_eq]
  exact
    { nonneg := Real.sqrt_nonneg _
      le_byte := rms_le (by norm_num) (by simpa using fun sample _ => difference_le sample)
      lower b hb hrun := le_rms hne hb (by simpa using hrun)
      upper b hb hrun := rms_le hb (by simpa using hrun)
      exact_iff := by simp [rms_eq_zero hne, difference_eq_zero] }

/-- The entries of a device, against the calls made so far. -/
structure WellFormed (past : History) (deviceId : UInt64) (stats : List DeviationStats) : Prop where
  increasing : stats.Pairwise (fun e e' => e.firstTimeStamp < e'.firstTimeStamp)
  changing : stats.IsChain (fun e e' => e.phase ≠ e'.phase)
  sent : ∀ e ∈ stats, ∃ meterage, .processMeterage deviceId meterage ∈ past ∧
    meterage.timeStamp = e.firstTimeStamp
  planned : ∀ e ∈ stats, ∃ schedule, .setSchedule ⟨deviceId, schedule⟩ ∈ past ∧ e.phase ∈ schedule
  begun : ∀ e ∈ stats, e.phase.timeStamp ≤ e.firstTimeStamp

/-- An entry speaks for the first sample of its run. -/
theorem entryOf_first {run : List Sample} (h : run ≠ []) :
    ∃ sample ∈ run, (entryOf run).phase = sample.phase ∧
      (entryOf run).firstTimeStamp = sample.meterage.timeStamp := by
  cases run with
  | nil => exact absurd rfl h
  | cons sample run => exact ⟨sample, List.mem_cons_self, rfl, rfl⟩

theorem Chronicle.wellFormed {past : History} {deviceId : UInt64} {taken : List Sample}
    (h : Chronicle past deviceId taken) :
    WellFormed past deviceId ((runs Sample.phase taken).map entryOf) := by
  have hfirst : ∀ e ∈ (runs Sample.phase taken).map entryOf, ∃ sample ∈ taken,
      e.phase = sample.phase ∧ e.firstTimeStamp = sample.meterage.timeStamp := by
    intro e he
    obtain ⟨run, hrun, rfl⟩ := List.mem_map.mp he
    obtain ⟨sample, hs, hfacts⟩ := entryOf_first (ne_nil_of_mem_runs Sample.phase hrun)
    exact ⟨sample, mem_of_mem_runs Sample.phase hrun hs, hfacts⟩
  refine ⟨List.pairwise_map.mpr ?_, (List.isChain_map _).mpr ?_, ?_, ?_, ?_⟩
  · refine (pairwise_runs Sample.phase h.increasing).imp_of_mem ?_
    intro run run' hrun hrun' hlt
    obtain ⟨a, ha, -, hfa⟩ := entryOf_first (ne_nil_of_mem_runs Sample.phase hrun)
    obtain ⟨b, hb, -, hfb⟩ := entryOf_first (ne_nil_of_mem_runs Sample.phase hrun')
    rw [hfa, hfb]
    exact hlt a ha b hb
  · refine (isChain_runs Sample.phase taken).imp_of_mem_imp ?_
    intro run run' hrun hrun' hdiffer
    obtain ⟨a, ha, hpa, -⟩ := entryOf_first (ne_nil_of_mem_runs Sample.phase hrun)
    obtain ⟨b, hb, hpb, -⟩ := entryOf_first (ne_nil_of_mem_runs Sample.phase hrun')
    rw [hpa, hpb]
    exact hdiffer a ha b hb
  · intro e he
    obtain ⟨sample, hs, -, hf⟩ := hfirst e he
    exact ⟨sample.meterage, (h.taken sample hs).sent, hf.symm⟩
  · intro e he
    obtain ⟨sample, hs, hp, -⟩ := hfirst e he
    rw [hp]
    exact (h.taken sample hs).planned
  · intro e he
    obtain ⟨sample, hs, hp, hf⟩ := hfirst e he
    rw [hp, hf]
    exact (h.taken sample hs).begun

/-- The statistics of every device after every sequence of calls. -/
theorem statistics_wellFormed (S : PhaseSort) (past : History) (deviceId : UInt64) :
    ∃ stats, statistics S past deviceId = some stats ∧ WellFormed past deviceId stats ∧
      List.Forall₂ (fun run e => Deviates run e.deviation.value)
        (runs Sample.phase (samples S deviceId past)) stats := by
  refine ⟨_, statistics_eq S past deviceId, (chronicle_samples S deviceId past).wellFormed, ?_⟩
  rw [List.forall₂_map_right_iff, List.forall₂_same]
  exact fun run hrun => (isEntry_entryOf hrun).deviates

end DeviceMonitoring
