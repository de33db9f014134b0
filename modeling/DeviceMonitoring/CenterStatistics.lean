import DeviceMonitoring.CenterReplies
import DeviceMonitoring.Library.MaximalRuns
import Mathlib.Analysis.Real.Sqrt

/-! The statistics of a command centre are those of the maximal runs of samples judged
against one phase. `square_diffs` always holds the samples of the last run. -/
namespace DeviceMonitoring
open MaximalRuns

noncomputable def SquareRoot.value (r : SquareRoot) : ℝ := Real.sqrt r.radicand

def squareDiff (sample : Sample) : Int :=
  let command := CommandCenter.command sample.phase sample.meterage.meterage
  command * command

/-- The mean of the squared differences of a run. -/
def meanSquare (run : List Sample) : Rat := ((run.map squareDiff).sum : Rat) / (run.length : Rat)

/-- The entry kept for a run; no run is empty. -/
def entryOf : List Sample → DeviationStats
  | [] => ⟨{}, 0, ⟨0⟩⟩
  | sample :: run => ⟨sample.phase, sample.meterage.timeStamp, ⟨meanSquare (sample :: run)⟩⟩

theorem entryOf_concat {run : List Sample} (h : run ≠ []) (sample : Sample) :
    entryOf (run ++ [sample]) = { entryOf run with deviation := ⟨meanSquare (run ++ [sample])⟩ } := by
  cases run with
  | nil => exact absurd rfl h
  | cons first run => rfl

theorem entryOf_phase {taken run : List Sample} (h : run ∈ runs Sample.phase taken) {sample : Sample}
    (hs : sample ∈ run) : (entryOf run).phase = sample.phase := by
  cases run with
  | nil => cases hs
  | cons first run => exact key_eq_of_mem_runs Sample.phase h List.mem_cons_self hs

section Record
variable {statsInfo : StatsInfo} (phase : Phase) (timeStamp : UInt64) (command : Int)

/-- `record` for a phase other than that of the last entry. -/
theorem record_opens (h : ∀ e ∈ statsInfo.deviationStats.getLast?, e.phase ≠ phase) :
    CommandCenter.record statsInfo phase timeStamp command =
      ⟨[command * command], statsInfo.deviationStats ++
        [⟨phase, timeStamp, ⟨((([command * command].sum : Int) : Rat) / ((1 : Nat) : Rat))⟩⟩]⟩ := by
  have hopen : statsInfo.deviationStats.getLast?.all (fun last =>
      decide (last.phase.timeStamp ≠ phase.timeStamp ∨ last.phase.value ≠ phase.value)) = true := by
    cases hl : statsInfo.deviationStats.getLast? with
    | none => rfl
    | some e =>
        have hne := h e hl
        have hor : e.phase.timeStamp ≠ phase.timeStamp ∨ e.phase.value ≠ phase.value := by
          by_contra hboth
          push Not at hboth
          exact hne (by
            cases hp : e.phase
            cases phase
            simp_all)
        exact decide_eq_true hor
  rw [CommandCenter.record, if_pos hopen]
  simp [List.modifyLast_concat]

/-- `record` for the phase of the last entry. -/
theorem record_continues {entries : List DeviationStats} {e : DeviationStats}
    (h : statsInfo.deviationStats = entries ++ [e]) (hp : e.phase = phase) :
    CommandCenter.record statsInfo phase timeStamp command =
      ⟨statsInfo.squareDiffs ++ [command * command], entries ++ [{ e with
        deviation := ⟨((statsInfo.squareDiffs ++ [command * command]).sum : Rat) /
          ((statsInfo.squareDiffs ++ [command * command]).length : Rat)⟩ }]⟩ := by
  have hopen : ¬ statsInfo.deviationStats.getLast?.all (fun last =>
      decide (last.phase.timeStamp ≠ phase.timeStamp ∨ last.phase.value ≠ phase.value)) = true := by
    simp [h, hp]
  rw [CommandCenter.record, if_neg hopen, h, List.modifyLast_concat]

end Record

/-- The two accumulators agree with the samples taken so far. -/
structure Accounts (taken : List Sample) (statsInfo : StatsInfo) : Prop where
  entries : statsInfo.deviationStats = (runs Sample.phase taken).map entryOf
  diffs : ∀ rest run, runs Sample.phase taken = rest ++ [run] →
    statsInfo.squareDiffs = run.map squareDiff

namespace Accounts
variable {taken : List Sample} {statsInfo : StatsInfo} {sample : Sample}

theorem last_phase (h : Accounts taken statsInfo) {e : DeviationStats}
    (he : e ∈ statsInfo.deviationStats.getLast?) : ∃ last ∈ taken.getLast?, e.phase = last.phase := by
  rw [h.entries, List.getLast?_map, Option.mem_map] at he
  obtain ⟨run, hrun, rfl⟩ := he
  have hmem := List.mem_of_getLast? hrun
  obtain ⟨rest, hrest⟩ := List.getLast?_eq_some_iff.mp hrun
  have hlast := List.getLast?_eq_some_getLast (ne_nil_of_mem_runs Sample.phase hmem)
  refine ⟨_, ?_, entryOf_phase hmem (List.mem_of_getLast? hlast)⟩
  rw [getLast?_of_runs Sample.phase hrest, hlast]
  rfl

theorem opens (h : Accounts taken statsInfo) (hnew : ∀ y ∈ taken.getLast?, y.phase ≠ sample.phase)
    (hruns : runs Sample.phase (taken ++ [sample]) = runs Sample.phase taken ++ [[sample]]) :
    Accounts (taken ++ [sample]) (recordVerdict statsInfo sample.meterage (.ok sample.phase)) := by
  have hopen : ∀ e ∈ statsInfo.deviationStats.getLast?, e.phase ≠ sample.phase := by
    intro e he
    obtain ⟨last, hlast, hp⟩ := h.last_phase he
    rw [hp]
    exact hnew last hlast
  rw [recordVerdict, record_opens _ _ _ hopen]
  refine ⟨?_, ?_⟩
  · rw [hruns, List.map_append, h.entries]
    rfl
  · intro rest run hrest
    rw [hruns] at hrest
    obtain ⟨-, hrun⟩ := List.append_inj' hrest rfl
    rw [← List.singleton_injective hrun]
    rfl

theorem continues (h : Accounts taken statsInfo) {rest : List (List Sample)} {run : List Sample}
    {last : Sample} (hrest : runs Sample.phase taken = rest ++ [run])
    (hlast : run.getLast? = some last) (hsame : last.phase = sample.phase)
    (hruns : runs Sample.phase (taken ++ [sample]) = rest ++ [run ++ [sample]]) :
    Accounts (taken ++ [sample]) (recordVerdict statsInfo sample.meterage (.ok sample.phase)) := by
  have hmem : run ∈ runs Sample.phase taken := by simp [hrest]
  have hentries : statsInfo.deviationStats = rest.map entryOf ++ [entryOf run] := by
    rw [h.entries, hrest, List.map_append]
    rfl
  have hphase : (entryOf run).phase = sample.phase := by
    rw [entryOf_phase hmem (List.mem_of_getLast? hlast), hsame]
  have hdiffs : statsInfo.squareDiffs ++ [squareDiff sample] = (run ++ [sample]).map squareDiff := by
    rw [h.diffs rest run hrest, List.map_append]
    rfl
  rw [squareDiff] at hdiffs
  rw [recordVerdict, record_continues _ _ _ hentries hphase, hdiffs, List.length_map]
  refine ⟨?_, ?_⟩
  · rw [hruns, List.map_append (f := entryOf), List.map_singleton,
      entryOf_concat (ne_nil_of_mem_runs Sample.phase hmem)]
    rfl
  · intro rest' run' hrest'
    rw [hruns] at hrest'
    obtain ⟨-, hrun⟩ := List.append_inj' hrest' rfl
    rw [← List.singleton_injective hrun]

end Accounts

theorem ledger_accounts (taken : List Sample) : Accounts taken (ledger taken) := by
  induction taken using List.reverseRecOn with
  | nil => exact ⟨rfl, by simp⟩
  | append_singleton taken sample ih =>
      rw [ledger_concat]
      rcases runs_concat Sample.phase taken sample with
        ⟨hnew, hruns⟩ | ⟨rest, run, last, hrest, hlast, hsame, hruns⟩
      · exact ih.opens hnew hruns
      · exact ih.continues hrest hlast hsame hruns

/-- The statistics of a device after a sequence of calls. -/
def statistics (S : PhaseSort) (past : History) (deviceId : UInt64) : Option (List DeviationStats) :=
  (CommandCenter.after S past).map fun c => (c.deviationStats deviceId).1

theorem statistics_eq (S : PhaseSort) (past : History) (deviceId : UInt64) :
    statistics S past deviceId =
      some ((runs Sample.phase (samples S deviceId past)).map entryOf) := by
  obtain ⟨c, hc, hagrees⟩ := after_agrees S past
  rw [statistics, hc, Option.map_some, ← (ledger_accounts (samples S deviceId past)).entries,
    ← (hagrees deviceId).2]
  rfl

/-- The meterages of a device answered with a command, and the command, as the
command centre answered them; the oldest one first. -/
def answered (S : PhaseSort) (deviceId : UInt64) : History → List (MessageMeterage × Int8)
  | [] => []
  | .processMeterage other meterage :: past =>
      if other = deviceId then
        match callbacks S past deviceId meterage with
        | some [(_, .command command)] => answered S deviceId past ++ [(meterage, command)]
        | _ => answered S deviceId past
      else answered S deviceId past
  | _ :: past => answered S deviceId past

theorem answered_eq (S : PhaseSort) (deviceId : UInt64) (past : History) :
    answered S deviceId past = (samples S deviceId past).map fun sample =>
      (sample.meterage, (CommandCenter.command sample.phase sample.meterage.meterage).toInt8) := by
  induction past with
  | nil => rfl
  | cons call past ih =>
      cases call with
      | setSchedule schedule => exact ih
      | deviationStats other => exact ih
      | processMeterage other meterage =>
          by_cases h : other = deviceId
          · rw [answered, samples, if_pos h, if_pos h, callbacks_eq, reply]
            cases verdict S past deviceId meterage with
            | error e => exact ih
            | ok phase => simp only [replyTo, ih, List.map_append, List.map_singleton]
          · rw [answered, samples, if_neg h, if_neg h, ih]

theorem samples_grow (S : PhaseSort) (deviceId : UInt64) (newer older : History) :
    ∃ more, samples S deviceId (newer ++ older) = samples S deviceId older ++ more := by
  induction newer with
  | nil => exact ⟨[], (List.append_nil _).symm⟩
  | cons call newer ih =>
      obtain ⟨more, hmore⟩ := ih
      cases call with
      | setSchedule schedule => exact ⟨more, hmore⟩
      | deviationStats other => exact ⟨more, hmore⟩
      | processMeterage other meterage =>
          rw [List.cons_append, samples, hmore]
          split
          · split
            · exact ⟨_, List.append_assoc _ _ _⟩
            · exact ⟨more, rfl⟩
          · exact ⟨more, rfl⟩

theorem samples_resend (S : PhaseSort) (deviceId other : UInt64) (newer older : History) :
    samples S deviceId (resend other newer older) = samples S deviceId (newer ++ older) := by
  induction newer with
  | nil => rfl
  | cons call newer ih =>
      cases call with
      | setSchedule schedule => exact ih
      | deviationStats d => exact ih
      | processMeterage d meterage =>
          have hv := verdict_congr S (latestSchedule_resend deviceId other newer older)
            (fun t => isObsolete_resend deviceId other t newer older) meterage
          rw [resend] at ih hv
          simp only [resend, List.cons_append, samples, hv, ih]

/-- The entry of a run: its phase, the time stamp of its first meterage, and the
square root of the mean squared difference over its meterages. -/
structure IsEntry (run : List Sample) (e : DeviationStats) : Prop where
  nonempty : run ≠ []
  phase : ∀ sample ∈ run, e.phase = sample.phase
  first : ∀ sample ∈ run.head?, e.firstTimeStamp = sample.meterage.timeStamp
  deviation : e.deviation.value = Real.sqrt ((run.map fun sample =>
    ((sample.phase.value.toNat : ℝ) - sample.meterage.meterage.toNat) ^ 2).sum / run.length)

theorem squareDiff_real (run : List Sample) :
    (((run.map squareDiff).sum : Int) : ℝ) = (run.map fun sample =>
      ((sample.phase.value.toNat : ℝ) - sample.meterage.meterage.toNat) ^ 2).sum := by
  induction run with
  | nil => simp
  | cons sample run ih =>
      simp only [List.map_cons, List.sum_cons, Int.cast_add, ih]
      simp [squareDiff, CommandCenter.command, pow_two]

theorem isEntry_entryOf {taken run : List Sample} (h : run ∈ runs Sample.phase taken) :
    IsEntry run (entryOf run) where
  nonempty := ne_nil_of_mem_runs Sample.phase h
  phase _ hs := entryOf_phase h hs
  first := by
    cases run with
    | nil => exact absurd rfl (ne_nil_of_mem_runs Sample.phase h)
    | cons sample run => simp [entryOf]
  deviation := by
    cases run with
    | nil => exact absurd rfl (ne_nil_of_mem_runs Sample.phase h)
    | cons sample run =>
        rw [← squareDiff_real, entryOf, SquareRoot.value, meanSquare, Rat.cast_div,
          Rat.cast_intCast, Rat.cast_natCast]

/-- There is one entry for each maximal run of samples with equal phases, in order;
the samples are the meterages answered with a command; closed entries never
change; the calls for other devices and a schedule sent once more change nothing. -/
theorem statistics_follow_history (S : PhaseSort) (past : History) (deviceId : UInt64) :
    (∃ stats, statistics S past deviceId = some stats ∧
      List.Forall₂ IsEntry (runs Sample.phase (samples S deviceId past)) stats ∧
      ∀ newer, ∃ stats', statistics S (newer ++ past) deviceId = some stats' ∧
        stats.dropLast <+: stats'.dropLast) ∧
    answered S deviceId past = (samples S deviceId past).map (fun sample =>
      (sample.meterage, (CommandCenter.command sample.phase sample.meterage.meterage).toInt8)) ∧
    statistics S (concerning deviceId past) deviceId = statistics S past deviceId ∧
    ∀ newer older other, statistics S (resend other newer older) deviceId =
      statistics S (newer ++ older) deviceId := by
  refine ⟨⟨_, statistics_eq S past deviceId, ?_, ?_⟩, answered_eq S deviceId past, ?_, ?_⟩
  · rw [List.forall₂_map_right_iff, List.forall₂_same]
    exact fun run hrun => isEntry_entryOf hrun
  · intro newer
    obtain ⟨more, hmore⟩ := samples_grow S deviceId newer past
    refine ⟨_, statistics_eq S (newer ++ past) deviceId, ?_⟩
    rw [hmore, ← List.map_dropLast, ← List.map_dropLast]
    exact (dropLast_runs_mono Sample.phase _ more).map entryOf
  · rw [statistics_eq, statistics_eq, samples_concerning]
  · intro newer older other
    rw [statistics_eq, statistics_eq, samples_resend]

end DeviceMonitoring
