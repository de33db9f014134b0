import DeviceMonitoring.Message
import DeviceMonitoring.Library.Cursor
import Mathlib.Data.List.ModifyLast
import Mathlib.Data.List.Sort
import Mathlib.Data.Rat.Defs
import Mathlib.Logic.Function.Basic

/-! `CommandCenter`. Deviations are exact: `sqrt` of a rational is kept as its
radicand. An access outside a vector has no result (`none`). -/
namespace DeviceMonitoring

structure Phase where
  timeStamp : UInt64 := 0
  value : UInt8 := 0
  deriving DecidableEq, Repr

structure DeviceWorkSchedule where
  deviceId : UInt64 := 0
  schedule : List Phase := []
  deriving DecidableEq, Repr

/-- The exact non-negative square root of a rational number. -/
structure SquareRoot where
  radicand : Rat
  deriving DecidableEq

structure DeviationStats where
  phase : Phase
  firstTimeStamp : UInt64
  deviation : SquareRoot
  deriving DecidableEq

structure ScheduleInfo where
  phases : List Phase := []
  currentPhaseIndex : Nat := 0
  deriving DecidableEq, Repr

structure StatsInfo where
  squareDiffs : List Int := []
  deviationStats : List DeviationStats := []
  deriving DecidableEq

/-- `std::sort` by time stamp: ordered, and in no particular order among equals. -/
structure PhaseSort where
  sort : List Phase → List Phase
  perm : ∀ l, (sort l).Perm l
  sorted : ∀ l, (sort l).Pairwise (fun a b => a.timeStamp ≤ b.timeStamp)

/-- One possible implementation, which keeps the order of equals. -/
def PhaseSort.stable : PhaseSort where
  sort l := l.insertionSort (fun a b => a.timeStamp ≤ b.timeStamp)
  perm l := List.perm_insertionSort _ l
  sorted l := by
    have htrans : IsTrans Phase (fun a b => a.timeStamp ≤ b.timeStamp) :=
      ⟨fun _ _ _ => UInt64.le_trans⟩
    have htotal : Std.Total (fun a b : Phase => a.timeStamp ≤ b.timeStamp) :=
      ⟨fun _ _ => UInt64.le_total _ _⟩
    exact List.pairwise_insertionSort _ l

/-- The phase has begun by the time stamp. -/
def due (timeStamp : UInt64) (phase : Phase) : Bool := decide (phase.timeStamp ≤ timeStamp)

structure CommandCenter where
  scheduleInfo : UInt64 → Option ScheduleInfo := fun _ => none
  statsInfo : UInt64 → Option StatsInfo := fun _ => none
  lastTimeStamp : UInt64 → Option UInt64 := fun _ => none

namespace CommandCenter

def setSchedule (S : PhaseSort) (c : CommandCenter) (schedule : DeviceWorkSchedule) :
    CommandCenter :=
  { c with
    scheduleInfo := Function.update c.scheduleInfo schedule.deviceId
      (some { phases := S.sort schedule.schedule }) }

/-- `command` is a difference of two `unsigned char`s, computed as `int`. -/
def command (phase : Phase) (meterage : UInt8) : Int := phase.value.toNat - meterage.toNat

/-- The statistics part of `process_meterage`: a phase other than the last
recorded one empties `square_diffs` and opens a new entry. -/
def record (statsInfo : StatsInfo) (currentPhase : Phase) (currentTimeStamp : UInt64)
    (command : Int) : StatsInfo :=
  let statsInfo :=
    if statsInfo.deviationStats.getLast?.all (fun last =>
        decide (last.phase.timeStamp ≠ currentPhase.timeStamp ∨
          last.phase.value ≠ currentPhase.value)) then
      { squareDiffs := []
        deviationStats := statsInfo.deviationStats ++ [⟨currentPhase, currentTimeStamp, ⟨0⟩⟩] }
    else statsInfo
  let squareDiffs := statsInfo.squareDiffs ++ [command * command]
  { squareDiffs
    deviationStats := statsInfo.deviationStats.modifyLast (fun last =>
      { last with deviation := ⟨(squareDiffs.sum : Rat) / (squareDiffs.length : Rat)⟩ }) }

/-- `process_meterage`; the second component lists the calls of `callback`. -/
def processMeterage (c : CommandCenter) (deviceId : UInt64) (meterage : MessageMeterage) :
    Option (CommandCenter × List (UInt64 × Message)) :=
  let currentTimeStamp := meterage.timeStamp
  if (c.lastTimeStamp deviceId).any (fun last => decide (last ≥ currentTimeStamp)) then
    some (c, [(deviceId, .error .obsolete)])
  else
    let scheduleInfo := (c.scheduleInfo deviceId).getD {}
    let statsInfo := (c.statsInfo deviceId).getD {}
    -- the three accesses by `operator[]` create what is missing
    let c : CommandCenter :=
      { scheduleInfo := Function.update c.scheduleInfo deviceId (some scheduleInfo)
        statsInfo := Function.update c.statsInfo deviceId (some statsInfo)
        lastTimeStamp := Function.update c.lastTimeStamp deviceId (some currentTimeStamp) }
    if scheduleInfo.phases.isEmpty then some (c, [(deviceId, .error .noSchedule)])
    else
      let index := Cursor.advance (due currentTimeStamp) scheduleInfo.phases
        scheduleInfo.currentPhaseIndex
      let c := { c with
        scheduleInfo := Function.update c.scheduleInfo deviceId
          (some { scheduleInfo with currentPhaseIndex := index }) }
      match scheduleInfo.phases[index]? with
      | none => none
      | some currentPhase =>
          if currentPhase.timeStamp > currentTimeStamp then
            some (c, [(deviceId, .error .noTimestamp)])
          else
            let command := command currentPhase meterage.meterage
            let c := { c with
              statsInfo := Function.update c.statsInfo deviceId
                (some (record statsInfo currentPhase currentTimeStamp command)) }
            some (c, [(deviceId, .command command.toInt8)])

def deviationStats (c : CommandCenter) (deviceId : UInt64) :
    List DeviationStats × CommandCenter :=
  let statsInfo := (c.statsInfo deviceId).getD {}
  (statsInfo.deviationStats,
    { c with statsInfo := Function.update c.statsInfo deviceId (some statsInfo) })

end CommandCenter

/-- A call of one of the three public functions. -/
inductive CenterCall where
  | setSchedule (schedule : DeviceWorkSchedule)
  | processMeterage (deviceId : UInt64) (meterage : MessageMeterage)
  | deviationStats (deviceId : UInt64)
  deriving DecidableEq

/-- The calls made so far, the newest one first. -/
abbrev History := List CenterCall

def CommandCenter.perform (S : PhaseSort) (c : CommandCenter) : CenterCall → Option CommandCenter
  | .setSchedule schedule => some (c.setSchedule S schedule)
  | .processMeterage deviceId meterage => (c.processMeterage deviceId meterage).map Prod.fst
  | .deviationStats deviceId => some (c.deviationStats deviceId).2

/-- The state of a command centre with the given history. -/
def CommandCenter.after (S : PhaseSort) : History → Option CommandCenter
  | [] => some {}
  | call :: past => (after S past).bind (fun c => c.perform S call)

end DeviceMonitoring
