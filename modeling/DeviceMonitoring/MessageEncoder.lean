import DeviceMonitoring.Executor

/-! `MessageEncoder`. An executor object is known by its address; the objects that
were deleted are kept. -/
namespace DeviceMonitoring

structure ExecutorObject where
  address : Nat
  executor : BaseEncoderExecutor

structure MessageEncoder where
  currentExecutor : Option ExecutorObject := none
  executors : List ExecutorObject := []
  deleted : List Nat := []

namespace MessageEncoder

def encode (e : MessageEncoder) (message : Bytes) : Bytes :=
  match e.currentExecutor with
  | none => []
  | some object => object.executor.encode message

def decode (e : MessageEncoder) (message : Bytes) : Bytes :=
  match e.currentExecutor with
  | none => []
  | some object => object.executor.decode message

def selectExecutor (e : MessageEncoder) (name : String) : Bool × MessageEncoder :=
  match e.executors.find? (fun object => object.executor.name == name) with
  | none => (false, e)
  | some object => (true, { e with currentExecutor := some object })

/-- Puts the new object into the first slot of its name; the old occupant is returned. -/
def replace (object : ExecutorObject) :
    List ExecutorObject → Option (ExecutorObject × List ExecutorObject)
  | [] => none
  | old :: rest =>
      if old.executor.name = object.executor.name then some (old, object :: rest)
      else (replace object rest).map fun (found, rest) => (found, old :: rest)

def addExecutor (e : MessageEncoder) : Option ExecutorObject → Bool × MessageEncoder
  | none => (false, e)
  | some object =>
      match replace object e.executors with
      | none => (true, { e with executors := e.executors ++ [object] })
      | some (old, executors) =>
          (true, { e with
            executors
            currentExecutor :=
              if e.currentExecutor.any (fun current => current.address == old.address) then
                some object
              else e.currentExecutor
            deleted := e.deleted ++ [old.address] })

/-- The constructor; the three objects it creates get the given addresses. -/
def create (rot3 mirror multiply41 : Nat) : MessageEncoder :=
  let e : MessageEncoder := {}
  let e := (e.addExecutor (some ⟨rot3, rot3EncoderExecutor⟩)).2
  let e := (e.addExecutor (some ⟨mirror, mirrorEncoderExecutor⟩)).2
  (e.addExecutor (some ⟨multiply41, multiply41EncoderExecutor⟩)).2

/-- The executor selected at the moment. -/
def selected (e : MessageEncoder) : Option BaseEncoderExecutor :=
  e.currentExecutor.map (·.executor)

theorem encode_of_selected {e : MessageEncoder} {E : BaseEncoderExecutor}
    (h : e.selected = some E) (message : Bytes) : e.encode message = E.encode message := by
  obtain ⟨object, hobject, rfl⟩ := Option.map_eq_some_iff.mp h
  simp only [encode, hobject]

theorem decode_of_selected {e : MessageEncoder} {E : BaseEncoderExecutor}
    (h : e.selected = some E) (message : Bytes) : e.decode message = E.decode message := by
  obtain ⟨object, hobject, rfl⟩ := Option.map_eq_some_iff.mp h
  simp only [decode, hobject]

end MessageEncoder
end DeviceMonitoring
