import DeviceMonitoring.MessageEncoder

/-! What `MessageEncoder` is for: a map from names to executors, and the name selected. -/
namespace DeviceMonitoring

inductive EncoderCall where
  | addExecutor (object : Option ExecutorObject)
  | selectExecutor (name : String)
  | encode (message : Bytes)
  | decode (message : Bytes)

inductive EncoderReply where
  | accepted (answer : Bool)
  | text (message : Bytes)
  deriving DecidableEq, Repr

namespace MessageEncoder

def perform (e : MessageEncoder) : EncoderCall → EncoderReply × MessageEncoder
  | .addExecutor object =>
      let (answer, e) := e.addExecutor object
      (.accepted answer, e)
  | .selectExecutor name =>
      let (answer, e) := e.selectExecutor name
      (.accepted answer, e)
  | .encode message => (.text (e.encode message), e)
  | .decode message => (.text (e.decode message), e)

def after (e : MessageEncoder) (calls : List EncoderCall) : MessageEncoder :=
  calls.foldl (fun e call => (e.perform call).2) e

def replies : MessageEncoder → List EncoderCall → List EncoderReply
  | _, [] => []
  | e, call :: calls => (e.perform call).1 :: replies (e.perform call).2 calls

end MessageEncoder

/-- The executors added so far, the newest first, and the last name selected with success. -/
structure ExecutorMap where
  added : List BaseEncoderExecutor
  selected : Option String := none

namespace ExecutorMap

/-- The most recently added executor of that name. -/
def executor (s : ExecutorMap) (name : String) : Option BaseEncoderExecutor :=
  s.added.find? fun executor => executor.name == name

def current (s : ExecutorMap) : Option BaseEncoderExecutor := s.selected.bind s.executor

def perform (s : ExecutorMap) : EncoderCall → EncoderReply × ExecutorMap
  | .addExecutor none => (.accepted false, s)
  | .addExecutor (some object) => (.accepted true, { s with added := object.executor :: s.added })
  | .selectExecutor name =>
      if name ∈ s.added.map (·.name) then (.accepted true, { s with selected := some name })
      else (.accepted false, s)
  | .encode message => (.text (s.current.elim [] fun executor => executor.encode message), s)
  | .decode message => (.text (s.current.elim [] fun executor => executor.decode message), s)

def after (s : ExecutorMap) (calls : List EncoderCall) : ExecutorMap :=
  calls.foldl (fun s call => (s.perform call).2) s

def replies : ExecutorMap → List EncoderCall → List EncoderReply
  | _, [] => []
  | s, call :: calls => (s.perform call).1 :: replies (s.perform call).2 calls

def builtIn : ExecutorMap :=
  { added := [multiply41EncoderExecutor, mirrorEncoderExecutor, rot3EncoderExecutor] }

end ExecutorMap

namespace MessageEncoder
variable {object old : ExecutorObject} {objects objects' : List ExecutorObject}

theorem replace_eq_none :
    replace object objects = none ↔
      ∀ x ∈ objects, x.executor.name ≠ object.executor.name := by
  induction objects with
  | nil => simp [replace]
  | cons x objects ih =>
      rw [replace, List.forall_mem_cons]
      split
      next hx => simp [hx]
      next hx => rw [Option.map_eq_none_iff, ih, and_iff_right hx]

/-- The slot that is overwritten: the first one of the name. -/
theorem replace_eq_some (h : replace object objects = some (old, objects')) :
    ∃ before behind, objects = before ++ old :: behind ∧ objects' = before ++ object :: behind ∧
      old.executor.name = object.executor.name ∧
        ∀ x ∈ before, x.executor.name ≠ object.executor.name := by
  induction objects generalizing objects' with
  | nil => cases h
  | cons x objects ih =>
      rw [replace] at h
      split at h
      next hx =>
        cases h
        exact ⟨[], objects, rfl, rfl, hx, by simp⟩
      next hx =>
        obtain ⟨⟨found, rest⟩, hrest, heq⟩ := Option.map_eq_some_iff.mp h
        cases heq
        obtain ⟨before, behind, rfl, rfl, hname, hbefore⟩ := ih hrest
        refine ⟨x :: before, behind, rfl, rfl, hname, ?_⟩
        rw [List.forall_mem_cons]
        exact ⟨hx, hbefore⟩

end MessageEncoder
end DeviceMonitoring
