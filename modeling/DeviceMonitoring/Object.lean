import DeviceMonitoring.Library.RefCount

/-! `Object` and `SafeObjectPointer`. An object and the pointers to it hold one
`SharedData`; the object clears its field there when it goes. Whatever a derived
class does in its destructor comes before `destroyObject`. -/
namespace DeviceMonitoring

structure SharedData where
  object : Option Ref := none
  refCounter : Nat := 0

structure SharedDataHolder where
  sharedData : Option Ref := none

/-- What the code never checks for. -/
inductive MemoryFault where
  | nullObject
  | destroyed
  | freed
  | assertion
  deriving DecidableEq, Repr

namespace SharedDataHolder

def join (holder : SharedDataHolder) (blocks : Heap SharedData) (sharedData : Option Ref) :
    Except MemoryFault (SharedDataHolder × Heap SharedData) :=
  match holder.sharedData, sharedData with
  | some _, _ => .error .assertion
  | none, none => .ok ({ sharedData := none }, blocks)
  | none, some b =>
      match blocks.get b with
      | none => .error .freed
      | some _ =>
          .ok ({ sharedData := some b },
            blocks.modify b fun s => { s with refCounter := s.refCounter + 1 })

def detach (holder : SharedDataHolder) (blocks : Heap SharedData) :
    Except MemoryFault (Heap SharedData) :=
  match holder.sharedData with
  | none => .ok blocks
  | some b =>
      match blocks.get b with
      | none => .error .freed
      | some s =>
          .ok (if s.refCounter - 1 = 0 then blocks.free b
            else blocks.modify b fun s => { s with refCounter := s.refCounter - 1 })

theorem detach_some {holder : SharedDataHolder} {blocks : Heap SharedData} {b : Ref} {s : SharedData}
    (hb : holder.sharedData = some b) (hs : blocks.get b = some s) :
    holder.detach blocks = .ok (if s.refCounter - 1 = 0 then blocks.free b
      else blocks.modify b fun s => { s with refCounter := s.refCounter - 1 }) := by
  simp only [detach, hb, hs]

end SharedDataHolder

structure Memory where
  blocks : Heap SharedData := {}
  objects : Heap SharedDataHolder := {}
  pointers : Heap SharedDataHolder := {}

namespace Memory

def pointer (m : Memory) (p : Ref) : Except MemoryFault SharedDataHolder :=
  match m.pointers.get p with
  | none => .error .destroyed
  | some holder => .ok holder

/-- `object->m_sharedData` -/
def sharedDataOf (m : Memory) : Option Ref → Except MemoryFault (Option Ref)
  | none => .error .nullObject
  | some o =>
      match m.objects.get o with
      | none => .error .destroyed
      | some holder => .ok holder.sharedData

/-- `Object::Object` -/
def createObject (m : Memory) : Except MemoryFault Memory := do
  let blocks := m.blocks.alloc { object := some m.objects.next }
  let (holder, blocks) ← SharedDataHolder.join {} blocks (some m.blocks.next)
  .ok { m with blocks, objects := m.objects.alloc holder }

/-- `Object::~Object` -/
def destroyObject (m : Memory) (o : Ref) : Except MemoryFault Memory :=
  match m.objects.get o with
  | none => .error .destroyed
  | some holder => do
      let blocks := match holder.sharedData with
        | none => m.blocks
        | some b => m.blocks.modify b fun s => { s with object := none }
      let blocks ← holder.detach blocks
      .ok { m with blocks, objects := m.objects.free o }

/-- The body of both constructors. -/
def construct (m : Memory) (sharedData : Option Ref) : Except MemoryFault Memory := do
  let (holder, blocks) ← SharedDataHolder.join {} m.blocks sharedData
  .ok { m with blocks, pointers := m.pointers.alloc holder }

/-- `SafeObjectPointer::SafeObjectPointer(Object*)` -/
def createPointer (m : Memory) : Option Ref → Except MemoryFault Memory
  | none => .ok { m with pointers := m.pointers.alloc {} }
  | some o => do m.construct (← m.sharedDataOf (some o))

def data (m : Memory) (p : Ref) : Except MemoryFault (Option Ref) := do
  match (← m.pointer p).sharedData with
  | none => .ok none
  | some b =>
      match m.blocks.get b with
      | none => .error .freed
      | some s => .ok s.object

/-- `SafeObjectPointer::SafeObjectPointer(const SafeObjectPointer&)`: the block of `other`
is read through its object. -/
def copyPointer (m : Memory) (other : Ref) : Except MemoryFault Memory := do
  m.construct (← m.sharedDataOf (← m.data other))

/-- `SafeObjectPointer::~SafeObjectPointer` -/
def destroyPointer (m : Memory) (p : Ref) : Except MemoryFault Memory := do
  let blocks ← (← m.pointer p).detach m.blocks
  .ok { m with blocks, pointers := m.pointers.free p }

/-- `swap(m_sharedData, copy.m_sharedData)` -/
def swap (m : Memory) (p copy : Ref) : Except MemoryFault Memory := do
  let a ← m.pointer p
  let b ← m.pointer copy
  .ok { m with pointers := (m.pointers.modify p fun _ => b).modify copy fun _ => a }

/-- `SafeObjectPointer::operator=` -/
def assign (m : Memory) (p other : Ref) : Except MemoryFault Memory := do
  let _ ← m.pointer p
  if p = other then .ok m
  else
    let copy := m.pointers.next
    let m ← m.copyPointer other
    let m ← m.swap p copy
    m.destroyPointer copy

end Memory

inductive MemoryCall where
  | createObject
  | destroyObject (o : Ref)
  | createPointer (object : Option Ref)
  | copyPointer (other : Ref)
  | assign (p other : Ref)
  | destroyPointer (p : Ref)
  deriving DecidableEq, Repr

/-- The memory, and what each pointer was last set to. -/
structure Tracked where
  memory : Memory := {}
  lastSet : Ref → Option Ref := fun _ => none

namespace Tracked

def objectAlive (s : Tracked) (o : Ref) : Bool := (s.memory.objects.get o).isSome

def pointerAlive (s : Tracked) (p : Ref) : Bool := (s.memory.pointers.get p).isSome

/-- The pointer was last set to an object that is still there. -/
def refers (s : Tracked) (p : Ref) : Bool := (s.lastSet p).any s.objectAlive

def sets (s : Tracked) : MemoryCall → Ref → Option Ref
  | .createPointer object => Function.update s.lastSet s.memory.pointers.next object
  | .copyPointer other => Function.update s.lastSet s.memory.pointers.next (s.lastSet other)
  | .assign p other => Function.update s.lastSet p (s.lastSet other)
  | .createObject | .destroyObject _ | .destroyPointer _ => s.lastSet

def call (m : Memory) : MemoryCall → Except MemoryFault Memory
  | .createObject => m.createObject
  | .destroyObject o => m.destroyObject o
  | .createPointer object => m.createPointer object
  | .copyPointer other => m.copyPointer other
  | .assign p other => m.assign p other
  | .destroyPointer p => m.destroyPointer p

def perform (s : Tracked) (c : MemoryCall) : Except MemoryFault Tracked := do
  let memory ← call s.memory c
  .ok { memory, lastSet := s.sets c }

def run (s : Tracked) (calls : List MemoryCall) : Except MemoryFault Tracked :=
  calls.foldlM perform s

/-- The objects and pointers that the call names are there, and a source still refers
to its object; assigning a pointer to itself needs no more than the pointer. -/
def admits (s : Tracked) : MemoryCall → Bool
  | .createObject => true
  | .destroyObject o => s.objectAlive o
  | .createPointer object => object.all s.objectAlive
  | .copyPointer other => s.pointerAlive other && s.refers other
  | .assign p other =>
      s.pointerAlive p && s.pointerAlive other && (decide (p = other) || s.refers other)
  | .destroyPointer p => s.pointerAlive p

end Tracked
end DeviceMonitoring
