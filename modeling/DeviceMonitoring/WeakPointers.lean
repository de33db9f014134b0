import DeviceMonitoring.Object

/-! What `SafeObjectPointer` is for: a pointer gives the object it was last set to as long
as the object is there, and nothing from then on. -/
namespace DeviceMonitoring

def SharedDataHolder.joinedTo (holder : SharedDataHolder) (b : Ref) : Bool :=
  holder.sharedData == some b

@[simp] theorem SharedDataHolder.joinedTo_self (b : Ref) :
    ({ sharedData := some b } : SharedDataHolder).joinedTo b = true := BEq.rfl

@[simp] theorem SharedDataHolder.joinedTo_none (b : Ref) :
    ({ sharedData := none } : SharedDataHolder).joinedTo b = false := rfl

theorem SharedDataHolder.joinedTo_of_ne {b c : Ref} (hc : c ≠ b) :
    ({ sharedData := some b } : SharedDataHolder).joinedTo c = false :=
  beq_eq_false_iff_ne.mpr fun h => hc (Option.some.inj h).symm

namespace Memory

/-- The objects and the pointers that are joined to a block. -/
def holders (m : Memory) (b : Ref) : Nat :=
  m.objects.count (·.joinedTo b) + m.pointers.count (·.joinedTo b)

/-- The n-th object makes the n-th block. -/
structure Sound (m : Memory) (lastSet : Ref → Option Ref) : Prop where
  counted : Heap.Counted (·.refCounter) m.blocks m.holders
  numbered : m.objects.next = m.blocks.next
  own : ∀ o d, m.objects.get o = some d → d.sharedData = some o
  noted : ∀ b s, m.blocks.get b = some s →
    s.object = if (m.objects.get b).isSome then some b else none
  last : ∀ p d, m.pointers.get p = some d → d.sharedData = lastSet p

namespace Sound
variable {m : Memory} {lastSet : Ref → Option Ref} {o p q b : Ref} {d : SharedDataHolder}

theorem empty (lastSet : Ref → Option Ref) : Sound {} lastSet := by
  constructor
  · exact Heap.Counted.empty
  · rfl
  · intro o d hd
    cases hd
  · intro b s hs
    cases hs
  · intro p d hd
    cases hd

/-- What a pointer was last set to matters as long as the pointer is there. -/
theorem congr (h : Sound m lastSet) {lastSet' : Ref → Option Ref}
    (hset : ∀ p d, m.pointers.get p = some d → lastSet' p = lastSet p) : Sound m lastSet' :=
  ⟨h.counted, h.numbered, h.own, h.noted, fun p d hd => (h.last p d hd).trans (hset p d hd).symm⟩

theorem object (h : Sound m lastSet) (ho : m.objects.get o = some d) :
    m.objects.get o = some { sharedData := some o } := by
  rw [ho, ← h.own o d ho]

theorem pointer (h : Sound m lastSet) (hp : m.pointers.get p = some d) :
    m.pointers.get p = some { sharedData := lastSet p } := by
  rw [hp, ← h.last p d hp]

theorem block_of_object (h : Sound m lastSet) (ho : m.objects.get o = some d) :
    ∃ s, m.blocks.get o = some s := by
  apply (h.counted.held o).mp
  have hpos := Heap.count_pos (h.object ho) (p := (·.joinedTo o)) (SharedDataHolder.joinedTo_self o)
  exact Nat.lt_of_lt_of_le hpos (Nat.le_add_right ..)

theorem block_of_pointer (h : Sound m lastSet) (hp : m.pointers.get p = some d)
    (hb : lastSet p = some b) : ∃ s, m.blocks.get b = some s := by
  apply (h.counted.held b).mp
  have hget := h.pointer hp
  rw [hb] at hget
  have hpos := Heap.count_pos hget (p := (·.joinedTo b)) (SharedDataHolder.joinedTo_self b)
  exact Nat.lt_of_lt_of_le hpos (Nat.le_add_left ..)

/-- The value of `data` in every state. -/
theorem data_eq (h : Sound m lastSet) (hp : m.pointers.get p = some d) :
    m.data p = .ok ((lastSet p).filter fun o => (m.objects.get o).isSome) := by
  unfold data Memory.pointer
  rw [h.pointer hp]
  cases hset : lastSet p with
  | none => rfl
  | some b =>
      obtain ⟨s, hs⟩ := h.block_of_pointer hp hset
      simp only [bind, Except.bind, hs]
      rw [h.noted b s hs, Option.filter_some]

/-- A holder of nothing, or of the block of an object that is there, is a new pointer. -/
theorem construct (h : Sound m lastSet) {x : Option Ref}
    (hx : ∀ o ∈ x, (m.objects.get o).isSome = true) :
    ∃ m', m.construct x = .ok m' ∧ m'.objects = m.objects ∧
      m'.pointers = m.pointers.alloc { sharedData := x } ∧
      Sound m' (Function.update lastSet m.pointers.next x) := by
  have hlast : ∀ p d, (m.pointers.alloc { sharedData := x }).get p = some d →
      d.sharedData = Function.update lastSet m.pointers.next x p := by
    intro p d hd
    rcases Heap.get_alloc_eq_some.mp hd with ⟨rfl, rfl⟩ | hd
    · rw [Function.update_self]
    · rw [Function.update_of_ne (Nat.ne_of_lt (Heap.lt_next hd))]
      exact h.last p d hd
  cases x with
  | none =>
      refine ⟨{ m with pointers := m.pointers.alloc { sharedData := none } }, rfl, rfl, rfl, ?_⟩
      refine ⟨?_, h.numbered, h.own, h.noted, hlast⟩
      have hholders : holders { m with pointers := m.pointers.alloc { sharedData := none } } =
          m.holders := by
        funext c
        simp [holders, Heap.count_alloc]
      rw [hholders]
      exact h.counted
  | some o =>
      obtain ⟨d, hd⟩ := Option.isSome_iff_exists.mp (hx o rfl)
      obtain ⟨s, hs⟩ := h.block_of_object hd
      refine ⟨{ m with
        blocks := m.blocks.modify o fun s => { s with refCounter := s.refCounter + 1 }
        pointers := m.pointers.alloc { sharedData := some o } }, ?_, rfl, rfl, ?_⟩
      · unfold Memory.construct SharedDataHolder.join
        simp only [hs]
        rfl
      · refine ⟨?_, h.numbered, h.own, ?_, hlast⟩
        · apply h.counted.retain (r := o) ?_ hs rfl
          · simp only [holders, Heap.count_alloc, SharedDataHolder.joinedTo_self]
            exact (Nat.add_assoc ..).symm
          · intro c hc
            simp [holders, Heap.count_alloc, SharedDataHolder.joinedTo_of_ne hc]
        · intro b t ht
          obtain ⟨t', ht', rfl⟩ := Heap.get_modify_eq_some.mp ht
          rw [← h.noted b t' ht']
          split <;> rfl

theorem createObject (h : Sound m lastSet) :
    ∃ m', m.createObject = .ok m' ∧ m'.objects = m.objects.alloc { sharedData := some m.objects.next } ∧
      m'.pointers = m.pointers ∧ Sound m' lastSet := by
  have hnum := h.numbered
  refine ⟨{ m with
    blocks := m.blocks.alloc { object := some m.objects.next, refCounter := 1 }
    objects := m.objects.alloc { sharedData := some m.objects.next } }, ?_, rfl, rfl, ?_⟩
  · unfold Memory.createObject SharedDataHolder.join
    simp only [Heap.get_alloc_next, Heap.modify_alloc, hnum]
    rfl
  · have hnone : m.holders m.blocks.next = 0 := by
      by_contra hne
      obtain ⟨s, hs⟩ := (h.counted.held m.blocks.next).mp (Nat.pos_of_ne_zero hne)
      exact absurd (Heap.lt_next hs) (Nat.lt_irrefl _)
    constructor
    · apply h.counted.alloc rfl
      · simp only [holders, Heap.count_alloc, ← hnum, SharedDataHolder.joinedTo_self,
          Bool.toNat_true] at hnone ⊢
        omega
      · intro c hc
        rw [← hnum] at hc
        simp [holders, Heap.count_alloc, SharedDataHolder.joinedTo_of_ne hc]
    · exact congrArg Nat.succ hnum
    · intro o d hd
      rcases Heap.get_alloc_eq_some.mp hd with ⟨rfl, rfl⟩ | hd
      · rfl
      · exact h.own o d hd
    · intro b s hs
      rcases Heap.get_alloc_eq_some.mp hs with ⟨rfl, rfl⟩ | hs
      · rw [← hnum, Heap.get_alloc_next]
        rfl
      · have hne : b ≠ m.objects.next := hnum ▸ Nat.ne_of_lt (Heap.lt_next hs)
        rw [Heap.get_alloc_of_ne _ _ hne]
        exact h.noted b s hs
    · exact h.last

theorem destroyObject (h : Sound m lastSet) (ho : m.objects.get o = some d) :
    ∃ m', m.destroyObject o = .ok m' ∧ m'.objects = m.objects.free o ∧ m'.pointers = m.pointers ∧
      Sound m' lastSet := by
  have hget := h.object ho
  obtain ⟨s, hs⟩ := h.block_of_object ho
  have hcleared : (m.blocks.modify o fun s => { s with object := none }).get o =
      some { s with object := none } := by
    rw [Heap.get_modify_self, hs, Option.map_some]
  refine ⟨{ m with
    blocks := if s.refCounter - 1 = 0
      then (m.blocks.modify o fun s => { s with object := none }).free o
      else (m.blocks.modify o fun s => { s with object := none }).modify o
        fun s => { s with refCounter := s.refCounter - 1 }
    objects := m.objects.free o }, ?_, rfl, rfl, ?_⟩
  · unfold Memory.destroyObject SharedDataHolder.detach
    simp only [hget, hcleared]
    rfl
  · have hfree := fun c => Heap.count_free hget (·.joinedTo c)
    constructor
    · have hkeep := h.counted.keep (r := o) (f := fun s => { s with object := none }) fun _ => rfl
      apply hkeep.release ?_ hcleared rfl
      · have ho := hfree o
        simp only [SharedDataHolder.joinedTo_self, Bool.toNat_true] at ho
        simp only [holders]
        omega
      · intro c hc
        have ho := hfree c
        simp only [SharedDataHolder.joinedTo_of_ne hc, Bool.toNat_false, Nat.add_zero] at ho
        simp only [holders, ho]
    · refine h.numbered.trans ?_
      simp only [apply_ite Heap.next, Heap.next_free, Heap.next_modify, ite_self]
    · intro o' d' hd'
      exact h.own o' d' (Heap.get_free_eq_some.mp hd').2
    · intro b t ht
      have hold : ∃ t', m.blocks.get b = some t' ∧ t.object = if b = o then none else t'.object := by
        split at ht
        · obtain ⟨hne, ht⟩ := Heap.get_free_eq_some.mp ht
          rw [Heap.get_modify_of_ne _ _ hne] at ht
          exact ⟨t, ht, (if_neg hne).symm⟩
        · obtain ⟨u, hu, rfl⟩ := Heap.get_modify_eq_some.mp ht
          obtain ⟨v, hv, rfl⟩ := Heap.get_modify_eq_some.mp hu
          refine ⟨v, hv, ?_⟩
          split <;> rfl
      obtain ⟨t', ht', heq⟩ := hold
      rw [heq, h.noted b t' ht']
      by_cases hb : b = o
      · subst hb
        simp
      · rw [if_neg hb, Heap.get_free_of_ne _ hb]
    · exact h.last

theorem destroyPointer (h : Sound m lastSet) (hp : m.pointers.get p = some d) :
    ∃ m', m.destroyPointer p = .ok m' ∧ m'.objects = m.objects ∧ m'.pointers = m.pointers.free p ∧
      Sound m' lastSet := by
  have hget := h.pointer hp
  have hlast : ∀ q d, (m.pointers.free p).get q = some d → d.sharedData = lastSet q :=
    fun q d hd => h.last q d (Heap.get_free_eq_some.mp hd).2
  have hfree := fun c => Heap.count_free hget (·.joinedTo c)
  cases hset : lastSet p with
  | none =>
      rw [hset] at hget
      refine ⟨{ m with pointers := m.pointers.free p }, ?_, rfl, rfl, ?_⟩
      · unfold Memory.destroyPointer Memory.pointer SharedDataHolder.detach
        rw [hget]
        rfl
      · refine ⟨?_, h.numbered, h.own, h.noted, hlast⟩
        have hholders : holders { m with pointers := m.pointers.free p } = m.holders := by
          funext c
          have hc := hfree c
          rw [hset, SharedDataHolder.joinedTo_none, Bool.toNat_false, Nat.add_zero] at hc
          simp only [holders, hc]
        rw [hholders]
        exact h.counted
  | some b =>
      obtain ⟨s, hs⟩ := h.block_of_pointer hp hset
      rw [hset] at hget
      refine ⟨{ m with
        blocks := if s.refCounter - 1 = 0 then m.blocks.free b
          else m.blocks.modify b fun s => { s with refCounter := s.refCounter - 1 }
        pointers := m.pointers.free p }, ?_, rfl, rfl, ?_⟩
      · unfold Memory.destroyPointer Memory.pointer
        rw [hget]
        change (do
          let blocks ← SharedDataHolder.detach { sharedData := some b } m.blocks
          Except.ok { m with blocks, pointers := m.pointers.free p }) = _
        rw [SharedDataHolder.detach_some rfl hs]
        rfl
      · refine ⟨?_, h.numbered.trans ?_, h.own, ?_, hlast⟩
        · apply h.counted.release (r := b) ?_ hs rfl
          · have hb := hfree b
            rw [hset, SharedDataHolder.joinedTo_self, Bool.toNat_true] at hb
            simp only [holders]
            omega
          · intro c hc
            have hc' := hfree c
            rw [hset, SharedDataHolder.joinedTo_of_ne hc, Bool.toNat_false, Nat.add_zero] at hc'
            simp only [holders, hc']
        · simp only [apply_ite Heap.next, Heap.next_free, Heap.next_modify, ite_self]
        · intro c t ht
          split at ht
          · exact h.noted c t (Heap.get_free_eq_some.mp ht).2
          · obtain ⟨u, hu, rfl⟩ := Heap.get_modify_eq_some.mp ht
            rw [← h.noted c u hu]
            split <;> rfl

/-- The two pointers trade what they hold; nobody else sees it. -/
theorem swap (h : Sound m lastSet) {e : SharedDataHolder} (hpq : p ≠ q)
    (hp : m.pointers.get p = some d) (hq : m.pointers.get q = some e) :
    ∃ m', m.swap p q = .ok m' ∧ m'.objects = m.objects ∧
      m'.pointers = (m.pointers.modify p fun _ => e).modify q (fun _ => d) ∧
      Sound m' (Function.update (Function.update lastSet q (lastSet p)) p (lastSet q)) := by
  refine ⟨{ m with pointers := (m.pointers.modify p fun _ => e).modify q fun _ => d }, ?_, rfl, rfl, ?_⟩
  · unfold Memory.swap Memory.pointer
    rw [hp, hq]
    rfl
  · refine ⟨?_, h.numbered, h.own, h.noted, ?_⟩
    · have hholders : holders { m with
          pointers := (m.pointers.modify p fun _ => e).modify q fun _ => d } = m.holders := by
        funext c
        have hq' : (m.pointers.modify p fun _ => e).get q = some e := by
          rw [Heap.get_modify_of_ne _ _ hpq.symm, hq]
        have hfirst := Heap.count_modify hp (fun _ => e) (·.joinedTo c)
        have hsecond := Heap.count_modify hq' (fun _ => d) (·.joinedTo c)
        simp only [holders]
        omega
      rw [hholders]
      exact h.counted
    · intro r f hf
      obtain ⟨f', hf', rfl⟩ := Heap.get_modify_eq_some.mp hf
      obtain ⟨f'', hf'', rfl⟩ := Heap.get_modify_eq_some.mp hf'
      by_cases hrp : r = p
      · subst hrp
        rw [Function.update_self, if_neg hpq, if_pos rfl]
        exact h.last q e hq
      · rw [Function.update_of_ne hrp, if_neg hrp]
        by_cases hrq : r = q
        · subst hrq
          rw [Function.update_self, if_pos rfl]
          exact h.last p d hp
        · rw [Function.update_of_ne hrq, if_neg hrq]
          exact h.last r f'' hf''

theorem sharedDataOf_eq (h : Sound m lastSet) (ho : (m.objects.get o).isSome = true) :
    m.sharedDataOf (some o) = .ok (some o) := by
  obtain ⟨d, hd⟩ := Option.isSome_iff_exists.mp ho
  unfold sharedDataOf
  simp only [h.object hd]

theorem createPointer (h : Sound m lastSet) {object : Option Ref}
    (hobject : ∀ o ∈ object, (m.objects.get o).isSome = true) :
    ∃ m', m.createPointer object = .ok m' ∧ m'.objects = m.objects ∧
      Sound m' (Function.update lastSet m.pointers.next object) := by
  obtain ⟨m', hm', hobjects, -, hsound⟩ := h.construct hobject
  refine ⟨m', ?_, hobjects, hsound⟩
  cases object with
  | none => exact hm'
  | some o =>
      change (do m.construct (← m.sharedDataOf (some o))) = _
      rw [h.sharedDataOf_eq (hobject o rfl)]
      exact hm'

/-- The source refers to an object: the copy is made through it. -/
theorem copyPointer (h : Sound m lastSet) (hq : m.pointers.get q = some d)
    (hset : lastSet q = some o) (ho : (m.objects.get o).isSome = true) :
    ∃ m', m.copyPointer q = .ok m' ∧ m'.objects = m.objects ∧
      m'.pointers = m.pointers.alloc { sharedData := lastSet q } ∧
      Sound m' (Function.update lastSet m.pointers.next (lastSet q)) := by
  have hx : ∀ o ∈ lastSet q, (m.objects.get o).isSome = true := by
    rw [hset]
    rintro _ ⟨⟩
    exact ho
  obtain ⟨m', hm', hrest⟩ := h.construct hx
  refine ⟨m', ?_, hrest⟩
  unfold Memory.copyPointer
  rw [h.data_eq hq, hset, Option.filter_some, if_pos ho]
  change (do m.construct (← m.sharedDataOf (some o))) = _
  rw [h.sharedDataOf_eq ho, ← hset]
  exact hm'

/-- The source refers to nothing: there is no object to read the block from. -/
theorem copyPointer_null (h : Sound m lastSet) (hq : m.pointers.get q = some d)
    (hset : ∀ o, lastSet q = some o → (m.objects.get o).isSome = false) :
    m.copyPointer q = .error .nullObject := by
  have hnone : ((lastSet q).filter fun o => (m.objects.get o).isSome) = none := by
    rw [Option.filter_eq_none_iff]
    intro o ho
    rw [hset o ho]
    exact Bool.false_ne_true
  unfold Memory.copyPointer
  rw [h.data_eq hq, hnone]
  rfl

/-- A temporary copy is made, trades with the target and takes along what that one held. -/
theorem assign (h : Sound m lastSet) {e : SharedDataHolder} (hpq : p ≠ q)
    (hp : m.pointers.get p = some e) (hq : m.pointers.get q = some d) (hset : lastSet q = some o)
    (ho : (m.objects.get o).isSome = true) :
    ∃ m', m.assign p q = .ok m' ∧ m'.objects = m.objects ∧
      (∀ r, (m'.pointers.get r).isSome = (m.pointers.get r).isSome) ∧
      Sound m' (Function.update lastSet p (lastSet q)) := by
  have hne : p ≠ m.pointers.next := Nat.ne_of_lt (Heap.lt_next hp)
  obtain ⟨m₁, hm₁, hobjects₁, hpointers₁, hsound₁⟩ := h.copyPointer hq hset ho
  have hp₁ : m₁.pointers.get p = some e := by rw [hpointers₁, Heap.get_alloc_of_ne _ _ hne, hp]
  have hcopy₁ : m₁.pointers.get m.pointers.next = some { sharedData := lastSet q } := by
    rw [hpointers₁, Heap.get_alloc_next]
  obtain ⟨m₂, hm₂, hobjects₂, hpointers₂, hsound₂⟩ := hsound₁.swap hne hp₁ hcopy₁
  have hcopy₂ : m₂.pointers.get m.pointers.next = some e := by
    rw [hpointers₂, Heap.get_modify_self, Heap.get_modify_of_ne _ _ hne.symm, hcopy₁, Option.map_some]
  obtain ⟨m₃, hm₃, hobjects₃, hpointers₃, hsound₃⟩ := hsound₂.destroyPointer hcopy₂
  refine ⟨m₃, ?_, hobjects₃.trans (hobjects₂.trans hobjects₁), ?_, ?_⟩
  · unfold Memory.assign Memory.pointer
    rw [hp]
    change (if p = q then Except.ok m else do
      let m₁ ← m.copyPointer q
      let m₂ ← m₁.swap p m.pointers.next
      m₂.destroyPointer m.pointers.next) = _
    rw [if_neg hpq, hm₁]
    change (do
      let m₂ ← m₁.swap p m.pointers.next
      m₂.destroyPointer m.pointers.next) = _
    rw [hm₂]
    exact hm₃
  · intro r
    rw [hpointers₃]
    by_cases hr : r = m.pointers.next
    · rw [hr, Heap.get_free_self, Heap.get_of_next_le _ (Nat.le_refl _)]
    · rw [Heap.get_free_of_ne _ hr, hpointers₂, Heap.get_modify_of_ne _ _ hr, hpointers₁]
      by_cases hrp : r = p
      · rw [hrp, Heap.get_modify_self, Heap.get_alloc_of_ne _ _ hne, Option.isSome_map]
      · rw [Heap.get_modify_of_ne _ _ hrp, Heap.get_alloc_of_ne _ _ hr]
  · apply hsound₃.congr
    intro r f hf
    have hr : r ≠ m.pointers.next := by
      rintro rfl
      rw [hpointers₃, Heap.get_free_self] at hf
      cases hf
    rw [Function.update_self]
    by_cases hrp : r = p
    · rw [hrp, Function.update_self, Function.update_self]
    · rw [Function.update_of_ne hrp, Function.update_of_ne hrp, Function.update_of_ne hr,
        Function.update_of_ne hr]

end Sound
end Memory
namespace Tracked
variable {s t u : Tracked} {c : MemoryCall}

/-- No object comes back. -/
def Gone (s t : Tracked) : Prop :=
  ∀ o, o < s.memory.objects.next → s.objectAlive o = false →
    o < t.memory.objects.next ∧ t.objectAlive o = false

theorem Gone.of_objects (h : t.memory.objects = s.memory.objects) : s.Gone t := by
  intro o hlt ho
  unfold objectAlive
  rw [h]
  exact ⟨hlt, ho⟩

theorem Gone.of_alloc {d : SharedDataHolder} (h : t.memory.objects = s.memory.objects.alloc d) :
    s.Gone t := by
  intro o hlt ho
  unfold objectAlive
  rw [h]
  refine ⟨Nat.lt_succ_of_lt hlt, ?_⟩
  rw [Heap.get_alloc_of_ne _ _ (Nat.ne_of_lt hlt)]
  exact ho

theorem Gone.of_free {o : Ref} (h : t.memory.objects = s.memory.objects.free o) : s.Gone t := by
  intro o' hlt ho'
  unfold objectAlive
  rw [h]
  refine ⟨hlt, ?_⟩
  by_cases heq : o' = o
  · rw [heq, Heap.get_free_self]
    rfl
  · rw [Heap.get_free_of_ne _ heq]
    exact ho'

theorem Gone.trans (hst : s.Gone t) (htu : t.Gone u) : s.Gone u := by
  intro o hlt ho
  obtain ⟨hlt', ho'⟩ := hst o hlt ho
  exact htu o hlt' ho'

/-- Of the objects that there were, those are gone that a call destroyed. -/
def Destroyed (s t : Tracked) (calls : List MemoryCall) : Prop :=
  ∀ o, s.objectAlive o = true →
    o < t.memory.objects.next ∧ (t.objectAlive o = false ↔ .destroyObject o ∈ calls)

namespace Destroyed
variable {calls more : List MemoryCall}

theorem lt_next {o : Ref} (ho : s.objectAlive o = true) : o < s.memory.objects.next := by
  obtain ⟨d, hd⟩ := Option.isSome_iff_exists.mp ho
  exact Heap.lt_next hd

theorem of_keep (hnext : s.memory.objects.next ≤ t.memory.objects.next)
    (hobjects : ∀ o, s.objectAlive o = true → t.objectAlive o = true)
    (hcalls : ∀ o, .destroyObject o ∉ calls) : s.Destroyed t calls := by
  intro o ho
  refine ⟨Nat.lt_of_lt_of_le (lt_next ho) hnext, fun hgone => ?_, fun hmem => absurd hmem (hcalls o)⟩
  rw [hobjects o ho] at hgone
  cases hgone

theorem of_objects (h : t.memory.objects = s.memory.objects) (hcalls : ∀ o, .destroyObject o ∉ calls) :
    s.Destroyed t calls := by
  refine of_keep (by rw [h]) (fun o ho => ?_) hcalls
  rwa [objectAlive, h]

theorem of_alloc {d : SharedDataHolder} (h : t.memory.objects = s.memory.objects.alloc d)
    (hcalls : ∀ o, .destroyObject o ∉ calls) : s.Destroyed t calls := by
  refine of_keep (by rw [h]; exact Nat.le_succ _) (fun o ho => ?_) hcalls
  rw [objectAlive, h, Heap.get_alloc_of_ne _ _ (Nat.ne_of_lt (lt_next ho))]
  exact ho

theorem of_free {o : Ref} (h : t.memory.objects = s.memory.objects.free o) :
    s.Destroyed t [.destroyObject o] := by
  intro o' ho'
  refine ⟨by rw [h]; exact lt_next ho', ?_⟩
  rw [objectAlive, h, List.mem_singleton, MemoryCall.destroyObject.injEq]
  by_cases heq : o' = o
  · rw [heq, Heap.get_free_self]
    simp
  · rw [Heap.get_free_of_ne _ heq]
    exact iff_of_false (by rw [objectAlive] at ho'; simp [ho']) heq

theorem trans (h : s.Destroyed t calls) (hgone : t.Gone u) (h' : t.Destroyed u more) :
    s.Destroyed u (calls ++ more) := by
  intro o ho
  obtain ⟨hlt, hcalls⟩ := h o ho
  rw [List.mem_append, ← hcalls]
  cases hlive : t.objectAlive o with
  | false =>
      obtain ⟨hlt', hdead⟩ := hgone o hlt hlive
      exact ⟨hlt', by simp [hdead]⟩
  | true =>
      obtain ⟨hlt', hmore⟩ := h' o hlive
      exact ⟨hlt', by simp [hmore]⟩

end Destroyed

theorem perform_ok {m : Memory} (h : call s.memory c = .ok m) :
    s.perform c = .ok { memory := m, lastSet := s.sets c } := by
  unfold perform
  rw [h]
  rfl

/-- Every call that is admitted goes through. -/
theorem perform_sound (h : s.memory.Sound s.lastSet) (hc : s.admits c = true) :
    ∃ t, s.perform c = .ok t ∧ t.memory.Sound t.lastSet ∧ s.Gone t ∧ s.Destroyed t [c] := by
  cases c with
  | createObject =>
      obtain ⟨m, hm, hobjects, -, hsound⟩ := h.createObject
      exact ⟨_, perform_ok hm, hsound, .of_alloc hobjects, .of_alloc hobjects (by simp)⟩
  | destroyObject o =>
      obtain ⟨d, hd⟩ := Option.isSome_iff_exists.mp hc
      obtain ⟨m, hm, hobjects, -, hsound⟩ := h.destroyObject hd
      exact ⟨_, perform_ok hm, hsound, .of_free hobjects, .of_free hobjects⟩
  | createPointer object =>
      have hobject : ∀ o ∈ object, (s.memory.objects.get o).isSome = true := by
        rintro o ⟨⟩
        exact hc
      obtain ⟨m, hm, hobjects, hsound⟩ := h.createPointer hobject
      exact ⟨_, perform_ok hm, hsound, .of_objects hobjects, .of_objects hobjects (by simp)⟩
  | copyPointer other =>
      obtain ⟨hother, hrefers⟩ := Bool.and_eq_true_iff.mp hc
      obtain ⟨d, hd⟩ := Option.isSome_iff_exists.mp hother
      obtain ⟨o, ho, halive⟩ := (Option.any_eq_true _ _).mp hrefers
      obtain ⟨m, hm, hobjects, -, hsound⟩ := h.copyPointer hd ho halive
      exact ⟨_, perform_ok hm, hsound, .of_objects hobjects, .of_objects hobjects (by simp)⟩
  | assign p other =>
      obtain ⟨hboth, hsource⟩ := Bool.and_eq_true_iff.mp hc
      obtain ⟨hp, hother⟩ := Bool.and_eq_true_iff.mp hboth
      obtain ⟨e, he⟩ := Option.isSome_iff_exists.mp hp
      obtain ⟨d, hd⟩ := Option.isSome_iff_exists.mp hother
      by_cases hself : p = other
      · subst hself
        have hcall : s.memory.assign p p = .ok s.memory := by
          unfold Memory.assign Memory.pointer
          rw [he]
          exact if_pos rfl
        refine ⟨_, perform_ok hcall, ?_, .of_objects rfl, .of_objects rfl (by simp)⟩
        rw [sets, Function.update_eq_self]
        exact h
      · rw [decide_eq_false hself, Bool.false_or] at hsource
        obtain ⟨o, ho, halive⟩ := (Option.any_eq_true _ _).mp hsource
        obtain ⟨m, hm, hobjects, -, hsound⟩ := h.assign hself he hd ho halive
        exact ⟨_, perform_ok hm, hsound, .of_objects hobjects, .of_objects hobjects (by simp)⟩
  | destroyPointer p =>
      obtain ⟨d, hd⟩ := Option.isSome_iff_exists.mp hc
      obtain ⟨m, hm, hobjects, -, hsound⟩ := h.destroyPointer hd
      exact ⟨_, perform_ok hm, hsound, .of_objects hobjects, .of_objects hobjects (by simp)⟩

/-- Every call is admitted when it comes. -/
def admitted : Tracked → List MemoryCall → Bool
  | _, [] => true
  | s, c :: calls =>
      s.admits c &&
        match s.perform c with
        | .error _ => true
        | .ok t => admitted t calls

theorem run_sound {calls later : List MemoryCall} (h : s.memory.Sound s.lastSet)
    (hcalls : s.admitted (calls ++ later) = true) :
    ∃ t, s.run calls = .ok t ∧ t.memory.Sound t.lastSet ∧ s.Gone t ∧ s.Destroyed t calls ∧
      t.admitted later = true := by
  induction calls generalizing s with
  | nil => exact ⟨s, rfl, h, .of_objects rfl, .of_objects rfl (by simp), hcalls⟩
  | cons c calls ih =>
      obtain ⟨hc, hrest⟩ := Bool.and_eq_true_iff.mp hcalls
      obtain ⟨t, ht, hsound, hgone, hdestroyed⟩ := perform_sound h hc
      rw [ht] at hrest
      obtain ⟨u, hu, hsound', hgone', hdestroyed', hlater⟩ := ih hsound hrest
      refine ⟨u, ?_, hsound', hgone.trans hgone', hdestroyed.trans hgone' hdestroyed', hlater⟩
      unfold run
      rw [List.foldlM_cons, ht]
      exact hu

/-- What the counters, the blocks and the pointers say, in one state. Block `b` is the one
that object `b` made. -/
structure Exact (s : Tracked) : Prop where
  counts : ∀ b d, s.memory.blocks.get b = some d → d.refCounter = s.memory.holders b
  freed : ∀ b, s.memory.blocks.get b = none ↔ s.memory.holders b = 0
  joined : ∀ o d, s.memory.objects.get o = some d → d.sharedData = some o
  cleared : ∀ b d, s.memory.blocks.get b = some d →
    (d.object = none ↔ s.objectAlive b = false)
  data : ∀ p, s.pointerAlive p = true →
    s.memory.data p = .ok ((s.lastSet p).filter s.objectAlive)

theorem exact_of_sound (h : s.memory.Sound s.lastSet) : s.Exact := by
  constructor
  · exact h.counted.exact
  · intro b
    rw [← Nat.le_zero, ← Nat.not_lt, h.counted.held b, Option.eq_none_iff_forall_ne_some,
      not_exists]
  · exact h.own
  · intro b d hd
    rw [h.noted b d hd, objectAlive]
    cases s.memory.objects.get b <;> simp
  · intro p hp
    obtain ⟨d, hd⟩ := Option.isSome_iff_exists.mp hp
    exact h.data_eq hd

/-- Whatever is made, set, copied and destroyed, in any order: no call touches a block that is
freed, every counter is exact, and a pointer gives its object until that one is
destroyed, which is for good. The objects that are gone are those that were destroyed. -/
theorem weak_pointers_exact (calls later : List MemoryCall)
    (h : admitted {} (calls ++ later) = true) :
    ∃ s t, run {} calls = .ok s ∧ s.run later = .ok t ∧ s.Exact ∧ t.Exact ∧ s.Gone t ∧
      ∀ o, s.objectAlive o = true → (t.objectAlive o = false ↔ .destroyObject o ∈ later) := by
  obtain ⟨s, hs, hsound, -, -, hlater⟩ := run_sound (s := {}) (.empty _) h
  rw [← List.append_nil later] at hlater
  obtain ⟨t, ht, hsound', hgone, hdestroyed, -⟩ := run_sound hsound hlater
  exact ⟨s, t, hs, ht, exact_of_sound hsound, exact_of_sound hsound', hgone,
    fun o ho => (hdestroyed o ho).2⟩

/-- Two objects; a pointer moves from one to the other and outlives both. -/
theorem weak_pointers_exact_two_objects :
    ∃ s t, run {} [.createObject, .createObject, .createPointer (some 0), .createPointer (some 1),
        .assign 0 1, .copyPointer 0, .destroyObject 1] = .ok s ∧
      s.run [.assign 0 0, .destroyPointer 1, .destroyObject 0] = .ok t ∧ s.Exact ∧ t.Exact ∧
        s.Gone t ∧ ∀ o, s.objectAlive o = true → (t.objectAlive o = false ↔
          .destroyObject o ∈ [MemoryCall.assign 0 0, .destroyPointer 1, .destroyObject 0]) :=
  weak_pointers_exact _ _ (by decide)

end Tracked
end DeviceMonitoring
