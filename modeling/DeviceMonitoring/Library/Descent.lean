import DeviceMonitoring.Library.Heap

/-! A heap whose objects were all there before, each with what a projection read of it. -/
namespace Heap
variable {α β : Type} {p : α → β} {h k l : Heap α}

def Descends (p : α → β) (h k : Heap α) : Prop := ∀ r b, k.view p r = some b → h.view p r = some b

theorem Descends.refl (h : Heap α) : h.Descends p h := fun _ _ hb => hb

theorem Descends.trans (hk : h.Descends p k) (hl : k.Descends p l) : h.Descends p l :=
  fun r b hb => hk r b (hl r b hb)

theorem Descends.modify (h : Heap α) (r : Ref) {f : α → α} (hf : ∀ a, p (f a) = p a) :
    h.Descends p (h.modify r f) := by
  intro s b hb
  rwa [view_modify_of_keep _ _ _ hf] at hb

theorem Descends.free (h : Heap α) (r : Ref) : h.Descends p (h.free r) := by
  intro s b hb
  obtain ⟨a, ha, rfl⟩ := (view_eq_some _ _).mp hb
  exact (view_eq_some _ _).mpr ⟨a, (get_free_eq_some.mp ha).2, rfl⟩

/-- An object that comes and goes. -/
theorem Descends.free_alloc (h : Heap α) (a : α) : h.Descends p ((h.alloc a).free h.next) := by
  intro s b hb
  obtain ⟨a', ha, rfl⟩ := (view_eq_some _ _).mp hb
  obtain ⟨hne, ha⟩ := get_free_eq_some.mp ha
  rw [get_alloc_of_ne h a hne] at ha
  exact (view_eq_some _ _).mpr ⟨a', ha, rfl⟩

end Heap
