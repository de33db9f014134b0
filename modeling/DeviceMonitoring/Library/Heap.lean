import Mathlib.Data.Finset.Card
import Mathlib.Data.Finset.Range
import Mathlib.Logic.Function.Basic

/-! A heap of objects named by references. A reference is used once: after an
object is freed, its reference reads nothing for ever. -/

abbrev Ref := Nat

structure Heap (α : Type) where
  cells : Ref → Option α := fun _ => none
  next : Ref := 0
  unused : ∀ r, next ≤ r → cells r = none := by intros; rfl

namespace Heap
variable {α : Type}

def get (h : Heap α) (r : Ref) : Option α := h.cells r

theorem get_of_next_le (h : Heap α) {r : Ref} (hr : h.next ≤ r) : h.get r = none := h.unused r hr

theorem lt_next {h : Heap α} {r : Ref} {a : α} (hr : h.get r = some a) : r < h.next := by
  by_contra hle
  rw [h.get_of_next_le (Nat.le_of_not_lt hle)] at hr
  cases hr

/-- The new object gets the reference `h.next`. -/
def alloc (h : Heap α) (a : α) : Heap α where
  cells := Function.update h.cells h.next (some a)
  next := h.next + 1
  unused := by
    intro r hr
    rw [Function.update_of_ne (Nat.ne_of_gt hr)]
    exact h.unused r (Nat.le_of_lt hr)

def modify (h : Heap α) (r : Ref) (f : α → α) : Heap α where
  cells := Function.update h.cells r ((h.cells r).map f)
  next := h.next
  unused := by
    intro s hs
    by_cases hsr : s = r
    · subst hsr
      rw [Function.update_self, h.unused s hs]
      rfl
    · rw [Function.update_of_ne hsr]
      exact h.unused s hs

def free (h : Heap α) (r : Ref) : Heap α where
  cells := Function.update h.cells r none
  next := h.next
  unused := by
    intro s hs
    by_cases hsr : s = r
    · subst hsr
      exact Function.update_self ..
    · rw [Function.update_of_ne hsr]
      exact h.unused s hs

@[simp] theorem next_alloc (h : Heap α) (a : α) : (h.alloc a).next = h.next + 1 := rfl
@[simp] theorem next_modify (h : Heap α) (r : Ref) (f : α → α) : (h.modify r f).next = h.next := rfl
@[simp] theorem next_free (h : Heap α) (r : Ref) : (h.free r).next = h.next := rfl

@[simp] theorem get_alloc_next (h : Heap α) (a : α) : (h.alloc a).get h.next = some a :=
  Function.update_self ..

theorem get_alloc_of_ne (h : Heap α) (a : α) {r : Ref} (hr : r ≠ h.next) :
    (h.alloc a).get r = h.get r := Function.update_of_ne hr ..

@[simp] theorem get_modify_self (h : Heap α) (r : Ref) (f : α → α) :
    (h.modify r f).get r = (h.get r).map f := Function.update_self ..

@[simp] theorem get_modify_of_ne (h : Heap α) {r s : Ref} (f : α → α) (hs : s ≠ r) :
    (h.modify r f).get s = h.get s := Function.update_of_ne hs ..

@[simp] theorem get_free_self (h : Heap α) (r : Ref) : (h.free r).get r = none :=
  Function.update_self ..

@[simp] theorem get_free_of_ne (h : Heap α) {r s : Ref} (hs : s ≠ r) : (h.free r).get s = h.get s :=
  Function.update_of_ne hs ..

theorem get_free_eq_some {h : Heap α} {r s : Ref} {a : α} :
    (h.free r).get s = some a ↔ s ≠ r ∧ h.get s = some a := by
  by_cases hs : s = r
  · subst hs
    simp
  · simp [hs]

/-- What a modified object reads: the update of what was there. -/
theorem get_modify_eq_some {h : Heap α} {r s : Ref} {f : α → α} {b : α} :
    (h.modify r f).get s = some b ↔
      ∃ a, h.get s = some a ∧ b = if s = r then f a else a := by
  by_cases hs : s = r
  · subst hs
    simp [eq_comm]
  · simp [hs]

theorem get_alloc_eq_some {h : Heap α} {s : Ref} {a b : α} :
    (h.alloc a).get s = some b ↔ s = h.next ∧ b = a ∨ h.get s = some b := by
  by_cases hs : s = h.next
  · subst hs
    simp [h.get_of_next_le (Nat.le_refl _), eq_comm]
  · simp [h.get_alloc_of_ne a hs, hs]

/-- An update does not show in what it keeps. -/
theorem map_get_modify {β : Type} (h : Heap α) (r s : Ref) {f : α → α} {p : α → β}
    (hp : ∀ a, p (f a) = p a) : ((h.modify r f).get s).map p = (h.get s).map p := by
  by_cases hs : s = r
  · subst hs
    rw [get_modify_self, Option.map_map]
    congr 1
    funext a
    exact hp a
  · rw [get_modify_of_ne h f hs]

/-- What a projection reads of the objects. -/
def view {β : Type} (h : Heap α) (p : α → β) (r : Ref) : Option β := (h.get r).map p

section View
variable {β : Type} (h : Heap α) (p : α → β)

theorem view_eq_some {r : Ref} {b : β} : h.view p r = some b ↔ ∃ a, h.get r = some a ∧ p a = b :=
  Option.map_eq_some_iff

theorem view_next : h.view p h.next = none := by
  unfold view
  rw [h.get_of_next_le (Nat.le_refl _), Option.map_none]

theorem view_alloc (a : α) : (h.alloc a).view p = Function.update (h.view p) h.next (some (p a)) := by
  funext s
  unfold view
  by_cases hs : s = h.next
  · subst hs
    simp
  · rw [h.get_alloc_of_ne a hs, Function.update_of_ne hs]

theorem view_modify (r : Ref) (f : α → α) :
    (h.modify r f).view p = Function.update (h.view p) r ((h.get r).map fun a => p (f a)) := by
  funext s
  unfold view
  by_cases hs : s = r
  · subst hs
    simp [Function.comp_def]
  · rw [h.get_modify_of_ne f hs, Function.update_of_ne hs]

theorem view_free (r : Ref) : (h.free r).view p = Function.update (h.view p) r none := by
  funext s
  unfold view
  by_cases hs : s = r
  · subst hs
    simp
  · rw [h.get_free_of_ne hs, Function.update_of_ne hs]

theorem view_modify_of_keep (r : Ref) {f : α → α} (hp : ∀ a, p (f a) = p a) :
    (h.modify r f).view p = h.view p := by
  funext s
  exact h.map_get_modify r s hp

end View

@[ext] theorem ext {h k : Heap α} (hcells : ∀ r, h.get r = k.get r) (hnext : h.next = k.next) :
    h = k := by
  obtain ⟨cells, next, unused⟩ := h
  obtain ⟨cells', next', unused'⟩ := k
  obtain rfl : cells = cells' := funext hcells
  obtain rfl : next = next' := hnext
  rfl

/-- A new object that is modified at once. -/
@[simp] theorem modify_alloc (h : Heap α) (a : α) (f : α → α) :
    (h.alloc a).modify h.next f = h.alloc (f a) := by
  ext r : 1
  · by_cases hr : r = h.next
    · subst hr
      simp
    · rw [get_modify_of_ne _ f hr, get_alloc_of_ne _ _ hr, get_alloc_of_ne _ _ hr]
  · rfl

@[simp] theorem modify_alloc_alloc (h : Heap α) (a b : α) (f : α → α) :
    ((h.alloc a).alloc b).modify h.next f = (h.alloc (f a)).alloc b := by
  have hne : h.next ≠ (h.alloc a).next := (Nat.succ_ne_self _).symm
  ext r : 1
  · by_cases hr : r = h.next
    · subst hr
      have hne' : h.next ≠ (h.alloc (f a)).next := hne
      rw [get_modify_self, get_alloc_of_ne _ b hne, get_alloc_of_ne _ b hne']
      simp
    · rw [get_modify_of_ne _ f hr]
      by_cases hr' : r = h.next + 1
      · subst hr'
        exact (get_alloc_next ..).trans (get_alloc_next ..).symm
      · rw [get_alloc_of_ne _ _ hr', get_alloc_of_ne _ _ hr, get_alloc_of_ne _ _ hr',
          get_alloc_of_ne _ _ hr]
  · rfl

theorem free_modify (h : Heap α) (r : Ref) (f : α → α) : (h.modify r f).free r = h.free r := by
  ext s : 1
  · by_cases hs : s = r
    · subst hs
      rw [get_free_self, get_free_self]
    · rw [get_free_of_ne _ hs, get_free_of_ne _ hs, get_modify_of_ne h f hs]
  · rfl

theorem modify_modify (h : Heap α) (r : Ref) (f g : α → α) :
    (h.modify r f).modify r g = h.modify r fun a => g (f a) := by
  ext s : 1
  · by_cases hs : s = r
    · rw [hs, get_modify_self, get_modify_self, get_modify_self, Option.map_map]
      rfl
    · rw [get_modify_of_ne _ _ hs, get_modify_of_ne _ _ hs, get_modify_of_ne _ _ hs]
  · rfl

theorem modify_of_none {h : Heap α} {r : Ref} (hr : h.get r = none) (f : α → α) : h.modify r f = h := by
  ext s : 1
  · by_cases hs : s = r
    · rw [hs, get_modify_self, hr]
      rfl
    · exact get_modify_of_ne h f hs
  · rfl

theorem free_of_none {h : Heap α} {r : Ref} (hr : h.get r = none) : h.free r = h := by
  ext s : 1
  · by_cases hs : s = r
    · rw [hs, get_free_self, hr]
    · exact get_free_of_ne _ hs
  · rfl

/-- The number of objects with a property. -/
def count (h : Heap α) (p : α → Bool) : Nat :=
  ((Finset.range h.next).filter fun r => (h.get r).any p = true).card

theorem count_le_next (h : Heap α) (p : α → Bool) : h.count p ≤ h.next := by
  have hle := Finset.card_filter_le (Finset.range h.next) fun r => (h.get r).any p = true
  rwa [Finset.card_range] at hle

/-- An update that takes the property from an object lowers the count. -/
theorem count_modify_lt {h : Heap α} {p : α → Bool} {r : Ref} {f : α → α} {a : α}
    (hr : h.get r = some a) (hp : p a = true) (hf : p (f a) = false) :
    (h.modify r f).count p < h.count p := by
  apply Finset.card_lt_card
  constructor
  · intro s hs
    rw [Finset.mem_filter] at hs ⊢
    obtain ⟨hlt, hany⟩ := hs
    by_cases hsr : s = r
    · subst hsr
      simp [hr, hf] at hany
    · rw [get_modify_of_ne h f hsr] at hany
      exact ⟨hlt, hany⟩
  · intro hsub
    have hmem : r ∈ (Finset.range h.next).filter fun r => (h.get r).any p = true := by
      rw [Finset.mem_filter, Finset.mem_range]
      exact ⟨lt_next hr, by simp [hr, hp]⟩
    have hmem' := hsub hmem
    rw [Finset.mem_filter] at hmem'
    simp [hr, hf] at hmem'

/-- A freed object leaves the count. -/
theorem count_free {h : Heap α} {r : Ref} {a : α} (hr : h.get r = some a) (p : α → Bool) :
    (h.free r).count p + (p a).toNat = h.count p := by
  have herase : ((Finset.range h.next).filter fun s => ((h.free r).get s).any p = true) =
      ((Finset.range h.next).filter fun s => (h.get s).any p = true).erase r := by
    ext s
    by_cases hs : s = r
    · subst hs
      simp
    · simp [hs]
  unfold count
  rw [next_free, herase]
  cases hp : p a with
  | true =>
      apply Finset.card_erase_add_one
      rw [Finset.mem_filter, Finset.mem_range]
      exact ⟨lt_next hr, by simp [hr, hp]⟩
  | false =>
      rw [Finset.erase_eq_of_notMem]
      · rfl
      · simp [hr, hp]

theorem count_modify {h : Heap α} {r : Ref} {a : α} (hr : h.get r = some a) (f : α → α)
    (p : α → Bool) :
    (h.modify r f).count p + (p a).toNat = h.count p + (p (f a)).toNat := by
  have hmodify : (h.modify r f).get r = some (f a) := by rw [get_modify_self, hr, Option.map_some]
  have hfree := count_free hmodify p
  rw [free_modify] at hfree
  have hfree' := count_free hr p
  omega

theorem count_alloc (h : Heap α) (a : α) (p : α → Bool) :
    (h.alloc a).count p = h.count p + (p a).toNat := by
  have hfree := count_free (h.get_alloc_next a) p
  have hkeep : ((h.alloc a).free h.next).count p = h.count p := by
    have hnone : h.get h.next = none := h.get_of_next_le (Nat.le_refl _)
    unfold count
    rw [next_free, next_alloc, Finset.range_add_one, Finset.filter_insert]
    simp only [get_free_self, Option.any_none, Bool.false_eq_true, if_false]
    congr 1
    apply Finset.filter_congr
    intro s hs
    have hne : s ≠ h.next := Nat.ne_of_lt (Finset.mem_range.mp hs)
    rw [get_free_of_ne _ hne, get_alloc_of_ne h a hne]
  rw [hkeep] at hfree
  exact hfree.symm

/-- An object with the property is counted. -/
theorem count_pos {h : Heap α} {p : α → Bool} {r : Ref} {a : α} (hr : h.get r = some a)
    (hp : p a = true) : 0 < h.count p := by
  have hfree := count_free hr p
  rw [hp] at hfree
  exact hfree ▸ Nat.succ_pos _

end Heap
