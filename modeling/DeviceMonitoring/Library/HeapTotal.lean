import DeviceMonitoring.Library.Heap
import Mathlib.Algebra.BigOperators.Group.Finset.Basic

/-! A sum over the objects of a heap. -/
namespace Heap
variable {α M : Type} [AddCommMonoid M]

def total (h : Heap α) (f : α → M) : M := ∑ r ∈ Finset.range h.next, ((h.get r).map f).getD 0

/-- One object apart from the others. -/
theorem total_split (h : Heap α) {r : Ref} (hr : r < h.next) (f : α → M) :
    h.total f = (∑ s ∈ (Finset.range h.next).erase r, ((h.get s).map f).getD 0) +
      ((h.get r).map f).getD 0 :=
  (Finset.sum_erase_add _ _ (Finset.mem_range.mpr hr)).symm

theorem total_modify {h : Heap α} {r : Ref} {a : α} (hr : h.get r = some a) (g : α → α) (f : α → M) :
    (h.modify r g).total f + f a = h.total f + f (g a) := by
  have hlt : r < h.next := lt_next hr
  have hrest : ∑ s ∈ (Finset.range h.next).erase r, (((h.modify r g).get s).map f).getD 0 =
      ∑ s ∈ (Finset.range h.next).erase r, ((h.get s).map f).getD 0 := by
    apply Finset.sum_congr rfl
    intro s hs
    rw [get_modify_of_ne h g (Finset.ne_of_mem_erase hs)]
  rw [h.total_split hlt, total_split (h.modify r g) hlt, next_modify, hrest,
    get_modify_self, hr]
  exact add_right_comm _ _ _

/-- What an object gives away and gets shows in the sum. -/
theorem total_exchange {M : Type} [AddCancelCommMonoid M] {h : Heap α} {r : Ref} {a : α}
    (hr : h.get r = some a) {g : α → α} {f : α → M} {went came : M} (hf : f (g a) + went = f a + came) :
    (h.modify r g).total f + went = h.total f + came := by
  apply add_right_cancel (b := f a)
  calc
    (h.modify r g).total f + went + f a = (h.modify r g).total f + f a + went := add_right_comm _ _ _
    _ = h.total f + (f (g a) + went) := by rw [total_modify hr, add_assoc]
    _ = h.total f + came + f a := by rw [hf, add_comm (f a), add_assoc]

theorem total_free {h : Heap α} {r : Ref} {a : α} (hr : h.get r = some a) (f : α → M) :
    (h.free r).total f + f a = h.total f := by
  have hlt : r < h.next := lt_next hr
  have hrest : ∑ s ∈ (Finset.range h.next).erase r, (((h.free r).get s).map f).getD 0 =
      ∑ s ∈ (Finset.range h.next).erase r, ((h.get s).map f).getD 0 := by
    apply Finset.sum_congr rfl
    intro s hs
    rw [get_free_of_ne h (Finset.ne_of_mem_erase hs)]
  rw [h.total_split hlt, total_split (h.free r) hlt, next_free, hrest, get_free_self,
    hr]
  exact congrArg (· + f a) (add_zero _)

/-- A new object. -/
theorem total_alloc (h : Heap α) (a : α) (f : α → M) : (h.alloc a).total f = h.total f + f a := by
  have hrest : ∑ s ∈ (Finset.range (h.next + 1)).erase h.next, (((h.alloc a).get s).map f).getD 0 =
      ∑ s ∈ Finset.range h.next, ((h.get s).map f).getD 0 := by
    rw [Finset.range_add_one, Finset.erase_insert Finset.notMem_range_self]
    apply Finset.sum_congr rfl
    intro s hs
    rw [get_alloc_of_ne h a (Nat.ne_of_lt (Finset.mem_range.mp hs))]
  rw [total_split (h.alloc a) (Nat.lt_succ_self h.next), next_alloc, hrest, get_alloc_next]
  rfl

theorem total_eq_zero {h : Heap α} {f : α → M} (hf : ∀ r a, h.get r = some a → f a = 0) :
    h.total f = 0 := by
  apply Finset.sum_eq_zero
  intro r _
  cases hr : h.get r with
  | none => rfl
  | some a => exact hf r a hr

theorem mem_total {ι : Type} {h : Heap α} {f : α → Multiset ι} {i : ι} :
    i ∈ h.total f ↔ ∃ r a, h.get r = some a ∧ i ∈ f a := by
  unfold total
  rw [Multiset.mem_sum]
  constructor
  · rintro ⟨r, -, hi⟩
    cases hr : h.get r with
    | none =>
        rw [hr] at hi
        exact absurd hi (Multiset.notMem_zero i)
    | some a =>
        rw [hr] at hi
        exact ⟨r, a, hr, hi⟩
  · rintro ⟨r, a, hr, hi⟩
    refine ⟨r, Finset.mem_range.mpr (lt_next hr), ?_⟩
    rw [hr]
    exact hi

end Heap
