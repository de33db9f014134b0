import DeviceMonitoring.Library.Heap

/-! Reference counting over a heap: a block carries the number of its holders, and goes
with the last of them. -/
namespace Heap
variable {α : Type} {count : α → Nat} {h : Heap α} {holders : Ref → Nat} {r : Ref}

/-- Every block counts its holders, and is there exactly as long as it has one. -/
structure Counted (count : α → Nat) (h : Heap α) (holders : Ref → Nat) : Prop where
  exact : ∀ r a, h.get r = some a → count a = holders r
  held : ∀ r, 0 < holders r ↔ ∃ a, h.get r = some a

namespace Counted

theorem empty : Counted count ({} : Heap α) fun _ => 0 := by
  constructor
  · intro r a ha
    cases ha
  · intro r
    simp [get]

theorem alloc (hc : Counted count h holders) {a : α} (ha : count a = 1) {holders' : Ref → Nat}
    (hnew : holders' h.next = 1) (hrest : ∀ s, s ≠ h.next → holders' s = holders s) :
    Counted count (h.alloc a) holders' := by
  constructor
  · intro s b hb
    rcases get_alloc_eq_some.mp hb with ⟨rfl, rfl⟩ | hb
    · rw [ha, hnew]
    · rw [hrest s (Nat.ne_of_lt (lt_next hb))]
      exact hc.exact s b hb
  · intro s
    by_cases hs : s = h.next
    · subst hs
      simp [hnew]
    · rw [hrest s hs, hc.held s, h.get_alloc_of_ne a hs]

theorem keep (hc : Counted count h holders) {f : α → α} (hf : ∀ a, count (f a) = count a) :
    Counted count (h.modify r f) holders := by
  constructor
  · intro s b hb
    obtain ⟨a, ha, rfl⟩ := get_modify_eq_some.mp hb
    rw [← hc.exact s a ha]
    split
    · exact hf a
    · rfl
  · intro s
    rw [hc.held s]
    simp only [get_modify_eq_some]
    constructor
    · rintro ⟨a, ha⟩
      exact ⟨_, a, ha, rfl⟩
    · rintro ⟨_, a, ha, -⟩
      exact ⟨a, ha⟩

section Change
variable {holders' : Ref → Nat} (hrest : ∀ s, s ≠ r → holders' s = holders s)
include hrest

/-- The counter of a block follows its holders to a number that is not zero. -/
theorem set (hc : Counted count h holders) {f : α → α} {a : α} (ha : h.get r = some a)
    (hf : count (f a) = holders' r) (hpos : 0 < holders' r) :
    Counted count (h.modify r f) holders' := by
  constructor
  · intro s b hb
    obtain ⟨a', ha', rfl⟩ := get_modify_eq_some.mp hb
    by_cases hs : s = r
    · subst hs
      rw [ha] at ha'
      cases ha'
      rw [if_pos rfl, hf]
    · rw [if_neg hs, hrest s hs]
      exact hc.exact s a' ha'
  · intro s
    by_cases hs : s = r
    · subst hs
      simp [hpos, ha]
    · rw [hrest s hs, hc.held s, get_modify_of_ne h f hs]

theorem retain (hc : Counted count h holders) {f : α → α} {a : α} (ha : h.get r = some a)
    (hf : count (f a) = count a + 1) (hr : holders' r = holders r + 1) :
    Counted count (h.modify r f) holders' := by
  apply hc.set hrest ha
  · rw [hf, hr, hc.exact r a ha]
  · exact hr ▸ Nat.succ_pos _

/-- One holder less: the last one takes the block along. -/
theorem release (hc : Counted count h holders) {f : α → α} {a : α} (ha : h.get r = some a)
    (hf : count (f a) = count a - 1) (hr : holders' r + 1 = holders r) :
    Counted count (if count a - 1 = 0 then h.free r else h.modify r f) holders' := by
  have hcount := hc.exact r a ha
  split
  next hlast =>
    constructor
    · intro s b hb
      obtain ⟨hs, hb⟩ := get_free_eq_some.mp hb
      rw [hrest s hs]
      exact hc.exact s b hb
    · intro s
      by_cases hs : s = r
      · subst hs
        have hnone : holders' s = 0 := by omega
        simp [hnone]
      · rw [hrest s hs, hc.held s, get_free_of_ne h hs]
  next hmore =>
    apply hc.set hrest ha
    · omega
    · omega

end Change
end Counted
end Heap
