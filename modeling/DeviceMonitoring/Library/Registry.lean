import DeviceMonitoring.Library.Heap

/-! A registry: objects carry identifiers, and a map leads from an identifier back to the
object. `zero` is the identifier of an object that is not registered. -/

/-- The map holds every object under its identifier, and nothing else. -/
def Registered {ι : Type} (zero : ι) (ids : Ref → Option ι) (map : ι → Option Ref) : Prop :=
  ∀ k r, map k = some r ↔ k ≠ zero ∧ ids r = some k

namespace Registered
variable {ι : Type} {zero : ι} {ids : Ref → Option ι} {map : ι → Option Ref}

theorem empty : Registered zero (fun _ => none) fun _ => none := by
  intro k r
  simp

theorem unique (h : Registered zero ids map) {k : ι} {r s : Ref} (hk : k ≠ zero)
    (hr : ids r = some k) (hs : ids s = some k) : r = s := by
  have hmap := (h k r).mpr ⟨hk, hr⟩
  rw [(h k s).mpr ⟨hk, hs⟩] at hmap
  exact (Option.some.inj hmap).symm

theorem ignore (h : Registered zero ids map) {r : Ref} {x y : Option ι}
    (hr : ids r = x) (hx : x = none ∨ x = some zero) (hy : y = none ∨ y = some zero) :
    Registered zero (Function.update ids r y) map := by
  intro k s
  rw [h k s]
  apply and_congr_right
  intro hk
  by_cases hs : s = r
  · subst hs
    rw [Function.update_self, hr]
    rcases hx with rfl | rfl <;> rcases hy with rfl | rfl <;> simp [hk.symm]
  · rw [Function.update_of_ne hs]

variable [DecidableEq ι]

/-- An object gives up its identifier, or goes. -/
theorem unregister (h : Registered zero ids map) {r : Ref} {k : ι} {y : Option ι}
    (hr : ids r = some k) (hy : y = none ∨ y = some zero) :
    Registered zero (Function.update ids r y) (Function.update map k none) := by
  intro l s
  by_cases hs : s = r
  · subst hs
    rw [Function.update_self]
    have hne : ¬(l ≠ zero ∧ y = some l) := by
      rintro ⟨hl, hyl⟩
      rcases hy with rfl | rfl
      · cases hyl
      · exact hl (Option.some.inj hyl).symm
    simp only [hne, iff_false]
    intro hmap
    by_cases hl : l = k
    · rw [hl, Function.update_self] at hmap
      cases hmap
    · rw [Function.update_of_ne hl] at hmap
      have hid := ((h l s).mp hmap).2
      rw [hr] at hid
      exact hl (Option.some.inj hid).symm
  · rw [Function.update_of_ne hs]
    by_cases hl : l = k
    · subst hl
      rw [Function.update_self]
      simp only [reduceCtorEq, false_iff, not_and]
      exact fun hl hid => hs (h.unique hl hid hr)
    · rw [Function.update_of_ne hl]
      exact h l s

theorem register (h : Registered zero ids map) {r : Ref} {k : ι}
    (hr : ids r = none ∨ ids r = some zero) (hk : k ≠ zero) (hfree : map k = none) :
    Registered zero (Function.update ids r (some k)) (Function.update map k (some r)) := by
  intro l s
  by_cases hs : s = r
  · subst hs
    rw [Function.update_self]
    by_cases hl : l = k
    · subst hl
      simp [hk]
    · rw [Function.update_of_ne hl]
      have hne : ¬map l = some s := by
        intro hmap
        obtain ⟨hl, hid⟩ := (h l s).mp hmap
        rcases hr with hr | hr
        · rw [hr] at hid
          cases hid
        · rw [hr] at hid
          exact hl (Option.some.inj hid).symm
      simp [hne, Ne.symm hl]
  · rw [Function.update_of_ne hs]
    by_cases hl : l = k
    · subst hl
      rw [Function.update_self, ← h l s, hfree]
      simp [Ne.symm hs]
    · rw [Function.update_of_ne hl]
      exact h l s

/-- An object changes its identifier for one that is free. -/
theorem rename (h : Registered zero ids map) {r : Ref} {old k : ι} (hr : ids r = some old)
    (hk : k ≠ zero) (hfree : map k = none) :
    Registered zero (Function.update ids r (some k))
      (Function.update (Function.update map old none) k (some r)) := by
  have hfree' : Function.update map old none k = none := by
    by_cases ho : k = old
    · rw [ho, Function.update_self]
    · rw [Function.update_of_ne ho, hfree]
  have hset := (h.unregister hr (.inl rfl)).register (.inl (Function.update_self ..)) hk hfree'
  simpa only [Function.update_idem] using hset

end Registered
