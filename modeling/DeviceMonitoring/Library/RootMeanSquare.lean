import Mathlib.Algebra.Order.BigOperators.Group.List
import Mathlib.Analysis.Real.Sqrt

/-! The root mean square of a list of reals lies between the bounds of its elements. -/
namespace RootMeanSquare

noncomputable def rms (xs : List ℝ) : ℝ := Real.sqrt ((xs.map (· ^ 2)).sum / xs.length)

variable {xs : List ℝ} {b : ℝ}

theorem sum_nonneg (xs : List ℝ) : 0 ≤ (xs.map (· ^ 2)).sum := by
  refine List.sum_nonneg fun y hy => ?_
  obtain ⟨x, -, rfl⟩ := List.mem_map.mp hy
  exact sq_nonneg x

theorem rms_le (hb : 0 ≤ b) (h : ∀ x ∈ xs, |x| ≤ b) : rms xs ≤ b := by
  have hsum : (xs.map (· ^ 2)).sum ≤ xs.length * b ^ 2 := by
    have hterms : ∀ y ∈ xs.map (· ^ 2), y ≤ b ^ 2 := by
      intro y hy
      obtain ⟨x, hx, rfl⟩ := List.mem_map.mp hy
      exact sq_le_sq.mpr (by rw [abs_of_nonneg hb]; exact h x hx)
    simpa using List.sum_le_card_nsmul _ _ hterms
  refine Real.sqrt_le_iff.mpr ⟨hb, ?_⟩
  rcases Nat.eq_zero_or_pos xs.length with hnil | hpos
  · rw [hnil, Nat.cast_zero, div_zero]
    exact sq_nonneg b
  · rw [div_le_iff₀ (Nat.cast_pos.mpr hpos), mul_comm]
    exact hsum

theorem le_rms (hne : xs ≠ []) (hb : 0 ≤ b) (h : ∀ x ∈ xs, b ≤ |x|) : b ≤ rms xs := by
  have hsum : xs.length * b ^ 2 ≤ (xs.map (· ^ 2)).sum := by
    have hterms : ∀ y ∈ xs.map (· ^ 2), b ^ 2 ≤ y := by
      intro y hy
      obtain ⟨x, hx, rfl⟩ := List.mem_map.mp hy
      exact sq_le_sq.mpr (by rw [abs_of_nonneg hb]; exact h x hx)
    simpa using List.card_nsmul_le_sum _ _ hterms
  refine Real.le_sqrt_of_sq_le ?_
  rw [le_div_iff₀ (Nat.cast_pos.mpr (List.length_pos_iff.mpr hne)), mul_comm]
  exact hsum

theorem rms_eq_zero (hne : xs ≠ []) : rms xs = 0 ↔ ∀ x ∈ xs, x = 0 := by
  have hlength : (xs.length : ℝ) ≠ 0 := by simpa using hne
  constructor
  · intro h x hx
    rw [rms, Real.sqrt_eq_zero (div_nonneg (sum_nonneg xs) (Nat.cast_nonneg _)),
      div_eq_zero_iff, or_iff_left hlength] at h
    have hnonneg : ∀ y ∈ xs.map (· ^ 2), 0 ≤ y := by
      intro y hy
      obtain ⟨z, -, rfl⟩ := List.mem_map.mp hy
      exact sq_nonneg z
    have hsquare := List.all_zero_of_le_zero_le_of_sum_eq_zero hnonneg h (List.mem_map_of_mem hx)
    exact pow_eq_zero_iff two_ne_zero |>.mp hsquare
  · intro h
    have hle : rms xs ≤ 0 := rms_le (le_refl 0) fun x hx => by rw [h x hx, abs_zero]
    exact le_antisymm hle (Real.sqrt_nonneg _)

end RootMeanSquare
