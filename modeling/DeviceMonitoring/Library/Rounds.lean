import Mathlib.Logic.Function.Iterate

/-! Rounds that lower a measure until nothing is left to do. -/
namespace Rounds
variable {σ : Type} {round : σ → σ} {inv done : σ → Prop} {work : σ → Nat}

theorem inv_iterate (hinv : ∀ s, inv s → inv (round s)) {s : σ} (hs : inv s) (k : Nat) :
    inv (round^[k] s) := by
  induction k generalizing s with
  | zero => exact hs
  | succ k ih => exact ih (hinv s hs)

/-- As many rounds as the measure says are enough. -/
theorem done_iterate (hinv : ∀ s, inv s → inv (round s)) (hdone : ∀ s, done s → done (round s))
    (hwork : ∀ s, inv s → ¬done s → work (round s) < work s) {s : σ} (hs : inv s) {k : Nat}
    (hk : work s ≤ k) : done (round^[k] s) := by
  induction k generalizing s with
  | zero =>
      by_contra hnot
      have hlt := hwork s hs hnot
      omega
  | succ k ih =>
      rw [Function.iterate_succ_apply]
      by_cases hnow : done s
      · exact inv_iterate hdone (hdone s hnow) k
      · have hlt := hwork s hs hnow
        exact ih (hinv s hs) (by omega)

end Rounds
