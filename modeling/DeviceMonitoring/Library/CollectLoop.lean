import Mathlib.Data.List.Basic

/-! Loops of the form "repeat: do a round or break", each round giving one
output and using up some of a bounded resource. The bound is the fuel, so the
loop computes by structural recursion; it satisfies the equation of the loop. -/
namespace CollectLoop
variable {σ β : Type} (size : σ → Nat) (round : σ → Option (β × σ))

def run : Nat → σ → List β
  | 0, _ => []
  | fuel+1, s =>
      match round s with
      | none => []
      | some (b, s') => b :: run fuel s'

def collect (s : σ) : List β := run round (size s + 1) s

/-- Fuel beyond the size of the state changes nothing. -/
theorem run_fuel (hdec : ∀ s b s', round s = some (b, s') → size s' < size s)
    {n m : Nat} {s : σ} (hn : size s < n) (hm : size s < m) : run round n s = run round m s := by
  induction n generalizing m s with
  | zero => exact absurd hn (Nat.not_lt_zero _)
  | succ n ih =>
      cases m with
      | zero => exact absurd hm (Nat.not_lt_zero _)
      | succ m =>
          cases hr : round s with
          | none => simp only [run, hr]
          | some next =>
              have hlt := hdec s next.1 next.2 hr
              simp only [run, hr, ih (show size next.2 < n by omega) (show size next.2 < m by omega)]

theorem collect_none {s : σ} (hr : round s = none) : collect size round s = [] := by
  simp only [collect, run, hr]

theorem collect_some (hdec : ∀ s b s', round s = some (b, s') → size s' < size s)
    {s s' : σ} {b : β} (hr : round s = some (b, s')) :
    collect size round s = b :: collect size round s' := by
  have hlt := hdec s b s' hr
  simp only [collect, run, hr, run_fuel size round hdec hlt (Nat.lt_succ_self _)]

end CollectLoop
