import Mathlib.Data.List.Basic

/-! What the steps of a run give out, one after the other. -/
section
variable {σ ε α : Type} (step : σ → ε → σ) (output : σ → ε → List α)

def trace : σ → List ε → List α
  | _, [] => []
  | s, e :: steps => output s e ++ trace (step s e) steps

theorem trace_append (s : σ) (steps more : List ε) :
    trace step output s (steps ++ more) =
      trace step output s steps ++ trace step output (steps.foldl step s) more := by
  induction steps generalizing s with
  | nil => rfl
  | cons e steps ih => rw [List.cons_append, trace, trace, ih, List.append_assoc, List.foldl_cons]

theorem map_trace {β : Type} (f : α → β) (s : σ) (steps : List ε) :
    (trace step output s steps).map f = trace step (fun s e => (output s e).map f) s steps := by
  induction steps generalizing s with
  | nil => rfl
  | cons e steps ih => rw [trace, trace, List.map_append, ih]

/-- A watcher that never gets stuck: what it knows fits the state after every step. -/
theorem foldlM_trace {κ : Type} {next : κ → α → Option κ} {fits : σ → κ → Prop}
    (hstep : ∀ s e q, fits s q → ∃ q', (output s e).foldlM next q = some q' ∧ fits (step s e) q')
    {s : σ} {q : κ} (h : fits s q) (steps : List ε) :
    ∃ q', (trace step output s steps).foldlM next q = some q' ∧ fits (steps.foldl step s) q' := by
  induction steps generalizing s q with
  | nil => exact ⟨q, rfl, h⟩
  | cons e steps ih =>
      obtain ⟨q', hnext, hfits⟩ := hstep s e q h
      obtain ⟨q'', hrest, hend⟩ := ih hfits
      refine ⟨q'', ?_, hend⟩
      rw [trace, List.foldlM_append, hnext]
      exact hrest

end
