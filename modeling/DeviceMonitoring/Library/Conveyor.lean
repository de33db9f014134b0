import Mathlib.Data.List.Basic

/-! A queue that may drop what it carries. What is handed over comes out in the order in which
it was posted; of what is never dropped, all is handed over or still on its way. -/

/-- `kept` is what has not been dropped. -/
structure Conveys {α : Type} (kept : α → Prop) (posted handed pending : List α) : Prop where
  order : (handed ++ pending).Sublist posted
  complete : ∀ p : α → Bool, (∀ a ∈ posted, p a = true → kept a) →
    posted.filter p = handed.filter p ++ pending.filter p

namespace Conveys
variable {α : Type} {kept kept' : α → Prop} {posted handed pending new : List α} {a : α}

theorem nil : Conveys kept ([] : List α) [] [] := ⟨List.Sublist.refl _, fun _ _ => rfl⟩

theorem handed_sublist (h : Conveys kept posted handed pending) : handed.Sublist posted :=
  (List.sublist_append_left handed pending).trans h.order

theorem pending_subset (h : Conveys kept posted handed pending) (ha : a ∈ pending) : a ∈ posted :=
  h.order.subset (List.mem_append_right handed ha)

theorem mono (h : Conveys kept posted handed pending) (hkept : ∀ a ∈ posted, kept' a → kept a) :
    Conveys kept' posted handed pending :=
  ⟨h.order, fun p hp => h.complete p fun a ha hpa => hkept a ha (hp a ha hpa)⟩

theorem post (h : Conveys kept posted handed pending) (new : List α) :
    Conveys kept (posted ++ new) handed (pending ++ new) := by
  constructor
  · rw [← List.append_assoc]
    exact h.order.append (List.Sublist.refl new)
  · intro p hp
    have hold := h.complete p fun a ha => hp a (List.mem_append_left new ha)
    rw [List.filter_append, List.filter_append, hold, List.append_assoc]

theorem handOver (h : Conveys kept posted handed (a :: pending)) :
    Conveys kept posted (handed ++ [a]) pending := by
  constructor
  · rw [List.append_assoc]
    exact h.order
  · intro p hp
    rw [h.complete p hp, ← List.filter_append, ← List.filter_append, List.append_assoc,
      List.singleton_append]

theorem drop (h : Conveys kept posted handed (a :: pending)) (ha : ¬kept a) :
    Conveys kept posted handed pending := by
  constructor
  · exact (List.Sublist.append (List.Sublist.refl handed) (List.sublist_cons_self a pending)).trans h.order
  · intro p hp
    have hfalse : ¬p a = true := fun hpa => ha (hp a (h.pending_subset List.mem_cons_self) hpa)
    rw [h.complete p hp, List.filter_cons_of_neg hfalse]

end Conveys
