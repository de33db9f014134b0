import Mathlib.Data.List.Chain
import Mathlib.Data.Set.Finite.Basic
import Mathlib.Logic.Relation

/-! Following links from place to place, where every place is shut as one leaves it. The
walk ends at a place without a link, or before one that is shut. -/

inductive Walk {α : Type} (next : α → Option α) : (α → Prop) → α → List α → Prop where
  | shut {on : α → Prop} {a : α} (hoff : ¬ on a) : Walk next on a []
  | last {on : α → Prop} {a : α} (hon : on a) (hnext : next a = none) : Walk next on a [a]
  | step {on : α → Prop} {a b : α} {l : List α} (hon : on a) (hnext : next a = some b)
      (hrest : Walk next (fun x => on x ∧ x ≠ a) b l) : Walk next on a (a :: l)

namespace Walk
variable {α : Type} {next : α → Option α} {on : α → Prop} {a : α} {l : List α}

theorem on_of_mem (h : Walk next on a l) : ∀ x ∈ l, on x := by
  induction h with
  | shut _ => simp
  | last hon _ => simpa using hon
  | step hon _ _ ih =>
      rw [List.forall_mem_cons]
      exact ⟨hon, fun x hx => (ih x hx).1⟩

theorem nodup (h : Walk next on a l) : l.Nodup := by
  induction h with
  | shut _ => exact List.nodup_nil
  | last _ _ => exact List.nodup_singleton _
  | step _ _ hrest ih =>
      rw [List.nodup_cons]
      exact ⟨fun hmem => (hrest.on_of_mem _ hmem).2 rfl, ih⟩

theorem head (h : Walk next on a l) : ∀ x ∈ l.head?, x = a := by
  cases h with
  | shut _ => simp
  | last _ _ => simp [eq_comm]
  | step _ _ _ => simp [eq_comm]

theorem start_mem (h : Walk next on a l) (hon : on a) : a ∈ l := by
  cases h with
  | shut hoff => exact absurd hon hoff
  | last _ _ => exact List.mem_cons_self
  | step _ _ _ => exact List.mem_cons_self

theorem linked (h : Walk next on a l) : l.IsChain fun x y => next x = some y := by
  induction h with
  | shut _ => exact .nil
  | last _ _ => exact .singleton _
  | step _ hnext hrest ih =>
      cases hrest with
      | shut _ => exact .singleton _
      | last _ _ => exact .cons_cons hnext ih
      | step _ _ _ => exact .cons_cons hnext ih

/-- The walk leaves no link from it to a place that is not shut. -/
theorem closed (h : Walk next on a l) {x y : α} (hx : x ∈ l) (hxy : next x = some y) (hy : on y) :
    y ∈ l := by
  induction h with
  | shut _ => cases hx
  | last _ hnext =>
      rw [List.mem_singleton.mp hx, hnext] at hxy
      cases hxy
  | @step on a b l _ hnext hrest ih =>
      by_cases hya : y = a
      · exact hya ▸ List.mem_cons_self
      · apply List.mem_cons_of_mem
        rcases List.mem_cons.mp hx with rfl | hx
        · rw [hnext] at hxy
          cases hxy
          exact hrest.start_mem ⟨hy, hya⟩
        · exact ih hx ⟨hy, hya⟩

/-- What it meets is what can be reached. -/
theorem mem_iff (h : Walk next on a l) (x : α) :
    x ∈ l ↔ on a ∧ Relation.ReflTransGen (fun y z => next y = some z ∧ on z) a x := by
  constructor
  · intro hx
    induction h with
    | shut _ => cases hx
    | last hon _ =>
        obtain rfl := List.mem_singleton.mp hx
        exact ⟨hon, .refl⟩
    | step hon hnext _ ih =>
        refine ⟨hon, ?_⟩
        rcases List.mem_cons.mp hx with rfl | hx
        · exact .refl
        · obtain ⟨⟨hb, -⟩, hpath⟩ := ih hx
          refine .head ⟨hnext, hb⟩ (hpath.lift id ?_)
          rintro y z ⟨hyz, hz, -⟩
          exact ⟨hyz, hz⟩
  · rintro ⟨hon, hpath⟩
    induction hpath with
    | refl => exact h.start_mem hon
    | tail _ hlast ih => exact h.closed ih hlast.1 hlast.2

/-- Where finitely many places are open there is a walk from every one of them. -/
theorem exists_of_finite (next : α → Option α) {on : α → Prop} (hfin : {x | on x}.Finite) (a : α) :
    ∃ l, Walk next on a l := by
  classical
  generalize hcard : hfin.toFinset.card = n
  induction n using Nat.strong_induction_on generalizing on a with
  | _ n ih =>
      by_cases hon : on a
      · cases hnext : next a with
        | none => exact ⟨[a], .last hon hnext⟩
        | some b =>
            have hfin' : {x | on x ∧ x ≠ a}.Finite := hfin.subset fun x hx => hx.1
            have hlt : hfin'.toFinset.card < n := by
              rw [← hcard]
              apply Finset.card_lt_card
              refine ⟨fun x hx => ?_, fun hsub => ?_⟩
              · rw [Set.Finite.mem_toFinset] at hx ⊢
                exact hx.1
              · have ha : a ∈ hfin'.toFinset := hsub ((Set.Finite.mem_toFinset hfin).mpr hon)
                exact ((Set.Finite.mem_toFinset hfin').mp ha).2 rfl
            obtain ⟨l, hl⟩ := ih _ hlt hfin' b rfl
            exact ⟨a :: l, .step hon hnext hl⟩
      · exact ⟨[], .shut hon⟩

end Walk
