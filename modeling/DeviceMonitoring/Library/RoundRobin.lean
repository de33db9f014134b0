import Mathlib.Algebra.GroupWithZero.Nat
import Mathlib.Data.List.Nodup
import Mathlib.Logic.Function.Iterate

/-! Jobs that share one first-in-first-out queue. A job whose turn it is does one unit of
its work and goes to the end of the queue again, as long as work is left. -/

structure RoundRobin (ι : Type) where
  queue : List ι := []
  /-- the units of work done -/
  done : ι → Nat := fun _ => 0

namespace RoundRobin
variable {ι : Type} (work : ι → Nat)

/-- A job with work left goes to the end of the queue. -/
def enqueue (r : RoundRobin ι) (i : ι) : RoundRobin ι :=
  if r.done i < work i then { r with queue := r.queue ++ [i] } else r

theorem enqueue_left {r : RoundRobin ι} {i : ι} (h : r.done i < work i) :
    r.enqueue work i = { r with queue := r.queue ++ [i] } := if_pos h

theorem enqueue_done {r : RoundRobin ι} {i : ι} (h : work i ≤ r.done i) : r.enqueue work i = r :=
  if_neg (Nat.not_lt.mpr h)

theorem done_enqueue (r : RoundRobin ι) (i : ι) : (r.enqueue work i).done = r.done := by
  unfold enqueue
  split <;> rfl

theorem mem_enqueue (r : RoundRobin ι) (i j : ι) :
    j ∈ (r.enqueue work i).queue ↔ j ∈ r.queue ∨ j = i ∧ r.done i < work i := by
  unfold enqueue
  split
  next h => simp [h]
  next h => simp [h]

theorem nodup_enqueue {r : RoundRobin ι} {i : ι} (h : r.queue.Nodup) (hi : i ∉ r.queue) :
    (r.enqueue work i).queue.Nodup := by
  unfold enqueue
  split
  · simpa only [List.concat_eq_append] using h.concat hi
  · exact h

variable [DecidableEq ι]

/-- One unit of work of a job that has left the queue. -/
def advance (r : RoundRobin ι) (i : ι) : RoundRobin ι :=
  { r with done := Function.update r.done i (r.done i + 1) }

@[simp] theorem queue_advance (r : RoundRobin ι) (i : ι) : (r.advance i).queue = r.queue := rfl

@[simp] theorem done_advance_self (r : RoundRobin ι) (i : ι) :
    (r.advance i).done i = r.done i + 1 := Function.update_self ..

@[simp] theorem done_advance_of_ne (r : RoundRobin ι) {i j : ι} (h : j ≠ i) :
    (r.advance i).done j = r.done j := Function.update_of_ne h ..

/-- The job at the head has its turn. -/
def turn (r : RoundRobin ι) : RoundRobin ι :=
  match r.queue with
  | [] => r
  | i :: queue => (({ r with queue } : RoundRobin ι).advance i).enqueue work i

theorem turn_nil {r : RoundRobin ι} (h : r.queue = []) : r.turn work = r := by
  unfold turn
  rw [h]

theorem turn_cons {r : RoundRobin ι} {i : ι} {queue : List ι} (h : r.queue = i :: queue) :
    r.turn work = (({ r with queue } : RoundRobin ι).advance i).enqueue work i := by
  unfold turn
  rw [h]

/-- The queue holds once every job that has begun and has work left. -/
structure Fair (begun : ι → Prop) (r : RoundRobin ι) : Prop where
  nodup : r.queue.Nodup
  mem : ∀ i, i ∈ r.queue ↔ begun i ∧ r.done i < work i
  idle : ∀ i, ¬begun i → r.done i = 0
  bound : ∀ i, r.done i ≤ work i

namespace Fair
variable {work} {begun : ι → Prop} {r : RoundRobin ι}

omit [DecidableEq ι] in
theorem initial : Fair work (fun _ => False) {} where
  nodup := List.nodup_nil
  mem := by simp
  idle _ _ := rfl
  bound _ := Nat.zero_le _

omit [DecidableEq ι] in
theorem begin (h : Fair work begun r) {i : ι} (hi : ¬begun i) :
    Fair work (fun j => j = i ∨ begun j) (r.enqueue work i) where
  nodup := nodup_enqueue work h.nodup fun hmem => hi ((h.mem i).mp hmem).1
  mem j := by
    rw [mem_enqueue, h.mem j, done_enqueue]
    constructor
    · rintro (⟨hj, hlt⟩ | ⟨rfl, hlt⟩)
      · exact ⟨.inr hj, hlt⟩
      · exact ⟨.inl rfl, hlt⟩
    · rintro ⟨rfl | hj, hlt⟩
      · exact .inr ⟨rfl, hlt⟩
      · exact .inl ⟨hj, hlt⟩
  idle j hj := by
    rw [done_enqueue]
    exact h.idle j fun hb => hj (.inr hb)
  bound j := by
    rw [done_enqueue]
    exact h.bound j

theorem turn (h : Fair work begun r) : Fair work begun (r.turn work) := by
  cases hqueue : r.queue with
  | nil => rwa [turn_nil work hqueue]
  | cons i queue =>
      rw [turn_cons work hqueue]
      have hnodup := h.nodup
      rw [hqueue, List.nodup_cons] at hnodup
      obtain ⟨hnot, hnodup⟩ := hnodup
      obtain ⟨hi, hlt⟩ := (h.mem i).mp (by rw [hqueue]; exact List.mem_cons_self)
      refine ⟨nodup_enqueue work hnodup hnot, ?_, ?_, ?_⟩
      · intro j
        rw [mem_enqueue, done_enqueue]
        by_cases hj : j = i
        · subst hj
          simp [hnot, hi]
        · have hmem := h.mem j
          rw [hqueue, List.mem_cons] at hmem
          simpa [hj] using hmem
      · intro j hj
        have hne : j ≠ i := fun hji => hj (hji ▸ hi)
        rw [done_enqueue, done_advance_of_ne _ hne]
        exact h.idle j hj
      · intro j
        rw [done_enqueue]
        by_cases hj : j = i
        · subst hj
          rw [done_advance_self]
          exact hlt
        · rw [done_advance_of_ne _ hj]
          exact h.bound j

end Fair

/-- The work left to the jobs in the queue. -/
def left (r : RoundRobin ι) : Nat := (r.queue.map fun i => work i - r.done i).sum

/-- A turn takes one unit off. -/
theorem Fair.left_turn {work : ι → Nat} {begun : ι → Prop} {r : RoundRobin ι}
    (h : Fair work begun r) (hne : r.queue ≠ []) : (r.turn work).left work + 1 = r.left work := by
  obtain ⟨i, queue, hqueue⟩ := List.exists_cons_of_ne_nil hne
  have hnodup := h.nodup
  rw [hqueue, List.nodup_cons] at hnodup
  have hlt := ((h.mem i).mp (by rw [hqueue]; exact List.mem_cons_self)).2
  have hothers : (queue.map fun j => work j - Function.update r.done i (r.done i + 1) j) =
      queue.map fun j => work j - r.done j := by
    apply List.map_congr_left
    intro j hj
    have hne : j ≠ i := fun hji => hnodup.1 (hji ▸ hj)
    rw [Function.update_of_ne hne]
  rw [turn_cons work hqueue, left, left, done_enqueue, hqueue]
  simp only [enqueue, advance, Function.update_self, List.map_cons, List.sum_cons]
  split
  · simp only [List.map_append, List.map_cons, List.map_nil, List.sum_append, List.sum_cons,
      List.sum_nil, Function.update_self, hothers]
    omega
  · rw [hothers]
    omega

/-- The jobs come to an end. -/
theorem Fair.finishes {work : ι → Nat} {begun : ι → Prop} {r : RoundRobin ι}
    (h : Fair work begun r) : ((RoundRobin.turn work)^[r.left work] r).queue = [] := by
  generalize hn : r.left work = n
  induction n generalizing r with
  | zero =>
      by_contra hne
      have hleft := h.left_turn hne
      omega
  | succ n ih =>
      rw [Function.iterate_succ_apply]
      by_cases hne : r.queue = []
      · rw [left, hne] at hn
        cases hn
      · have hleft := h.left_turn hne
        exact ih h.turn (by omega)

omit [DecidableEq ι] in
/-- With an empty queue, every job that has begun is done. -/
theorem Fair.complete {work : ι → Nat} {begun : ι → Prop} {r : RoundRobin ι}
    (h : Fair work begun r) (hempty : r.queue = []) {i : ι} (hi : begun i) :
    r.done i = work i := by
  have hnot : ¬(begun i ∧ r.done i < work i) := by
    rw [← h.mem i, hempty]
    exact List.not_mem_nil
  have hle := h.bound i
  have hlt : ¬r.done i < work i := fun hlt => hnot ⟨hi, hlt⟩
  omega

end RoundRobin
