import Mathlib.Data.List.TakeWhile

/-! A forward cursor into a list on which a property `due` holds of a prefix.
Resuming the search from the cursor finds what a search from scratch finds. -/
namespace Cursor
variable {β : Type} (due : β → Bool)

/-- The search over the elements behind the cursor. -/
def advanceIn : List β → Nat → Nat
  | [], i => i
  | x :: xs, i => if due x then advanceIn xs (i+1) else i

def advance (xs : List β) (i : Nat) : Nat := advanceIn due (xs.drop (i+1)) i

/-- The loop `while (i + 1 < xs.size() && due(xs[i + 1])) ++i`. -/
theorem advance_eq (xs : List β) (i : Nat) :
    advance due xs i =
      if h : i + 1 < xs.length then if due xs[i+1] then advance due xs (i+1) else i else i := by
  by_cases h : i + 1 < xs.length
  · rw [advance, List.drop_eq_getElem_cons h, advanceIn, dif_pos h]
    rfl
  · rw [advance, List.drop_eq_nil_of_le (Nat.le_of_not_lt h), advanceIn, dif_neg h]

/-- The cursor stays or ends on an element that is due. -/
theorem advance_due (xs : List β) (i : Nat) :
    advance due xs i = i ∨ ∃ y, xs[advance due xs i]? = some y ∧ due y = true := by
  induction hn : xs.length - i generalizing i with
  | zero =>
      rw [advance_eq, dif_neg (by omega)]
      exact .inl rfl
  | succ n ih =>
      rw [advance_eq]
      split
      next h =>
        split
        next hd =>
          right
          rcases ih (i+1) (by omega) with hi | hy
          · exact ⟨xs[i+1], by rw [hi, List.getElem?_eq_getElem h], hd⟩
          · exact hy
        next => exact .inl rfl
      next => exact .inl rfl

def roundsIn : List β → Nat
  | [] => 0
  | x :: xs => if due x then roundsIn xs + 1 else 0

/-- How often the body of the loop runs. -/
def rounds (xs : List β) (i : Nat) : Nat := roundsIn due (xs.drop (i+1))

theorem advanceIn_eq_add (xs : List β) (i : Nat) : advanceIn due xs i = i + roundsIn due xs := by
  induction xs generalizing i with
  | nil => rfl
  | cons x xs ih =>
      rw [advanceIn, roundsIn]
      split
      · rw [ih]
        omega
      · rfl

/-- Every round takes the cursor one element further. -/
theorem advance_eq_add (xs : List β) (i : Nat) : advance due xs i = i + rounds due xs i :=
  advanceIn_eq_add due _ i

theorem roundsIn_le (xs : List β) : roundsIn due xs ≤ xs.length := by
  induction xs with
  | nil => exact Nat.le_refl _
  | cons x xs ih =>
      rw [roundsIn, List.length_cons]
      split
      · exact Nat.succ_le_succ ih
      · exact Nat.zero_le _

/-- There are no more rounds than elements behind the cursor. -/
theorem rounds_le (xs : List β) (i : Nat) : rounds due xs i ≤ xs.length - 1 - i := by
  have h := roundsIn_le due (xs.drop (i+1))
  rw [List.length_drop] at h
  rw [rounds]
  omega

/-- The search from scratch: the last element of the due prefix. -/
def latest (xs : List β) : Option β := (xs.takeWhile due).getLast?

/-- `due` holds of whatever stands before an element of which it holds. -/
def Downward (xs : List β) : Prop := xs.Pairwise (fun a b => due b = true → due a = true)

theorem latest_append_singleton {pre suf : List β} {x : β} (hpre : ∀ p ∈ pre, due p = true)
    (hx : due x = true) (hsuf : ∀ y ∈ suf.head?, due y = false) :
    latest due (pre ++ x :: suf) = some x := by
  have ht : suf.takeWhile due = [] := by
    cases suf with
    | nil => rfl
    | cons y suf => exact List.takeWhile_cons_of_neg (by simp [hsuf y rfl])
  rw [latest, List.takeWhile_append_of_pos hpre, List.takeWhile_cons_of_pos hx, ht,
    List.getLast?_concat]

theorem latest_cons_of_not {x : β} {suf : List β} (hx : due x = false) :
    latest due (x :: suf) = none := by
  rw [latest, List.takeWhile_cons_of_neg (by simp [hx])]
  rfl

/-- Induction over the elements behind the cursor; the ones before it are all due. -/
theorem advanceIn_latest (pre suf : List β) (x : β) (hpre : ∀ p ∈ pre, due p = true)
    (hx : due x = true ∨ pre = []) (hmono : Downward due (x :: suf)) :
    ∃ y, (pre ++ x :: suf)[advanceIn due suf pre.length]? = some y ∧
      (if due y then some y else none) = latest due (pre ++ x :: suf) := by
  induction suf generalizing pre x with
  | nil =>
      refine ⟨x, by simp [advanceIn], ?_⟩
      rcases hx with hx | rfl
      · rw [if_pos hx, latest_append_singleton due hpre hx (by simp)]
      · cases hd : due x with
        | true => rw [latest_append_singleton due hpre hd (by simp)]; rfl
        | false => rw [List.nil_append, latest_cons_of_not due hd]; rfl
  | cons y suf ih =>
      rw [Downward, List.pairwise_cons] at hmono
      cases hy : due y with
      | true =>
          have hxd : due x = true := hmono.1 y List.mem_cons_self hy
          have hall : ∀ p ∈ pre ++ [x], due p = true := by
            intro p hp
            rcases List.mem_append.mp hp with hp | hp
            · exact hpre p hp
            · rw [List.mem_singleton.mp hp]; exact hxd
          have h := ih (pre ++ [x]) y hall (.inl hy) hmono.2
          simpa [advanceIn, hy] using h
      | false =>
          refine ⟨x, by simp [advanceIn, hy], ?_⟩
          rcases hx with hx | rfl
          · rw [if_pos hx, latest_append_singleton due hpre hx (by simp [hy])]
          · cases hd : due x with
            | true => rw [latest_append_singleton due hpre hd (by simp [hy])]; rfl
            | false => rw [List.nil_append, latest_cons_of_not due hd]; rfl

/-- From a start that is due, or at the front, the cursor stays within the list
and what it ends on is, if due, the result of the search from scratch. -/
theorem advance_latest {xs : List β} {i : Nat} (hmono : Downward due xs) (hi : i < xs.length)
    (hstart : i = 0 ∨ due xs[i] = true) :
    ∃ y, xs[advance due xs i]? = some y ∧ (if due y then some y else none) = latest due xs := by
  have hsplit : xs = xs.take i ++ xs[i] :: xs.drop (i+1) := by
    rw [List.getElem_cons_drop, List.take_append_drop]
  have hm := hmono
  rw [hsplit, Downward, List.pairwise_append] at hm
  have hpre : ∀ p ∈ xs.take i, due p = true := by
    intro p hp
    rcases hstart with rfl | hd
    · simp at hp
    · exact hm.2.2 p hp xs[i] List.mem_cons_self hd
  have hx : due xs[i] = true ∨ xs.take i = [] := by
    rcases hstart with rfl | hd
    · exact .inr List.take_zero
    · exact .inl hd
  have h := advanceIn_latest due (xs.take i) (xs.drop (i+1)) xs[i] hpre hx hm.2.1
  rwa [List.length_take, Nat.min_eq_left hi.le, ← hsplit] at h

theorem latest_due {xs : List β} {p : β} (h : latest due xs = some p) : due p = true :=
  List.mem_takeWhile_imp (List.mem_of_getLast? h)

theorem latest_mem {xs : List β} {p : β} (h : latest due xs = some p) : p ∈ xs :=
  (List.takeWhile_prefix due).subset (List.mem_of_getLast? h)

/-- An element that is due stands in the due prefix. -/
theorem mem_takeWhile {xs : List β} (hmono : Downward due xs) {q : β} (hq : q ∈ xs)
    (hd : due q = true) : q ∈ xs.takeWhile due := by
  induction xs with
  | nil => cases hq
  | cons x xs ih =>
      rw [Downward, List.pairwise_cons] at hmono
      rcases List.mem_cons.mp hq with rfl | hq
      · rw [List.takeWhile_cons_of_pos hd]
        exact List.mem_cons_self
      · rw [List.takeWhile_cons_of_pos (hmono.1 q hq hd)]
        exact List.mem_cons_of_mem x (ih hmono.2 hq)

theorem latest_none {xs : List β} (hmono : Downward due xs) :
    latest due xs = none ↔ ∀ q ∈ xs, due q = false := by
  rw [latest, List.getLast?_eq_none_iff]
  constructor
  · intro h q hq
    cases hd : due q with
    | false => rfl
    | true =>
        have hm := mem_takeWhile due hmono hq hd
        rw [h] at hm
        cases hm
  · intro h
    cases xs with
    | nil => rfl
    | cons x xs => exact List.takeWhile_cons_of_neg (by simp [h x List.mem_cons_self])

/-- In a list ordered by `R`, nothing due comes after the latest one. -/
theorem latest_greatest {xs : List β} {R : β → β → Prop} (hR : xs.Pairwise R)
    (hrefl : ∀ a, R a a) (hmono : Downward due xs) {p q : β} (h : latest due xs = some p)
    (hq : q ∈ xs) (hd : due q = true) : R q p := by
  have hm := mem_takeWhile due hmono hq hd
  obtain ⟨before, hl⟩ := List.getLast?_eq_some_iff.mp h
  have hw : (xs.takeWhile due).Pairwise R := hR.sublist (List.takeWhile_sublist due)
  rw [hl, List.pairwise_append] at hw
  rw [hl] at hm
  rcases List.mem_append.mp hm with hm | hm
  · exact hw.2.2 q hm p List.mem_cons_self
  · rw [List.mem_singleton.mp hm]
    exact hrefl p

end Cursor
