import Mathlib.Data.List.SplitBy
import Mathlib.Data.List.Induction

/-! Maximal runs of a list under a relation that compares by a key, built up
one element at a time: a new element extends the last run or opens a new one. -/
namespace MaximalRuns
variable {α κ : Type} [DecidableEq κ] (key : α → κ)

def same (a b : α) : Bool := key a == key b

def runs (xs : List α) : List (List α) := xs.splitBy (same key)

@[simp] theorem runs_nil : runs key ([] : List α) = [] := List.splitBy_nil _

theorem flatten_runs (xs : List α) : (runs key xs).flatten = xs := List.flatten_splitBy _ xs

theorem ne_nil_of_mem_runs {xs run : List α} (h : run ∈ runs key xs) : run ≠ [] :=
  List.ne_nil_of_mem_splitBy h

theorem getLast?_of_runs {xs run : List α} {rest : List (List α)}
    (h : runs key xs = rest ++ [run]) : xs.getLast? = run.getLast? := by
  have hmem : run ∈ runs key xs := by simp [h]
  have hne : run ≠ [] := ne_nil_of_mem_runs key hmem
  rw [← flatten_runs key xs, h, List.flatten_append, List.flatten_singleton,
    List.getLast?_append_of_ne_nil _ hne]

theorem runs_concat_new {xs : List α} {x : α} (h : ∀ y ∈ xs.getLast?, key y ≠ key x) :
    runs key (xs ++ [x]) = runs key xs ++ [[x]] := by
  have hx : runs key [x] = [[x]] := List.splitBy_of_isChain (by simp) (by simp)
  rw [runs, List.splitBy_append, ← runs, ← runs, hx]
  intro y hy z hz
  rw [List.head?_cons, Option.mem_some_iff] at hz
  subst hz
  simpa [same] using h y hy

theorem runs_concat_same {xs run : List α} {rest : List (List α)} {x y : α}
    (h : runs key xs = rest ++ [run]) (hy : run.getLast? = some y) (hxy : key y = key x) :
    runs key (xs ++ [x]) = rest ++ [run ++ [x]] := by
  obtain ⟨hflat, hnil, hchain, hlink⟩ := List.splitBy_eq_iff.mp h
  have hmem : run ∈ runs key xs := by simp [h]
  have hne : run ≠ [] := ne_nil_of_mem_runs key hmem
  refine List.splitBy_eq_iff.mpr ⟨?_, ?_, ?_, ?_⟩
  · rw [hflat]; simp
  · intro hm
    rcases List.mem_append.mp hm with hm | hm
    · exact hnil (List.mem_append_left _ hm)
    · simp at hm
  · intro g hg
    rcases List.mem_append.mp hg with hg | hg
    · exact hchain g (List.mem_append_left _ hg)
    · rw [List.mem_singleton.mp hg, List.isChain_append]
      refine ⟨hchain run (by simp), by simp, ?_⟩
      intro a ha b hb
      rw [hy, Option.mem_some_iff] at ha
      rw [List.head?_cons, Option.mem_some_iff] at hb
      rw [← ha, ← hb]
      simpa [same] using hxy
  · rw [List.isChain_append] at hlink ⊢
    refine ⟨hlink.1, by simp, ?_⟩
    intro a ha b hb
    obtain ⟨hna, hnr, hlast⟩ := hlink.2.2 a ha run (by simp)
    rw [List.head?_cons, Option.mem_some_iff] at hb
    subst hb
    exact ⟨hna, by simp, by rwa [List.head_append_of_ne_nil hnr]⟩

/-- All elements of a run have the same key. -/
theorem key_eq_of_mem_runs {xs run : List α} (h : run ∈ runs key xs) {a b : α} (ha : a ∈ run)
    (hb : b ∈ run) : key a = key b := by
  have hchain : run.IsChain (fun a b => key a = key b) := by
    simpa [same] using List.isChain_of_mem_splitBy h
  have htrans : IsTrans α (fun a b => key a = key b) := ⟨fun _ _ _ => Eq.trans⟩
  have hsymm : Std.Symm (fun a b => key a = key b) := ⟨fun _ _ => Eq.symm⟩
  have hpair : run.Pairwise (fun a b => key a = key b) := List.isChain_iff_pairwise.mp hchain
  exact List.Pairwise.forall_of_forall (R := fun a b => key a = key b) (fun _ _ => rfl) hpair ha hb

theorem mem_of_mem_runs {xs run : List α} (h : run ∈ runs key xs) {a : α} (ha : a ∈ run) : a ∈ xs := by
  rw [← flatten_runs key xs]
  exact List.mem_flatten_of_mem h ha

/-- What relates any two elements relates the elements of any two runs. -/
theorem pairwise_runs {R : α → α → Prop} {xs : List α} (h : xs.Pairwise R) :
    (runs key xs).Pairwise (fun run run' => ∀ a ∈ run, ∀ b ∈ run', R a b) := by
  rw [← flatten_runs key xs, List.pairwise_flatten] at h
  exact h.2

/-- Neighbouring runs have different keys. -/
theorem isChain_runs (xs : List α) :
    (runs key xs).IsChain (fun run run' => ∀ a ∈ run, ∀ b ∈ run', key a ≠ key b) := by
  have hlinks := List.isChain_getLast_head_splitBy (same key) xs
  refine hlinks.imp_of_mem_imp ?_
  rintro run run' hrun hrun' ⟨hne, hne', hdiffer⟩ a ha b hb heq
  have hlast : key (run.getLast hne) = key a :=
    key_eq_of_mem_runs key hrun (List.getLast_mem hne) ha
  have hhead : key (run'.head hne') = key b :=
    key_eq_of_mem_runs key hrun' (List.head_mem hne') hb
  simp [same, hlast, hhead, heq] at hdiffer

/-- A new element opens a run or extends the last one. -/
theorem runs_concat (xs : List α) (x : α) :
    ((∀ y ∈ xs.getLast?, key y ≠ key x) ∧ runs key (xs ++ [x]) = runs key xs ++ [[x]]) ∨
    ∃ rest run y, runs key xs = rest ++ [run] ∧ run.getLast? = some y ∧ key y = key x ∧
      runs key (xs ++ [x]) = rest ++ [run ++ [x]] := by
  by_cases h : ∀ y ∈ xs.getLast?, key y ≠ key x
  · exact .inl ⟨h, runs_concat_new key h⟩
  · push Not at h
    obtain ⟨y, hy, hxy⟩ := h
    have hne : runs key xs ≠ [] := by
      intro hnil
      rw [runs, List.splitBy_eq_nil] at hnil
      rw [hnil] at hy
      cases hy
    obtain ⟨rest, run, hrest⟩ := List.eq_nil_or_concat' (runs key xs) |>.resolve_left hne
    rw [getLast?_of_runs key hrest] at hy
    exact .inr ⟨rest, run, y, hrest, hy, hxy, runs_concat_same key hrest hy hxy⟩

/-- Only the last run changes while the list grows. -/
theorem dropLast_runs_mono (xs ys : List α) :
    (runs key xs).dropLast <+: (runs key (xs ++ ys)).dropLast := by
  induction ys using List.reverseRecOn with
  | nil => simp
  | append_singleton ys y ih =>
      refine ih.trans ?_
      rw [← List.append_assoc]
      rcases runs_concat key (xs ++ ys) y with ⟨-, h⟩ | ⟨rest, run, z, hrest, -, -, h⟩
      · rw [h, List.dropLast_concat]
        exact List.dropLast_prefix _
      · have hclosed : (runs key (xs ++ ys)).dropLast = (runs key (xs ++ ys ++ [y])).dropLast := by
          rw [h, hrest, List.dropLast_concat, List.dropLast_concat]
        exact hclosed ▸ List.prefix_refl _

end MaximalRuns
