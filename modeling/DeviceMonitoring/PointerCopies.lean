import DeviceMonitoring.WeakPointers

/-! When a `SafeObjectPointer` can be copied. -/
namespace DeviceMonitoring
namespace Tracked
variable {s t : Tracked} {c : MemoryCall} {p q target : Ref} {os : List Ref}

theorem perform_error {e : MemoryFault} (h : call s.memory c = .error e) :
    s.perform c = .error e := by
  unfold perform
  rw [h]
  rfl

theorem get_eq_none {x : Option SharedDataHolder} (h : x.isSome = false) : x = none := by
  rwa [Option.isSome_eq_false_iff, Option.isNone_iff_eq_none] at h

/-- The copy is read through the object of its source. -/
theorem copyPointer_fails (h : s.memory.Sound s.lastSet) (hq : s.admits (.copyPointer q) = false) :
    ∃ e, s.memory.copyPointer q = .error e := by
  cases hget : s.memory.pointers.get q with
  | none =>
      refine ⟨.destroyed, ?_⟩
      unfold Memory.copyPointer Memory.data Memory.pointer
      rw [hget]
      rfl
  | some d =>
      refine ⟨.nullObject, h.copyPointer_null hget ?_⟩
      intro o ho
      rw [admits, pointerAlive, hget, Option.isSome_some, Bool.true_and, refers, ho] at hq
      exact hq

theorem assign_fails (h : s.memory.Sound s.lastSet) (hpq : s.admits (.assign p q) = false) :
    ∃ e, s.memory.assign p q = .error e := by
  unfold Memory.assign Memory.pointer
  cases hget : s.memory.pointers.get p with
  | none => exact ⟨.destroyed, rfl⟩
  | some d =>
      rw [admits, pointerAlive, hget, Option.isSome_some, Bool.true_and] at hpq
      by_cases hself : p = q
      · subst hself
        rw [pointerAlive, hget, decide_eq_true rfl] at hpq
        cases hpq
      · rw [decide_eq_false hself, Bool.false_or] at hpq
        obtain ⟨e, he⟩ := copyPointer_fails h hpq
        refine ⟨e, ?_⟩
        change (if p = q then Except.ok s.memory else _) = _
        rw [if_neg hself, he]
        rfl

/-- Only what is admitted goes through. -/
theorem admits_of_perform (h : s.memory.Sound s.lastSet) (ht : s.perform c = .ok t) :
    s.admits c = true := by
  by_contra hc
  rw [Bool.not_eq_true] at hc
  suffices hfails : ∃ e, call s.memory c = .error e by
    obtain ⟨e, he⟩ := hfails
    rw [perform_error he] at ht
    cases ht
  cases c with
  | createObject => cases hc
  | destroyObject o =>
      refine ⟨.destroyed, ?_⟩
      rw [call, Memory.destroyObject, get_eq_none hc]
  | createPointer object =>
      cases object with
      | none => cases hc
      | some o =>
          refine ⟨.destroyed, ?_⟩
          rw [call, Memory.createPointer, Memory.sharedDataOf, get_eq_none hc]
          rfl
  | copyPointer other => exact copyPointer_fails h hc
  | assign p other => exact assign_fails h hc
  | destroyPointer p =>
      refine ⟨.destroyed, ?_⟩
      rw [call, Memory.destroyPointer, Memory.pointer, get_eq_none hc]
      rfl

theorem sound_of_run {calls : List MemoryCall} (h : s.memory.Sound s.lastSet)
    (ht : s.run calls = .ok t) : t.memory.Sound t.lastSet := by
  induction calls generalizing s with
  | nil =>
      cases ht
      exact h
  | cons c calls ih =>
      unfold run at ht
      rw [List.foldlM_cons] at ht
      cases hc : s.perform c with
      | error e =>
          rw [hc] at ht
          cases ht
      | ok u =>
          rw [hc] at ht
          obtain ⟨u', hu', hsound, -⟩ := perform_sound h (admits_of_perform h hc)
          rw [hc] at hu'
          cases hu'
          exact ih hsound ht

/-- The objects of both go the same way. -/
structure Mirrors (s t : Tracked) : Prop where
  left : s.memory.Sound s.lastSet
  right : t.memory.Sound t.lastSet
  objects : t.memory.objects = s.memory.objects

/-- Nothing but objects goes: the pointers stay, set to what they were set to. -/
structure SamePointers (s t : Tracked) : Prop where
  pointers : t.memory.pointers = s.memory.pointers
  lastSet : t.lastSet = s.lastSet

theorem SamePointers.trans {u : Tracked} (hst : s.SamePointers t) (htu : t.SamePointers u) :
    s.SamePointers u :=
  ⟨htu.pointers.trans hst.pointers, htu.lastSet.trans hst.lastSet⟩

theorem destroyObject_sound (h : s.memory.Sound s.lastSet) {o : Ref} (ho : s.objectAlive o = true) :
    ∃ t, s.perform (.destroyObject o) = .ok t ∧ t.memory.Sound t.lastSet ∧ s.SamePointers t ∧
      t.memory.objects = s.memory.objects.free o := by
  obtain ⟨d, hd⟩ := Option.isSome_iff_exists.mp ho
  obtain ⟨m, hm, hobjects, hpointers, hsound⟩ := h.destroyObject hd
  exact ⟨_, perform_ok hm, hsound, ⟨hpointers, rfl⟩, hobjects⟩

/-- Objects that one can destroy here, one can destroy there. -/
theorem Mirrors.destroy (h : s.Mirrors t) {s' : Tracked}
    (hs : s.run (os.map .destroyObject) = .ok s') :
    ∃ t', t.run (os.map .destroyObject) = .ok t' ∧ s'.Mirrors t' ∧ s.SamePointers s' ∧
      t.SamePointers t' := by
  induction os generalizing s t with
  | nil =>
      cases hs
      exact ⟨t, rfl, h, ⟨rfl, rfl⟩, ⟨rfl, rfl⟩⟩
  | cons o os ih =>
      unfold run at hs
      rw [List.map_cons, List.foldlM_cons] at hs
      cases hfirst : s.perform (.destroyObject o) with
      | error e =>
          rw [hfirst] at hs
          cases hs
      | ok s₁ =>
          rw [hfirst] at hs
          have ho : s.objectAlive o = true := admits_of_perform h.left hfirst
          obtain ⟨s₂, hs₂, hleft, hsame, hobjects⟩ := destroyObject_sound h.left ho
          rw [hfirst] at hs₂
          cases hs₂
          have ho' : t.objectAlive o = true := by rwa [objectAlive, h.objects]
          obtain ⟨t₁, ht₁, hright, hsame', hobjects'⟩ := destroyObject_sound h.right ho'
          have hmirrors : s₁.Mirrors t₁ := ⟨hleft, hright, by rw [hobjects', hobjects, h.objects]⟩
          obtain ⟨t', ht', hrest, hs', hrest'⟩ := ih hmirrors hs
          refine ⟨t', ?_, hrest, hsame.trans hs', hsame'.trans hrest'⟩
          unfold run
          rw [List.map_cons, List.foldlM_cons, ht₁]
          exact ht'

/-- Whichever objects are destroyed from here on, the target gives what the source gives,
and every other pointer what it would have given. -/
def CopiedTo (s t : Tracked) (target q : Ref) : Prop :=
  ∀ (os : List Ref) s', s.run (os.map .destroyObject) = .ok s' →
    ∃ t', t.run (os.map .destroyObject) = .ok t' ∧ (∃ o, t'.memory.data q = .ok o) ∧
      t'.memory.data target = t'.memory.data q ∧
      ∀ r, s.pointerAlive r = true → r ≠ target → t'.memory.data r = s'.memory.data r

/-- The pointers of before are there, and the target is set to what the source is. -/
theorem copiedTo_of (h : s.Mirrors t) (hq : s.pointerAlive q = true) (hne : target ≠ q)
    (htarget : t.pointerAlive target = true)
    (hothers : ∀ r, s.pointerAlive r = true → t.pointerAlive r = true)
    (hset : t.lastSet = Function.update s.lastSet target (s.lastSet q)) :
    s.CopiedTo t target q := by
  intro os s' hs
  obtain ⟨t', ht', hmirrors, hs', hrest⟩ := h.destroy hs
  have hread : ∀ r, t.pointerAlive r = true → t'.memory.data r =
      .ok ((t.lastSet r).filter fun o => (s'.memory.objects.get o).isSome) := by
    intro r hr
    obtain ⟨d, hd⟩ := Option.isSome_iff_exists.mp hr
    rw [← hrest.pointers] at hd
    rw [hmirrors.right.data_eq hd, hrest.lastSet, hmirrors.objects]
  refine ⟨t', ht', ⟨_, hread q (hothers q hq)⟩, ?_, ?_⟩
  · rw [hread target htarget, hread q (hothers q hq), hset, Function.update_self,
      Function.update_of_ne hne.symm]
  · intro r hr hrt
    obtain ⟨d, hd⟩ := Option.isSome_iff_exists.mp hr
    rw [← hs'.pointers] at hd
    rw [hread r (hothers r hr), hmirrors.left.data_eq hd, hs'.lastSet, hset,
      Function.update_of_ne hrt]

/-- The new pointer of the copy constructor is the next one. -/
def CopySafe (s : Tracked) (q : Ref) : Prop :=
  ∃ t, s.perform (.copyPointer q) = .ok t ∧ s.CopiedTo t s.memory.pointers.next q

def AssignSafe (s : Tracked) (p q : Ref) : Prop :=
  ∃ t, s.perform (.assign p q) = .ok t ∧ s.CopiedTo t p q

theorem copySafe_of (h : s.memory.Sound s.lastSet) (hq : s.pointerAlive q = true)
    (hrefers : s.refers q = true) : s.CopySafe q := by
  obtain ⟨d, hd⟩ := Option.isSome_iff_exists.mp hq
  obtain ⟨o, ho, halive⟩ := (Option.any_eq_true _ _).mp hrefers
  obtain ⟨m, hm, hobjects, hpointers, hsound⟩ := h.copyPointer hd ho halive
  refine ⟨_, perform_ok hm, copiedTo_of ⟨h, hsound, hobjects⟩ hq ?_ ?_ ?_ rfl⟩
  · exact (Nat.ne_of_lt (Heap.lt_next hd)).symm
  · rw [pointerAlive, hpointers, Heap.get_alloc_next]
    rfl
  · intro r hr
    obtain ⟨e, he⟩ := Option.isSome_iff_exists.mp hr
    rw [pointerAlive, hpointers, Heap.get_alloc_of_ne _ _ (Nat.ne_of_lt (Heap.lt_next he)), he]
    rfl

theorem assignSafe_of (h : s.memory.Sound s.lastSet) (hp : s.pointerAlive p = true)
    (hq : s.pointerAlive q = true) (hpq : p ≠ q) (hrefers : s.refers q = true) :
    s.AssignSafe p q := by
  obtain ⟨e, he⟩ := Option.isSome_iff_exists.mp hp
  obtain ⟨d, hd⟩ := Option.isSome_iff_exists.mp hq
  obtain ⟨o, ho, halive⟩ := (Option.any_eq_true _ _).mp hrefers
  obtain ⟨m, hm, hobjects, hpointers, hsound⟩ := h.assign hpq he hd ho halive
  refine ⟨_, perform_ok hm, copiedTo_of ⟨h, hsound, hobjects⟩ hq hpq ?_ ?_ rfl⟩
  · exact (hpointers p).trans hp
  · intro r hr
    exact (hpointers r).trans hr

/-- A pointer can be copied, and assigned to another one, exactly as long as it refers to
an object. -/
theorem copies_safe_iff_refers (calls : List MemoryCall) (s : Tracked)
    (h : run {} calls = .ok s) (q : Ref) (hq : s.pointerAlive q = true) :
    (s.CopySafe q ↔ s.refers q = true) ∧
      ∀ p, s.pointerAlive p = true → p ≠ q → (s.AssignSafe p q ↔ s.refers q = true) := by
  have hsound : s.memory.Sound s.lastSet := sound_of_run (s := {}) (.empty _) h
  refine ⟨⟨?_, copySafe_of hsound hq⟩, ?_⟩
  · rintro ⟨t, ht, -⟩
    exact (Bool.and_eq_true_iff.mp (admits_of_perform hsound ht)).2
  · intro p hp hpq
    refine ⟨?_, assignSafe_of hsound hp hq hpq⟩
    rintro ⟨t, ht, -⟩
    have hadmits := (Bool.and_eq_true_iff.mp (admits_of_perform hsound ht)).2
    rwa [decide_eq_false hpq, Bool.false_or] at hadmits

/-- Two pointers to one object. -/
theorem copies_safe_iff_refers_two_pointers :
    ∃ s, run {} [.createObject, .createPointer (some 0), .createPointer none] = .ok s ∧
      (s.CopySafe 0 ↔ s.refers 0 = true) ∧
        ∀ p, s.pointerAlive p = true → p ≠ 0 → (s.AssignSafe p 0 ↔ s.refers 0 = true) :=
  ⟨_, rfl, copies_safe_iff_refers
    [.createObject, .createPointer (some 0), .createPointer none] _ rfl 0 rfl⟩

/-- A pointer set to nothing has no object to be copied through. -/
theorem copy_of_null_pointer :
    ¬ ∀ (calls : List MemoryCall) (s : Tracked), run {} calls = .ok s → ∀ q,
      s.pointerAlive q = true →
        s.CopySafe q ∧ ∀ p, s.pointerAlive p = true → p ≠ q → s.AssignSafe p q := by
  intro h
  obtain ⟨⟨t, ht, -⟩, -⟩ := h [.createPointer none] _ rfl 0 rfl
  cases ht

-- nor has one whose object is destroyed
example : run {} [.createObject, .createPointer (some 0), .destroyObject 0, .copyPointer 0] =
    .error .nullObject := rfl

end Tracked
end DeviceMonitoring
