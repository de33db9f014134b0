import DeviceMonitoring.EncoderRegistry

/-! Who deletes an executor. `MessageEncoder` owns what is added to it: an object goes when
its slot is overwritten, or with the encoder. -/
namespace DeviceMonitoring
namespace MessageEncoder
variable {object old x y : ExecutorObject} {objects objects' passed : List ExecutorObject}
  {e : MessageEncoder} {call : EncoderCall}

/-- `~MessageEncoder`: the objects that were deleted by its end, in order. -/
def destroy (e : MessageEncoder) : List Nat := e.deleted ++ e.executors.map (·.address)

structure Intact (e : MessageEncoder) : Prop where
  registered : ∀ x ∈ e.executors, x.address ∉ e.deleted
  selected : ∀ x ∈ e.currentExecutor, x.address ∉ e.deleted
  among : ∀ x ∈ e.currentExecutor, x ∈ e.executors
  once : e.destroy.Nodup

/-- The object has not been deleted when it is added. -/
def live (e : MessageEncoder) : EncoderCall → Bool
  | .addExecutor (some object) => object.address ∉ e.deleted
  | _ => true

def newObjects (calls : List EncoderCall) : List ExecutorObject :=
  calls.filterMap fun call => match call with
    | .addExecutor object => object
    | _ => none

/-- One address, one object. -/
def OneEach (objects : List ExecutorObject) : Prop :=
  ∀ x ∈ objects, ∀ y ∈ objects, x.address = y.address → x = y

theorem nodup_overwrite {deleted before behind : List Nat} {a b : Nat}
    (h : (deleted ++ (before ++ a :: behind)).Nodup) (hb : b ∉ deleted ++ (before ++ a :: behind)) :
    (deleted ++ [a] ++ (before ++ b :: behind)).Nodup := by
  have hout : (deleted ++ [a] ++ (before ++ b :: behind)).Perm
      (b :: (deleted ++ [a] ++ before ++ behind)) := by
    rw [← List.append_assoc]
    exact List.perm_middle
  have hin : (deleted ++ (before ++ a :: behind)).Perm (deleted ++ [a] ++ before ++ behind) := by
    rw [List.append_assoc, List.append_assoc]
    exact List.perm_middle.append_left deleted
  rw [hout.nodup_iff, List.nodup_cons, ← hin.nodup_iff, ← hin.mem_iff]
  exact ⟨hb, h⟩

namespace Intact

/-- Nothing is deleted twice: so what the destructor is to delete is not deleted yet. -/
theorem of_once (honce : e.destroy.Nodup) (hamong : ∀ x ∈ e.currentExecutor, x ∈ e.executors) :
    e.Intact := by
  have hregistered : ∀ x ∈ e.executors, x.address ∉ e.deleted := by
    intro x hx hdeleted
    exact (List.nodup_append.mp honce).2.2 _ hdeleted _ (List.mem_map_of_mem hx) rfl
  exact ⟨hregistered, fun x hx => hregistered x (hamong x hx), hamong, honce⟩

theorem append (h : e.Intact) (hlive : object.address ∉ e.deleted)
    (hnew : object.address ∉ e.addresses) :
    Intact { e with executors := e.executors ++ [object] } := by
  apply of_once
  · rw [destroy, List.map_append, List.map_singleton, ← List.append_assoc]
    apply h.once.append (List.nodup_singleton _)
    rw [List.disjoint_singleton, destroy, List.mem_append, not_or]
    exact ⟨hlive, hnew⟩
  · intro x hx
    exact List.mem_append_left _ (h.among x hx)

theorem replace (h : e.Intact) (hlive : object.address ∉ e.deleted)
    (hnew : object.address ∉ e.addresses)
    (hsome : MessageEncoder.replace object e.executors = some (old, objects')) :
    Intact
      { executors := objects'
        currentExecutor :=
          if e.currentExecutor.any (fun current => current.address == old.address) then some object
          else e.currentExecutor
        deleted := e.deleted ++ [old.address] } := by
  obtain ⟨before, behind, heq, rfl, -, -⟩ := replace_eq_some hsome
  apply of_once
  · have honce := h.once
    rw [destroy, heq, List.map_append, List.map_cons] at honce
    rw [addresses, heq, List.map_append, List.map_cons] at hnew
    rw [destroy, List.map_append, List.map_cons]
    apply nodup_overwrite honce
    rw [List.mem_append, not_or]
    exact ⟨hlive, hnew⟩
  · intro x hx
    dsimp only at hx
    split at hx
    next =>
      cases hx
      exact List.mem_append_right _ List.mem_cons_self
    next hother =>
      have hmem := h.among x hx
      have hne : x ≠ old := by
        rintro rfl
        rw [Option.mem_def.mp hx, Option.any_some, BEq.rfl] at hother
        exact hother rfl
      rw [heq, List.mem_append, List.mem_cons] at hmem
      rw [List.mem_append, List.mem_cons]
      exact hmem.imp_right fun hbehind => .inr (hbehind.resolve_left hne)

/-- An object that is not registered yet spoils nothing. -/
theorem perform (h : e.Intact) (hlive : e.live call = true) (hnew : e.unregistered call = true) :
    (e.perform call).2.Intact := by
  cases call with
  | addExecutor object =>
      cases object with
      | none => exact h
      | some object =>
          have hlive' : object.address ∉ e.deleted := of_decide_eq_true hlive
          have hnew' : object.address ∉ e.addresses := of_decide_eq_true hnew
          simp only [MessageEncoder.perform, addExecutor]
          cases hreplace : MessageEncoder.replace object e.executors with
          | none => exact h.append hlive' hnew'
          | some found => exact h.replace hlive' hnew' hreplace
  | selectExecutor name =>
      simp only [MessageEncoder.perform, selectExecutor]
      split
      next => exact h
      next object hobject =>
        refine of_once (e := { e with currentExecutor := some object }) h.once ?_
        rintro x ⟨⟩
        exact List.mem_of_find?_eq_some hobject
  | encode message => exact h
  | decode message => exact h

/-- An object that is already registered is deleted and kept. -/
theorem not_perform (hnames : e.names.Nodup) (hmem : object ∈ e.executors) :
    ¬ (e.perform (.addExecutor (some object))).2.Intact := by
  intro hintact
  simp only [MessageEncoder.perform, addExecutor] at hintact
  cases hreplace : MessageEncoder.replace object e.executors with
  | none => exact replace_eq_none.mp hreplace object hmem rfl
  | some found =>
      obtain ⟨old, objects'⟩ := found
      rw [hreplace] at hintact
      obtain ⟨before, behind, heq, rfl, hold, -⟩ := replace_eq_some hreplace
      -- names are distinct, so its slot is its own
      have hself : object = old := by
        apply List.inj_on_of_nodup_map hnames hmem ?_ hold.symm
        rw [heq]
        exact List.mem_append_right _ List.mem_cons_self
      have hdeleted := hintact.registered object (List.mem_append_right _ List.mem_cons_self)
      rw [hself] at hdeleted
      exact hdeleted (List.mem_append_right _ (List.mem_singleton_self _))

end Intact

theorem names_perform (h : e.names.Nodup) : (e.perform call).2.names.Nodup := by
  cases call with
  | addExecutor object =>
      cases object with
      | none => exact h
      | some object =>
          simp only [perform, addExecutor]
          cases hreplace : replace object e.executors with
          | none => exact names_append h hreplace
          | some found =>
              rw [names, names_replace hreplace]
              exact h
  | selectExecutor name =>
      simp only [perform, selectExecutor]
      split <;> exact h
  | encode message => exact h
  | decode message => exact h

theorem newObjects_append (calls later : List EncoderCall) :
    newObjects (calls ++ later) = newObjects calls ++ newObjects later :=
  List.filterMap_append

theorem OneEach.of_nodup (h : (objects.map (·.address)).Nodup) : OneEach objects :=
  fun _ hx _ hy heq => List.inj_on_of_nodup_map h hx hy heq

/-- The first object that is registered already when it is added is the first
thing to go wrong, and nothing else does. -/
theorem intact_iff_unregistered {calls : List EncoderCall} (hnames : e.names.Nodup)
    (hpassed : ∀ x ∈ e.executors, x ∈ passed) (hobjects : OneEach (passed ++ newObjects calls))
    (hlive : e.along live calls = true) :
    (∀ made later, calls = made ++ later → (e.after made).Intact) ↔
      e.Intact ∧ e.along unregistered calls = true := by
  induction calls generalizing e passed with
  | nil =>
      constructor
      · intro h
        exact ⟨h [] [] rfl, rfl⟩
      · rintro ⟨h, -⟩ made later heq
        obtain ⟨rfl, -⟩ := List.append_eq_nil_iff.mp heq.symm
        exact h
  | cons call calls ih =>
      obtain ⟨hfirst, hrest⟩ := Bool.and_eq_true_iff.mp hlive
      rw [← List.singleton_append, newObjects_append, ← List.append_assoc] at hobjects
      have hnext : ∀ x ∈ (e.perform call).2.executors, x ∈ passed ++ newObjects [call] := by
        intro x hx
        rw [List.mem_append]
        rcases mem_executors_perform hx with hx | rfl
        · exact .inl (hpassed x hx)
        · exact .inr (List.mem_singleton_self _)
      have hih := ih (names_perform hnames) hnext hobjects hrest
      constructor
      · intro h
        have hintact := h [] _ rfl
        obtain ⟨hintact', halong⟩ := hih.mp fun made later heq =>
          h (call :: made) later (congrArg (call :: ·) heq)
        refine ⟨hintact, Bool.and_eq_true_iff.mpr ⟨?_, halong⟩⟩
        cases call with
        | addExecutor object =>
            cases object with
            | none => rfl
            | some object =>
                apply decide_eq_true
                intro hmem
                obtain ⟨x, hx, haddress⟩ := List.mem_map.mp hmem
                have hself : x = object := by
                  apply hobjects x ?_ object ?_ haddress
                  · exact List.mem_append_left _ (List.mem_append_left _ (hpassed x hx))
                  · exact List.mem_append_left _ (List.mem_append_right _ (List.mem_singleton_self _))
                exact Intact.not_perform hnames (hself ▸ hx) hintact'
        | selectExecutor name => rfl
        | encode message => rfl
        | decode message => rfl
      · rintro ⟨hintact, halong⟩ made later heq
        obtain ⟨hnew, halong'⟩ := Bool.and_eq_true_iff.mp halong
        cases made with
        | nil => exact hintact
        | cons first made =>
            rw [List.cons_append, List.cons.injEq] at heq
            obtain ⟨rfl, heq⟩ := heq
            exact hih.mpr ⟨hintact.perform hfirst hnew, halong'⟩ made later heq

theorem intact_create {rot3 mirror multiply41 : Nat}
    (h : OneEach (newObjects (built rot3 mirror multiply41))) :
    (create rot3 mirror multiply41).Intact := by
  have hnames : ((newObjects (built rot3 mirror multiply41)).map (·.executor.name)).Nodup := by
    change ["ROT3", "Mirror", "Multiply41"].Nodup
    decide
  apply Intact.of_once
  · exact hnames.of_map.map_on h
  · rintro x ⟨⟩

/-- Whatever live objects are added and whatever is selected: no call leaves a deleted
executor registered or selected, or lets one be deleted twice, exactly if no object is
registered already when it is added. -/
theorem registry_intact_iff (rot3 mirror multiply41 : Nat) (calls : List EncoderCall)
    (hobjects : OneEach (newObjects (built rot3 mirror multiply41 ++ calls)))
    (hlive : (create rot3 mirror multiply41).along live calls = true) :
    (∀ made later, calls = made ++ later → ((create rot3 mirror multiply41).after made).Intact) ↔
      (create rot3 mirror multiply41).along unregistered calls = true := by
  rw [newObjects_append] at hobjects
  have hcreate := intact_create fun x hx y hy =>
    hobjects x (List.mem_append_left _ hx) y (List.mem_append_left _ hy)
  have hnames : (create rot3 mirror multiply41).names.Nodup := by
    change ["ROT3", "Mirror", "Multiply41"].Nodup
    decide
  rw [intact_iff_unregistered hnames (fun x hx => hx) hobjects hlive, and_iff_right hcreate]

/-- A new executor replaces ROT3 while that one is selected. -/
theorem registry_intact_iff_replaced :
    let calls := [.selectExecutor "ROT3", .addExecutor (some ⟨3, ⟨"ROT3", id, id⟩⟩)]
    (∀ made later, calls = made ++ later → ((create 0 1 2).after made).Intact) ↔
      (create 0 1 2).along unregistered calls = true :=
  registry_intact_iff 0 1 2 _ (OneEach.of_nodup (by decide)) (by decide)

/-- The same object is added twice: the second time it is deleted and stays registered. -/
theorem added_twice :
    ¬ ∀ (rot3 mirror multiply41 : Nat) (calls : List EncoderCall),
      OneEach (newObjects (built rot3 mirror multiply41 ++ calls)) →
        (create rot3 mirror multiply41).along live calls = true →
          ∀ made later, calls = made ++ later →
            ((create rot3 mirror multiply41).after made).Intact := by
  intro h
  have hobjects : OneEach (newObjects (built 0 1 2 ++
      [.addExecutor (some ⟨3, dummyEncoderExecutor⟩), .addExecutor (some ⟨3, dummyEncoderExecutor⟩)])) := by
    have honce : OneEach (newObjects (built 0 1 2 ++
        [.addExecutor (some ⟨3, dummyEncoderExecutor⟩)])) := OneEach.of_nodup (by decide)
    have hsub : newObjects (built 0 1 2 ++ [.addExecutor (some ⟨3, dummyEncoderExecutor⟩),
        .addExecutor (some ⟨3, dummyEncoderExecutor⟩)]) ⊆
          newObjects (built 0 1 2 ++ [.addExecutor (some ⟨3, dummyEncoderExecutor⟩)]) := by
      simp [newObjects, built]
    exact fun x hx y hy => honce x (hsub hx) y (hsub hy)
  have hintact := h 0 1 2 _ hobjects (by decide) _ [] (List.append_nil _).symm
  have honce : ([3, 0, 1, 2, 3] : List Nat).Nodup := hintact.once
  revert honce
  decide

end MessageEncoder
end DeviceMonitoring
