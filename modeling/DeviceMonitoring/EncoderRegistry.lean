import DeviceMonitoring.ExecutorMap
import Mathlib.Data.List.Nodup

/-! `MessageEncoder` keeps to its map as long as every object added is a new one. -/
namespace DeviceMonitoring
namespace MessageEncoder
variable {object old x y : ExecutorObject} {objects objects' : List ExecutorObject}
  {e : MessageEncoder} {s : ExecutorMap} {call : EncoderCall}

def slot (e : MessageEncoder) (name : String) : Option ExecutorObject :=
  e.executors.find? fun object => object.executor.name == name

theorem slot_mem {name : String} (h : e.slot name = some x) :
    x ∈ e.executors ∧ x.executor.name = name :=
  ⟨List.mem_of_find?_eq_some h, by simpa using List.find?_some h⟩

def names (e : MessageEncoder) : List String := e.executors.map (·.executor.name)
def addresses (e : MessageEncoder) : List Nat := e.executors.map (·.address)

theorem find_replace (h : replace object objects = some (old, objects')) (name : String) :
    objects'.find? (fun x => x.executor.name == name) =
      if object.executor.name = name then some object
      else objects.find? fun x => x.executor.name == name := by
  obtain ⟨before, behind, rfl, rfl, hold, hbefore⟩ := replace_eq_some h
  simp only [List.find?_append, List.find?_cons, hold]
  by_cases hname : object.executor.name = name
  · have hnone : before.find? (fun x => x.executor.name == name) = none := by
      rw [List.find?_eq_none]
      intro x hx
      rw [beq_iff_eq, ← hname]
      exact hbefore x hx
    simp [hname, hnone]
  · simp [beq_eq_false_iff_ne.mpr hname, hname]

theorem names_replace (h : replace object objects = some (old, objects')) :
    objects'.map (·.executor.name) = objects.map (·.executor.name) := by
  obtain ⟨before, behind, rfl, rfl, hold, -⟩ := replace_eq_some h
  simp only [List.map_append, List.map_cons, hold]

theorem find_replaced (h : replace object objects = some (old, objects')) :
    objects.find? (fun x => x.executor.name == object.executor.name) = some old := by
  obtain ⟨before, behind, rfl, -, hold, hbefore⟩ := replace_eq_some h
  rw [List.find?_append, List.find?_eq_none.mpr, Option.none_or, List.find?_cons, hold, BEq.rfl]
  intro x hx
  rw [beq_iff_eq]
  exact hbefore x hx

/-- One slot, one object. -/
theorem eq_of_address (h : e.addresses.Nodup) (hx : x ∈ e.executors) (hy : y ∈ e.executors)
    (heq : x.address = y.address) : x = y :=
  List.inj_on_of_nodup_map h hx hy heq

theorem names_append (h : e.names.Nodup) (hnone : replace object e.executors = none) :
    ({ e with executors := e.executors ++ [object] } : MessageEncoder).names.Nodup := by
  rw [names, List.map_append, List.map_singleton]
  refine List.Nodup.append h (List.nodup_singleton _) ?_
  simp only [List.disjoint_singleton, List.mem_map, not_exists, not_and]
  exact replace_eq_none.mp hnone

structure Refines (e : MessageEncoder) (s : ExecutorMap) : Prop where
  names : e.names.Nodup
  addresses : e.addresses.Nodup
  slot : ∀ name, (e.slot name).map (·.executor) = s.executor name
  current : e.currentExecutor = s.selected.bind e.slot
  selected : ∀ name ∈ s.selected, ∃ x, e.slot name = some x

/-- The object is not in the registry when it is added. -/
def unregistered (e : MessageEncoder) : EncoderCall → Bool
  | .addExecutor (some object) => object.address ∉ e.addresses
  | _ => true

namespace Refines

theorem executor_current (h : e.Refines s) : e.currentExecutor.map (·.executor) = s.current := by
  rw [h.current, ExecutorMap.current, Option.map_bind]
  congr 1
  funext name
  exact h.slot name

theorem encode (h : e.Refines s) (message : Bytes) :
    e.encode message = s.current.elim [] fun executor => executor.encode message := by
  rw [← h.executor_current, MessageEncoder.encode]
  cases e.currentExecutor <;> rfl

theorem decode (h : e.Refines s) (message : Bytes) :
    e.decode message = s.current.elim [] fun executor => executor.decode message := by
  rw [← h.executor_current, MessageEncoder.decode]
  cases e.currentExecutor <;> rfl

/-- What is in the map is in a slot. -/
theorem mem_added (h : e.Refines s) (name : String) :
    name ∈ s.added.map (·.name) ↔ ∃ x, e.slot name = some x := by
  have hsome : (∃ x, e.slot name = some x) ↔ (s.executor name).isSome = true := by
    rw [← h.slot name, Option.isSome_map, Option.isSome_iff_exists]
  rw [hsome, ExecutorMap.executor, List.find?_isSome, List.mem_map]
  simp only [beq_iff_eq]

theorem selectExecutor (h : e.Refines s) (name : String) :
    (e.perform (.selectExecutor name)).1 = (s.perform (.selectExecutor name)).1 ∧
      (e.perform (.selectExecutor name)).2.Refines (s.perform (.selectExecutor name)).2 := by
  have hmem := h.mem_added name
  simp only [perform, ExecutorMap.perform, MessageEncoder.selectExecutor]
  cases hslot : e.slot name with
  | none =>
      have hfind : e.executors.find? (fun object => object.executor.name == name) = none := hslot
      have hno : name ∉ s.added.map (·.name) := by simp [hmem, hslot]
      simp only [hfind]
      rw [if_neg hno]
      exact ⟨rfl, h⟩
  | some x =>
      have hfind : e.executors.find? (fun object => object.executor.name == name) = some x := hslot
      simp only [hfind]
      rw [if_pos (hmem.mpr ⟨x, hslot⟩)]
      refine ⟨rfl, h.names, h.addresses, h.slot, hslot.symm, ?_⟩
      rintro _ ⟨⟩
      exact ⟨x, hslot⟩

/-- The first object of its name. -/
theorem append (h : e.Refines s) (hnew : object.address ∉ e.addresses)
    (hnone : replace object e.executors = none) :
    Refines { e with executors := e.executors ++ [object] }
      { s with added := object.executor :: s.added } := by
  have hslot : ∀ name,
      MessageEncoder.slot { e with executors := e.executors ++ [object] } name =
      (e.slot name).or (if object.executor.name = name then some object else none) := by
    intro name
    simp only [MessageEncoder.slot, List.find?_append, List.find?_singleton, beq_iff_eq]
  have hfresh : e.slot object.executor.name = none := by
    rw [MessageEncoder.slot, List.find?_eq_none]
    intro x hx
    rw [beq_iff_eq]
    exact replace_eq_none.mp hnone x hx
  constructor
  · exact names_append h.names hnone
  · rw [MessageEncoder.addresses, List.map_append, List.map_singleton]
    exact h.addresses.append (List.nodup_singleton _) (List.disjoint_singleton.mpr hnew)
  · intro name
    rw [hslot, ExecutorMap.executor, List.find?_cons]
    by_cases hname : object.executor.name = name
    · subst hname
      simp [hfresh]
    · rw [if_neg hname, Option.or_none, beq_eq_false_iff_ne.mpr hname]
      exact h.slot name
  · refine h.current.trans ?_
    cases hsel : s.selected with
    | none => rfl
    | some name =>
        obtain ⟨x, hx⟩ := h.selected name hsel
        simp only [Option.bind_some, hslot, hx, Option.some_or]
  · intro name hname
    obtain ⟨x, hx⟩ := h.selected name hname
    exact ⟨x, by rw [hslot, hx, Option.some_or]⟩

/-- The slot that is selected keeps being selected. -/
theorem replace (h : e.Refines s) (hnew : object.address ∉ e.addresses)
    (hsome : MessageEncoder.replace object e.executors = some (old, objects')) :
    Refines
      { executors := objects'
        currentExecutor :=
          if e.currentExecutor.any (fun current => current.address == old.address) then some object
          else e.currentExecutor
        deleted := e.deleted ++ [old.address] }
      { s with added := object.executor :: s.added } := by
  have hold : e.slot object.executor.name = some old := find_replaced hsome
  have hslot : ∀ (current : Option ExecutorObject) (deleted : List Nat) (name : String),
      MessageEncoder.slot { executors := objects', currentExecutor := current, deleted } name =
        if object.executor.name = name then some object else e.slot name :=
    fun _ _ name => find_replace hsome name
  constructor
  · rw [MessageEncoder.names, names_replace hsome]
    exact h.names
  · obtain ⟨before, behind, heq, rfl, -, -⟩ := replace_eq_some hsome
    have haddresses := h.addresses
    rw [MessageEncoder.addresses, heq, List.map_append, List.map_cons] at hnew haddresses
    rw [MessageEncoder.addresses, List.map_append, List.map_cons, List.nodup_middle, List.nodup_cons]
    rw [List.nodup_middle, List.nodup_cons] at haddresses
    refine ⟨?_, haddresses.2⟩
    rw [List.mem_append, List.mem_cons, not_or, not_or] at hnew
    rw [List.mem_append, not_or]
    exact ⟨hnew.1, hnew.2.2⟩
  · intro name
    rw [hslot, ExecutorMap.executor, List.find?_cons]
    by_cases hname : object.executor.name = name
    · rw [if_pos hname, hname, BEq.rfl]
      rfl
    · rw [if_neg hname, beq_eq_false_iff_ne.mpr hname]
      exact h.slot name
  · have hcurrent := h.current
    cases hsel : s.selected with
    | none =>
        rw [hsel] at hcurrent
        simp only [hcurrent, Option.bind_none, Option.any_none, Bool.false_eq_true, if_false]
    | some name =>
        obtain ⟨x, hx⟩ := h.selected name hsel
        rw [hsel, Option.bind_some, hx] at hcurrent
        simp only [hcurrent, Option.bind_some, hslot, Option.any_some, beq_iff_eq]
        by_cases hname : object.executor.name = name
        · rw [hname, hx] at hold
          cases hold
          rw [if_pos rfl, if_pos hname]
        · rw [if_neg hname, hx, if_neg]
          intro heq
          have hxold := eq_of_address h.addresses (slot_mem hx).1 (slot_mem hold).1 heq
          rw [← (slot_mem hx).2, hxold, (slot_mem hold).2] at hname
          exact hname rfl
  · intro name hname
    obtain ⟨x, hx⟩ := h.selected name hname
    rw [hslot]
    split
    · exact ⟨object, rfl⟩
    · exact ⟨x, hx⟩

/-- A call replies as the map does, and leads to the map's next state. -/
theorem perform (h : e.Refines s) (hcall : e.unregistered call = true) :
    (e.perform call).1 = (s.perform call).1 ∧ (e.perform call).2.Refines (s.perform call).2 := by
  cases call with
  | addExecutor object =>
      cases object with
      | none => exact ⟨rfl, h⟩
      | some object =>
          have hnew : object.address ∉ e.addresses := of_decide_eq_true hcall
          simp only [MessageEncoder.perform, addExecutor, ExecutorMap.perform]
          cases hreplace : MessageEncoder.replace object e.executors with
          | none => exact ⟨rfl, h.append hnew hreplace⟩
          | some found => exact ⟨rfl, h.replace hnew hreplace⟩
  | selectExecutor name => exact h.selectExecutor name
  | encode message => exact ⟨congrArg EncoderReply.text (h.encode message), h⟩
  | decode message => exact ⟨congrArg EncoderReply.text (h.decode message), h⟩

end Refines

/-- A condition on every call, in the state it is made in. -/
def along (P : MessageEncoder → EncoderCall → Bool) : MessageEncoder → List EncoderCall → Bool
  | _, [] => true
  | e, call :: calls => P e call && along P (e.perform call).2 calls

theorem Refines.after (h : e.Refines s) {calls : List EncoderCall}
    (hcalls : e.along unregistered calls = true) :
    e.replies calls = s.replies calls ∧ (e.after calls).Refines (s.after calls) := by
  induction calls generalizing e s with
  | nil => exact ⟨rfl, h⟩
  | cons call calls ih =>
      obtain ⟨hcall, hrest⟩ := Bool.and_eq_true_iff.mp hcalls
      obtain ⟨hreply, hnext⟩ := h.perform hcall
      obtain ⟨hreplies, hafter⟩ := ih hnext hrest
      exact ⟨by rw [MessageEncoder.replies, ExecutorMap.replies, hreply, hreplies], hafter⟩

/-- The addresses of the objects that the calls add. -/
def newAddresses (calls : List EncoderCall) : List Nat :=
  calls.filterMap fun call => match call with
    | .addExecutor (some object) => some object.address
    | _ => none

/-- What is in the registry was there, or has just been added. -/
theorem mem_executors_perform (hx : x ∈ (e.perform call).2.executors) :
    x ∈ e.executors ∨ call = .addExecutor (some x) := by
  cases call with
  | addExecutor object =>
      cases object with
      | none => exact .inl hx
      | some object =>
          simp only [perform, addExecutor] at hx
          cases hreplace : replace object e.executors with
          | none =>
              rw [hreplace, List.mem_append, List.mem_singleton] at hx
              exact hx.imp_right fun heq => by rw [heq]
          | some found =>
              obtain ⟨old, objects'⟩ := found
              rw [hreplace] at hx
              obtain ⟨before, behind, heq, rfl, -, -⟩ := replace_eq_some hreplace
              rw [heq, List.mem_append, List.mem_cons]
              rcases List.mem_append.mp hx with hx | hx
              · exact .inl (.inl hx)
              · rcases List.mem_cons.mp hx with rfl | hx
                · exact .inr rfl
                · exact .inl (.inr (.inr hx))
  | selectExecutor name =>
      simp only [perform, selectExecutor] at hx
      split at hx <;> exact .inl hx
  | encode message => exact .inl hx
  | decode message => exact .inl hx

/-- New objects are not in the registry. -/
theorem along_unregistered {calls : List EncoderCall} (known : List Nat)
    (hknown : ∀ a ∈ e.addresses, a ∈ known) (h : (known ++ newAddresses calls).Nodup) :
    e.along unregistered calls = true := by
  induction calls generalizing e known with
  | nil => rfl
  | cons call calls ih =>
      have hsplit : newAddresses (call :: calls) = newAddresses [call] ++ newAddresses calls := by
        unfold newAddresses
        rw [← List.filterMap_append, List.singleton_append]
      rw [hsplit, ← List.append_assoc] at h
      rw [along, Bool.and_eq_true_iff]
      constructor
      · cases call with
        | addExecutor object =>
            cases object with
            | none => rfl
            | some object =>
                apply decide_eq_true
                intro hmem
                have hdisjoint := (List.nodup_append.mp (List.nodup_append.mp h).1).2.2
                exact hdisjoint _ (hknown _ hmem) object.address (List.mem_singleton_self _) rfl
        | selectExecutor name => rfl
        | encode message => rfl
        | decode message => rfl
      · refine ih _ ?_ h
        intro a ha
        obtain ⟨x, hx, rfl⟩ := List.mem_map.mp ha
        rw [List.mem_append]
        rcases mem_executors_perform hx with hx | rfl
        · exact .inl (hknown _ (List.mem_map_of_mem hx))
        · exact .inr (List.mem_singleton_self _)

theorem refines_empty : ({} : MessageEncoder).Refines { added := [] } := by
  constructor
  · exact List.nodup_nil
  · exact List.nodup_nil
  · intro name
    rfl
  · rfl
  · rintro name ⟨⟩

/-- The constructor makes three calls. -/
def built (rot3 mirror multiply41 : Nat) : List EncoderCall :=
  [.addExecutor (some ⟨rot3, rot3EncoderExecutor⟩), .addExecutor (some ⟨mirror, mirrorEncoderExecutor⟩),
    .addExecutor (some ⟨multiply41, multiply41EncoderExecutor⟩)]

theorem create_eq (rot3 mirror multiply41 : Nat) :
    create rot3 mirror multiply41 = ({} : MessageEncoder).after (built rot3 mirror multiply41) := rfl

theorem refines_create {rot3 mirror multiply41 : Nat} (h : [rot3, mirror, multiply41].Nodup) :
    (create rot3 mirror multiply41).Refines .builtIn := by
  have halong : ({} : MessageEncoder).along unregistered (built rot3 mirror multiply41) = true := by
    refine along_unregistered [] ?_ h
    rintro a ⟨⟩
  rw [create_eq]
  exact (refines_empty.after halong).2

/-- A refused call changes nothing. -/
theorem perform_refused (h : (e.perform call).1 = .accepted false) : (e.perform call).2 = e := by
  cases call with
  | addExecutor object =>
      cases object with
      | none => rfl
      | some object =>
          simp only [perform, addExecutor] at h
          split at h <;> cases h
  | selectExecutor name =>
      simp only [perform, selectExecutor] at h ⊢
      split
      next => rfl
      next object hobject =>
        rw [hobject] at h
        cases h
  | encode message => rfl
  | decode message => rfl

/-- Every reply is that of the map, as long as every object added is a new one. -/
theorem encoder_refines_map (rot3 mirror multiply41 : Nat) (calls : List EncoderCall)
    (h : (rot3 :: mirror :: multiply41 :: newAddresses calls).Nodup) :
    (create rot3 mirror multiply41).replies calls = ExecutorMap.builtIn.replies calls ∧
      ((create rot3 mirror multiply41).after calls).names.Nodup ∧
        ∀ call, (((create rot3 mirror multiply41).after calls).perform call).1 = .accepted false →
          (((create rot3 mirror multiply41).after calls).perform call).2 =
            (create rot3 mirror multiply41).after calls := by
  have hcreate : [rot3, mirror, multiply41].Nodup :=
    h.sublist (List.prefix_append [rot3, mirror, multiply41] (newAddresses calls)).sublist
  have halong : (create rot3 mirror multiply41).along unregistered calls = true :=
    along_unregistered [rot3, mirror, multiply41] (fun _ ha => ha) h
  obtain ⟨hreplies, hafter⟩ := (refines_create hcreate).after halong
  exact ⟨hreplies, hafter.names, fun _ => perform_refused⟩

/-- ROT3 is selected, then replaced by an executor of that name that does nothing. -/
theorem encoder_refines_map_replaced :
    let calls := [.addExecutor (some ⟨3, dummyEncoderExecutor⟩), .selectExecutor "ROT3",
      .encode [65], .addExecutor (some ⟨4, ⟨"ROT3", id, id⟩⟩), .selectExecutor "Caesar",
      .encode [65]]
    (create 0 1 2).replies calls = ExecutorMap.builtIn.replies calls ∧
      ((create 0 1 2).after calls).names.Nodup ∧
        ∀ call, (((create 0 1 2).after calls).perform call).1 = .accepted false →
          (((create 0 1 2).after calls).perform call).2 = (create 0 1 2).after calls :=
  encoder_refines_map 0 1 2 _ (by decide)

end MessageEncoder
end DeviceMonitoring
