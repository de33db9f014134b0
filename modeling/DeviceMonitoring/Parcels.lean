import DeviceMonitoring.EncoderRegistry
import DeviceMonitoring.Letters
import DeviceMonitoring.Mismatch
import DeviceMonitoring.Receipts

/-! What a letter was meant to say. The encoders of the two ends may differ, but what is read
from a letter is what was written into it. -/
namespace DeviceMonitoring

/-- The object is of one of the classes of the repository. -/
def ExecutorObject.Known (object : ExecutorObject) : Prop :=
  ∃ A : Algorithm, A.executor = object.executor

namespace MessageEncoder

structure Known (e : MessageEncoder) : Prop where
  listed : ∀ object ∈ e.executors, object.Known
  current : ∀ object ∈ e.currentExecutor, object.Known

namespace Known
variable {e : MessageEncoder}

theorem selected (h : e.Known) {E : BaseEncoderExecutor} (hE : e.selected = some E) :
    ∃ A : Algorithm, A.executor = E := by
  obtain ⟨object, hobject, rfl⟩ := Option.map_eq_some_iff.mp hE
  exact h.current object hobject

theorem selectExecutor (h : e.Known) (name : String) : (e.selectExecutor name).2.Known := by
  unfold MessageEncoder.selectExecutor
  split
  · exact h
  next object hfind =>
    refine ⟨h.listed, ?_⟩
    rintro _ ⟨⟩
    exact h.listed object (List.mem_of_find?_eq_some hfind)

theorem addExecutor (h : e.Known) {object : Option ExecutorObject}
    (hobject : ∀ o ∈ object, ExecutorObject.Known o) : (e.addExecutor object).2.Known := by
  unfold MessageEncoder.addExecutor
  cases object with
  | none => exact h
  | some object =>
      have hnew : object.Known := hobject object rfl
      simp only
      split
      · refine ⟨?_, h.current⟩
        intro o ho
        rcases List.mem_append.mp ho with ho | ho
        · exact h.listed o ho
        · obtain rfl := List.mem_singleton.mp ho
          exact hnew
      next old executors hreplace =>
        obtain ⟨before, behind, heq, rfl, -, -⟩ := replace_eq_some hreplace
        have hlisted := h.listed
        rw [heq] at hlisted
        constructor
        · intro o ho
          rcases List.mem_append.mp ho with ho | ho
          · exact hlisted o (List.mem_append_left _ ho)
          · rcases List.mem_cons.mp ho with rfl | ho
            · exact hnew
            · exact hlisted o (List.mem_append_right _ (List.mem_cons_of_mem _ ho))
        · intro o ho
          simp only [Option.mem_def] at ho
          split at ho
          · cases ho
            exact hnew
          · exact h.current o ho

theorem create (rot3 mirror multiply41 : Nat) : (MessageEncoder.create rot3 mirror multiply41).Known := by
  have hempty : ({} : MessageEncoder).Known := ⟨by simp, by simp⟩
  have hbuilt : ∀ (A : Algorithm) (address : Nat), ∀ o ∈ some (⟨address, A.executor⟩ : ExecutorObject),
      ExecutorObject.Known o := by
    rintro A address o ⟨⟩
    exact ⟨A, rfl⟩
  exact ((hempty.addExecutor (hbuilt .rot3 rot3)).addExecutor (hbuilt .mirror mirror)).addExecutor
    (hbuilt .multiply41 multiply41)

end Known
end MessageEncoder

/-- A letter and the message that was encoded for it. -/
structure Parcel where
  letter : Letter
  content : Message

namespace Parcel

/-- An encoder without an executor makes the empty string of everything. -/
def Sealed (p : Parcel) : Prop :=
  p.letter.message = [] ∨ ∃ A : Algorithm, p.letter.message = A.executor.encode (serialize p.content)

/-- A meterage that is for the server, and the device that it is from. -/
def meterage (p : Parcel) : Option (UInt64 × MessageMeterage) :=
  match p.letter.toServer, p.content with
  | true, .meterage meterage => some (p.letter.clientId, meterage)
  | _, _ => none

/-- A message that is for a device. -/
def reply (p : Parcel) : Option (UInt64 × Message) :=
  if p.letter.toServer then none else some (p.letter.clientId, p.content)

end Parcel

theorem Algorithm.decode_nil (A : Algorithm) : A.executor.decode [] = [] := by
  cases A with
  | rot3 => rfl
  | mirror => exact Mirror.decode_short [] (by decide)
  | multiply41 => exact Multiply41.decode_short [] (by decide)
  | dummy => rfl

theorem not_prefix_nil (m : Message) : ¬ serialize m <+: [] :=
  rejected_of_length (by decide) m

namespace Parcel

/-- Whoever reads a message out of a letter reads the one that was written. -/
theorem Sealed.content_eq {p : Parcel} (h : p.Sealed) {encoder : MessageEncoder}
    (hknown : encoder.Known) {m : Message} (hm : serialize m <+: encoder.decode p.letter.message) :
    m = p.content := by
  cases hselected : encoder.selected with
  | none =>
      have hnone : encoder.currentExecutor = none := Option.map_eq_none_iff.mp hselected
      unfold MessageEncoder.decode at hm
      rw [hnone] at hm
      exact absurd hm (not_prefix_nil m)
  | some E =>
      obtain ⟨B, rfl⟩ := hknown.selected hselected
      rw [MessageEncoder.decode_of_selected hselected] at hm
      rcases h with hempty | ⟨A, hA⟩
      · rw [hempty, B.decode_nil] at hm
        exact absurd hm (not_prefix_nil m)
      · rw [hA] at hm
        by_cases hAB : A = B
        · subst hAB
          rw [A.decode_encode] at hm
          exact serialize_prefix_unique (List.prefix_refl _) hm
        · exact absurd hm (mismatch_rejected A B hAB p.content m)

theorem sealed_of_encode {encoder : MessageEncoder} (hknown : encoder.Known) {p : Parcel}
    (hmessage : p.letter.message = encoder.encode (serialize p.content)) : p.Sealed := by
  cases hselected : encoder.selected with
  | none =>
      left
      have hnone : encoder.currentExecutor = none := Option.map_eq_none_iff.mp hselected
      rw [hmessage]
      unfold MessageEncoder.encode
      rw [hnone]
  | some E =>
      obtain ⟨A, rfl⟩ := hknown.selected hselected
      exact .inr ⟨A, by rw [hmessage, MessageEncoder.encode_of_selected hselected]⟩

end Parcel

/-! The calls made to a command centre, the oldest one first. -/

def meteragesIn : History → List (UInt64 × MessageMeterage)
  | [] => []
  | .processMeterage deviceId meterage :: past => meteragesIn past ++ [(deviceId, meterage)]
  | _ :: past => meteragesIn past

def answersIn (S : PhaseSort) : History → List (UInt64 × Message)
  | [] => []
  | .processMeterage deviceId meterage :: past =>
      answersIn S past ++ [(deviceId, reply S past deviceId meterage)]
  | _ :: past => answersIn S past

end DeviceMonitoring
