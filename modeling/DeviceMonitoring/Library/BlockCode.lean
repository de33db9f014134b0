import Mathlib.Data.List.Basic
import Mathlib.Tactic.Ring

/-! Codes that send every symbol to a block of one fixed width. The decoder is
any function that undoes a leading block and gives up on less than a block. -/

structure BlockCode (α β : Type) where
  width : Nat
  width_pos : 0 < width
  block : α → List β
  block_length : ∀ a, (block a).length = width
  decode : List β → List α
  decode_short : ∀ w : List β, w.length < width → decode w = []
  decode_block : ∀ a t, decode (block a ++ t) = a :: decode t

namespace BlockCode
variable {α β : Type} (C : BlockCode α β)

def encode (s : List α) : List β := s.flatMap C.block

@[simp] theorem encode_nil : C.encode [] = [] := rfl

@[simp] theorem encode_cons (a : α) (s : List α) : C.encode (a :: s) = C.block a ++ C.encode s :=
  List.flatMap_cons

theorem encode_append (s t : List α) : C.encode (s ++ t) = C.encode s ++ C.encode t :=
  List.flatMap_append

theorem encode_length (s : List α) : (C.encode s).length = C.width * s.length := by
  induction s with
  | nil => rfl
  | cons a s ih =>
      rw [encode_cons, List.length_append, ih, C.block_length, List.length_cons]
      ring

theorem decode_nil : C.decode [] = [] := C.decode_short [] C.width_pos

/-- Decoding undoes encoding block by block, whatever follows. -/
theorem decode_encode_append (s : List α) (t : List β) :
    C.decode (C.encode s ++ t) = s ++ C.decode t := by
  induction s with
  | nil => rfl
  | cons a s ih => rw [encode_cons, List.append_assoc, C.decode_block, ih, List.cons_append]

theorem decode_encode (s : List α) : C.decode (C.encode s) = s := by
  simpa [C.decode_nil] using C.decode_encode_append s []

theorem encode_injective : Function.Injective C.encode :=
  Function.LeftInverse.injective C.decode_encode

/-- A prefix of a code string decodes to its complete blocks. -/
theorem decode_prefix {s : List α} {w : List β} (h : w <+: C.encode s) :
    C.decode w = s.take (w.length / C.width) := by
  induction s generalizing w with
  | nil =>
      rw [encode_nil, List.prefix_nil] at h
      rw [h, C.decode_nil, List.take_nil]
  | cons a s ih =>
      by_cases hw : w.length < C.width
      · rw [C.decode_short w hw, Nat.div_eq_of_lt hw, List.take_zero]
      · have hb : C.block a <+: w :=
          List.prefix_of_prefix_length_le (by rw [encode_cons]; exact List.prefix_append _ _) h
            (by rw [C.block_length]; omega)
        obtain ⟨w, rfl⟩ := hb
        rw [encode_cons] at h
        rw [C.decode_block, ih ((List.prefix_append_right_inj _).mp h), List.length_append,
          C.block_length, Nat.add_div_left _ C.width_pos, List.take_succ_cons]

theorem decode_prefix_length {s : List α} {w : List β} (h : w <+: C.encode s) :
    (C.decode w).length = w.length / C.width := by
  have hl := h.length_le
  rw [encode_length] at hl
  rw [C.decode_prefix h, List.length_take, Nat.min_eq_left (Nat.div_le_of_le_mul hl)]

end BlockCode
