import Mathlib.Data.Nat.Bitwise
import Mathlib.Data.List.Induction
import Mathlib.Tactic.Ring

/-! Fixed-width big-endian byte strings, over an arbitrary number of bytes.
Writing peels the low byte of a word off and shifts; reading shifts a word up
and puts the next byte in. Nothing here refers to a particular message. -/
namespace BigEndian

def lowBytes {w : Nat} : Nat → BitVec w → List UInt8
  | 0, _ => []
  | k+1, v => UInt8.ofNat v.toNat :: lowBytes k (v >>> 8)

/-- The value of a big-endian byte string. -/
def value (bs : List UInt8) : Nat := bs.foldl (fun v b => v * 256 + b.toNat) 0

/-- One reading step: make room for a byte and put it in. -/
def push {w : Nat} (v : BitVec w) (b : UInt8) : BitVec w :=
  (v <<< 8) ||| BitVec.ofNat w b.toNat

@[simp] theorem lowBytes_length {w : Nat} (k : Nat) (v : BitVec w) :
    (lowBytes k v).length = k := by
  induction k generalizing v with
  | zero => rfl
  | succ k ih => simp only [lowBytes, List.length_cons, ih]

@[simp] theorem value_nil : value [] = 0 := rfl

@[simp] theorem value_concat (bs : List UInt8) (b : UInt8) :
    value (bs ++ [b]) = value bs * 256 + b.toNat := by
  simp only [value, List.foldl_append, List.foldl_cons, List.foldl_nil]

theorem value_lt (bs : List UInt8) : value bs < 256 ^ bs.length := by
  induction bs using List.reverseRecOn with
  | nil => exact Nat.one_pos
  | append_singleton bs b ih =>
      have hb : b.toNat < 256 := b.toNat_lt
      rw [value_concat, List.length_append, List.length_singleton, pow_succ]
      omega

theorem value_inj {bs cs : List UInt8} (hl : bs.length = cs.length) (hv : value bs = value cs) :
    bs = cs := by
  induction bs using List.reverseRecOn generalizing cs with
  | nil => exact (List.length_eq_zero_iff.mp hl.symm).symm
  | append_singleton bs b ih =>
      obtain ⟨cs, c, rfl⟩ : ∃ cs' c, cs = cs' ++ [c] := by
        rcases List.eq_nil_or_concat cs with rfl | ⟨cs', c, rfl⟩
        · simp at hl
        · exact ⟨cs', c, List.concat_eq_append⟩
      have hb : b.toNat < 256 := b.toNat_lt
      have hc : c.toNat < 256 := c.toNat_lt
      rw [value_concat, value_concat] at hv
      have hbc : b = c := UInt8.toNat_inj.mp (by omega)
      rw [ih (by simpa using hl) (by omega), hbc]

/-- The bytes written for a word spell out the word, up to the bytes kept. -/
theorem value_lowBytes {w : Nat} (k : Nat) (v : BitVec w) :
    value (lowBytes k v).reverse = v.toNat % 256 ^ k := by
  induction k generalizing v with
  | zero => simp only [lowBytes, List.reverse_nil, value_nil, pow_zero, Nat.mod_one]
  | succ k ih =>
      have hb : (UInt8.ofNat v.toNat).toNat = v.toNat % 256 := UInt8.toNat_ofNat'
      have hs : (v >>> 8).toNat = v.toNat / 256 := by
        rw [BitVec.toNat_ushiftRight, Nat.shiftRight_eq_div_pow]
      rw [lowBytes, List.reverse_cons, value_concat, ih, hb, hs, pow_succ', Nat.mod_mul]
      ring

theorem push_toNat {w : Nat} (hw : 8 ≤ w) (v : BitVec w) (b : UInt8) :
    (push v b).toNat = (v.toNat * 256 + b.toNat) % 2 ^ w := by
  have hb : b.toNat < 2 ^ 8 := b.toNat_lt
  have hbw : b.toNat % 2 ^ w = b.toNat :=
    Nat.mod_eq_of_lt (hb.trans_le (Nat.pow_le_pow_right (by decide) hw))
  rw [push, BitVec.toNat_or, BitVec.toNat_shiftLeft, BitVec.toNat_ofNat, ← Nat.or_mod_two_pow,
    ← Nat.shiftLeft_add_eq_or_of_lt hb, Nat.shiftLeft_eq]

/-- Reading a byte string one byte at a time gives its value modulo the word size. -/
theorem foldl_push_toNat {w : Nat} (hw : 8 ≤ w) (bs : List UInt8) :
    (bs.foldl push (0 : BitVec w)).toNat = value bs % 2 ^ w := by
  induction bs using List.reverseRecOn with
  | nil => simp
  | append_singleton bs b ih =>
      rw [List.foldl_append, List.foldl_cons, List.foldl_nil, push_toNat hw, ih, value_concat,
        Nat.add_mod, Nat.mod_mul_mod, ← Nat.add_mod]

/-- Reading back the bytes of a word of that many bytes gives the word. -/
theorem foldl_push_lowBytes {n : Nat} (hn : 0 < n) (v : BitVec (8 * n)) :
    (lowBytes n v).reverse.foldl push 0 = v := by
  apply BitVec.eq_of_toNat_eq
  have hpow : (256 : Nat) ^ n = 2 ^ (8 * n) := by rw [pow_mul]; rfl
  rw [foldl_push_toNat (by omega), value_lowBytes, hpow, Nat.mod_mod, Nat.mod_eq_of_lt v.isLt]

/-- Writing a word read from that many bytes gives the bytes. -/
theorem lowBytes_foldl_push {n : Nat} (hn : 0 < n) (bs : List UInt8) (hl : bs.length = n) :
    (lowBytes n (bs.foldl push (0 : BitVec (8 * n)))).reverse = bs := by
  have hpow : (256 : Nat) ^ n = 2 ^ (8 * n) := by rw [pow_mul]; rfl
  apply value_inj (by simp [hl])
  rw [value_lowBytes, foldl_push_toNat (by omega), hpow, Nat.mod_mod, ← hpow,
    Nat.mod_eq_of_lt (hl ▸ value_lt bs)]

end BigEndian
