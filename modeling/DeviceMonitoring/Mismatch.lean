import DeviceMonitoring.Serializer
import DeviceMonitoring.Executor

/-! Two peers with different algorithms. The first decoded byte is almost never
a message tag; where it can be one, the decoded string is too short. -/
namespace DeviceMonitoring

/-- The executors that occur in the repository. -/
inductive Algorithm where
  | rot3
  | mirror
  | multiply41
  | dummy
  deriving DecidableEq, Repr

def Algorithm.executor : Algorithm → BaseEncoderExecutor
  | .rot3 => rot3EncoderExecutor
  | .mirror => mirrorEncoderExecutor
  | .multiply41 => multiply41EncoderExecutor
  | .dummy => dummyEncoderExecutor

theorem Algorithm.decode_encode (A : Algorithm) (s : Bytes) :
    A.executor.decode (A.executor.encode s) = s := by
  cases A with
  | rot3 => exact rot3_isBlockExecutor.decode_encode s
  | mirror => exact mirror_isBlockExecutor.decode_encode s
  | multiply41 => exact multiply41_isBlockExecutor.decode_encode s
  | dummy => exact dummy_isBlockExecutor.decode_encode s

/-- The first byte of a serialized message. -/
def tag : Message → UInt8
  | .error _ => 'e'.toUInt8
  | .command _ => 'c'.toUInt8
  | .meterage _ => 'm'.toUInt8

def second (m : Message) : UInt8 := (serialize m).getD 1 0

theorem serialize_shape (m : Message) :
    ∃ payload, serialize m = tag m :: second m :: payload ∧
      (tag m = 'm'.toUInt8 ∧ payload.length = 8 ∨ tag m ≠ 'm'.toUInt8 ∧ payload = []) := by
  cases m with
  | error e => cases e <;> exact ⟨[], rfl, .inr ⟨by decide, rfl⟩⟩
  | command command =>
      exact ⟨[], rfl, .inr ⟨show 'c'.toUInt8 ≠ 'm'.toUInt8 by decide, rfl⟩⟩
  | meterage message => exact ⟨(serialize (.meterage message)).drop 2, rfl, .inl ⟨rfl, rfl⟩⟩

theorem tag_mem (m : Message) : tag m ∈ ['e'.toUInt8, 'c'.toUInt8, 'm'.toUInt8] := by
  cases m <;> simp [tag]

/-- The string does not begin with one of the three tags. -/
def Untagged (w : Bytes) : Prop :=
  ∀ b ∈ w.head?, b ∉ ['e'.toUInt8, 'c'.toUInt8, 'm'.toUInt8]

theorem Untagged.rejected {w : Bytes} (h : Untagged w) (m : Message) : ¬ serialize m <+: w := by
  obtain ⟨payload, hs, _⟩ := serialize_shape m
  rintro ⟨t, rfl⟩
  refine h (tag m) ?_ (tag_mem m)
  rw [hs]
  rfl

theorem rejected_of_length {w : Bytes} (h : w.length < 2) (m : Message) : ¬ serialize m <+: w := by
  obtain ⟨payload, hs, _⟩ := serialize_shape m
  intro hp
  have hl := hp.length_le
  rw [hs, List.length_cons, List.length_cons] at hl
  omega

namespace Mirror

theorem mirrorLoop_zero_toNat (k : Nat) (result : UInt16) :
    (mirrorLoop k 0 result).toNat = result.toNat * 10 ^ k % 2 ^ 16 := by
  induction k generalizing result with
  | zero =>
      rw [mirrorLoop, pow_zero, Nat.mul_one]
      exact (Nat.mod_eq_of_lt result.toNat_lt).symm
  | succ k ih =>
      have h10 : (result * 10 + 0 % 10).toNat = result.toNat * 10 % 2 ^ 16 := by
        simp [UInt16.toNat_mul]
      rw [mirrorLoop, show (0 : UInt16) / 10 = 0 from rfl, ih, h10, Nat.mod_mul_mod, Nat.mul_assoc,
        ← pow_succ']

theorem mirrorLoop_five (k : Nat) (value result : UInt16) :
    ∃ r : UInt16, (mirrorLoop (k + 5) value result).toNat = r.toNat * 10 ^ k % 2 ^ 16 := by
  have h : value / 10 / 10 / 10 / 10 / 10 = 0 := by
    apply UInt16.toNat_inj.mp
    have hv : value.toNat < 65536 := value.toNat_lt
    simp only [UInt16.toNat_div, show UInt16.toNat 10 = 10 from rfl, UInt16.toNat_zero]
    omega
  simp only [mirrorLoop, h]
  exact ⟨_, mirrorLoop_zero_toNat k _⟩

/-- Eight surplus rounds push the number out of the low byte. -/
theorem mirror_low_byte (value : UInt16) {n : Nat} (h : 13 ≤ n) : (mirror value n).toUInt8 = 0 := by
  obtain ⟨k, rfl⟩ : ∃ k, n = k + 8 + 5 := ⟨n - 13, by omega⟩
  obtain ⟨r, hr⟩ := mirrorLoop_five (k + 8) value 0
  have hd : 2 ^ 8 ∣ r.toNat * 10 ^ (k + 8) :=
    Dvd.dvd.mul_left (Dvd.dvd.trans (by decide) (pow_dvd_pow 10 (Nat.le_add_left 8 k))) _
  apply UInt8.toNat_inj.mp
  rw [UInt16.toNat_toUInt8, mirror, hr, Nat.mod_mod_of_dvd _ (by decide)]
  exact Nat.mod_eq_zero_of_dvd hd

end Mirror

/-- `Mirror` reads a first byte of 13 or more as that many digits. -/
theorem untagged_mirror {d : UInt8} (hd : 13 ≤ d.toNat) (w : Bytes) :
    Untagged (Mirror.decode (d :: w)) := by
  by_cases hw : w.length < 2
  · rw [Mirror.decode_short (d :: w) (Nat.succ_lt_succ hw)]
    simp [Untagged]
  · have hs : w = w.take 2 ++ w.drop 2 := (List.take_append_drop 2 w).symm
    rw [hs, Mirror.decode_cons _ _ _ (by simp; omega),
      Mirror.mirror_low_byte _ hd]
    simp only [Untagged, List.head?_cons, Option.mem_some_iff]
    rintro b rfl
    decide

/-- The first byte that an algorithm sends for a first byte. -/
def Algorithm.lead (A : Algorithm) (ch : UInt8) : UInt8 := (A.executor.encode [ch]).headD 0

theorem Algorithm.encode_cons (A : Algorithm) (ch : UInt8) (s : Bytes) :
    ∃ w, A.executor.encode (ch :: s) = A.lead ch :: w := by
  cases A with
  | rot3 => exact ⟨Rot3.encode s, rfl⟩
  | mirror =>
      refine ⟨(Mirror.block ch).tail ++ Mirror.encode s, ?_⟩
      exact mirror_isBlockExecutor.encode_append [ch] s
  | multiply41 =>
      refine ⟨(Multiply41.block ch).tail ++ Multiply41.encode s, ?_⟩
      exact multiply41_isBlockExecutor.encode_append [ch] s
  | dummy => exact ⟨s, rfl⟩

/-- Seen as plain or as shifted text, a foreign first byte is no tag. -/
theorem lead_not_tag (A : Algorithm) (m : Message) :
    (A ≠ .dummy → A.lead (tag m) ∉ ['e'.toUInt8, 'c'.toUInt8, 'm'.toUInt8]) ∧
    (A ≠ .rot3 →
      Rot3.decodeChar (A.lead (tag m)) ∉ ['e'.toUInt8, 'c'.toUInt8, 'm'.toUInt8]) := by
  have h : ∀ t ∈ ['e'.toUInt8, 'c'.toUInt8, 'm'.toUInt8],
      (A ≠ .dummy → A.lead t ∉ ['e'.toUInt8, 'c'.toUInt8, 'm'.toUInt8]) ∧
      (A ≠ .rot3 → Rot3.decodeChar (A.lead t) ∉ ['e'.toUInt8, 'c'.toUInt8, 'm'.toUInt8]) := by
    cases A <;> decide +kernel
  exact h (tag m) (tag_mem m)

theorem lead_digits (A : Algorithm) (hA : A ≠ .mirror) (m : Message) :
    13 ≤ (A.lead (tag m)).toNat := by
  have h : ∀ t ∈ ['e'.toUInt8, 'c'.toUInt8, 'm'.toUInt8],
      A ≠ .mirror → 13 ≤ (A.lead t).toNat := by
    cases A <;> decide +kernel
  exact h (tag m) (tag_mem m) hA

theorem untagged_cons {b : UInt8} (h : b ∉ ['e'.toUInt8, 'c'.toUInt8, 'm'.toUInt8]) (w : Bytes) :
    Untagged (b :: w) := by
  intro b' hb'
  rw [List.head?_cons, Option.mem_some_iff] at hb'
  exact hb' ▸ h

/-- The first byte `Multiply41` makes of two. -/
def multiply41Pair (d d' : UInt8) : UInt8 :=
  (UInt16.ofBitVec ([d, d'].foldl BigEndian.push 0) / 41).toUInt8

theorem multiply41_decode_pair (d d' : UInt8) (w : Bytes) :
    Multiply41.decode (d :: d' :: w) = multiply41Pair d d' :: Multiply41.decode w :=
  Multiply41.decode_cons [d, d'] w rfl

theorem multiply41Pair_not_tag (d' : UInt8) :
    multiply41Pair 'm'.toUInt8 d' ∉ ['e'.toUInt8, 'c'.toUInt8, 'm'.toUInt8] ∧
    multiply41Pair (Rot3.encodeChar 'm'.toUInt8) d' ∉
      ['e'.toUInt8, 'c'.toUInt8, 'm'.toUInt8] :=
  forall_byte (P := fun d' => multiply41Pair 'm'.toUInt8 d' ∉
      ['e'.toUInt8, 'c'.toUInt8, 'm'.toUInt8] ∧
    multiply41Pair (Rot3.encodeChar 'm'.toUInt8) d' ∉
      ['e'.toUInt8, 'c'.toUInt8, 'm'.toUInt8]) (by decide +kernel) d'

/-- `Multiply41` on a character-wise code: an error or a command shrinks to one
byte, which may be a tag, and a meterage starts with no tag. -/
theorem multiply41_rejects_charwise (f : UInt8 → UInt8) (m : Message)
    (hf : ∀ d', multiply41Pair (f 'm'.toUInt8) d' ∉ ['e'.toUInt8, 'c'.toUInt8, 'm'.toUInt8])
    (m' : Message) : ¬ serialize m' <+: Multiply41.decode ((serialize m).map f) := by
  obtain ⟨payload, hs, hp⟩ := serialize_shape m
  rw [hs, List.map_cons, List.map_cons, multiply41_decode_pair]
  rcases hp with ⟨ht, _⟩ | ⟨_, rfl⟩
  · rw [ht]
    exact (untagged_cons (hf (f (second m))) _).rejected m'
  · apply rejected_of_length
    rw [List.map_nil, Multiply41.decode_short [] (by decide)]
    exact Nat.lt_succ_self 1

theorem multiply41_rejects_mirror (m m' : Message) :
    ¬ serialize m' <+: Multiply41.decode (Mirror.encode (serialize m)) := by
  obtain ⟨payload, hs, _⟩ := serialize_shape m
  have hb : ∀ t ∈ ['e'.toUInt8, 'c'.toUInt8, 'm'.toUInt8],
      ∃ d d' w, Mirror.encode [t] = d :: d' :: w ∧
        multiply41Pair d d' ∉ ['e'.toUInt8, 'c'.toUInt8, 'm'.toUInt8] := by
    intro t ht
    refine ⟨(Mirror.encode [t]).getD 0 0, (Mirror.encode [t]).getD 1 0,
      (Mirror.encode [t]).drop 2, rfl, ?_⟩
    revert t
    decide +kernel
  obtain ⟨d, d', w, hd, hnot⟩ := hb (tag m) (tag_mem m)
  have he : Mirror.encode (serialize m) =
      d :: d' :: (w ++ Mirror.encode (second m :: payload)) := by
    have happ := mirror_isBlockExecutor.encode_append [tag m] (second m :: payload)
    change Mirror.encode (tag m :: second m :: payload) =
      Mirror.encode [tag m] ++ Mirror.encode (second m :: payload) at happ
    rw [hs, happ, hd]
    rfl
  rw [he, multiply41_decode_pair]
  exact (untagged_cons hnot _).rejected m'

/-- Decoding with a different algorithm never yields a string that starts with a message. -/
theorem mismatch_rejected (A B : Algorithm) (hAB : A ≠ B) (m m' : Message) :
    ¬ serialize m' <+: B.executor.decode (A.executor.encode (serialize m)) := by
  obtain ⟨payload, hs, _⟩ := serialize_shape m
  obtain ⟨w, hw⟩ := A.encode_cons (tag m) (second m :: payload)
  rw [← hs] at hw
  cases B with
  | rot3 =>
      rw [hw]
      exact (untagged_cons ((lead_not_tag A m).2 hAB) _).rejected m'
  | dummy =>
      rw [hw]
      exact (untagged_cons ((lead_not_tag A m).1 hAB) _).rejected m'
  | mirror =>
      rw [hw]
      exact (untagged_mirror (lead_digits A hAB m) w).rejected m'
  | multiply41 =>
      cases A with
      | rot3 =>
          exact multiply41_rejects_charwise Rot3.encodeChar m
            (fun d' => (multiply41Pair_not_tag d').2) m'
      | mirror => exact multiply41_rejects_mirror m m'
      | multiply41 => exact absurd rfl hAB
      | dummy =>
          have h := multiply41_rejects_charwise id m (fun d' => (multiply41Pair_not_tag d').1) m'
          rwa [List.map_id] at h

/-- A message encoded with one algorithm and decoded with another is never
delivered, neither as itself nor as any other message. -/
theorem executor_mismatch_detected (A B : Algorithm) (hAB : A ≠ B) (m : Message) :
    received (B.executor.decode (A.executor.encode (serialize m))) = (false, []) ∧
    ∀ {μ : Type → Type} [Monad μ] (callback : Message → μ Unit),
      deserialize (B.executor.decode (A.executor.encode (serialize m))) callback = pure false :=
  ⟨received_reject _ (mismatch_rejected A B hAB m),
    fun callback => deserialize_reject _ (mismatch_rejected A B hAB m) callback⟩

/-- A command sent in the clear decodes under `Multiply41` to a lone meterage tag. -/
theorem executor_mismatch_detected_dummy_multiply41 :
    Algorithm.multiply41.executor.decode
        (Algorithm.dummy.executor.encode (serialize (.command 120))) = ['m'.toUInt8] ∧
    received (Algorithm.multiply41.executor.decode
        (Algorithm.dummy.executor.encode (serialize (.command 120)))) = (false, []) :=
  ⟨by decide +kernel, (executor_mismatch_detected .dummy .multiply41 (by decide) (.command 120)).1⟩

end DeviceMonitoring
