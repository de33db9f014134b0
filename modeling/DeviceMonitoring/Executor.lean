import DeviceMonitoring.Stream
import DeviceMonitoring.Library.BlockCode
import DeviceMonitoring.Library.CollectLoop
import Mathlib.Tactic.NormNum

/-! The encoder executors. Every built-in one is a block code: one byte a
block for ROT3, two for Multiply41, three for Mirror. -/
namespace DeviceMonitoring

/-- `BaseEncoderExecutor`: what an algorithm is called and what it does. -/
structure BaseEncoderExecutor where
  name : String
  encode : Bytes → Bytes
  decode : Bytes → Bytes

theorem forall_byte {P : UInt8 → Prop} (h : ∀ n : Fin 256, P (UInt8.ofFin n)) (c : UInt8) :
    P c := by
  simpa using h c.toFin

namespace Rot3

/-- `numeric_limits<char>`, a signed type. -/
def start : Int := -128
def «end» : Int := 127 + 1

def encodeChar (ch : UInt8) : UInt8 :=
  let c := ch.toInt8.toInt
  if c ≥ start ∧ c < «end» then
    let c := c + 3
    let c := if c ≥ «end» then c - («end» - start) else c
    toChar c
  else ch

def decodeChar (ch : UInt8) : UInt8 :=
  let c := ch.toInt8.toInt
  if c ≥ start ∧ c < «end» then
    let c := c - 3
    let c := if c < start then c + («end» - start) else c
    toChar c
  else ch

def encode (message : Bytes) : Bytes := message.map encodeChar
def decode (message : Bytes) : Bytes := message.map decodeChar

theorem decodeChar_encodeChar (ch : UInt8) : decodeChar (encodeChar ch) = ch :=
  forall_byte (P := fun ch => decodeChar (encodeChar ch) = ch) (by decide +kernel) ch

theorem encodeChar_decodeChar (ch : UInt8) : encodeChar (decodeChar ch) = ch :=
  forall_byte (P := fun ch => encodeChar (decodeChar ch) = ch) (by decide +kernel) ch

def code : BlockCode UInt8 UInt8 where
  width := 1
  width_pos := by decide
  block ch := [encodeChar ch]
  block_length _ := rfl
  decode := decode
  decode_short w h := by
    rw [List.length_eq_zero_iff.mp (Nat.lt_one_iff.mp h)]
    rfl
  decode_block ch t := by simp [decode, decodeChar_encodeChar]

theorem encode_eq (s : Bytes) : encode s = code.encode s := by
  induction s with
  | nil => rfl
  | cons ch s ih =>
      rw [BlockCode.encode_cons, ← ih]
      rfl

theorem encode_decode (s : Bytes) : encode (decode s) = s := by
  have hid : encodeChar ∘ decodeChar = id := funext encodeChar_decodeChar
  rw [encode, decode, List.map_map, hid, List.map_id]

end Rot3

namespace Mirror

/-- `digits`: the loop counts divisions by ten until nothing is left. -/
def digits (value : UInt16) : Nat :=
  if 0 < value then digits (value / 10) + 1 else 0
termination_by value.toNat
decreasing_by
  rename_i h
  have h0 : 0 < value.toNat := UInt16.lt_iff_toNat_lt.mp h
  rw [UInt16.toNat_div]
  exact Nat.div_lt_self h0 (by decide)

/-- The loop of `mirror`, with `result` accumulated modulo 2^16. -/
def mirrorLoop : Nat → UInt16 → UInt16 → UInt16
  | 0, _, result => result
  | k+1, value, result => mirrorLoop k (value / 10) (result * 10 + value % 10)

def mirror (value : UInt16) (digits : Nat) : UInt16 := mirrorLoop digits value 0

def encode (message : Bytes) : Bytes :=
  message.foldl (fun ostream ch =>
    let digs := digits ch.toUInt16
    toBigEndian (n := 2) (ostream ++ [toChar digs]) (mirror ch.toUInt16 digs).toBitVec) []

/-- One round of the loop of `decode`; either read may end it. -/
def decodeRound (istream : IStream) : Option (UInt8 × IStream) :=
  let digs := istream.get
  if digs.2.fail then none
  else
    let value := fromBigEndian 2 digs.2
    if value.2.fail then none
    else some ((mirror (UInt16.ofBitVec value.1) (toChar digs.1).toNat).toUInt8, value.2)

def decode (message : Bytes) : Bytes :=
  CollectLoop.collect (fun s : IStream => s.rest.length) decodeRound ⟨message, false⟩

/-- The three bytes of one character. -/
def block (ch : UInt8) : Bytes :=
  toBigEndian (n := 2) [toChar (digits ch.toUInt16)] (mirror ch.toUInt16 (digits ch.toUInt16)).toBitVec

/-- Leading zeros of the reversed number survive, since the digit count travels along. -/
theorem mirror_mirror (ch : UInt8) :
    (mirror (mirror ch.toUInt16 (digits ch.toUInt16))
      (toChar (digits ch.toUInt16)).toNat).toUInt8 = ch :=
  forall_byte (P := fun ch => (mirror (mirror ch.toUInt16 (digits ch.toUInt16))
    (toChar (digits ch.toUInt16)).toNat).toUInt8 = ch) (by decide +kernel) ch

theorem decodeRound_consumes (s : IStream) (ch : UInt8) (s' : IStream)
    (h : decodeRound s = some (ch, s')) : s'.rest.length < s.rest.length := by
  simp only [decodeRound, Option.ite_none_left_eq_some] at h
  obtain ⟨hd, _, h⟩ := h
  cases h
  exact (fromBigEndian_length 2 _).trans_lt (s.get_consumes (by simpa using hd))

/-- A complete block is turned into a character. -/
theorem decode_cons (d : UInt8) (bs t : Bytes) (h : bs.length = 2) :
    decode (d :: (bs ++ t)) =
      (mirror (UInt16.ofBitVec (bs.foldl BigEndian.push 0)) d.toNat).toUInt8 :: decode t := by
  refine CollectLoop.collect_some _ _ decodeRound_consumes ?_
  simp [decodeRound, fromBigEndian_append bs t h]

theorem decode_short (w : Bytes) (h : w.length < 3) : decode w = [] := by
  apply CollectLoop.collect_none
  cases w with
  | nil => rfl
  | cons d w =>
      have hf := fromBigEndian_short (n := 2) w (Nat.lt_of_succ_lt_succ h)
      simp [decodeRound, hf]

def code : BlockCode UInt8 UInt8 where
  width := 3
  width_pos := by decide
  block := block
  block_length ch := by simp [block]
  decode := decode
  decode_short := decode_short
  decode_block ch t := by
    have hp := BigEndian.foldl_push_lowBytes (n := 2) (by decide)
      (mirror ch.toUInt16 (digits ch.toUInt16)).toBitVec
    have hb : block ch ++ t = toChar (digits ch.toUInt16) ::
        ((BigEndian.lowBytes 2 (mirror ch.toUInt16 (digits ch.toUInt16)).toBitVec).reverse ++ t) := by
      simp [block, toBigEndian]
    rw [hb, decode_cons _ _ _ (by simp), hp, UInt16.ofBitVec_toBitVec, mirror_mirror]

theorem encode_eq (s : Bytes) : encode s = code.encode s := by
  rw [BlockCode.encode, List.flatMap_eq_foldl]
  simp [encode, code, block, toBigEndian]

end Mirror

namespace Multiply41

def encode (message : Bytes) : Bytes :=
  message.foldl (fun ostream ch =>
    toBigEndian (n := 2) ostream (UInt16.ofNat (ch.toNat * 41)).toBitVec) []

/-- One round of the loop of `decode`. -/
def decodeRound (istream : IStream) : Option (UInt8 × IStream) :=
  let value := fromBigEndian 2 istream
  if value.2.fail then none
  else some ((UInt16.ofBitVec value.1 / 41).toUInt8, value.2)

def decode (message : Bytes) : Bytes :=
  CollectLoop.collect (fun s : IStream => s.rest.length) decodeRound ⟨message, false⟩

def block (ch : UInt8) : Bytes := toBigEndian (n := 2) [] (UInt16.ofNat (ch.toNat * 41)).toBitVec

theorem div_mul (ch : UInt8) : (UInt16.ofNat (ch.toNat * 41) / 41).toUInt8 = ch :=
  forall_byte (P := fun ch => (UInt16.ofNat (ch.toNat * 41) / 41).toUInt8 = ch)
    (by decide +kernel) ch

theorem decodeRound_consumes (s : IStream) (ch : UInt8) (s' : IStream)
    (h : decodeRound s = some (ch, s')) : s'.rest.length < s.rest.length := by
  simp only [decodeRound, Option.ite_none_left_eq_some] at h
  obtain ⟨hv, h⟩ := h
  cases h
  exact fromBigEndian_consumes 1 s (by simpa using hv)

theorem decode_cons (bs t : Bytes) (h : bs.length = 2) :
    decode (bs ++ t) =
      (UInt16.ofBitVec (bs.foldl BigEndian.push 0) / 41).toUInt8 :: decode t := by
  refine CollectLoop.collect_some _ _ decodeRound_consumes ?_
  simp [decodeRound, fromBigEndian_append bs t h]

theorem decode_short (w : Bytes) (h : w.length < 2) : decode w = [] := by
  apply CollectLoop.collect_none
  simp [decodeRound, fromBigEndian_short w h]

def code : BlockCode UInt8 UInt8 where
  width := 2
  width_pos := by decide
  block := block
  block_length ch := by simp [block]
  decode := decode
  decode_short := decode_short
  decode_block ch t := by
    have hp := BigEndian.foldl_push_lowBytes (n := 2) (by decide)
      (UInt16.ofNat (ch.toNat * 41)).toBitVec
    rw [block, toBigEndian, List.nil_append, decode_cons _ _ (by simp), hp,
      UInt16.ofBitVec_toBitVec, div_mul]

theorem encode_eq (s : Bytes) : encode s = code.encode s := by
  rw [BlockCode.encode, List.flatMap_eq_foldl]
  simp [encode, code, block, toBigEndian]

end Multiply41

def rot3EncoderExecutor : BaseEncoderExecutor := ⟨"ROT3", Rot3.encode, Rot3.decode⟩
def mirrorEncoderExecutor : BaseEncoderExecutor := ⟨"Mirror", Mirror.encode, Mirror.decode⟩
def multiply41EncoderExecutor : BaseEncoderExecutor :=
  ⟨"Multiply41", Multiply41.encode, Multiply41.decode⟩

/-- The executor the tests register besides the built-in ones. -/
def dummyEncoderExecutor : BaseEncoderExecutor := ⟨"Dummy", id, id⟩

/-- `Dummy` is the block code that copies. -/
def dummyCode : BlockCode UInt8 UInt8 where
  width := 1
  width_pos := by decide
  block ch := [ch]
  block_length _ := rfl
  decode := id
  decode_short w h := List.length_eq_zero_iff.mp (Nat.lt_one_iff.mp h)
  decode_block _ _ := rfl

theorem dummy_encode_eq (s : Bytes) : dummyEncoderExecutor.encode s = dummyCode.encode s :=
  (List.flatMap_singleton' s).symm

/-- What a block executor of width `k` promises about every string. -/
structure IsBlockExecutor (E : BaseEncoderExecutor) (k : Nat) : Prop where
  decode_encode_append : ∀ s t, E.decode (E.encode s ++ t) = s ++ E.decode t
  decode_encode : ∀ s, E.decode (E.encode s) = s
  encode_injective : Function.Injective E.encode
  encode_append : ∀ s t, E.encode (s ++ t) = E.encode s ++ E.encode t
  encode_length : ∀ s, (E.encode s).length = k * s.length
  decode_prefix : ∀ s w, w <+: E.encode s →
    E.decode w = s.take (w.length / k) ∧ (E.decode w).length = w.length / k

theorem IsBlockExecutor.of_code {E : BaseEncoderExecutor} (C : BlockCode UInt8 UInt8)
    (he : E.encode = C.encode) (hd : E.decode = C.decode) : IsBlockExecutor E C.width where
  decode_encode_append s t := by rw [he, hd]; exact C.decode_encode_append s t
  decode_encode s := by rw [he, hd]; exact C.decode_encode s
  encode_injective := by rw [he]; exact C.encode_injective
  encode_append s t := by rw [he]; exact C.encode_append s t
  encode_length s := by rw [he]; exact C.encode_length s
  decode_prefix s w h := by
    rw [he] at h
    rw [hd]
    exact ⟨C.decode_prefix h, C.decode_prefix_length h⟩

theorem rot3_isBlockExecutor : IsBlockExecutor rot3EncoderExecutor 1 :=
  .of_code Rot3.code (funext Rot3.encode_eq) rfl

theorem mirror_isBlockExecutor : IsBlockExecutor mirrorEncoderExecutor 3 :=
  .of_code Mirror.code (funext Mirror.encode_eq) rfl

theorem multiply41_isBlockExecutor : IsBlockExecutor multiply41EncoderExecutor 2 :=
  .of_code Multiply41.code (funext Multiply41.encode_eq) rfl

theorem dummy_isBlockExecutor : IsBlockExecutor dummyEncoderExecutor 1 :=
  .of_code dummyCode (funext dummy_encode_eq) rfl

/-- Block-wise encoding, its inverse and the treatment of an incomplete last
block, for the three built-in executors; ROT3 is also onto. -/
theorem executors_are_block_codes :
    IsBlockExecutor rot3EncoderExecutor 1 ∧
    IsBlockExecutor mirrorEncoderExecutor 3 ∧
    IsBlockExecutor multiply41EncoderExecutor 2 ∧
    ∀ s, rot3EncoderExecutor.encode (rot3EncoderExecutor.decode s) = s :=
  ⟨rot3_isBlockExecutor, mirror_isBlockExecutor, multiply41_isBlockExecutor, Rot3.encode_decode⟩

example : mirrorEncoderExecutor.encode [0, 90, 132] = [0, 0, 0, 2, 0, 9, 3, 0, 231] := by
  decide +kernel

end DeviceMonitoring
