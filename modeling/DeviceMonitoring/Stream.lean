import DeviceMonitoring.Library.BigEndian

/-! Binary string streams and `big_endian.h`. Reading past the end yields the
value -1 and sets the fail flag; a failed stream yields -1 for ever. -/
namespace DeviceMonitoring

abbrev Bytes := List UInt8

/-- Assignment of an `int` to a `char`. -/
def toChar (c : Int) : UInt8 := UInt8.ofInt c

@[simp] theorem toChar_natCast (b : UInt8) : toChar (b.toNat : Int) = b := by
  have hb : ((b.toNat : Int) % 256).toNat = b.toNat := by
    have := b.toNat_lt
    omega
  simp [toChar, UInt8.ofInt, hb]

/-- `std::istringstream`: the unread bytes and the fail flag. -/
structure IStream where
  rest : Bytes
  fail : Bool := false
  deriving DecidableEq, Repr

/-- `istream.get()`, an `int` that is -1 (EOF) when there is no byte to give. -/
def IStream.get (s : IStream) : Int × IStream :=
  if s.fail then (-1, s)
  else match s.rest with
    | [] => (-1, { s with fail := true })
    | b :: rest => (b.toNat, { s with rest })

@[simp] theorem IStream.get_cons (b : UInt8) (rest : Bytes) :
    IStream.get ⟨b :: rest, false⟩ = ((b.toNat : Int), ⟨rest, false⟩) := rfl

@[simp] theorem IStream.get_nil : IStream.get ⟨[], false⟩ = (-1, ⟨[], true⟩) := rfl

@[simp] theorem IStream.get_failed (rest : Bytes) :
    IStream.get ⟨rest, true⟩ = (-1, ⟨rest, true⟩) := rfl

/-- A successful read consumes a byte. -/
theorem IStream.get_consumes (s : IStream) (h : s.get.2.fail = false) :
    s.get.2.rest.length < s.rest.length := by
  rcases s with ⟨rest, fail⟩
  cases fail with
  | true => simp at h
  | false =>
      cases rest with
      | nil => simp at h
      | cons b rest => simp

theorem IStream.get_length (s : IStream) : s.get.2.rest.length ≤ s.rest.length := by
  rcases s with ⟨rest, fail⟩
  cases fail with
  | true => simp
  | false => cases rest <;> simp

/-- `to_big_endian<T>` with `sizeof(T) = n`: `buf` holds the low bytes in the
order they are split off, and is put to the stream from its end. -/
def toBigEndian {n : Nat} (ostream : Bytes) (value : BitVec (8 * n)) : Bytes :=
  ostream ++ (BigEndian.lowBytes n value).reverse

@[simp] theorem toBigEndian_length {n : Nat} (ostream : Bytes) (value : BitVec (8 * n)) :
    (toBigEndian ostream value).length = ostream.length + n := by
  simp only [toBigEndian, List.length_append, List.length_reverse, BigEndian.lowBytes_length]

/-- The loop of `from_big_endian<T>`: `value <<= 8; value |= istream.get()`. -/
def fromBigEndianLoop {w : Nat} : Nat → BitVec w → IStream → BitVec w × IStream
  | 0, value, istream => (value, istream)
  | k+1, value, istream =>
      let c := istream.get
      fromBigEndianLoop k ((value <<< 8) ||| BitVec.ofInt w c.1) c.2

def fromBigEndian (n : Nat) (istream : IStream) : BitVec (8 * n) × IStream :=
  fromBigEndianLoop n 0 istream

theorem fromBigEndianLoop_append {w : Nat} (bs t : Bytes) (v : BitVec w) :
    fromBigEndianLoop bs.length v ⟨bs ++ t, false⟩ = (bs.foldl BigEndian.push v, ⟨t, false⟩) := by
  induction bs generalizing v with
  | nil => rfl
  | cons b bs ih =>
      simp only [List.length_cons, List.cons_append, fromBigEndianLoop, IStream.get_cons, ih,
        List.foldl_cons, BigEndian.push, BitVec.ofInt_natCast]

theorem fromBigEndianLoop_failed {w : Nat} (k : Nat) (v : BitVec w) (rest : Bytes) :
    (fromBigEndianLoop k v ⟨rest, true⟩).2 = ⟨rest, true⟩ := by
  induction k generalizing v with
  | zero => rfl
  | succ k ih => simp only [fromBigEndianLoop, IStream.get_failed, ih]

/-- A string shorter than the number of bytes asked for fails the stream. -/
theorem fromBigEndianLoop_short {w : Nat} (k : Nat) (v : BitVec w) (bs : Bytes)
    (h : bs.length < k) : (fromBigEndianLoop k v ⟨bs, false⟩).2.fail = true := by
  induction bs generalizing k v with
  | nil =>
      cases k with
      | zero => simp at h
      | succ k => simp only [fromBigEndianLoop, IStream.get_nil, fromBigEndianLoop_failed]
  | cons b bs ih =>
      cases k with
      | zero => simp at h
      | succ k =>
          simp only [fromBigEndianLoop, IStream.get_cons]
          exact ih k _ (by simpa using h)

theorem fromBigEndianLoop_length {w : Nat} (k : Nat) (v : BitVec w) (s : IStream) :
    (fromBigEndianLoop k v s).2.rest.length ≤ s.rest.length := by
  induction k generalizing v s with
  | zero => exact le_rfl
  | succ k ih => exact (ih _ _).trans s.get_length

/-- A word is read from a good stream only if its first byte was there. -/
theorem fromBigEndianLoop_first {w : Nat} (k : Nat) (v : BitVec w) (s : IStream)
    (h : (fromBigEndianLoop (k+1) v s).2.fail = false) : s.get.2.fail = false := by
  cases hs : s.get.2.fail with
  | false => rfl
  | true =>
      rw [fromBigEndianLoop] at h
      rcases hg : s.get with ⟨c, rest, fail⟩
      rw [hg] at hs
      rw [hg, show fail = true from hs, fromBigEndianLoop_failed] at h
      exact h

/-- Enough bytes: the value is assembled and the stream stays good behind them. -/
theorem fromBigEndian_append {n : Nat} (bs t : Bytes) (h : bs.length = n) :
    fromBigEndian n ⟨bs ++ t, false⟩ = (bs.foldl BigEndian.push 0, ⟨t, false⟩) := by
  subst h
  exact fromBigEndianLoop_append bs t 0

theorem fromBigEndian_short {n : Nat} (bs : Bytes) (h : bs.length < n) :
    (fromBigEndian n ⟨bs, false⟩).2.fail = true := fromBigEndianLoop_short n 0 bs h

theorem fromBigEndian_failed (n : Nat) (rest : Bytes) :
    (fromBigEndian n ⟨rest, true⟩).2.fail = true := by
  rw [fromBigEndian, fromBigEndianLoop_failed]

theorem fromBigEndian_length (n : Nat) (s : IStream) :
    (fromBigEndian n s).2.rest.length ≤ s.rest.length := fromBigEndianLoop_length n 0 s

theorem fromBigEndian_consumes (n : Nat) (s : IStream)
    (h : (fromBigEndian (n+1) s).2.fail = false) :
    (fromBigEndian (n+1) s).2.rest.length < s.rest.length :=
  (fromBigEndianLoop_length n _ s.get.2).trans_lt (s.get_consumes (fromBigEndianLoop_first n 0 s h))

/-- What `toBigEndian` puts, `fromBigEndian` takes back. -/
theorem fromBigEndian_toBigEndian {n : Nat} (hn : 0 < n) (v : BitVec (8 * n)) (t : Bytes) :
    fromBigEndian n ⟨toBigEndian [] v ++ t, false⟩ = (v, ⟨t, false⟩) := by
  rw [toBigEndian, List.nil_append, fromBigEndian_append _ _ (by simp),
    BigEndian.foldl_push_lowBytes hn]

end DeviceMonitoring
