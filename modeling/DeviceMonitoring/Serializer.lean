import DeviceMonitoring.Message

/-! `MessageSerializer`. The callback is an arbitrary monadic action, so that
an equation between two programs fixes how often it runs, on what, and that it
runs before the result is returned. -/
namespace DeviceMonitoring

/-- `MessageSerializer::serialize`. -/
def serialize : Message → Bytes
  | .error .noSchedule => [] ++ ['e'.toUInt8] ++ ['s'.toUInt8]
  | .error .noTimestamp => [] ++ ['e'.toUInt8] ++ ['t'.toUInt8]
  | .error .obsolete => [] ++ ['e'.toUInt8] ++ ['o'.toUInt8]
  | .command command => toBigEndian (n := 1) ([] ++ ['c'.toUInt8]) command.toBitVec
  | .meterage message =>
      toBigEndian (n := 1)
        (toBigEndian (n := 8) ([] ++ ['m'.toUInt8]) message.timeStamp.toBitVec)
        message.meterage.toBitVec

/-- `MessageSerializer::deserialize`. The two reads of a meterage are made on
one stream, whose fail flag is looked at once, after both. -/
def deserialize {μ : Type → Type} [Monad μ] (string : Bytes)
    (callback : Message → μ Unit) : μ Bool :=
  let first := IStream.get ⟨string, false⟩
  if first.2.fail then pure false
  else
    let ch := toChar first.1
    if ch = 'e'.toUInt8 then
      let second := first.2.get
      if second.2.fail then pure false
      else
        let ch := toChar second.1
        if ch = 's'.toUInt8 then do callback (.error .noSchedule); pure true
        else if ch = 't'.toUInt8 then do callback (.error .noTimestamp); pure true
        else if ch = 'o'.toUInt8 then do callback (.error .obsolete); pure true
        else pure false
    else if ch = 'c'.toUInt8 then
      let command := fromBigEndian 1 first.2
      if command.2.fail then pure false
      else do callback (.command (Int8.ofBitVec command.1)); pure true
    else if ch = 'm'.toUInt8 then
      let timeStamp := fromBigEndian 8 first.2
      let meterage := fromBigEndian 1 timeStamp.2
      if meterage.2.fail then pure false
      else do
        callback (.meterage ⟨UInt64.ofBitVec timeStamp.1, UInt8.ofBitVec meterage.1⟩)
        pure true
    else pure false

theorem deserialize_error (e : ErrorType) (t : Bytes) {μ : Type → Type} [Monad μ]
    (callback : Message → μ Unit) :
    deserialize (serialize (.error e) ++ t) callback = (do callback (.error e); pure true) := by
  cases e <;> rfl

theorem deserialize_command (command : Int8) (t : Bytes) {μ : Type → Type} [Monad μ]
    (callback : Message → μ Unit) :
    deserialize (serialize (.command command) ++ t) callback =
      (do callback (.command command); pure true) := by
  have hs : serialize (.command command) ++ t =
      'c'.toUInt8 :: (toBigEndian (n := 1) [] command.toBitVec ++ t) := rfl
  have hr := fromBigEndian_toBigEndian (n := 1) (by decide) command.toBitVec t
  rw [hs]
  simp [deserialize, hr, show ¬ 'c'.toUInt8 = 'e'.toUInt8 by decide]

theorem deserialize_meterage (message : MessageMeterage) (t : Bytes) {μ : Type → Type} [Monad μ]
    (callback : Message → μ Unit) :
    deserialize (serialize (.meterage message) ++ t) callback =
      (do callback (.meterage message); pure true) := by
  have hs : serialize (.meterage message) ++ t =
      'm'.toUInt8 :: (toBigEndian (n := 8) [] message.timeStamp.toBitVec ++
        (toBigEndian (n := 1) [] message.meterage.toBitVec ++ t)) := by
    simp [serialize, toBigEndian]
  have ht := fromBigEndian_toBigEndian (n := 8) (by decide) message.timeStamp.toBitVec
    (toBigEndian (n := 1) [] message.meterage.toBitVec ++ t)
  have hm := fromBigEndian_toBigEndian (n := 1) (by decide) message.meterage.toBitVec t
  rw [hs]
  simp [deserialize, ht, hm, show ¬ 'm'.toUInt8 = 'e'.toUInt8 by decide,
    show ¬ 'm'.toUInt8 = 'c'.toUInt8 by decide]

/-- A message is delivered whatever follows it in the string. -/
theorem deserialize_serialize_append (m : Message) (t : Bytes) {μ : Type → Type} [Monad μ]
    (callback : Message → μ Unit) :
    deserialize (serialize m ++ t) callback = (do callback m; pure true) := by
  cases m with
  | error e => exact deserialize_error e t callback
  | command command => exact deserialize_command command t callback
  | meterage message => exact deserialize_meterage message t callback

/-- Any ten bytes behind a meterage tag are read as a meterage. -/
theorem serialize_meterage_of_bytes (bs : Bytes) (v : UInt8) (h : bs.length = 8) :
    serialize (.meterage ⟨UInt64.ofBitVec (bs.foldl BigEndian.push 0), v⟩) =
      'm'.toUInt8 :: (bs ++ [v]) := by
  have hbs : (BigEndian.lowBytes 8 (bs.foldl BigEndian.push (0 : BitVec (8 * 8)))).reverse = bs :=
    BigEndian.lowBytes_foldl_push (by decide) bs h
  have hv : (BigEndian.lowBytes 1 v.toBitVec).reverse = [v] := by
    simp [BigEndian.lowBytes]
  simp only [serialize, toBigEndian, hv]
  rw [hbs]
  rfl

theorem serialize_command_of_byte (b : UInt8) :
    serialize (.command (Int8.ofBitVec b.toBitVec)) = ['c'.toUInt8, b] := by
  simp [serialize, toBigEndian, BigEndian.lowBytes]

/-- The tag decides: behind any other first byte nothing is read. -/
theorem deserialize_bad_tag (ch : UInt8) (rest : Bytes) (he : ch ≠ 'e'.toUInt8)
    (hc : ch ≠ 'c'.toUInt8) (hm : ch ≠ 'm'.toUInt8) {μ : Type → Type} [Monad μ]
    (callback : Message → μ Unit) : deserialize (ch :: rest) callback = pure false := by
  simp [deserialize, he, hc, hm]

theorem deserialize_nil {μ : Type → Type} [Monad μ] (callback : Message → μ Unit) :
    deserialize [] callback = pure false := rfl

theorem deserialize_short_meterage (rest : Bytes) (h : rest.length < 9) {μ : Type → Type}
    [Monad μ] (callback : Message → μ Unit) :
    deserialize ('m'.toUInt8 :: rest) callback = pure false := by
  have hf : (fromBigEndian 1 (fromBigEndian 8 ⟨rest, false⟩).2).2.fail = true := by
    by_cases hl : rest.length < 8
    · have h8 := fromBigEndian_short rest hl
      rcases hs : (fromBigEndian 8 ⟨rest, false⟩).2 with ⟨left, fail⟩
      rw [hs] at h8
      rw [show fail = true from h8]
      exact fromBigEndian_failed 1 left
    · have h8 := fromBigEndian_append (n := 8) rest [] (by omega)
      rw [List.append_nil] at h8
      rw [h8]
      exact fromBigEndian_short [] (by decide)
  simp [deserialize, hf, show ¬ 'm'.toUInt8 = 'e'.toUInt8 by decide,
    show ¬ 'm'.toUInt8 = 'c'.toUInt8 by decide]

/-- A string that begins with no serialized message is rejected without a callback. -/
theorem deserialize_reject (s : Bytes) (h : ∀ m, ¬ serialize m <+: s) {μ : Type → Type}
    [Monad μ] (callback : Message → μ Unit) : deserialize s callback = pure false := by
  cases s with
  | nil => exact deserialize_nil callback
  | cons ch rest =>
      by_cases he : ch = 'e'.toUInt8
      · subst he
        cases rest with
        | nil => rfl
        | cons e rest =>
            have hs : e ≠ 's'.toUInt8 := by
              rintro rfl; exact h (.error .noSchedule) ⟨rest, rfl⟩
            have ht : e ≠ 't'.toUInt8 := by
              rintro rfl; exact h (.error .noTimestamp) ⟨rest, rfl⟩
            have ho : e ≠ 'o'.toUInt8 := by
              rintro rfl; exact h (.error .obsolete) ⟨rest, rfl⟩
            simp [deserialize, hs, ht, ho]
      · by_cases hc : ch = 'c'.toUInt8
        · subst hc
          cases rest with
          | nil => rfl
          | cons b rest =>
              exact absurd ⟨rest, by rw [serialize_command_of_byte]; rfl⟩
                (h (.command (Int8.ofBitVec b.toBitVec)))
        · by_cases hm : ch = 'm'.toUInt8
          · subst hm
            by_cases hl : rest.length < 9
            · exact deserialize_short_meterage rest hl callback
            · have hr : rest = rest.take 8 ++ ([rest[8]] ++ rest.drop 9) := by
                rw [List.singleton_append, List.getElem_cons_drop, List.take_append_drop]
              refine absurd ⟨rest.drop 9, ?_⟩ (h (.meterage
                ⟨UInt64.ofBitVec ((rest.take 8).foldl BigEndian.push 0), rest[8]⟩))
              rw [serialize_meterage_of_bytes _ _ (by simp; omega), List.cons_append,
                List.append_assoc, ← hr]
          · exact deserialize_bad_tag ch rest he hc hm callback

/-- The result of `deserialize` together with the messages its callback got, in order. -/
def received (s : Bytes) : Bool × List Message :=
  (deserialize (μ := StateM (List Message)) s (fun m => modify (· ++ [m]))).run []

theorem received_append (m : Message) (t : Bytes) :
    received (serialize m ++ t) = (true, [m]) := by
  rw [received, deserialize_serialize_append]
  rfl

theorem received_reject (s : Bytes) (h : ∀ m, ¬ serialize m <+: s) :
    received s = (false, []) := by
  rw [received, deserialize_reject s h]
  rfl

/-- No serialized message continues another one. -/
theorem serialize_prefix_unique {s : Bytes} {m m' : Message} (h : serialize m <+: s)
    (h' : serialize m' <+: s) : m' = m := by
  obtain ⟨t, rfl⟩ := h
  obtain ⟨t', ht⟩ := h'
  have hr := received_append m' t'
  rw [ht, received_append] at hr
  simpa using hr.symm

theorem serialize_no_proper_prefix {s : Bytes} {m m' : Message} (h : s <+: serialize m)
    (hne : s ≠ serialize m) : ¬ serialize m' <+: s := by
  intro h'
  have hm := serialize_prefix_unique (List.prefix_refl (serialize m)) (h'.trans h)
  subst hm
  exact hne (h.eq_of_length (Nat.le_antisymm h.length_le h'.length_le))

/-- The strings that `deserialize` accepts are exactly those that begin with a
serialized message, and it hands over that one message exactly once. -/
theorem deserialize_accepts_exactly (s : Bytes) :
    ((received s).1 = true ↔ ∃ m, serialize m <+: s) ∧
    (∀ m, serialize m <+: s → (∀ m', serialize m' <+: s → m' = m) ∧
      received s = (true, [m]) ∧
      ∀ {μ : Type → Type} [Monad μ] (callback : Message → μ Unit),
        deserialize s callback = (do callback m; pure true)) ∧
    ((¬ ∃ m, serialize m <+: s) → received s = (false, []) ∧
      ∀ {μ : Type → Type} [Monad μ] (callback : Message → μ Unit),
        deserialize s callback = pure false) ∧
    (∀ m t, s = serialize m ++ t → received s = (true, [m])) ∧
    (∀ m, s <+: serialize m → s ≠ serialize m → received s = (false, [])) := by
  refine ⟨⟨?_, ?_⟩, ?_, ?_, ?_, ?_⟩
  · intro accepted
    by_contra none
    rw [received_reject s (not_exists.mp none)] at accepted
    cases accepted
  · rintro ⟨m, t, rfl⟩
    rw [received_append]
  · intro m hm
    refine ⟨fun m' h' => serialize_prefix_unique hm h', ?_, ?_⟩
    · obtain ⟨t, rfl⟩ := hm
      exact received_append m t
    · obtain ⟨t, rfl⟩ := hm
      intro μ _ callback
      exact deserialize_serialize_append m t callback
  · intro none
    exact ⟨received_reject s (not_exists.mp none),
      fun callback => deserialize_reject s (not_exists.mp none) callback⟩
  · rintro m t rfl
    exact received_append m t
  · intro m hp hne
    exact received_reject s (fun m' => serialize_no_proper_prefix hp hne)

end DeviceMonitoring
