import DeviceMonitoring.Channel

/-! Channels that are only ever joined in pairs: the two flags of a pair agree, and a
channel that is off has its disconnect task in the queue. -/
namespace DeviceMonitoring
namespace Net
variable {μ δ τ : Type}

/-- `closing` is the channel whose disconnect task is being run. -/
structure Wired (closing : Option Ref) (net : Net μ δ τ) : Prop where
  paired : ∀ a c, net.channels.get a = some c → ∃ b, c.peerChannel = some b ∧ a ≠ b ∧
    b < net.channels.next ∧ (c.connected = true → ∃ d, net.channels.get b = some d) ∧
    ∀ d, net.channels.get b = some d → d.peerChannel = some a ∧ d.connected = c.connected
  queued : ∀ a c, net.channels.get a = some c →
    (c.connected = false ↔ .disconnect a ∈ net.tasks ∨ closing = some a)
  known : ∀ a, .disconnect a ∈ net.tasks ∨ closing = some a → a < net.channels.next

namespace Wired
variable {closing : Option Ref} {net : Net μ δ τ} {a b : Ref}

theorem empty : Wired none ({} : Net μ δ τ) := by
  constructor
  · intro a c hc
    cases hc
  · intro a c hc
    cases hc
  · intro a ha
    simp at ha

theorem joined (h : Wired closing net) {c : ConnectionChannel μ δ} (hc : net.channels.get a = some c)
    (hon : c.connected = true) : ∃ b, c.peerChannel = some b ∧ net.Joined a b := by
  obtain ⟨b, hp, hne, -, hlive, hpeer⟩ := h.paired a c hc
  obtain ⟨d, hd⟩ := hlive hon
  obtain ⟨hdp, hdon⟩ := hpeer d hd
  exact ⟨b, hp, hne, ⟨c, hc, hp, hon⟩, ⟨d, hd, hdp, hdon.trans hon⟩⟩

/-- Whatever keeps peers, flags and the queued disconnects keeps the wiring. -/
theorem congr (h : Wired closing net) {net' : Net μ δ τ}
    (hchannels : ∀ a, (net'.channels.get a).map (fun c => (c.peerChannel, c.connected)) =
      (net.channels.get a).map fun c => (c.peerChannel, c.connected))
    (hnext : net'.channels.next = net.channels.next)
    (htasks : ∀ a, .disconnect a ∈ net'.tasks ↔ .disconnect a ∈ net.tasks) :
    Wired closing net' := by
  have hold : ∀ a c', net'.channels.get a = some c' → ∃ c, net.channels.get a = some c ∧
      c.peerChannel = c'.peerChannel ∧ c.connected = c'.connected := by
    intro a c' hc'
    have heq := hchannels a
    rw [hc', Option.map_some, eq_comm, Option.map_eq_some_iff] at heq
    obtain ⟨c, hc, heq⟩ := heq
    rw [Prod.mk.injEq] at heq
    exact ⟨c, hc, heq⟩
  constructor
  · intro a c' hc'
    obtain ⟨c, hc, hp, hon⟩ := hold a c' hc'
    obtain ⟨b, hb, hne, hlt, hlive, hpeer⟩ := h.paired a c hc
    refine ⟨b, hp ▸ hb, hne, hnext ▸ hlt, ?_, ?_⟩
    · intro hon'
      obtain ⟨d, hd⟩ := hlive (hon.trans hon')
      have heq := hchannels b
      rw [hd, Option.map_some, Option.map_eq_some_iff] at heq
      obtain ⟨d', hd', -⟩ := heq
      exact ⟨d', hd'⟩
    · intro d' hd'
      obtain ⟨d, hd, hdp, hdon⟩ := hold b d' hd'
      obtain ⟨hdp', hdon'⟩ := hpeer d hd
      exact ⟨hdp ▸ hdp', by rw [← hdon, hdon', hon]⟩
  · intro a c' hc'
    obtain ⟨c, hc, -, hon⟩ := hold a c' hc'
    rw [← hon, h.queued a c hc, htasks]
  · intro a ha
    rw [htasks] at ha
    exact hnext ▸ h.known a ha

theorem switchedOff (h : Wired closing net) (hj : net.Joined a b) {tasks : List (Task τ)}
    (htasks : ∀ x, .disconnect x ∈ tasks ↔ .disconnect x ∈ net.tasks ∨ x = a ∨ x = b) :
    Wired closing { channels := (net.channels.modify a switchOff).modify b switchOff, tasks } := by
  obtain ⟨ca, hca, hcap, -⟩ := hj.left
  obtain ⟨cb, hcb, hcbp, -⟩ := hj.right
  have hne := hj.ne
  -- an end of another pair reads as before
  have hget : ∀ x c', ((net.channels.modify a switchOff).modify b switchOff).get x = some c' →
      ∃ c, net.channels.get x = some c ∧ c'.peerChannel = c.peerChannel ∧
        c'.connected = if x = a ∨ x = b then false else c.connected := by
    intro x c' hc'
    obtain ⟨d, hd, rfl⟩ := Heap.get_modify_eq_some.mp hc'
    obtain ⟨c, hc, rfl⟩ := Heap.get_modify_eq_some.mp hd
    refine ⟨c, hc, ?_, ?_⟩
    · split <;> split <;> rfl
    · by_cases hxa : x = a <;> by_cases hxb : x = b <;> simp [hxa, hxb, switchOff]
  have hset : ∀ x c, net.channels.get x = some c →
      ∃ c', ((net.channels.modify a switchOff).modify b switchOff).get x = some c' := by
    intro x c hc
    exact ⟨_, Heap.get_modify_eq_some.mpr ⟨_, Heap.get_modify_eq_some.mpr ⟨c, hc, rfl⟩, rfl⟩⟩
  constructor
  · intro x c' hc'
    obtain ⟨c, hc, hp, hon⟩ := hget x c' hc'
    obtain ⟨y, hy, hxy, hlt, hlive, hpeer⟩ := h.paired x c hc
    have hside : (x = a ∨ x = b) ↔ (y = a ∨ y = b) := by
      constructor
      · rintro (rfl | rfl)
        · rw [hca] at hc
          cases hc
          exact .inr (Option.some.inj (hy.symm.trans hcap))
        · rw [hcb] at hc
          cases hc
          exact .inl (Option.some.inj (hy.symm.trans hcbp))
      · rintro (rfl | rfl)
        · exact .inr (Option.some.inj ((hpeer ca hca).1.symm.trans hcap))
        · exact .inl (Option.some.inj ((hpeer cb hcb).1.symm.trans hcbp))
    refine ⟨y, hp.trans hy, hxy, hlt, ?_, ?_⟩
    · intro hon'
      have honc : c.connected = true := by
        rw [hon] at hon'
        split at hon'
        · cases hon'
        · exact hon'
      obtain ⟨d, hd⟩ := hlive honc
      exact hset y d hd
    · intro d' hd'
      obtain ⟨d, hd, hdp, hdon⟩ := hget y d' hd'
      obtain ⟨hdx, hdc⟩ := hpeer d hd
      refine ⟨hdp.trans hdx, ?_⟩
      rw [hon, hdon, hdc]
      simp only [hside]
  · intro x c' hc'
    obtain ⟨c, hc, -, hon⟩ := hget x c' hc'
    rw [hon, htasks, or_right_comm, ← h.queued x c hc]
    by_cases hx : x = a ∨ x = b <;> simp [hx]
  · intro x hx
    rw [htasks] at hx
    rcases hx with (hx | rfl | rfl) | hx
    · exact h.known x (.inl hx)
    · exact (Heap.lt_next hca : x < net.channels.next)
    · exact (Heap.lt_next hcb : x < net.channels.next)
    · exact h.known x (.inr hx)

/-- A channel that is off is freed. -/
theorem free (h : Wired closing net) (hoff : ∀ c, net.channels.get a = some c → c.connected = false)
    {closing' : Option Ref} (hclosing : ∀ x, closing' = some x ↔ closing = some x ∧ x ≠ a) :
    Wired closing' { net with channels := net.channels.free a } := by
  constructor
  · intro x c hc
    obtain ⟨hxa, hc⟩ := Heap.get_free_eq_some.mp hc
    obtain ⟨y, hy, hxy, hlt, hlive, hpeer⟩ := h.paired x c hc
    refine ⟨y, hy, hxy, hlt, ?_, ?_⟩
    · intro hon
      obtain ⟨d, hd⟩ := hlive hon
      refine ⟨d, Heap.get_free_eq_some.mpr ⟨?_, hd⟩⟩
      rintro rfl
      have heq := (hpeer d hd).2
      rw [hoff d hd, hon] at heq
      cases heq
    · intro d hd
      exact hpeer d (Heap.get_free_eq_some.mp hd).2
  · intro x c hc
    obtain ⟨hxa, hc⟩ := Heap.get_free_eq_some.mp hc
    rw [h.queued x c hc, hclosing x, and_iff_left hxa]
  · intro x hx
    rw [hclosing] at hx
    exact h.known x (hx.imp_right And.left)

theorem disconnect (h : Wired closing net) (a : Ref) : Wired closing (net.disconnect a) := by
  cases hon : net.connected a with
  | false => rwa [disconnect_off hon]
  | true =>
      obtain ⟨c, hc, hcon⟩ := (Option.any_eq_true _ _).mp hon
      obtain ⟨b, -, hj⟩ := h.joined hc hcon
      rw [disconnect_joined hj]
      exact h.switchedOff hj fun x => by simp

/-- A channel that is off goes silently: its peer is off too. -/
theorem destroy_off (h : Wired closing net) (hon : net.connected a = false) :
    net.destroy a = { net with channels := net.channels.free a } := by
  apply Net.destroy_off
  intro p hp
  obtain ⟨c, hc, hcp, -⟩ := peer_eq_some.mp (Option.mem_def.mp hp)
  obtain ⟨b, hb, -, -, -, hpeer⟩ := h.paired a c hc
  rw [hcp] at hb
  cases hb
  have hoff : c.connected = false := by simpa [Net.connected, hc] using hon
  cases hgp : net.channels.get p with
  | none => simp [Net.connected, hgp]
  | some d => simp [Net.connected, hgp, (hpeer d hgp).2, hoff]

theorem destroy (h : Wired closing net) (a : Ref) {closing' : Option Ref}
    (hclosing : ∀ x, closing' = some x ↔ closing = some x ∧ x ≠ a) :
    Wired closing' (net.destroy a) := by
  cases hon : net.connected a with
  | true =>
      obtain ⟨c, hc, hcon⟩ := (Option.any_eq_true _ _).mp hon
      obtain ⟨b, -, hj⟩ := h.joined hc hcon
      rw [destroy_joined hj]
      have htasks : ∀ x, .disconnect x ∈ net.tasks ++ [.disconnect b, .disconnect a] ↔
          .disconnect x ∈ net.tasks ∨ x = b ∨ x = a := fun x => by simp
      have hoff := h.switchedOff hj.symm htasks
      refine hoff.free ?_ hclosing
      intro d hd
      obtain ⟨d', -, rfl⟩ := Heap.get_modify_eq_some.mp hd
      simp [switchOff]
  | false =>
      rw [h.destroy_off hon]
      refine h.free ?_ hclosing
      intro c hc
      simpa [Net.connected, hc] using hon

theorem opened (h : Wired closing net) (c d : ConnectionChannel μ δ)
    (hc : c.peerChannel = some (net.channels.next + 1) ∧ c.connected = true)
    (hd : d.peerChannel = some net.channels.next ∧ d.connected = true) :
    Wired closing { net with channels := (net.channels.alloc c).alloc d } := by
  have hget : ∀ x e, ((net.channels.alloc c).alloc d).get x = some e ↔
      x = net.channels.next + 1 ∧ e = d ∨ x = net.channels.next ∧ e = c ∨
        net.channels.get x = some e := by
    intro x e
    rw [Heap.get_alloc_eq_some, Heap.get_alloc_eq_some]
    rfl
  have hnew : ∀ a, .disconnect a ∈ net.tasks ∨ closing = some a →
      a ≠ net.channels.next ∧ a ≠ net.channels.next + 1 := by
    intro a ha
    have hlt := h.known a ha
    exact ⟨Nat.ne_of_lt hlt, Nat.ne_of_lt (Nat.lt_succ_of_lt hlt)⟩
  have hne : net.channels.next + 1 ≠ net.channels.next := Nat.succ_ne_self _
  constructor
  · intro x e he
    rcases (hget x e).mp he with ⟨rfl, rfl⟩ | ⟨rfl, rfl⟩ | he
    · refine ⟨net.channels.next, hd.1, hne, Nat.lt_succ_of_lt (Nat.lt_succ_self _),
        fun _ => ⟨c, (hget _ _).mpr (.inr (.inl ⟨rfl, rfl⟩))⟩, ?_⟩
      intro f hf
      rcases (hget _ f).mp hf with ⟨hx, -⟩ | ⟨-, rfl⟩ | hf
      · exact absurd hx hne.symm
      · exact ⟨hc.1, hc.2.trans hd.2.symm⟩
      · exact absurd (Heap.lt_next hf) (Nat.lt_irrefl _)
    · refine ⟨net.channels.next + 1, hc.1, hne.symm, Nat.lt_succ_self _,
        fun _ => ⟨d, (hget _ _).mpr (.inl ⟨rfl, rfl⟩)⟩, ?_⟩
      intro f hf
      rcases (hget _ f).mp hf with ⟨-, rfl⟩ | ⟨hx, -⟩ | hf
      · exact ⟨hd.1, hd.2.trans hc.2.symm⟩
      · exact absurd hx hne
      · exact absurd (Heap.lt_next hf) (Nat.not_lt.mpr (Nat.le_succ _))
    · obtain ⟨y, hy, hxy, hlt, hlive, hpeer⟩ := h.paired x e he
      refine ⟨y, hy, hxy, Nat.lt_succ_of_lt (Nat.lt_succ_of_lt hlt), ?_, ?_⟩
      · intro hon
        obtain ⟨f, hf⟩ := hlive hon
        exact ⟨f, (hget _ _).mpr (.inr (.inr hf))⟩
      · intro f hf
        rcases (hget _ f).mp hf with ⟨hx, -⟩ | ⟨hx, -⟩ | hf
        · exact absurd hx (Nat.ne_of_lt (Nat.lt_succ_of_lt hlt))
        · exact absurd hx (Nat.ne_of_lt hlt)
        · exact hpeer f hf
  · intro x e he
    rcases (hget x e).mp he with ⟨rfl, rfl⟩ | ⟨rfl, rfl⟩ | he
    · rw [hd.2]
      simp only [Bool.true_eq_false, false_iff]
      exact fun ha => (hnew _ ha).2 rfl
    · rw [hc.2]
      simp only [Bool.true_eq_false, false_iff]
      exact fun ha => (hnew _ ha).1 rfl
    · exact h.queued x e he
  · intro a ha
    exact Nat.lt_succ_of_lt (Nat.lt_succ_of_lt (h.known a ha))

/-- A task leaves the queue; if it is the disconnect of a live channel, that one is closing. -/
theorem popped (h : Wired none net) {task : Task τ} {tasks : List (Task τ)}
    (htasks : net.tasks = task :: tasks) {closing : Option Ref}
    (hclosing : ∀ x, (∃ c, net.channels.get x = some c) → (task = .disconnect x ↔ closing = some x))
    (hlive : ∀ x ∈ closing, ∃ c, net.channels.get x = some c) :
    Wired closing { net with tasks } := by
  constructor
  · exact h.paired
  · intro x c hc
    rw [h.queued x c hc, htasks, List.mem_cons, ← hclosing x ⟨c, hc⟩]
    simp only [reduceCtorEq, or_false]
    rw [or_comm, eq_comm]
  · intro x hx
    rcases hx with hx | hx
    · exact h.known x (.inl (htasks ▸ List.mem_cons_of_mem _ hx))
    · obtain ⟨c, hc⟩ := hlive x hx
      exact Heap.lt_next hc

end Wired
namespace Joined
variable {net : Net μ δ τ} {a b : Ref}

/-- What keeps the peers and the flags of a pair keeps it joined. -/
theorem congr (h : net.Joined a b) {net' : Net μ δ τ}
    (hchannels : ∀ x, x = a ∨ x = b →
      (net'.channels.get x).map (fun c => (c.peerChannel, c.connected)) =
        (net.channels.get x).map fun c => (c.peerChannel, c.connected)) : net'.Joined a b := by
  have hend : ∀ x y, x = a ∨ x = b →
      (∃ c, net.channels.get x = some c ∧ c.peerChannel = some y ∧ c.connected = true) →
        ∃ c, net'.channels.get x = some c ∧ c.peerChannel = some y ∧ c.connected = true := by
    rintro x y hx ⟨c, hc, hy, hon⟩
    have heq := hchannels x hx
    rw [hc, Option.map_some, hy, hon, Option.map_eq_some_iff] at heq
    obtain ⟨c', hc', heq⟩ := heq
    rw [Prod.mk.injEq] at heq
    exact ⟨c', hc', heq⟩
  exact ⟨h.ne, hend a b (.inl rfl) h.left, hend b a (.inr rfl) h.right⟩

/-- Two pairs with a common end are one pair. -/
theorem of_peer {x y : Ref} (h : net.Joined a b) (h' : net.Joined x y) (hx : x ≠ a ∧ x ≠ b) :
    y ≠ a ∧ y ≠ b := by
  constructor
  · rintro rfl
    have hpeer := h.peer
    rw [h'.symm.peer] at hpeer
    exact hx.2 (Option.some.inj hpeer)
  · rintro rfl
    have hpeer := h.symm.peer
    rw [h'.symm.peer] at hpeer
    exact hx.1 (Option.some.inj hpeer)

/-- Another channel is disconnected. -/
theorem disconnect (h : net.Joined a b) {closing : Option Ref} (hw : Wired closing net) {x : Ref}
    (hx : x ≠ a ∧ x ≠ b) : (net.disconnect x).Joined a b := by
  cases hon : net.connected x with
  | false => rwa [disconnect_off hon]
  | true =>
      obtain ⟨c, hc, hcon⟩ := (Option.any_eq_true _ _).mp hon
      obtain ⟨y, -, hj⟩ := hw.joined hc hcon
      have hy := h.of_peer hj hx
      rw [disconnect_joined hj]
      apply h.congr
      rintro z (rfl | rfl)
      · simp only [Heap.get_modify_of_ne _ _ hx.1.symm, Heap.get_modify_of_ne _ _ hy.1.symm]
      · simp only [Heap.get_modify_of_ne _ _ hx.2.symm, Heap.get_modify_of_ne _ _ hy.2.symm]

/-- Another channel is destroyed. -/
theorem destroy (h : net.Joined a b) {closing : Option Ref} (hw : Wired closing net) {x : Ref}
    (hx : x ≠ a ∧ x ≠ b) : (net.destroy x).Joined a b := by
  cases hon : net.connected x with
  | false =>
      rw [hw.destroy_off hon]
      apply h.congr
      rintro z (rfl | rfl)
      · simp only [Heap.get_free_of_ne _ hx.1.symm]
      · simp only [Heap.get_free_of_ne _ hx.2.symm]
  | true =>
      obtain ⟨c, hc, hcon⟩ := (Option.any_eq_true _ _).mp hon
      obtain ⟨y, -, hj⟩ := hw.joined hc hcon
      have hy := h.of_peer hj hx
      rw [destroy_joined hj]
      apply h.congr
      rintro z (rfl | rfl)
      · simp only [Heap.get_free_of_ne _ hx.1.symm, Heap.get_modify_of_ne _ _ hx.1.symm,
          Heap.get_modify_of_ne _ _ hy.1.symm]
      · simp only [Heap.get_free_of_ne _ hx.2.symm, Heap.get_modify_of_ne _ _ hx.2.symm,
          Heap.get_modify_of_ne _ _ hy.2.symm]

end Joined

/-- `disconnect` queues nothing but disconnect tasks. -/
theorem other_mem_disconnectIn (fuel : Nat) (net : Net μ δ τ) (ch : Ref) (task : τ) :
    .other task ∈ (disconnectIn fuel net ch).tasks ↔ .other task ∈ net.tasks := by
  induction fuel generalizing net ch with
  | zero => rfl
  | succ fuel ih =>
      simp only [disconnectIn]
      split
      · split
        · simp
        · rw [ih]
          simp
      · rfl

theorem other_mem_disconnect (net : Net μ δ τ) (ch : Ref) (task : τ) :
    .other task ∈ (net.disconnect ch).tasks ↔ .other task ∈ net.tasks :=
  other_mem_disconnectIn _ net ch task

theorem other_mem_destroy (net : Net μ δ τ) (ch : Ref) (task : τ) :
    .other task ∈ (net.destroy ch).tasks ↔ .other task ∈ net.tasks := by
  unfold destroy disconnectPeer
  split
  · rfl
  · exact other_mem_disconnect net _ task

end Net
end DeviceMonitoring
