import DeviceMonitoring.Library.Heap
import DeviceMonitoring.Stream

/-! `ConnectionChannel` and `TaskQueue`. A weak pointer is a reference into the heap of
channels: it reads nothing once its channel is destroyed. Handlers are tokens of
types `μ` and `δ`; tasks of other kinds are of type `τ`. -/
namespace DeviceMonitoring

structure ConnectionChannel (μ δ : Type) where
  peerId : UInt64
  messageHandler : Option μ := none
  disconnectedHandler : Option δ := none
  peerChannel : Option Ref := none
  connected : Bool := false

inductive Task (τ : Type) where
  | sendMessage (message : Bytes) (channel : Ref)
  | disconnect (channel : Ref)
  | other (task : τ)
  deriving DecidableEq

/-- The call that a task comes down to. -/
inductive Delivery (μ δ τ : Type) where
  | nothing
  | message (handler : μ) (message : Bytes)
  | disconnected (handler : δ)
  | other (task : τ)

/-- All channels that share one task queue, and the queue. -/
structure Net (μ δ τ : Type) where
  channels : Heap (ConnectionChannel μ δ) := {}
  tasks : List (Task τ) := []

namespace Net
variable {μ δ τ : Type}

def scheduleTask (net : Net μ δ τ) (task : Task τ) : Net μ δ τ :=
  { net with tasks := net.tasks ++ [task] }

@[simp] theorem channels_scheduleTask (net : Net μ δ τ) (task : Task τ) :
    (net.scheduleTask task).channels = net.channels := rfl

@[simp] theorem tasks_scheduleTask (net : Net μ δ τ) (task : Task τ) :
    (net.scheduleTask task).tasks = net.tasks ++ [task] := rfl

def connected (net : Net μ δ τ) (ch : Ref) : Bool := (net.channels.get ch).any (·.connected)

/-- `m_peerChannel.data()` -/
def peer (net : Net μ δ τ) (ch : Ref) : Option Ref :=
  (net.channels.get ch).bind fun c => c.peerChannel.filter fun p => (net.channels.get p).isSome

def sendMessage (net : Net μ δ τ) (ch : Ref) (message : Bytes) : Net μ δ τ :=
  if net.connected ch then
    match net.peer ch with
    | none => net
    | some p => if net.connected p then net.scheduleTask (.sendMessage message p) else net
  else net

/-- What `connect` asserts. -/
def connectAllowed (net : Net μ δ τ) (ch peer : Ref) : Bool :=
  (net.peer ch).isNone && decide (ch ≠ peer)

def connect (net : Net μ δ τ) (ch peer : Ref) : Net μ δ τ :=
  { net with
    channels := net.channels.modify ch fun c => { c with peerChannel := some peer, connected := true } }

def switchOff (c : ConnectionChannel μ δ) : ConnectionChannel μ δ := { c with connected := false }

/-- The recursion of `disconnect` and `disconnectPeer`, one unit of fuel a channel. -/
def disconnectIn : Nat → Net μ δ τ → Ref → Net μ δ τ
  | 0, net, _ => net
  | fuel+1, net, ch =>
      if net.connected ch then
        let net := { net with channels := net.channels.modify ch switchOff }
        let net := net.scheduleTask (.disconnect ch)
        match net.peer ch with
        | none => net
        | some p => disconnectIn fuel net p
      else net

def disconnect (net : Net μ δ τ) (ch : Ref) : Net μ δ τ :=
  disconnectIn (net.channels.next + 1) net ch

def disconnectPeer (net : Net μ δ τ) (ch : Ref) : Net μ δ τ :=
  match net.peer ch with
  | none => net
  | some p => net.disconnect p

/-- `~ConnectionChannel`, then `~Object` -/
def destroy (net : Net μ δ τ) (ch : Ref) : Net μ δ τ :=
  let net := net.disconnectPeer ch
  { net with channels := net.channels.free ch }

def setMessageHandler (net : Net μ δ τ) (ch : Ref) (handler : Option μ) : Net μ δ τ :=
  { net with channels := net.channels.modify ch fun c => { c with messageHandler := handler } }

def setDisconnectedHandler (net : Net μ δ τ) (ch : Ref) (handler : Option δ) : Net μ δ τ :=
  { net with channels := net.channels.modify ch fun c => { c with disconnectedHandler := handler } }

/-- `operator()` of the tasks: nothing is called for a channel that is gone, or
has no handler. -/
def deliver (net : Net μ δ τ) : Task τ → Delivery μ δ τ
  | .sendMessage message ch =>
      match (net.channels.get ch).bind (·.messageHandler) with
      | none => .nothing
      | some handler => .message handler message
  | .disconnect ch =>
      match (net.channels.get ch).bind (·.disconnectedHandler) with
      | none => .nothing
      | some handler => .disconnected handler
  | .other task => .other task

/-- `TaskQueue::processTask` up to the call that the task makes. -/
def processTask (net : Net μ δ τ) : Option (Delivery μ δ τ × Net μ δ τ) :=
  match net.tasks with
  | [] => none
  | task :: tasks => some (net.deliver task, { net with tasks })

/-- More fuel than connected channels makes no difference. -/
theorem disconnectIn_fuel (fuel fuel' : Nat) (net : Net μ δ τ) (ch : Ref)
    (h : net.channels.count (·.connected) < fuel) (h' : net.channels.count (·.connected) < fuel') :
    disconnectIn fuel net ch = disconnectIn fuel' net ch := by
  induction fuel generalizing fuel' net ch with
  | zero => omega
  | succ fuel ih =>
      cases fuel' with
      | zero => omega
      | succ fuel' =>
          simp only [disconnectIn]
          split
          next hc =>
            obtain ⟨c, hget, hon⟩ := (Option.any_eq_true _ _).mp hc
            have hlt : (net.channels.modify ch switchOff).count (·.connected) <
                net.channels.count (·.connected) := Heap.count_modify_lt hget hon rfl
            split
            · rfl
            · exact ih fuel' _ _ (Nat.lt_of_lt_of_le hlt (Nat.le_of_lt_succ h))
                (Nat.lt_of_lt_of_le hlt (Nat.le_of_lt_succ h'))
          next => rfl

/-- The body of `disconnect`. -/
theorem disconnect_eq (net : Net μ δ τ) (ch : Ref) :
    net.disconnect ch =
      if net.connected ch then
        (({ net with channels := net.channels.modify ch switchOff } : Net μ δ τ).scheduleTask
          (.disconnect ch)).disconnectPeer ch
      else net := by
  rw [disconnect, disconnectIn]
  split
  next hc =>
    obtain ⟨c, hget, hon⟩ := (Option.any_eq_true _ _).mp hc
    have hlt : (net.channels.modify ch switchOff).count (·.connected) <
        net.channels.count (·.connected) := Heap.count_modify_lt hget hon rfl
    have hle := net.channels.count_le_next (·.connected)
    rw [disconnectPeer]
    split
    next hnone => simp only [hnone]
    next p hsome =>
      simp only [hsome]
      exact disconnectIn_fuel _ _ _ _ (Nat.lt_of_lt_of_le hlt hle)
        (Nat.lt_succ_of_le ((net.channels.modify ch switchOff).count_le_next _))
  next => rfl

@[simp] theorem channels_sendMessage (net : Net μ δ τ) (ch : Ref) (message : Bytes) :
    (net.sendMessage ch message).channels = net.channels := by
  unfold sendMessage
  split
  · split
    · rfl
    · split <;> rfl
  · rfl

/-- A message is queued if both ends are connected; nothing else changes. -/
theorem sendMessage_cases (net : Net μ δ τ) (ch : Ref) (message : Bytes) :
    (∃ p, net.connected ch = true ∧ net.peer ch = some p ∧ net.connected p = true ∧
      net.sendMessage ch message = net.scheduleTask (.sendMessage message p)) ∨
      (net.connected ch = true → ∀ p ∈ net.peer ch, net.connected p = false) ∧
        net.sendMessage ch message = net := by
  unfold sendMessage
  split
  next hon =>
    split
    next hnone =>
      refine .inr ⟨fun _ p hp => ?_, rfl⟩
      rw [hnone] at hp
      cases hp
    next p hp =>
      split
      next hpon => exact .inl ⟨p, hon, hp, hpon, rfl⟩
      next hpoff =>
        refine .inr ⟨fun _ q hq => ?_, rfl⟩
        rw [hp] at hq
        cases hq
        exact Bool.not_eq_true _ ▸ hpoff
  next hoff => exact .inr ⟨fun hon => absurd hon hoff, rfl⟩

/-- `disconnect` changes nothing but flags. -/
theorem map_disconnectIn (fuel : Nat) (net : Net μ δ τ) (ch r : Ref) :
    ((disconnectIn fuel net ch).channels.get r).map switchOff =
      (net.channels.get r).map switchOff := by
  induction fuel generalizing net ch with
  | zero => rfl
  | succ fuel ih =>
      simp only [disconnectIn]
      split
      · split
        · exact Heap.map_get_modify net.channels ch r fun _ => rfl
        · rw [ih]
          exact Heap.map_get_modify net.channels ch r fun _ => rfl
      · rfl

theorem map_disconnect (net : Net μ δ τ) (ch r : Ref) :
    ((net.disconnect ch).channels.get r).map switchOff = (net.channels.get r).map switchOff :=
  map_disconnectIn _ net ch r

theorem isSome_disconnect (net : Net μ δ τ) (ch r : Ref) :
    ((net.disconnect ch).channels.get r).isSome = (net.channels.get r).isSome := by
  rw [← Option.isSome_map (f := switchOff), map_disconnect, Option.isSome_map]

theorem map_disconnectPeer (net : Net μ δ τ) (ch r : Ref) :
    ((net.disconnectPeer ch).channels.get r).map switchOff =
      (net.channels.get r).map switchOff := by
  unfold disconnectPeer
  split
  · rfl
  · exact map_disconnect net _ r

/-- Nothing but the destroyed channel goes. -/
theorem isSome_destroy (net : Net μ δ τ) (ch r : Ref) :
    ((net.destroy ch).channels.get r).isSome = (decide (r ≠ ch) && (net.channels.get r).isSome) := by
  unfold destroy
  by_cases hr : r = ch
  · subst hr
    simp
  · rw [Heap.get_free_of_ne _ hr, ← Option.isSome_map (f := switchOff), map_disconnectPeer,
      Option.isSome_map]
    simp [hr]

theorem disconnect_off {net : Net μ δ τ} {ch : Ref} (h : net.connected ch = false) :
    net.disconnect ch = net := by
  rw [disconnect_eq, if_neg (by simp [h])]

theorem disconnectPeer_off {net : Net μ δ τ} {ch : Ref}
    (h : ∀ p ∈ net.peer ch, net.connected p = false) : net.disconnectPeer ch = net := by
  unfold disconnectPeer
  split
  next => rfl
  next p hp => exact disconnect_off (h p hp)

theorem destroy_off {net : Net μ δ τ} {ch : Ref} (h : ∀ p ∈ net.peer ch, net.connected p = false) :
    net.destroy ch = { net with channels := net.channels.free ch } := by
  unfold destroy
  rw [disconnectPeer_off h]

theorem peer_eq_some {net : Net μ δ τ} {ch p : Ref} :
    net.peer ch = some p ↔ ∃ c, net.channels.get ch = some c ∧ c.peerChannel = some p ∧
      (net.channels.get p).isSome = true := by
  simp only [peer, Option.bind_eq_some_iff, Option.filter_eq_some_iff]

/-- Two channels that are each other's peers, both connected. -/
structure Joined (net : Net μ δ τ) (a b : Ref) : Prop where
  ne : a ≠ b
  left : ∃ c, net.channels.get a = some c ∧ c.peerChannel = some b ∧ c.connected = true
  right : ∃ c, net.channels.get b = some c ∧ c.peerChannel = some a ∧ c.connected = true

theorem Joined.symm {net : Net μ δ τ} {a b : Ref} (h : net.Joined a b) : net.Joined b a :=
  ⟨h.ne.symm, h.right, h.left⟩

theorem Joined.connected {net : Net μ δ τ} {a b : Ref} (h : net.Joined a b) :
    net.connected a = true := by
  obtain ⟨c, hc, -, hon⟩ := h.left
  simp [Net.connected, hc, hon]

theorem Joined.peer {net : Net μ δ τ} {a b : Ref} (h : net.Joined a b) : net.peer a = some b := by
  obtain ⟨c, hc, hp, -⟩ := h.left
  obtain ⟨d, hd, -, -⟩ := h.right
  exact peer_eq_some.mpr ⟨c, hc, hp, by simp [hd]⟩

theorem sendMessage_joined {net : Net μ δ τ} {a b : Ref} (h : net.Joined a b) (message : Bytes) :
    net.sendMessage a message = net.scheduleTask (.sendMessage message b) := by
  rw [sendMessage, if_pos h.connected, h.peer]
  exact if_pos h.symm.connected

/-- Either end takes both down; each gets one task, the end it starts from first. -/
theorem disconnect_joined {net : Net μ δ τ} {a b : Ref} (h : net.Joined a b) :
    net.disconnect a =
      { channels := (net.channels.modify a switchOff).modify b switchOff
        tasks := net.tasks ++ [.disconnect a, .disconnect b] } := by
  obtain ⟨c, hc, hcp, -⟩ := h.left
  obtain ⟨d, hd, hdp, hdon⟩ := h.right
  have hba := h.ne.symm
  rw [disconnect_eq, if_pos h.connected, disconnectPeer]
  have hpeer : (({ net with channels := net.channels.modify a switchOff } : Net μ δ τ).scheduleTask
      (.disconnect a)).peer a = some b := by
    rw [peer_eq_some]
    exact ⟨switchOff c, by simp [hc], hcp, by simp [hba, hd]⟩
  rw [hpeer]
  simp only
  have hconn : (({ net with channels := net.channels.modify a switchOff } : Net μ δ τ).scheduleTask
      (.disconnect a)).connected b = true := by
    simp [Net.connected, hba, hd, hdon]
  rw [disconnect_eq, if_pos hconn, disconnectPeer_off]
  · simp [scheduleTask]
  · intro p hp
    obtain ⟨d', hd', hp, -⟩ := peer_eq_some.mp (Option.mem_def.mp hp)
    have hd'' : d' = switchOff d := by simpa [hba, hd, eq_comm] using hd'
    rw [hd''] at hp
    have hpa : p = a := by simpa [switchOff, hdp, eq_comm] using hp
    subst hpa
    simp [Net.connected, h.ne, hc, switchOff]

theorem destroy_joined {net : Net μ δ τ} {a b : Ref} (h : net.Joined a b) :
    net.destroy a =
      { channels := ((net.channels.modify b switchOff).modify a switchOff).free a
        tasks := net.tasks ++ [.disconnect b, .disconnect a] } := by
  unfold destroy
  rw [disconnectPeer, h.peer]
  simp only
  rw [disconnect_joined h.symm]

end Net
end DeviceMonitoring
