import DeviceMonitoring.Channel
import DeviceMonitoring.Library.Walk

/-! `disconnect` on channels whose peers form any chain or cycle. -/
namespace DeviceMonitoring
namespace Net
variable {μ δ τ : Type} {net net' : Net μ δ τ} {ch p r : Ref} {met : List Ref}

/-- The flag goes off and the task is queued, before the peer is called. -/
def turnOff (net : Net μ δ τ) (ch : Ref) : Net μ δ τ :=
  ({ net with channels := net.channels.modify ch switchOff } : Net μ δ τ).scheduleTask (.disconnect ch)

/-- The call of `disconnect` on a channel returns: a call of it for every call it makes
through `disconnectPeer`. -/
inductive Returns : Net μ δ τ → Ref → Net μ δ τ → Prop where
  | off {net : Net μ δ τ} {ch : Ref} (hoff : net.connected ch = false) : Returns net ch net
  | alone {net : Net μ δ τ} {ch : Ref} (hon : net.connected ch = true)
      (hpeer : (net.turnOff ch).peer ch = none) : Returns net ch (net.turnOff ch)
  | peer {net net' : Net μ δ τ} {ch p : Ref} (hon : net.connected ch = true)
      (hpeer : (net.turnOff ch).peer ch = some p) (hcall : Returns (net.turnOff ch) p net') :
      Returns net ch net'

/-- The channels that are met go off, each with a task of its own, in the order in which
they are met; no other channel changes. -/
structure TurnedOff (net net' : Net μ δ τ) (met : List Ref) : Prop where
  tasks : net'.tasks = net.tasks ++ met.map .disconnect
  channels : ∀ r, net'.channels.get r =
    if r ∈ met then (net.channels.get r).map switchOff else net.channels.get r
  next : net'.channels.next = net.channels.next

theorem connected_turnOff :
    (net.turnOff ch).connected r = true ↔ net.connected r = true ∧ r ≠ ch := by
  unfold turnOff connected
  by_cases hr : r = ch
  · subst hr
    rw [channels_scheduleTask, Heap.get_modify_self]
    cases net.channels.get r <;> simp [switchOff]
  · simp [hr]

theorem map_turnOff (net : Net μ δ τ) (ch r : Ref) :
    ((net.turnOff ch).channels.get r).map switchOff = (net.channels.get r).map switchOff :=
  Heap.map_get_modify net.channels ch r fun _ => rfl

theorem peer_turnOff : (net.turnOff ch).peer r = net.peer r := by
  have hlive : ∀ p, ((net.turnOff ch).channels.get p).isSome = (net.channels.get p).isSome := by
    intro p
    rw [← Option.isSome_map (f := switchOff), map_turnOff, Option.isSome_map]
  have hpeer : ∀ net : Net μ δ τ, net.peer r = ((net.channels.get r).map switchOff).bind fun c =>
      c.peerChannel.filter fun p => (net.channels.get p).isSome := by
    intro net
    unfold peer
    cases net.channels.get r <;> rfl
  rw [hpeer, hpeer, map_turnOff]
  simp only [hlive]

theorem disconnect_on (hon : net.connected ch = true) :
    net.disconnect ch = (net.turnOff ch).disconnectPeer ch := by
  rw [disconnect_eq, if_pos hon]
  rfl

theorem TurnedOff.nil (net : Net μ δ τ) : TurnedOff net net [] := by
  constructor
  · simp
  · intro r
    rfl
  · rfl

theorem TurnedOff.cons (h : TurnedOff (net.turnOff ch) net' met) :
    TurnedOff net net' (ch :: met) := by
  constructor
  · rw [h.tasks]
    simp [turnOff]
  · intro r
    rw [h.channels]
    by_cases hr : r = ch
    · subst hr
      have hget : (net.turnOff r).channels.get r = (net.channels.get r).map switchOff :=
        Heap.get_modify_self ..
      rw [hget, if_pos List.mem_cons_self, Option.map_map]
      split <;> rfl
    · have hget : (net.turnOff ch).channels.get r = net.channels.get r :=
        Heap.get_modify_of_ne _ _ hr
      rw [hget]
      simp only [List.mem_cons, hr, false_or]
  · rw [h.next]
    rfl

/-- The recursion goes where the walk goes. -/
theorem disconnect_walk {on : Ref → Prop} (h : Walk net.peer on ch met)
    (hon : ∀ r, on r ↔ net.connected r = true) :
    Returns net ch (net.disconnect ch) ∧ TurnedOff net (net.disconnect ch) met := by
  generalize hnext : net.peer = next at h
  induction h generalizing net with
  | @shut on ch hoff =>
      have hoff' : net.connected ch = false := by simpa [hon] using hoff
      rw [disconnect_off hoff']
      exact ⟨.off hoff', .nil net⟩
  | @last on ch hch hnone =>
      have hch' := (hon ch).mp hch
      have hpeer : (net.turnOff ch).peer ch = none := by rw [peer_turnOff, hnext, hnone]
      rw [disconnect_on hch', disconnectPeer, hpeer]
      exact ⟨.alone hch' hpeer, (TurnedOff.nil _).cons⟩
  | @step on ch p met hch hsome _ ih =>
      have hch' := (hon ch).mp hch
      have hpeer : (net.turnOff ch).peer ch = some p := by rw [peer_turnOff, hnext, hsome]
      have hnext' : (net.turnOff ch).peer = next := by
        funext r
        rw [peer_turnOff, hnext]
      have hon' : ∀ r, on r ∧ r ≠ ch ↔ (net.turnOff ch).connected r = true := by
        intro r
        rw [connected_turnOff, hon]
      obtain ⟨hreturns, hoff⟩ := ih hon' hnext'
      rw [disconnect_on hch', disconnectPeer, hpeer]
      exact ⟨.peer hch' hpeer hreturns, hoff.cons⟩

/-- There are finitely many channels. -/
theorem exists_walk (net : Net μ δ τ) (ch : Ref) :
    ∃ met, Walk net.peer (fun r => net.connected r = true) ch met := by
  apply Walk.exists_of_finite
  apply (Set.finite_lt_nat net.channels.next).subset
  intro r hr
  obtain ⟨c, hc, -⟩ := (Option.any_eq_true _ _).mp hr
  exact Heap.lt_next hc

/-- A call returns in one way. -/
theorem Returns.unique {net₁ net₂ : Net μ δ τ} (h : Returns net ch net₁) (h' : Returns net ch net₂) :
    net₁ = net₂ := by
  induction h with
  | off hoff =>
      cases h' with
      | off _ => rfl
      | alone hon _ => rw [hoff] at hon; cases hon
      | peer hon _ _ => rw [hoff] at hon; cases hon
  | alone hon hpeer =>
      cases h' with
      | off hoff => rw [hoff] at hon; cases hon
      | alone _ _ => rfl
      | peer _ hpeer' _ => rw [hpeer] at hpeer'; cases hpeer'
  | peer hon hpeer _ ih =>
      cases h' with
      | off hoff => rw [hoff] at hon; cases hon
      | alone _ hpeer' => rw [hpeer] at hpeer'; cases hpeer'
      | peer _ hpeer' hcall =>
          rw [hpeer] at hpeer'
          cases hpeer'
          exact ih hcall

/-- The channels that a call of `disconnect` on `ch` turns off: one peer after the other, as
long as they are live and connected. -/
structure Met (net : Net μ δ τ) (ch : Ref) (met : List Ref) : Prop where
  first : ∀ r ∈ met.head?, r = ch
  linked : met.IsChain fun a b => net.peer a = some b
  once : met.Nodup
  reached : ∀ r, r ∈ met ↔ net.connected ch = true ∧
    Relation.ReflTransGen (fun a b => net.peer a = some b ∧ net.connected b = true) ch r

theorem disconnect_meets (net : Net μ δ τ) (ch : Ref) : Returns net ch (net.disconnect ch) ∧
    ∃ met, Met net ch met ∧ TurnedOff net (net.disconnect ch) met := by
  obtain ⟨met, hwalk⟩ := exists_walk net ch
  obtain ⟨hreturns, hoff⟩ := disconnect_walk hwalk fun _ => .rfl
  exact ⟨hreturns, met, ⟨hwalk.head, hwalk.linked, hwalk.nodup, hwalk.mem_iff⟩, hoff⟩

/-- Whatever the peers and the flags of the channels are: `disconnect` returns, and turns off
what it meets. So does a destroyed channel, from its peer on. -/
theorem disconnect_exact (net : Net μ δ τ) (ch : Ref) :
    (∃! net', Returns net ch net') ∧ Returns net ch (net.disconnect ch) ∧
      (∃ met, Met net ch met ∧ TurnedOff net (net.disconnect ch) met) ∧
        match net.peer ch with
        | none => net.destroy ch = { net with channels := net.channels.free ch }
        | some p => ∃ net' met, Returns net p net' ∧ Met net p met ∧ TurnedOff net net' met ∧
            net.destroy ch = { net' with channels := net'.channels.free ch } := by
  obtain ⟨hreturns, hmet⟩ := disconnect_meets net ch
  refine ⟨⟨_, hreturns, fun net' h => h.unique hreturns⟩, hreturns, hmet, ?_⟩
  cases hpeer : net.peer ch with
  | none =>
      dsimp only
      rw [destroy, disconnectPeer, hpeer]
  | some p =>
      obtain ⟨hreturns', met, hmet', hoff⟩ := disconnect_meets net p
      refine ⟨_, met, hreturns', hmet', hoff, ?_⟩
      rw [destroy, disconnectPeer, hpeer]

end Net
end DeviceMonitoring
