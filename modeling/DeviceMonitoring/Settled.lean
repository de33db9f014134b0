import DeviceMonitoring.Library.Registry
import DeviceMonitoring.Ownership
import DeviceMonitoring.Wiring

/-! The invariant of every run: the wiring of the channels, their ownership, the two maps, and
what the handler that is running may rely on. -/
namespace DeviceMonitoring
variable {η : Type}

def channelEnd {μ : Type} (c : ConnectionChannel μ Owner) : ChannelEnd :=
  ⟨c.peerId, c.disconnectedHandler, c.peerChannel⟩

namespace Net
variable {μ τ : Type} (net : Net μ Owner τ)

theorem view_disconnect (ch : Ref) :
    (net.disconnect ch).channels.view channelEnd = net.channels.view channelEnd := by
  funext r
  have hmap := congrArg (Option.map channelEnd) (net.map_disconnect ch r)
  rw [Option.map_map, Option.map_map] at hmap
  exact hmap

theorem view_destroy (ch : Ref) :
    (net.destroy ch).channels.view channelEnd =
      Function.update (net.channels.view channelEnd) ch none := by
  have hpeer : (net.disconnectPeer ch).channels.view channelEnd = net.channels.view channelEnd := by
    unfold disconnectPeer
    split
    · rfl
    · exact net.view_disconnect _
  unfold destroy
  rw [Heap.view_free, hpeer]

end Net

def ClientConnectionMock.toEnd (client : ClientConnectionMock η) : UInt64 × Option Ref :=
  (client.clientId, client.channel)

def ConnectionMock.toEnd (conn : ConnectionMock η) : Ref × Option Ref := (conn.server, conn.channel)

namespace World

def shape (w : World η) : Shape where
  channel := w.net.channels.view channelEnd
  client := w.clients.view ClientConnectionMock.toEnd
  connection := w.connections.view ConnectionMock.toEnd
  entry := w.connection

theorem connection_congr {w w' : World η}
    (h : w'.servers.view (·.connections) = w.servers.view (·.connections)) :
    w'.connection = w.connection := by
  funext s k
  have hs := congrFun h s
  unfold connection
  unfold Heap.view at hs
  cases hget : w.servers.get s with
  | none =>
      rw [hget, Option.map_none, Option.map_eq_none_iff] at hs
      rw [hs]
  | some server =>
      rw [hget, Option.map_some, Option.map_eq_some_iff] at hs
      obtain ⟨server', hs', heq⟩ := hs
      rw [hs']
      exact congrArg (AList.lookup k) heq

theorem connection_erase (w w' : World η) (s : Ref) (k : UInt64)
    (h : w'.servers = w.servers.modify s fun server =>
      { server with connections := server.connections.erase k }) :
    w'.connection = fun t l => if t = s ∧ l = k then none else w.connection t l := by
  funext t l
  unfold connection
  rw [h]
  by_cases ht : t = s
  · subst ht
    rw [Heap.get_modify_self]
    cases w.servers.get t with
    | none => simp
    | some server =>
        by_cases hl : l = k
        · subst hl
          simp [AList.lookup_erase]
        · simp [hl, AList.lookup_erase_ne hl]
  · rw [Heap.get_modify_of_ne _ _ ht]
    simp [ht]

theorem connection_insert (w w' : World η) {s n : Ref} {k : UInt64}
    {server : ConnectionServerMock η} (hs : w.servers.get s = some server)
    (h : w'.servers = w.servers.modify s fun server =>
      { server with connections := server.connections.insert k n }) :
    w'.connection = fun t l => if t = s ∧ l = k then some n else w.connection t l := by
  funext t l
  unfold connection
  rw [h]
  by_cases ht : t = s
  · subst ht
    rw [Heap.get_modify_self, hs]
    by_cases hl : l = k
    · subst hl
      simp [AList.lookup_insert]
    · simp [hl, AList.lookup_insert_ne hl]
  · rw [Heap.get_modify_of_ne _ _ ht]
    simp [ht]

theorem clientChannel_eq_some {w : World η} {c a : Ref} :
    w.clientChannel c = some a ↔ ∃ k, w.shape.client c = some (k, some a) := by
  unfold clientChannel shape
  simp only [Option.bind_eq_some_iff, Heap.view_eq_some, ClientConnectionMock.toEnd, Prod.mk.injEq]
  constructor
  · rintro ⟨client, hc, ha⟩
    exact ⟨_, client, hc, rfl, ha⟩
  · rintro ⟨k, client, hc, -, ha⟩
    exact ⟨client, hc, ha⟩

theorem connectionChannel_eq_some {w : World η} {n b : Ref} :
    w.connectionChannel n = some b ↔ ∃ s, w.shape.connection n = some (s, some b) := by
  unfold connectionChannel shape
  simp only [Option.bind_eq_some_iff, Heap.view_eq_some, ConnectionMock.toEnd, Prod.mk.injEq]
  constructor
  · rintro ⟨conn, hn, hb⟩
    exact ⟨_, conn, hn, rfl, hb⟩
  · rintro ⟨s, conn, hn, -, hb⟩
    exact ⟨conn, hn, hb⟩

/-- What holds between two steps; `closing` is the channel whose disconnected handler runs. -/
structure Consistent (floating closing : Option Ref) (w : World η) : Prop where
  wired : w.net.Wired closing
  owned : w.shape.Owned floating
  clientsMap : Registered 0 w.shape.clientIds w.clientsMap
  serversMap : Registered 0 (w.servers.view (·.serverId)) w.serversMap

end World

/-- The client that a handler's return goes back to. -/
def Moment.client : Moment → Option Ref
  | .closingClient c => some c
  | .connecting _ c _ => some c
  | _ => none

theorem Moment.client_ne_of_allows {m : Moment} {c : Ref}
    (h : m.allows (.destroyClient c : Call η) = true) : m.client ≠ some c := by
  unfold Moment.client
  intro hc
  split at hc
  · exact of_decide_eq_true h (Option.some.inj hc).symm
  · exact of_decide_eq_true h (Option.some.inj hc).symm
  · cases hc

/-- What the handler that is running may rely on. -/
def Shape.Situation (σ : Shape) (floating closing : Option Ref) : Option Moment → Prop
  | none | some .message | some (.notified _) => floating = none ∧ closing = none
  | some (.closingClient c) =>
      floating = none ∧ ∃ k a, closing = some a ∧ σ.client c = some (k, some a)
  | some (.closingConnection n s) =>
      floating = none ∧ ∃ b, closing = some b ∧ σ.connection n = some (s, some b)
  | some (.connecting q c _) =>
      closing = none ∧ floating = some q ∧ ∃ e k x, σ.channel q = some e ∧ e.owner = none ∧
        σ.client c = some (k, x) ∧ σ.FacesConnection k e

namespace World

/-- The invariant of a run. -/
def Settled (w : World η) : Prop :=
  ∃ floating closing, w.shape.Situation floating closing (w.running.map (·.2)) ∧
    w.Consistent floating closing

end World

namespace Shape.Situation
variable {σ : Shape} {floating closing : Option Ref} {moment : Option Moment}

/-- A client may change that the handler's return does not go back to. -/
theorem setClient (h : σ.Situation floating closing moment) {c : Ref}
    {x : Option (UInt64 × Option Ref)} (hmoment : ∀ m ∈ moment, m.client ≠ some c) :
    (σ.setClient c x).Situation floating closing moment := by
  have hkeep : ∀ d y, d ≠ c → σ.client d = some y → Function.update σ.client c x d = some y := by
    intro d y hd hy
    exact update_eq_some.mpr (.inr ⟨hd, hy⟩)
  unfold Situation at h ⊢
  split at h
  · exact h
  · exact h
  · exact h
  next d =>
    obtain ⟨hfloating, k, a, ha, hd⟩ := h
    refine ⟨hfloating, k, a, ha, hkeep _ _ ?_ hd⟩
    rintro rfl
    exact hmoment _ rfl rfl
  · exact h
  next q d s =>
    obtain ⟨hclosing, hfloating, e, k, y, he, ho, hd, hfaces⟩ := h
    refine ⟨hclosing, hfloating, e, k, y, he, ho, hkeep _ _ ?_ hd, hfaces⟩
    rintro rfl
    exact hmoment _ rfl rfl

theorem client_live {m : Moment} (h : σ.Situation floating closing (some m)) {c : Ref}
    (hc : m.client = some c) : ∃ k x, σ.client c = some (k, x) := by
  unfold Moment.client at hc
  split at hc
  · cases hc
    obtain ⟨-, k, a, -, hd⟩ := h
    exact ⟨k, some a, hd⟩
  · cases hc
    obtain ⟨-, -, -, k, x, -, -, hd, -⟩ := h
    exact ⟨k, x, hd⟩
  · cases hc

theorem floating_ne (h : σ.Situation floating closing moment) {a : Ref} {e : ChannelEnd}
    (he : σ.channel a = some e) (ho : e.owner ≠ none) : floating ≠ some a := by
  rintro rfl
  unfold Situation at h
  split at h
  · cases h.1
  · cases h.1
  · cases h.1
  · cases h.1
  · cases h.1
  · obtain ⟨-, hq, e', k, x, he', ho', -⟩ := h
    cases hq
    rw [he] at he'
    cases he'
    exact ho ho'

theorem closing_ne_of_client (h : σ.Situation floating closing moment)
    (howned : σ.Owned floating) {c a : Ref} {k : UInt64} (hc : σ.client c = some (k, some a))
    (hmoment : moment ≠ some (.closingClient c)) : closing ≠ some a := by
  obtain ⟨e, he, ho⟩ := howned.client_owns c k a hc
  rintro rfl
  unfold Situation at h
  split at h
  · cases h.2
  · cases h.2
  · cases h.2
  next d =>
    obtain ⟨-, l, a', ha, hd⟩ := h
    cases ha
    obtain ⟨e', he', ho'⟩ := howned.client_owns d l a hd
    rw [he] at he'
    cases he'
    rw [ho] at ho'
    cases ho'
    exact hmoment rfl
  next n s =>
    obtain ⟨-, b, hb, hn⟩ := h
    cases hb
    obtain ⟨b', e', hb', he', ho', -⟩ := howned.connection_owns n s _ hn
    cases hb'
    rw [he] at he'
    cases he'
    rw [ho] at ho'
    cases ho'
  · cases h.1

theorem closing_ne_of_connection (h : σ.Situation floating closing moment)
    (howned : σ.Owned floating) {n s b : Ref} (hn : σ.connection n = some (s, some b))
    (hmoment : moment ≠ some (.closingConnection n s)) : closing ≠ some b := by
  obtain ⟨b', e, hb, he, ho, -⟩ := howned.connection_owns n s _ hn
  cases hb
  rintro rfl
  unfold Situation at h
  split at h
  · cases h.2
  · cases h.2
  · cases h.2
  next d =>
    obtain ⟨-, l, a, ha, hd⟩ := h
    cases ha
    obtain ⟨e', he', ho'⟩ := howned.client_owns d l b hd
    rw [he] at he'
    cases he'
    rw [ho] at ho'
    cases ho'
  next m t =>
    obtain ⟨-, a, ha, hm⟩ := h
    cases ha
    obtain ⟨b', e', hb', he', ho', -⟩ := howned.connection_owns m t _ hm
    cases hb'
    rw [he] at he'
    cases he'
    rw [ho] at ho'
    cases ho'
    rw [hn] at hm
    cases hm
    exact hmoment rfl
  · cases h.1

/-- A channel goes that has an owner. -/
theorem setChannel (h : σ.Situation floating closing moment) {a : Ref} (ha : floating ≠ some a) :
    (σ.setChannel a none).Situation floating closing moment := by
  unfold Situation at h ⊢
  split at h
  · exact h
  · exact h
  · exact h
  · exact h
  · exact h
  · obtain ⟨hclosing, hfloating, e, k, y, he, ho, hd, hfaces⟩ := h
    refine ⟨hclosing, hfloating, e, k, y, update_eq_some.mpr (.inr ⟨?_, he⟩), ho, hd,
      hfaces.anti fun _ _ => update_none_eq_some⟩
    rintro rfl
    exact ha hfloating

/-- A connection goes whose handler is not the one that is running. -/
theorem dropConnection (h : σ.Situation floating closing moment) {s n b : Ref} {k : UInt64}
    (hb : floating ≠ some b) (hmoment : ∀ t, moment ≠ some (.closingConnection n t)) :
    (σ.dropConnection s k n b).Situation floating closing moment := by
  unfold Situation at h ⊢
  split at h
  · exact h
  · exact h
  · exact h
  · exact h
  next m t =>
    obtain ⟨hfloating, a, ha, hm⟩ := h
    refine ⟨hfloating, a, ha, update_eq_some.mpr (.inr ⟨?_, hm⟩)⟩
    rintro rfl
    exact hmoment t rfl
  · obtain ⟨hclosing, hfloating, e, k, y, he, ho, hd, hfaces⟩ := h
    refine ⟨hclosing, hfloating, e, k, y, update_eq_some.mpr (.inr ⟨?_, he⟩), ho, hd,
      hfaces.anti fun _ _ => update_none_eq_some⟩
    rintro rfl
    exact hb hfloating

end Shape.Situation

end DeviceMonitoring
