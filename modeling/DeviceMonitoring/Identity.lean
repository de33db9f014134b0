import DeviceMonitoring.Agreement

/-! Identifiers: what the two global maps find, and whom a server takes a message to be from,
in every state of an orderly run. -/
namespace DeviceMonitoring
variable {η : Type}

/-- Two channels that are each other's peers, connected or not. -/
def Net.Paired {μ δ τ : Type} (net : Net μ δ τ) (a b : Ref) : Prop :=
  net.peer a = some b ∧ net.peer b = some a

namespace World

/-- The server's connection under `k` and the client own the two channels of one pair. -/
structure OwnPair (w : World η) (s : Ref) (k : UInt64) (n b c a : Ref) : Prop where
  connection : w.connection s k = some n
  serverEnd : w.connectionChannel n = some b
  clientEnd : w.clientChannel c = some a
  paired : w.net.Paired a b

structure Identified (w : World η) : Prop where
  findClient : ∀ id c, w.clientsMap id = some c ↔
    id ≠ 0 ∧ ∃ client, w.clients.get c = some client ∧ client.clientId = id
  findServer : ∀ id s, w.serversMap id = some s ↔
    id ≠ 0 ∧ ∃ server, w.servers.get s = some server ∧ server.serverId = id
  distinct : ∀ c d client other, w.clients.get c = some client → w.clients.get d = some other →
    client.clientId = other.clientId → client.clientId ≠ 0 → c = d
  bind : ∀ c id, (w.bind c id).1 = false → (w.bind c id).2 = w
  listen : ∀ s id, (w.listen s id).1 = false → (w.listen s id).2 = w
  attributed : ∀ s k n b c a client, w.OwnPair s k n b c a → w.clients.get c = some client →
    w.connectionPeerId n = k ∧ client.clientId = k
  received : ∀ c client message b, w.clients.get c = some client →
    (w.clientSendMessage c message).net.tasks = w.net.tasks ++ [.sendMessage message b] →
      ∃ s n, w.connection s client.clientId = some n ∧ w.connectionChannel n = some b ∧
        w.connectionPeerId n = client.clientId

theorem client_end {w : World η} {c : Ref} {client : ClientConnectionMock η}
    (hc : w.clients.get c = some client) :
    w.shape.client c = some (client.clientId, client.channel) :=
  (Heap.view_eq_some _ _).mpr ⟨client, hc, rfl⟩

/-- What lies opposite to the channel of a client is the channel of a connection, which its
server has under the client's identifier. -/
theorem opposite_of_client {w : World η} {floating closing : Option Ref}
    (hw : w.Consistent floating closing) {c a b : Ref} {client : ClientConnectionMock η}
    (hc : w.clients.get c = some client) (ha : client.channel = some a)
    (hb : w.net.peer a = some b) :
    ∃ s n, w.connection s client.clientId = some n ∧ w.connectionChannel n = some b ∧
      w.connectionPeerId n = client.clientId := by
  have hcend := client_end hc
  rw [ha] at hcend
  obtain ⟨e, he, ho⟩ := hw.owned.client_owns c _ a hcend
  obtain ⟨k, hk, hfaces⟩ := hw.owned.of_client a e c he ho
  rw [hcend] at hk
  cases hk
  obtain ⟨channel, hget, hpeer, hlive⟩ := Net.peer_eq_some.mp hb
  have heb : e.peer = some b := by
    have he' : w.shape.channel a = some (channelEnd channel) :=
      (Heap.view_eq_some _ _).mpr ⟨channel, hget, rfl⟩
    rw [he] at he'
    cases he'
    exact hpeer
  obtain ⟨peer, hgetb⟩ := Option.isSome_iff_exists.mp hlive
  have hf : w.shape.channel b = some (channelEnd peer) :=
    (Heap.view_eq_some _ _).mpr ⟨peer, hgetb, rfl⟩
  obtain ⟨hkey, n, hn⟩ := hfaces b _ heb hf
  obtain ⟨⟨s, hs⟩, -⟩ := hw.owned.of_connection b _ n hf hn
  obtain ⟨b', f, hb', hf', -, hentry⟩ := hw.owned.connection_owns n s _ hs
  cases hb'
  rw [hf] at hf'
  cases hf'
  rw [hkey] at hentry
  exact ⟨s, n, hentry, connectionChannel_eq_some.mpr ⟨s, hs⟩, (connectionPeerId_eq hs hf).trans hkey⟩

theorem connection_unique {w : World η} {floating closing : Option Ref}
    (hw : w.Consistent floating closing) {s t n m b : Ref} {k l : UInt64}
    (hn : w.connection s k = some n) (hnb : w.connectionChannel n = some b)
    (hm : w.connection t l = some m) (hmb : w.connectionChannel m = some b) :
    n = m ∧ s = t ∧ k = l := by
  obtain ⟨b', f, hs, hf, rfl, ho⟩ := hw.owned.entry_end hn
  obtain ⟨b'', f', ht, hf', rfl, ho'⟩ := hw.owned.entry_end hm
  rw [connectionChannel_eq_some.mpr ⟨s, hs⟩] at hnb
  rw [connectionChannel_eq_some.mpr ⟨t, ht⟩] at hmb
  cases hnb
  cases hmb
  rw [hf] at hf'
  cases hf'
  rw [ho] at ho'
  cases ho'
  rw [hs] at ht
  cases ht
  exact ⟨rfl, rfl, rfl⟩

theorem clientsMap_eq_some {w : World η} {floating closing : Option Ref}
    (hw : w.Consistent floating closing) (id : UInt64) (c : Ref) :
    w.clientsMap id = some c ↔
      id ≠ 0 ∧ ∃ client, w.clients.get c = some client ∧ client.clientId = id := by
  rw [hw.clientsMap id c]
  apply and_congr_right
  intro _
  unfold Shape.clientIds shape
  rw [Option.map_eq_some_iff]
  constructor
  · rintro ⟨x, hx, rfl⟩
    obtain ⟨client, hc, rfl⟩ := (Heap.view_eq_some _ _).mp hx
    exact ⟨client, hc, rfl⟩
  · rintro ⟨client, hc, rfl⟩
    exact ⟨_, client_end hc, rfl⟩

/-- What a client puts into the queue is for the connection that its server has under the
client's identifier. -/
theorem opposite_of_sent {w : World η} {floating closing : Option Ref}
    (hw : w.Consistent floating closing) {c b : Ref} {client : ClientConnectionMock η}
    (hc : w.clients.get c = some client) {message : Bytes}
    (htasks : (w.clientSendMessage c message).net.tasks = w.net.tasks ++ [.sendMessage message b]) :
    ∃ s n, w.connection s client.clientId = some n ∧ w.connectionChannel n = some b ∧
      w.connectionPeerId n = client.clientId := by
  cases ha : client.channel with
  | none =>
      have hnone : w.clientSendMessage c message = w := by
        unfold clientSendMessage clientChannel
        rw [hc, Option.bind_some, ha]
      rw [hnone] at htasks
      simp at htasks
  | some a =>
      have hsend : w.clientSendMessage c message = { w with net := w.net.sendMessage a message } := by
        unfold clientSendMessage clientChannel
        rw [hc, Option.bind_some, ha]
      rw [hsend] at htasks
      apply opposite_of_client hw hc ha
      rcases w.net.sendMessage_cases a message with ⟨p, -, hp, -, hsent⟩ | ⟨-, hsame⟩
      · rw [hsent] at htasks
        have htask := List.append_cancel_left htasks
        simp only [List.cons.injEq, Task.sendMessage.injEq, true_and, and_true] at htask
        rw [← htask]
        exact hp
      · rw [hsame] at htasks
        simp at htasks

theorem identified_of_consistent {w : World η} {floating closing : Option Ref}
    (hw : w.Consistent floating closing) : w.Identified := by
  constructor
  · exact clientsMap_eq_some hw
  · intro id s
    rw [hw.serversMap id s, Heap.view_eq_some]
  · intro c d client other hc hd heq hne
    have hmap := (clientsMap_eq_some hw client.clientId c).mpr ⟨hne, client, hc, rfl⟩
    rw [(clientsMap_eq_some hw client.clientId d).mpr ⟨hne, other, hd, heq.symm⟩] at hmap
    exact (Option.some.inj hmap).symm
  · intro c id hfalse
    rcases bind_cases w c id with hbind | ⟨k, -, -, -, hbind, -⟩
    · rw [hbind]
    · rw [hbind] at hfalse
      cases hfalse
  · intro s id hfalse
    rcases listen_cases w s id with hlisten | ⟨server, -, -, -, -, hlisten⟩
    · rw [hlisten]
    · rw [hlisten] at hfalse
      cases hfalse
  · intro s k n b c a client h hc
    have ha : client.channel = some a := by
      have hclient := h.clientEnd
      unfold clientChannel at hclient
      rwa [hc] at hclient
    obtain ⟨t, m, hm, hmb, hpeer⟩ := opposite_of_client hw hc ha h.paired.1
    obtain ⟨rfl, -, rfl⟩ := connection_unique hw h.connection h.serverEnd hm hmb
    exact ⟨hpeer, rfl⟩
  · intro c client message b hc htasks
    exact opposite_of_sent hw hc htasks

/-- In every state of an orderly run, also while a handler runs. -/
theorem identities_hold (I : Iteration) (steps : List (WorldStep η))
    (hsteps : ({} : World η).along I orderly steps = true) :
    (({} : World η).run I steps).Identified := by
  obtain ⟨floating, closing, -, hw⟩ := settled_orderly I steps hsteps
  exact identified_of_consistent hw

theorem identities_hold_two_clients : (({} : World Unit).run .byEntry connectRun).Identified :=
  identities_hold .byEntry connectRun (by decide)

/-- The server has the client's connection under 7, and the client is bound to 8. -/
theorem identities_differ_rebound : ¬ ∀ (I : Iteration) (steps : List (WorldStep Unit)),
    (({} : World Unit).run I steps).Identified := by
  intro h
  have hpair : (({} : World Unit).run .byEntry rebindRun).OwnPair 0 7 0 0 0 1 :=
    ⟨rfl, rfl, rfl, rfl, rfl⟩
  obtain ⟨-, hid⟩ := (h .byEntry rebindRun).attributed 0 7 0 0 0 1 _ hpair rfl
  exact absurd hid (by decide)

end World
end DeviceMonitoring
