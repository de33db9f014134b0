import DeviceMonitoring.CurrentHandlers

/-! Channels and connections live as long as somebody owns them. -/
namespace DeviceMonitoring
variable {η : Type}
namespace World

/-- Between two tasks every channel has one owner, and every connection one place in the map of
one server. -/
structure Kept (w : World η) : Prop where
  channels : ∀ a, (w.net.channels.get a).isSome = true ↔ ∃! owner, w.channelOf owner = some a
  connections : ∀ n, (w.connections.get n).isSome = true ↔
    ∃! place : Ref × UInt64, w.connection place.1 place.2 = some n

section Owned
variable {w : World η}

theorem owner_of_channelOf (hw : w.shape.Owned none) {owner : Owner} {a : Ref}
    (h : w.channelOf owner = some a) :
    ∃ channel, w.net.channels.get a = some channel ∧ channel.disconnectedHandler = some owner := by
  cases owner with
  | client c => exact owner_of_clientChannel hw h
  | connection n => exact owner_of_connectionChannel hw h

theorem channelOf_of_owner (hw : w.shape.Owned none) {owner : Owner} {a : Ref}
    {channel : ConnectionChannel η Owner} (hget : w.net.channels.get a = some channel)
    (howner : channel.disconnectedHandler = some owner) : w.channelOf owner = some a := by
  cases owner with
  | client c => exact clientChannel_of_owner hw hget howner
  | connection n => exact connectionChannel_of_owner hw hget howner

/-- A live connection is in the map of its server. -/
theorem entry_of_connection {floating : Option Ref} (hw : w.shape.Owned floating) {n : Ref}
    {conn : ConnectionMock η} (hn : w.connections.get n = some conn) :
    ∃ k, w.connection conn.server k = some n := by
  have hend : w.shape.connection n = some (conn.server, conn.channel) :=
    (Heap.view_eq_some _ _).mpr ⟨conn, hn, rfl⟩
  obtain ⟨b, e, -, -, -, hentry⟩ := hw.connection_owns n conn.server conn.channel hend
  exact ⟨e.peerId, hentry⟩

theorem kept_of_owned (hw : w.shape.Owned none) : w.Kept := by
  constructor
  · intro a
    constructor
    · intro hlive
      obtain ⟨channel, hget⟩ := Option.isSome_iff_exists.mp hlive
      cases howner : channel.disconnectedHandler with
      | none =>
          have he : w.shape.channel a = some (channelEnd channel) :=
            (Heap.view_eq_some _ _).mpr ⟨channel, hget, rfl⟩
          cases hw.ownerless a _ he howner
      | some owner =>
          refine ⟨owner, channelOf_of_owner hw hget howner, fun other hother => ?_⟩
          obtain ⟨channel', hget', howner'⟩ := owner_of_channelOf hw hother
          rw [hget] at hget'
          cases hget'
          exact Option.some.inj (howner'.symm.trans howner)
    · rintro ⟨owner, howner, -⟩
      obtain ⟨channel, hget, -⟩ := owner_of_channelOf hw howner
      rw [hget, Option.isSome_some]
  · intro n
    constructor
    · intro hlive
      obtain ⟨conn, hn⟩ := Option.isSome_iff_exists.mp hlive
      obtain ⟨k, hentry⟩ := entry_of_connection hw hn
      obtain ⟨b, e, hb, he, hk, -⟩ := hw.entry_end hentry
      refine ⟨(conn.server, k), hentry, ?_⟩
      rintro ⟨t, l⟩ hplace
      obtain ⟨b', e', hb', he', hk', -⟩ := hw.entry_end hplace
      -- the connection knows its server, and its channel the key
      have hserver := hb'.symm.trans hb
      rw [Option.some.injEq, Prod.mk.injEq, Option.some.injEq] at hserver
      obtain ⟨rfl, rfl⟩ := hserver
      rw [he] at he'
      cases he'
      exact congrArg (Prod.mk conn.server) (hk'.symm.trans hk)
    · rintro ⟨place, hplace, -⟩
      obtain ⟨b, e, hb, -⟩ := hw.entry_end hplace
      obtain ⟨conn, hn, -⟩ := (Heap.view_eq_some _ _).mp hb
      rw [hn, Option.isSome_some]

/-- Connections go with the servers. -/
theorem connections_gone {floating : Option Ref} (hw : w.shape.Owned floating)
    (hservers : ∀ s, w.servers.get s = none) (n : Ref) : w.connections.get n = none := by
  cases hn : w.connections.get n with
  | none => rfl
  | some conn =>
      obtain ⟨k, hentry⟩ := entry_of_connection hw hn
      rw [connection, hservers] at hentry
      cases hentry

theorem channels_gone (hw : w.shape.Owned none) (hclients : ∀ c, w.clients.get c = none)
    (hservers : ∀ s, w.servers.get s = none) (a : Ref) : w.net.channels.get a = none := by
  rw [← Option.not_isSome_iff_eq_none, (kept_of_owned hw).channels]
  rintro ⟨owner, howner, -⟩
  cases owner with
  | client c =>
      rw [channelOf, clientChannel, hclients] at howner
      cases howner
  | connection n =>
      rw [channelOf, connectionChannel, connections_gone hw hservers] at howner
      cases howner

end Owned

/-- After any sequence of operations: no channel and no connection is lost, and none is owned
twice; when every client and every server has been destroyed, all of them are gone. -/
theorem operations_leak_nothing (I : Iteration) (operations : List (Operation η)) :
    (({} : World η).operate I operations).Kept ∧
      ((∀ c, (({} : World η).operate I operations).clients.get c = none) →
        (∀ s, (({} : World η).operate I operations).servers.get s = none) →
          ∀ r, (({} : World η).operate I operations).net.channels.get r = none ∧
            (({} : World η).operate I operations).connections.get r = none) := by
  have hw := (idle_operate I idle_empty operations).consistent.owned
  exact ⟨kept_of_owned hw, fun hclients hservers r =>
    ⟨channels_gone hw hclients hservers r, connections_gone hw hservers r⟩⟩

end World
end DeviceMonitoring
