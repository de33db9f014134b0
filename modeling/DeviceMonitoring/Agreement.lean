import DeviceMonitoring.ConnectionTasks

/-! Clients and servers agree on their connections when every task has run. -/
namespace DeviceMonitoring
variable {η : Type}
namespace World

/-- A condition on every step of a run, in the state the step is made in. -/
def along (I : Iteration) (P : World η → WorldStep η → Bool) : World η → List (WorldStep η) → Bool
  | _, [] => true
  | w, step :: steps => P w step && along I P (w.step I step) steps

theorem along_append (I : Iteration) (P : World η → WorldStep η → Bool) (w : World η)
    (steps rest : List (WorldStep η)) :
    w.along I P (steps ++ rest) = (w.along I P steps && (w.run I steps).along I P rest) := by
  induction steps generalizing w with
  | nil => rfl
  | cons step steps ih => simp only [List.cons_append, along, ih, Bool.and_assoc, run, List.foldl_cons]

theorem along_mono (I : Iteration) {P Q : World η → WorldStep η → Bool}
    (h : ∀ w step, P w step = true → Q w step = true) {w : World η} {steps : List (WorldStep η)}
    (hsteps : w.along I P steps = true) : w.along I Q steps = true := by
  induction steps generalizing w with
  | nil => rfl
  | cons step steps ih =>
      obtain ⟨hstep, hrest⟩ := Bool.and_eq_true_iff.mp hsteps
      exact Bool.and_eq_true_iff.mpr ⟨h w step hstep, ih hrest⟩

/-- The handler of a new connection does not bind the client that is being connected. -/
def keepsIdentifier (w : World η) : WorldStep η → Bool
  | .call (.bind c clientId) =>
      match w.running with
      | some (_, .connecting _ d _) => d ≠ c || !(w.bind c clientId).1
      | _ => true
  | _ => true

/-- No handler destroys what its task goes back to or runs a task, and the handler of a new
connection does not bind the client that is being connected. -/
def orderly (w : World η) (step : WorldStep η) : Bool := w.permits step && w.keepsIdentifier step

theorem keepsIdentifier_of_orderly {w : World η} {step : WorldStep η} (h : w.orderly step = true) :
    w.keepsIdentifier step = true :=
  (Bool.and_eq_true_iff.mp h).2

theorem settled_empty : ({} : World η).Settled := by
  exact ⟨none, none, ⟨rfl, rfl⟩, Net.Wired.empty, Shape.Owned.empty, Registered.empty,
    Registered.empty⟩

theorem settled_step (I : Iteration) {w : World η} (h : w.Settled) {step : WorldStep η}
    (hstep : w.keepsIdentifier step = true) : (w.step I step).Settled := by
  cases step with
  | newClient => exact settled_newClient h
  | newServer => exact settled_newServer h
  | start => exact settled_start h
  | resume => exact settled_resume h
  | call call =>
      by_cases hallows : w.allows call = true
      · simp only [World.step, hallows, if_true]
        apply settled_perform I h hallows
        rintro c clientId rfl ⟨q, s, hmoment⟩
        obtain ⟨⟨invocation, moment⟩, hrunning, rfl⟩ := Option.map_eq_some_iff.mp hmoment
        simpa [keepsIdentifier, hrunning] using hstep
      · simp only [World.step, hallows]
        exact h

theorem settled_run (I : Iteration) {w : World η} (h : w.Settled) (steps : List (WorldStep η))
    (hsteps : w.along I keepsIdentifier steps = true) : (w.run I steps).Settled := by
  induction steps generalizing w with
  | nil => exact h
  | cons step steps ih =>
      obtain ⟨hstep, hrest⟩ := Bool.and_eq_true_iff.mp hsteps
      exact ih (settled_step I h hstep) hrest

/-- In every state of an orderly run, also while a handler runs. -/
theorem settled_orderly (I : Iteration) (steps : List (WorldStep η))
    (hsteps : ({} : World η).along I orderly steps = true) : (({} : World η).run I steps).Settled :=
  settled_run I settled_empty steps (along_mono I (fun _ _ => keepsIdentifier_of_orderly) hsteps)

/-- The client's channel and the server's connection under this key are two ends of one
pair, both connected. -/
def Holds (w : World η) (s : Ref) (k : UInt64) (n a b : Ref) : Prop :=
  w.connection s k = some n ∧ w.connectionChannel n = some b ∧ w.net.Joined a b

structure Agreement (w : World η) : Prop where
  clients : ∀ c client, w.clients.get c = some client →
    (client.channel.isSome = true ↔
      ∃! s, ∃ n a b, client.channel = some a ∧ w.Holds s client.clientId n a b)
  connections : ∀ s k n, w.connection s k = some n →
    ∃ c client a b, w.clients.get c = some client ∧ client.clientId = k ∧
      client.channel = some a ∧ w.Holds s k n a b

theorem peer_unique {w : World η} {a b b' : Ref} (h : w.net.Joined a b) (h' : w.net.Joined a b') :
    b' = b := by
  have hpeer := h.peer
  rw [h'.peer] at hpeer
  exact Option.some.inj hpeer

/-- A connected channel of a client or of a connection, and what is opposite to it. -/
theorem opposite {w : World η} {floating closing : Option Ref} (hw : w.Consistent floating closing)
    {a : Ref} {e : ChannelEnd} (he : w.shape.channel a = some e) (hon : w.net.connected a = true) :
    ∃ b f, e.peer = some b ∧ w.net.Joined a b ∧ w.shape.channel b = some f ∧ f.peer = some a := by
  obtain ⟨channel, hget, rfl⟩ := (Heap.view_eq_some _ _).mp he
  have hcon : channel.connected = true := by simpa [Net.connected, hget] using hon
  obtain ⟨b, hb, hj⟩ := hw.wired.joined hget hcon
  obtain ⟨d, hd, hda, -⟩ := hj.right
  exact ⟨b, channelEnd d, hb, hj, (Heap.view_eq_some _ _).mpr ⟨d, hd, rfl⟩, hda⟩

/-- No disconnect task is left, so no channel is off. -/
theorem connected_of_idle {w : World η} {floating : Option Ref} (hw : w.Consistent floating none)
    (hempty : w.net.tasks = []) {a : Ref} {e : ChannelEnd} (he : w.shape.channel a = some e) :
    w.net.connected a = true := by
  obtain ⟨channel, hget, -⟩ := (Heap.view_eq_some _ _).mp he
  cases hon : channel.connected with
  | true => simp [Net.connected, hget, hon]
  | false =>
      have hqueued := (hw.wired.queued a channel hget).mp hon
      rw [hempty] at hqueued
      simp at hqueued

/-- Opposite to a connected entry of a server is the channel of the client of that name. -/
theorem opposite_of_entry {w : World η} {closing : Option Ref} (hw : w.Consistent none closing)
    {s n b : Ref} {k : UInt64} (hn : w.connection s k = some n) (hb : w.connectionChannel n = some b)
    (hon : w.net.connected b = true) : ∃ c client a, w.clients.get c = some client ∧
      client.clientId = k ∧ client.channel = some a ∧ w.net.Joined a b := by
  obtain ⟨b', f, hnb, hf, hk, hfo⟩ := hw.owned.entry_end hn
  rw [connectionChannel_eq_some.mpr ⟨s, hnb⟩] at hb
  cases hb
  obtain ⟨a, e, ha, hj, he, heb⟩ := opposite hw hf hon
  obtain ⟨-, hfaces⟩ := hw.owned.of_connection b f n hf hfo
  obtain ⟨c, hc⟩ := (hfaces a e ha he).resolve_left (by simp)
  obtain ⟨l, hl, hfaces'⟩ := hw.owned.of_client a e c he hc
  obtain ⟨hkey, -⟩ := hfaces' b f heb hf
  obtain ⟨client, hget, hclient⟩ := (Heap.view_eq_some _ _).mp hl
  rw [ClientConnectionMock.toEnd, Prod.mk.injEq] at hclient
  exact ⟨c, client, a, hget, hclient.1.trans (hkey.symm.trans hk), hclient.2, hj.symm⟩

theorem agreement_of_settled {w : World η} (h : w.Settled) (hidle : w.running = none)
    (hempty : w.net.tasks = []) : w.Agreement := by
  obtain ⟨floating, closing, hsituation, hw⟩ := h
  rw [hidle] at hsituation
  obtain ⟨rfl, rfl⟩ := hsituation
  constructor
  · intro c client hc
    constructor
    · intro hsome
      obtain ⟨a, ha⟩ := Option.isSome_iff_exists.mp hsome
      have hcend : w.shape.client c = some (client.clientId, some a) :=
        (Heap.view_eq_some _ _).mpr ⟨client, hc, by rw [ClientConnectionMock.toEnd, ha]⟩
      obtain ⟨e, he, ho⟩ := hw.owned.client_owns c _ a hcend
      obtain ⟨b, f, hb, hj, hf, -⟩ := opposite hw he (connected_of_idle hw hempty he)
      obtain ⟨k, hk, hfaces⟩ := hw.owned.of_client a e c he ho
      rw [hcend] at hk
      cases hk
      obtain ⟨hkey, n, hn⟩ := hfaces b f hb hf
      obtain ⟨⟨s, hs⟩, -⟩ := hw.owned.of_connection b f n hf hn
      obtain ⟨b', f', hb', hf', -, hentry⟩ := hw.owned.connection_owns n s _ hs
      cases hb'
      rw [hf] at hf'
      cases hf'
      rw [hkey] at hentry
      refine ⟨s, ⟨n, a, b, ha, hentry, connectionChannel_eq_some.mpr ⟨s, hs⟩, hj⟩, ?_⟩
      rintro t ⟨m, a', b', ha', hm, hb', hj'⟩
      rw [ha] at ha'
      cases ha'
      obtain rfl := peer_unique hj hj'
      -- the channel opposite to the client's belongs to one connection only
      obtain ⟨t', ht'⟩ := connectionChannel_eq_some.mp hb'
      obtain ⟨b'', f', hb'', hf', hm', -⟩ := hw.owned.connection_owns m t' _ ht'
      cases hb''
      rw [hf] at hf'
      cases hf'
      rw [hn] at hm'
      cases hm'
      obtain ⟨b'', f', ht, -⟩ := hw.owned.entry_end hm
      rw [hs] at ht
      cases ht
      rfl
    · rintro ⟨s, ⟨n, a, b, ha, -⟩, -⟩
      rw [ha, Option.isSome_some]
  · intro s k n hn
    obtain ⟨b, f, hb, hf, -⟩ := hw.owned.entry_end hn
    have hb' := connectionChannel_eq_some.mpr ⟨s, hb⟩
    obtain ⟨c, client, a, hget, hid, ha, hj⟩ :=
      opposite_of_entry hw hn hb' (connected_of_idle hw hempty hf)
    exact ⟨c, client, a, b, hget, hid, ha, hn, hb', hj⟩

/-- In every state of an orderly run in which no handler runs and the queue is empty. -/
theorem connections_agree (I : Iteration) (steps : List (WorldStep η))
    (hsteps : ({} : World η).along I orderly steps = true)
    (hidle : (({} : World η).run I steps).running = none)
    (hempty : (({} : World η).run I steps).net.tasks = []) :
    (({} : World η).run I steps).Agreement :=
  agreement_of_settled (settled_orderly I steps hsteps) hidle hempty

/-- Two clients connect, and one disconnects. -/
def connectRun : List (WorldStep Unit) :=
  [.newClient, .newClient, .newServer, .call (.bind 0 7), .call (.bind 1 8), .call (.listen 0 5),
    .call (.setNewConnectionHandler 0 (some ())), .call (.connectToHost 0 5),
    .call (.connectToHost 1 5), .start, .call (.connectionSetMessageHandler 0 (some ())), .resume,
    .start, .resume, .call (.clientDisconnect 0), .start, .start]

theorem connections_agree_two_clients :
    (({} : World Unit).run .byEntry connectRun).clientChannel 0 = none ∧
      (({} : World Unit).run .byEntry connectRun).clientChannel 1 = some 3 ∧
        (({} : World Unit).run .byEntry connectRun).Agreement :=
  ⟨rfl, rfl, connections_agree .byEntry connectRun (by decide) rfl rfl⟩

/-- The handler of the new connection binds the client to another identifier. -/
def rebindRun : List (WorldStep Unit) :=
  [.newClient, .newServer, .call (.bind 0 7), .call (.listen 0 5),
    .call (.setNewConnectionHandler 0 (some ())), .call (.connectToHost 0 5), .start,
    .call (.bind 0 8), .resume]

theorem connections_disagree_rebound : ¬ ∀ (I : Iteration) (steps : List (WorldStep Unit)),
    (({} : World Unit).run I steps).running = none →
      (({} : World Unit).run I steps).net.tasks = [] → (({} : World Unit).run I steps).Agreement := by
  intro h
  have hagree := h .byEntry rebindRun rfl rfl
  -- the server holds a connection under 7, the only client is bound to 8
  obtain ⟨c, client, a, b, hget, hid, -⟩ := hagree.connections 0 7 0 rfl
  have hlt : c < 1 := Heap.lt_next hget
  obtain rfl : c = 0 := Nat.lt_one_iff.mp hlt
  have hclient : some { clientId := 8, channel := some 1 } = some client := hget
  cases hclient
  exact absurd hid (by decide)

end World
end DeviceMonitoring
