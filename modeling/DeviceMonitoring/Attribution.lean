import DeviceMonitoring.Inheritance
import DeviceMonitoring.Lines
import DeviceMonitoring.Parcels

/-! Who handles a letter: the device that its channel belongs to, or the server under the
identifier of the client at the other end. -/
namespace DeviceMonitoring
namespace World
variable {η : Type}

/-- A message handler is called by the task of a message, and is the one of the channel. -/
theorem message_of_start {w : World η} (hrun : w.running = none) {handler : η} {message : Bytes}
    {moment : Moment} (h : w.start.running = some (.message handler message, moment)) :
    ∃ a tasks channel, w.net.tasks = .sendMessage message a :: tasks ∧
      w.net.channels.get a = some channel ∧ channel.messageHandler = some handler ∧
        w.start.clients = w.clients := by
  obtain ⟨task, tasks, htasks, hcalls⟩ := calls_start hrun h
  cases hcalls with
  | @message a _ channel _ hget hhandler =>
      have hdeliver : w.net.deliver (.sendMessage message a) = .message handler message := by
        rw [Net.deliver, hget, Option.bind_some, hhandler]
      exact ⟨a, tasks, channel, htasks, hget, hhandler, by rw [start_message hrun htasks hdeliver]⟩

theorem address_of_connectionChannel {w : World η} {floating : Option Ref}
    (hw : w.shape.Owned floating) {n b : Ref} (hb : w.connectionChannel n = some b) :
    w.address b = some (true, w.connectionPeerId n) := by
  obtain ⟨channel, hget, howner⟩ := owner_of_connectionChannel hw hb
  simp only [address, hget, Option.bind_some, ConnectionChannel.tag, howner, addressOf,
    connectionPeerId, hb, Option.map_some, Option.getD_some]

end World

namespace Monitoring

/-- The message handlers that the constructors and `onNewIncomingConnection` install are in their
places: a client has the one of its device, a connection one for the identifier of its client. -/
structure Attributed (m : Monitoring) : Prop where
  clients : ∀ c handler, m.world.handlerOf (some (.client c)) = some handler →
    ∃ d device, handler = .deviceMessage d ∧ m.devices.get d = some device ∧ device.clientConnection = c
  connections : ∀ n b handler, m.world.connectionChannel n = some b →
    m.world.handlerOf (some (.connection n)) = some handler →
      ∃ k, handler = .serverMessage k ∧ m.world.address b = some (true, k)

namespace Attributed
variable {m m' : Monitoring} {posted : List Letter} {floating : Option Ref}

theorem clients_after (h : m.Attributed)
    (hhandlers : ∀ c handler, m'.world.handlerOf (some (.client c)) = some handler →
      m.world.handlerOf (some (.client c)) = some handler ∨
        ∃ d device, handler = .deviceMessage d ∧ m'.devices.get d = some device ∧
          device.clientConnection = c)
    (hdevices : ∀ d device, m.devices.get d = some device →
      (m'.world.handlerOf (some (.client device.clientConnection))).isSome = true →
        ∃ device', m'.devices.get d = some device' ∧
          device'.clientConnection = device.clientConnection) :
    ∀ c handler, m'.world.handlerOf (some (.client c)) = some handler →
      ∃ d device, handler = .deviceMessage d ∧ m'.devices.get d = some device ∧
        device.clientConnection = c := by
  intro c handler hhandler
  rcases hhandlers c handler hhandler with hbefore | hnew
  · obtain ⟨d, device, rfl, hget, rfl⟩ := h.clients c handler hbefore
    obtain ⟨device', hget', hsame⟩ := hdevices d device hget (by rw [hhandler, Option.isSome_some])
    exact ⟨d, device', rfl, hget', hsame⟩
  · exact hnew

/-- A connection that was there keeps its channel or loses it, and the channel its address. -/
theorem connections_after (h : m.Attributed) (hw : m.world.shape.Owned floating)
    (hmoves : World.Moves posted m.world m'.world)
    (hhandlers : ∀ n handler, m'.world.handlerOf (some (.connection n)) = some handler →
      m.world.handlerOf (some (.connection n)) = some handler ∨
        n < m.world.connections.next ∧ handler = .serverMessage (m.world.connectionPeerId n)) :
    ∀ n b handler, m'.world.connectionChannel n = some b →
      m'.world.handlerOf (some (.connection n)) = some handler →
        ∃ k, handler = .serverMessage k ∧ m'.world.address b = some (true, k) := by
  intro n b handler hb' hhandler
  obtain ⟨_, _, -, hw'⟩ := hmoves.settled
  have hlt : n < m.world.connections.next := by
    rcases hhandlers n handler hhandler with hbefore | ⟨hlt, -⟩
    · obtain ⟨conn, hn, -⟩ := World.handlerOf_connection.mp hbefore
      exact Heap.lt_next hn
    · exact hlt
  have hb := hmoves.later.channel n b hlt hb'
  obtain ⟨channel, hget, -⟩ := World.owner_of_connectionChannel hw hb
  obtain ⟨channel', hget', -⟩ := World.owner_of_connectionChannel hw'.owned hb'
  obtain ⟨-, hsame⟩ := hmoves.passage.stays b (Heap.lt_next hget) (by rw [hget', Option.isSome_some])
  rw [hsame]
  rcases hhandlers n handler hhandler with hbefore | ⟨-, rfl⟩
  · exact h.connections n b handler hb hbefore
  · exact ⟨_, rfl, World.address_of_connectionChannel hw hb⟩

theorem after (h : m.Attributed) (hw : m.world.shape.Owned floating)
    (hmoves : World.Moves posted m.world m'.world)
    (hinherits : m.world.Inherits m'.world)
    (hdevices : ∀ d device, m.devices.get d = some device →
      (m'.world.handlerOf (some (.client device.clientConnection))).isSome = true →
        ∃ device', m'.devices.get d = some device' ∧
          device'.clientConnection = device.clientConnection) : m'.Attributed :=
  ⟨h.clients_after (fun _ handler hhandler => .inl (hinherits _ handler hhandler)) hdevices,
    h.connections_after hw hmoves fun _ handler hhandler => .inl (hinherits _ handler hhandler)⟩

theorem after_same (h : m.Attributed) (hw : m.world.shape.Owned floating)
    (hmoves : World.Moves posted m.world m'.world) (hinherits : m.world.Inherits m'.world)
    (hdevices : ∀ d, (m'.devices.get d).map (·.clientConnection) =
      (m.devices.get d).map (·.clientConnection)) : m'.Attributed := by
  refine h.after hw hmoves hinherits fun d device hget _ => ?_
  have hsame := hdevices d
  rw [hget, Option.map_some, Option.map_eq_some_iff] at hsame
  exact hsame

end Attributed

/-- The handler that is running was called with this letter; it belongs to the device that the
letter is for, or knows the identifier of the one that it is from. -/
def InHand (m : Monitoring) (inHand : List Parcel) : Prop :=
  ∀ handler message moment, m.world.running = some (.message handler message, moment) →
    ∃ p, inHand = [p] ∧ p.letter.message = message ∧
      (p.letter.toServer = true ∧ handler = .serverMessage p.letter.clientId ∨
        p.letter.toServer = false ∧ ∃ d device, handler = .deviceMessage d ∧
          m.devices.get d = some device ∧ p.letter.clientId = m.deviceId device)

theorem inHand_of_none {m : Monitoring} (h : m.world.running = none) (inHand : List Parcel) :
    m.InHand inHand := by
  intro handler message moment hrunning
  rw [h] at hrunning
  cases hrunning

/-- A letter that a task hands over is handled by the one that it is addressed to. -/
theorem letter_of_start {m : Monitoring} {floating : Option Ref} (h : m.Attributed)
    (hw : m.world.shape.Owned floating) (hcurrent : m.world.Current) (hrun : m.world.running = none)
    {handler : Handler} {message : Bytes} {moment : Moment}
    (hrunning : m.world.start.running = some (.message handler message, moment)) :
    ∃ l, m.world.arrived .start = [l] ∧ l.message = message ∧
      (l.toServer = true ∧ handler = .serverMessage l.clientId ∨
        l.toServer = false ∧ ∃ d device, handler = .deviceMessage d ∧ m.devices.get d = some device ∧
          l.clientId = ({ m with world := m.world.start } : Monitoring).deviceId device) := by
  obtain ⟨a, tasks, channel, htasks, hget, hhandler, hclients⟩ := World.message_of_start hrun hrunning
  have hown := hcurrent a channel hget
  rw [hhandler, eq_comm] at hown
  -- the address of the channel gives the letter
  have hhanded : ∀ whom, m.world.address a = some whom →
      m.world.arrived .start = [⟨a, whom.1, whom.2, message⟩] := by
    intro whom hwhom
    simp only [World.arrived, hrun, htasks, hwhom, Option.toList_some, List.map_singleton]
  cases howner : channel.disconnectedHandler with
  | none =>
      rw [howner] at hown
      cases hown
  | some owner =>
      rw [howner] at hown
      cases owner with
      | connection n =>
          have hb := World.connectionChannel_of_owner hw hget howner
          obtain ⟨k, rfl, haddress⟩ := h.connections n a handler hb hown
          exact ⟨_, hhanded _ haddress, rfl, .inl ⟨rfl, rfl⟩⟩
      | client c =>
          obtain ⟨d, device, rfl, hdevice, rfl⟩ := h.clients c handler hown
          obtain ⟨client, hc, -⟩ := World.handlerOf_client.mp hown
          have haddress : m.world.address a = some (false, client.clientId) := by
            simp only [World.address, hget, Option.bind_some, ConnectionChannel.tag, howner,
              World.addressOf, World.clientIdOf, Heap.view, hc, Option.map_some]
          refine ⟨_, hhanded _ haddress, rfl, .inr ⟨rfl, d, device, rfl, hdevice, ?_⟩⟩
          rw [deviceId, hclients, hc]
          rfl

theorem inHand_start {m : Monitoring} {floating : Option Ref} (h : m.Attributed)
    (hw : m.world.shape.Owned floating) (hcurrent : m.world.Current) (hrun : m.world.running = none)
    {given : List Parcel} (hgiven : given.map Parcel.letter = m.world.arrived .start) :
    ({ m with world := m.world.start } : Monitoring).InHand given := by
  intro handler message moment hrunning
  obtain ⟨l, hhanded, hmessage, hto⟩ := letter_of_start h hw hcurrent hrun hrunning
  rw [hhanded, List.map_eq_singleton_iff] at hgiven
  obtain ⟨p, rfl, rfl⟩ := hgiven
  exact ⟨p, rfl, hmessage, hto⟩

end Monitoring
end DeviceMonitoring
