import DeviceMonitoring.Callbacks

/-! Devices and their clients come and go in pairs. A call from outside tells nobody anything, and
neither does the start of a task. -/
namespace DeviceMonitoring
namespace World

theorem connectionPeerId_of_shape {η : Type} {w w' : World η} (h : w'.shape = w.shape) :
    w'.connectionPeerId = w.connectionPeerId := by
  funext n
  have hchannel : w'.connectionChannel n = w.connectionChannel n := by
    apply Option.ext
    intro b
    rw [connectionChannel_eq_some, connectionChannel_eq_some, h]
  have hpeer : ∀ b, (w'.net.channels.get b).map (·.peerId) = (w.net.channels.get b).map (·.peerId) := by
    intro b
    have hend := congrArg (Option.map ChannelEnd.peerId) (congrFun (congrArg Shape.channel h) b)
    simp only [shape, Heap.view, Option.map_map] at hend
    exact hend
  unfold connectionPeerId
  rw [hchannel]
  cases w.connectionChannel n with
  | none => rfl
  | some b => exact congrArg (·.getD 0) (hpeer b)

theorem SameEnds.clientUp {η : Type} {w w' : World η} (h : SameEnds w w')
    (hrunning : w'.running = w.running) : w'.clientUp = w.clientUp := by
  funext c
  rw [World.clientUp, World.clientUp, h.clientChannel, World.notified, World.notified, hrunning]

theorem SameEnds.serverUp {η : Type} {w w' : World η} (h : SameEnds w w')
    (hrunning : w'.running = w.running) : w'.serverUp = w.serverUp := by
  funext s k
  rw [World.serverUp, World.serverUp, h.connection, World.introduced, World.introduced, hrunning]

end World

namespace Monitoring

/-- Devices and clients come and go in pairs, and everybody has the handlers of a session. -/
structure Staffed (m : Monitoring) : Prop where
  ordered : m.world.Ordered
  next : m.world.clients.next = m.devices.next
  owns : ∀ d device, m.devices.get d = some device → device.clientConnection = d
  live : ∀ c client, m.world.clients.get c = some client → ∃ device, m.devices.get c = some device
  server : m.connectionServer = 0

/-- The device has been there. -/
def Gone (m : Monitoring) (d : Ref) : Prop := d < m.devices.next ∧ m.devices.get d = none

/-- Everybody stays, with the handlers and the connections that they have. -/
structure Undisturbed (m m' : Monitoring) : Prop where
  kits : World.SameKits m.world m'.world
  ends : World.SameEnds m.world m'.world
  running : m'.world.running = m.world.running
  owners : m'.devices.view Device.clientConnection = m.devices.view Device.clientConnection
  next : m'.devices.next = m.devices.next
  server : m'.connectionServer = m.connectionServer

namespace Undisturbed
variable {m m' m'' : Monitoring}

theorem refl (m : Monitoring) : Undisturbed m m := ⟨.refl _, .refl _, rfl, rfl, rfl, rfl⟩

theorem trans (h : Undisturbed m m') (h' : Undisturbed m' m'') : Undisturbed m m'' :=
  ⟨h.kits.trans h'.kits, h.ends.trans h'.ends, h'.running.trans h.running, h'.owners.trans h.owners,
    h'.next.trans h.next, h'.server.trans h.server⟩

/-- A call on the connections that destroys nothing and sets no handler. -/
theorem perform (I : Iteration) (m : Monitoring) (call : Call Handler) (hinstalls : call.installs = false)
    (hdestroys : call.destroys = false) : Undisturbed m { m with world := m.world.perform I call } :=
  ⟨.perform I _ hinstalls, .perform I _ hdestroys, World.running_perform I _ call, rfl, rfl, rfl⟩

theorem onClient (I : Iteration) (m : Monitoring) (d : Ref) {call : Ref → Call Handler}
    (hinstalls : ∀ c, (call c).installs = false) (hdestroys : ∀ c, (call c).destroys = false) :
    Undisturbed m (m.onClient I d call) := by
  unfold Monitoring.onClient
  split
  · exact refl m
  · exact perform I m _ (hinstalls _) (hdestroys _)

theorem setDevice (m : Monitoring) (d : Ref) (f : DeviceMock → DeviceMock) :
    Undisturbed m (m.setDevice d f) :=
  ⟨.refl _, .refl _, rfl, m.devices.view_modify_of_keep _ d fun _ => rfl, rfl, rfl⟩

theorem clientSendMessages (m : Monitoring) (c : Ref) (sent : List Bytes) :
    Undisturbed m { m with
      world := sent.foldl (fun w message => w.clientSendMessage c message) m.world } := by
  induction sent generalizing m with
  | nil => exact refl m
  | cons message sent ih =>
      have hsend := perform .byEntry m (.clientSendMessage c message) rfl rfl
      exact hsend.trans (ih { m with world := m.world.clientSendMessage c message })

theorem onDevice {d : Ref} {f : DeviceMock → Except String (DeviceMock × List Bytes)}
    (h : m.onDevice d f = .ok m') : Undisturbed m m' := by
  unfold Monitoring.onDevice at h
  split at h
  · cases h
    exact refl m
  next device _ =>
    split at h
    · cases h
    next mock sent _ =>
      cases h
      have hset : Undisturbed m { m with devices := m.devices.modify d (·.setMock mock) } :=
        ⟨.refl _, .refl _, rfl, m.devices.view_modify_of_keep _ d fun _ => rfl, rfl, rfl⟩
      exact hset.trans (clientSendMessages _ device.clientConnection sent)

theorem sendMessages (m : Monitoring) (sent : List (UInt64 × Bytes)) :
    Undisturbed m (sent.foldl (fun m (deviceId, message) => m.sendMessage deviceId message) m) := by
  induction sent generalizing m with
  | nil => exact refl m
  | cons message sent ih =>
      have hsend : Undisturbed m (m.sendMessage message.1 message.2) := by
        unfold Monitoring.sendMessage
        split
        · exact refl m
        next n _ => exact perform .byEntry m (.connectionSendMessage n message.2) rfl rfl
      exact hsend.trans (ih _)

/-- Every handler but the one that takes over a new connection. -/
theorem handle {invocation : Invocation Handler} (h : m.handle invocation = .ok m')
    (hnew : ∀ n, invocation ≠ .newConnection .newConnection n) : Undisturbed m m' := by
  unfold Monitoring.handle at h
  split at h
  · exact onDevice h
  · unfold Monitoring.onMessageReceived at h
    split at h
    · cases h
    next server sent _ =>
      cases h
      have hserver : Undisturbed m { m with server } := ⟨.refl _, .refl _, rfl, rfl, rfl, rfl⟩
      exact hserver.trans (sendMessages _ sent)
  next n => exact absurd rfl (hnew n)
  · cases h
    exact refl m

variable {S : PhaseSort} {I : Iteration}

/-- Every call but those that make or destroy a device. -/
theorem call (S : PhaseSort) (I : Iteration) (m : Monitoring) {call : MonitoringCall}
    (hnew : call ≠ .newDevice) (hdestroy : ∀ d, call ≠ .destroyDevice d) :
    Undisturbed m (m.call S I call) := by
  cases call with
  | newDevice => exact absurd rfl hnew
  | destroyDevice d => exact absurd rfl (hdestroy d)
  | bind d deviceId =>
      rw [Monitoring.call, bind_onClient I]
      exact onClient I m d (fun _ => rfl) fun _ => rfl
  | connectToServer d serverId =>
      rw [Monitoring.call, connectToServer_onClient I]
      exact onClient I m d (fun _ => rfl) fun _ => rfl
  | setMeterages d meterages => exact setDevice m d (·.setMeterages meterages)
  | startMeterageSending d =>
      simp only [Monitoring.call]
      split
      next m' hstart => exact onDevice hstart
      · exact refl m
  | selectDeviceExecutor d name =>
      exact setDevice m d fun mock => { mock with encoder := (mock.encoder.selectExecutor name).2 }
  | addDeviceExecutor d object =>
      exact setDevice m d fun mock => { mock with encoder := (mock.encoder.addExecutor object).2 }
  | disconnectDevice d => exact onClient I m d (fun _ => rfl) fun _ => rfl
  | disconnectConnection deviceId =>
      simp only [Monitoring.call]
      split
      · exact refl m
      next n _ => exact perform I m (.connectionDisconnect n) rfl rfl
  | disconnectServer => exact perform I m (.serverDisconnect m.connectionServer) rfl rfl
  | listen serverId => exact perform I m (.listen m.connectionServer serverId) rfl rfl
  | setDeviceWorkSchedule schedule => exact ⟨.refl _, .refl _, rfl, rfl, rfl, rfl⟩
  | deviationStats deviceId => exact ⟨.refl _, .refl _, rfl, rfl, rfl, rfl⟩
  | selectExecutor name => exact ⟨.refl _, .refl _, rfl, rfl, rfl, rfl⟩
  | addExecutor object => exact ⟨.refl _, .refl _, rfl, rfl, rfl, rfl⟩

end Undisturbed

/-! A task starts. -/

section Start
variable {m : Monitoring} {a : Ref} {channel : ConnectionChannel Handler Owner}

/-- The handlers of a connection know the identifier of its client. -/
theorem Placed.connection_kit (h : m.Placed) (hkit : m.world.Equipped none) {n b : Ref}
    (hb : m.world.connectionChannel n = some b) {conn : ConnectionMock Handler}
    (hn : m.world.connections.get n = some conn) :
    conn.messageHandler = some (.serverMessage (m.world.connectionPeerId n)) ∧
      conn.disconnectedHandler = some (.serverDisconnected (m.world.connectionPeerId n)) := by
  obtain ⟨_, _, -, hw⟩ := h.settled
  obtain ⟨k, hk⟩ := hkit.connections n conn.kit ((Heap.view_eq_some _ _).mpr ⟨conn, hn, rfl⟩) (by simp)
  obtain ⟨hmessage, hdisconnected⟩ := Prod.mk.inj hk
  obtain ⟨l, hl, haddress⟩ := h.attributed.connections n b _ hb
    (World.handlerOf_connection.mpr ⟨conn, hn, hmessage⟩)
  cases hl
  rw [World.address_of_connectionChannel hw.owned hb] at haddress
  cases haddress
  exact ⟨hmessage, hdisconnected⟩

/-- The message handler of a channel is the one of its device, or the server's for its client. -/
theorem Placed.addressee (h : m.Placed) (hkit : m.world.Equipped none)
    (hget : m.world.net.channels.get a = some channel)
    {handler : Handler} (hhandler : channel.messageHandler = some handler) :
    (∃ c, handler = .deviceMessage c ∧ (m.world.clientChannel c).isSome = true) ∨
      ∃ k, handler = .serverMessage k ∧ (m.world.connection 0 k).isSome = true := by
  obtain ⟨_, _, -, hw⟩ := id h.settled
  have hown := h.current a channel hget
  rw [hhandler, eq_comm] at hown
  cases howner : channel.disconnectedHandler with
  | none =>
      rw [howner] at hown
      cases hown
  | some owner =>
      rw [howner] at hown
      cases owner with
      | client c =>
          obtain ⟨client, hc, hmessage⟩ := World.handlerOf_client.mp hown
          have hclient := hkit.clients c client.kit ((Heap.view_eq_some _ _).mpr ⟨client, hc, rfl⟩)
          rw [ClientConnectionMock.kit, hmessage, Prod.mk.injEq] at hclient
          refine .inl ⟨c, Option.some.inj hclient.1, ?_⟩
          rw [World.clientChannel_of_owner hw.owned hget howner, Option.isSome_some]
      | connection n =>
          obtain ⟨conn, hn, hmessage⟩ := World.handlerOf_connection.mp hown
          have hb := World.connectionChannel_of_owner hw.owned hget howner
          obtain ⟨hserver, -⟩ := h.connection_kit hkit hb hn
          rw [hmessage] at hserver
          obtain ⟨hheld, -⟩ := World.connection_of_channel hw.owned hkit hb
          exact .inr ⟨_, Option.some.inj hserver, by rw [hheld, Option.isSome_some]⟩

theorem Placed.begun_sendMessage (h : m.Placed) (hkit : m.world.Equipped none)
    (hrun : m.world.running = none) {message : Bytes} {tasks : List (Task ConnectToServerTask)}
    (htasks : m.world.net.tasks = .sendMessage message a :: tasks) : World.Begun m.world m.world.start := by
  have hnothing : m.world.net.deliver (.sendMessage message a) = .nothing →
      World.Begun m.world m.world.start := by
    intro hdeliver
    rw [World.start_nothing hrun htasks hdeliver]
    exact .nothing hrun hkit (.of_eq rfl rfl rfl) (.of_eq rfl rfl) hrun
  cases hget : m.world.net.channels.get a with
  | none => exact hnothing (World.deliver_gone (.inr ⟨message, rfl⟩) hget)
  | some channel =>
      cases hhandler : channel.messageHandler with
      | none => exact hnothing (by rw [Net.deliver, hget, Option.bind_some, hhandler])
      | some handler =>
          have hdeliver : m.world.net.deliver (.sendMessage message a) = .message handler message := by
            rw [Net.deliver, hget, Option.bind_some, hhandler]
          rw [World.start_message hrun htasks hdeliver]
          rcases h.addressee hkit hget hhandler with ⟨c, rfl, hc⟩ | ⟨k, rfl, hk⟩
          · exact .calls hrun hkit (.of_eq rfl rfl rfl) (.of_eq rfl rfl) rfl (.deviceMessage hc) rfl rfl
          · exact .calls hrun hkit (.of_eq rfl rfl rfl) (.of_eq rfl rfl) rfl (.serverMessage hk) rfl rfl

theorem Placed.begun_disconnect (h : m.Placed) (hkit : m.world.Equipped none)
    (hrun : m.world.running = none) {tasks : List (Task ConnectToServerTask)}
    (htasks : m.world.net.tasks = .disconnect a :: tasks) : World.Begun m.world m.world.start := by
  obtain ⟨_, _, -, hw⟩ := id h.settled
  have hnothing : m.world.net.deliver (.disconnect a) = .nothing → World.Begun m.world m.world.start := by
    intro hdeliver
    rw [World.start_nothing hrun htasks hdeliver]
    exact .nothing hrun hkit (.of_eq rfl rfl rfl) (.of_eq rfl rfl) hrun
  cases hget : m.world.net.channels.get a with
  | none => exact hnothing (World.deliver_gone (.inl rfl) hget)
  | some channel =>
      cases howner : channel.disconnectedHandler with
      | none => exact hnothing (by rw [Net.deliver, hget, Option.bind_some, howner])
      | some owner =>
          have hdeliver := World.deliver_disconnect hget howner
          cases owner with
          | client c =>
              have ha := World.clientChannel_of_owner hw.owned hget howner
              obtain ⟨client, hc, -⟩ := Option.bind_eq_some_iff.mp ha
              have hclient := hkit.clients c client.kit ((Heap.view_eq_some _ _).mpr ⟨client, hc, rfl⟩)
              simp only [ClientConnectionMock.kit, Prod.mk.injEq] at hclient
              rw [World.start_client hrun htasks hdeliver]
              simp only [World.clientDisconnectedHandler, hc, Option.bind_some, hclient.2.2]
              exact .calls hrun hkit (.of_eq rfl rfl rfl) (.of_eq rfl rfl) rfl
                (.deviceDisconnected (Option.isSome_iff_exists.mpr ⟨a, ha⟩)) rfl rfl
          | connection n =>
              have hb := World.connectionChannel_of_owner hw.owned hget howner
              obtain ⟨conn, hn, -⟩ := Option.bind_eq_some_iff.mp hb
              obtain ⟨-, hdisconnected⟩ := h.connection_kit hkit hb hn
              obtain ⟨hheld, hserver⟩ := World.connection_of_channel hw.owned hkit hb
              rw [World.start_connection hrun htasks hdeliver]
              simp only [World.connectionDisconnectedHandler, hn, hdisconnected, hserver conn hn]
              exact .calls hrun hkit (.of_eq rfl rfl rfl) (.of_eq rfl rfl) rfl
                (.serverDisconnected hheld) rfl rfl

theorem Placed.begun (h : m.Placed) (hordered : m.world.Ordered) (hrun : m.world.running = none) :
    World.Begun m.world m.world.start := by
  have hkit := hordered.idle hrun
  cases htasks : m.world.net.tasks with
  | nil =>
      rw [World.start_idle hrun htasks]
      exact .nothing hrun hkit (.refl _) (.refl _) hrun
  | cons task tasks =>
      cases task with
      | sendMessage message a => exact h.begun_sendMessage hkit hrun htasks
      | disconnect a => exact h.begun_disconnect hkit hrun htasks
      | other request =>
          have hidle : m.world.Idle := ⟨hrun, h.settled⟩
          rw [World.start_other hrun htasks rfl]
          have hbegun := World.begun_connectToServer
            (w := { m.world with net := { m.world.net with tasks } }) hrun
            (hkit.same (.of_eq rfl rfl rfl))
            (World.consistent_popped hidle.consistent htasks none (by simp) (by simp)) request
          exact hbegun.after hrun hrun (.of_eq rfl rfl rfl) (.of_eq rfl rfl)

end Start
/-! A step of a session calls nobody, or it lets the handler that is running return. -/

/-- Nobody has been told anything. -/
structure Silent (m m' : Monitoring) : Prop where
  staffed : m'.Staffed
  device : ∀ d, ¬m'.Gone d → ¬m.Gone d ∧ m'.world.clientUp d = m.world.clientUp d
  server : m'.world.serverUp = m.world.serverUp

section Silent
variable {S : PhaseSort} {I : Iteration} {m m' : Monitoring}

theorem Staffed.after (h : m.Staffed) (hordered : m'.world.Ordered)
    (hclients : m.world.clients.Descends ClientConnectionMock.kit m'.world.clients)
    (hnext : m'.world.clients.next = m.world.clients.next)
    (howners : m'.devices.view Device.clientConnection = m.devices.view Device.clientConnection)
    (hdevices : m'.devices.next = m.devices.next)
    (hserver : m'.connectionServer = m.connectionServer) : m'.Staffed := by
  refine ⟨hordered, by rw [hnext, hdevices, h.next], ?_, ?_, hserver.trans h.server⟩
  · intro d device hget
    have howner : m'.devices.view Device.clientConnection d = some device.clientConnection :=
      (Heap.view_eq_some _ _).mpr ⟨device, hget, rfl⟩
    rw [howners] at howner
    obtain ⟨before, hbefore, hsame⟩ := (Heap.view_eq_some _ _).mp howner
    rw [← hsame, h.owns d before hbefore]
  · intro c client hc
    have hbefore := hclients c client.kit ((Heap.view_eq_some _ _).mpr ⟨client, hc, rfl⟩)
    obtain ⟨client', hc', -⟩ := (Heap.view_eq_some _ _).mp hbefore
    obtain ⟨device, hget⟩ := h.live c client' hc'
    have howner : m.devices.view Device.clientConnection c = some device.clientConnection :=
      (Heap.view_eq_some _ _).mpr ⟨device, hget, rfl⟩
    rw [← howners] at howner
    obtain ⟨device', hget', -⟩ := (Heap.view_eq_some _ _).mp howner
    exact ⟨device', hget'⟩

theorem gone_of_owners {d : Ref}
    (howners : m'.devices.view Device.clientConnection = m.devices.view Device.clientConnection)
    (hdevices : m'.devices.next = m.devices.next) (hgone : m.Gone d) : m'.Gone d := by
  refine ⟨hdevices ▸ hgone.1, ?_⟩
  have howner := congrFun howners d
  rw [Heap.view, Heap.view, hgone.2, Option.map_none, Option.map_eq_none_iff] at howner
  exact howner

theorem Undisturbed.silent (hcalled : Undisturbed m m') (h : m.Staffed) (hrun : m.world.running = none) :
    Silent m m' := by
  have hkit := h.ordered.idle hrun
  have hordered := (hkit.same hcalled.kits).ordered (hcalled.running.trans hrun)
  refine ⟨h.after hordered hcalled.kits.clients hcalled.kits.next hcalled.owners hcalled.next
    hcalled.server, fun d hd => ⟨fun hgone => hd ?_, ?_⟩, hcalled.ends.serverUp hcalled.running⟩
  · exact gone_of_owners hcalled.owners hcalled.next hgone
  · exact congrFun (hcalled.ends.clientUp hcalled.running) d

theorem Staffed.start (h : m.Staffed) (hplaced : m.Placed) :
    Silent m { m with world := m.world.start } := by
  cases hrun : m.world.running with
  | some running =>
      rw [World.start_busy hrun]
      exact ⟨h, fun d hd => ⟨hd, rfl⟩, rfl⟩
  | none =>
      have hbegun := hplaced.begun h.ordered hrun
      exact ⟨h.after hbegun.ordered hbegun.clients hbegun.next rfl rfl rfl,
        fun d hd => ⟨hd, congrFun hbegun.clientUp d⟩, hbegun.serverUp⟩

theorem newDevice_world (m : Monitoring) : m.newDevice.world = { m.world with
    clients := m.world.clients.alloc {
      messageHandler := some (.deviceMessage m.devices.next)
      connectedHandler := some (.deviceConnected m.devices.next)
      disconnectedHandler := some (.deviceDisconnected m.devices.next) } } := by
  simp [Monitoring.newDevice, World.setConnectedHandler, World.clientSetDisconnectedHandler,
    World.clientSetMessageHandler, World.clientChannel]

theorem Staffed.newDevice (h : m.Staffed) (hrun : m.world.running = none) : Silent m m.newDevice := by
  have hkit := h.ordered.idle hrun
  have hworld := newDevice_world m
  have hrun' : m.newDevice.world.running = none := by rw [hworld, hrun]
  have hdevices : m.newDevice.devices =
      m.devices.alloc { clientConnection := m.world.clients.next } := rfl
  have hequipped : m.newDevice.world.Equipped none := by
    rw [hworld]
    refine ⟨?_, hkit.servers, hkit.connections⟩
    intro c kit hc
    obtain ⟨client, hget, rfl⟩ := (Heap.view_eq_some _ _).mp hc
    rcases Heap.get_alloc_eq_some.mp hget with ⟨rfl, rfl⟩ | hold
    · rw [h.next]
      rfl
    · exact hkit.clients c client.kit ((Heap.view_eq_some _ _).mpr ⟨client, hold, rfl⟩)
  refine ⟨⟨hequipped.ordered hrun', ?_, ?_, ?_, h.server⟩, ?_, ?_⟩
  · rw [hworld, hdevices, Heap.next_alloc, Heap.next_alloc, h.next]
  · intro d device hget
    rw [hdevices] at hget
    rcases Heap.get_alloc_eq_some.mp hget with ⟨rfl, rfl⟩ | hold
    · exact h.next
    · exact h.owns d device hold
  · intro c client hget
    rw [hworld] at hget
    rw [hdevices]
    rcases Heap.get_alloc_eq_some.mp hget with ⟨rfl, -⟩ | hold
    · rw [h.next]
      exact ⟨_, Heap.get_alloc_next _ _⟩
    · obtain ⟨device, hdevice⟩ := h.live c client hold
      exact ⟨device, Heap.get_alloc_eq_some.mpr (.inr hdevice)⟩
  · intro d hd
    refine ⟨fun hgone => hd ⟨Nat.lt_succ_of_lt hgone.1, ?_⟩, ?_⟩
    · rw [hdevices, Heap.get_alloc_of_ne _ _ (Nat.ne_of_lt hgone.1), hgone.2]
    · rw [World.clientUp_of_none hrun', World.clientUp_of_none hrun, hworld]
      simp only [World.clientChannel]
      by_cases hnew : d = m.world.clients.next
      · rw [hnew, Heap.get_alloc_next, m.world.clients.get_of_next_le (Nat.le_refl _)]
        rfl
      · rw [Heap.get_alloc_of_ne _ _ hnew]
  · funext s k
    rw [World.serverUp_of_none hrun', World.serverUp_of_none hrun, hworld]
    rfl

theorem Staffed.destroyDevice (h : m.Staffed) (hrun : m.world.running = none) (d : Ref) :
    Silent m (m.call S I (.destroyDevice d)) := by
  have hkit := h.ordered.idle hrun
  cases hget : m.devices.get d with
  | none =>
      have hsame : m.call S I (.destroyDevice d) = m := by
        simp only [Monitoring.call, Monitoring.onClient, hget, Heap.free_of_none hget]
      rw [hsame]
      exact (Undisturbed.refl m).silent h hrun
  | some device =>
      have hcall : m.call S I (.destroyDevice d) =
          { m with world := m.world.destroyClient d, devices := m.devices.free d } := by
        simp only [Monitoring.call, Monitoring.onClient, hget, h.owns d device hget, World.perform]
      have hrun' : (m.world.destroyClient d).running = none :=
        (World.running_perform I m.world (.destroyClient d)).trans hrun
      have hinstalls : (Call.destroyClient d : Call Handler).installs = false := rfl
      have hkits := World.SameKits.perform I m.world hinstalls
      have hclients : ∀ c, c ≠ d → (m.world.destroyClient d).clients.get c = m.world.clients.get c := by
        intro c hc
        unfold World.destroyClient
        split
        · rfl
        · exact Heap.get_free_of_ne _ hc
      have hfreed : (m.world.destroyClient d).clients.get d = none := by
        unfold World.destroyClient
        split
        next hnone => exact hnone
        · exact Heap.get_free_self _ _
      have hconnection : (m.world.destroyClient d).connection = m.world.connection := by
        unfold World.destroyClient
        split <;> rfl
      rw [hcall]
      refine ⟨⟨(hkit.same hkits).ordered hrun', hkits.next.trans h.next, ?_, ?_, h.server⟩, ?_, ?_⟩
      · exact fun e other hother => h.owns e other (Heap.get_free_eq_some.mp hother).2
      · intro c client hc
        have hne : c ≠ d := by
          rintro rfl
          rw [hfreed] at hc
          cases hc
        rw [hclients c hne] at hc
        obtain ⟨other, hother⟩ := h.live c client hc
        exact ⟨other, Heap.get_free_eq_some.mpr ⟨hne, hother⟩⟩
      · intro e he
        have hne : e ≠ d := by
          rintro rfl
          have hlt : e < m.devices.next := Heap.lt_next hget
          exact he ⟨hlt, Heap.get_free_self _ _⟩
        refine ⟨fun hgone => he ⟨hgone.1, ?_⟩, ?_⟩
        · exact (Heap.get_free_of_ne _ hne).trans hgone.2
        · rw [World.clientUp_of_none hrun', World.clientUp_of_none hrun, World.clientChannel,
            World.clientChannel, hclients e hne]
      · funext s k
        rw [World.serverUp_of_none hrun', World.serverUp_of_none hrun, hconnection]

theorem Staffed.call (h : m.Staffed) (hrun : m.world.running = none) (call : MonitoringCall) :
    Silent m (m.call S I call) := by
  by_cases hnew : call = .newDevice
  · rw [hnew]
    exact h.newDevice hrun
  · by_cases hdestroy : ∃ d, call = .destroyDevice d
    · obtain ⟨d, rfl⟩ := hdestroy
      exact h.destroyDevice hrun d
    · exact (Undisturbed.call S I m hnew fun d hd => hdestroy ⟨d, hd⟩).silent h hrun

end Silent
end Monitoring
end DeviceMonitoring
