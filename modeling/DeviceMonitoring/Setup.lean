import DeviceMonitoring.ConnectionTasks
import DeviceMonitoring.Interleaving

/-! How the devices come to be ready: each is made, bound and connected, one after the other. -/
namespace DeviceMonitoring
namespace Monitoring

/-- A device with a new client connection, connected to the server. -/
def connectDevice (m : Monitoring) (deviceId serverId : UInt64) (executor : String)
    (meterages : List UInt8) : Except Fault Monitoring :=
  let d := m.devices.next
  let m := m.newDevice
  let encoder := (({} : DeviceMock).encoder.selectExecutor executor).2
  let m := { m with
    devices := m.devices.modify d (·.setMock (DeviceMock.setMeterages { encoder } meterages)) }
  let m := (m.bind d deviceId).2
  (m.connectToServer d serverId).2.processTask

def newClient (m : Monitoring) (deviceId : UInt64) : ClientConnectionMock Handler :=
  { clientId := deviceId
    messageHandler := some (.deviceMessage m.devices.next)
    disconnectedHandler := some (.deviceDisconnected m.devices.next)
    connectedHandler := some (.deviceConnected m.devices.next) }

/-- The new device is bound, and waits to be connected. -/
def bound (m : Monitoring) (deviceId serverId : UInt64) : World Handler :=
  { m.world with
    net := { m.world.net with tasks := [] }
    clients := m.world.clients.alloc (m.newClient deviceId)
    clientsMap := Function.update (Function.update m.world.clientsMap 0 none) deviceId
      (some m.world.clients.next)
    requests := m.world.requests ++ [(m.world.clients.next, serverId)] }

/-- The server is told of the new device. -/
def introduced (m : Monitoring) (deviceId serverId : UInt64) : World Handler :=
  { (m.bound deviceId serverId).opened m.connectionServer ⟨deviceId, serverId⟩ with
    servers := m.world.servers.modify m.connectionServer fun server =>
      { server with connections := server.connections.insert deviceId m.world.connections.next }
    running := some (.newConnection .newConnection m.world.connections.next,
      .connecting (m.world.net.channels.next + 1) m.world.clients.next m.connectionServer) }

def accepted (m : Monitoring) (deviceId serverId : UInt64) : World Handler :=
  { m.introduced deviceId serverId with
    net := {
      channels := (m.world.net.channels.alloc
        { peerId := deviceId
          messageHandler := some (.serverMessage deviceId)
          disconnectedHandler := some (.connection m.world.connections.next)
          peerChannel := some (m.world.net.channels.next + 1)
          connected := true }).alloc
        { peerId := serverId
          peerChannel := some m.world.net.channels.next
          connected := true } }
    connections := m.world.connections.alloc
      { server := m.connectionServer
        channel := some m.world.net.channels.next
        messageHandler := some (.serverMessage deviceId)
        disconnectedHandler := some (.serverDisconnected deviceId) } }

/-- The new device is connected. -/
def connected (m : Monitoring) (deviceId serverId : UInt64) : World Handler :=
  { m.accepted deviceId serverId with
    net := {
      channels := (m.world.net.channels.alloc
        { peerId := deviceId
          messageHandler := some (.serverMessage deviceId)
          disconnectedHandler := some (.connection m.world.connections.next)
          peerChannel := some (m.world.net.channels.next + 1)
          connected := true }).alloc
        { peerId := serverId
          messageHandler := some (.deviceMessage m.devices.next)
          disconnectedHandler := some (.client m.world.clients.next)
          peerChannel := some m.world.net.channels.next
          connected := true } }
    clients := m.world.clients.alloc
      { m.newClient deviceId with channel := some (m.world.net.channels.next + 1) }
    running := none }

/-- The server listens, and the devices that there are have no other identifiers than these. -/
structure Listening (m : Monitoring) (serverId : UInt64) (taken : List UInt64) : Prop where
  server : ∃ server, m.world.servers.get m.connectionServer = some server ∧
    server.newConnectionHandler = some .newConnection
  listens : m.world.serversMap serverId = some m.connectionServer
  free : ∀ deviceId, deviceId ∉ taken → m.world.clientsMap deviceId = none ∧
    m.world.connection m.connectionServer deviceId = none
  taken : ∀ d device, m.devices.get d = some device → m.deviceId device ∈ taken

section
variable {m : Monitoring} {deviceId serverId : UInt64} {taken : List UInt64}

/-- Up to the task: the device is bound, and its request is in the queue. -/
theorem connectDevice_requested (htasks : m.world.net.tasks = []) (hserverId : serverId ≠ 0)
    (hdeviceId : deviceId ≠ 0) (hfree : m.world.clientsMap deviceId = none) (executor : String)
    (meterages : List UInt8) :
    m.connectDevice deviceId serverId executor meterages =
      ({ m with
        world := (m.bound deviceId serverId).withTasks [.other ⟨deviceId, serverId⟩]
        devices := m.devices.alloc (Device.setMock { clientConnection := m.world.clients.next }
          (DeviceMock.setMeterages
            { encoder := (({} : DeviceMock).encoder.selectExecutor executor).2 } meterages)) } :
        Monitoring).processTask := by
  simp only [connectDevice, newDevice, bind, connectToServer, World.setConnectedHandler,
    World.clientSetDisconnectedHandler, World.clientSetMessageHandler, World.clientChannel,
    Heap.modify_alloc, Heap.get_alloc_next, Option.bind_some]
  simp [Device.setMock, World.bind, World.connectToHost, Net.scheduleTask, bound,
    World.withTasks, newClient, hfree, hdeviceId, hserverId, htasks]

theorem start_requested (hidle : m.world.running = none) (h : m.Listening serverId taken)
    (hfree : deviceId ∉ taken) :
    ((m.bound deviceId serverId).withTasks [.other ⟨deviceId, serverId⟩]).start =
      m.introduced deviceId serverId := by
  obtain ⟨server, hserver, hhandler⟩ := h.server
  rw [World.start_other (w := (m.bound deviceId serverId).withTasks _) hidle rfl rfl]
  change (m.bound deviceId serverId).connectToServer ⟨deviceId, serverId⟩ = _
  rw [World.connectToServer_eq _ h.listens (Function.update_self ..)]
  simp only
  rw [World.addConnection_free (w := m.bound deviceId serverId) ⟨deviceId, serverId⟩ _ hserver
    (h.free deviceId hfree).2, hhandler]
  rfl

/-- The server's handler gives the connection its handlers, and so the server's channel. -/
theorem onNewIncomingConnection_introduced (m : Monitoring) (deviceId serverId : UInt64)
    (devices : Heap Device) :
    ({ m with world := m.introduced deviceId serverId, devices } :
      Monitoring).onNewIncomingConnection m.world.connections.next =
        { m with world := m.accepted deviceId serverId, devices } := by
  have hpeer : (m.introduced deviceId serverId).connectionPeerId m.world.connections.next =
      deviceId := World.connectionPeerId_opened _ _ _
  unfold onNewIncomingConnection
  rw [hpeer]
  simp only [introduced, accepted, World.connectionSetMessageHandler, World.connectionChannel,
    World.connectionSetDisconnectedHandler, World.opened, bound, Heap.modify_alloc,
    Heap.get_alloc_next, Option.bind_some, Net.setMessageHandler, Heap.modify_alloc_alloc]

/-- The client takes the other channel, and is told. -/
theorem resume_accepted (m : Monitoring) (deviceId serverId : UInt64) :
    (m.accepted deviceId serverId).resume = { m.connected deviceId serverId with
      running := some (.connected (.deviceConnected m.devices.next), .notified m.world.clients.next) } := by
  have hclient : (m.accepted deviceId serverId).clients.get m.world.clients.next =
      some (m.newClient deviceId) := Heap.get_alloc_next ..
  have hchannel : ∀ b q : ConnectionChannel Handler Owner, ∀ f,
      ((m.world.net.channels.alloc b).alloc q).modify (m.world.net.channels.next + 1) f =
        (m.world.net.channels.alloc b).alloc (f q) :=
    fun b q f => Heap.modify_alloc (m.world.net.channels.alloc b) q f
  have hrunning : (m.accepted deviceId serverId).running =
      some (.newConnection .newConnection m.world.connections.next,
        .connecting (m.world.net.channels.next + 1) m.world.clients.next m.connectionServer) := rfl
  unfold World.resume World.clientSetChannel
  rw [hrunning]
  simp only [hclient]
  simp only [newClient, accepted, connected, introduced, bound, World.opened, Heap.modify_alloc,
    Net.setMessageHandler, Net.setDisconnectedHandler, hchannel, Option.map_some]

/-- The whole task, with its two handlers. -/
theorem processTask_requested (hidle : m.world.running = none) (h : m.Listening serverId taken)
    (hfree : deviceId ∉ taken) (devices : Heap Device) :
    ({ m with
      world := (m.bound deviceId serverId).withTasks [.other ⟨deviceId, serverId⟩]
      devices } : Monitoring).processTask =
        .ok { m with world := m.connected deviceId serverId, devices } := by
  unfold processTask
  rw [start_requested hidle h hfree]
  change (Except.ok _ >>= _) = _
  simp only [m.onNewIncomingConnection_introduced deviceId serverId devices]
  change handlers 1 { m with world := (m.accepted deviceId serverId).resume, devices } = _
  rw [resume_accepted]
  rfl

/-! What was there stays as it was. -/

theorem get_channel_connected {r : Ref} (hr : r < m.world.net.channels.next) :
    (m.connected deviceId serverId).net.channels.get r = m.world.net.channels.get r :=
  (Heap.get_alloc_of_ne _ _ (Nat.ne_of_lt (Nat.lt_succ_of_lt hr))).trans
    (Heap.get_alloc_of_ne _ _ (Nat.ne_of_lt hr))

theorem connection_connected (m : Monitoring) (deviceId serverId : UInt64)
    {server : ConnectionServerMock Handler}
    (hserver : m.world.servers.get m.connectionServer = some server) (id : UInt64) :
    (m.connected deviceId serverId).connection m.connectionServer id =
      if id = deviceId then some m.world.connections.next
      else m.world.connection m.connectionServer id := by
  rw [World.connection_insert m.world (m.connected deviceId serverId) hserver rfl]
  simp only [true_and]

theorem get_client_connected {c : Ref} (hc : c < m.world.clients.next) :
    (m.connected deviceId serverId).clients.get c = m.world.clients.get c :=
  Heap.get_alloc_of_ne _ _ (Nat.ne_of_lt hc)

theorem connectionChannel_connected {n : Ref} (hn : n < m.world.connections.next) :
    (m.connected deviceId serverId).connectionChannel n = m.world.connectionChannel n := by
  unfold World.connectionChannel
  rw [show (m.connected deviceId serverId).connections.get n = m.world.connections.get n from
    Heap.get_alloc_of_ne _ _ (Nat.ne_of_lt hn)]

def enrolled (m : Monitoring) (deviceId serverId : UInt64) (mock : DeviceMock) : Monitoring :=
  { m with
    world := m.connected deviceId serverId
    devices := m.devices.alloc { mock with clientConnection := m.world.clients.next } }

variable {mock : DeviceMock} {d : Ref} {device : Device} {a b : Ref}

theorem get_enrolled (hget : (m.enrolled deviceId serverId mock).devices.get d = some device) :
    (d = m.devices.next ∧ device = { mock with clientConnection := m.world.clients.next }) ∨
      m.devices.get d = some device := by
  rcases Heap.get_alloc_eq_some.mp hget with ⟨rfl, rfl⟩ | hold
  · exact .inl ⟨rfl, rfl⟩
  · exact .inr hold

theorem deviceId_enrolled_new : (m.enrolled deviceId serverId mock).deviceId
    { mock with clientConnection := m.world.clients.next } = deviceId := by
  unfold Monitoring.deviceId
  rw [show (m.enrolled deviceId serverId mock).world.clients = m.world.clients.alloc _ from rfl,
    Heap.get_alloc_next]
  rfl

/-- The new device is on a line of its own. -/
theorem line_enrolled_new (h : m.Listening serverId taken) :
    (m.enrolled deviceId serverId mock).Line m.devices.next
      { mock with clientConnection := m.world.clients.next }
      (m.world.net.channels.next + 1) m.world.net.channels.next := by
  obtain ⟨server, hserver, -⟩ := h.server
  have hleft : (m.connected deviceId serverId).net.channels.get (m.world.net.channels.next + 1) =
      some _ := Heap.get_alloc_next ..
  have hright : (m.connected deviceId serverId).net.channels.get m.world.net.channels.next =
      some _ := (Heap.get_alloc_of_ne _ _ (Nat.ne_of_lt (Nat.lt_succ_self _))).trans
        (Heap.get_alloc_next ..)
  have hclient : (m.connected deviceId serverId).clients.get m.world.clients.next = some _ :=
    Heap.get_alloc_next ..
  have hconnection : (m.connected deviceId serverId).connections.get m.world.connections.next =
      some _ := Heap.get_alloc_next ..
  constructor
  · change (m.connected deviceId serverId).clientChannel _ = _
    unfold World.clientChannel
    rw [hclient]
    rfl
  · unfold serverChannel
    rw [deviceId_enrolled_new]
    change ((m.connected deviceId serverId).connection m.connectionServer deviceId).bind
      (m.connected deviceId serverId).connectionChannel = _
    rw [connection_connected m deviceId serverId hserver, if_pos rfl, Option.bind_some]
    unfold World.connectionChannel
    rw [hconnection]
    rfl
  · exact ⟨Nat.succ_ne_self _, ⟨_, hleft, rfl, rfl⟩, ⟨_, hright, rfl, rfl⟩⟩
  · change ((m.connected deviceId serverId).net.channels.get _).bind _ = _
    rw [hleft]
    rfl
  · rw [deviceId_enrolled_new]
    change ((m.connected deviceId serverId).net.channels.get _).bind _ = _
    rw [hright]
    rfl

theorem clientConnection_lt_next (hchannel : m.deviceChannel device = some a) :
    device.clientConnection < m.world.clients.next := by
  obtain ⟨client, hclient, -⟩ := Option.bind_eq_some_iff.mp hchannel
  exact Heap.lt_next hclient

theorem deviceId_enrolled_of_lt (hlt : device.clientConnection < m.world.clients.next) :
    (m.enrolled deviceId serverId mock).deviceId device = m.deviceId device := by
  unfold Monitoring.deviceId
  rw [show (m.enrolled deviceId serverId mock).world = m.connected deviceId serverId from rfl,
    get_client_connected hlt]

theorem line_enrolled (h : m.Listening serverId taken) (hline : m.Line d device a b)
    (hne : m.deviceId device ≠ deviceId) :
    (m.enrolled deviceId serverId mock).Line d device a b := by
  obtain ⟨server, hserver, -⟩ := h.server
  obtain ⟨⟨p, hp, -⟩, ⟨q, hq, -⟩⟩ := And.intro hline.joined.left hline.joined.right
  have hleft : (m.connected deviceId serverId).net.channels.get a = m.world.net.channels.get a :=
    get_channel_connected (Heap.lt_next hp)
  have hright : (m.connected deviceId serverId).net.channels.get b = m.world.net.channels.get b :=
    get_channel_connected (Heap.lt_next hq)
  have hlt := clientConnection_lt_next hline.deviceChannel
  have hid : (m.enrolled deviceId serverId mock).deviceId device = m.deviceId device :=
    deviceId_enrolled_of_lt hlt
  obtain ⟨n, hn, hb⟩ := Option.bind_eq_some_iff.mp hline.serverChannel
  obtain ⟨conn, hconn, -⟩ := Option.bind_eq_some_iff.mp hb
  constructor
  · change (m.connected deviceId serverId).clientChannel _ = _
    unfold World.clientChannel
    rw [get_client_connected hlt]
    exact hline.deviceChannel
  · unfold serverChannel
    rw [hid]
    change ((m.connected deviceId serverId).connection m.connectionServer _).bind
      (m.connected deviceId serverId).connectionChannel = _
    rw [connection_connected m deviceId serverId hserver, if_neg hne, hn, Option.bind_some,
      connectionChannel_connected (Heap.lt_next hconn)]
    exact hb
  · obtain ⟨hab, ⟨p, hp, hpeer⟩, ⟨q, hq, hpeer'⟩⟩ := hline.joined
    exact ⟨hab, ⟨p, hleft.trans hp, hpeer⟩, ⟨q, hright.trans hq, hpeer'⟩⟩
  · change ((m.connected deviceId serverId).net.channels.get _).bind _ = _
    rw [hleft]
    exact hline.deviceHandler
  · rw [hid]
    change ((m.connected deviceId serverId).net.channels.get _).bind _ = _
    rw [hright]
    exact hline.serverHandler

theorem listening_enrolled (h : m.Listening serverId taken)
    (hlines : ∀ d device, m.devices.get d = some device → ∃ a b, m.Line d device a b) :
    (m.enrolled deviceId serverId mock).Listening serverId (deviceId :: taken) where
  server := by
    obtain ⟨server, hserver, hhandler⟩ := h.server
    refine ⟨_, (Heap.get_modify_self ..).trans (congrArg (Option.map _) hserver), hhandler⟩
  listens := h.listens
  free := by
    intro id hid
    rw [List.mem_cons, not_or] at hid
    obtain ⟨hne, hid⟩ := hid
    obtain ⟨server, hserver, -⟩ := h.server
    obtain ⟨hclient, hconnection⟩ := h.free id hid
    constructor
    · change Function.update (Function.update m.world.clientsMap 0 none) deviceId _ id = none
      rw [Function.update_of_ne hne, Function.update_apply, hclient, ite_self]
    · change (m.connected deviceId serverId).connection m.connectionServer id = none
      rw [connection_connected m deviceId serverId hserver, if_neg hne, hconnection]
  taken := by
    intro d device hget
    rcases get_enrolled hget with ⟨rfl, rfl⟩ | hget
    · rw [deviceId_enrolled_new]
      exact List.mem_cons_self
    · obtain ⟨a, b, hline⟩ := hlines d device hget
      rw [deviceId_enrolled_of_lt (clientConnection_lt_next hline.deviceChannel)]
      exact List.mem_cons_of_mem _ (h.taken d device hget)

variable {S : PhaseSort} {A : Algorithm} {past : History}

/-- A new device joins those that are ready. -/
theorem ready_enrolled (hready : m.Ready S A past) (h : m.Listening serverId taken)
    (hfree : deviceId ∉ taken) (hfresh : Fresh A { mock with clientConnection := m.world.clients.next })
    (hunheard : ∀ meterage, .processMeterage deviceId meterage ∉ past) :
    (m.enrolled deviceId serverId mock).Ready S A past := by
  have hold : ∀ d device, m.devices.get d = some device →
      m.deviceId device ≠ deviceId ∧
        (m.enrolled deviceId serverId mock).deviceId device = m.deviceId device := by
    intro d device hget
    obtain ⟨a, b, hline⟩ := hready.connected d device hget
    refine ⟨?_, deviceId_enrolled_of_lt (clientConnection_lt_next hline.deviceChannel)⟩
    rintro rfl
    exact hfree (h.taken d device hget)
  refine ⟨rfl, rfl, hready.center, hready.executor, ?_, ?_, ?_, ?_⟩
  · intro d device hget
    rcases get_enrolled hget with ⟨rfl, rfl⟩ | hget
    · exact ⟨_, _, line_enrolled_new h⟩
    · obtain ⟨a, b, hline⟩ := hready.connected d device hget
      exact ⟨a, b, line_enrolled h hline (hold d device hget).1⟩
  · intro d device hget
    rcases get_enrolled hget with ⟨rfl, rfl⟩ | hget
    · exact hfresh
    · exact hready.fresh d device hget
  · intro d e device other hget hother hid
    rcases get_enrolled hget with ⟨rfl, rfl⟩ | hget <;>
      rcases get_enrolled hother with ⟨rfl, rfl⟩ | hother
    · rfl
    · rw [deviceId_enrolled_new, (hold e other hother).2] at hid
      exact absurd hid.symm (hold e other hother).1
    · rw [deviceId_enrolled_new, (hold d device hget).2] at hid
      exact absurd hid (hold d device hget).1
    · rw [(hold d device hget).2, (hold e other hother).2] at hid
      exact hready.distinct d e device other hget hother hid
  · intro d device hget
    rcases get_enrolled hget with ⟨rfl, rfl⟩ | hget
    · rw [deviceId_enrolled_new]
      exact hunheard
    · rw [(hold d device hget).2]
      exact hready.unheard d device hget

def newMock (executor : String) (meterages : List UInt8) : DeviceMock :=
  DeviceMock.setMeterages { encoder := (({} : DeviceMock).encoder.selectExecutor executor).2 }
    meterages

theorem connectDevice_eq (hready : m.Ready S A past) (h : m.Listening serverId taken)
    (hserverId : serverId ≠ 0) (hdeviceId : deviceId ≠ 0) (hfree : deviceId ∉ taken)
    (executor : String) (meterages : List UInt8) :
    m.connectDevice deviceId serverId executor meterages =
      .ok (m.enrolled deviceId serverId (newMock executor meterages)) := by
  rw [connectDevice_requested hready.tasks hserverId hdeviceId (h.free deviceId hfree).1,
    processTask_requested hready.idle h hfree]
  rfl

def connectDevices (serverId : UInt64) (executor : String) :
    Monitoring → List (UInt64 × List UInt8) → Except Fault Monitoring
  | m, [] => .ok m
  | m, (deviceId, meterages) :: fleet => do
      let m ← m.connectDevice deviceId serverId executor meterages
      connectDevices serverId executor m fleet

/-- A device that can be connected to a server whose command centre has heard of others. -/
structure Admissible (past : History) (taken : List UInt64) (new : UInt64 × List UInt8) : Prop where
  deviceId : new.1 ≠ 0
  free : new.1 ∉ taken
  length : new.2.length < 2 ^ 64
  unheard : ∀ meterage, .processMeterage new.1 meterage ∉ past

/-- Connected one after the other, the devices are ready, each with its meterages. -/
theorem connectDevices_ready {executor : String} (hserverId : serverId ≠ 0)
    (hexecutor : (newMock executor []).encoder.selected = some A.executor)
    (fleet : List (UInt64 × List UInt8)) (hready : m.Ready S A past)
    (h : m.Listening serverId taken) (hdistinct : (fleet.map Prod.fst).Nodup)
    (hfleet : ∀ new ∈ fleet, Admissible past taken new) :
    ∃ m', connectDevices serverId executor m fleet = .ok m' ∧ m'.Ready S A past ∧
      m'.server = m.server ∧
      (∀ d device, m.devices.get d = some device →
        m'.devices.get d = some device ∧ m'.deviceId device = m.deviceId device) ∧
      ∀ new ∈ fleet, ∃ d device, m'.devices.get d = some device ∧ m'.deviceId device = new.1 ∧
        device.meterages = new.2 := by
  induction fleet generalizing m taken with
  | nil => exact ⟨m, rfl, hready, rfl, fun _ _ hget => ⟨hget, rfl⟩, by simp⟩
  | cons new fleet ih =>
      obtain ⟨deviceId, meterages⟩ := new
      obtain ⟨hnew, hfleet⟩ := List.forall_mem_cons.mp hfleet
      rw [List.map_cons, List.nodup_cons] at hdistinct
      obtain ⟨hfirst, hdistinct⟩ := hdistinct
      have hready' : (m.enrolled deviceId serverId (newMock executor meterages)).Ready S A past :=
        ready_enrolled hready h hnew.free ⟨hexecutor, rfl, rfl, hnew.length⟩ hnew.unheard
      have hadmissible : ∀ new ∈ fleet, Admissible past (deviceId :: taken) new := by
        intro new hmem
        obtain ⟨hzero, hfree, hlength, hunheard⟩ := hfleet new hmem
        refine ⟨hzero, ?_, hlength, hunheard⟩
        rw [List.mem_cons, not_or]
        refine ⟨?_, hfree⟩
        intro heq
        have hmem' := List.mem_map_of_mem (f := Prod.fst) hmem
        rw [heq] at hmem'
        exact hfirst hmem'
      obtain ⟨m', hm', hready', hserver, hkept, hmade⟩ := ih hready'
        (listening_enrolled h hready.connected) hdistinct hadmissible
      refine ⟨m', ?_, hready', hserver, ?_, ?_⟩
      · rw [connectDevices, connectDevice_eq hready h hserverId hnew.deviceId hnew.free]
        exact hm'
      · intro d device hget
        obtain ⟨a, b, hline⟩ := hready.connected d device hget
        obtain ⟨hget', hid⟩ := hkept d device
          ((Heap.get_alloc_of_ne _ _ (Nat.ne_of_lt (Heap.lt_next hget))).trans hget)
        exact ⟨hget', hid.trans
          (deviceId_enrolled_of_lt (clientConnection_lt_next hline.deviceChannel))⟩
      · rw [List.forall_mem_cons]
        obtain ⟨hget, hid⟩ := hkept m.devices.next _ (Heap.get_alloc_next ..)
        exact ⟨⟨_, _, hget, hid.trans deviceId_enrolled_new, rfl⟩, hmade⟩

end

def listeningServer (serverId : UInt64) (executor : String) : Monitoring :=
  let m := (create.listen serverId).2
  { m with server := { m.server with encoder := (m.server.encoder.selectExecutor executor).2 } }

def setSchedules (S : PhaseSort) (m : Monitoring) (schedules : List DeviceWorkSchedule) :
    Monitoring :=
  { m with server := schedules.foldl (DeviceMonitoringServer.setDeviceWorkSchedule S) m.server }

section
variable {S : PhaseSort} {A : Algorithm} {past : History} {m : Monitoring} {serverId : UInt64}

theorem world_listeningServer (hserverId : serverId ≠ 0) (executor : String) :
    (listeningServer serverId executor).world =
      { servers := ({} : Heap _).alloc { serverId, newConnectionHandler := some .newConnection }
        serversMap := Function.update (fun _ => none) serverId (some 0) } := by
  have hserver : create.world.servers =
      ({} : Heap _).alloc { newConnectionHandler := some .newConnection } :=
    Heap.modify_alloc ({} : Heap _) _ _
  have hnamed := Heap.modify_alloc ({} : Heap (ConnectionServerMock Handler))
    { newConnectionHandler := some .newConnection } fun server => { server with serverId }
  change (create.world.listen 0 serverId).2 = _
  have hfree : ((create.world.serversMap serverId).isSome || (0 : UInt64) != 0 || serverId == 0) =
      false := by
    rw [beq_eq_false_iff_ne.mpr hserverId]
    rfl
  have hget : create.world.servers.get 0 = some { newConnectionHandler := some .newConnection } :=
    (congrArg (fun servers : Heap _ => servers.get 0) hserver).trans rfl
  unfold World.listen
  rw [hget]
  simp only [hfree, Bool.false_eq_true, if_false]
  rw [hserver]
  exact congrArg (fun servers => ({
    servers, serversMap := Function.update (fun _ => none) serverId (some 0) } : World Handler)) hnamed

theorem listening_listeningServer (hserverId : serverId ≠ 0) (executor : String) :
    (listeningServer serverId executor).Listening serverId [] := by
  have hworld := world_listeningServer hserverId executor
  refine ⟨⟨{ serverId, newConnectionHandler := some .newConnection }, ?_, rfl⟩, ?_, ?_, ?_⟩
  · rw [hworld]
    rfl
  · rw [hworld]
    exact Function.update_self serverId (some 0) fun _ => none
  · intro deviceId _
    rw [hworld]
    exact ⟨rfl, rfl⟩
  · intro d device hget
    cases hget

theorem ready_listeningServer {executor : String} (hserverId : serverId ≠ 0)
    (hexecutor : (newMock executor []).encoder.selected = some A.executor) :
    (listeningServer serverId executor).Ready S A [] := by
  have hworld := world_listeningServer hserverId executor
  refine ⟨?_, ?_, rfl, hexecutor, ?_, ?_, ?_, ?_⟩
  · rw [hworld]
  · rw [hworld]
  · intro d device hget
    cases hget
  · intro d device hget
    cases hget
  · intro d e device other hget
    cases hget
  · intro d device hget
    cases hget

theorem ready_setSchedule (hready : m.Ready S A past) (schedule : DeviceWorkSchedule) :
    (m.setSchedules S [schedule]).Ready S A (.setSchedule schedule :: past) where
  idle := hready.idle
  tasks := hready.tasks
  center := by
    change (CommandCenter.after S past).bind _ = _
    rw [hready.center]
    rfl
  executor := hready.executor
  connected := by
    intro d device hget
    obtain ⟨a, b, hline⟩ := hready.connected d device hget
    exact ⟨a, b, hline.deviceChannel, hline.serverChannel, hline.joined, hline.deviceHandler,
      hline.serverHandler⟩
  fresh := hready.fresh
  distinct := hready.distinct
  unheard := by
    intro d device hget meterage hmem
    exact hready.unheard d device hget meterage ((List.mem_cons.mp hmem).resolve_left nofun)

theorem ready_setSchedules (hready : m.Ready S A past) (schedules : List DeviceWorkSchedule) :
    (m.setSchedules S schedules).Ready S A
      ((schedules.map .setSchedule).reverse ++ past) := by
  induction schedules generalizing m past with
  | nil => exact hready
  | cons schedule schedules ih =>
      rw [List.map_cons, List.reverse_cons, List.append_assoc]
      exact ih (ready_setSchedule hready schedule)

/-- However many devices, with identifiers of their own: connected to a server that listens
and given their schedules, they are ready. -/
theorem devices_ready (S : PhaseSort) {executor : String} (hserverId : serverId ≠ 0)
    (hexecutor : (newMock executor []).encoder.selected = some A.executor)
    {fleet : List (UInt64 × List UInt8)} (hdistinct : (fleet.map Prod.fst).Nodup)
    (hfleet : ∀ new ∈ fleet, new.1 ≠ 0 ∧ new.2.length < 2 ^ 64)
    (schedules : List DeviceWorkSchedule) :
    ∃ m, connectDevices serverId executor (listeningServer serverId executor) fleet = .ok m ∧
      (m.setSchedules S schedules).Ready S A (schedules.map .setSchedule).reverse ∧
      ∀ new ∈ fleet, ∃ d device, m.devices.get d = some device ∧ m.deviceId device = new.1 ∧
        device.meterages = new.2 := by
  have hadmissible : ∀ new ∈ fleet, Admissible [] [] new := fun new hnew =>
    ⟨(hfleet new hnew).1, List.not_mem_nil, (hfleet new hnew).2, fun _ => List.not_mem_nil⟩
  obtain ⟨m, hm, hready, -, -, hmade⟩ := connectDevices_ready hserverId hexecutor fleet
    (ready_listeningServer (S := S) hserverId hexecutor) (listening_listeningServer hserverId executor)
    hdistinct hadmissible
  have hset := ready_setSchedules hready schedules
  rw [List.append_nil] at hset
  exact ⟨m, hm, hset, hmade⟩

end
end Monitoring
end DeviceMonitoring
