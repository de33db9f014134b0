import DeviceMonitoring.Monitoring

/-! The lines between the devices and their server. On a line nothing but the queue and
the two parties change: here is what each task does to them, exactly. -/
namespace DeviceMonitoring

abbrev MessageTask := Task ConnectToServerTask

namespace World
variable {η : Type}

def withTasks (w : World η) (tasks : List MessageTask) : World η :=
  { w with net := { w.net with tasks } }

/-- The handler of a message is running. -/
def handing (w : World η) (tasks : List MessageTask) (handler : η) (message : Bytes) : World η :=
  { w.withTasks tasks with running := some (.message handler message, .message) }

section Tasks
variable (w : World η) (tasks : List MessageTask)

@[simp] theorem tasks_withTasks : (w.withTasks tasks).net.tasks = tasks := rfl

@[simp] theorem clientChannel_withTasks (c : Ref) :
    (w.withTasks tasks).clientChannel c = w.clientChannel c := rfl

theorem withTasks_withTasks (tasks' : List MessageTask) :
    (w.withTasks tasks).withTasks tasks' = w.withTasks tasks' := rfl

end Tasks

theorem joined_withTasks {w : World η} {a b : Ref} (h : w.net.Joined a b)
    (tasks : List MessageTask) : (w.withTasks tasks).net.Joined a b := ⟨h.ne, h.left, h.right⟩

theorem joined_handing {w : World η} {a b : Ref} (h : w.net.Joined a b) (tasks : List MessageTask)
    (handler : η) (message : Bytes) : (w.handing tasks handler message).net.Joined a b :=
  ⟨h.ne, h.left, h.right⟩

theorem clientSendMessage_joined {w : World η} {c a b : Ref} (hc : w.clientChannel c = some a)
    (h : w.net.Joined a b) (message : Bytes) :
    w.clientSendMessage c message = w.withTasks (w.net.tasks ++ [.sendMessage message b]) := by
  unfold clientSendMessage
  rw [hc]
  simp only [Net.sendMessage_joined h]
  rfl

theorem connectionSendMessage_joined {w : World η} {n a b : Ref}
    (hn : w.connectionChannel n = some a) (h : w.net.Joined a b) (message : Bytes) :
    w.connectionSendMessage n message = w.withTasks (w.net.tasks ++ [.sendMessage message b]) := by
  unfold connectionSendMessage
  rw [hn]
  simp only [Net.sendMessage_joined h]
  rfl

theorem clientSendMessages_joined {w : World η} {c a b : Ref} (hc : w.clientChannel c = some a)
    (h : w.net.Joined a b) (sent : List Bytes) :
    sent.foldl (fun w message => w.clientSendMessage c message) w =
      w.withTasks (w.net.tasks ++ sent.map fun message => .sendMessage message b) := by
  induction sent generalizing w with
  | nil => simp [withTasks]
  | cons message sent ih =>
      have hc' := hc
      rw [← w.clientChannel_withTasks (w.net.tasks ++ [.sendMessage message b])] at hc'
      rw [List.foldl_cons, clientSendMessage_joined hc h, ih hc' (joined_withTasks h _),
        withTasks_withTasks, tasks_withTasks, List.append_assoc]
      rfl

end World

namespace Monitoring

def deviceId (m : Monitoring) (device : Device) : UInt64 :=
  ((m.world.clients.get device.clientConnection).map (·.clientId)).getD 0

/-- The channel of the device's client connection. -/
def deviceChannel (m : Monitoring) (device : Device) : Option Ref :=
  m.world.clientChannel device.clientConnection

/-- The channel of the connection that the server holds under the device's identifier. -/
def serverChannel (m : Monitoring) (device : Device) : Option Ref :=
  (m.world.connection m.connectionServer (m.deviceId device)).bind m.world.connectionChannel

def messageHandler (m : Monitoring) (ch : Ref) : Option Handler :=
  (m.world.net.channels.get ch).bind (·.messageHandler)

/-- A device that is connected to the server, over the channels `a` and `b`. -/
structure Line (m : Monitoring) (d : Ref) (device : Device) (a b : Ref) : Prop where
  deviceChannel : m.deviceChannel device = some a
  serverChannel : m.serverChannel device = some b
  joined : m.world.net.Joined a b
  deviceHandler : m.messageHandler a = some (.deviceMessage d)
  serverHandler : m.messageHandler b = some (.serverMessage (m.deviceId device))

/-- A message on its way between the device and the server. -/
def carries (m : Monitoring) (device : Device) : MessageTask → Bool
  | .sendMessage _ ch => some ch == m.deviceChannel device || some ch == m.serverChannel device
  | _ => false

def inFlight (m : Monitoring) (device : Device) : List MessageTask :=
  m.world.net.tasks.filter (m.carries device)

/-- Everything but the tasks, the server and the devices. -/
def resumed (m : Monitoring) (tasks : List MessageTask) (server : DeviceMonitoringServer)
    (devices : Heap Device) : Monitoring :=
  { m with world := m.world.withTasks tasks, server, devices }

/-- Two lines have no channel in common. -/
theorem Line.disjoint {m : Monitoring} {d e : Ref} {device other : Device} {a b a' b' : Ref}
    (h : m.Line d device a b) (h' : m.Line e other a' b') (hne : d ≠ e)
    (hid : m.deviceId device ≠ m.deviceId other) : (a' ≠ a ∧ a' ≠ b) ∧ b' ≠ a ∧ b' ≠ b := by
  have hdifferent : ∀ x y : Ref, m.messageHandler x ≠ m.messageHandler y → x ≠ y := by
    rintro x y hxy rfl
    exact hxy rfl
  refine ⟨⟨hdifferent _ _ ?_, hdifferent _ _ ?_⟩, hdifferent _ _ ?_, hdifferent _ _ ?_⟩
  · rw [h.deviceHandler, h'.deviceHandler]
    simpa using hne.symm
  · rw [h.serverHandler, h'.deviceHandler]
    simp
  · rw [h.deviceHandler, h'.serverHandler]
    simp
  · rw [h.serverHandler, h'.serverHandler]
    simpa using hid.symm

section Exact
variable {m : Monitoring} {d : Ref} {device : Device} {a b : Ref}

theorem onDevice_sends (hdevice : m.devices.get d = some device)
    (hline : m.deviceChannel device = some a) (hjoined : m.world.net.Joined a b)
    {f : DeviceMock → Except String (DeviceMock × List Bytes)} {mock : DeviceMock}
    {sent : List Bytes} (hcall : f device.toDeviceMock = .ok (mock, sent)) :
    m.onDevice d f = .ok (m.resumed
      (m.world.net.tasks ++ sent.map fun message => .sendMessage message b) m.server
      (m.devices.modify d (·.setMock mock))) := by
  unfold onDevice
  simp only [hdevice, hcall]
  rw [World.clientSendMessages_joined hline hjoined]
  rfl

theorem processTask_empty (hidle : m.world.running = none) (htasks : m.world.net.tasks = []) :
    m.processTask = .ok m := by
  have hstart : m.world.start = m.world := by
    simp only [World.start, hidle, Option.isSome_none, Bool.false_eq_true, if_false,
      Net.processTask, htasks]
  unfold processTask handlers
  rw [hstart]
  simp only [hidle]

/-- A message is handed to the handler of its channel, and the task is over when the
handler returns. -/
theorem processTask_message (hidle : m.world.running = none) {message : Bytes} {ch : Ref}
    {tasks : List MessageTask} (htasks : m.world.net.tasks = .sendMessage message ch :: tasks)
    {handler : Handler} (hhandler : m.messageHandler ch = some handler) {m' : Monitoring}
    (hhandle : ({ m with world := m.world.handing tasks handler message } : Monitoring).handle
      (.message handler message) = .ok m') :
    m.processTask = .ok { m' with world := { m'.world with running := none } } := by
  have hstart : m.world.start = m.world.handing tasks handler message := by
    unfold messageHandler at hhandler
    simp only [World.start, hidle, Option.isSome_none, Bool.false_eq_true, if_false,
      Net.processTask, htasks, Net.deliver, hhandler]
    rfl
  have hrunning := (calls_handle hhandle).running
  have hresume : m'.world.resume = { m'.world with running := none } := by
    unfold World.resume
    rw [hrunning]
    rfl
  unfold processTask
  rw [hstart, handlers]
  simp only [World.handing]
  unfold World.handing at hhandle
  rw [hhandle]
  change handlers 1 { m' with world := m'.world.resume } = _
  rw [hresume]
  rfl

theorem processTask_device (hidle : m.world.running = none) (hline : m.Line d device a b)
    (hdevice : m.devices.get d = some device) {message : Bytes} {tasks : List MessageTask}
    (htasks : m.world.net.tasks = .sendMessage message a :: tasks) {mock : DeviceMock}
    {sent : List Bytes} (hreceive : device.onMessageReceived message = .ok (mock, sent)) :
    m.processTask = .ok (m.resumed (tasks ++ sent.map fun message => .sendMessage message b)
      m.server (m.devices.modify d (·.setMock mock))) := by
  have hhandle := onDevice_sends
    (m := { m with world := m.world.handing tasks (.deviceMessage d) message })
    hdevice hline.deviceChannel (World.joined_handing hline.joined tasks _ _)
    (f := (·.onMessageReceived message)) hreceive
  rw [processTask_message hidle htasks hline.deviceHandler hhandle]
  simp [resumed, World.withTasks, World.handing, hidle]

theorem processTask_server (hidle : m.world.running = none) (hline : m.Line d device a b)
    {message : Bytes} {tasks : List MessageTask}
    (htasks : m.world.net.tasks = .sendMessage message b :: tasks)
    {server : DeviceMonitoringServer} {answer : Bytes}
    (hreceive : m.server.onMessageReceived (m.deviceId device) message =
      some (server, [(m.deviceId device, answer)])) :
    m.processTask = .ok (m.resumed (tasks ++ [.sendMessage answer a]) server m.devices) := by
  obtain ⟨n, hn, hb⟩ := Option.bind_eq_some_iff.mp hline.serverChannel
  let running := m.world.handing tasks (.serverMessage (m.deviceId device)) message
  have hhandle : ({ m with world := running } : Monitoring).handle
      (.message (.serverMessage (m.deviceId device)) message) =
        .ok { m with world := running.withTasks (tasks ++ [.sendMessage answer a]), server } := by
    have hsend := World.connectionSendMessage_joined (w := running) hb
      (World.joined_handing hline.joined.symm tasks _ _) answer
    have hconnection : running.connection m.connectionServer (m.deviceId device) = some n := hn
    simp only [handle, onMessageReceived, hreceive, List.foldl_cons, List.foldl_nil, sendMessage,
      hconnection, hsend]
    rfl
  rw [processTask_message hidle htasks hline.serverHandler hhandle]
  simp [running, resumed, World.withTasks, World.handing, hidle]

end Exact
end Monitoring
end DeviceMonitoring
