import DeviceMonitoring.Attribution
import DeviceMonitoring.LetterDelivery
import DeviceMonitoring.LostMeterages

/-! What each step of a session sends, and what it does to the handlers of the owners. -/
namespace DeviceMonitoring

/-- A device kept this reply; `deviceId` is its identifier at that time. -/
structure Record where
  device : Ref
  deviceId : UInt64
  reply : Message
  deriving DecidableEq, Repr

/-- What a device holds apart from its meterages. -/
def Device.holding (device : Device) : Ref × List Message × MessageEncoder :=
  (device.clientConnection, device.messages, device.encoder)

/-- A call that may be made at any moment. -/
theorem World.allows_of_moments {η : Type} {w : World η} {call : Call η}
    (h : ∀ moment : Moment, moment.allows call = true) : w.allows call = true := by
  unfold World.allows
  cases w.running with
  | none => rfl
  | some running => exact h running.2

theorem DeviceMock.read_reply {device mock : DeviceMock} {message : Bytes}
    (h : (deserialize (device.encoder.decode message) DeviceMock.onMessage).run device =
      .ok (true, mock)) : ∃ reply, serialize reply <+: device.encoder.decode message ∧
        mock = { device with messages := device.messages ++ [reply] } := by
  by_cases hread : ∃ reply, serialize reply <+: device.encoder.decode message
  · obtain ⟨reply, t, ht⟩ := hread
    refine ⟨reply, ⟨t, ht⟩, ?_⟩
    rw [← ht, deserialize_serialize_append] at h
    cases reply with
    | error e =>
        cases h
        rfl
    | command command =>
        cases h
        rfl
    | meterage meterage => cases h
  · push Not at hread
    rw [deserialize_reject _ hread] at h
    cases h

theorem received_of_message {s : Bytes} {m : Message} (h : serialize m <+: s) :
    received s = (true, [m]) := by
  obtain ⟨t, rfl⟩ := h
  exact received_append m t

namespace Monitoring

/-- The meterage that `sendNextMeterage` would send, and the identifier of the device. -/
def due (m : Monitoring) (d : Ref) : List (UInt64 × MessageMeterage) :=
  match m.devices.get d with
  | none => []
  | some device =>
      if h : device.timeStamp.toNat < device.meterages.length then
        [(m.deviceId device, ⟨device.timeStamp, device.meterages[device.timeStamp.toNat]⟩)]
      else []

/-- The meterage that a device sends in a step. -/
def sentIn (m : Monitoring) (step : SessionStep) : List (UInt64 × MessageMeterage) :=
  (m.sends step).toList.flatMap fun call => call.1.due call.2

/-- The reply that a device keeps in a step. -/
def recordedIn (m : Monitoring) : SessionStep → List Record
  | .handle =>
      match m.world.running with
      | some (.message (.deviceMessage d) message, _) =>
          match m.devices.get d with
          | none => []
          | some device =>
              match (deserialize (device.encoder.decode message) DeviceMock.onMessage).run
                device.toDeviceMock with
              | .ok (true, mock) => (mock.messages.drop device.messages.length).map fun reply =>
                  ⟨d, m.deviceId device, reply⟩
              | _ => []
      | _ => []
  | _ => []

/-- The call that the server makes to its command centre in a step. -/
def centerCalls (m : Monitoring) : SessionStep → List CenterCall
  | .call call =>
      if m.world.running.isSome then []
      else
        match call with
        | .setDeviceWorkSchedule schedule => [.setSchedule schedule]
        | .deviationStats deviceId => [.deviationStats deviceId]
        | _ => []
  | .handle =>
      match m.world.running with
      | some (.message (.serverMessage deviceId) message, _) =>
          (received (m.server.encoder.decode message)).2.filterMap fun received =>
            match received with
            | .meterage meterage => some (.processMeterage deviceId meterage)
            | _ => none
      | _ => []
  | .start => []

/-- What holds after every step of a session. -/
structure Placed (m : Monitoring) : Prop where
  settled : m.world.Settled
  current : m.world.Current
  attributed : m.Attributed

/-- These letters are put into the queue on the way, and the handlers stay in place. -/
structure Sends (m m' : Monitoring) (letters : List Letter) : Prop where
  moves : World.Moves letters m.world m'.world
  attributed : m'.Attributed

namespace Sends
variable {m m' m'' : Monitoring} {letters : List Letter}

theorem placed (h : Sends m m' letters) : m'.Placed :=
  ⟨h.moves.settled, h.moves.current, h.attributed⟩

theorem trans (h : Sends m m' []) (h' : Sends m' m'' letters) : Sends m m'' letters :=
  ⟨h.moves.trans h'.moves, h'.attributed⟩

theorem followed (h : Sends m m' letters) (h' : Sends m' m'' []) : Sends m m'' letters :=
  ⟨h.moves.followed h'.moves, h'.attributed⟩

end Sends

/-- The string that `sendNextMeterage` passes on, and the letter that comes of it. -/
def nextLetters (m : Monitoring) (d : Ref) : List Letter :=
  match m.devices.get d with
  | none => []
  | some device =>
      if h : device.timeStamp.toNat < device.meterages.length then
        m.world.posts (.clientSendMessage device.clientConnection (device.encoder.encode
          (serialize (.meterage ⟨device.timeStamp, device.meterages[device.timeStamp.toNat]⟩))))
      else []

section Device
variable {S : PhaseSort} {I : Iteration} {m m' : Monitoring} {d : Ref}

theorem Placed.clientSendMessage (h : Placed m) (c : Ref) (message : Bytes) :
    Sends m { m with world := m.world.clientSendMessage c message }
      (m.world.posts (.clientSendMessage c message)) := by
  obtain ⟨_, _, -, hw⟩ := id h.settled
  have hallows : m.world.allows (.clientSendMessage c message) = true :=
    World.allows_of_moments fun moment => by cases moment <;> rfl
  have hmoves := World.Moves.perform .byEntry h.settled h.current _ hallows rfl
  exact ⟨hmoves, h.attributed.after_same hw.owned hmoves
    (.perform .byEntry m.world (.clientSendMessage c message) rfl) fun _ => rfl⟩

theorem Placed.connectionSendMessage (h : Placed m) (n : Ref) (message : Bytes) :
    Sends m { m with world := m.world.connectionSendMessage n message }
      (m.world.posts (.connectionSendMessage n message)) := by
  obtain ⟨_, _, -, hw⟩ := id h.settled
  have hallows : m.world.allows (.connectionSendMessage n message) = true :=
    World.allows_of_moments fun moment => by cases moment <;> rfl
  have hmoves := World.Moves.perform .byEntry h.settled h.current _ hallows rfl
  exact ⟨hmoves, h.attributed.after_same hw.owned hmoves
    (.perform .byEntry m.world (.connectionSendMessage n message) rfl) fun _ => rfl⟩

theorem Placed.stays (h : Placed m) (hworld : m'.world = m.world)
    (hdevices : ∀ d, (m'.devices.get d).map (·.clientConnection) =
      (m.devices.get d).map (·.clientConnection)) : Sends m m' [] := by
  obtain ⟨_, _, -, hw⟩ := id h.settled
  have hmoves : World.Moves [] m.world m'.world := by
    rw [hworld]
    exact .refl h.settled h.current
  refine ⟨hmoves, h.attributed.after_same hw.owned hmoves ?_ hdevices⟩
  rw [hworld]
  exact .refl _

theorem clientConnection_of_holding (h : m'.devices.view Device.holding = m.devices.view Device.holding)
    (d : Ref) : (m'.devices.get d).map (·.clientConnection) =
      (m.devices.get d).map (·.clientConnection) := by
  have hd := congrArg (Option.map Prod.fst) (congrFun h d)
  rw [Heap.view, Heap.view, Option.map_map, Option.map_map] at hd
  exact hd

theorem holding_setMock {device : Device} (hget : m.devices.get d = some device) (mock : DeviceMock)
    (hmessages : mock.messages = device.messages) (hencoder : mock.encoder = device.encoder) :
    (m.devices.modify d (·.setMock mock)).view Device.holding = m.devices.view Device.holding := by
  funext e
  rw [Heap.view, Heap.view]
  by_cases he : e = d
  · rw [he, Heap.get_modify_self, hget]
    simp only [Option.map_some, Device.holding, Device.setMock, hmessages, hencoder]
  · rw [Heap.get_modify_of_ne _ _ he]

/-- `sendNextMeterage`: a device counts up, and a letter goes out. -/
theorem Placed.onDevice (h : Placed m) (hsent : m.onDevice d DeviceMock.sendNextMeterage = .ok m') :
    Sends m m' (m.nextLetters d) ∧ m'.devices.view Device.holding = m.devices.view Device.holding ∧
      m'.devices.next = m.devices.next := by
  cases hget : m.devices.get d with
  | none =>
      unfold Monitoring.onDevice at hsent
      rw [hget] at hsent
      cases hsent
      have hnone : m.nextLetters d = [] := by simp only [nextLetters, hget]
      rw [hnone]
      exact ⟨h.stays rfl fun _ => rfl, rfl, rfl⟩
  | some device =>
      by_cases due : device.timeStamp.toNat < device.meterages.length
      · rw [onDevice_next hget due] at hsent
        cases hsent
        have hletters : m.nextLetters d = m.world.posts (.clientSendMessage device.clientConnection
            (device.encoder.encode (serialize
              (.meterage ⟨device.timeStamp, device.meterages[device.timeStamp.toNat]⟩)))) := by
          simp only [nextLetters, hget, dif_pos due]
        have hholding := holding_setMock hget
          { device.toDeviceMock with timeStamp := device.timeStamp + 1 } rfl rfl
        obtain ⟨hmoves, hattributed⟩ := h.clientSendMessage device.clientConnection
          (device.encoder.encode (serialize
            (.meterage ⟨device.timeStamp, device.meterages[device.timeStamp.toNat]⟩)))
        rw [hletters]
        obtain ⟨_, _, -, hw⟩ := id hmoves.settled
        exact ⟨⟨hmoves, hattributed.after_same hw.owned (.refl hmoves.settled hmoves.current) (.refl _)
          (clientConnection_of_holding hholding)⟩, hholding, rfl⟩
      · have hdone := DeviceMock.sendNextMeterage_done (Nat.not_lt.mp due)
        unfold Monitoring.onDevice at hsent
        simp only [hget, hdone, List.foldl_nil] at hsent
        cases hsent
        have hletters : m.nextLetters d = [] := by simp only [nextLetters, hget, dif_neg due]
        have hholding := holding_setMock hget device.toDeviceMock rfl rfl
        rw [hletters]
        exact ⟨h.stays rfl (clientConnection_of_holding hholding), hholding, rfl⟩

end Device

section Call
variable {S : PhaseSort} {I : Iteration} {m : Monitoring}

/-- A call on the connections that sends nothing and installs no handler. -/
theorem Placed.perform (h : Placed m) (hidle : m.world.running = none) (call : Call Handler)
    (hgiven : call.given = none) (hposts : m.world.posts call = []) :
    Sends m { m with world := m.world.perform I call } [] := by
  obtain ⟨_, _, -, hw⟩ := id h.settled
  have hallows : m.world.allows call = true := by
    unfold World.allows
    rw [hidle]
    rfl
  have hbind : m.world.keepsIdentifier (.call call) = true := by
    cases call with
    | bind c clientId => simp only [World.keepsIdentifier, hidle]
    | _ => rfl
  have hmoves := World.Moves.perform I h.settled h.current call hallows hbind
  rw [hposts] at hmoves
  exact ⟨hmoves, h.attributed.after_same hw.owned hmoves (.perform I m.world call hgiven) fun _ => rfl⟩

theorem Placed.onClient (h : Placed m) (hidle : m.world.running = none) (d : Ref)
    (call : Ref → Call Handler) (hgiven : ∀ c, (call c).given = none)
    (hposts : ∀ c, m.world.posts (call c) = []) : Sends m (m.onClient I d call) [] := by
  unfold Monitoring.onClient
  split
  · exact h.stays rfl fun _ => rfl
  next device _ => exact h.perform hidle _ (hgiven _) (hposts _)

/-- The constructor of a device gives its client the handler of the device. -/
theorem Placed.newDevice (h : Placed m) (hidle : m.world.running = none) : Sends m m.newDevice [] := by
  have I : Iteration := .byEntry
  obtain ⟨_, _, -, hw⟩ := id h.settled
  have hcreated := World.Moves.newClient h.settled h.current
  have hallows : ∀ (w : World Handler) call, w.running = none → w.allows call = true := by
    intro w call hrun
    unfold World.allows
    rw [hrun]
    rfl
  have hconnected := World.Moves.perform I hcreated.settled hcreated.current (.setConnectedHandler
    m.world.clients.next (some (.deviceConnected m.devices.next))) (hallows _ _ hidle) rfl
  have hdisconnected := World.Moves.perform I hconnected.settled hconnected.current
    (.clientSetDisconnectedHandler m.world.clients.next
      (some (.deviceDisconnected m.devices.next))) (hallows _ _ hidle) rfl
  have hmessage := World.Moves.perform I hdisconnected.settled hdisconnected.current
    (.clientSetMessageHandler m.world.clients.next (some (.deviceMessage m.devices.next)))
    (hallows _ _ hidle) rfl
  have hmoves : World.Moves [] m.world m.newDevice.world :=
    ((hcreated.followed hconnected).followed hdisconnected).followed hmessage
  have hinherits := ((World.Inherits.newClient m.world).trans (.perform I _ (.setConnectedHandler
    m.world.clients.next (some (.deviceConnected m.devices.next))) rfl)).trans
      (.perform I _ (.clientSetDisconnectedHandler m.world.clients.next
        (some (.deviceDisconnected m.devices.next))) rfl)
  refine ⟨hmoves, h.attributed.clients_after ?_ ?_, h.attributed.connections_after hw.owned hmoves ?_⟩
  · intro c handler hhandler
    rcases World.handlerOf_clientSetMessageHandler hhandler with hbefore | ⟨hc, hgiven⟩
    · exact .inl (hinherits _ handler hbefore)
    · cases hc
      cases hgiven
      exact .inr ⟨m.devices.next, _, rfl, Heap.get_alloc_next _ _, rfl⟩
  · intro d device hget _
    exact ⟨device, (Heap.get_alloc_of_ne _ _ (Nat.ne_of_lt (Heap.lt_next hget))).trans hget, rfl⟩
  · intro n handler hhandler
    rcases World.handlerOf_clientSetMessageHandler hhandler with hbefore | ⟨hn, -⟩
    · exact .inl (hinherits _ handler hbefore)
    · cases hn

/-- A device goes with its client, and this with its handler. -/
theorem Placed.destroyDevice (h : Placed m) (hidle : m.world.running = none) (d : Ref) :
    Sends m (m.call S I (.destroyDevice d)) [] := by
  obtain ⟨_, _, -, hw⟩ := id h.settled
  obtain ⟨hmoves, hattributed⟩ := h.onClient (I := I) hidle d .destroyClient (fun _ => rfl)
    fun _ => rfl
  refine ⟨hmoves, hattributed.clients_after (fun _ _ hhandler => .inl hhandler) ?_,
    hattributed.connections⟩
  intro e device hget hhandler
  refine ⟨device, ?_, rfl⟩
  rw [devices_onClient] at hget
  -- the client of the device that goes has no handler left
  have hne : e ≠ d := by
    rintro rfl
    obtain ⟨handler, hhandler⟩ := Option.isSome_iff_exists.mp hhandler
    obtain ⟨client, hc, -⟩ := World.handlerOf_client.mp hhandler
    have hgone : (m.call S I (.destroyDevice e)).world = m.world.destroyClient device.clientConnection := by
      simp only [call, Monitoring.onClient, hget]
      rfl
    rw [hgone] at hc
    unfold World.destroyClient at hc
    split at hc
    next hnone =>
      rw [hnone] at hc
      cases hc
    · exact (Heap.get_free_eq_some.mp hc).1 rfl
  have hold : (m.call S I (.destroyDevice d)).devices.get e = m.devices.get e := by
    simp only [call, devices_onClient, Heap.get_free_of_ne _ hne]
  rw [hold, hget]

theorem Placed.call (h : Placed m) (hidle : m.world.running = none) {call : MonitoringCall}
    (hcall : ∀ d, call ≠ .startMeterageSending d) : Sends m (m.call S I call) [] := by
  have hset : ∀ d f, Sends m (m.setDevice d f) [] := fun d f =>
    h.stays rfl fun e => m.devices.map_get_modify d e fun _ => rfl
  cases call with
  | newDevice => exact h.newDevice hidle
  | destroyDevice d => exact h.destroyDevice hidle d
  | bind d deviceId =>
      rw [Monitoring.call, bind_onClient I]
      exact h.onClient hidle d _ (fun _ => rfl) fun _ => rfl
  | connectToServer d serverId =>
      rw [Monitoring.call, connectToServer_onClient I]
      exact h.onClient hidle d _ (fun _ => rfl) fun _ => rfl
  | setMeterages d meterages => exact hset d (·.setMeterages meterages)
  | startMeterageSending d => exact absurd rfl (hcall d)
  | selectDeviceExecutor d name =>
      exact hset d fun mock => { mock with encoder := (mock.encoder.selectExecutor name).2 }
  | addDeviceExecutor d object =>
      exact hset d fun mock => { mock with encoder := (mock.encoder.addExecutor object).2 }
  | disconnectDevice d => exact h.onClient hidle d _ (fun _ => rfl) fun _ => rfl
  | disconnectConnection deviceId =>
      simp only [Monitoring.call]
      split
      · exact h.stays rfl fun _ => rfl
      next n _ => exact h.perform (I := I) hidle (.connectionDisconnect n) rfl rfl
  | disconnectServer => exact h.perform hidle (.serverDisconnect m.connectionServer) rfl rfl
  | listen serverId => exact h.perform (I := I) hidle (.listen m.connectionServer serverId) rfl rfl
  | setDeviceWorkSchedule schedule => exact h.stays rfl fun _ => rfl
  | deviationStats deviceId => exact h.stays rfl fun _ => rfl
  | selectExecutor name => exact h.stays rfl fun _ => rfl
  | addExecutor object => exact h.stays rfl fun _ => rfl

end Call

/-- What the handler that is running does before it returns; nothing comes of one that throws. -/
inductive Does (m : Monitoring) : Invocation Handler → Monitoring → Prop
  | nothing {invocation : Invocation Handler} (hcalls : m.centerCalls .handle = [])
      (hkept : m.recordedIn .handle = []) : Does m invocation m
  | takesOver (n : Ref) : Does m (.newConnection .newConnection n) (m.onNewIncomingConnection n)
  | keeps {m' : Monitoring} {d : Ref} {message : Bytes} {device : Device} {mock : DeviceMock}
      (hget : m.devices.get d = some device)
      (hread : (deserialize (device.encoder.decode message) DeviceMock.onMessage).run
        device.toDeviceMock = .ok (true, mock))
      (hsent : (m.setDevice d fun _ => mock).onDevice d DeviceMock.sendNextMeterage = .ok m') :
      Does m (.message (.deviceMessage d) message) m'
  | answers {deviceId : UInt64} {message : Bytes} {meterage : MessageMeterage} {center : CommandCenter}
      {reply : Message} (hread : serialize (.meterage meterage) <+: m.server.encoder.decode message)
      (hprocessed : m.server.commandCenter.processMeterage deviceId meterage =
        some (center, [(deviceId, reply)])) :
      Does m (.message (.serverMessage deviceId) message)
        (({ m with server := { m.server with commandCenter := center } } : Monitoring).sendMessage deviceId
          (m.server.outgoing reply))

section Handle
variable {S : PhaseSort} {I : Iteration} {m m' : Monitoring} {invocation : Invocation Handler}
  {moment : Moment}

theorem sessionStep_handled (hrunning : m.world.running = some (invocation, moment))
    (hhandle : m.handle invocation = .ok m') :
    m.sessionStep S I .handle = { m' with world := m'.world.resume } := by
  simp only [sessionStep, hrunning, hhandle]

/-- What a handler throws leaves the task, which had nothing more to do. -/
theorem sessionStep_thrown (hrunning : m.world.running = some (invocation, .message)) {fault : Fault}
    (hhandle : m.handle invocation = .error fault) :
    m.sessionStep S I .handle = { m with world := m.world.resume } := by
  have hreturn : m.world.resume = { m.world with running := none } := by
    unfold World.resume
    rw [hrunning]
  rw [hreturn]
  simp only [sessionStep, hrunning, hhandle]

theorem does_deviceMessage {d : Ref} {message : Bytes}
    (hrunning : m.world.running = some (.message (.deviceMessage d) message, .message)) :
    ∃ m', m.Does (.message (.deviceMessage d) message) m' ∧
      m.sessionStep S I .handle = { m' with world := m'.world.resume } := by
  have hcalls : m.centerCalls .handle = [] := by simp only [centerCalls, hrunning]
  cases hget : m.devices.get d with
  | none =>
      have hhandle : m.handle (.message (.deviceMessage d) message) = .ok m := by
        simp only [handle, onDevice, hget]
      refine ⟨m, .nothing hcalls ?_, sessionStep_handled hrunning hhandle⟩
      simp only [recordedIn, hrunning, hget]
  | some device =>
      by_cases hread : ∃ mock, (deserialize (device.encoder.decode message) DeviceMock.onMessage).run
          device.toDeviceMock = .ok (true, mock)
      · obtain ⟨mock, hread⟩ := hread
        obtain ⟨m', hsent⟩ := onDevice_sendNextMeterage (m.setDevice d fun _ => mock) d
        exact ⟨m', .keeps hget hread hsent,
          sessionStep_handled hrunning ((onDevice_received hget hread).trans hsent)⟩
      · push Not at hread
        cases hreceived : device.toDeviceMock.onMessageReceived message with
        | ok result =>
            obtain ⟨mock, hok, -⟩ := DeviceMock.onMessageReceived_ok hreceived
            exact absurd hok (hread mock)
        | error what =>
            have hhandle : m.handle (.message (.deviceMessage d) message) = .error (.exception what) := by
              simp only [handle, onDevice, hget, hreceived]
            refine ⟨m, .nothing hcalls ?_, sessionStep_thrown hrunning hhandle⟩
            simp only [recordedIn, hrunning, hget]

/-- The server gets over whatever it is sent. -/
theorem handle_serverMessage (h : Sound S m) {deviceId : UInt64} {message : Bytes}
    (hrunning : m.world.running = some (.message (.serverMessage deviceId) message, .message)) :
    ∃ m', m.handle (.message (.serverMessage deviceId) message) = .ok m' ∧
      m.Does (.message (.serverMessage deviceId) message) m' := by
  by_cases hread : ∃ meterage, serialize (.meterage meterage) <+: m.server.encoder.decode message
  · obtain ⟨meterage, hread⟩ := hread
    obtain ⟨past, hpast⟩ := h.history
    obtain ⟨center, hcenter, -⟩ := (agrees_of_after hpast).processMeterage deviceId meterage
    have hserver := DeviceMonitoringServer.onMessageReceived_meterage hread deviceId
    rw [hcenter] at hserver
    refine ⟨_, ?_, .answers hread hcenter⟩
    simp only [handle, onMessageReceived, hserver, Option.map_some, List.map_cons, List.map_nil,
      List.foldl_cons, List.foldl_nil]
  · push Not at hread
    have hhandle : m.handle (.message (.serverMessage deviceId) message) = .ok m := by
      simp only [handle, onMessageReceived, DeviceMonitoringServer.onMessageReceived_other hread,
        List.foldl_nil]
    refine ⟨m, hhandle, .nothing ?_ ?_⟩
    · simp only [centerCalls, hrunning]
      by_cases hany : ∃ content, serialize content <+: m.server.encoder.decode message
      · obtain ⟨content, hcontent⟩ := hany
        rw [received_of_message hcontent]
        cases content with
        | meterage meterage => exact absurd hcontent (hread meterage)
        | _ => rfl
      · push Not at hany
        rw [received_reject _ hany]
        rfl
    · simp only [recordedIn, hrunning]

/-- The handler that is running does its work and returns. -/
theorem does_of_running (h : Sound S m) (hrunning : m.world.running = some (invocation, moment)) :
    ∃ m', m.Does invocation m' ∧ m.sessionStep S I .handle = { m' with world := m'.world.resume } := by
  cases invocation with
  | disconnected handler =>
      exact ⟨m, .nothing (by simp only [centerCalls, hrunning]) (by simp only [recordedIn, hrunning]),
        sessionStep_handled hrunning rfl⟩
  | connected handler =>
      exact ⟨m, .nothing (by simp only [centerCalls, hrunning]) (by simp only [recordedIn, hrunning]),
        sessionStep_handled hrunning rfl⟩
  | newConnection handler n =>
      cases handler with
      | newConnection => exact ⟨_, .takesOver n, sessionStep_handled hrunning rfl⟩
      | _ =>
          exact ⟨m, .nothing (by simp only [centerCalls, hrunning])
            (by simp only [recordedIn, hrunning]), sessionStep_handled hrunning rfl⟩
  | message handler message =>
      obtain rfl : moment = .message := h.handsMessages _ hrunning handler message rfl
      cases handler with
      | deviceMessage d => exact does_deviceMessage hrunning
      | serverMessage deviceId =>
          obtain ⟨m', hhandle, hdoes⟩ := handle_serverMessage h hrunning
          exact ⟨m', hdoes, sessionStep_handled hrunning hhandle⟩
      | _ =>
          exact ⟨m, .nothing (by simp only [centerCalls, hrunning])
            (by simp only [recordedIn, hrunning]), sessionStep_handled hrunning rfl⟩

theorem Placed.returns (h : m.Placed) : Sends m { m with world := m.world.resume } [] := by
  obtain ⟨_, _, -, hw⟩ := id h.settled
  have hmoves := World.Moves.resume h.settled h.current
  exact ⟨hmoves, h.attributed.after_same hw.owned hmoves (.resume _) fun _ => rfl⟩

theorem Placed.onNewIncomingConnection (h : m.Placed) (n : Ref) :
    Sends m (m.onNewIncomingConnection n) [] := by
  obtain ⟨_, _, -, hw⟩ := id h.settled
  have hmessage := World.Moves.perform .byEntry h.settled h.current (.connectionSetMessageHandler n
    (some (.serverMessage (m.world.connectionPeerId n))))
    (World.allows_of_moments fun moment => by cases moment <;> rfl) rfl
  have hdisconnected := World.Moves.perform .byEntry hmessage.settled hmessage.current
    (.connectionSetDisconnectedHandler n (some (.serverDisconnected (m.world.connectionPeerId n))))
    (World.allows_of_moments fun moment => by cases moment <;> rfl) rfl
  have hmoves : World.Moves [] m.world (m.onNewIncomingConnection n).world :=
    hmessage.followed hdisconnected
  have hinherits := World.Inherits.perform .byEntry (m.world.connectionSetMessageHandler n
      (some (.serverMessage (m.world.connectionPeerId n))))
    (.connectionSetDisconnectedHandler n (some (.serverDisconnected (m.world.connectionPeerId n)))) rfl
  refine ⟨hmoves, h.attributed.clients_after ?_ ?_, h.attributed.connections_after hw.owned hmoves ?_⟩
  · intro c handler hhandler
    rcases World.handlerOf_connectionSetMessageHandler (hinherits _ handler hhandler) with hbefore | ⟨hc, -⟩
    · exact .inl hbefore
    · cases hc
  · exact fun d device hget _ => ⟨device, hget, rfl⟩
  · intro k handler hhandler
    have hset := hinherits _ handler hhandler
    rcases World.handlerOf_connectionSetMessageHandler hset with hbefore | ⟨hk, hgiven⟩
    · exact .inl hbefore
    · cases hk
      cases hgiven
      obtain ⟨conn', hn, -⟩ := World.handlerOf_connection.mp hset
      refine .inr ⟨?_, rfl⟩
      have hlt : n < (m.world.connectionSetMessageHandler n
          (some (.serverMessage (m.world.connectionPeerId n)))).connections.next := Heap.lt_next hn
      have hnext : (m.world.connectionSetMessageHandler n
          (some (.serverMessage (m.world.connectionPeerId n)))).connections.next =
            m.world.connections.next := by
        unfold World.connectionSetMessageHandler
        simp only
        split <;> rfl
      rwa [hnext] at hlt

theorem sendMessage_world (m : Monitoring) (deviceId : UInt64) (message : Bytes) :
    ∃ world, m.sendMessage deviceId message = { m with world } := by
  unfold Monitoring.sendMessage
  split <;> exact ⟨_, rfl⟩

def replyLetters (m : Monitoring) (deviceId : UInt64) (message : Bytes) : List Letter :=
  match m.world.connection m.connectionServer deviceId with
  | none => []
  | some n => m.world.posts (.connectionSendMessage n message)

theorem Placed.sendMessage (h : m.Placed) (deviceId : UInt64) (message : Bytes) :
    Sends m (m.sendMessage deviceId message) (m.replyLetters deviceId message) := by
  unfold Monitoring.sendMessage replyLetters
  cases m.world.connection m.connectionServer deviceId with
  | none => exact h.stays rfl fun _ => rfl
  | some n => exact h.connectionSendMessage n message

theorem Placed.does (h : m.Placed) (hdoes : m.Does invocation m') : ∃ letters, Sends m m' letters := by
  cases hdoes with
  | nothing => exact ⟨[], h.stays rfl fun _ => rfl⟩
  | takesOver n => exact ⟨[], h.onNewIncomingConnection n⟩
  | @keeps _ d message device mock hget hread hsent =>
      have hkept : Sends m (m.setDevice d fun _ => mock) [] :=
        h.stays rfl fun e => m.devices.map_get_modify d e fun _ => rfl
      obtain ⟨hsends, -⟩ := hkept.placed.onDevice hsent
      exact ⟨_, hkept.trans hsends⟩
  | @answers deviceId message meterage center reply hread hprocessed =>
      have hserver : Sends m { m with server := { m.server with commandCenter := center } } [] :=
        h.stays rfl fun _ => rfl
      exact ⟨_, hserver.trans (hserver.placed.sendMessage deviceId (m.server.outgoing reply))⟩

theorem Placed.start (h : m.Placed) : ({ m with world := m.world.start } : Monitoring).Placed := by
  obtain ⟨_, _, -, hw⟩ := id h.settled
  refine ⟨World.settled_start h.settled, h.current.of_changes h.settled (.start _), ?_⟩
  cases hrunning : m.world.running with
  | some running =>
      rw [World.start_busy hrunning]
      exact h.attributed
  | none =>
      cases htasks : m.world.net.tasks with
      | nil =>
          rw [World.start_idle hrunning htasks]
          exact h.attributed
      | cons task tasks =>
          have hpopped : ({ m with world := m.world.withTasks tasks } : Monitoring).Attributed :=
            ⟨h.attributed.clients, h.attributed.connections⟩
          have hlater := World.Later.start m.world
          have hmoves : World.Moves [] (m.world.withTasks tasks) m.world.start :=
            ⟨World.settled_start h.settled, h.current.of_changes h.settled (.start _),
              .start h.settled hrunning htasks,
              ⟨⟨hlater.net.next, hlater.net.off⟩, hlater.connections, hlater.channel⟩⟩
          have hstart : ({ m with world := m.world.start } : Monitoring).Attributed :=
            hpopped.after_same hw.owned hmoves (World.Inherits.start m.world) fun _ => rfl
          exact hstart

/-- Every step but the start of a task. -/
theorem Placed.sends (h : m.Placed) (hsound : Sound S m) {step : SessionStep} (hstep : step ≠ .start) :
    ∃ letters, Sends m (m.sessionStep S I step) letters := by
  cases step with
  | start => exact absurd rfl hstep
  | handle =>
      cases hrunning : m.world.running with
      | none =>
          have hstep : m.sessionStep S I .handle = m := by simp only [sessionStep, hrunning]
          rw [hstep]
          exact ⟨[], h.stays rfl fun _ => rfl⟩
      | some running =>
          obtain ⟨m', hdoes, hstep⟩ := does_of_running (I := I) hsound hrunning
          obtain ⟨letters, hsends⟩ := h.does hdoes
          rw [hstep]
          exact ⟨letters, hsends.followed hsends.placed.returns⟩
  | call call =>
      cases hrunning : m.world.running with
      | some running =>
          have hstep : m.sessionStep S I (.call call) = m := by
            simp only [sessionStep, hrunning, Option.isSome_some, if_true]
          rw [hstep]
          exact ⟨[], h.stays rfl fun _ => rfl⟩
      | none =>
          have hstep : m.sessionStep S I (.call call) = m.call S I call := by
            simp only [sessionStep, hrunning, Option.isSome_none, Bool.false_eq_true, if_false]
          by_cases hstart : ∃ d, call = .startMeterageSending d
          · obtain ⟨d, rfl⟩ := hstart
            exact ⟨_, (h.onDevice (sessionStep_start hrunning d)).1⟩
          · rw [hstep]
            exact ⟨[], h.call hrunning fun d hd => hstart ⟨d, hd⟩⟩

theorem Placed.step (h : m.Placed) (hsound : Sound S m) (step : SessionStep) :
    (m.sessionStep S I step).Placed := by
  by_cases hstart : step = .start
  · rw [hstart]
    exact h.start
  · obtain ⟨letters, hsends⟩ := h.sends (I := I) hsound hstart
    exact hsends.placed

theorem Placed.run (h : m.Placed) (hsound : Sound S m) (steps : List SessionStep) :
    (m.session S I steps).Placed := by
  induction steps generalizing m with
  | nil => exact h
  | cons step steps ih => exact ih (h.step hsound step) (hsound.step step)

theorem placed_create : Monitoring.create.Placed := by
  refine ⟨(sound_create .stable).settled, ?_, ⟨?_, ?_⟩⟩
  · intro a channel hget
    cases hget
  · intro c handler hhandler
    obtain ⟨client, hc, -⟩ := World.handlerOf_client.mp hhandler
    cases hc
  · intro n b handler hb
    cases hb

end Handle

end Monitoring
end DeviceMonitoring
