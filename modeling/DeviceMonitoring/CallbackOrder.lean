import DeviceMonitoring.Staffing

/-! The callbacks of a session come in order: every device, and the server for every identifier,
is told of a connection, then handed messages, then told that the connection is gone. -/
namespace DeviceMonitoring
namespace Monitoring

/-- The handler has done its work, and is about to return. -/
structure Worked (m m' : Monitoring) (invocation : Invocation Handler) (moment : Moment) : Prop where
  equipped : m'.world.Equipped none
  running : m'.world.running = some (invocation, moment)
  expects : m'.world.Expects invocation moment
  settled : m'.world.Settled
  clients : m.world.clients.Descends ClientConnectionMock.kit m'.world.clients
  next : m'.world.clients.next = m.world.clients.next
  owners : m'.devices.view Device.clientConnection = m.devices.view Device.clientConnection
  devices : m'.devices.next = m.devices.next
  server : m'.connectionServer = m.connectionServer
  clientUp : m'.world.clientUp = m.world.clientUp
  serverUp : m'.world.serverUp = m.world.serverUp
  callback : ∀ k, serverCallback m'.world k invocation = serverCallback m.world k invocation

/-- The handler has returned. -/
structure Told (m m' : Monitoring) (invocation : Invocation Handler) : Prop where
  staffed : m'.Staffed
  gone : ∀ d, m.Gone d → m'.Gone d
  device : ∀ d, (deviceCallback d invocation).toList.foldlM Callback.next (m.world.clientUp d) =
    some (m'.world.clientUp d)
  server : ∀ k, (serverCallback m.world k invocation).toList.foldlM Callback.next
    (m.world.serverUp 0 k) = some (m'.world.serverUp 0 k)

section Told
variable {S : PhaseSort} {I : Iteration} {m m' : Monitoring} {invocation : Invocation Handler}
  {moment : Moment}

theorem Worked.told (hworked : Worked m m' invocation moment) (h : m.Staffed) :
    Told m { m' with world := m'.world.resume } invocation := by
  have hreturned := World.returned hworked.equipped hworked.running hworked.expects hworked.settled
  have hresume := World.SameKits.resume m'.world
  refine ⟨h.after hreturned.ordered (hworked.clients.trans hresume.clients)
    (hresume.next.trans hworked.next) hworked.owners hworked.devices hworked.server,
    fun d hgone => gone_of_owners hworked.owners hworked.devices hgone, fun d => ?_, fun k => ?_⟩
  · rw [← hworked.clientUp]
    exact hreturned.devices d
  · rw [← hworked.serverUp, ← hworked.callback]
    exact hreturned.server k

theorem Undisturbed.worked (hcalled : Undisturbed m m') (h : m.Staffed) (hsettled : m'.world.Settled)
    (hrun : m.world.running = some (invocation, moment)) (hexpects : m'.world.Expects invocation moment)
    (hinvocation : ∀ handler n, invocation ≠ .newConnection handler n)
    (hcallback : ∀ k, serverCallback m'.world k invocation = serverCallback m.world k invocation) :
    Worked m m' invocation moment := by
  have hkit := h.ordered.equipped
  rw [World.introduced_of_running hrun hinvocation] at hkit
  exact ⟨hkit.same hcalled.kits, hcalled.running.trans hrun, hexpects, hsettled, hcalled.kits.clients,
    hcalled.kits.next, hcalled.owners, hcalled.next, hcalled.server,
    hcalled.ends.clientUp hcalled.running, hcalled.ends.serverUp hcalled.running, hcallback⟩

theorem onNewIncomingConnection_shape (m : Monitoring) (n : Ref) :
    (m.onNewIncomingConnection n).world.shape = m.world.shape := by
  have hmessage := (World.quiet_perform .byEntry m.world (rfl : (Call.connectionSetMessageHandler n
    (some (Handler.serverMessage (m.world.connectionPeerId n)))).registers = false)).shape
  have hdisconnected := (World.quiet_perform .byEntry (m.world.connectionSetMessageHandler n
    (some (.serverMessage (m.world.connectionPeerId n)))) (rfl : (Call.connectionSetDisconnectedHandler n
      (some (Handler.serverDisconnected (m.world.connectionPeerId n)))).registers = false)).shape
  exact hdisconnected.trans hmessage

theorem onNewIncomingConnection_world (m : Monitoring) (n : Ref) :
    ∃ net, (m.onNewIncomingConnection n).world = { m.world with
      net
      connections := m.world.connections.modify n fun conn => { conn with
        messageHandler := some (.serverMessage (m.world.connectionPeerId n))
        disconnectedHandler := some (.serverDisconnected (m.world.connectionPeerId n)) } } := by
  have htwice : ((m.world.connections.modify n fun conn => { conn with
        messageHandler := some (.serverMessage (m.world.connectionPeerId n)) }).modify n
      fun conn => { conn with
        disconnectedHandler := some (.serverDisconnected (m.world.connectionPeerId n)) }) =
      m.world.connections.modify n fun conn => { conn with
        messageHandler := some (.serverMessage (m.world.connectionPeerId n))
        disconnectedHandler := some (.serverDisconnected (m.world.connectionPeerId n)) } :=
    m.world.connections.modify_modify n _ _
  rw [← htwice]
  unfold Monitoring.onNewIncomingConnection World.connectionSetMessageHandler
  simp only
  split
  · exact ⟨_, rfl⟩
  · exact ⟨_, rfl⟩

/-- The server gives its handlers to a connection that it has been told of. -/
theorem Staffed.worked_newConnection (h : m.Staffed) (hsettled : m.world.Settled) {n : Ref}
    (hrun : m.world.running = some (.newConnection .newConnection n, moment))
    (hexpects : m.world.Expects (.newConnection .newConnection n) moment) :
    Worked m (m.onNewIncomingConnection n) (.newConnection .newConnection n) moment := by
  have hkit := h.ordered.equipped
  have hintroduced : m.world.introduced = some n := by rw [World.introduced, hrun]
  rw [hintroduced] at hkit
  obtain ⟨net, hworld⟩ := onNewIncomingConnection_world m n
  have hshape := onNewIncomingConnection_shape m n
  have hends := World.SameEnds.of_shape hshape
  have hpeer := World.connectionPeerId_of_shape hshape
  have hrunning : (m.onNewIncomingConnection n).world.running = m.world.running := by rw [hworld]
  have hhandle : m.handle (.newConnection .newConnection n) = .ok (m.onNewIncomingConnection n) := rfl
  refine ⟨⟨?_, ?_, ?_⟩, hrunning.trans hrun, ?_, settled_handle hsettled hhandle, ?_, ?_, rfl, rfl, rfl,
    hends.clientUp hrunning, hends.serverUp hrunning, ?_⟩
  · rw [hworld]
    exact hkit.clients
  · rw [hworld]
    exact hkit.servers
  · intro k kit hk _
    rw [hworld] at hk
    obtain ⟨conn, hget, rfl⟩ := (Heap.view_eq_some _ _).mp hk
    obtain ⟨conn', hget', rfl⟩ := Heap.get_modify_eq_some.mp hget
    by_cases hkn : k = n
    · rw [if_pos hkn]
      exact ⟨_, rfl⟩
    · rw [if_neg hkn]
      exact hkit.connections k _ ((Heap.view_eq_some _ _).mpr ⟨conn', hget', rfl⟩)
        (by simpa using Ne.symm hkn)
  · cases hexpects with
    | newConnection hn =>
        refine .newConnection ?_
        rw [hpeer, hends.connection]
        exact hn
  · rw [hworld]
    exact .refl _
  · rw [hworld]
  · intro k
    simp only [serverCallback, hpeer]

/-- What a handler does, until it returns or throws. -/
theorem Staffed.worked (h : m.Staffed) (hsettled : m.world.Settled)
    (hrun : m.world.running = some (invocation, moment)) :
    ∃ m', Worked m m' invocation moment ∧
      m.sessionStep S I .handle = { m' with world := m'.world.resume } := by
  have hexpects := h.ordered.expects invocation moment hrun
  cases hhandle : m.handle invocation with
  | error fault =>
      obtain ⟨handler, message, rfl⟩ := message_of_error hhandle
      obtain rfl : moment = .message := by cases hexpects <;> rfl
      exact ⟨m, (Undisturbed.refl m).worked h hsettled hrun hexpects (by simp) fun _ => rfl,
        sessionStep_thrown hrun hhandle⟩
  | ok m' =>
      refine ⟨m', ?_, sessionStep_handled hrun hhandle⟩
      have hsettled' := settled_handle hsettled hhandle
      cases hexpects with
      | deviceMessage hc =>
          have hcalled := Undisturbed.handle hhandle (by simp)
          rw [← hcalled.ends.clientChannel] at hc
          exact hcalled.worked h hsettled' hrun (.deviceMessage hc) (by simp) fun _ => rfl
      | serverMessage hk =>
          have hcalled := Undisturbed.handle hhandle (by simp)
          rw [← hcalled.ends.connection] at hk
          exact hcalled.worked h hsettled' hrun (.serverMessage hk) (by simp) fun _ => rfl
      | deviceConnected hc =>
          cases hhandle
          exact (Undisturbed.refl m).worked h hsettled hrun (.deviceConnected hc) (by simp) fun _ => rfl
      | newConnection hn =>
          cases hhandle
          exact h.worked_newConnection hsettled hrun (.newConnection hn)
      | deviceDisconnected hc =>
          cases hhandle
          exact (Undisturbed.refl m).worked h hsettled hrun (.deviceDisconnected hc) (by simp) fun _ => rfl
      | serverDisconnected hn =>
          cases hhandle
          exact (Undisturbed.refl m).worked h hsettled hrun (.serverDisconnected hn) (by simp) fun _ => rfl

/-- A device that has gone is not called any more. -/
theorem Staffed.deviceCallback_of_gone (h : m.Staffed) {d : Ref} (hgone : m.Gone d)
    (hrun : m.world.running = some (invocation, moment)) : deviceCallback d invocation = none := by
  have hne : ∀ c, (m.world.clientChannel c).isSome = true → c ≠ d := by
    rintro c hc rfl
    obtain ⟨a, ha⟩ := Option.isSome_iff_exists.mp hc
    obtain ⟨client, hclient, -⟩ := Option.bind_eq_some_iff.mp ha
    obtain ⟨device, hget⟩ := h.live c client hclient
    rw [hgone.2] at hget
    cases hget
  cases h.ordered.expects invocation moment hrun with
  | deviceMessage hc => exact if_neg (hne _ hc)
  | deviceConnected hc => exact if_neg (hne _ hc)
  | deviceDisconnected hc => exact if_neg (hne _ hc)
  | serverMessage hk => rfl
  | newConnection hn => rfl
  | serverDisconnected hn => rfl

theorem Staffed.told (h : m.Staffed) (hsettled : m.world.Settled)
    (hrun : m.world.running = some (invocation, moment)) :
    Told m (m.sessionStep S I .handle) invocation := by
  obtain ⟨m', hworked, hstep⟩ := h.worked (S := S) (I := I) hsettled hrun
  rw [hstep]
  exact hworked.told h

end Told

/-- The callbacks that a step makes. -/
def callbacksIn (callback : World Handler → Invocation Handler → Option Callback) (m : Monitoring) :
    SessionStep → List Callback
  | .handle => (m.world.running.bind fun running => callback m.world running.1).toList
  | _ => []

def deviceCallbacks (S : PhaseSort) (I : Iteration) (d : Ref) (steps : List SessionStep) : List Callback :=
  trace (sessionStep S I) (callbacksIn fun _ => deviceCallback d) create steps

def serverCallbacks (S : PhaseSort) (I : Iteration) (k : UInt64) (steps : List SessionStep) :
    List Callback :=
  trace (sessionStep S I) (callbacksIn fun w => serverCallback w k) create steps

/-- Connected, any messages, disconnected, and again; at the end there is a connection or not. -/
def InOrder (callbacks : List Callback) (up : Bool) : Prop :=
  callbacks.foldlM Callback.next false = some up

/-- What holds after every step. -/
structure Attended (S : PhaseSort) (m : Monitoring) : Prop where
  sound : Sound S m
  placed : m.Placed
  staffed : m.Staffed

/-- What a device has been told last. -/
def DeviceTold (S : PhaseSort) (d : Ref) (m : Monitoring) (up : Bool) : Prop :=
  Attended S m ∧ (¬m.Gone d → up = m.world.clientUp d)

def ServerTold (S : PhaseSort) (k : UInt64) (m : Monitoring) (up : Bool) : Prop :=
  Attended S m ∧ up = m.world.serverUp 0 k

section Run
variable {S : PhaseSort} {I : Iteration} {m : Monitoring}

theorem Attended.silent_or_told (h : Attended S m) (step : SessionStep) :
    (Silent m (m.sessionStep S I step) ∧ ∀ callback, callbacksIn callback m step = []) ∨
      ∃ invocation moment, m.world.running = some (invocation, moment) ∧
        Told m (m.sessionStep S I step) invocation ∧
          ∀ callback, callbacksIn callback m step = (callback m.world invocation).toList := by
  have hsame : Silent m m := ⟨h.staffed, fun d hd => ⟨hd, rfl⟩, rfl⟩
  cases step with
  | call call =>
      refine .inl ⟨?_, fun _ => rfl⟩
      simp only [sessionStep]
      split
      · exact hsame
      next hrun => exact h.staffed.call (by simpa using hrun) call
  | start => exact .inl ⟨h.staffed.start h.placed, fun _ => rfl⟩
  | handle =>
      cases hrun : m.world.running with
      | none =>
          refine .inl ⟨?_, fun _ => by rw [callbacksIn, hrun]; rfl⟩
          simp only [sessionStep, hrun]
          exact hsame
      | some running =>
          obtain ⟨invocation, moment⟩ := running
          exact .inr ⟨invocation, moment, rfl, h.staffed.told h.placed.settled hrun,
            fun _ => by rw [callbacksIn, hrun]; rfl⟩

theorem Attended.step (h : Attended S m) (step : SessionStep) : Attended S (m.sessionStep S I step) := by
  refine ⟨h.sound.step step, h.placed.step h.sound step, ?_⟩
  rcases h.silent_or_told (I := I) step with ⟨hsilent, -⟩ | ⟨invocation, moment, -, htold, -⟩
  · exact hsilent.staffed
  · exact htold.staffed

theorem DeviceTold.step (S : PhaseSort) (I : Iteration) (d : Ref) (m : Monitoring) (step : SessionStep)
    (up : Bool) (h : DeviceTold S d m up) :
    ∃ up', (callbacksIn (fun _ => deviceCallback d) m step).foldlM Callback.next up = some up' ∧
      DeviceTold S d (m.sessionStep S I step) up' := by
  obtain ⟨hattended, hup⟩ := h
  have hnext := hattended.step (I := I) step
  rcases hattended.silent_or_told (I := I) step with
    ⟨hsilent, hnone⟩ | ⟨invocation, moment, hrun, htold, hcallbacks⟩
  · rw [hnone]
    refine ⟨up, rfl, hnext, fun hd => ?_⟩
    obtain ⟨hbefore, hsame⟩ := hsilent.device d hd
    rw [hup hbefore, hsame]
  · rw [hcallbacks]
    by_cases hgone : m.Gone d
    · rw [hattended.staffed.deviceCallback_of_gone hgone hrun]
      exact ⟨up, rfl, hnext, fun hd => absurd (htold.gone d hgone) hd⟩
    · rw [hup hgone]
      exact ⟨_, htold.device d, hnext, fun _ => rfl⟩

theorem ServerTold.step (S : PhaseSort) (I : Iteration) (k : UInt64) (m : Monitoring)
    (step : SessionStep) (up : Bool) (h : ServerTold S k m up) :
    ∃ up', (callbacksIn (fun w => serverCallback w k) m step).foldlM Callback.next up = some up' ∧
      ServerTold S k (m.sessionStep S I step) up' := by
  obtain ⟨hattended, rfl⟩ := h
  have hnext := hattended.step (I := I) step
  rcases hattended.silent_or_told (I := I) step with
    ⟨hsilent, hnone⟩ | ⟨invocation, moment, -, htold, hcallbacks⟩
  · rw [hnone]
    exact ⟨_, rfl, hnext, by rw [hsilent.server]⟩
  · rw [hcallbacks]
    exact ⟨_, htold.server k, hnext, rfl⟩

theorem attended_create (S : PhaseSort) : Attended S .create := by
  have hservers : create.world.servers =
      ({} : Heap _).alloc { newConnectionHandler := some .newConnection } := Heap.modify_alloc _ _ _
  have hequipped : create.world.Equipped none := by
    refine ⟨?_, ?_, ?_⟩
    · intro c kit hc
      cases hc
    · intro s handler hs
      obtain ⟨server, hget, rfl⟩ := (Heap.view_eq_some _ _).mp hs
      rw [hservers] at hget
      rcases Heap.get_alloc_eq_some.mp hget with ⟨rfl, rfl⟩ | hbefore
      · exact ⟨rfl, rfl⟩
      · cases hbefore
    · intro n kit hn
      cases hn
  refine ⟨sound_create S, placed_create, hequipped.ordered rfl, rfl, ?_, ?_, rfl⟩
  · intro d device hget
    cases hget
  · intro c client hc
    cases hc

/-- Whatever is called from outside, in whatever order the tasks run: every device, and the server
for every identifier, is told of a connection first, then of messages, then that the connection is
gone, and then of the next one. The last one told is the one there is. -/
theorem session_callbacks (S : PhaseSort) (I : Iteration) (steps : List SessionStep) :
    (∀ d, ∃ up, InOrder (deviceCallbacks S I d steps) up ∧
      ∀ device, (create.session S I steps).devices.get d = some device →
        (create.session S I steps).world.running = none →
          up = ((create.session S I steps).deviceChannel device).isSome) ∧
    ∀ k, ∃ up, InOrder (serverCallbacks S I k steps) up ∧
      ((create.session S I steps).world.running = none →
        up = ((create.session S I steps).world.connection
          (create.session S I steps).connectionServer k).isSome) := by
  constructor
  · intro d
    have hcreated : DeviceTold S d .create false := ⟨attended_create S, fun _ => rfl⟩
    obtain ⟨up, horder, hattended, hup⟩ :=
      foldlM_trace (sessionStep S I) _ (DeviceTold.step S I d) hcreated steps
    refine ⟨up, horder, fun device hget hrun => ?_⟩
    have hpresent : ¬(create.session S I steps).Gone d := by
      rintro ⟨-, hnone⟩
      rw [hget] at hnone
      cases hnone
    rw [hup hpresent, deviceChannel, hattended.staffed.owns d device hget]
    exact World.clientUp_of_none hrun d
  · intro k
    have hcreated : ServerTold S k .create false := ⟨attended_create S, rfl⟩
    obtain ⟨up, horder, hattended, hup⟩ :=
      foldlM_trace (sessionStep S I) _ (ServerTold.step S I k) hcreated steps
    refine ⟨up, horder, fun hrun => ?_⟩
    have hserver : (create.session S I steps).connectionServer = 0 := hattended.staffed.server
    rw [hup, hserver]
    exact World.serverUp_of_none hrun 0 k

example : deviceCallbacks .stable .byEntry 0 (greeting ++ [.call (.selectDeviceExecutor 0 "ROT3"),
    .call (.setMeterages 0 [5]), .call (.startMeterageSending 0), .start, .handle, .start, .handle,
    .call (.disconnectConnection 7), .start, .handle, .start, .handle, .call (.connectToServer 0 5),
    .start, .handle, .handle]) = [.connected, .message, .disconnected, .connected] := by decide +kernel

end Run
end Monitoring
end DeviceMonitoring
