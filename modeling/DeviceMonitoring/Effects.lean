import DeviceMonitoring.Traffic

/-! What a step of a session sends, processes and keeps. -/
namespace DeviceMonitoring

/-- A call adds no executor but of the classes of the repository. -/
def MonitoringCall.Known : MonitoringCall → Prop
  | .addDeviceExecutor _ object => ∀ o ∈ object, ExecutorObject.Known o
  | .addExecutor object => ∀ o ∈ object, ExecutorObject.Known o
  | _ => True

def SessionStep.Known : SessionStep → Prop
  | .call made => MonitoringCall.Known made
  | _ => True

namespace Monitoring

/-- What holds after every step of a session in which no other executors are added. -/
structure Orderly (m : Monitoring) : Prop extends Placed m where
  server : m.server.encoder.Known
  devices : ∀ d device, m.devices.get d = some device → device.encoder.Known

section Parcels
variable {m : Monitoring} {d : Ref}

theorem Orderly.nextParcels (h : m.Orderly) (d : Ref) :
    ∃ new : List Parcel, new.map Parcel.letter = m.nextLetters d ∧ (∀ p ∈ new, p.Sealed) ∧
      (new.filterMap Parcel.meterage).Sublist (m.due d) ∧ new.filterMap Parcel.reply = [] := by
  have hnothing : m.nextLetters d = [] → ∃ new : List Parcel, new.map Parcel.letter = m.nextLetters d ∧
      (∀ p ∈ new, p.Sealed) ∧ (new.filterMap Parcel.meterage).Sublist (m.due d) ∧
        new.filterMap Parcel.reply = [] := by
    intro hnone
    rw [hnone]
    exact ⟨[], rfl, by simp, List.nil_sublist _, rfl⟩
  cases hget : m.devices.get d with
  | none => exact hnothing (by simp only [nextLetters, hget])
  | some device =>
      by_cases due : device.timeStamp.toNat < device.meterages.length
      · cases hc : m.world.clients.get device.clientConnection with
        | none => exact hnothing (by simp only [nextLetters, hget, dif_pos due, World.posts, hc])
        | some client =>
            cases hb : client.channel.bind m.world.net.receiver with
            | none =>
                apply hnothing
                simp only [nextLetters, hget, dif_pos due, World.posts, hc, hb, Option.toList_none,
                  List.map_nil]
            | some b =>
                have hid : m.deviceId device = client.clientId := by
                  unfold deviceId
                  rw [hc]
                  rfl
                refine ⟨[⟨⟨b, true, client.clientId, device.encoder.encode (serialize (.meterage
                  ⟨device.timeStamp, device.meterages[device.timeStamp.toNat]⟩))⟩,
                  .meterage ⟨device.timeStamp, device.meterages[device.timeStamp.toNat]⟩⟩],
                  ?_, ?_, ?_, rfl⟩
                · simp only [nextLetters, hget, dif_pos due, World.posts, hc, hb, Option.toList_some,
                    List.map_singleton]
                · intro p hp
                  obtain rfl := List.mem_singleton.mp hp
                  exact Parcel.sealed_of_encode (h.devices d device hget) rfl
                · simp only [Monitoring.due, hget, dif_pos due, hid]
                  exact List.Sublist.refl _
      · exact hnothing (by simp only [nextLetters, hget, dif_neg due])

theorem Orderly.replyParcels (h : m.Orderly) (deviceId : UInt64) (content : Message) :
    ∃ new : List Parcel, new.map Parcel.letter = m.replyLetters deviceId (m.server.outgoing content) ∧
      (∀ p ∈ new, p.Sealed) ∧ new.filterMap Parcel.meterage = [] ∧
        (new.filterMap Parcel.reply).Sublist [(deviceId, content)] := by
  obtain ⟨_, _, -, hw⟩ := h.settled
  cases hn : m.world.connection m.connectionServer deviceId with
  | none => exact ⟨[], by simp only [replyLetters, hn, List.map_nil], by simp, rfl, List.nil_sublist _⟩
  | some n =>
      obtain ⟨b, e, hb, he, hk, -⟩ := hw.owned.entry_end hn
      have hid := World.connectionPeerId_eq hb he
      cases ha : (m.world.connectionChannel n).bind m.world.net.receiver with
      | none =>
          refine ⟨[], ?_, by simp, rfl, List.nil_sublist _⟩
          simp only [replyLetters, hn, World.posts, ha, Option.toList_none, List.map_nil]
      | some a =>
          refine ⟨[⟨⟨a, false, deviceId, m.server.outgoing content⟩, content⟩], ?_, ?_, rfl, ?_⟩
          · simp only [replyLetters, hn, World.posts, ha, hid, hk, Option.toList_some, List.map_singleton]
          · intro p hp
            obtain rfl := List.mem_singleton.mp hp
            exact Parcel.sealed_of_encode h.server rfl
          · exact List.Sublist.refl _

end Parcels

theorem known_of_holding {m m' : Monitoring} (h : m.Orderly)
    (hholding : m'.devices.view Device.holding = m.devices.view Device.holding) {d : Ref}
    {device' : Device} (hget' : m'.devices.get d = some device') : device'.encoder.Known := by
  have hd := congrFun hholding d
  rw [Heap.view, hget', Option.map_some, eq_comm] at hd
  obtain ⟨device, hget, hsame⟩ := (Heap.view_eq_some _ _).mp hd
  have hencoder : device.encoder = device'.encoder := congrArg (fun x => x.2.2) hsame
  rw [← hencoder]
  exact h.devices d device hget

/-- What a step sends, processes and keeps; `past` are the calls of the command centre before. -/
structure Effect (S : PhaseSort) (m : Monitoring) (step : SessionStep) (past : History)
    (m' : Monitoring) (new : List Parcel) : Prop where
  moves : World.Moves (new.map Parcel.letter) m.world m'.world
  orderly : m'.Orderly
  isSealed : ∀ p ∈ new, p.Sealed
  sent : (new.filterMap Parcel.meterage).Sublist (m.sentIn step)
  answered : ∃ more, answersIn S ((m.centerCalls step).reverse ++ past) = answersIn S past ++ more ∧
    (new.filterMap Parcel.reply).Sublist more
  history : CommandCenter.after S ((m.centerCalls step).reverse ++ past) =
    some m'.server.commandCenter
  messages : ∀ d device', m'.devices.get d = some device' →
    (∃ device, m.devices.get d = some device ∧ device'.messages =
      device.messages ++ ((m.recordedIn step).filter (·.device = d)).map (·.reply)) ∨
    m.devices.next ≤ d ∧ device'.messages = []
  next : m.devices.next ≤ m'.devices.next
  recent : ∀ r ∈ m.recordedIn step, r.device < m.devices.next

section Call
variable {S : PhaseSort} {I : Iteration} {m : Monitoring} {past : History}

theorem known_call (h : m.Orderly) {call : MonitoringCall} (hknown : call.Known) :
    (m.call S I call).server.encoder.Known ∧
      ∀ d device, (m.call S I call).devices.get d = some device → device.encoder.Known := by
  have hset : ∀ e f, (∀ mock : DeviceMock, mock.encoder.Known → (f mock).encoder.Known) →
      ∀ d device, (m.setDevice e f).devices.get d = some device → device.encoder.Known := by
    intro e f hf d device hget
    obtain ⟨old, hold, rfl⟩ := Heap.get_modify_eq_some.mp hget
    split
    · exact hf old.toDeviceMock (h.devices d old hold)
    · exact h.devices d old hold
  cases call with
  | newDevice =>
      refine ⟨h.server, fun d device hget => ?_⟩
      rcases Heap.get_alloc_eq_some.mp hget with ⟨-, rfl⟩ | hget
      · exact .create 0 1 2
      · exact h.devices d device hget
  | destroyDevice e =>
      have hserver : (m.call S I (.destroyDevice e)).server = m.server := server_onClient e .destroyClient
      refine ⟨by rw [hserver]; exact h.server, fun d device hget => ?_⟩
      obtain ⟨-, hget⟩ := Heap.get_free_eq_some.mp hget
      rw [devices_onClient] at hget
      exact h.devices d device hget
  | bind d deviceId =>
      rw [call, bind_onClient I, server_onClient, devices_onClient]
      exact ⟨h.server, h.devices⟩
  | connectToServer d serverId =>
      rw [call, connectToServer_onClient I, server_onClient, devices_onClient]
      exact ⟨h.server, h.devices⟩
  | setMeterages d meterages => exact ⟨h.server, hset d (·.setMeterages meterages) fun _ hmock => hmock⟩
  | startMeterageSending d =>
      simp only [call]
      split
      next m' hstart =>
        obtain ⟨-, hholding, -⟩ := h.onDevice hstart
        rw [server_onDevice hstart]
        exact ⟨h.server, fun d device => known_of_holding h hholding⟩
      · exact ⟨h.server, h.devices⟩
  | selectDeviceExecutor d name =>
      exact ⟨h.server, hset d (fun mock => { mock with encoder := (mock.encoder.selectExecutor name).2 })
        fun _ hmock => hmock.selectExecutor name⟩
  | addDeviceExecutor d object =>
      exact ⟨h.server, hset d (fun mock => { mock with encoder := (mock.encoder.addExecutor object).2 })
        fun _ hmock => hmock.addExecutor hknown⟩
  | disconnectDevice d =>
      rw [call, server_onClient, devices_onClient]
      exact ⟨h.server, h.devices⟩
  | disconnectConnection deviceId =>
      simp only [call]
      split <;> exact ⟨h.server, h.devices⟩
  | selectExecutor name => exact ⟨h.server.selectExecutor name, h.devices⟩
  | addExecutor object => exact ⟨h.server.addExecutor hknown, h.devices⟩
  | _ => exact ⟨h.server, h.devices⟩

/-- No call makes a device keep a message. -/
theorem messages_call (h : m.Placed) (call : MonitoringCall) :
    (∀ d device', (m.call S I call).devices.get d = some device' →
      (∃ device, m.devices.get d = some device ∧ device'.messages = device.messages) ∨
        m.devices.next ≤ d ∧ device'.messages = []) ∧
      m.devices.next ≤ (m.call S I call).devices.next := by
  have hsame : ∀ m' : Monitoring, m'.devices = m.devices →
      (∀ d device', m'.devices.get d = some device' →
        (∃ device, m.devices.get d = some device ∧ device'.messages = device.messages) ∨
          m.devices.next ≤ d ∧ device'.messages = []) ∧ m.devices.next ≤ m'.devices.next := by
    intro m' hdevices
    rw [hdevices]
    exact ⟨fun d device hget => .inl ⟨device, hget, rfl⟩, Nat.le_refl _⟩
  have hset : ∀ e f, (∀ mock : DeviceMock, (f mock).messages = mock.messages) →
      (∀ d device', (m.setDevice e f).devices.get d = some device' →
        (∃ device, m.devices.get d = some device ∧ device'.messages = device.messages) ∨
          m.devices.next ≤ d ∧ device'.messages = []) ∧
        m.devices.next ≤ (m.setDevice e f).devices.next := by
    intro e f hf
    refine ⟨fun d device' hget => .inl ?_, Nat.le_refl _⟩
    obtain ⟨device, hold, rfl⟩ := Heap.get_modify_eq_some.mp hget
    refine ⟨device, hold, ?_⟩
    split
    · exact hf device.toDeviceMock
    · rfl
  cases call with
  | newDevice =>
      refine ⟨fun d device' hget => ?_, Nat.le_succ _⟩
      rcases Heap.get_alloc_eq_some.mp hget with ⟨rfl, rfl⟩ | hget
      · exact .inr ⟨Nat.le_refl _, rfl⟩
      · exact .inl ⟨device', hget, rfl⟩
  | destroyDevice e =>
      have hdevices : (m.call S I (.destroyDevice e)).devices = m.devices.free e := by
        simp only [call, devices_onClient]
      rw [hdevices]
      exact ⟨fun d device' hget => .inl ⟨device', (Heap.get_free_eq_some.mp hget).2, rfl⟩, Nat.le_refl _⟩
  | bind d deviceId =>
      apply hsame
      rw [call, bind_onClient I, devices_onClient]
  | connectToServer d serverId =>
      apply hsame
      rw [call, connectToServer_onClient I, devices_onClient]
  | setMeterages d meterages => exact hset d (·.setMeterages meterages) fun _ => rfl
  | startMeterageSending d =>
      simp only [call]
      split
      next m' hstart =>
        obtain ⟨-, hholding, hnext⟩ := h.onDevice hstart
        refine ⟨fun d device' hget => .inl ?_, Nat.le_of_eq hnext.symm⟩
        have hd := congrFun hholding d
        rw [Heap.view, hget, Option.map_some, eq_comm] at hd
        obtain ⟨device, hold, hsame⟩ := (Heap.view_eq_some _ _).mp hd
        exact ⟨device, hold, congrArg (fun x => x.2.1) hsame.symm⟩
      · exact hsame m rfl
  | selectDeviceExecutor d name =>
      exact hset d (fun mock => { mock with encoder := (mock.encoder.selectExecutor name).2 }) fun _ => rfl
  | addDeviceExecutor d object =>
      exact hset d (fun mock => { mock with encoder := (mock.encoder.addExecutor object).2 }) fun _ => rfl
  | disconnectDevice d => exact hsame _ (devices_onClient m d _)
  | disconnectConnection deviceId =>
      apply hsame
      simp only [call]
      split <;> rfl
  | _ => exact hsame _ rfl

theorem centerCalls_call (hidle : m.world.running = none) (hpast : CommandCenter.after S past =
    some m.server.commandCenter) (call : MonitoringCall) :
    answersIn S ((m.centerCalls (.call call)).reverse ++ past) = answersIn S past ∧
      CommandCenter.after S ((m.centerCalls (.call call)).reverse ++ past) =
        some (m.call S I call).server.commandCenter := by
  simp only [centerCalls, hidle, Option.isSome_none, Bool.false_eq_true, if_false]
  cases call with
  | destroyDevice d =>
      have hserver : (m.call S I (.destroyDevice d)).server = m.server := server_onClient d .destroyClient
      rw [hserver]
      exact ⟨rfl, hpast⟩
  | bind d deviceId =>
      rw [call, bind_onClient I, server_onClient]
      exact ⟨rfl, hpast⟩
  | connectToServer d serverId =>
      rw [call, connectToServer_onClient I, server_onClient]
      exact ⟨rfl, hpast⟩
  | startMeterageSending d =>
      simp only [call]
      split
      next m' hstart =>
        rw [server_onDevice hstart]
        exact ⟨rfl, hpast⟩
      · exact ⟨rfl, hpast⟩
  | disconnectDevice d =>
      rw [call, server_onClient]
      exact ⟨rfl, hpast⟩
  | disconnectConnection deviceId =>
      simp only [call]
      split <;> exact ⟨rfl, hpast⟩
  | setDeviceWorkSchedule schedule =>
      refine ⟨rfl, ?_⟩
      rw [List.reverse_singleton, List.singleton_append, CommandCenter.after, hpast]
      rfl
  | deviationStats deviceId =>
      refine ⟨rfl, ?_⟩
      rw [List.reverse_singleton, List.singleton_append, CommandCenter.after, hpast]
      rfl
  | _ => exact ⟨rfl, hpast⟩

theorem effect_call (h : m.Orderly) (hidle : m.world.running = none) (hpast : CommandCenter.after S past =
    some m.server.commandCenter) {call : MonitoringCall} (hknown : call.Known) :
    ∃ new, Effect S m (.call call) past (m.call S I call) new := by
  obtain ⟨hserver, hdevices⟩ := known_call (S := S) (I := I) h hknown
  obtain ⟨hmessages, hnext⟩ := messages_call (S := S) (I := I) h.toPlaced call
  obtain ⟨hanswers, hhistory⟩ := centerCalls_call (I := I) hidle hpast call
  have hkept : ∀ d device', (m.call S I call).devices.get d = some device' →
      (∃ device, m.devices.get d = some device ∧ device'.messages =
        device.messages ++ ((m.recordedIn (.call call)).filter (·.device = d)).map (·.reply)) ∨
      m.devices.next ≤ d ∧ device'.messages = [] := by
    intro d device' hget
    rcases hmessages d device' hget with ⟨device, hold, hsame⟩ | hnew
    · exact .inl ⟨device, hold, hsame.trans (List.append_nil _).symm⟩
    · exact .inr hnew
  have hquiet : Sends m (m.call S I call) [] →
      ∃ new, Effect S m (.call call) past (m.call S I call) new := by
    intro hsends
    exact ⟨[], hsends.moves, ⟨hsends.placed, hserver, hdevices⟩, by simp, List.nil_sublist _,
      ⟨[], by rw [hanswers, List.append_nil], List.nil_sublist _⟩, hhistory, hkept, hnext,
      fun r hr => absurd hr List.not_mem_nil⟩
  by_cases hstart : ∃ d, call = .startMeterageSending d
  · obtain ⟨d, rfl⟩ := hstart
    have hsent := sessionStep_start (S := S) (I := I) hidle d
    have hstep : m.sessionStep S I (.call (.startMeterageSending d)) =
        m.call S I (.startMeterageSending d) := by
      simp only [sessionStep, hidle, Option.isSome_none, Bool.false_eq_true, if_false]
    rw [hstep] at hsent
    obtain ⟨hsends, -⟩ := h.onDevice hsent
    obtain ⟨new, hletters, hsealed, hmeterage, hreply⟩ := h.nextParcels d
    rw [← hletters] at hsends
    refine ⟨new, hsends.moves, ⟨hsends.placed, hserver, hdevices⟩, hsealed, ?_,
      ⟨[], by rw [hanswers, List.append_nil], by rw [hreply]⟩, hhistory, hkept, hnext,
      fun r hr => absurd hr List.not_mem_nil⟩
    have hcall : m.sentIn (.call (.startMeterageSending d)) = m.due d := by
      simp only [sentIn, sends, hidle, Option.isSome_none, Bool.false_eq_true, if_false,
        Option.toList_some, List.flatMap_cons, List.flatMap_nil, List.append_nil]
    rwa [hcall]
  · exact hquiet (h.call hidle fun d hd => hstart ⟨d, hd⟩)

end Call

section Handle
variable {S : PhaseSort} {I : Iteration} {m m' : Monitoring} {past : History}
  {invocation : Invocation Handler} {moment : Moment}

/-- A handler that does nothing but change the connections. -/
theorem effect_quiet (h : m.Orderly) (hpast : CommandCenter.after S past =
    some m.server.commandCenter) (hcalls : m.centerCalls .handle = []) (hkept : m.recordedIn .handle = [])
    (hsends : Sends m m' []) (hserver : m'.server = m.server) (hdevices : m'.devices = m.devices) :
    Effect S m .handle past m' [] := by
  constructor
  · exact hsends.moves
  · exact ⟨hsends.placed, by rw [hserver]; exact h.server, by rw [hdevices]; exact h.devices⟩
  · simp
  · exact List.nil_sublist _
  · exact ⟨[], by rw [hcalls, List.append_nil]; rfl, List.nil_sublist _⟩
  · rw [hcalls, hserver]
    exact hpast
  · intro d device' hget
    rw [hdevices] at hget
    exact .inl ⟨device', hget, by rw [hkept]; exact (List.append_nil _).symm⟩
  · rw [hdevices]
  · rw [hkept]
    exact fun r hr => absurd hr List.not_mem_nil

/-- A device keeps the reply, and sends its next meterage. -/
theorem effect_device (h : m.Orderly) (hpast : CommandCenter.after S past = some m.server.commandCenter)
    {d : Ref} {message : Bytes}
    (hrunning : m.world.running = some (.message (.deviceMessage d) message, moment))
    {device : Device} (hget : m.devices.get d = some device) {mock : DeviceMock}
    (hread : (deserialize (device.encoder.decode message) DeviceMock.onMessage).run
      device.toDeviceMock = .ok (true, mock))
    (hsent : (m.setDevice d fun _ => mock).onDevice d DeviceMock.sendNextMeterage = .ok m') :
    ∃ new, Effect S m .handle past m' new := by
  obtain ⟨reply, -, hmock⟩ := DeviceMock.read_reply hread
  -- the reply is kept
  have hkeeps : Sends m (m.setDevice d fun _ => mock) [] :=
    h.stays rfl fun e => m.devices.map_get_modify d e fun _ => rfl
  have hknown : ∀ e device, (m.setDevice d fun _ => mock).devices.get e = some device →
      device.encoder.Known := by
    intro e device' hget'
    obtain ⟨old, hold, rfl⟩ := Heap.get_modify_eq_some.mp hget'
    split
    · simp only [Device.setMock, hmock]
      exact h.devices d device hget
    · exact h.devices e old hold
  have horderly : (m.setDevice d fun _ => mock).Orderly := ⟨hkeeps.placed, h.server, hknown⟩
  -- the next meterage is sent
  obtain ⟨hsends, hholding, hnext⟩ := horderly.onDevice hsent
  obtain ⟨new, hletters, hsealed, hmeterage, hreply⟩ := horderly.nextParcels d
  rw [← hletters] at hsends
  have hserver : m'.server = m.server := (server_onDevice hsent).trans rfl
  have hall := hkeeps.trans hsends
  have hcalls : m.centerCalls .handle = [] := by simp only [centerCalls, hrunning]
  have hkept : m.recordedIn .handle = [⟨d, m.deviceId device, reply⟩] := by
    simp only [recordedIn, hrunning, hget, hread, hmock, List.drop_left, List.map_singleton]
  have hdue : m.sentIn .handle = (m.setDevice d fun _ => mock).due d := by
    simp only [sentIn, sends, hrunning, hget, hread, Option.toList_some, List.flatMap_cons,
      List.flatMap_nil, List.append_nil]
  refine ⟨new, hall.moves, ⟨hall.placed, by rw [hserver]; exact h.server, fun e device =>
    known_of_holding horderly hholding⟩, hsealed, ?_, ?_, ?_, ?_, ?_, ?_⟩
  · rwa [hdue]
  · exact ⟨[], by rw [hcalls, List.append_nil]; rfl, by rw [hreply]⟩
  · rw [hcalls, hserver]
    exact hpast
  · intro e device' hget'
    have he := congrFun hholding e
    rw [Heap.view, hget', Option.map_some, eq_comm] at he
    obtain ⟨kept, hkept', hsame⟩ := (Heap.view_eq_some _ _).mp he
    obtain ⟨old, hold, rfl⟩ := Heap.get_modify_eq_some.mp hkept'
    have hmessages : (if e = d then old.setMock mock else old).messages = device'.messages :=
      congrArg (fun x => x.2.1) hsame
    refine .inl ⟨old, hold, ?_⟩
    rw [← hmessages, hkept]
    by_cases hed : e = d
    · subst hed
      rw [hget] at hold
      cases hold
      simp [Device.setMock, hmock]
    · simp [hed, Ne.symm hed]
  · exact Nat.le_of_eq hnext.symm
  · intro r hr
    rw [hkept, List.mem_singleton] at hr
    subst hr
    exact Heap.lt_next hget

/-- The server processes a meterage, and answers it. -/
theorem effect_meterage (h : m.Orderly) (hpast : CommandCenter.after S past = some m.server.commandCenter)
    {deviceId : UInt64} {message : Bytes}
    (hrunning : m.world.running = some (.message (.serverMessage deviceId) message, moment))
    {meterage : MessageMeterage} {center : CommandCenter} {answer : Message}
    (hread : serialize (.meterage meterage) <+: m.server.encoder.decode message)
    (hprocessed : m.server.commandCenter.processMeterage deviceId meterage =
      some (center, [(deviceId, answer)])) :
    ∃ new, Effect S m .handle past (({ m with server := { m.server with commandCenter := center } } :
      Monitoring).sendMessage deviceId (m.server.outgoing answer)) new := by
  have hanswer : answer = reply S past deviceId meterage := by
    obtain ⟨center', hcenter', -⟩ := (agrees_of_after hpast).processMeterage deviceId meterage
    rw [hprocessed] at hcenter'
    cases hcenter'
    rfl
  -- the command centre has changed, and nothing else
  have hserver : Sends m { m with server := { m.server with commandCenter := center } } [] :=
    h.stays rfl fun _ => rfl
  have horderly : ({ m with server := { m.server with commandCenter := center } } : Monitoring).Orderly :=
    ⟨hserver.placed, h.server, h.devices⟩
  obtain ⟨new, hletters, hsealed, hmeterage, hreply⟩ := horderly.replyParcels deviceId answer
  have hsends := horderly.sendMessage deviceId (m.server.outgoing answer)
  rw [show m.server.outgoing answer = ({ m with server := { m.server with commandCenter := center } } :
    Monitoring).server.outgoing answer from rfl, ← hletters] at hsends
  have hall := hserver.trans hsends
  obtain ⟨world, hworld⟩ := sendMessage_world
    ({ m with server := { m.server with commandCenter := center } } : Monitoring) deviceId
    (m.server.outgoing answer)
  have hcalls : m.centerCalls .handle = [.processMeterage deviceId meterage] := by
    simp only [centerCalls, hrunning, received_of_message hread, List.filterMap_cons, List.filterMap_nil]
  have hkept : m.recordedIn .handle = [] := by simp only [recordedIn, hrunning]
  refine ⟨new, hall.moves, ⟨hall.placed, ?_, ?_⟩, hsealed, ?_, ?_, ?_, ?_, ?_, ?_⟩
  · rw [hworld]
    exact h.server
  · rw [hworld]
    exact h.devices
  · rw [hmeterage]
    exact List.nil_sublist _
  · exact ⟨[(deviceId, answer)], by rw [hcalls, hanswer]; rfl, hreply⟩
  · rw [hcalls, hworld, List.reverse_singleton, List.singleton_append, CommandCenter.after, hpast,
      Option.bind_some, CommandCenter.perform, hprocessed]
    rfl
  · intro d device' hget
    rw [hworld] at hget
    exact .inl ⟨device', hget, by rw [hkept]; exact (List.append_nil _).symm⟩
  · rw [hworld]
  · rw [hkept]
    exact fun r hr => absurd hr List.not_mem_nil

theorem effect_does (h : m.Orderly) (hpast : CommandCenter.after S past = some m.server.commandCenter)
    (hrunning : m.world.running = some (invocation, moment)) (hdoes : m.Does invocation m') :
    ∃ new, Effect S m .handle past m' new := by
  cases hdoes with
  | nothing hcalls hkept => exact ⟨[], effect_quiet h hpast hcalls hkept (h.stays rfl fun _ => rfl) rfl rfl⟩
  | takesOver n =>
      exact ⟨[], effect_quiet h hpast (by simp only [centerCalls, hrunning])
        (by simp only [recordedIn, hrunning]) (h.onNewIncomingConnection n) rfl rfl⟩
  | keeps hget hread hsent => exact effect_device h hpast hrunning hget hread hsent
  | answers hread hprocessed => exact effect_meterage h hpast hrunning hread hprocessed

theorem Effect.returns {new : List Parcel} (h : Effect S m .handle past m' new) :
    Effect S m .handle past { m' with world := m'.world.resume } new := by
  have hreturns := h.orderly.returns
  exact { h with
    moves := h.moves.followed hreturns.moves
    orderly := ⟨hreturns.placed, h.orderly.server, h.orderly.devices⟩ }

theorem effect_handle (h : m.Orderly) (hsound : Sound S m)
    (hpast : CommandCenter.after S past = some m.server.commandCenter) :
    ∃ new, Effect S m .handle past (m.sessionStep S I .handle) new := by
  cases hrunning : m.world.running with
  | none =>
      have hstep : m.sessionStep S I .handle = m := by simp only [sessionStep, hrunning]
      rw [hstep]
      exact ⟨[], effect_quiet h hpast (by simp only [centerCalls, hrunning])
        (by simp only [recordedIn, hrunning]) (h.stays rfl fun _ => rfl) rfl rfl⟩
  | some running =>
      obtain ⟨m', hdoes, hstep⟩ := does_of_running (I := I) hsound hrunning
      obtain ⟨new, heffect⟩ := effect_does h hpast hrunning hdoes
      rw [hstep]
      exact ⟨new, heffect.returns⟩

end Handle
end Monitoring
end DeviceMonitoring
