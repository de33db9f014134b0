import DeviceMonitoring.Integrity

/-! What can make a handler throw. -/
namespace DeviceMonitoring

theorem answersIn_ne_meterage {S : PhaseSort} {past : History} {deviceId : UInt64} {answer : Message}
    (h : (deviceId, answer) ∈ answersIn S past) (meterage : MessageMeterage) :
    answer ≠ .meterage meterage := by
  induction past with
  | nil => cases h
  | cons call past ih =>
      cases call with
      | processMeterage other sent =>
          rcases List.mem_append.mp h with hold | hnew
          · exact ih hold
          · cases List.mem_singleton.mp hnew
            rw [reply]
            cases verdict S past deviceId sent <;> exact Message.noConfusion
      | _ => exact ih h

theorem DeviceMock.onMessageReceived_reject {device : DeviceMock} {message : Bytes}
    (h : ∀ content, ¬ serialize content <+: device.encoder.decode message) :
    device.onMessageReceived message = .error "Message deserialization error!" := by
  rw [onMessageReceived, deserialize_reject _ h]
  rfl

theorem DeviceMock.onMessageReceived_error {device : DeviceMock} {message : Bytes} {what : String}
    (h : device.onMessageReceived message = .error what)
    (hreplies : ∀ meterage, ¬ serialize (.meterage meterage) <+: device.encoder.decode message) :
    what = "Message deserialization error!" ∧
      ∀ content, ¬ serialize content <+: device.encoder.decode message := by
  have hnone : ∀ content, ¬ serialize content <+: device.encoder.decode message := by
    intro content hcontent
    have hreply : ∀ meterage, content ≠ .meterage meterage := by
      rintro meterage rfl
      exact hreplies meterage hcontent
    obtain ⟨mock, sent, hsent, -⟩ :=
      ({ device with messages := device.messages ++ [content] } : DeviceMock).sendNextMeterage_ok
    rw [onMessageReceived_reply hcontent hreply, hsent] at h
    cases h
  rw [onMessageReceived_reject hnone] at h
  exact ⟨(Except.error.inj h).symm, hnone⟩

namespace Monitoring

/-- A device that is handed a letter is handed an answer. -/
theorem Accounted.answer_in_hand {S : PhaseSort} {sent : List (UInt64 × MessageMeterage)} {past : History}
    {records : List Record} {m : Monitoring} (h : Accounted S sent past records m) {d : Ref}
    {message : Bytes} {moment : Moment}
    (hrunning : m.world.running = some (.message (.deviceMessage d) message, moment)) :
    ∃ p : Parcel, p.Sealed ∧ p.letter.message = message ∧ ∀ meterage, p.content ≠ .meterage meterage := by
  obtain ⟨posted, handled, inHand, hunderway, hsealed, -, hanswered, -, -, hinHand⟩ := h.letters
  obtain ⟨p, rfl, hmessage, hto⟩ := hinHand _ _ _ hrunning
  obtain ⟨pending, -, hconveys⟩ := hunderway.conveyed
  have hposted : p ∈ posted :=
    hconveys.handed_sublist.subset (List.mem_append_right handled (List.mem_singleton_self p))
  refine ⟨p, hsealed p hposted, hmessage, ?_⟩
  rcases hto with ⟨-, hserver⟩ | ⟨hdevice, -⟩
  · cases hserver
  · have hreply : p.reply = some (p.letter.clientId, p.content) := by simp [Parcel.reply, hdevice]
    exact answersIn_ne_meterage (hanswered.subset (List.mem_filterMap.mpr ⟨p, hposted, hreply⟩))

/-- In every session: the server throws nothing, whatever it is sent, and looks at no phase that
is not there. A device throws exactly when no message can be read from what it is sent, and the
error is the same every time: it is never handed a meterage. -/
theorem session_faults (S : PhaseSort) (I : Iteration) (steps : List SessionStep)
    (hknown : ∀ step ∈ steps, step.Known) :
    ∀ invocation moment, (create.session S I steps).world.running = some (invocation, moment) →
      ∀ fault, (create.session S I steps).handle invocation = .error fault ↔
        fault = .exception "Message deserialization error!" ∧ ∃ d device message,
          invocation = .message (.deviceMessage d) message ∧
            (create.session S I steps).devices.get d = some device ∧
              ∀ content, ¬ serialize content <+: device.encoder.decode message := by
  intro invocation moment hrunning fault
  have h := (Accounted.create S).run (I := I) hknown
  generalize create.session S I steps = m at h hrunning ⊢
  constructor
  · intro hfault
    obtain ⟨handler, message, rfl⟩ := message_of_error hfault
    obtain rfl : moment = .message := h.sound.handsMessages _ hrunning handler message rfl
    cases handler with
    | serverMessage deviceId =>
        obtain ⟨m', hhandle, -⟩ := handle_serverMessage h.sound hrunning
        rw [hhandle] at hfault
        cases hfault
    | deviceMessage d =>
        obtain ⟨p, hsealed, rfl, hanswer⟩ := h.answer_in_hand hrunning
        simp only [handle, onDevice] at hfault
        cases hget : m.devices.get d with
        | none =>
            rw [hget] at hfault
            cases hfault
        | some device =>
            cases hreceived : device.toDeviceMock.onMessageReceived p.letter.message with
            | ok result =>
                simp only [hget, hreceived] at hfault
                cases hfault
            | error what =>
                simp only [hget, hreceived] at hfault
                cases hfault
                obtain ⟨rfl, hnone⟩ := DeviceMock.onMessageReceived_error hreceived
                  fun meterage hread =>
                    hanswer meterage (hsealed.content_eq (h.orderly.devices d device hget) hread).symm
                exact ⟨rfl, d, device, _, rfl, hget, hnone⟩
    | _ => cases hfault
  · rintro ⟨rfl, d, device, message, rfl, hget, hnone⟩
    simp only [handle, onDevice, hget, DeviceMock.onMessageReceived_reject hnone]

/-- The device takes up another executor before the answer gets to it. -/
def garbled : List SessionStep :=
  greeting ++ [.call (.selectDeviceExecutor 0 "ROT3"), .call (.setMeterages 0 [5]),
    .call (.startMeterageSending 0), .start, .handle, .call (.selectDeviceExecutor 0 "Mirror"), .start]

theorem session_faults_garbled :
    (create.session .stable .byEntry garbled).world.running =
        some (.message (.deviceMessage 0) ['h'.toUInt8, 'v'.toUInt8], .message) ∧
      ∃ device, (create.session .stable .byEntry garbled).devices.get 0 = some device ∧
        ∀ content, ¬ serialize content <+: device.encoder.decode ['h'.toUInt8, 'v'.toUInt8] := by
  have hknown : ∀ step ∈ garbled, step.Known := by
    simp [garbled, greeting, SessionStep.Known, MonitoringCall.Known]
  have hrunning : (create.session .stable .byEntry garbled).world.running =
      some (.message (.deviceMessage 0) ['h'.toUInt8, 'v'.toUInt8], .message) := rfl
  have hfault : (create.session .stable .byEntry garbled).handle
      (.message (.deviceMessage 0) ['h'.toUInt8, 'v'.toUInt8]) =
        .error (.exception "Message deserialization error!") := rfl
  obtain ⟨-, d, device, message, heq, hget, hnone⟩ :=
    (session_faults .stable .byEntry garbled hknown _ _ hrunning _).mp hfault
  cases heq
  exact ⟨hrunning, device, hget, hnone⟩

end Monitoring
end DeviceMonitoring
