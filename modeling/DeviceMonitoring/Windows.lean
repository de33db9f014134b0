import DeviceMonitoring.Traffic

/-! How many letters can be underway. A device sends when it is told to start and for every
answer that it gets, and the server sends for every meterage that it gets. -/
namespace DeviceMonitoring

/-- The letters in the queue that are from, or for, the client of this identifier. -/
def World.inTransit {η : Type} (w : World η) (clientId : UInt64) : Nat :=
  w.net.mail.countP fun slot => (w.address slot.2).any (·.2 = clientId)

namespace Monitoring

def deviceIds (m : Monitoring) (d : Ref) : List UInt64 := ((m.devices.get d).map m.deviceId).toList

/-- Whose meterage sending is started in a step. -/
def startedIn (m : Monitoring) : SessionStep → List UInt64
  | .call (.startMeterageSending d) => if m.world.running.isSome then [] else m.deviceIds d
  | _ => []

/-- Whose letter the handler that is running was called with. -/
def handling (m : Monitoring) : List UInt64 :=
  match m.world.running with
  | some (.message (.serverMessage clientId) _, _) => [clientId]
  | some (.message (.deviceMessage d) _, _) => m.deviceIds d
  | _ => []

theorem handling_of_none {m : Monitoring} (h : m.world.running = none) : m.handling = [] := by
  simp only [handling, h]

section Letters
variable {S : PhaseSort} {I : Iteration} {m m' : Monitoring} {invocation : Invocation Handler}
  {moment : Moment}

theorem nextLetters_ids (m : Monitoring) (d : Ref) :
    ((m.nextLetters d).map (·.clientId)).Sublist (m.deviceIds d) := by
  unfold nextLetters
  split
  · exact List.nil_sublist _
  next device hget =>
    split
    · unfold World.posts
      simp only
      split
      · exact List.nil_sublist _
      next client hc =>
        have hid : m.deviceIds d = [client.clientId] := by
          simp only [deviceIds, hget, deviceId, hc, Option.map_some, Option.getD_some,
            Option.toList_some]
        rw [hid, List.map_map]
        cases client.channel.bind m.world.net.receiver with
        | none => exact List.nil_sublist _
        | some b => exact List.Sublist.refl _
    · exact List.nil_sublist _

theorem Placed.replyLetters_ids (h : m.Placed) (deviceId : UInt64) (message : Bytes) :
    ((m.replyLetters deviceId message).map (·.clientId)).Sublist [deviceId] := by
  unfold replyLetters
  split
  · exact List.nil_sublist _
  next n hn =>
    obtain ⟨_, _, -, hw⟩ := h.settled
    obtain ⟨b, e, hb, he, hk, -⟩ := hw.owned.entry_end hn
    rw [World.posts, List.map_map, World.connectionPeerId_eq hb he, hk]
    cases (m.world.connectionChannel n).bind m.world.net.receiver with
    | none => exact List.nil_sublist _
    | some a => exact List.Sublist.refl _

/-- A handler sends no more than it was called with. -/
theorem Placed.does_ids (h : m.Placed) (hrunning : m.world.running = some (invocation, moment))
    (hdoes : m.Does invocation m') : ∃ letters, Sends m m' letters ∧
      (letters.map (·.clientId)).Sublist m.handling := by
  cases hdoes with
  | nothing => exact ⟨[], h.stays rfl fun _ => rfl, List.nil_sublist _⟩
  | takesOver n => exact ⟨[], h.onNewIncomingConnection n, List.nil_sublist _⟩
  | @keeps _ d message device mock hget hread hsent =>
      have hkept : Sends m (m.setDevice d fun _ => mock) [] :=
        h.stays rfl fun e => m.devices.map_get_modify d e fun _ => rfl
      have hids : (m.setDevice d fun _ => mock).deviceIds d = m.handling := by
        have hset : ((m.setDevice d fun _ => mock).devices.get d).map m.deviceId =
            (m.devices.get d).map m.deviceId := m.devices.map_get_modify d d fun _ => rfl
        simp only [handling, hrunning]
        exact congrArg Option.toList hset
      obtain ⟨hsends, -⟩ := hkept.placed.onDevice hsent
      exact ⟨_, hkept.trans hsends, hids ▸ nextLetters_ids _ d⟩
  | @answers deviceId message meterage center reply hread hprocessed =>
      have hserver : Sends m { m with server := { m.server with commandCenter := center } } [] :=
        h.stays rfl fun _ => rfl
      have hhandling : m.handling = [deviceId] := by simp only [handling, hrunning]
      rw [hhandling]
      exact ⟨_, hserver.trans (hserver.placed.sendMessage deviceId (m.server.outgoing reply)),
        hserver.placed.replyLetters_ids deviceId _⟩

theorem handling_handled (m : Monitoring) : (m.sessionStep S I .handle).handling = [] := by
  simp only [sessionStep]
  split
  next hnone => exact handling_of_none hnone
  · split
    next m' _ =>
      rcases World.running_resume m'.world with hnone | ⟨-, handler, c, hsome⟩
      · exact handling_of_none hnone
      · simp only [handling, hsome]
    · exact handling_of_none rfl

theorem Placed.handling_start (h : m.Placed) (hrun : m.world.running = none) :
    (({ m with world := m.world.start } : Monitoring).handling).Sublist
      ((m.world.arrived .start).map (·.clientId)) := by
  obtain ⟨_, _, -, hw⟩ := h.settled
  cases hrunning : m.world.start.running with
  | none =>
      rw [handling_of_none (m := { m with world := m.world.start }) hrunning]
      exact List.nil_sublist _
  | some running =>
      obtain ⟨invocation, moment⟩ := running
      cases invocation with
      | message handler message =>
          obtain ⟨l, hhanded, -, hto⟩ := letter_of_start h.attributed hw.owned h.current hrun hrunning
          rw [hhanded]
          rcases hto with ⟨-, rfl⟩ | ⟨-, d, device, rfl, hget, hid⟩
          · simp only [handling, hrunning, List.map_singleton]
            exact List.Sublist.refl _
          · simp only [handling, hrunning, deviceIds, hget, Option.map_some, Option.toList_some,
              List.map_singleton, ← hid]
            exact List.Sublist.refl _
      | _ =>
          simp only [handling, hrunning]
          exact List.nil_sublist _

end Letters

/-- The letters put into the queue and the one in hand, against the starts and the letters
handed over. -/
structure Windowed (S : PhaseSort) (started : List UInt64) (m : Monitoring) : Prop where
  sound : Sound S m
  placed : m.Placed
  letters : ∃ posted handed : List Letter, World.Underway id posted handed m.world ∧
    ∀ clientId, (posted.map (·.clientId)).count clientId + m.handling.count clientId ≤
      started.count clientId + (handed.map (·.clientId)).count clientId

namespace Windowed
variable {S : PhaseSort} {I : Iteration} {started : List UInt64} {m : Monitoring}

theorem sends (h : Windowed S started m) {step : SessionStep} {letters : List Letter}
    (hsends : Sends m (m.sessionStep S I step) letters)
    (hids : (letters.map (·.clientId)).Sublist (m.startedIn step ++ m.handling))
    (hdone : (m.sessionStep S I step).handling = []) :
    Windowed S (started ++ m.startedIn step) (m.sessionStep S I step) := by
  obtain ⟨posted, handed, hunderway, hcount⟩ := h.letters
  refine ⟨h.sound.step step, hsends.placed, posted ++ letters, handed, ?_, ?_⟩
  · exact hunderway.passage (by rw [List.map_id]; exact hsends.moves.passage)
  · intro clientId
    have hold := hcount clientId
    have hnew := hids.count_le clientId
    rw [List.count_append] at hnew
    rw [hdone, List.map_append, List.count_append, List.count_append, List.count_nil]
    omega

theorem start (h : Windowed S started m) :
    Windowed S started { m with world := m.world.start } := by
  have hsound : Sound S { m with world := m.world.start } := h.sound.step (I := .byEntry) .start
  cases hrunning : m.world.running with
  | some running =>
      rw [World.start_busy hrunning]
      exact h
  | none =>
      obtain ⟨posted, handed, hunderway, hcount⟩ := h.letters
      obtain ⟨given, hgiven, hafter⟩ := hunderway.start h.placed.settled
      rw [List.map_id] at hgiven
      subst hgiven
      refine ⟨hsound, h.placed.start, posted, _, hafter, fun clientId => ?_⟩
      have hold := hcount clientId
      have hnew := (h.placed.handling_start hrunning).count_le clientId
      rw [List.map_append, List.count_append]
      omega

theorem step (h : Windowed S started m) (step : SessionStep) :
    Windowed S (started ++ m.startedIn step) (m.sessionStep S I step) := by
  cases step with
  | start =>
      have hnothing : m.startedIn .start = [] := rfl
      rw [hnothing, List.append_nil]
      exact h.start
  | handle =>
      cases hrunning : m.world.running with
      | none =>
          have hstep : m.sessionStep S I .handle = m := by simp only [sessionStep, hrunning]
          have hsame : Sends m (m.sessionStep S I .handle) [] := by
            rw [hstep]
            exact h.placed.stays rfl fun _ => rfl
          exact h.sends hsame (List.nil_sublist _) (handling_handled m)
      | some running =>
          obtain ⟨m', hdoes, hstep⟩ := does_of_running (I := I) h.sound hrunning
          obtain ⟨letters, hsends, hids⟩ := h.placed.does_ids hrunning hdoes
          refine h.sends ?_ hids (handling_handled m)
          rw [hstep]
          exact hsends.followed hsends.placed.returns
  | call call =>
      cases hrunning : m.world.running with
      | some running =>
          -- nobody calls while a handler runs
          have hstep : m.sessionStep S I (.call call) = m := by
            simp only [sessionStep, hrunning, Option.isSome_some, if_true]
          have hnothing : m.startedIn (.call call) = [] := by
            cases call with
            | startMeterageSending d =>
                simp only [startedIn, hrunning, Option.isSome_some, if_true]
            | _ => rfl
          rw [hstep, hnothing, List.append_nil]
          exact h
      | none =>
          have hstep : m.sessionStep S I (.call call) = m.call S I call := by
            simp only [sessionStep, hrunning, Option.isSome_none, Bool.false_eq_true, if_false]
          have hidle := idle_call (S := S) (I := I) ⟨hrunning, h.placed.settled⟩ call
          have hdone : (m.sessionStep S I (.call call)).handling = [] := by
            rw [hstep]
            exact handling_of_none hidle.running
          by_cases hstart : ∃ d, call = .startMeterageSending d
          · obtain ⟨d, rfl⟩ := hstart
            refine h.sends (h.placed.onDevice (sessionStep_start hrunning d)).1 ?_ hdone
            have hstarted : m.startedIn (.call (.startMeterageSending d)) = m.deviceIds d := by
              simp only [startedIn, hrunning, Option.isSome_none, Bool.false_eq_true, if_false]
            rw [hstarted]
            exact (nextLetters_ids m d).trans (List.sublist_append_left _ _)
          · have hquiet : Sends m (m.sessionStep S I (.call call)) [] := by
              rw [hstep]
              exact h.placed.call hrunning fun d hd => hstart ⟨d, hd⟩
            exact h.sends hquiet (List.nil_sublist _) hdone

theorem run (h : Windowed S started m) (steps : List SessionStep) :
    Windowed S (started ++ trace (sessionStep S I) startedIn m steps) (m.session S I steps) := by
  induction steps generalizing m started with
  | nil =>
      rw [trace, List.append_nil]
      exact h
  | cons step steps ih =>
      rw [trace, ← List.append_assoc]
      exact ih (h.step step)

theorem create (S : PhaseSort) : Windowed S [] Monitoring.create := by
  refine ⟨sound_create S, placed_create, [], [], ?_, fun _ => Nat.le_refl _⟩
  exact World.Underway.empty.unposted (.of_net rfl rfl rfl)

/-- What is in the queue has been posted and not been handed over. -/
theorem window (h : Windowed S started m) (clientId : UInt64) :
    m.world.inTransit clientId + m.handling.count clientId ≤ started.count clientId := by
  obtain ⟨posted, handed, ⟨⟨pending, hmail, hconveys⟩, haddressed⟩, hcount⟩ := h.letters
  have hold := hcount clientId
  have hposted := (hconveys.order.map (·.clientId)).count_le clientId
  rw [List.map_append, List.count_append] at hposted
  have hpending : m.world.inTransit clientId ≤ (pending.map (·.clientId)).count clientId := by
    unfold World.inTransit
    rw [hmail, List.countP_map, List.count, List.countP_map]
    refine List.countP_mono_left fun l hl hto => ?_
    obtain ⟨-, hlive⟩ := haddressed l (hconveys.pending_subset hl)
    obtain ⟨whom, hwhom, hid⟩ := (Option.any_eq_true _ _).mp hto
    have hsome : (m.world.net.channels.get l.channel).isSome = true := by
      obtain ⟨channel, hget, -⟩ := Option.bind_eq_some_iff.mp hwhom
      exact hget ▸ rfl
    have haddress : m.world.address l.channel = some (l.toServer, l.clientId) := hlive hsome
    rw [show m.world.address l.channel = some whom from hwhom, Option.some.injEq] at haddress
    rw [haddress, decide_eq_true_iff] at hid
    exact beq_iff_eq.mpr hid
  omega

end Windowed

def startedDuring (S : PhaseSort) (I : Iteration) (steps : List SessionStep) : List UInt64 :=
  trace (sessionStep S I) startedIn create steps

/-- In every session, whatever the executors and whichever channels go: the letters in the queue
and in hand that are from a client or for it are no more than the times its meterage sending
was started. -/
theorem session_windows (S : PhaseSort) (I : Iteration) (steps : List SessionStep) (clientId : UInt64) :
    (create.session S I steps).world.inTransit clientId +
        (create.session S I steps).handling.count clientId ≤
      (startedDuring S I steps).count clientId :=
  ((Windowed.create S).run steps).window clientId

end Monitoring
end DeviceMonitoring
