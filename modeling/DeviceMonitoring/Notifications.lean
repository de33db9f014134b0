import DeviceMonitoring.Promises
import DeviceMonitoring.TaskCalls

/-! When a client is told that it is connected. -/
namespace DeviceMonitoring
variable {η : Type}

def Moment.connects : Moment → Bool
  | .connecting .. => true
  | .notified _ => true
  | _ => false

namespace World

/-- The client has a channel to a server it asked for; the channel is connected, and its
other end is held by the server that listens under the channel's peer identifier. -/
def Truthful (w : World η) (c : Ref) : Prop :=
  ∃ client a channel s n b, w.clients.get c = some client ∧ client.channel = some a ∧
    w.net.channels.get a = some channel ∧ (c, channel.peerId) ∈ w.requests ∧
    w.clientConnected c = true ∧ w.serversMap channel.peerId = some s ∧
    w.Holds s client.clientId n a b

/-- The step calls the connected handler of the client. -/
def Notifies (I : Iteration) (w : World η) (step : WorldStep η) (c : Ref) : Prop :=
  (w.step I step).running ≠ w.running ∧
    ∃ handler, (w.step I step).running = some (.connected handler, .notified c)

/-! The steps that lead to a notification -/

/-- The client takes its end of a promised pair; if it is told so, it is told the truth. -/
theorem truthful_clientSetChannel {w : World η} {q c s n b : Ref} {k sid : UInt64}
    (h : w.Promise q c s n b k sid) (hrunning : w.running = none) {handler : η} {d : Ref}
    (hnotified : (w.clientSetChannel c q).running = some (.connected handler, .notified d)) :
    d = c ∧ (w.clientSetChannel c q).Truthful d := by
  obtain ⟨⟨k', x⟩, hcend, hk⟩ := Option.map_eq_some_iff.mp h.client
  obtain rfl : k' = k := hk
  obtain ⟨client, hc, hclient⟩ := (Heap.view_eq_some _ _).mp hcend
  rw [ClientConnectionMock.toEnd, Prod.mk.injEq] at hclient
  obtain ⟨rfl, rfl⟩ := hclient
  obtain ⟨e, he, hsid, -⟩ := h.channel
  obtain ⟨channel, hchannel, rfl⟩ := (Heap.view_eq_some _ _).mp he
  unfold clientSetChannel at hnotified ⊢
  rw [hc] at hnotified ⊢
  simp only at hnotified ⊢
  cases hch : client.channel with
  | some a =>
      rw [hch] at hnotified
      rw [show ({ w with net := w.net.destroy q } : World η).running = none from hrunning] at hnotified
      cases hnotified
  | none =>
      rw [hch] at hnotified
      simp only at hnotified
      obtain ⟨_, -, hd⟩ := Option.map_eq_some_iff.mp hnotified
      simp only [Prod.mk.injEq, Moment.notified.injEq] at hd
      obtain ⟨-, rfl⟩ := hd
      have hmessage : (w.net.setMessageHandler q client.messageHandler).Joined q b :=
        h.joined.congr fun x _ => Heap.map_get_modify _ _ _ fun _ => rfl
      have hjoined : ((w.net.setMessageHandler q client.messageHandler).setDisconnectedHandler q
          (some (.client c))).Joined q b :=
        hmessage.congr fun x _ => Heap.map_get_modify _ _ _ fun _ => rfl
      have hclient : (w.clients.modify c fun client => { client with channel := some q }).get c =
          some { client with channel := some q } := by
        rw [Heap.get_modify_self, hc, Option.map_some]
      rw [← hsid] at h
      refine ⟨rfl, { client with channel := some q }, q,
        { channel with
          messageHandler := client.messageHandler
          disconnectedHandler := some (.client c) },
        s, n, b, hclient, rfl, ?_, h.asked, ?_, h.server, h.entry,
        connectionChannel_eq_some.mpr ⟨s, h.connection⟩, hjoined⟩
      · simp only [Net.setMessageHandler, Net.setDisconnectedHandler, Heap.get_modify_self, hchannel]
        rfl
      · simp only [clientConnected, clientChannel, hclient, Option.bind_some]
        exact hjoined.connected

/-- The server accepts: the pair is promised to the client. -/
theorem promise_addConnection {w : World η} (hw : w.Consistent none none)
    {task : ConnectToServerTask} {s c : Ref} (hs : w.serversMap task.serverId = some s)
    (hc : w.clientsMap task.clientId = some c) (hasked : (c, task.serverId) ∈ w.requests)
    {server : ConnectionServerMock η} (hserver : w.servers.get s = some server)
    (hfree : w.connection s task.clientId = none) (next : Moment) :
    ((w.opened s task).addConnection s w.connections.next next).Promise (w.net.channels.next + 1) c s
      w.connections.next w.net.channels.next task.clientId task.serverId := by
  have hshape := shape_addConnection_free task next hserver hfree
  obtain ⟨hchannel, -⟩ := clientSide_addConnection task next hserver
  have hentry := congrFun (congrFun (congrArg Shape.entry hshape) s) task.clientId
  have hconnection := congrFun (congrArg Shape.connection hshape) w.connections.next
  constructor
  · rw [hshape]
    exact ((hw.clientsMap _ c).mp hc).2
  · exact ⟨_, hchannel, rfl, rfl⟩
  · rw [addConnection_free task next hserver hfree]
    exact hasked
  · rw [addConnection_free task next hserver hfree]
    exact hs
  · exact hentry.trans (if_pos ⟨rfl, rfl⟩)
  · exact hconnection.trans (Function.update_self ..)
  · rw [addConnection_free task next hserver hfree]
    refine ⟨Nat.succ_ne_self _, ⟨_, Heap.get_alloc_next .., rfl, rfl⟩, ⟨_, get_opened w s task, rfl, rfl⟩⟩

/-- Only a `ConnectToServerTask` leads to a notification. -/
theorem start_cases {w : World η} (hrun : w.running = none) :
    (∃ task tasks, w.net.tasks = .other task :: tasks ∧
      w.start = ({ w with net := { w.net with tasks } } : World η).connectToServer task) ∨
    ∀ running ∈ w.start.running, running.2.connects = false := by
  by_cases hother : ∃ task tasks, w.net.tasks = .other task :: tasks
  · obtain ⟨task, tasks, htasks⟩ := hother
    exact .inl ⟨task, tasks, htasks, start_other hrun htasks rfl⟩
  · refine .inr fun ⟨invocation, moment⟩ hrunning => ?_
    obtain ⟨task, tasks, htasks, hcalls⟩ := calls_start hrun hrunning
    cases hcalls with
    | newConnection => exact absurd ⟨_, tasks, htasks⟩ hother
    | connected => exact absurd ⟨_, tasks, htasks⟩ hother
    | _ => rfl

theorem running_clientSetChannel_of_channel {w : World η} {c a : Ref}
    (ha : w.clientChannel c = some a) (q : Ref) : (w.clientSetChannel c q).running = w.running := by
  obtain ⟨client, hc, hclient⟩ := Option.bind_eq_some_iff.mp ha
  simp only [clientSetChannel, hc, hclient]

/-- What a running handler that tells of a connection may rely on. -/
def Told (w : World η) : Prop :=
  (∀ invocation q c s, w.running = some (invocation, .connecting q c s) →
    ∃ handler n b k sid, invocation = .newConnection handler n ∧ w.Promise q c s n b k sid) ∧
  ∀ handler c, w.running = some (.connected handler, .notified c) → w.Truthful c

theorem told_of_connects {w : World η} (h : ∀ running ∈ w.running, running.2.connects = false) :
    w.Told := by
  constructor
  · intro invocation q c s hrunning
    cases h _ hrunning
  · intro handler c hrunning
    cases h _ hrunning

theorem told_clientSetChannel {w : World η} {q c s n b : Ref} {k sid : UInt64}
    (h : w.Promise q c s n b k sid) (hrun : w.running = none) : (w.clientSetChannel c q).Told := by
  constructor
  · intro invocation q' c' s' hrunning
    obtain ⟨_, _, -, -, -, heq⟩ := calls_clientSetChannel hrun hrunning
    cases heq
  · intro handler d hrunning
    exact (truthful_clientSetChannel h hrun hrunning).2

theorem told_newConnection {w : World η} {handler : η} {q c s n b : Ref} {k sid : UInt64}
    (h : w.Promise q c s n b k sid)
    (hrun : w.running = some (.newConnection handler n, .connecting q c s)) : w.Told := by
  constructor
  · intro invocation q' c' s' hrunning
    rw [hrun] at hrunning
    cases hrunning
    exact ⟨handler, n, b, k, sid, rfl, h⟩
  · intro handler' d hrunning
    rw [hrun] at hrunning
    cases hrunning

/-- The server refuses a client that has a channel already, and the client hears nothing. -/
theorem told_refused {w : World η} (hrun : w.running = none) (task : ConnectToServerTask)
    {s c m a : Ref} {server : ConnectionServerMock η} (hserver : w.servers.get s = some server)
    (hentry : w.connection s task.clientId = some m) (ha : w.clientChannel c = some a)
    (next : Moment) (q : Ref) :
    let w' := (w.opened s task).addConnection s w.connections.next next
    w'.running = none ∧ (w'.clientSetChannel c q).Told := by
  simp only [addConnection_taken task next hserver hentry]
  have hrun' : ((w.opened s task).destroyConnection w.connections.next).running = none := hrun
  have ha' : ((w.opened s task).destroyConnection w.connections.next).clientChannel c = some a := ha
  refine ⟨hrun', told_of_connects ?_⟩
  rw [running_clientSetChannel_of_channel ha', hrun']
  simp

/-- A task that was asked for by its client, and that the server does not refuse. -/
theorem told_connectToServer {w : World η} (hw : w.Consistent none none) (hrun : w.running = none)
    {task : ConnectToServerTask}
    (hasked : ∀ c, w.clientsMap task.clientId = some c → (c, task.serverId) ∈ w.requests)
    (haccepts : ∀ s c, w.serversMap task.serverId = some s → w.clientsMap task.clientId = some c →
      w.clientChannel c = none → w.connection s task.clientId = none) :
    (w.connectToServer task).Told := by
  have hidle : w.Told := told_of_connects (by simp [hrun])
  cases hs : w.serversMap task.serverId with
  | none =>
      unfold connectToServer
      rw [hs]
      exact hidle
  | some s =>
      cases hc : w.clientsMap task.clientId with
      | none =>
          unfold connectToServer
          rw [hs, hc]
          exact hidle
      | some c =>
          obtain ⟨-, hid⟩ := (hw.serversMap _ s).mp hs
          obtain ⟨server, hserver, -⟩ := (Heap.view_eq_some _ _).mp hid
          rw [connectToServer_eq task hs hc]
          simp only
          cases hentry : w.connection s task.clientId with
          | some m =>
              have hchannel : w.clientChannel c ≠ none := by
                intro hnone
                rw [haccepts s c hs hc hnone] at hentry
                cases hentry
              obtain ⟨a, ha⟩ := Option.ne_none_iff_exists'.mp hchannel
              obtain ⟨hrun', htold⟩ := told_refused hrun task hserver hentry ha
                (.connecting (w.net.channels.next + 1) c s) (w.net.channels.next + 1)
              rwa [hrun', if_neg (by simp)]
          | none =>
              have hpromise := promise_addConnection hw hs hc (hasked c hc) hserver hentry
                (.connecting (w.net.channels.next + 1) c s)
              have hrun' := congrArg World.running (addConnection_free task
                (.connecting (w.net.channels.next + 1) c s) hserver hentry)
              cases hhandler : server.newConnectionHandler with
              | none =>
                  simp only [hhandler, Option.map_none] at hrun'
                  rw [hrun', if_neg (by simp)]
                  exact told_clientSetChannel hpromise hrun'
              | some handler =>
                  simp only [hhandler, Option.map_some] at hrun'
                  rw [if_pos (by rw [hrun', Option.isSome_some])]
                  exact told_newConnection hpromise hrun'

/-- What holds between the steps of a run whose steps are timely. -/
structure Honest (w : World η) : Prop where
  settled : w.Settled
  asked : w.Asked
  promise : ∀ invocation q c s, w.running = some (invocation, .connecting q c s) →
    ∃ handler n b k sid, invocation = .newConnection handler n ∧ w.Promise q c s n b k sid

theorem honest_empty : ({} : World η).Honest := by
  refine ⟨settled_empty, ?_, ?_⟩
  · intro task c hmem hc
    cases hc
  · intro invocation q c s hrunning
    cases hrunning

theorem told_start {w : World η} (h : w.Honest) (hrun : w.running = none)
    (htimely : w.timely .start = true) : w.start.Told := by
  rcases start_cases hrun with ⟨task, tasks, htasks, hstart⟩ | hconnects
  · obtain ⟨floating, closing, hsituation, hw⟩ := h.settled
    rw [hrun] at hsituation
    obtain ⟨rfl, rfl⟩ := hsituation
    rw [hstart]
    apply told_connectToServer (consistent_popped hw htasks none (by simp) (by simp)) hrun
    · intro c hc
      exact h.asked task c (htasks ▸ List.mem_cons_self) hc
    · intro s c hs hc hchannel
      have hrefuses : w.refuses = false := by simpa using (Bool.and_eq_true_iff.mp htimely).2
      simp only at hs hc
      change w.clientChannel c = none at hchannel
      change w.connection s task.clientId = none
      simpa [refuses, htasks, hs, hc, hchannel] using hrefuses
  · exact told_of_connects hconnects

theorem told_resume {w : World η} (h : w.Honest) : w.resume.Told := by
  cases hrun : w.running with
  | none =>
      unfold resume
      rw [hrun]
      exact told_of_connects (by simp [hrun])
  | some running =>
      obtain ⟨invocation, moment⟩ := running
      have hidle : ({ w with running := none } : World η).Told := told_of_connects (by simp)
      unfold resume
      rw [hrun]
      cases moment with
      | message => exact hidle
      | notified c => exact hidle
      | closingClient c =>
          apply told_of_connects
          simp only [running_clientOnDisconnected]
          simp
      | closingConnection n s =>
          apply told_of_connects
          simp only [running_serverOnDisconnected]
          simp
      | connecting q c s =>
          obtain ⟨handler, n, b, k, sid, -, hpromise⟩ := h.promise invocation q c s hrun
          have hpromise' : ({ w with running := none } : World η).Promise q c s n b k sid :=
            ⟨hpromise.client, hpromise.channel, hpromise.asked, hpromise.server, hpromise.entry,
              hpromise.connection, hpromise.joined⟩
          exact told_clientSetChannel hpromise' rfl

theorem honest_step (I : Iteration) {w : World η} (h : w.Honest) {step : WorldStep η}
    (htimely : w.timely step = true) : (w.step I step).Honest := by
  have hsettled := settled_step I h.settled (keepsIdentifier_of_orderly (orderly_of_timely htimely))
  cases step with
  | newClient =>
      refine ⟨hsettled, h.asked, ?_⟩
      intro invocation q c s hrunning
      obtain ⟨handler, n, b, k, sid, heq, hpromise⟩ := h.promise invocation q c s hrunning
      have hshape := shape_newClient w
      have hnew : c ≠ w.clients.next := by
        rintro rfl
        have hnone : w.shape.client w.clients.next = none := w.clients.view_next _
        have hclient := hpromise.client
        rw [Shape.clientIds, hnone] at hclient
        cases hclient
      refine ⟨handler, n, b, k, sid, heq, ?_⟩
      simp only [World.step]
      apply hpromise.congr
      · rw [hshape, Shape.clientIds_setClient, Function.update_of_ne hnew]
      · rw [hshape]
        rfl
      · rfl
      · rfl
      · rfl
      · rw [hshape]
        rfl
      · exact hpromise.joined
  | newServer =>
      refine ⟨hsettled, h.asked, ?_⟩
      intro invocation q c s hrunning
      obtain ⟨handler, n, b, k, sid, heq, hpromise⟩ := h.promise invocation q c s hrunning
      have hshape := shape_newServer w
      refine ⟨handler, n, b, k, sid, heq, ?_⟩
      simp only [World.step]
      exact hpromise.congr (by rw [hshape]) (by rw [hshape]) rfl rfl
        (congrFun (congrFun (congrArg Shape.entry hshape) s) k) (by rw [hshape]) hpromise.joined
  | start =>
      cases hrun : w.running with
      | none => exact ⟨hsettled, (keeps_start w).asked h.asked, (told_start h hrun htimely).1⟩
      | some running =>
          rw [World.step, start_busy hrun]
          exact h
  | resume => exact ⟨hsettled, (keeps_resume w).asked h.asked, (told_resume h).1⟩
  | call call =>
      by_cases hallows : w.allows call = true
      · simp only [World.step, hallows, if_true] at hsettled ⊢
        refine ⟨hsettled, asked_perform I h.asked h.settled htimely, ?_⟩
        intro invocation q c s hrunning
        rw [running_perform] at hrunning
        obtain ⟨handler, n, b, k, sid, rfl, hpromise⟩ := h.promise invocation q c s hrunning
        exact ⟨handler, n, b, k, sid, rfl, hpromise.perform I h.settled hrunning hallows htimely⟩
      · simp only [World.step, hallows]
        exact h

theorem honest_run (I : Iteration) {w : World η} (h : w.Honest) (steps : List (WorldStep η))
    (hsteps : w.along I timely steps = true) : (w.run I steps).Honest := by
  induction steps generalizing w with
  | nil => exact h
  | cons step steps ih =>
      obtain ⟨hstep, hrest⟩ := Bool.and_eq_true_iff.mp hsteps
      exact ih (honest_step I h hstep) hrest

/-- The step that calls a connected handler is the start of a task, or the return of the
handler of the new connection. -/
theorem truthful_step (I : Iteration) {w : World η} (h : w.Honest) {step : WorldStep η}
    (htimely : w.timely step = true) {c : Ref} (hnotifies : Notifies I w step c) :
    (w.step I step).Truthful c := by
  obtain ⟨hchanged, handler, hrunning⟩ := hnotifies
  cases step with
  | newClient => exact absurd rfl hchanged
  | newServer => exact absurd rfl hchanged
  | call call =>
      refine absurd ?_ hchanged
      unfold World.step
      simp only
      split
      · exact running_perform I w call
      · rfl
  | start =>
      cases hrun : w.running with
      | none => exact (told_start h hrun htimely).2 handler c hrunning
      | some running =>
          refine absurd ?_ hchanged
          rw [World.step, start_busy hrun]
  | resume => exact (told_resume h).2 handler c hrunning

/-- In every run whose steps are timely, at every step that notifies a client. -/
theorem notifications_truthful (I : Iteration) (steps : List (WorldStep η)) (step : WorldStep η)
    (htimely : ({} : World η).along I timely (steps ++ [step]) = true) :
    ∀ c, Notifies I (({} : World η).run I steps) step c →
      (({} : World η).run I (steps ++ [step])).Truthful c := by
  intro c hnotifies
  rw [along_append, Bool.and_eq_true_iff] at htimely
  obtain ⟨hsteps, hstep⟩ := htimely
  have hhonest := honest_run I honest_empty steps hsteps
  unfold run
  rw [List.foldl_append]
  apply truthful_step I hhonest _ hnotifies
  simpa only [along, Bool.and_true] using hstep

def askRun : List (WorldStep Unit) :=
  [.newClient, .newServer, .call (.bind 0 7), .call (.listen 0 5),
    .call (.setConnectedHandler 0 (some ())), .call (.setNewConnectionHandler 0 (some ())),
    .call (.connectToHost 0 5), .start, .call (.connectionSetMessageHandler 0 (some ()))]

theorem notifies_askRun : Notifies .byEntry (({} : World Unit).run .byEntry askRun) .resume 0 := by
  refine ⟨?_, (), rfl⟩
  intro heq
  have hmoment := congrArg (Option.map Prod.snd) heq
  cases hmoment

theorem notifications_truthful_askRun :
    (({} : World Unit).run .byEntry (askRun ++ [.resume])).Truthful 0 :=
  notifications_truthful .byEntry askRun .resume (by decide) 0 notifies_askRun

/-- The client 0 asks for the server and takes another identifier; the client 1 takes the
identifier that the queued task carries. -/
def strangerRun : List (WorldStep Unit) :=
  [.newClient, .newClient, .newServer, .call (.listen 0 5), .call (.bind 0 7),
    .call (.connectToHost 0 5), .call (.bind 0 8), .call (.bind 1 7),
    .call (.setConnectedHandler 1 (some ()))]

/-- The server 1 accepts while the client still has a channel of the server 0, and holds
the half connection when the client asks again. -/
def staleRun : List (WorldStep Unit) :=
  [.newClient, .newServer, .newServer, .call (.listen 0 4), .call (.listen 1 5), .call (.bind 0 7),
    .call (.setConnectedHandler 0 (some ())), .call (.connectToHost 0 4), .start, .resume,
    .call (.connectToHost 0 5), .call (.clientDisconnect 0), .call (.connectToHost 0 5),
    .start, .start, .start]

theorem notifications_mislead :
    (Notifies .byEntry (({} : World Unit).run .byEntry strangerRun) .start 1 ∧
      ¬(({} : World Unit).run .byEntry (strangerRun ++ [.start])).Truthful 1) ∧
    (Notifies .byEntry (({} : World Unit).run .byEntry staleRun) .start 0 ∧
      ¬(({} : World Unit).run .byEntry (staleRun ++ [.start])).Truthful 0) := by
  refine ⟨⟨⟨?_, (), rfl⟩, ?_⟩, ⟨⟨?_, (), rfl⟩, ?_⟩⟩
  · intro heq
    cases congrArg Option.isSome heq
  · rintro ⟨client, a, channel, s, n, b, -, -, -, hasked, -⟩
    -- the client 0 is the only one that asked
    have hrequests : (({} : World Unit).run .byEntry (strangerRun ++ [.start])).requests = [(0, 5)] := rfl
    rw [hrequests] at hasked
    simp at hasked
  · intro heq
    cases congrArg Option.isSome heq
  · rintro ⟨client, a, channel, s, n, b, -, -, -, -, hconnected, -⟩
    have hoff : (({} : World Unit).run .byEntry (staleRun ++ [.start])).clientConnected 0 = false := rfl
    rw [hoff] at hconnected
    cases hconnected

end World
end DeviceMonitoring
