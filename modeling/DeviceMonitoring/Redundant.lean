import DeviceMonitoring.ConnectedFlags
import DeviceMonitoring.Later

/-! A request for a connection by a client that has one: the pair made for it is rejected, and
nothing else comes of it. -/
namespace DeviceMonitoring
variable {η : Type}

/-- The calls that install a handler. -/
def Call.installs : Call η → Bool
  | .clientSetMessageHandler .. | .clientSetDisconnectedHandler .. | .setConnectedHandler ..
  | .connectionSetMessageHandler .. | .connectionSetDisconnectedHandler ..
  | .setNewConnectionHandler .. => true
  | _ => false

abbrev Install (η : Type) := { call : Call η // call.installs = true }

theorem Call.binds_of_installs {call : Call η} (hcall : call.installs = true) :
    call.binds = false := by
  cases call <;> first | rfl | cases hcall

theorem Call.registers_of_installs {call : Call η} (hcall : call.installs = true) :
    call.registers = false := by
  cases call <;> first | rfl | cases hcall

def Install.handlerCall (install : Install η) : HandlerCall η :=
  ⟨install.1, Call.binds_of_installs install.2⟩

def Install.step (install : Install η) : WorldStep η := .call install.1

/-- A channel but for the message handler it has. -/
def ConnectionChannel.bare {μ δ : Type} (c : ConnectionChannel μ δ) : ConnectionChannel μ δ :=
  { c with messageHandler := none }

namespace Net
variable {μ δ τ : Type} {net : Net μ δ τ} {a b r : Ref}

theorem get_destroy_joined (h : net.Joined a b) (ha : r ≠ a) (hb : r ≠ b) :
    (net.destroy a).channels.get r = net.channels.get r := by
  rw [destroy_joined h]
  simp only [Heap.get_free_of_ne _ ha, Heap.get_modify_of_ne _ _ ha, Heap.get_modify_of_ne _ _ hb]

theorem connected_destroy_joined (h : net.Joined a b) : (net.destroy a).connected b = false := by
  obtain ⟨c, hc, -⟩ := h.right
  rw [destroy_joined h]
  simp only [connected, Heap.get_free_of_ne _ h.ne.symm, Heap.get_modify_of_ne _ _ h.ne.symm,
    Heap.get_modify_self, hc]
  rfl

theorem Joined.of_bare (h : net.Joined a b) {net' : Net μ δ τ}
    (ha : (net'.channels.get a).map ConnectionChannel.bare =
      (net.channels.get a).map ConnectionChannel.bare)
    (hb : (net'.channels.get b).map ConnectionChannel.bare =
      (net.channels.get b).map ConnectionChannel.bare) : net'.Joined a b := by
  have hends : ∀ x, (net'.channels.get x).map ConnectionChannel.bare =
      (net.channels.get x).map ConnectionChannel.bare →
        (net'.channels.get x).map (fun c => (c.peerChannel, c.connected)) =
          (net.channels.get x).map fun c => (c.peerChannel, c.connected) := by
    intro x hx
    have hmap := congrArg (Option.map fun c => (c.peerChannel, c.connected)) hx
    rwa [Option.map_map, Option.map_map] at hmap
  apply h.congr
  rintro x (rfl | rfl)
  · exact hends x ha
  · exact hends x hb

end Net

namespace World

/-- What a task of the queue finds: a state in which no handler runs, or the one after, in
which the task has left the queue. -/
inductive Reachable (I : Iteration) : World η → Prop
  | idle (steps : List (WorldStep η)) (hsteps : ({} : World η).along I keepsIdentifier steps = true)
      (hrunning : (({} : World η).run I steps).running = none) :
      Reachable I (({} : World η).run I steps)
  | taken (steps : List (WorldStep η)) (hsteps : ({} : World η).along I keepsIdentifier steps = true)
      (hrunning : (({} : World η).run I steps).running = none) {task : ConnectToServerTask}
      {tasks : List (Task ConnectToServerTask)}
      (htasks : (({} : World η).run I steps).net.tasks = .other task :: tasks) :
      Reachable I { ({} : World η).run I steps with
        net := { (({} : World η).run I steps).net with tasks } }

theorem Reachable.idle_state {I : Iteration} {w : World η} (h : w.Reachable I) : w.Idle := by
  cases h with
  | idle steps hsteps hrunning => exact ⟨hrunning, settled_run I settled_empty steps hsteps⟩
  | taken steps hsteps hrunning htasks =>
      have hidle : (({} : World η).run I steps).Idle :=
        ⟨hrunning, settled_run I settled_empty steps hsteps⟩
      refine ⟨hrunning, ?_⟩
      exact settled_of_idle (consistent_popped hidle.consistent htasks none (by simp) (by simp)) hrunning

/-- `ConnectToServerTask::operator()`, with what the handler of the new connection installs. -/
def connectInstalling (I : Iteration) (w : World η) (task : ConnectToServerTask)
    (installs : List (Install η)) : World η :=
  match (w.connectToServer task).running with
  | none => w.connectToServer task
  | some _ => ((w.connectToServer task).run I (installs.map Install.step)).resume

/-- Everything that was there still is, but for the handlers installed. The tasks that came
are disconnect tasks of channels that came. -/
structure Undisturbed (w w' : World η) : Prop where
  channels : ∀ r < w.net.channels.next, (w'.net.channels.get r).map ConnectionChannel.bare =
    (w.net.channels.get r).map ConnectionChannel.bare
  clients : w'.clients.view ClientConnectionMock.toEnd = w.clients.view ClientConnectionMock.toEnd
  connections : ∀ n < w.connections.next, w'.connections.view ConnectionMock.toEnd n =
    w.connections.view ConnectionMock.toEnd n
  entries : ∀ s k n, w.connection s k = some n → w'.connection s k = some n
  tasks : ∃ new, w'.net.tasks = w.net.tasks ++ new ∧ ∀ task ∈ new, ∃ r, task = .disconnect r ∧
    w.net.channels.next ≤ r ∧ r < w'.net.channels.next

namespace Undisturbed
variable {w w' : World η}

theorem refl (w : World η) : Undisturbed w w :=
  ⟨fun _ _ => rfl, rfl, fun _ _ => rfl, fun _ _ _ h => h, [], (List.append_nil _).symm, by simp⟩

theorem clientChannel (h : Undisturbed w w') (c : Ref) : w'.clientChannel c = w.clientChannel c := by
  have hshape : w'.shape.client = w.shape.client := h.clients
  ext a
  rw [clientChannel_eq_some, clientChannel_eq_some, hshape]

theorem holds (h : Undisturbed w w') {s n a b : Ref} {k : UInt64} (hholds : w.Holds s k n a b) :
    w'.Holds s k n a b := by
  obtain ⟨hentry, hb, hj⟩ := hholds
  obtain ⟨c, hc, -⟩ := hj.left
  obtain ⟨d, hd, -⟩ := hj.right
  obtain ⟨conn, hconn, -⟩ := Option.bind_eq_some_iff.mp hb
  refine ⟨h.entries s k n hentry, ?_, hj.of_bare (h.channels a (Heap.lt_next hc))
    (h.channels b (Heap.lt_next hd))⟩
  obtain ⟨t, ht⟩ := connectionChannel_eq_some.mp hb
  exact connectionChannel_eq_some.mpr ⟨t, (h.connections n (Heap.lt_next hconn)).trans ht⟩

end Undisturbed

/-- What a handler can have installed. -/
structure Installed (w w' : World η) : Prop where
  channels : ∀ r, (w'.net.channels.get r).map ConnectionChannel.bare =
    (w.net.channels.get r).map ConnectionChannel.bare
  next : w'.net.channels.next = w.net.channels.next
  tasks : w'.net.tasks = w.net.tasks
  connections : w'.connections.next = w.connections.next
  shape : w'.shape = w.shape
  running : w'.running = w.running

theorem Installed.refl (w : World η) : Installed w w := ⟨fun _ => rfl, rfl, rfl, rfl, rfl, rfl⟩

theorem Installed.trans {w w' w'' : World η} (h : Installed w w') (h' : Installed w' w'') :
    Installed w w'' where
  channels r := (h'.channels r).trans (h.channels r)
  next := h'.next.trans h.next
  tasks := h'.tasks.trans h.tasks
  connections := h'.connections.trans h.connections
  shape := h'.shape.trans h.shape
  running := h'.running.trans h.running

/-- An installation reaches the channels by `setMessageHandler` only. -/
theorem net_installs (I : Iteration) (w : World η) {call : Call η} (hcall : call.installs = true) :
    ((w.perform I call).net = w.net ∨
      ∃ ch handler, (w.perform I call).net = w.net.setMessageHandler ch handler) ∧
    (w.perform I call).connections.next = w.connections.next := by
  cases call with
  | clientSetMessageHandler c handler =>
      simp only [perform, clientSetMessageHandler]
      split
      · exact ⟨.inl rfl, rfl⟩
      next ch _ => exact ⟨.inr ⟨ch, handler, rfl⟩, rfl⟩
  | connectionSetMessageHandler n handler =>
      simp only [perform, connectionSetMessageHandler]
      split
      · exact ⟨.inl rfl, rfl⟩
      next ch _ => exact ⟨.inr ⟨ch, handler, rfl⟩, rfl⟩
  | clientSetDisconnectedHandler c handler => exact ⟨.inl rfl, rfl⟩
  | setConnectedHandler c handler => exact ⟨.inl rfl, rfl⟩
  | connectionSetDisconnectedHandler n handler => exact ⟨.inl rfl, rfl⟩
  | setNewConnectionHandler s handler => exact ⟨.inl rfl, rfl⟩
  | _ => cases hcall

theorem installed_perform (I : Iteration) (w : World η) {call : Call η}
    (hcall : call.installs = true) : Installed w (w.perform I call) := by
  obtain ⟨hnet, hconnections⟩ := net_installs I w hcall
  have hquiet := quiet_perform I w (Call.registers_of_installs hcall)
  rcases hnet with hnet | ⟨ch, handler, hnet⟩
  · exact ⟨fun _ => by rw [hnet], by rw [hnet], by rw [hnet], hconnections, hquiet.shape,
      hquiet.running⟩
  · refine ⟨fun r => ?_, by rw [hnet]; rfl, by rw [hnet]; rfl, hconnections, hquiet.shape,
      hquiet.running⟩
    rw [hnet]
    exact Heap.map_get_modify _ _ _ fun _ => rfl

theorem installed_run (I : Iteration) (w : World η) (installs : List (Install η)) :
    Installed w (w.run I (installs.map Install.step)) := by
  induction installs generalizing w with
  | nil => exact .refl w
  | cons install installs ih =>
      obtain ⟨call, hcall⟩ := install
      refine Installed.trans ?_ (ih _)
      simp only [Install.step, step]
      split
      · exact installed_perform I w hcall
      · exact .refl w

/-- The request came to nothing: nothing that was there has changed, and what came is on
its way out. -/
structure Rejected (w w' : World η) : Prop where
  undisturbed : w.Undisturbed w'
  running : w'.running = none
  created : ∀ n b, w.connections.next ≤ n → w'.connectionChannel n = some b →
    w.net.channels.next ≤ b ∧ b < w'.net.channels.next ∧ w'.net.connected b = false

theorem Rejected.refl {w : World η} (hrunning : w.running = none) : Rejected w w := by
  refine ⟨.refl w, hrunning, ?_⟩
  intro n b hn hb
  obtain ⟨conn, hconn, -⟩ := Option.bind_eq_some_iff.mp hb
  exact absurd (Heap.lt_next hconn) (Nat.not_lt.mpr hn)

theorem clientSetChannel_taken {w : World η} {c a : Ref} (ha : w.clientChannel c = some a) (q : Ref) :
    w.clientSetChannel c q = { w with net := w.net.destroy q } := by
  obtain ⟨client, hc, hclient⟩ := Option.bind_eq_some_iff.mp ha
  simp only [clientSetChannel, hc, hclient]

section Opened
variable (w : World η) (s : Ref) (task : ConnectToServerTask)

theorem get_opened_client :
    (w.opened s task).net.channels.get (w.net.channels.next + 1) = some
      { peerId := task.serverId
        peerChannel := some w.net.channels.next
        connected := true } := Heap.get_alloc_next ..

theorem get_opened_of_lt {r : Ref} (hr : r < w.net.channels.next) :
    (w.opened s task).net.channels.get r = w.net.channels.get r :=
  (Heap.get_alloc_of_ne _ _ (Nat.ne_of_lt (Nat.lt_succ_of_lt hr))).trans
    (Heap.get_alloc_of_ne _ _ (Nat.ne_of_lt hr))

theorem joined_opened :
    (w.opened s task).net.Joined (w.net.channels.next + 1) w.net.channels.next :=
  ⟨Nat.succ_ne_self _, ⟨_, get_opened_client w s task, rfl, rfl⟩, ⟨_, get_opened w s task, rfl, rfl⟩⟩

theorem view_opened_of_lt {n : Ref} (hn : n < w.connections.next) :
    (w.opened s task).connections.view ConnectionMock.toEnd n =
      w.connections.view ConnectionMock.toEnd n :=
  congrArg (Option.map _) (Heap.get_alloc_of_ne _ _ (Nat.ne_of_lt hn))

/-- The tasks that the rejection of the pair queues. -/
theorem rejection_tasks {w w' : World η} {tasks : List (Task ConnectToServerTask)}
    (htasks : w'.net.tasks = w.net.tasks ++ tasks)
    (hnext : w'.net.channels.next = w.net.channels.next + 2)
    (hnew : ∀ task ∈ tasks, task = .disconnect w.net.channels.next ∨
      task = .disconnect (w.net.channels.next + 1)) :
    ∃ new, w'.net.tasks = w.net.tasks ++ new ∧ ∀ task ∈ new, ∃ r, task = .disconnect r ∧
      w.net.channels.next ≤ r ∧ r < w'.net.channels.next := by
  refine ⟨tasks, htasks, fun task htask => ?_⟩
  rw [hnext]
  rcases hnew task htask with rfl | rfl
  · exact ⟨_, rfl, Nat.le_refl _, Nat.lt_add_of_pos_right Nat.two_pos⟩
  · exact ⟨_, rfl, Nat.le_succ _, Nat.lt_succ_self _⟩

/-- The server has a connection under the identifier: the new one takes its channel along, and
the client's end follows. -/
theorem rejected_taken {server : ConnectionServerMock η} {c a m : Ref} (hw : w.net.Wired none)
    (hrunning : w.running = none) (hserver : w.servers.get s = some server)
    (htaken : w.connection s task.clientId = some m) (ha : w.clientChannel c = some a) :
    let w' := (w.opened s task).addConnection s w.connections.next
      (.connecting (w.net.channels.next + 1) c s)
    w'.running = none ∧ Rejected w (w'.clientSetChannel c (w.net.channels.next + 1)) := by
  intro w'
  have hjoined := (joined_opened w s task).symm
  have hworld : w' = { w.opened s task with
      net := (w.opened s task).net.destroy w.net.channels.next
      connections := (w.opened s task).connections.free w.connections.next } := by
    have hclosed := addConnection_taken task (.connecting (w.net.channels.next + 1) c s) hserver htaken
    simp only [destroyConnection, connectionChannel_opened] at hclosed
    exact hclosed
  have hrunning' : w'.running = none := by
    rw [hworld]
    exact hrunning
  have ha' : w'.clientChannel c = some a := by
    rw [hworld]
    exact ha
  -- the client's end is off by now
  have hwired : ((w.opened s task).net.destroy w.net.channels.next).Wired none :=
    (wired_opened s task hw).destroy _ (by simp)
  have hoff := hwired.destroy_off (Net.connected_destroy_joined hjoined)
  refine ⟨hrunning', ?_⟩
  rw [clientSetChannel_taken ha', hworld]
  simp only [hoff]
  refine ⟨⟨?_, rfl, ?_, fun _ _ _ h => h, ?_⟩, hrunning, ?_⟩
  · intro r hr
    have hne : r ≠ w.net.channels.next := Nat.ne_of_lt hr
    have hne' : r ≠ w.net.channels.next + 1 := Nat.ne_of_lt (Nat.lt_succ_of_lt hr)
    rw [Heap.get_free_of_ne _ hne', Net.get_destroy_joined hjoined hne hne', get_opened_of_lt w s task hr]
  · intro n hn
    rw [Heap.view_free, Function.update_of_ne (Nat.ne_of_lt hn), view_opened_of_lt w s task hn]
  · apply rejection_tasks (w := w)
    · rw [Net.destroy_joined hjoined]
      rfl
    · rw [Net.destroy_joined hjoined]
      rfl
    · simp
  · intro n b hn hb
    obtain ⟨conn, hconn, -⟩ := Option.bind_eq_some_iff.mp hb
    obtain ⟨hne, hconn⟩ := Heap.get_free_eq_some.mp hconn
    have hlt : n < w.connections.next + 1 := Heap.lt_next hconn
    exact absurd (Nat.le_antisymm (Nat.le_of_lt_succ hlt) hn) hne

/-- The server takes the connection in, and the client does not: the client's end takes the
server's end down. -/
theorem rejected_free {server : ConnectionServerMock η} {c a : Ref}
    (hserver : w.servers.get s = some server) (hfree : w.connection s task.clientId = none)
    (ha : w.clientChannel c = some a) {w' : World η}
    (hw' : Installed ((w.opened s task).addConnection s w.connections.next
      (.connecting (w.net.channels.next + 1) c s)) w') :
    Rejected w (({ w' with running := none } : World η).clientSetChannel c
      (w.net.channels.next + 1)) := by
  rw [addConnection_free task _ hserver hfree] at hw'
  have hclient : w'.shape.client = w.shape.client :=
    (congrArg Shape.client hw'.shape).trans rfl
  have hconnection : w'.shape.connection = Function.update w.shape.connection w.connections.next
      (some (s, some w.net.channels.next)) := by
    refine (congrArg Shape.connection hw'.shape).trans ?_
    exact congrArg Shape.connection (shape_opened w s task)
  have hentry : w'.connection = fun t k =>
      if t = s ∧ k = task.clientId then some w.connections.next else w.connection t k := by
    refine (congrArg Shape.entry hw'.shape).trans ?_
    exact connection_insert w _ hserver rfl
  have ha' : w'.clientChannel c = some a := by
    obtain ⟨k, hk⟩ := clientChannel_eq_some.mp ha
    exact clientChannel_eq_some.mpr ⟨k, by rw [hclient]; exact hk⟩
  have hjoined : w'.net.Joined (w.net.channels.next + 1) w.net.channels.next :=
    (joined_opened w s task).of_bare (hw'.channels _) (hw'.channels _)
  rw [clientSetChannel_taken (w := { w' with running := none }) ha']
  refine ⟨⟨?_, hclient, ?_, ?_, ?_⟩, rfl, ?_⟩
  · intro r hr
    have hne : r ≠ w.net.channels.next := Nat.ne_of_lt hr
    have hne' : r ≠ w.net.channels.next + 1 := Nat.ne_of_lt (Nat.lt_succ_of_lt hr)
    rw [Net.get_destroy_joined hjoined hne' hne, hw'.channels]
    exact congrArg _ (get_opened_of_lt w s task hr)
  · intro n hn
    refine (congrFun hconnection n).trans ?_
    exact Function.update_of_ne (Nat.ne_of_lt hn) _ _
  · intro t k n hn
    refine (congrFun (congrFun hentry t) k).trans ((if_neg ?_).trans hn)
    rintro ⟨rfl, rfl⟩
    rw [hfree] at hn
    cases hn
  · apply rejection_tasks
    · rw [Net.destroy_joined hjoined, hw'.tasks]
      rfl
    · rw [Net.destroy_joined hjoined]
      exact hw'.next
    · simp
  · intro n b hn hb
    obtain ⟨t, ht⟩ := connectionChannel_eq_some.mp hb
    have hn' := (congrFun hconnection n).symm.trans ht
    rcases Shape.update_eq_some.mp hn' with ⟨-, hnew⟩ | ⟨hne, hold⟩
    · cases hnew
      refine ⟨Nat.le_refl _, ?_, Net.connected_destroy_joined hjoined⟩
      rw [Net.destroy_joined hjoined]
      exact Nat.lt_of_lt_of_eq (Nat.lt_add_of_pos_right Nat.two_pos) hw'.next.symm
    · obtain ⟨conn, hconn, -⟩ := (Heap.view_eq_some _ _).mp hold
      exact absurd (Heap.lt_next hconn) (Nat.not_lt.mpr hn)

end Opened

/-- The handler of the new connection returns, if there is one, and the client refuses. -/
theorem rejected_handled (I : Iteration) {w w₀ : World η} {q c s n : Ref} (handler : Option η)
    (hrunning : w₀.running = handler.map fun handler => (.newConnection handler n, .connecting q c s))
    (hrejected : ∀ w', Installed w₀ w' →
      Rejected w (({ w' with running := none } : World η).clientSetChannel c q))
    (installs : List (Install η)) :
    let w' := if w₀.running.isSome then w₀ else w₀.clientSetChannel c q
    (∀ running ∈ w'.running, ∃ handler, running.1 = .newConnection handler n) ∧
    Rejected w (match w'.running with
      | none => w'
      | some _ => (w'.run I (installs.map Install.step)).resume) := by
  cases handler with
  | none =>
      rw [Option.map_none] at hrunning
      have hsame : ({ w₀ with running := none } : World η) = w₀ := by rw [← hrunning]
      have hrefused := hrejected w₀ (.refl w₀)
      rw [hsame] at hrefused
      simp only [hrunning, Option.isSome_none, Bool.false_eq_true, if_false]
      rw [hrefused.running]
      exact ⟨by simp, hrefused⟩
  | some handler =>
      rw [Option.map_some] at hrunning
      simp only [hrunning, Option.isSome_some, if_true]
      refine ⟨by simp, ?_⟩
      have hinstalled := installed_run I w₀ installs
      have hresumed := hrejected _ hinstalled
      unfold resume
      rw [hinstalled.running, hrunning]
      exact hresumed

theorem rejected_connectInstalling (I : Iteration) {w : World η} (h : w.Idle) {c a : Ref}
    {client : ClientConnectionMock η} (hc : w.clients.get c = some client)
    (ha : client.channel = some a) (x : UInt64) (installs : List (Install η)) :
    (∀ running ∈ (w.connectToServer ⟨client.clientId, x⟩).running,
      ∃ handler, running.1 = .newConnection handler w.connections.next) ∧
    Rejected w (w.connectInstalling I ⟨client.clientId, x⟩ installs) := by
  have hrunning := h.running
  have ha' : w.clientChannel c = some a := by
    unfold clientChannel
    rw [hc, Option.bind_some, ha]
  have hnobody : w.connectToServer ⟨client.clientId, x⟩ = w →
      (∀ running ∈ (w.connectToServer ⟨client.clientId, x⟩).running,
        ∃ handler, running.1 = .newConnection handler w.connections.next) ∧
      Rejected w (w.connectInstalling I ⟨client.clientId, x⟩ installs) := by
    intro hsame
    unfold connectInstalling
    rw [hsame, hrunning]
    exact ⟨by simp, .refl hrunning⟩
  cases hs : w.serversMap x with
  | none =>
      apply hnobody
      unfold connectToServer
      rw [hs]
  | some s =>
      cases hd : w.clientsMap client.clientId with
      | none =>
          apply hnobody
          unfold connectToServer
          rw [hs, hd]
      | some d =>
          -- the task finds the client that has the channel
          obtain rfl : d = c := by
            have hidentified := identified_of_consistent h.consistent
            obtain ⟨hne, other, hother, hid⟩ := (hidentified.findClient _ d).mp hd
            exact hidentified.distinct d c other client hother hc hid (by rwa [hid])
          obtain ⟨-, hid⟩ := (h.consistent.serversMap _ s).mp hs
          obtain ⟨server, hserver, -⟩ := (Heap.view_eq_some _ _).mp hid
          unfold connectInstalling
          rw [connectToServer_eq ⟨client.clientId, x⟩ hs hd]
          simp only
          cases hentry : w.connection s client.clientId with
          | some m =>
              obtain ⟨hnone, hrejected⟩ := rejected_taken w s ⟨client.clientId, x⟩
                h.consistent.wired hrunning hserver hentry ha'
              simp only [hnone, Option.isSome_none, Bool.false_eq_true, if_false] at hrejected ⊢
              rw [hrejected.running]
              exact ⟨by simp, hrejected⟩
          | none =>
              apply rejected_handled I server.newConnectionHandler
              · rw [addConnection_free ⟨client.clientId, x⟩ _ hserver hentry]
              · intro w' hinstalled
                exact rejected_free w s ⟨client.clientId, x⟩ hserver hentry ha' hinstalled

theorem settled_connectInstalling (I : Iteration) {w : World η} (h : w.Idle)
    (task : ConnectToServerTask) (installs : List (Install η)) :
    (w.connectInstalling I task installs).Settled := by
  have hsettled := settled_connectToServer h.consistent h.running task
  unfold connectInstalling
  split
  · exact hsettled
  · apply settled_resume
    have hcalls := (settled_calls I hsettled (installs.map Install.handlerCall)).1
    rwa [List.map_map] at hcalls

/-- Once the disconnect tasks of the rejected pair are gone, so is its connection. -/
theorem rejected_forgotten (I : Iteration) {w w' : World η} (h : Rejected w w') (hidle : w'.Idle)
    (steps : List (WorldStep η)) (hsteps : w'.along I keepsIdentifier steps = true)
    (hrunning : (w'.run I steps).running = none)
    (hran : ∀ r, w.net.channels.next ≤ r → r < w'.net.channels.next →
      .disconnect r ∉ (w'.run I steps).net.tasks)
    {n : Ref} (hn : w.connections.next ≤ n) (hn' : n < w'.connections.next) (t : Ref) (k : UInt64) :
    (w'.run I steps).connection t k ≠ some n := by
  intro hentry
  have hlater := Later.run I w' steps
  have hafter : (w'.run I steps).Idle := ⟨hrunning, settled_run I hidle.settled steps hsteps⟩
  obtain ⟨b, f, hconn, hf, -⟩ := hafter.consistent.owned.entry_end hentry
  obtain ⟨channel, hget, -⟩ := (Heap.view_eq_some _ _).mp hf
  -- the connection has the channel it was given, which has been off since
  have hb := hlater.channel n b hn' (connectionChannel_eq_some.mpr ⟨t, hconn⟩)
  obtain ⟨hle, hlt, hoff⟩ := h.created n b hn hb
  have hon := (connected_eq hafter (by rw [hget, Option.isSome_some])).mpr (hran b hle hlt)
  have hstill : (w'.run I steps).net.connected b = false := hlater.net.off b hlt hoff
  rw [hstill] at hon
  cases hon

/-- A client that is connected asks again, for any server: its connection stays as it is, its
connected handler is not called, and nothing is left of the request when the disconnect tasks
that it adds have run. -/
theorem redundant_request_rejected (I : Iteration) (w : World η) (h : w.Reachable I) (s n c a b : Ref)
    (client : ClientConnectionMock η) (hc : w.clients.get c = some client)
    (ha : client.channel = some a) (hholds : w.Holds s client.clientId n a b) (x : UInt64)
    (installs : List (Install η)) :
    let w' := w.connectInstalling I ⟨client.clientId, x⟩ installs
    w.Undisturbed w' ∧ w'.clientChannel c = some a ∧ w'.Holds s client.clientId n a b ∧
    (∀ running ∈ (w.connectToServer ⟨client.clientId, x⟩).running,
      ∃ handler, running.1 = .newConnection handler w.connections.next) ∧
    w'.running = none ∧
    ∀ steps : List (WorldStep η), w'.along I keepsIdentifier steps = true →
      (w'.run I steps).running = none →
      (∀ r, w.net.channels.next ≤ r → r < w'.net.channels.next →
        .disconnect r ∉ (w'.run I steps).net.tasks) →
      ∀ m, w.connections.next ≤ m → m < w'.connections.next →
        ∀ t k, (w'.run I steps).connection t k ≠ some m := by
  intro w'
  obtain ⟨hcalled, hrejected⟩ := rejected_connectInstalling I h.idle_state hc ha x installs
  have hidle : w'.Idle := ⟨hrejected.running, settled_connectInstalling I h.idle_state _ installs⟩
  refine ⟨hrejected.undisturbed, ?_, hrejected.undisturbed.holds hholds, hcalled, hrejected.running, ?_⟩
  · rw [hrejected.undisturbed.clientChannel c, clientChannel, hc, Option.bind_some, ha]
  · intro steps hsteps hrunning hran m hm hm' t k
    exact rejected_forgotten I hrejected hidle steps hsteps hrunning hran hm hm' t k

/-- A client is connected to one server, and asks for a second one. -/
def secondRequest : List (WorldStep Unit) :=
  [.newClient, .newServer, .newServer, .call (.bind 0 7), .call (.listen 0 5), .call (.listen 1 6),
    .call (.setNewConnectionHandler 1 (some ())), .call (.connectToHost 0 5), .start, .resume,
    .call (.connectToHost 0 6)]

/-- The task of the second request has just left the queue. -/
def secondTaken : World Unit :=
  { ({} : World Unit).run .byEntry secondRequest with
    net := { (({} : World Unit).run .byEntry secondRequest).net with tasks := [] } }

def secondRejected : World Unit :=
  secondTaken.connectInstalling .byEntry ⟨7, 6⟩ [⟨.connectionSetMessageHandler 1 (some ()), rfl⟩]

theorem redundant_request_rejected_second_server :
    secondRejected.Holds 0 7 0 1 0 ∧ secondRejected.connection 1 7 = some 1 ∧
      secondRejected.net.tasks = [.disconnect 2, .disconnect 3] ∧
      (secondRejected.run .byEntry [.start, .start]).connection 1 7 ≠ some 1 := by
  obtain ⟨-, -, hholds, -, -, hforgotten⟩ := redundant_request_rejected .byEntry secondTaken
    (.taken secondRequest (by decide) rfl rfl) 0 0 0 1 0 _ rfl rfl
    ⟨rfl, rfl, by decide, ⟨_, rfl, rfl, rfl⟩, ⟨_, rfl, rfl, rfl⟩⟩ 6
    [⟨.connectionSetMessageHandler 1 (some ()), rfl⟩]
  refine ⟨hholds, rfl, rfl, ?_⟩
  exact hforgotten [.start, .start] rfl rfl (fun r _ _ => List.not_mem_nil) 1 (by decide) (by decide) 1 7

end World
end DeviceMonitoring
