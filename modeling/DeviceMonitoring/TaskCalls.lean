import DeviceMonitoring.Changes

/-! The handlers that a task calls, and what is left to be done when they return. -/
namespace DeviceMonitoring
variable {η : Type}
namespace World

theorem running_clientOnDisconnected (w : World η) (c : Ref) :
    (w.clientOnDisconnected c).running = w.running := by
  unfold clientOnDisconnected
  split <;> rfl

theorem start_sendMessage {w : World η} (h : w.running = none) {a : Ref} {message : Bytes}
    {tasks : List (Task ConnectToServerTask)} (htasks : w.net.tasks = .sendMessage message a :: tasks)
    {channel : ConnectionChannel η Owner} (hget : w.net.channels.get a = some channel) :
    w.start.running = channel.messageHandler.map fun handler => (.message handler message, .message) := by
  have hdeliver : w.net.deliver (.sendMessage message a) =
      channel.messageHandler.elim .nothing fun handler => .message handler message := by
    rw [Net.deliver, hget, Option.bind_some]
    cases channel.messageHandler <;> rfl
  cases hhandler : channel.messageHandler with
  | none =>
      rw [hhandler] at hdeliver
      rw [start_nothing h htasks hdeliver]
      exact h
  | some handler =>
      rw [hhandler] at hdeliver
      rw [start_message h htasks hdeliver]
      rfl

theorem deliver_disconnect {w : World η} {a : Ref} {channel : ConnectionChannel η Owner}
    (hget : w.net.channels.get a = some channel) {owner : Owner}
    (howner : channel.disconnectedHandler = some owner) :
    w.net.deliver (.disconnect a) = .disconnected owner := by
  rw [Net.deliver, hget, Option.bind_some, howner]

theorem deliver_gone {w : World η} {a : Ref} {task : Task ConnectToServerTask}
    (htask : task = .disconnect a ∨ ∃ message, task = .sendMessage message a)
    (hget : w.net.channels.get a = none) : w.net.deliver task = .nothing := by
  rcases htask with rfl | ⟨message, rfl⟩ <;> rw [Net.deliver, hget, Option.bind_none]

/-- The first handler that a task calls, and what is left when it returns. -/
inductive TaskCalls (w : World η) : Task ConnectToServerTask → Invocation η → Moment → Prop
  | message {a : Ref} {message : Bytes} {channel : ConnectionChannel η Owner} {handler : η}
      (hget : w.net.channels.get a = some channel) (hhandler : channel.messageHandler = some handler) :
      TaskCalls w (.sendMessage message a) (.message handler message) .message
  | client {a c : Ref} {client : ClientConnectionMock η} {handler : η}
      (hc : w.clients.get c = some client) (hhandler : client.disconnectedHandler = some handler) :
      TaskCalls w (.disconnect a) (.disconnected handler) (.closingClient c)
  | connection {a n : Ref} {conn : ConnectionMock η} {handler : η}
      (hn : w.connections.get n = some conn) (hhandler : conn.disconnectedHandler = some handler) :
      TaskCalls w (.disconnect a) (.disconnected handler) (.closingConnection n conn.server)
  | newConnection {task : ConnectToServerTask} {s c : Ref} {server : ConnectionServerMock η}
      {handler : η} (hs : w.serversMap task.serverId = some s)
      (hserver : w.servers.get s = some server) (hhandler : server.newConnectionHandler = some handler) :
      TaskCalls w (.other task) (.newConnection handler w.connections.next)
        (.connecting (w.net.channels.next + 1) c s)
  | connected {task : ConnectToServerTask} {c : Ref} {client : ClientConnectionMock η} {handler : η}
      (hc : w.clients.get c = some client) (hhandler : client.connectedHandler = some handler) :
      TaskCalls w (.other task) (.connected handler) (.notified c)

section Calls
variable {w : World η} {invocation : Invocation η} {moment : Moment}

/-- Only a client that takes its channel is told of it. -/
theorem calls_clientSetChannel (hrun : w.running = none) {c q : Ref}
    (h : (w.clientSetChannel c q).running = some (invocation, moment)) :
    ∃ client handler, w.clients.get c = some client ∧ client.connectedHandler = some handler ∧
      invocation = .connected handler ∧ moment = .notified c := by
  unfold clientSetChannel at h
  split at h
  · rw [hrun] at h
    cases h
  next client hc =>
    split at h
    · rw [show ({ w with net := w.net.destroy q } : World η).running = none from hrun] at h
      cases h
    · obtain ⟨handler, hhandler, heq⟩ := Option.map_eq_some_iff.mp h
      cases heq
      exact ⟨client, handler, hc, hhandler, rfl, rfl⟩

theorem calls_addConnection (hrun : w.running = none) {s n : Ref} {next : Moment}
    (h : (w.addConnection s n next).running = some (invocation, moment)) :
    ∃ server handler, w.servers.get s = some server ∧ server.newConnectionHandler = some handler ∧
      invocation = .newConnection handler n ∧ moment = next := by
  unfold addConnection at h
  split at h
  · rw [hrun] at h
    cases h
  next server hs =>
    split at h
    · rw [show (w.destroyConnection n).running = none from hrun] at h
      cases h
    · obtain ⟨handler, hhandler, heq⟩ := Option.map_eq_some_iff.mp h
      cases heq
      exact ⟨server, handler, hs, hhandler, rfl, rfl⟩

theorem clients_addConnection (w : World η) (s n : Ref) (next : Moment) :
    (w.addConnection s n next).clients = w.clients := by
  unfold addConnection
  split
  · rfl
  · split <;> rfl

theorem calls_connectToServer (hrun : w.running = none) {task : ConnectToServerTask}
    (h : (w.connectToServer task).running = some (invocation, moment)) :
    w.TaskCalls (.other task) invocation moment := by
  cases hs : w.serversMap task.serverId with
  | none =>
      unfold connectToServer at h
      rw [hs, hrun] at h
      cases h
  | some s =>
      cases hc : w.clientsMap task.clientId with
      | none =>
          unfold connectToServer at h
          rw [hs, hc, hrun] at h
          cases h
      | some c =>
          rw [connectToServer_eq task hs hc] at h
          simp only at h
          split at h
          · obtain ⟨server, handler, hserver, hhandler, rfl, rfl⟩ :=
              calls_addConnection (w := w.opened s task) hrun h
            exact .newConnection hs hserver hhandler
          next hnone =>
            rw [Bool.not_eq_true, Option.isSome_eq_false_iff, Option.isNone_iff_eq_none] at hnone
            obtain ⟨client, handler, hget, hhandler, rfl, rfl⟩ := calls_clientSetChannel hnone h
            rw [clients_addConnection] at hget
            exact .connected hget hhandler

/-- What the start of a task calls. -/
theorem calls_start (hrun : w.running = none) (h : w.start.running = some (invocation, moment)) :
    ∃ task tasks, w.net.tasks = task :: tasks ∧ w.TaskCalls task invocation moment := by
  cases htasks : w.net.tasks with
  | nil =>
      rw [start_idle hrun htasks, hrun] at h
      cases h
  | cons task tasks =>
      refine ⟨task, tasks, rfl, ?_⟩
      have hpopped : ({ w with net := { w.net with tasks } } : World η).running = none := hrun
      cases task with
      | other request =>
          rw [start_other hrun htasks rfl] at h
          cases calls_connectToServer hpopped h with
          | newConnection hs hserver hhandler => exact .newConnection hs hserver hhandler
          | connected hc hhandler => exact .connected hc hhandler
      | sendMessage message a =>
          cases hget : w.net.channels.get a with
          | none =>
              rw [start_nothing hrun htasks (deliver_gone (.inr ⟨message, rfl⟩) hget), hpopped] at h
              cases h
          | some channel =>
              rw [start_sendMessage hrun htasks hget, Option.map_eq_some_iff] at h
              obtain ⟨handler, hhandler, heq⟩ := h
              cases heq
              exact .message hget hhandler
      | disconnect a =>
          cases howner : (w.net.channels.get a).bind (·.disconnectedHandler) with
          | none =>
              have hdeliver : w.net.deliver (.disconnect a) = .nothing := by rw [Net.deliver, howner]
              rw [start_nothing hrun htasks hdeliver, hpopped] at h
              cases h
          | some owner =>
              have hdeliver : w.net.deliver (.disconnect a) = .disconnected owner := by
                rw [Net.deliver, howner]
              cases owner with
              | client c =>
                  rw [start_client hrun htasks hdeliver] at h
                  unfold clientDisconnectedHandler at h
                  split at h
                  · rw [running_clientOnDisconnected, hpopped] at h
                    cases h
                  next handler hsome =>
                    obtain ⟨client, hc, hhandler⟩ := Option.bind_eq_some_iff.mp hsome
                    cases h
                    exact .client hc hhandler
              | connection n =>
                  rw [start_connection hrun htasks hdeliver] at h
                  unfold connectionDisconnectedHandler at h
                  split at h
                  · rw [hpopped] at h
                    cases h
                  next conn hn =>
                    split at h
                    · rw [running_serverOnDisconnected, hpopped] at h
                      cases h
                    next handler hhandler =>
                      cases h
                      exact .connection hn hhandler

/-- A handler that returns is followed by the connected handler of the client whose connection was
announced, or by none. -/
theorem calls_resume (h : w.resume.running = some (invocation, moment)) :
    ∃ announced q c s client handler, w.running = some (announced, .connecting q c s) ∧
      w.clients.get c = some client ∧ client.connectedHandler = some handler ∧
        invocation = .connected handler ∧ moment = .notified c := by
  cases hrun : w.running with
  | none =>
      unfold resume at h
      rw [hrun] at h
      rw [hrun] at h
      cases h
  | some running =>
      obtain ⟨announced, left⟩ := running
      unfold resume at h
      rw [hrun] at h
      cases left with
      | message => cases h
      | notified c => cases h
      | closingClient c =>
          simp only [running_clientOnDisconnected] at h
          cases h
      | closingConnection n s =>
          simp only [running_serverOnDisconnected] at h
          cases h
      | connecting q c s =>
          obtain ⟨client, handler, hc, hhandler, rfl, rfl⟩ :=
            calls_clientSetChannel (w := { w with running := none }) rfl h
          exact ⟨announced, q, c, s, client, handler, rfl, hc, hhandler, rfl, rfl⟩

end Calls

end World
end DeviceMonitoring
