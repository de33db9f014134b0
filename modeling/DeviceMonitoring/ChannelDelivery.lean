import DeviceMonitoring.Teardown

/-! Delivery over a pair of joined channels. A run is a sequence of calls on the two
ends and of `processTask`; a handler or another task makes any calls of its own.
What was sent, which handlers were called and whether the pair was broken is recorded. -/
namespace DeviceMonitoring

inductive End where
  | left
  | right
  deriving DecidableEq, Repr

namespace End

def peer : End → End
  | left => right
  | right => left

def ref : End → Ref
  | left => 0
  | right => 1

@[simp] theorem peer_peer (e : End) : e.peer.peer = e := by cases e <;> rfl
@[simp] theorem ref_peer_ne (e : End) : e.peer.ref ≠ e.ref := by cases e <;> decide
@[simp] theorem ref_ne_peer (e : End) : e.ref ≠ e.peer.ref := by cases e <;> decide
@[simp] theorem peer_ne (e : End) : e.peer ≠ e := by cases e <;> decide

theorem eq_or_eq_peer (e f : End) : f = e ∨ f = e.peer := by cases e <;> cases f <;> simp [peer]

end End

/-- A call of a handler. -/
inductive Event where
  | message (message : Bytes)
  | disconnected
  deriving DecidableEq, Repr

def Event.delivery {τ : Type} (e : End) : Event → Delivery End End τ
  | .message text => .message e text
  | .disconnected => .disconnected e

inductive LinkCall (τ : Type) where
  | sendMessage (e : End) (message : Bytes)
  | disconnect (e : End)
  | destroy (e : End)
  | scheduleTask (task : τ)

/-- `script` holds the calls made inside the handler or the task. -/
inductive LinkStep (τ : Type) where
  | call (call : LinkCall τ)
  | processTask (script : List (LinkCall τ))

structure Link (τ : Type) where
  net : Net End End τ
  sent : End → List Bytes := fun _ => []
  log : End → List Event := fun _ => []
  broken : Bool := false

namespace Link
variable {τ : Type}

def alive (l : Link τ) (e : End) : Bool := (l.net.channels.get e.ref).isSome

def newChannel (peerId : UInt64) (e : End) : ConnectionChannel End End :=
  { peerId, messageHandler := some e, disconnectedHandler := some e }

/-- Two channels with handlers, joined by `connect` in both directions. -/
def joined (leftId rightId : UInt64) : Link τ where
  net :=
    let channels := (({} : Heap _).alloc (newChannel rightId .left)).alloc (newChannel leftId .right)
    (({ channels } : Net End End τ).connect End.left.ref End.right.ref).connect
      End.right.ref End.left.ref

def sendMessage (l : Link τ) (e : End) (message : Bytes) : Link τ :=
  { l with
    net := l.net.sendMessage e.ref message
    sent := if l.broken then l.sent else Function.update l.sent e (l.sent e ++ [message]) }

def disconnect (l : Link τ) (e : End) : Link τ :=
  { l with net := l.net.disconnect e.ref, broken := true }

def destroy (l : Link τ) (e : End) : Link τ :=
  { l with net := l.net.destroy e.ref, broken := true }

/-- A call on an end that is gone is not part of a run, nor is the destruction of
the second end. -/
def perform (l : Link τ) : LinkCall τ → Link τ
  | .sendMessage e message => if l.alive e then l.sendMessage e message else l
  | .disconnect e => if l.alive e then l.disconnect e else l
  | .destroy e => if l.alive e && l.alive e.peer then l.destroy e else l
  | .scheduleTask task => { l with net := l.net.scheduleTask (.other task) }

def performAll (l : Link τ) (script : List (LinkCall τ)) : Link τ := script.foldl perform l

def record (l : Link τ) (e : End) (event : Event) : Link τ :=
  { l with log := Function.update l.log e (l.log e ++ [event]) }

/-- The call that a task makes; the handler or the task makes the calls of `script`. -/
def handle (l : Link τ) (script : List (LinkCall τ)) : Delivery End End τ → Link τ
  | .nothing => l
  | .message e message => (l.record e (.message message)).performAll script
  | .disconnected e => (l.record e .disconnected).performAll script
  | .other _ => l.performAll script

def step (l : Link τ) : LinkStep τ → Link τ
  | .call call => l.perform call
  | .processTask script =>
      match l.net.processTask with
      | none => l
      | some (delivery, net) => ({ l with net } : Link τ).handle script delivery

theorem handle_delivery (l : Link τ) (script : List (LinkCall τ)) (e : End) (event : Event) :
    l.handle script (event.delivery e) = (l.record e event).performAll script := by
  cases event <;> rfl

def run (l : Link τ) (steps : List (LinkStep τ)) : Link τ := steps.foldl step l

/-- The call that a queued task will make for an end, if it still exists. -/
def pendingEvent (e : End) : Task τ → Option Event
  | .sendMessage message ch => if ch = e.ref then some (.message message) else none
  | .disconnect ch => if ch = e.ref then some .disconnected else none
  | .other _ => none

def pending (e : End) (tasks : List (Task τ)) : List Event := tasks.filterMap (pendingEvent e)

/-- All that an end is to be told. -/
def owed (l : Link τ) (e : End) : List Event :=
  (l.sent e.peer).map .message ++ if l.broken then [.disconnected] else []

/-- The invariant: what was told to a live end and what waits in the queue for it is
what it is owed, in order; both flags are on until the pair is broken. -/
structure Sound (l : Link τ) : Prop where
  ends : ∀ ch c, l.net.channels.get ch = some c → ∃ e : End, ch = e.ref
  channel : ∀ e c, l.net.channels.get e.ref = some c → c.peerChannel = some e.peer.ref ∧
    c.connected = !l.broken ∧ c.messageHandler = some e ∧ c.disconnectedHandler = some e
  whole : l.broken = false → ∀ e, l.alive e = true
  account : ∀ e, l.alive e = true → l.log e ++ pending e l.net.tasks = l.owed e
  told : ∀ e, l.log e <+: l.owed e

@[simp] theorem pending_nil (e : End) : pending e ([] : List (Task τ)) = [] := rfl

@[simp] theorem pending_cons (e : End) (task : Task τ) (tasks : List (Task τ)) :
    pending e (task :: tasks) = (pendingEvent e task).toList ++ pending e tasks := by
  unfold pending
  rw [List.filterMap_cons]
  cases pendingEvent e task <;> rfl

@[simp] theorem pending_append (e : End) (tasks more : List (Task τ)) :
    pending e (tasks ++ more) = pending e tasks ++ pending e more := List.filterMap_append

namespace Sound
variable {l : Link τ} {e : End}

theorem connected (h : Sound l) (ha : l.alive e = true) : l.net.connected e.ref = !l.broken := by
  obtain ⟨c, hc⟩ := Option.isSome_iff_exists.mp ha
  simp [Net.connected, hc, (h.channel e c hc).2.1]

theorem joined_ends (h : Sound l) (hb : l.broken = false) (e : End) :
    l.net.Joined e.ref e.peer.ref := by
  obtain ⟨c, hc⟩ := Option.isSome_iff_exists.mp (h.whole hb e)
  obtain ⟨d, hd⟩ := Option.isSome_iff_exists.mp (h.whole hb e.peer)
  obtain ⟨hcp, hcon, -⟩ := h.channel e c hc
  obtain ⟨hdp, hdon, -⟩ := h.channel e.peer d hd
  rw [End.peer_peer] at hdp
  exact ⟨by simp, ⟨c, hc, hcp, by simp [hcon, hb]⟩, ⟨d, hd, hdp, by simp [hdon, hb]⟩⟩

theorem peers_off (h : Sound l) (hb : l.broken = true) (e : End) :
    ∀ p ∈ l.net.peer e.ref, l.net.connected p = false := by
  intro p hp
  obtain ⟨c, hc, hcp, hlive⟩ := Net.peer_eq_some.mp (Option.mem_def.mp hp)
  have hpe : p = e.peer.ref := by
    rw [(h.channel e c hc).1] at hcp
    exact (Option.some.inj hcp).symm
  subst hpe
  rw [h.connected hlive, hb]
  rfl

theorem sendMessage (h : Sound l) (ha : l.alive e = true) (message : Bytes) :
    Sound (l.sendMessage e message) := by
  unfold Link.sendMessage
  cases hb : l.broken with
  | true =>
      have hnet : l.net.sendMessage e.ref message = l.net := by
        unfold Net.sendMessage
        rw [if_neg (by simp [h.connected ha, hb])]
      rw [hnet, if_pos rfl, ← hb]
      exact h
  | false =>
      rw [Net.sendMessage_joined (h.joined_ends hb e), if_neg (by simp)]
      have howed : ∀ f, owed { l with
          net := l.net.scheduleTask (.sendMessage message e.peer.ref)
          sent := Function.update l.sent e (l.sent e ++ [message])
          broken := false } f = l.owed f ++ if f = e.peer then [.message message] else [] := by
        intro f
        rcases End.eq_or_eq_peer e f with rfl | rfl
        · simp [owed, hb, (End.peer_ne f).symm]
        · simp [owed, hb]
      refine ⟨h.ends, by simpa [hb] using h.channel, fun _ => h.whole hb, ?_, ?_⟩
      · intro f hf
        rw [howed, ← h.account f hf, List.append_assoc]
        congr 1
        rcases End.eq_or_eq_peer e f with rfl | rfl
        · simp [pendingEvent, (End.peer_ne f).symm]
        · simp [pendingEvent]
      · intro f
        rw [howed]
        exact (h.told f).trans (List.prefix_append _ _)

/-- Breaking the pair: every live end is owed one more call, the last one. -/
theorem breaks (h : Sound l) (hb : l.broken = false) {net : Net End End τ} {tasks : List (Task τ)}
    (htasks : net.tasks = l.net.tasks ++ tasks)
    (hpending : ∀ f : End, pending f tasks = [.disconnected])
    (hchannels : ∀ ch c, net.channels.get ch = some c →
      ∃ d, l.net.channels.get ch = some d ∧ c = Net.switchOff d) :
    Sound { l with net, broken := true } := by
  have howed : ∀ f, owed { l with net, broken := true } f = l.owed f ++ [.disconnected] := by
    intro f
    simp [owed, hb]
  refine ⟨?_, ?_, fun hfalse => absurd hfalse (by simp), ?_, ?_⟩
  · intro ch c hc
    obtain ⟨d, hd, -⟩ := hchannels ch c hc
    exact h.ends ch d hd
  · intro f c hc
    obtain ⟨d, hd, rfl⟩ := hchannels f.ref c hc
    obtain ⟨hp, -, hm, hdh⟩ := h.channel f d hd
    exact ⟨hp, rfl, hm, hdh⟩
  · intro f _
    rw [howed, ← h.account f (h.whole hb f), htasks, pending_append, hpending, List.append_assoc]
  · intro f
    rw [howed]
    exact (h.told f).trans (List.prefix_append _ _)

theorem disconnect (h : Sound l) (ha : l.alive e = true) : Sound (l.disconnect e) := by
  unfold Link.disconnect
  cases hb : l.broken with
  | true =>
      rw [Net.disconnect_off (by simp [h.connected ha, hb]), ← hb]
      exact h
  | false =>
      rw [Net.disconnect_joined (h.joined_ends hb e)]
      refine h.breaks hb rfl ?_ ?_
      · intro f
        rcases End.eq_or_eq_peer e f with rfl | rfl <;> simp [pendingEvent]
      · intro ch c hc
        obtain ⟨b, hb, rfl⟩ := Heap.get_modify_eq_some.mp hc
        obtain ⟨d, hd, rfl⟩ := Heap.get_modify_eq_some.mp hb
        obtain ⟨f, rfl⟩ := h.ends ch d hd
        rcases End.eq_or_eq_peer e f with rfl | rfl <;> exact ⟨d, hd, by simp [Net.switchOff]⟩

/-- One end is freed: what concerns the other one stays as it is. -/
theorem freed (h : Sound l) (hb : l.broken = true) (e : End) :
    Sound { l with net := { l.net with channels := l.net.channels.free e.ref } } := by
  refine ⟨?_, ?_, fun hfalse => by simp [hb] at hfalse, ?_, h.told⟩
  · intro ch c hc
    exact h.ends ch c (Heap.get_free_eq_some.mp hc).2
  · intro f c hc
    exact h.channel f c (Heap.get_free_eq_some.mp hc).2
  · intro f hf
    obtain ⟨c, hc⟩ := Option.isSome_iff_exists.mp hf
    refine h.account f ?_
    rw [alive, (Heap.get_free_eq_some.mp hc).2]
    rfl

theorem destroy (h : Sound l) (e : End) : Sound (l.destroy e) := by
  unfold Link.destroy
  cases hb : l.broken with
  | true =>
      rw [Net.destroy_off (h.peers_off hb e), ← hb]
      exact h.freed hb e
  | false =>
      rw [Net.destroy_joined (h.joined_ends hb e)]
      refine h.breaks hb rfl ?_ ?_
      · intro f
        rcases End.eq_or_eq_peer e f with rfl | rfl <;> simp [pendingEvent]
      · intro ch c hc
        obtain ⟨-, hc⟩ := Heap.get_free_eq_some.mp hc
        obtain ⟨b, hb, rfl⟩ := Heap.get_modify_eq_some.mp hc
        obtain ⟨d, hd, rfl⟩ := Heap.get_modify_eq_some.mp hb
        obtain ⟨f, rfl⟩ := h.ends ch d hd
        rcases End.eq_or_eq_peer e f with rfl | rfl <;> exact ⟨d, hd, by simp [Net.switchOff]⟩

theorem scheduleTask (h : Sound l) (task : τ) :
    Sound { l with net := l.net.scheduleTask (.other task) } := by
  refine ⟨h.ends, h.channel, h.whole, ?_, h.told⟩
  intro f hf
  simpa [pendingEvent, owed] using h.account f hf

/-- The calls, from outside or inside a handler. -/
theorem perform (h : Sound l) (call : LinkCall τ) : Sound (l.perform call) := by
  cases call with
  | sendMessage e message =>
      simp only [Link.perform]
      split
      next ha => exact h.sendMessage ha message
      next => exact h
  | disconnect e =>
      simp only [Link.perform]
      split
      next ha => exact h.disconnect ha
      next => exact h
  | destroy e =>
      simp only [Link.perform]
      split
      next => exact h.destroy e
      next => exact h
  | scheduleTask task => exact h.scheduleTask task

theorem performAll (h : Sound l) (script : List (LinkCall τ)) : Sound (l.performAll script) := by
  induction script generalizing l with
  | nil => exact h
  | cons call script ih => exact ih (h.perform call)

/-- The first task leaves the queue, and the call it makes is recorded. -/
theorem popped (h : Sound l) {task : Task τ} {tasks : List (Task τ)}
    (htasks : l.net.tasks = task :: tasks) {log : End → List Event}
    (hlog : ∀ f : End, l.alive f = true → log f = l.log f ++ pending f [task])
    (htold : ∀ f : End, log f <+: l.owed f) :
    Sound { l with net := { l.net with tasks }, log } := by
  refine ⟨h.ends, h.channel, h.whole, ?_, htold⟩
  intro f hf
  have hacc := h.account f hf
  rw [htasks, ← List.singleton_append, pending_append, ← List.append_assoc, ← hlog f hf] at hacc
  exact hacc

/-- A call of a handler: it is the next one the end is owed. -/
theorem recorded (h : Sound l) {task : Task τ} {tasks : List (Task τ)} {event : Event}
    (htasks : l.net.tasks = task :: tasks) (ha : l.alive e = true)
    (hevent : pendingEvent e task = some event) (hother : pendingEvent e.peer task = none) :
    Sound (({ l with net := { l.net with tasks } } : Link τ).record e event) := by
  refine h.popped htasks ?_ ?_
  · intro f _
    rcases End.eq_or_eq_peer e f with rfl | rfl
    · simp [hevent]
    · simp [hother]
  · intro f
    rcases End.eq_or_eq_peer e f with rfl | rfl
    · rw [Function.update_self, ← h.account f ha, htasks, pending_cons, hevent]
      exact ⟨pending f tasks, by simp⟩
    · rw [Function.update_of_ne (End.peer_ne e)]
      exact h.told e.peer

/-- A task that calls no handler of a live end. -/
theorem unrecorded (h : Sound l) {task : Task τ} {tasks : List (Task τ)}
    (htasks : l.net.tasks = task :: tasks)
    (hnone : ∀ f : End, l.alive f = true → pendingEvent f task = none) :
    Sound { l with net := { l.net with tasks } } :=
  h.popped htasks (fun f hf => by simp [hnone f hf]) h.told

/-- What a task comes down to: the call of one handler of a live end, or no such call. -/
theorem deliver (h : Sound l) (task : Task τ) :
    (∃ e event, l.alive e = true ∧ pendingEvent e task = some event ∧
      pendingEvent e.peer task = none ∧ l.net.deliver task = event.delivery e) ∨
    (∀ e : End, l.alive e = true → pendingEvent e task = none) ∧
      (l.net.deliver task = .nothing ∨ ∃ t, l.net.deliver task = .other t) := by
  have gone : ∀ ch, l.net.channels.get ch = none → ∀ e : End, l.alive e = true → ch ≠ e.ref := by
    rintro ch hget e he rfl
    rw [alive, hget] at he
    cases he
  cases task with
  | other t => exact .inr ⟨fun _ _ => rfl, .inr ⟨t, rfl⟩⟩
  | sendMessage message ch =>
      cases hget : l.net.channels.get ch with
      | none =>
          refine .inr ⟨fun e he => if_neg (gone ch hget e he), .inl ?_⟩
          simp only [Net.deliver, hget, Option.bind_none]
      | some c =>
          obtain ⟨e, rfl⟩ := h.ends ch c hget
          refine .inl ⟨e, .message message, ?_, if_pos rfl, if_neg (by simp), ?_⟩
          · rw [alive, hget]
            rfl
          · simp only [Net.deliver, hget, Option.bind_some, (h.channel e c hget).2.2.1, Event.delivery]
  | disconnect ch =>
      cases hget : l.net.channels.get ch with
      | none =>
          refine .inr ⟨fun e he => if_neg (gone ch hget e he), .inl ?_⟩
          simp only [Net.deliver, hget, Option.bind_none]
      | some c =>
          obtain ⟨e, rfl⟩ := h.ends ch c hget
          refine .inl ⟨e, .disconnected, ?_, if_pos rfl, if_neg (by simp), ?_⟩
          · rw [alive, hget]
            rfl
          · simp only [Net.deliver, hget, Option.bind_some, (h.channel e c hget).2.2.2, Event.delivery]

theorem step (h : Sound l) (s : LinkStep τ) : Sound (l.step s) := by
  cases s with
  | call call => exact h.perform call
  | processTask script =>
      unfold Link.step
      cases htasks : l.net.tasks with
      | nil => simpa only [Net.processTask, htasks] using h
      | cons task tasks =>
          simp only [Net.processTask, htasks]
          rcases h.deliver task with ⟨e, event, ha, hevent, hother, hd⟩ | ⟨hnone, hd | ⟨t, hd⟩⟩
          · rw [hd, handle_delivery]
            exact (h.recorded htasks ha hevent hother).performAll script
          · rw [hd]
            exact h.unrecorded htasks hnone
          · rw [hd]
            exact (h.unrecorded htasks hnone).performAll script

theorem run (h : Sound l) (steps : List (LinkStep τ)) : Sound (l.run steps) := by
  induction steps generalizing l with
  | nil => exact h
  | cons s steps ih => exact ih (h.step s)

end Sound

theorem joined_channel (leftId rightId : UInt64) (e : End) :
    ∃ peerId, (joined leftId rightId : Link τ).net.channels.get e.ref = some
      { newChannel peerId e with peerChannel := some e.peer.ref, connected := true } := by
  cases e
  · exact ⟨rightId, rfl⟩
  · exact ⟨leftId, rfl⟩

theorem joined_sound (leftId rightId : UInt64) : Sound (joined leftId rightId : Link τ) := by
  refine ⟨?_, ?_, ?_, fun _ _ => rfl, fun _ => List.nil_prefix⟩
  · intro ch c hc
    have hlt : ch < 2 := Heap.lt_next hc
    match ch, hlt with
    | 0, _ => exact ⟨.left, rfl⟩
    | 1, _ => exact ⟨.right, rfl⟩
  · intro e c hc
    obtain ⟨peerId, he⟩ := joined_channel (τ := τ) leftId rightId e
    rw [he] at hc
    cases hc
    exact ⟨rfl, rfl, rfl, rfl⟩
  · intro _ e
    obtain ⟨peerId, he⟩ := joined_channel (τ := τ) leftId rightId e
    rw [alive, he]
    rfl

/-- The messages an end was given. -/
def messages (log : List Event) : List Bytes :=
  log.filterMap fun event =>
    match event with
    | .message message => some message
    | .disconnected => none

theorem messages_map (sent : List Bytes) : messages (sent.map .message) = sent := by
  induction sent with
  | nil => rfl
  | cons message sent ih =>
      rw [messages] at ih
      simp [messages, ih]

theorem map_messages {log : List Event} {sent : List Bytes} (h : log <+: sent.map .message) :
    log = (messages log).map .message := by
  rw [List.prefix_iff_eq_take, ← List.map_take] at h
  rw [h, messages_map]

theorem messages_owed (l : Link τ) (e : End) : messages (l.owed e) = l.sent e.peer := by
  have hmap := messages_map (l.sent e.peer)
  unfold messages owed at *
  rw [List.filterMap_append, hmap]
  cases l.broken <;> simp

theorem alive_perform (l : Link τ) (call : LinkCall τ) {e : End} (h : l.alive e = false) :
    (l.perform call).alive e = false := by
  cases call with
  | sendMessage f message =>
      simp only [perform]
      split
      · simpa [Link.sendMessage, alive] using h
      · exact h
  | disconnect f =>
      simp only [perform]
      split
      · simpa only [Link.disconnect, alive, Net.isSome_disconnect] using h
      · exact h
  | destroy f =>
      simp only [perform]
      split
      · rw [Link.destroy, alive, Net.isSome_destroy, ← alive, h, Bool.and_false]
      · exact h
  | scheduleTask task => exact h

theorem log_perform (l : Link τ) (call : LinkCall τ) : (l.perform call).log = l.log := by
  cases call with
  | sendMessage f message => simp only [perform]; split <;> rfl
  | disconnect f => simp only [perform]; split <;> rfl
  | destroy f => simp only [perform]; split <;> rfl
  | scheduleTask task => rfl

/-- Once broken, a pair stays broken, and what counts as sent stays the same. -/
theorem broken_perform (l : Link τ) (call : LinkCall τ) (h : l.broken = true) :
    (l.perform call).broken = true ∧ (l.perform call).sent = l.sent := by
  cases call with
  | sendMessage f message =>
      simp only [perform]
      split
      · exact ⟨h, if_pos h⟩
      · exact ⟨h, rfl⟩
  | disconnect f => simp only [perform]; split <;> exact ⟨by first | rfl | exact h, rfl⟩
  | destroy f => simp only [perform]; split <;> exact ⟨by first | rfl | exact h, rfl⟩
  | scheduleTask task => exact ⟨h, rfl⟩

theorem log_performAll (l : Link τ) (script : List (LinkCall τ)) :
    (l.performAll script).log = l.log := by
  induction script generalizing l with
  | nil => rfl
  | cons call script ih => exact (ih (l.perform call)).trans (log_perform l call)

theorem alive_performAll (l : Link τ) (script : List (LinkCall τ)) {e : End}
    (h : l.alive e = false) : (l.performAll script).alive e = false := by
  induction script generalizing l with
  | nil => exact h
  | cons call script ih => exact ih (l.perform call) (alive_perform l call h)

theorem broken_performAll (l : Link τ) (script : List (LinkCall τ)) (h : l.broken = true) :
    (l.performAll script).broken = true ∧ (l.performAll script).sent = l.sent := by
  induction script generalizing l with
  | nil => exact ⟨h, rfl⟩
  | cons call script ih =>
      obtain ⟨hb, hs⟩ := broken_perform l call h
      obtain ⟨hb', hs'⟩ := ih (l.perform call) hb
      exact ⟨hb', hs'.trans hs⟩

theorem broken_step (l : Link τ) (s : LinkStep τ) (h : l.broken = true) :
    (l.step s).broken = true ∧ (l.step s).sent = l.sent := by
  cases s with
  | call call => exact broken_perform l call h
  | processTask script =>
      unfold step
      cases l.net.processTask with
      | none => exact ⟨h, rfl⟩
      | some popped =>
          obtain ⟨delivery, net⟩ := popped
          cases delivery with
          | nothing => exact ⟨h, rfl⟩
          | message e message => exact broken_performAll _ script h
          | disconnected e => exact broken_performAll _ script h
          | other t => exact broken_performAll _ script h

theorem broken_run (l : Link τ) (steps : List (LinkStep τ)) (h : l.broken = true) :
    (l.run steps).broken = true ∧ (l.run steps).sent = l.sent := by
  induction steps generalizing l with
  | nil => exact ⟨h, rfl⟩
  | cons s steps ih =>
      obtain ⟨hb, hs⟩ := broken_step l s h
      obtain ⟨hb', hs'⟩ := ih (l.step s) hb
      exact ⟨hb', hs'.trans hs⟩

/-- The handlers of an end that is gone are not called. -/
theorem Sound.step_gone {l : Link τ} (h : Sound l) (s : LinkStep τ) {e : End}
    (hgone : l.alive e = false) :
    (l.step s).log e = l.log e ∧ (l.step s).alive e = false := by
  cases s with
  | call call => exact ⟨congrFun (log_perform l call) e, alive_perform l call hgone⟩
  | processTask script =>
      unfold Link.step
      cases htasks : l.net.tasks with
      | nil => simpa only [Net.processTask, htasks, true_and] using hgone
      | cons task tasks =>
          simp only [Net.processTask, htasks]
          rcases h.deliver task with ⟨f, event, hf, -, -, hd⟩ | ⟨-, hd | ⟨t, hd⟩⟩
          · have hne : e ≠ f := by
              rintro rfl
              rw [hgone] at hf
              cases hf
            rw [hd, handle_delivery, log_performAll]
            exact ⟨Function.update_of_ne hne .., alive_performAll _ script hgone⟩
          · rw [hd]
            exact ⟨rfl, hgone⟩
          · rw [hd]
            exact ⟨congrFun (log_performAll _ script) e, alive_performAll _ script hgone⟩

theorem Sound.run_gone {l : Link τ} (h : Sound l) (steps : List (LinkStep τ)) {e : End}
    (hgone : l.alive e = false) : (l.run steps).log e = l.log e ∧ (l.run steps).alive e = false := by
  induction steps generalizing l with
  | nil => exact ⟨rfl, hgone⟩
  | cons s steps ih =>
      obtain ⟨hlog, hdead⟩ := h.step_gone s hgone
      obtain ⟨hlog', hdead'⟩ := ih (h.step s) hdead
      exact ⟨hlog'.trans hlog, hdead'⟩

/-! The queue -/

/-- What is called, from outside or inside a handler, puts its tasks at the end of the queue. -/
theorem queue_perform (l : Link τ) (call : LinkCall τ) : l.net.tasks <+: (l.perform call).net.tasks := by
  have hdisconnect : ∀ net : Net End End τ, ∀ ch, net.tasks <+: (net.disconnect ch).tasks := by
    intro net ch
    obtain ⟨-, met, -, hoff⟩ := net.disconnect_meets ch
    rw [hoff.tasks]
    exact List.prefix_append _ _
  cases call with
  | sendMessage e message =>
      simp only [perform]
      split
      · unfold Link.sendMessage
        rcases l.net.sendMessage_cases e.ref message with ⟨p, -, -, -, hnet⟩ | ⟨-, hnet⟩
        · rw [hnet]
          exact List.prefix_append _ _
        · rw [hnet]
      · exact List.prefix_rfl
  | disconnect e =>
      simp only [perform]
      split
      · exact hdisconnect l.net e.ref
      · exact List.prefix_rfl
  | destroy e =>
      simp only [perform]
      split
      · unfold Link.destroy Net.destroy Net.disconnectPeer
        split
        · exact List.prefix_rfl
        next p _ => exact hdisconnect l.net p
      · exact List.prefix_rfl
  | scheduleTask task => exact List.prefix_append _ _

theorem queue_performAll (l : Link τ) (script : List (LinkCall τ)) :
    l.net.tasks <+: (l.performAll script).net.tasks := by
  induction script generalizing l with
  | nil => exact List.prefix_rfl
  | cons call script ih => exact (queue_perform l call).trans (ih (l.perform call))

theorem queue_handle (l : Link τ) (script : List (LinkCall τ)) (delivery : Delivery End End τ) :
    l.net.tasks <+: (l.handle script delivery).net.tasks := by
  cases delivery with
  | nothing => exact List.prefix_rfl
  | message e message => exact queue_performAll (l.record e (.message message)) script
  | disconnected e => exact queue_performAll (l.record e .disconnected) script
  | other task => exact queue_performAll l script

/-- `processTask` takes the first task; a live end is told what the task has for it. -/
theorem Sound.takes_first {l : Link τ} (h : Sound l) {task : Task τ} {tasks : List (Task τ)}
    (htasks : l.net.tasks = task :: tasks) (script : List (LinkCall τ)) :
    tasks <+: (l.step (.processTask script)).net.tasks ∧
      ∀ e, l.alive e = true →
        (l.step (.processTask script)).log e = l.log e ++ (pendingEvent e task).toList := by
  have hstep : l.step (.processTask script) =
      ({ l with net := { l.net with tasks } } : Link τ).handle script (l.net.deliver task) := by
    simp only [Link.step, Net.processTask, htasks]
  rw [hstep]
  refine ⟨queue_handle { l with net := { l.net with tasks } } script _, fun e he => ?_⟩
  rcases h.deliver task with ⟨f, event, -, hevent, hother, hd⟩ | ⟨hnone, hd⟩
  · rw [hd, handle_delivery, log_performAll]
    rcases End.eq_or_eq_peer f e with rfl | rfl
    · rw [hevent]
      exact Function.update_self ..
    · rw [hother, Option.toList_none, List.append_nil]
      exact Function.update_of_ne (End.peer_ne f) ..
  · rw [hnone e he, Option.toList_none, List.append_nil]
    rcases hd with hd | ⟨other, hd⟩
    · rw [hd]
      rfl
    · rw [hd]
      exact congrFun (log_performAll _ script) e

/-- A handler that calls nothing leaves the rest of the queue as it is. -/
theorem tasks_processTask (l : Link τ) : (l.step (.processTask [])).net.tasks = l.net.tasks.tail := by
  cases htasks : l.net.tasks with
  | nil => simp only [step, Net.processTask, htasks, List.tail_nil]
  | cons task tasks =>
      simp only [step, Net.processTask, htasks, List.tail_cons]
      cases l.net.deliver task <;> rfl

theorem drains (l : Link τ) :
    (l.run (List.replicate l.net.tasks.length (.processTask []))).net.tasks = [] := by
  generalize hlength : l.net.tasks.length = k
  induction k generalizing l with
  | zero => exact List.length_eq_zero_iff.mp hlength
  | succ k ih =>
      refine ih (l.step (.processTask [])) ?_
      rw [tasks_processTask, List.length_tail, hlength]
      rfl

/-- What an end of the pair was told at any moment of any run: a part, from the first
on, of the messages its peer sent before the pair was broken, and the disconnect
once they are all told, if it was broken. When the queue is empty a live end has
been told all of it; an end that is gone is told nothing more. Each `processTask` takes the
first task, and as many of them as there are tasks empty the queue. -/
theorem channel_delivery (leftId rightId : UInt64) (steps : List (LinkStep τ)) (e : End) :
    let l := (joined leftId rightId).run steps
    messages (l.log e) <+: l.sent e.peer ∧
    (l.log e = (messages (l.log e)).map .message ∨
      l.broken = true ∧ l.log e = (l.sent e.peer).map .message ++ [.disconnected]) ∧
    (l.alive e = true → l.net.tasks = [] → messages (l.log e) = l.sent e.peer ∧
      (.disconnected ∈ l.log e ↔ l.broken = true)) ∧
    (l.alive e = false → ∀ more, (l.run more).log e = l.log e ∧ (l.run more).alive e = false) ∧
    (l.broken = true → ∀ more, (l.run more).broken = true ∧ (l.run more).sent = l.sent) ∧
    (∀ task tasks, l.net.tasks = task :: tasks → ∀ script,
      tasks <+: (l.step (.processTask script)).net.tasks ∧ (l.alive e = true →
        (l.step (.processTask script)).log e = l.log e ++ (pendingEvent e task).toList)) ∧
    (l.run (List.replicate l.net.tasks.length (.processTask []))).net.tasks = [] := by
  intro l
  have h : Sound l := (joined_sound leftId rightId).run steps
  refine ⟨?_, ?_, ?_, fun hgone more => h.run_gone more hgone, fun hb more => broken_run l more hb,
    fun task tasks htasks script => ?_, l.drains⟩
  · have hp := (h.told e).filterMap fun event =>
      match event with
      | .message message => some message
      | .disconnected => none
    exact messages_owed l e ▸ hp
  · have hp := h.told e
    cases hb : l.broken with
    | false =>
        rw [owed, hb, if_neg (by simp), List.append_nil] at hp
        exact .inl (map_messages hp)
    | true =>
        rw [owed, hb, if_pos rfl, List.prefix_concat_iff] at hp
        rcases hp with hp | hp
        · exact .inr ⟨rfl, hp⟩
        · exact .inl (map_messages hp)
  · intro ha hempty
    have hlog : l.log e = l.owed e := by
      have hacc := h.account e ha
      rwa [hempty, pending_nil, List.append_nil] at hacc
    rw [hlog]
    refine ⟨messages_owed l e, ?_⟩
    cases hb : l.broken <;> simp [owed, hb]
  · obtain ⟨hqueue, htold⟩ := h.takes_first htasks script
    exact ⟨hqueue, htold e⟩

example : ((joined 1 2 : Link Unit).run
    [.call (.sendMessage .left [104]), .call (.disconnect .right), .call (.sendMessage .left [105]),
      .processTask [.sendMessage .right [106]], .processTask [], .processTask []]).log .right =
    [.message [104], .disconnected] := by decide

end Link
end DeviceMonitoring
