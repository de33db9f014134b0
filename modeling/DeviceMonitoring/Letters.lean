import DeviceMonitoring.CurrentHandlers
import DeviceMonitoring.Identity
import DeviceMonitoring.Library.Conveyor
import DeviceMonitoring.Library.Trace
import DeviceMonitoring.Teardown

/-! Messages between clients and servers, from the call that sends one to the task that takes it
to its channel. -/
namespace DeviceMonitoring
variable {η : Type}

/-- A message that was put into the queue: the channel that it is for, and the identifier of
the client that it is from, or is for. -/
structure Letter where
  channel : Ref
  toServer : Bool
  clientId : UInt64
  message : Bytes
  deriving DecidableEq, Repr

/-- What the task of a message keeps of it. -/
def Letter.slot (l : Letter) : Bytes × Ref := (l.message, l.channel)

def Task.slot {τ : Type} : Task τ → Option (Bytes × Ref)
  | .sendMessage message ch => some (message, ch)
  | .disconnect _ => none
  | .other _ => none

namespace Net
variable {μ δ τ : Type}

/-- The channel that what is sent goes to, if it is sent at all. -/
def receiver (net : Net μ δ τ) (ch : Ref) : Option Ref :=
  if net.connected ch then (net.peer ch).filter fun p => net.connected p else none

theorem sendMessage_receiver (net : Net μ δ τ) (ch : Ref) (message : Bytes) :
    net.sendMessage ch message =
      (net.receiver ch).elim net fun p => net.scheduleTask (.sendMessage message p) := by
  unfold sendMessage receiver
  split
  · cases net.peer ch with
    | none => rfl
    | some p =>
        cases hon : net.connected p with
        | true => simp [Option.filter, hon]
        | false => simp [Option.filter, hon]
  · rfl

theorem receiver_joined {net : Net μ δ τ} {closing : Option Ref} (hw : net.Wired closing) {ch p : Ref}
    (h : net.receiver ch = some p) : net.Joined ch p := by
  unfold receiver at h
  split at h
  next hon =>
    obtain ⟨hp, -⟩ := Option.filter_eq_some_iff.mp h
    obtain ⟨channel, hget, hcon⟩ := (Option.any_eq_true _ _).mp hon
    obtain ⟨b, -, hj⟩ := hw.joined hget hcon
    rw [hj.peer] at hp
    cases hp
    exact hj
  · cases h

/-- The messages in the queue. -/
def mail (net : Net μ δ τ) : List (Bytes × Ref) := net.tasks.filterMap Task.slot

theorem mail_disconnect (net : Net μ δ τ) (ch : Ref) : (net.disconnect ch).mail = net.mail := by
  obtain ⟨-, met, -, hoff⟩ := disconnect_meets net ch
  unfold mail
  have hnone : (met.map (Task.disconnect (τ := τ))).filterMap Task.slot = [] := by
    rw [List.filterMap_map]
    exact List.filterMap_eq_nil_iff.mpr fun _ _ => rfl
  rw [hoff.tasks, List.filterMap_append, hnone, List.append_nil]

theorem mail_destroy (net : Net μ δ τ) (ch : Ref) : (net.destroy ch).mail = net.mail := by
  have hpeer : (net.disconnectPeer ch).mail = net.mail := by
    unfold disconnectPeer
    split
    · rfl
    · exact mail_disconnect net _
  exact hpeer

end Net

/-- The owner of a channel, and whom it talks to. -/
def ConnectionChannel.tag {μ δ : Type} (c : ConnectionChannel μ δ) : Option δ × UInt64 :=
  (c.disconnectedHandler, c.peerId)

/-- The changes to the letters in the queue, or to whom a channel is for. -/
def Change.reroutes : Change η → Prop
  | .popped | .turned _ | .sent .. | .clientId .. | .opened .. | .adopted .. | .newClient
  | .clientGone _ => True
  | _ => False

namespace World

/-- The client that is about to get this channel. -/
def connectingTo (w : World η) (a : Ref) : Option Ref :=
  match w.running with
  | some (_, .connecting q c _) => if q = a then some c else none
  | _ => none

def clientIdOf (w : World η) (c : Ref) : Option UInt64 := w.clients.view (·.clientId) c

/-- Whom a message on this channel is for: the server, or the client, of a client's
identifier. -/
def addressOf (w : World η) (a : Ref) : Option Owner × UInt64 → Option (Bool × UInt64)
  | (some (.connection _), peerId) => some (true, peerId)
  | (some (.client c), _) => (w.clientIdOf c).map (Prod.mk false)
  | (none, _) => ((w.connectingTo a).bind w.clientIdOf).map (Prod.mk false)

def address (w : World η) (a : Ref) : Option (Bool × UInt64) :=
  (w.net.channels.get a).bind fun channel => w.addressOf a channel.tag

/-- The letter that a call puts into the queue. -/
def posts (w : World η) : Call η → List Letter
  | .clientSendMessage c message =>
      match w.clients.get c with
      | none => []
      | some client => ((client.channel.bind w.net.receiver).toList).map fun b =>
          ⟨b, true, client.clientId, message⟩
  | .connectionSendMessage n message =>
      (((w.connectionChannel n).bind w.net.receiver).toList).map fun a =>
        ⟨a, false, w.connectionPeerId n, message⟩
  | _ => []

def posted (w : World η) : WorldStep η → List Letter
  | .call call => if w.allows call then w.posts call else []
  | _ => []

/-- The letter that a task takes to a channel that is still there, whether or not the channel has a
message handler. -/
def arrived (w : World η) : WorldStep η → List Letter
  | .start =>
      match w.running, w.net.tasks with
      | none, .sendMessage message a :: _ =>
          (w.address a).toList.map fun whom => ⟨a, whom.1, whom.2, message⟩
      | _, _ => []
  | _ => []

/-- The channels that stay keep their address; letters are put into the queue, and each is for
the one that its channel belongs to. -/
structure Passage (posted : List Letter) (w w' : World η) : Prop where
  next : w.net.channels.next ≤ w'.net.channels.next
  mail : w'.net.mail = w.net.mail ++ posted.map Letter.slot
  stays : ∀ a, a < w.net.channels.next → (w'.net.channels.get a).isSome = true →
    (w.net.channels.get a).isSome = true ∧ w'.address a = w.address a
  addressed : ∀ l ∈ posted, l.channel < w'.net.channels.next ∧
    ((w'.net.channels.get l.channel).isSome = true →
      w'.address l.channel = some (l.toServer, l.clientId))

namespace Passage
variable {w w' w'' : World η} {posted more : List Letter}

theorem refl (w : World η) : Passage [] w w := by
  constructor
  · exact Nat.le_refl _
  · exact (List.append_nil _).symm
  · exact fun _ _ hlive => ⟨hlive, rfl⟩
  · exact fun _ hl => absurd hl List.not_mem_nil

theorem trans (h : Passage posted w w') (h' : Passage more w' w'') :
    Passage (posted ++ more) w w'' := by
  constructor
  · exact h.next.trans h'.next
  · rw [h'.mail, h.mail, List.map_append, List.append_assoc]
  · intro a ha hlive
    obtain ⟨hlive', haddress'⟩ := h'.stays a (Nat.lt_of_lt_of_le ha h.next) hlive
    obtain ⟨hlive'', haddress⟩ := h.stays a ha hlive'
    exact ⟨hlive'', haddress'.trans haddress⟩
  · intro l hl
    rcases List.mem_append.mp hl with hl | hl
    · obtain ⟨hlt, hto⟩ := h.addressed l hl
      refine ⟨Nat.lt_of_lt_of_le hlt h'.next, fun hlive => ?_⟩
      obtain ⟨hlive', haddress⟩ := h'.stays _ hlt hlive
      exact haddress.trans (hto hlive')
    · exact h'.addressed l hl

theorem addressOf_congr {a : Ref} {tag : Option Owner × UInt64}
    (hconnecting : w'.connectingTo a = w.connectingTo a)
    (hids : ∀ c, tag.1 = some (.client c) ∨ w.connectingTo a = some c → w'.clientIdOf c = w.clientIdOf c) :
    w'.addressOf a tag = w.addressOf a tag := by
  obtain ⟨owner, peerId⟩ := tag
  cases owner with
  | none =>
      simp only [addressOf, hconnecting]
      cases hc : w.connectingTo a with
      | none => rfl
      | some c => exact congrArg (Option.map (Prod.mk false)) (hids c (.inr hc))
  | some owner =>
      cases owner with
      | client c => exact congrArg (Option.map (Prod.mk false)) (hids c (.inl rfl))
      | connection n => rfl

/-- Nothing is posted, and the old channels keep their owners, these their identifiers. -/
theorem of_keep (hnext : w.net.channels.next ≤ w'.net.channels.next)
    (hmail : w'.net.mail = w.net.mail)
    (htags : ∀ a channel', a < w.net.channels.next → w'.net.channels.get a = some channel' →
      ∃ channel, w.net.channels.get a = some channel ∧ channel'.tag = channel.tag)
    (hconnecting : ∀ a, a < w.net.channels.next → w'.connectingTo a = w.connectingTo a)
    (hids : ∀ c, (∃ a channel', w'.net.channels.get a = some channel' ∧ channel'.tag.1 = some (.client c)) ∨
      (∃ a, w.connectingTo a = some c) → w'.clientIdOf c = w.clientIdOf c) :
    Passage [] w w' := by
  constructor
  · exact hnext
  · rw [hmail, List.map_nil, List.append_nil]
  · intro a ha hlive
    obtain ⟨channel', hget'⟩ := Option.isSome_iff_exists.mp hlive
    obtain ⟨channel, hget, htag⟩ := htags a channel' ha hget'
    refine ⟨by rw [hget, Option.isSome_some], ?_⟩
    simp only [address, hget, hget', Option.bind_some, htag]
    apply addressOf_congr (hconnecting a ha)
    intro c hc
    apply hids c
    rcases hc with howner | hc
    · exact .inl ⟨a, channel', hget', htag ▸ howner⟩
    · exact .inr ⟨a, hc⟩
  · exact fun _ hl => absurd hl List.not_mem_nil

theorem connectingTo_congr (h : w'.running = w.running) (a : Ref) :
    w'.connectingTo a = w.connectingTo a := by
  unfold connectingTo
  rw [h]

/-- A call that leaves the identifiers of the clients alone. -/
theorem of_call (hrunning : w'.running = w.running)
    (hnext : w'.net.channels.next = w.net.channels.next) (hmail : w'.net.mail = w.net.mail)
    (hnet : Net.Retains ConnectionChannel.tag w.net w'.net)
    (hids : w'.clients.view (·.clientId) = w.clients.view (·.clientId)) : Passage [] w w' := by
  apply of_keep
  · exact Nat.le_of_eq hnext.symm
  · exact hmail
  · exact fun a channel' _ hget' => hnet a channel' hget'
  · exact fun a _ => connectingTo_congr hrunning a
  · exact fun c _ => congrFun hids c

theorem of_net (hrunning : w'.running = w.running) (hnet : w'.net = w.net)
    (hids : w'.clients.view (·.clientId) = w.clients.view (·.clientId)) : Passage [] w w' :=
  of_call hrunning (by rw [hnet]) (by rw [hnet]) (.of_channels (by rw [hnet])) hids

theorem change (w : World η) (change : Change η) (hchange : ¬change.reroutes) :
    Passage [] w (w.change change) := by
  cases change with
  | disconnected ch =>
      exact of_call rfl (w.net.next_disconnect ch) (w.net.mail_disconnect ch)
        (.disconnect (fun _ => rfl) _ ch) rfl
  | destroyed ch =>
      exact of_call rfl (w.net.next_destroy ch) (w.net.mail_destroy ch) (.destroy (fun _ => rfl) _ ch) rfl
  | requested c task =>
      exact of_call rfl rfl (by simp [World.change, Net.mail, Task.slot]) (.of_channels rfl) rfl
  | messageHandler owner handler =>
      cases owner with
      | client c =>
          simp only [World.change, clientSetMessageHandler]
          split
          · exact of_net rfl rfl (Heap.view_modify_of_keep _ _ _ fun _ => rfl)
          · exact of_call rfl rfl rfl (.modify _ _ fun _ => rfl)
              (Heap.view_modify_of_keep _ _ _ fun _ => rfl)
      | connection n =>
          simp only [World.change, connectionSetMessageHandler]
          split
          · exact of_net rfl rfl rfl
          · exact of_call rfl rfl rfl (.modify _ _ fun _ => rfl) rfl
  | disconnectedHandler owner handler =>
      cases owner with
      | client c => exact of_net rfl rfl (Heap.view_modify_of_keep _ _ _ fun _ => rfl)
      | connection n => exact of_net rfl rfl rfl
  | connectedHandler c handler => exact of_net rfl rfl (Heap.view_modify_of_keep _ _ _ fun _ => rfl)
  | released c => exact of_net rfl rfl (Heap.view_modify_of_keep _ _ _ fun _ => rfl)
  | popped | turned | sent | clientId | opened | adopted | newClient | clientGone =>
      exact absurd trivial hchange
  | _ => exact of_net rfl rfl rfl

theorem of_changes (may : Change η → Prop) (hmay : ∀ change, may change → ¬change.reroutes)
    (h : Changes may w w') : Passage [] w w' :=
  h.lift refl (fun _ _ _ => trans) fun w change hchange _ => .change w change (hmay change hchange)

theorem serverOnDisconnected (w : World η) (s : Ref) (k : UInt64) :
    Passage [] w (w.serverOnDisconnected s k) :=
  of_changes (fun change => ¬change.reroutes) (fun _ => id)
    (.serverOnDisconnected (fun _ => id) (fun _ => id) w s k id)

theorem clientOnDisconnected (w : World η) (c : Ref) : Passage [] w (w.clientOnDisconnected c) :=
  of_changes (fun change => ¬change.reroutes) (fun _ => id)
    (.clientOnDisconnected (fun _ => id) w c id)

/-- A letter is put into the queue. -/
theorem letter (w : World η) {b : Ref} {toServer : Bool} {clientId : UInt64} (message : Bytes)
    (hlt : b < w.net.channels.next) (haddress : w.address b = some (toServer, clientId)) :
    Passage [⟨b, toServer, clientId, message⟩] w
      { w with net := w.net.scheduleTask (.sendMessage message b) } := by
  constructor
  · exact Nat.le_refl _
  · simp [Net.mail, Letter.slot, Task.slot]
  · exact fun a _ hlive => ⟨hlive, rfl⟩
  · intro l hl
    rw [List.mem_singleton] at hl
    subst hl
    exact ⟨hlt, fun _ => haddress⟩

end Passage

/-- A channel without an owner is on its way to the client that is being connected. -/
theorem connecting_of_floating {σ : Shape} {closing : Option Ref} {moment : Option Moment} {q : Ref}
    (h : σ.Situation (some q) closing moment) : ∃ c s e k x, moment = some (.connecting q c s) ∧
      σ.channel q = some e ∧ e.owner = none ∧ σ.client c = some (k, x) ∧ σ.FacesConnection k e := by
  unfold Shape.Situation at h
  split at h
  · cases h.1
  · cases h.1
  · cases h.1
  · cases h.1
  · cases h.1
  next q' c s =>
    obtain ⟨-, hq, e, k, x, he, ho, hc, hfaces⟩ := h
    cases hq
    exact ⟨c, s, e, k, x, rfl, he, ho, hc, hfaces⟩

theorem connecting_of_connectingTo {w : World η} {a c : Ref} (h : w.connectingTo a = some c) :
    ∃ s, w.running.map (·.2) = some (.connecting a c s) := by
  unfold connectingTo at h
  split at h
  next q d s hrunning =>
    split at h
    next hq =>
      cases h
      cases hq
      exact ⟨s, by rw [hrunning]; rfl⟩
    · cases h
  · cases h

theorem connectingTo_of_connecting {w : World η} {a c s : Ref}
    (h : w.running.map (·.2) = some (.connecting a c s)) : w.connectingTo a = some c := by
  obtain ⟨⟨invocation, moment⟩, hrunning, rfl⟩ := Option.map_eq_some_iff.mp h
  unfold connectingTo
  rw [hrunning]
  exact if_pos rfl

theorem clientIdOf_eq {w : World η} {c : Ref} {k : UInt64} {x : Option Ref}
    (hc : w.shape.client c = some (k, x)) : w.clientIdOf c = some k := by
  obtain ⟨client, hget, hend⟩ := (Heap.view_eq_some _ _).mp hc
  rw [ClientConnectionMock.toEnd, Prod.mk.injEq] at hend
  exact (Heap.view_eq_some _ _).mpr ⟨client, hget, hend.1⟩

/-- What a client sends is for the server's connection of the client's identifier. -/
theorem address_from_client {w : World η} (hw : w.Settled) {c a b : Ref}
    {client : ClientConnectionMock η} (hc : w.clients.get c = some client)
    (ha : client.channel = some a) (hb : w.net.receiver a = some b) :
    b < w.net.channels.next ∧ w.address b = some (true, client.clientId) := by
  obtain ⟨floating, closing, -, hw⟩ := hw
  have hj := Net.receiver_joined hw.wired hb
  obtain ⟨s, n, -, hnb, hpeer⟩ := opposite_of_client hw hc ha hj.peer
  obtain ⟨channel, hget, howner⟩ := owner_of_connectionChannel hw.owned hnb
  refine ⟨Heap.lt_next hget, ?_⟩
  rw [connectionPeerId, hnb] at hpeer
  simp only [hget, Option.map_some, Option.getD_some] at hpeer
  simp only [address, hget, Option.bind_some, ConnectionChannel.tag, howner, addressOf, hpeer]

/-- What a connection sends is for the client of the connection's identifier. -/
theorem address_from_connection {w : World η} (hw : w.Settled) {n a b : Ref}
    (hb : w.connectionChannel n = some b) (ha : w.net.receiver b = some a) :
    a < w.net.channels.next ∧ w.address a = some (false, w.connectionPeerId n) := by
  obtain ⟨floating, closing, hsituation, hw⟩ := hw
  have hj := Net.receiver_joined hw.wired ha
  obtain ⟨s, hs⟩ := connectionChannel_eq_some.mp hb
  obtain ⟨b', f, hb', hf, hfo, -⟩ := hw.owned.connection_owns n s _ hs
  cases hb'
  obtain ⟨back, hgetb, hbacka, hbon⟩ := hj.left
  have hf' : w.shape.channel b = some (channelEnd back) := (Heap.view_eq_some _ _).mpr ⟨back, hgetb, rfl⟩
  rw [hf] at hf'
  cases hf'
  obtain ⟨channel, hgeta, hpeera, -⟩ := hj.right
  have he : w.shape.channel a = some (channelEnd channel) :=
    (Heap.view_eq_some _ _).mpr ⟨channel, hgeta, rfl⟩
  refine ⟨Heap.lt_next hgeta, ?_⟩
  rw [connectionPeerId_eq hs hf]
  have haddress : w.address a = w.addressOf a channel.tag := by rw [address, hgeta, Option.bind_some]
  rw [haddress]
  rcases (hw.owned.of_connection b _ n hf hfo).2 a _ hbacka he with hfloating | ⟨c, hc⟩
  · -- the client's end is still on its way to the client
    rw [hfloating] at hsituation
    obtain ⟨c, s, e', k, x, hmoment, he', ho, hc, hfaces⟩ := connecting_of_floating hsituation
    rw [he] at he'
    cases he'
    obtain ⟨hkey, -⟩ := hfaces b _ hpeera hf
    have howner : channel.disconnectedHandler = none := ho
    simp only [ConnectionChannel.tag, howner, addressOf, connectingTo_of_connecting hmoment,
      Option.bind_some, clientIdOf_eq hc, hkey, Option.map_some]
  · obtain ⟨k, hk, hfaces⟩ := hw.owned.of_client a _ c he hc
    obtain ⟨hkey, -⟩ := hfaces b _ hpeera hf
    have howner : channel.disconnectedHandler = some (.client c) := hc
    simp only [ConnectionChannel.tag, howner, addressOf, clientIdOf_eq hk, hkey, Option.map_some]

namespace Passage
variable {w : World η}

theorem bind (hw : w.Settled) (c : Ref) (clientId : UInt64)
    (hconnecting : (∃ q s, w.running.map (·.2) = some (.connecting q c s)) →
      (w.bind c clientId).1 = false) : Passage [] w (w.bind c clientId).2 := by
  rcases bind_cases w c clientId with hbind | ⟨k, hc, -, -, hbind, -⟩
  · rw [hbind]
    exact refl w
  · rw [hbind] at hconnecting ⊢
    apply of_keep
    · exact Nat.le_refl _
    · rfl
    · exact fun a channel _ hget => ⟨channel, hget, rfl⟩
    · exact fun a _ => connectingTo_congr rfl a
    · intro d hd
      -- the client has no channel, and is not about to get one
      have hne : d ≠ c := by
        rintro rfl
        rcases hd with ⟨a, channel, hget, howner⟩ | ⟨a, ha⟩
        · obtain ⟨_, _, -, hw⟩ := hw
          obtain ⟨l, hl⟩ := clientChannel_eq_some.mp (clientChannel_of_owner hw.owned hget howner)
          rw [hc] at hl
          cases hl
        · obtain ⟨s, hs⟩ := connecting_of_connectingTo ha
          cases hconnecting ⟨a, s, hs⟩
      unfold clientIdOf
      rw [Heap.view_modify, Function.update_of_ne hne]

theorem destroyClient (hw : w.Settled) (c : Ref) (hallows : w.allows (.destroyClient c) = true) :
    Passage [] w (w.destroyClient c) := by
  obtain ⟨_, _, -, hw⟩ := hw
  -- no channel that is left is the client's, or is about to be
  have hothers : ∀ w' : World η, w'.running = w.running → w'.clients = w.clients.free c →
      w'.net.channels.next = w.net.channels.next → w'.net.mail = w.net.mail →
      Net.Retains ConnectionChannel.tag w.net w'.net →
      (∀ a channel, w'.net.channels.get a = some channel → w.clientChannel c ≠ some a) →
        Passage [] w w' := by
    intro w' hrunning hclients hnext hmail hnet hgone
    apply of_keep
    · exact Nat.le_of_eq hnext.symm
    · exact hmail
    · exact fun a channel' _ hget' => hnet a channel' hget'
    · exact fun a _ => connectingTo_congr hrunning a
    · intro d hd
      have hne : d ≠ c := by
        rintro rfl
        rcases hd with ⟨a, channel', hget', howner⟩ | ⟨a, ha⟩
        · obtain ⟨channel, hget, htag⟩ := hnet a channel' hget'
          rw [htag] at howner
          exact hgone a channel' hget' (clientChannel_of_owner hw.owned hget howner)
        · obtain ⟨s, hs⟩ := connecting_of_connectingTo ha
          obtain ⟨running, hrun, hmoment⟩ := Option.map_eq_some_iff.mp hs
          have hall := (Option.all_eq_true _ _).mp hallows running hrun
          rw [hmoment] at hall
          exact of_decide_eq_true hall rfl
      unfold clientIdOf
      rw [hclients, Heap.view_free, Function.update_of_ne hne]
  rcases destroyClient_cases w c with hworld | ⟨k, hc, hworld, -⟩ | ⟨k, b, hc, hworld, -⟩
  · rw [hworld]
    exact refl w
  · rw [hworld]
    refine hothers _ rfl rfl rfl rfl (.of_channels rfl) ?_
    intro a channel _ ha
    obtain ⟨l, hl⟩ := clientChannel_eq_some.mp ha
    rw [hc] at hl
    cases hl
  · rw [hworld]
    refine hothers _ rfl rfl (w.net.next_destroy b) (w.net.mail_destroy b)
      (.destroy (fun _ => rfl) _ b) ?_
    intro a channel hget ha
    obtain ⟨l, hl⟩ := clientChannel_eq_some.mp ha
    rw [hc] at hl
    cases hl
    exact (Heap.get_free_eq_some.mp hget).1 rfl

theorem newClient (hw : w.Settled) : Passage [] w { w with clients := w.clients.alloc {} } := by
  obtain ⟨floating, closing, hsituation, hw⟩ := hw
  apply of_keep
  · exact Nat.le_refl _
  · rfl
  · exact fun a channel _ hget => ⟨channel, hget, rfl⟩
  · exact fun a _ => connectingTo_congr rfl a
  · intro c hc
    have hne : c ≠ w.clients.next := by
      have hnone : w.shape.client w.clients.next = none := w.clients.view_next _
      rintro rfl
      rcases hc with ⟨a, channel, hget, howner⟩ | ⟨a, ha⟩
      · obtain ⟨k, hk⟩ := clientChannel_eq_some.mp (clientChannel_of_owner hw.owned hget howner)
        rw [hnone] at hk
        cases hk
      · obtain ⟨s, hs⟩ := connecting_of_connectingTo ha
        rw [hs] at hsituation
        obtain ⟨k, x, hk⟩ := hsituation.client_live rfl
        rw [hnone] at hk
        cases hk
    unfold clientIdOf
    rw [Heap.view_alloc, Function.update_of_ne hne]

theorem clientSendMessage (hw : w.Settled) (c : Ref) (message : Bytes) :
    Passage (w.posts (.clientSendMessage c message)) w (w.clientSendMessage c message) := by
  cases hc : w.clients.get c with
  | none =>
      simp only [posts, World.clientSendMessage, clientChannel, hc]
      exact refl w
  | some client =>
      cases ha : client.channel with
      | none =>
          simp only [posts, World.clientSendMessage, clientChannel, hc, Option.bind_some, ha]
          exact refl w
      | some a =>
          cases hb : w.net.receiver a with
          | none =>
              simp only [posts, World.clientSendMessage, clientChannel, hc, Option.bind_some, ha,
                Net.sendMessage_receiver, hb]
              exact refl w
          | some b =>
              obtain ⟨hlt, haddress⟩ := address_from_client hw hc ha hb
              simp only [posts, World.clientSendMessage, clientChannel, hc, Option.bind_some, ha,
                Net.sendMessage_receiver, hb]
              exact letter w message hlt haddress

theorem connectionSendMessage (hw : w.Settled) (n : Ref) (message : Bytes) :
    Passage (w.posts (.connectionSendMessage n message)) w (w.connectionSendMessage n message) := by
  unfold World.connectionSendMessage
  cases hb : w.connectionChannel n with
  | none =>
      simp only [posts, hb]
      exact refl w
  | some b =>
      cases ha : w.net.receiver b with
      | none =>
          simp only [posts, hb, Option.bind_some, Net.sendMessage_receiver, ha]
          exact refl w
      | some a =>
          obtain ⟨hlt, haddress⟩ := address_from_connection hw hb ha
          simp only [posts, hb, Option.bind_some, Net.sendMessage_receiver, ha]
          exact letter w message hlt haddress

theorem perform (I : Iteration) (hw : w.Settled) {call : Call η} (hallows : w.allows call = true)
    (hbind : ∀ c clientId, call = .bind c clientId →
      (∃ q s, w.running.map (·.2) = some (.connecting q c s)) → (w.bind c clientId).1 = false) :
    Passage (w.posts call) w (w.perform I call) := by
  cases call with
  | bind c clientId => exact bind hw c clientId (hbind c clientId rfl)
  | clientSendMessage c message => exact clientSendMessage hw c message
  | destroyClient c => exact destroyClient hw c hallows
  | connectionSendMessage n message => exact connectionSendMessage hw n message
  | _ =>
      refine of_changes _ (fun change hchange => ?_) (.perform I w _)
      cases change <;> first | exact id | cases hchange

end Passage

/-- No message comes or goes, and the channels that have an owner keep it. -/
structure Carries (w w' : World η) : Prop where
  next : w.net.channels.next ≤ w'.net.channels.next
  mail : w'.net.mail = w.net.mail
  tags : ∀ a channel', a < w.net.channels.next → w'.net.channels.get a = some channel' →
    ∃ channel, w.net.channels.get a = some channel ∧
      (channel.disconnectedHandler.isSome = true → channel'.tag = channel.tag)
  ids : w'.clients.view (·.clientId) = w.clients.view (·.clientId)

namespace Carries
variable {w w' w'' : World η}

theorem of_tags (hnext : w'.net.channels.next = w.net.channels.next) (hmail : w'.net.mail = w.net.mail)
    (hnet : Net.Retains ConnectionChannel.tag w.net w'.net)
    (hids : w'.clients.view (·.clientId) = w.clients.view (·.clientId)) : Carries w w' := by
  refine ⟨Nat.le_of_eq hnext.symm, hmail, fun a channel' _ hget' => ?_, hids⟩
  obtain ⟨channel, hget, htag⟩ := hnet a channel' hget'
  exact ⟨channel, hget, fun _ => htag⟩

theorem of_net (hnet : w'.net = w.net)
    (hids : w'.clients.view (·.clientId) = w.clients.view (·.clientId)) : Carries w w' :=
  of_tags (by rw [hnet]) (by rw [hnet]) (.of_channels (by rw [hnet])) hids

theorem refl (w : World η) : Carries w w := of_net rfl rfl

theorem trans (h : Carries w w') (h' : Carries w' w'') : Carries w w'' := by
  refine ⟨h.next.trans h'.next, h'.mail.trans h.mail, ?_, h'.ids.trans h.ids⟩
  intro a channel'' ha hget''
  obtain ⟨channel', hget', htag'⟩ := h'.tags a channel'' (Nat.lt_of_lt_of_le ha h.next) hget''
  obtain ⟨channel, hget, htag⟩ := h.tags a channel' ha hget'
  refine ⟨channel, hget, fun howner => ?_⟩
  have hsame := htag howner
  have howner' : channel'.disconnectedHandler.isSome = true := by
    rwa [show channel'.disconnectedHandler = channel.disconnectedHandler from congrArg Prod.fst hsame]
  exact (htag' howner').trans hsame

theorem opened (w : World η) (s : Ref) (task : ConnectToServerTask) : Carries w (w.opened s task) := by
  refine ⟨Nat.le_succ_of_le (Nat.le_succ _), rfl, ?_, rfl⟩
  intro a channel ha hget
  refine ⟨channel, ?_, fun _ => rfl⟩
  rcases Heap.get_alloc_eq_some.mp hget with ⟨rfl, -⟩ | hget
  · exact absurd ha (Nat.not_lt.mpr (Nat.le_succ _))
  · rcases Heap.get_alloc_eq_some.mp hget with ⟨rfl, -⟩ | hget
    · exact absurd ha (Nat.lt_irrefl _)
    · exact hget

/-- The channel that the client takes had no owner. -/
theorem adopted {c q : Ref} {client : ClientConnectionMock η} (hc : w.clients.get c = some client)
    (hch : client.channel = none) (hq : w.Unowned q) : Carries w (w.clientSetChannel c q) := by
  simp only [World.clientSetChannel, hc, hch]
  refine ⟨Nat.le_refl _, rfl, ?_, Heap.view_modify_of_keep _ _ _ fun _ => rfl⟩
  intro a channel'' ha hget''
  obtain ⟨channel', hget', rfl⟩ := Heap.get_modify_eq_some.mp hget''
  obtain ⟨channel, hget, rfl⟩ := Heap.get_modify_eq_some.mp hget'
  refine ⟨channel, hget, fun howner => ?_⟩
  have hne : a ≠ q := by
    rintro rfl
    rw [hq.owner channel hget] at howner
    cases howner
  rw [if_neg hne, if_neg hne]

theorem change (hwaits : w.Waits) {change : Change η} (hchange : change.onStart) (hfits : w.Fits change) :
    Carries w (w.change change) := by
  cases change with
  | destroyed ch =>
      exact of_tags (w.net.next_destroy ch) (w.net.mail_destroy ch) (.destroy (fun _ => rfl) _ ch) rfl
  | opened s task => exact opened w s task
  | adopted c q =>
      obtain ⟨⟨client, hc, hch⟩, hq | ⟨invocation, s, hrun⟩⟩ := hfits
      · exact adopted hc hch hq
      · exact adopted hc hch (hwaits invocation q c s hrun)
  | released c => exact of_net rfl (Heap.view_modify_of_keep _ _ _ fun _ => rfl)
  | turned | entered | erased | connectionGone => exact of_net rfl rfl
  | _ => cases hchange

theorem of_changes (hwaits : w.Waits) (h : Changes Change.onStart w w') : Carries w w' := by
  have hlift : w.Waits → w'.Waits ∧ Carries w w' := by
    refine h.lift (R := fun w w' => w.Waits → w'.Waits ∧ Carries w w') (fun w hw => ⟨hw, .refl w⟩) ?_ ?_
    · intro w w' w'' h h' hw
      obtain ⟨hw', hcarries⟩ := h hw
      obtain ⟨hw'', hcarries'⟩ := h' hw'
      exact ⟨hw'', hcarries.trans hcarries'⟩
    · exact fun w next hnext hfits hw => ⟨hw.change hfits, change hw hnext hfits⟩
  exact (hlift hwaits).2

end Carries

namespace Passage
variable {w : World η}

/-- The task at the head of the queue, when it has left the queue. The channels that there were are
owned; the one that a client is then about to get is new. -/
theorem start (hw : w.Settled) (hrunning : w.running = none) {task : Task ConnectToServerTask}
    {tasks : List (Task ConnectToServerTask)} (htasks : w.net.tasks = task :: tasks) :
    Passage [] { w with net := { w.net with tasks } } w.start := by
  obtain ⟨floating, closing, hsituation, hw⟩ := hw
  rw [hrunning] at hsituation
  obtain ⟨rfl, rfl⟩ := hsituation
  have hnone : ∀ a, ({ w with net := { w.net with tasks } } : World η).connectingTo a = none := by
    intro a
    simp only [connectingTo, hrunning]
  have hwaits : ({ w with net := { w.net with tasks } } : World η).Waits := by
    intro invocation q c s hrun
    rw [show ({ w with net := { w.net with tasks } } : World η).running = none from hrunning] at hrun
    cases hrun
  have hcarries := Carries.of_changes hwaits (.started hrunning htasks)
  refine .of_keep hcarries.next hcarries.mail ?_ ?_ fun c _ => congrFun hcarries.ids c
  · intro a channel' ha hget'
    obtain ⟨channel, hget, htag⟩ := hcarries.tags a channel' ha hget'
    refine ⟨channel, hget, htag ?_⟩
    have he : w.shape.channel a = some (channelEnd channel) :=
      (Heap.view_eq_some _ _).mpr ⟨channel, hget, rfl⟩
    cases howner : channel.disconnectedHandler with
    | some owner => rfl
    | none => cases hw.owned.ownerless a _ he howner
  · intro a ha
    rw [hnone]
    cases hrun : w.start.running with
    | none => simp only [connectingTo, hrun]
    | some running =>
        obtain ⟨invocation, moment⟩ := running
        obtain ⟨_, _, -, hcalls⟩ := calls_start hrunning hrun
        cases hcalls with
        | newConnection hs hserver hhandler =>
            simp only [connectingTo, hrun]
            exact if_neg (Nat.ne_of_gt (Nat.lt_succ_of_lt ha))
        | _ => simp only [connectingTo, hrun]

/-- The client end of a new pair keeps its address when it gets to its client. -/
theorem adopted (hw : w.Settled) {q c s : Ref}
    (hmoment : w.running.map (·.2) = some (.connecting q c s)) :
    Passage [] w (({ w with running := none } : World η).clientSetChannel c q) := by
  obtain ⟨floating, closing, hsituation, -⟩ := hw
  rw [hmoment] at hsituation
  obtain ⟨-, rfl, e, k, x, he, ho, hc, -⟩ := hsituation
  obtain ⟨channel, hq, rfl⟩ := (Heap.view_eq_some _ _).mp he
  have howner : channel.disconnectedHandler = none := ho
  have hid := clientIdOf_eq hc
  obtain ⟨client, hget, -⟩ := (Heap.view_eq_some _ _).mp hc
  have hconnecting := connectingTo_of_connecting hmoment
  have haddress : w.address q = some (false, k) := by
    simp only [address, hq, Option.bind_some, ConnectionChannel.tag, howner, addressOf, hconnecting, hid,
      Option.map_some]
  -- every other channel has an owner
  have hother : ∀ w' : World η, (∀ a, w'.connectingTo a = none) →
      w'.clients.view (·.clientId) = w.clients.view (·.clientId) → ∀ a, a ≠ q → ∀ tag,
        w'.addressOf a tag = w.addressOf a tag := by
    intro w' hnone hids a ha tag
    apply addressOf_congr
    · rw [hnone]
      cases hto : w.connectingTo a with
      | none => rfl
      | some d =>
          obtain ⟨t, ht⟩ := connecting_of_connectingTo hto
          rw [hmoment] at ht
          cases ht
          exact absurd rfl ha
    · exact fun d _ => congrFun hids d
  cases hch : client.channel with
  | some b =>
      have hworld : ({ w with running := none } : World η).clientSetChannel c q =
          { w with running := none, net := w.net.destroy q } := by
        simp only [clientSetChannel, hget, hch]
      rw [hworld]
      constructor
      · exact Nat.le_of_eq (w.net.next_destroy q).symm
      · simpa using w.net.mail_destroy q
      · intro a _ hlive
        obtain ⟨channel', hget'⟩ := Option.isSome_iff_exists.mp hlive
        have hne : a ≠ q := (Heap.get_free_eq_some.mp hget').1
        obtain ⟨channel, hget, htag⟩ := Net.Retains.destroy (p := ConnectionChannel.tag)
          (fun _ => rfl) w.net q a channel' hget'
        refine ⟨by rw [hget, Option.isSome_some], ?_⟩
        simp only [address, hget, hget', Option.bind_some, htag]
        exact hother { w with running := none, net := w.net.destroy q } (fun _ => rfl) rfl a hne _
      · exact fun _ hl => absurd hl List.not_mem_nil
  | none =>
      have hworld : ({ w with running := none } : World η).clientSetChannel c q = { w with
          clients := w.clients.modify c fun client => { client with channel := some q }
          net := (w.net.setMessageHandler q client.messageHandler).setDisconnectedHandler q
            (some (.client c))
          running := client.connectedHandler.map fun handler => (.connected handler, .notified c) } := by
        simp only [clientSetChannel, hget, hch]
      have hids : (w.clients.modify c fun client => { client with channel := some q }).view
          (·.clientId) = w.clients.view (·.clientId) := Heap.view_modify_of_keep _ _ _ fun _ => rfl
      rw [hworld]
      constructor
      · exact Nat.le_refl _
      · exact (List.append_nil _).symm
      · intro a _ hlive
        obtain ⟨channel'', hget''⟩ := Option.isSome_iff_exists.mp hlive
        obtain ⟨channel', hget', rfl⟩ := Heap.get_modify_eq_some.mp hget''
        obtain ⟨old, hold, rfl⟩ := Heap.get_modify_eq_some.mp hget'
        refine ⟨by rw [hold, Option.isSome_some], ?_⟩
        by_cases ha : a = q
        · subst ha
          rw [haddress]
          simp only [address, hget'', Option.bind_some, if_true, ConnectionChannel.tag, addressOf,
            clientIdOf, hids]
          exact congrArg (Option.map (Prod.mk false)) hid
        · simp only [address, hget'', hold, Option.bind_some, if_neg ha]
          refine hother _ (fun b => ?_) hids a ha _
          cases hhandler : client.connectedHandler with
          | none => rfl
          | some handler => rfl
      · exact fun _ hl => absurd hl List.not_mem_nil

theorem resume (hw : w.Settled) : Passage [] w w.resume := by
  unfold World.resume
  cases hrunning : w.running with
  | none => exact refl w
  | some running =>
      obtain ⟨invocation, moment⟩ := running
      have hreturn : (∀ a, w.connectingTo a = none) → Passage [] w { w with running := none } := by
        intro hnone
        exact .of_keep (Nat.le_refl _) rfl (fun a channel _ hget => ⟨channel, hget, rfl⟩)
          (fun a _ => (hnone a).symm) fun _ _ => rfl
      have hmoment : w.running.map (·.2) = some moment := by rw [hrunning]; rfl
      simp only
      cases moment with
      | message => exact hreturn fun a => by simp only [connectingTo, hrunning]
      | notified c => exact hreturn fun a => by simp only [connectingTo, hrunning]
      | closingClient c =>
          exact (hreturn fun a => by simp only [connectingTo, hrunning]).trans (clientOnDisconnected _ c)
      | closingConnection n s =>
          exact (hreturn fun a => by simp only [connectingTo, hrunning]).trans (serverOnDisconnected ..)
      | connecting q c s => exact adopted hw hmoment

end Passage
end World
end DeviceMonitoring
