import DeviceMonitoring.Later
import DeviceMonitoring.Operations
import DeviceMonitoring.TaskCalls

/-! Whose handlers a task calls. A channel keeps a copy of the message handler of its owner;
the copy is the handler that the owner has now. -/
namespace DeviceMonitoring
variable {η : Type}

/-- What a channel calls. -/
def ConnectionChannel.handlers {μ δ : Type} (c : ConnectionChannel μ δ) : Option μ × Option δ :=
  (c.messageHandler, c.disconnectedHandler)

theorem Net.Retains.handlers {μ δ τ : Type} {net net' : Net μ δ τ}
    (h : Net.Retains ConnectionChannel.handlers net net') {a : Ref} {channel' : ConnectionChannel μ δ}
    (hget' : net'.channels.get a = some channel') : ∃ channel, net.channels.get a = some channel ∧
      channel'.messageHandler = channel.messageHandler ∧
      channel'.disconnectedHandler = channel.disconnectedHandler := by
  obtain ⟨channel, hget, heq⟩ := h a channel' hget'
  exact ⟨channel, hget, congrArg Prod.fst heq, congrArg Prod.snd heq⟩

namespace World

/-- The message handler that the owner of a channel has now. -/
def handlerOf (w : World η) : Option Owner → Option η
  | none => none
  | some (.client c) => (w.clients.view (·.messageHandler) c).join
  | some (.connection n) => (w.connections.view (·.messageHandler) n).join

def Current (w : World η) : Prop :=
  ∀ a channel, w.net.channels.get a = some channel →
    channel.messageHandler = w.handlerOf channel.disconnectedHandler

section Owners
variable {floating : Option Ref}

theorem clientChannel_of_owner {w : World η} (hw : w.shape.Owned floating) {a c : Ref}
    {channel : ConnectionChannel η Owner} (hget : w.net.channels.get a = some channel)
    (howner : channel.disconnectedHandler = some (.client c)) : w.clientChannel c = some a := by
  have he : w.shape.channel a = some (channelEnd channel) :=
    (Heap.view_eq_some _ _).mpr ⟨channel, hget, rfl⟩
  obtain ⟨k, hk, -⟩ := hw.of_client a _ c he howner
  exact clientChannel_eq_some.mpr ⟨k, hk⟩

theorem connectionChannel_of_owner {w : World η} (hw : w.shape.Owned floating) {a n : Ref}
    {channel : ConnectionChannel η Owner} (hget : w.net.channels.get a = some channel)
    (howner : channel.disconnectedHandler = some (.connection n)) : w.connectionChannel n = some a := by
  have he : w.shape.channel a = some (channelEnd channel) :=
    (Heap.view_eq_some _ _).mpr ⟨channel, hget, rfl⟩
  obtain ⟨⟨s, hs⟩, -⟩ := hw.of_connection a _ n he howner
  exact connectionChannel_eq_some.mpr ⟨s, hs⟩

/-- The channel that a client holds is live, and the client's. -/
theorem owner_of_clientChannel {w : World η} (hw : w.shape.Owned floating) {a c : Ref}
    (ha : w.clientChannel c = some a) : ∃ channel, w.net.channels.get a = some channel ∧
      channel.disconnectedHandler = some (.client c) := by
  obtain ⟨k, hk⟩ := clientChannel_eq_some.mp ha
  obtain ⟨e, he, howner⟩ := hw.client_owns c k a hk
  obtain ⟨channel, hget, rfl⟩ := (Heap.view_eq_some _ _).mp he
  exact ⟨channel, hget, howner⟩

theorem owner_of_connectionChannel {w : World η} (hw : w.shape.Owned floating) {a n : Ref}
    (ha : w.connectionChannel n = some a) : ∃ channel, w.net.channels.get a = some channel ∧
      channel.disconnectedHandler = some (.connection n) := by
  obtain ⟨s, hs⟩ := connectionChannel_eq_some.mp ha
  obtain ⟨b, e, hb, he, howner, -⟩ := hw.connection_owns n s _ hs
  cases hb
  obtain ⟨channel, hget, rfl⟩ := (Heap.view_eq_some _ _).mp he
  exact ⟨channel, hget, howner⟩

end Owners

/-- The channel and the message handler that an owner has. -/
def holding (w : World η) : Owner → Option (Option Ref × Option η)
  | .client c => w.clients.view (fun client => (client.channel, client.messageHandler)) c
  | .connection n => w.connections.view (fun conn => (conn.channel, conn.messageHandler)) n

/-- The channel that an owner holds. -/
def channelOf (w : World η) : Owner → Option Ref
  | .client c => w.clientChannel c
  | .connection n => w.connectionChannel n

theorem channelOf_eq (w : World η) (owner : Owner) :
    w.channelOf owner = (w.holding owner).bind Prod.fst := by
  cases owner with
  | client c => rw [channelOf, clientChannel, holding, Heap.view, Option.bind_map]; rfl
  | connection n => rw [channelOf, connectionChannel, holding, Heap.view, Option.bind_map]; rfl

theorem handlerOf_eq (w : World η) (owner : Owner) :
    w.handlerOf (some owner) = (w.holding owner).bind Prod.snd := by
  cases owner with
  | client c => rw [handlerOf, holding, Heap.view, Heap.view, Option.bind_map]; cases w.clients.get c <;> rfl
  | connection n =>
      rw [handlerOf, holding, Heap.view, Heap.view, Option.bind_map]
      cases w.connections.get n <;> rfl

/-- Every channel is the one that its owner holds, and has the owner's message handler. -/
structure Attached (w : World η) : Prop where
  current : w.Current
  owned : ∀ a channel, w.net.channels.get a = some channel → ∀ owner,
    channel.disconnectedHandler = some owner ↔ w.channelOf owner = some a
  bound : ∀ owner a, w.channelOf owner = some a → a < w.net.channels.next
  waits : w.Waits

namespace Attached
variable {w w' : World η}

theorem empty : ({} : World η).Attached := by
  refine ⟨?_, ?_, ?_, ?_⟩
  · intro a channel hget
    cases hget
  · intro a channel hget
    cases hget
  · intro owner a ha
    cases owner <;> cases ha
  · intro invocation q c s hrunning
    cases hrunning

/-- The channels keep their owners, and the owners of live channels keep these. -/
theorem of_owners (h : w.Attached) (hcurrent : w'.Current)
    (hnext : w.net.channels.next ≤ w'.net.channels.next)
    (hnet : Net.Retains (·.disconnectedHandler) w.net w'.net)
    (hchannel : ∀ owner a, w'.channelOf owner = some a → w.channelOf owner = some a)
    (hheld : ∀ owner a channel, w'.net.channels.get a = some channel → w.channelOf owner = some a →
      w'.channelOf owner = some a)
    (hwaits : w'.Waits) : w'.Attached := by
  refine ⟨hcurrent, ?_, ?_, hwaits⟩
  · intro a channel' hget' owner
    obtain ⟨channel, hget, hsame⟩ := hnet a channel' hget'
    simp only at hsame
    rw [hsame, h.owned a channel hget owner]
    exact ⟨hheld owner a channel' hget', hchannel owner a⟩
  · exact fun owner a ha => Nat.lt_of_lt_of_le (h.bound owner a (hchannel owner a ha)) hnext

/-- Owners keep what they hold, but those that hold nothing afterwards and have lost their
channel. -/
theorem of_holding (h : w.Attached) (hnext : w.net.channels.next ≤ w'.net.channels.next)
    (hnet : Net.Retains ConnectionChannel.handlers w.net w'.net)
    (hholding : ∀ owner, w'.holding owner = w.holding owner ∨ w'.channelOf owner = none ∧
      ∀ a, w.channelOf owner = some a → w'.net.channels.get a = none)
    (hwaits : w'.Waits) : w'.Attached := by
  have hheld : ∀ owner a channel, w'.net.channels.get a = some channel → w.channelOf owner = some a →
      w'.holding owner = w.holding owner := by
    intro owner a channel hget ha
    refine (hholding owner).resolve_right fun hlost => ?_
    rw [hlost.2 a ha] at hget
    cases hget
  refine h.of_owners ?_ hnext ?_ ?_ ?_ hwaits
  · intro a channel' hget'
    obtain ⟨channel, hget, hmessage, hsame⟩ := hnet.handlers hget'
    rw [hmessage, h.current a channel hget, hsame]
    cases howner : channel.disconnectedHandler with
    | none => rfl
    | some owner =>
        have ha := (h.owned a channel hget owner).mp howner
        rw [handlerOf_eq, handlerOf_eq, hheld owner a channel' hget' ha]
  · intro a channel' hget'
    obtain ⟨channel, hget, heq⟩ := hnet a channel' hget'
    exact ⟨channel, hget, congrArg Prod.snd heq⟩
  · intro owner a ha
    rcases hholding owner with hsame | ⟨hnone, -⟩
    · rwa [channelOf_eq, hsame, ← channelOf_eq] at ha
    · rw [hnone] at ha
      cases ha
  · intro owner a channel hget ha
    rwa [channelOf_eq, hheld owner a channel hget ha, ← channelOf_eq]

theorem of_same (h : w.Attached) (hnext : w.net.channels.next ≤ w'.net.channels.next)
    (hnet : Net.Retains ConnectionChannel.handlers w.net w'.net)
    (hholding : ∀ owner, w'.holding owner = w.holding owner) (hwaits : w'.Waits) : w'.Attached :=
  h.of_holding hnext hnet (fun owner => .inl (hholding owner)) hwaits

theorem modify_client (h : w.Attached) (c : Ref)
    {f : ClientConnectionMock η → ClientConnectionMock η}
    (hf : ∀ client, ((f client).channel, (f client).messageHandler) =
      (client.channel, client.messageHandler)) :
    ({ w with clients := w.clients.modify c f } : World η).Attached := by
  refine h.of_same (Nat.le_refl _) (.of_channels rfl) (fun owner => ?_)
    (h.waits.retains rfl (Nat.le_refl _) (.of_channels rfl))
  cases owner with
  | client d => exact congrFun (Heap.view_modify_of_keep _ _ _ hf) d
  | connection n => rfl

theorem modify_connection (h : w.Attached) (n : Ref) {f : ConnectionMock η → ConnectionMock η}
    (hf : ∀ conn, ((f conn).channel, (f conn).messageHandler) = (conn.channel, conn.messageHandler)) :
    ({ w with connections := w.connections.modify n f } : World η).Attached := by
  refine h.of_same (Nat.le_refl _) (.of_channels rfl) (fun owner => ?_)
    (h.waits.retains rfl (Nat.le_refl _) (.of_channels rfl))
  cases owner with
  | client c => rfl
  | connection m => exact congrFun (Heap.view_modify_of_keep _ _ _ hf) m

/-- An owner changes its handler, and hands it on to the channel that it holds. -/
theorem setMessageHandler (h : w.Attached) (owner : Owner) (handler : Option η)
    (hself : (w'.holding owner) = (w.holding owner).map fun held => (held.1, handler))
    (hother : ∀ o, o ≠ owner → w'.holding o = w.holding o)
    (hnet : w'.net = (w.channelOf owner).elim w.net fun b => w.net.setMessageHandler b handler)
    (hwaits : w'.Waits) : w'.Attached := by
  have hchannel : ∀ o, w'.channelOf o = w.channelOf o := by
    intro o
    rw [channelOf_eq, channelOf_eq]
    by_cases ho : o = owner
    · rw [ho, hself, Option.bind_map]
      rfl
    · rw [hother o ho]
  have hkeeps : Net.Retains (·.disconnectedHandler) w.net w'.net := by
    rw [hnet]
    cases w.channelOf owner with
    | none => exact .of_channels rfl
    | some b => exact .modify _ b fun _ => rfl
  have hnext : w.net.channels.next ≤ w'.net.channels.next := by
    rw [hnet]
    cases w.channelOf owner <;> exact Nat.le_refl _
  refine h.of_owners ?_ hnext hkeeps (fun o a ha => hchannel o ▸ ha)
    (fun o a channel _ ha => (hchannel o).trans ha) hwaits
  intro a channel' hget'
  rw [hnet] at hget'
  cases hheld : w.channelOf owner with
  | none =>
      rw [hheld] at hget'
      rw [h.current a channel' hget']
      cases howner : channel'.disconnectedHandler with
      | none => rfl
      | some o =>
          have ha := (h.owned a channel' hget' o).mp howner
          have ho : o ≠ owner := by
            rintro rfl
            rw [hheld] at ha
            cases ha
          rw [handlerOf_eq, handlerOf_eq, hother o ho]
  | some b =>
      rw [hheld] at hget'
      obtain ⟨channel, hget, rfl⟩ := Heap.get_modify_eq_some.mp hget'
      by_cases hab : a = b
      · -- the channel of the owner has the handler that the owner gets
        subst hab
        have howner := (h.owned a channel hget owner).mpr hheld
        obtain ⟨held, hholds, -⟩ := Option.bind_eq_some_iff.mp ((channelOf_eq w owner).symm.trans hheld)
        simp only [if_true, howner]
        rw [handlerOf_eq, hself, hholds]
        rfl
      · rw [if_neg hab, h.current a channel hget]
        cases howner : channel.disconnectedHandler with
        | none => rfl
        | some o =>
            have ha := (h.owned a channel hget o).mp howner
            have ho : o ≠ owner := by
              rintro rfl
              rw [hheld] at ha
              exact hab (Option.some.inj ha).symm
            rw [handlerOf_eq, handlerOf_eq, hother o ho]

theorem clientSetMessageHandler (h : w.Attached) (c : Ref) (handler : Option η) :
    (w.clientSetMessageHandler c handler).Attached := by
  have hfits : w.Fits (.messageHandler (.client c) handler) := trivial
  have hwaits := h.waits.change hfits
  have hsame : ({ w with clients := w.clients.modify c fun client =>
      { client with messageHandler := handler } } : World η).clientChannel c = w.clientChannel c := by
    unfold clientChannel
    rw [Heap.get_modify_self]
    cases w.clients.get c <;> rfl
  have hworld : w.clientSetMessageHandler c handler = { w with
      clients := w.clients.modify c fun client => { client with messageHandler := handler }
      net := (w.clientChannel c).elim w.net fun b => w.net.setMessageHandler b handler } := by
    unfold World.clientSetMessageHandler
    simp only [hsame]
    cases w.clientChannel c <;> rfl
  rw [World.change, hworld] at hwaits
  rw [hworld]
  refine h.setMessageHandler (.client c) handler ?_ ?_ rfl hwaits
  · rw [holding, holding, Heap.view, Heap.view, Heap.get_modify_self]
    cases w.clients.get c <;> rfl
  · intro owner howner
    cases owner with
    | client d =>
        have hd : d ≠ c := fun heq => howner (congrArg Owner.client heq)
        exact congrArg (Option.map _) (Heap.get_modify_of_ne _ _ hd)
    | connection n => rfl

theorem connectionSetMessageHandler (h : w.Attached) (n : Ref) (handler : Option η) :
    (w.connectionSetMessageHandler n handler).Attached := by
  have hfits : w.Fits (.messageHandler (.connection n) handler) := trivial
  have hwaits := h.waits.change hfits
  have hsame : ({ w with connections := w.connections.modify n fun conn =>
      { conn with messageHandler := handler } } : World η).connectionChannel n =
        w.connectionChannel n := by
    unfold connectionChannel
    rw [Heap.get_modify_self]
    cases w.connections.get n <;> rfl
  have hworld : w.connectionSetMessageHandler n handler = { w with
      connections := w.connections.modify n fun conn => { conn with messageHandler := handler }
      net := (w.connectionChannel n).elim w.net fun b => w.net.setMessageHandler b handler } := by
    unfold World.connectionSetMessageHandler
    simp only [hsame]
    cases w.connectionChannel n <;> rfl
  rw [World.change, hworld] at hwaits
  rw [hworld]
  refine h.setMessageHandler (.connection n) handler ?_ ?_ rfl hwaits
  · rw [holding, holding, Heap.view, Heap.view, Heap.get_modify_self]
    cases w.connections.get n <;> rfl
  · intro owner howner
    cases owner with
    | client c => rfl
    | connection m =>
        have hm : m ≠ n := fun heq => howner (congrArg Owner.connection heq)
        exact congrArg (Option.map _) (Heap.get_modify_of_ne _ _ hm)

theorem opened (h : w.Attached) {s : Ref} {task : ConnectToServerTask}
    (hwaits : (w.opened s task).Waits) : (w.opened s task).Attached := by
  have hold : ∀ owner, owner ≠ .connection w.connections.next →
      (w.opened s task).holding owner = w.holding owner := by
    intro owner howner
    cases owner with
    | client c => rfl
    | connection n =>
        have hn : n ≠ w.connections.next := fun heq => howner (congrArg Owner.connection heq)
        exact congrArg (Option.map _) (Heap.get_alloc_of_ne _ _ hn)
  have hnew : (w.opened s task).holding (.connection w.connections.next) =
      some (some w.net.channels.next, none) :=
    congrArg (Option.map _) (Heap.get_alloc_next w.connections _)
  have hnone : w.holding (.connection w.connections.next) = none := w.connections.view_next _
  have hchannel : ∀ owner, owner ≠ .connection w.connections.next →
      (w.opened s task).channelOf owner = w.channelOf owner := by
    intro owner howner
    rw [channelOf_eq, channelOf_eq, hold owner howner]
  have hchannelNew : (w.opened s task).channelOf (.connection w.connections.next) =
      some w.net.channels.next := by
    rw [channelOf_eq, hnew]
    rfl
  refine ⟨?_, ?_, ?_, hwaits⟩
  · intro a channel hget
    rcases Heap.get_alloc_eq_some.mp hget with ⟨-, rfl⟩ | hget
    · rfl
    · rcases Heap.get_alloc_eq_some.mp hget with ⟨-, rfl⟩ | hget
      · rw [handlerOf_eq, hnew]
        rfl
      · rw [h.current a channel hget]
        cases howner : channel.disconnectedHandler with
        | none => rfl
        | some owner =>
            have ha := (h.owned a channel hget owner).mp howner
            have hne : owner ≠ .connection w.connections.next := by
              rintro rfl
              rw [channelOf_eq, hnone] at ha
              cases ha
            rw [handlerOf_eq, handlerOf_eq, hold owner hne]
  · intro a channel hget owner
    by_cases hne : owner = .connection w.connections.next
    · subst hne
      rw [hchannelNew]
      rcases Heap.get_alloc_eq_some.mp hget with ⟨rfl, rfl⟩ | hget
      · simp
      · rcases Heap.get_alloc_eq_some.mp hget with ⟨rfl, rfl⟩ | hget
        · simp
        · -- the old channels are not the new connection's
          rw [h.owned a channel hget, channelOf_eq, hnone]
          simp [Nat.ne_of_gt (Heap.lt_next hget)]
    · rw [hchannel owner hne]
      have hlt := h.bound owner a
      rcases Heap.get_alloc_eq_some.mp hget with ⟨rfl, rfl⟩ | hget
      · refine ⟨fun heq => (by cases heq), fun ha => ?_⟩
        exact absurd (hlt ha) (Nat.not_lt.mpr (Nat.le_succ _))
      · rcases Heap.get_alloc_eq_some.mp hget with ⟨rfl, rfl⟩ | hget
        · refine ⟨fun heq => absurd (Option.some.inj heq).symm hne, fun ha => ?_⟩
          exact absurd (hlt ha) (Nat.lt_irrefl _)
        · exact h.owned a channel hget owner
  · intro owner a ha
    by_cases hne : owner = .connection w.connections.next
    · rw [hne, hchannelNew, Option.some.injEq] at ha
      rw [← ha]
      exact Nat.lt_succ_of_lt (Nat.lt_succ_self _)
    · rw [hchannel owner hne] at ha
      exact Nat.lt_succ_of_lt (Nat.lt_succ_of_lt (h.bound owner a ha))

/-- The channel takes over the handlers of the client. -/
theorem adopted (h : w.Attached) {c q : Ref} {client : ClientConnectionMock η}
    (hc : w.clients.get c = some client) (hch : client.channel = none) (hq : w.Unowned q)
    (hwaits : (w.clientSetChannel c q).Waits) : (w.clientSetChannel c q).Attached := by
  have hworld : w.clientSetChannel c q = { w with
      clients := w.clients.modify c fun client => { client with channel := some q }
      net := (w.net.setMessageHandler q client.messageHandler).setDisconnectedHandler q
        (some (.client c))
      running := client.connectedHandler.map fun handler => (.connected handler, .notified c) } := by
    simp only [World.clientSetChannel, hc, hch]
  have hbefore : w.channelOf (.client c) = none := by
    rw [channelOf, clientChannel, hc, Option.bind_some, hch]
  rw [hworld] at hwaits ⊢
  generalize hw' : ({ w with
      clients := w.clients.modify c fun client => { client with channel := some q }
      net := (w.net.setMessageHandler q client.messageHandler).setDisconnectedHandler q
        (some (.client c))
      running := client.connectedHandler.map fun handler => (.connected handler, .notified c) } :
    World η) = w' at hwaits ⊢
  have hself : w'.holding (.client c) = some (some q, client.messageHandler) := by
    rw [← hw', holding, Heap.view_modify, Function.update_self, hc]
    rfl
  have hother : ∀ owner, owner ≠ .client c → w'.holding owner = w.holding owner := by
    intro owner howner
    cases owner with
    | client d =>
        have hd : d ≠ c := fun heq => howner (congrArg Owner.client heq)
        rw [← hw', holding, Heap.view_modify, Function.update_of_ne hd]
        rfl
    | connection n =>
        rw [← hw']
        rfl
  have hafter : ∀ a channel', w'.net.channels.get a = some channel' →
      ∃ channel, w.net.channels.get a = some channel ∧ channel' = if a = q then { channel with
        messageHandler := client.messageHandler
        disconnectedHandler := some (.client c) } else channel := by
    intro a channel' hget'
    rw [← hw'] at hget'
    obtain ⟨channel₁, hget₁, rfl⟩ := Heap.get_modify_eq_some.mp hget'
    obtain ⟨channel, hget, rfl⟩ := Heap.get_modify_eq_some.mp hget₁
    refine ⟨channel, hget, ?_⟩
    by_cases ha : a = q <;> simp [ha]
  have hnext : w'.net.channels.next = w.net.channels.next := by rw [← hw']; rfl
  clear hw' hworld
  refine ⟨?_, ?_, ?_, hwaits⟩
  · intro a channel' hget'
    obtain ⟨channel, hget, rfl⟩ := hafter a channel' hget'
    by_cases ha : a = q
    · simp only [if_pos ha]
      rw [handlerOf_eq, hself]
      rfl
    · rw [if_neg ha, h.current a channel hget]
      cases howner : channel.disconnectedHandler with
      | none => rfl
      | some owner =>
          have hne : owner ≠ .client c := by
            rintro rfl
            rw [(h.owned a channel hget _).mp howner] at hbefore
            cases hbefore
          rw [handlerOf_eq, handlerOf_eq, hother owner hne]
  · intro a channel' hget' owner
    obtain ⟨channel, hget, rfl⟩ := hafter a channel' hget'
    by_cases hne : owner = .client c
    · subst hne
      rw [channelOf_eq, hself]
      by_cases ha : a = q
      · simp [ha]
      · simp only [if_neg ha, Option.bind_some, Option.some.injEq]
        rw [h.owned a channel hget, hbefore]
        simp [Ne.symm ha]
    · rw [channelOf_eq, hother owner hne, ← channelOf_eq]
      by_cases ha : a = q
      · -- nobody else has the channel
        subst ha
        rw [← h.owned a channel hget owner, hq.owner channel hget]
        simpa using fun heq => hne heq.symm
      · rw [if_neg ha]
        exact h.owned a channel hget owner
  · intro owner a ha
    rw [hnext]
    by_cases hne : owner = .client c
    · rw [hne, channelOf_eq, hself] at ha
      cases ha
      exact hq.bound
    · rw [channelOf_eq, hother owner hne, ← channelOf_eq] at ha
      exact h.bound owner a ha

theorem change (h : w.Attached) {change : Change η} (hfits : w.Fits change) :
    (w.change change).Attached := by
  have hnext := (Later.change w change).net.next
  have hwaits := h.waits.change hfits
  -- a channel that only one owner held is gone
  have hlost : ∀ (w' : World η) (owner : Owner), w.net.channels.next ≤ w'.net.channels.next →
      w'.net = w.net → w'.Waits → (∀ o, o ≠ owner → w'.holding o = w.holding o) →
      w'.channelOf owner = none → (∀ a, w.channelOf owner = some a → w.net.channels.get a = none) →
        w'.Attached := by
    intro w' owner hnext hnet hwaits hother hnone hgone
    refine h.of_holding hnext (.of_channels (by rw [hnet])) (fun o => ?_) hwaits
    by_cases ho : o = owner
    · subst ho
      exact .inr ⟨hnone, fun a ha => hnet ▸ hgone a ha⟩
    · exact .inl (hother o ho)
  cases change with
  | sent ch message => exact h.of_same hnext (.of_channels (Net.channels_sendMessage ..)) (fun _ => rfl) hwaits
  | disconnected ch => exact h.of_same hnext (.disconnect (fun _ => rfl) _ ch) (fun _ => rfl) hwaits
  | destroyed ch => exact h.of_same hnext (.destroy (fun _ => rfl) _ ch) (fun _ => rfl) hwaits
  | clientId c clientId => exact h.modify_client c fun _ => rfl
  | connectedHandler c handler => exact h.modify_client c fun _ => rfl
  | messageHandler owner handler =>
      cases owner with
      | client c => exact h.clientSetMessageHandler c handler
      | connection n => exact h.connectionSetMessageHandler n handler
  | disconnectedHandler owner handler =>
      cases owner with
      | client c => exact h.modify_client c fun _ => rfl
      | connection n => exact h.modify_connection n fun _ => rfl
  | opened s task => exact h.opened hwaits
  | adopted c q =>
      obtain ⟨⟨client, hc, hch⟩, hq | ⟨invocation, s, hrun⟩⟩ := hfits
      · exact h.adopted hc hch hq hwaits
      · exact h.adopted hc hch (h.waits invocation q c s hrun) hwaits
  | released c =>
      refine hlost _ (.client c) hnext rfl hwaits ?_ ?_ hfits
      · intro o ho
        cases o with
        | client d =>
            have hd : d ≠ c := fun heq => ho (congrArg Owner.client heq)
            exact congrArg (Option.map _) (Heap.get_modify_of_ne _ _ hd)
        | connection n => rfl
      · simp only [World.change, channelOf, clientChannel, Heap.get_modify_self]
        cases w.clients.get c <;> rfl
  | newClient =>
      refine hlost _ (.client w.clients.next) hnext rfl hwaits ?_ ?_ ?_
      · intro o ho
        cases o with
        | client d =>
            have hd : d ≠ w.clients.next := fun heq => ho (congrArg Owner.client heq)
            exact congrArg (Option.map _) (Heap.get_alloc_of_ne _ _ hd)
        | connection n => rfl
      · simp only [World.change, channelOf, clientChannel, Heap.get_alloc_next]
        rfl
      · intro a ha
        obtain ⟨client, hc, -⟩ := Option.bind_eq_some_iff.mp ha
        exact absurd (Heap.lt_next hc) (Nat.lt_irrefl _)
  | clientGone c =>
      refine hlost _ (.client c) hnext rfl hwaits ?_ ?_ hfits
      · intro o ho
        cases o with
        | client d =>
            have hd : d ≠ c := fun heq => ho (congrArg Owner.client heq)
            exact congrArg (Option.map _) (Heap.get_free_of_ne _ hd)
        | connection n => rfl
      · simp only [World.change, channelOf, clientChannel, Heap.get_free_self]
        rfl
  | connectionGone n =>
      refine hlost _ (.connection n) hnext rfl hwaits ?_ ?_ hfits
      · intro o ho
        cases o with
        | client d => rfl
        | connection m =>
            have hm : m ≠ n := fun heq => ho (congrArg Owner.connection heq)
            exact congrArg (Option.map _) (Heap.get_free_of_ne _ hm)
      · simp only [World.change, channelOf, connectionChannel, Heap.get_free_self]
        rfl
  | _ => exact h.of_same hnext (.of_channels rfl) (fun _ => rfl) hwaits

theorem of_changes (h : w.Attached) {may : Change η → Prop} (hchanges : Changes may w w') :
    w'.Attached :=
  hchanges.keep (fun _ _ h _ hfits => change h hfits) h

theorem run (I : Iteration) (h : w.Attached) (steps : List (WorldStep η)) : (w.run I steps).Attached := by
  induction steps generalizing w with
  | nil => exact h
  | cons step steps ih => exact ih (h.of_changes (.step I w step))

end Attached

/-- In a settled world every channel is its owner's, so that only the copies are left to see to. -/
theorem Settled.attached {w : World η} (hw : w.Settled) (h : w.Current) : w.Attached := by
  obtain ⟨floating, closing, hsituation, hw⟩ := hw
  have howner : ∀ owner a, w.channelOf owner = some a → ∃ channel,
      w.net.channels.get a = some channel ∧ channel.disconnectedHandler = some owner := by
    intro owner a ha
    cases owner with
    | client c => exact owner_of_clientChannel hw.owned ha
    | connection n => exact owner_of_connectionChannel hw.owned ha
  refine ⟨h, ?_, ?_, ?_⟩
  · intro a channel hget owner
    constructor
    · intro hown
      cases owner with
      | client c => exact clientChannel_of_owner hw.owned hget hown
      | connection n => exact connectionChannel_of_owner hw.owned hget hown
    · intro ha
      obtain ⟨channel', hget', hown⟩ := howner owner a ha
      rw [hget] at hget'
      cases hget'
      exact hown
  · intro owner a ha
    obtain ⟨channel, hget, -⟩ := howner owner a ha
    exact Heap.lt_next hget
  · intro invocation q c s hrun
    rw [hrun] at hsituation
    obtain ⟨-, rfl, e, k, x, he, ho, -, -⟩ := hsituation
    obtain ⟨channel, hget, rfl⟩ := (Heap.view_eq_some _ _).mp he
    refine ⟨Heap.lt_next hget, fun channel' hget' => ?_⟩
    rw [hget] at hget'
    cases hget'
    exact ho

/-- The copies stay right through any changes. -/
theorem Current.of_changes {w w' : World η} (h : w.Current) (hw : w.Settled) {may : Change η → Prop}
    (hchanges : Changes may w w') : w'.Current :=
  ((hw.attached h).of_changes hchanges).current

/-- Which handler the next task calls, and that a channel without an owner calls none. -/
structure CallsNow (w : World η) : Prop where
  clientMessage : ∀ c client a message tasks, w.clients.get c = some client →
    client.channel = some a → w.net.tasks = .sendMessage message a :: tasks →
      w.start.running = client.messageHandler.map fun handler => (.message handler message, .message)
  connectionMessage : ∀ n conn a message tasks, w.connections.get n = some conn →
    conn.channel = some a → w.net.tasks = .sendMessage message a :: tasks →
      w.start.running = conn.messageHandler.map fun handler => (.message handler message, .message)
  clientDisconnected : ∀ c client a tasks, w.clients.get c = some client →
    client.channel = some a → w.net.tasks = .disconnect a :: tasks →
      w.start.running = client.disconnectedHandler.map fun handler =>
        (.disconnected handler, .closingClient c)
  connectionDisconnected : ∀ n conn a tasks, w.connections.get n = some conn →
    conn.channel = some a → w.net.tasks = .disconnect a :: tasks →
      w.start.running = conn.disconnectedHandler.map fun handler =>
        (.disconnected handler, .closingConnection n conn.server)
  nobody : ∀ a task tasks, (∀ c, w.clientChannel c ≠ some a) → (∀ n, w.connectionChannel n ≠ some a) →
    (task = .disconnect a ∨ ∃ message, task = .sendMessage message a) →
      w.net.tasks = task :: tasks → w.start = { w with net := { w.net with tasks } }

theorem callsNow_of_current {w : World η} (h : w.Current) (hw : w.Idle) : w.CallsNow := by
  have howned := hw.consistent.owned
  constructor
  · intro c client a message tasks hc ha htasks
    have hheld : w.clientChannel c = some a := by rw [clientChannel, hc, Option.bind_some, ha]
    obtain ⟨channel, hget, howner⟩ := owner_of_clientChannel howned hheld
    rw [start_sendMessage hw.running htasks hget, h a channel hget, howner, handlerOf, Heap.view, hc]
    rfl
  · intro n conn a message tasks hn ha htasks
    have hheld : w.connectionChannel n = some a := by rw [connectionChannel, hn, Option.bind_some, ha]
    obtain ⟨channel, hget, howner⟩ := owner_of_connectionChannel howned hheld
    rw [start_sendMessage hw.running htasks hget, h a channel hget, howner, handlerOf, Heap.view, hn]
    rfl
  · intro c client a tasks hc ha htasks
    have hheld : w.clientChannel c = some a := by rw [clientChannel, hc, Option.bind_some, ha]
    obtain ⟨channel, hget, howner⟩ := owner_of_clientChannel howned hheld
    rw [start_client hw.running htasks (deliver_disconnect hget howner)]
    simp only [clientDisconnectedHandler, hc, Option.bind_some]
    cases client.disconnectedHandler with
    | none =>
        simp only [clientOnDisconnected]
        split <;> exact hw.running
    | some handler => rfl
  · intro n conn a tasks hn ha htasks
    have hheld : w.connectionChannel n = some a := by rw [connectionChannel, hn, Option.bind_some, ha]
    obtain ⟨channel, hget, howner⟩ := owner_of_connectionChannel howned hheld
    rw [start_connection hw.running htasks (deliver_disconnect hget howner)]
    simp only [connectionDisconnectedHandler, hn]
    cases conn.disconnectedHandler with
    | none => exact (running_serverOnDisconnected ..).trans hw.running
    | some handler => rfl
  · intro a task tasks hclient hconnection htask htasks
    refine start_nothing hw.running htasks (deliver_gone htask ?_)
    -- a live channel between two tasks belongs to somebody
    cases hget : w.net.channels.get a with
    | none => rfl
    | some channel =>
        have he : w.shape.channel a = some (channelEnd channel) :=
          (Heap.view_eq_some _ _).mpr ⟨channel, hget, rfl⟩
        cases howner : channel.disconnectedHandler with
        | none => cases howned.ownerless a _ he howner
        | some owner =>
            cases owner with
            | client c => exact absurd (clientChannel_of_owner howned hget howner) (hclient c)
            | connection n => exact absurd (connectionChannel_of_owner howned hget howner) (hconnection n)

/-- After any sequence of operations: a task calls the handler that the owner of its channel
has at that moment, whenever the handlers were set and replaced. -/
theorem tasks_call_current_handlers (I : Iteration) (operations : List (Operation η)) :
    (({} : World η).operate I operations).CallsNow := by
  apply callsNow_of_current _ (idle_operate I idle_empty operations)
  exact (Attached.empty.run I _).current

end World
end DeviceMonitoring
