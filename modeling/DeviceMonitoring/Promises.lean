import DeviceMonitoring.Requests

/-! An attempt to connect between the two calls of handlers: the server holds its side,
the client is still to get its own. -/
namespace DeviceMonitoring
variable {η : Type}
namespace World

/-- The state of an attempt whose server side is done: `q` is for the client `c`, and the
server `s` holds the other end `b` by its connection `n`. -/
structure Promise (w : World η) (q c s n b : Ref) (k sid : UInt64) : Prop where
  client : w.shape.clientIds c = some k
  channel : ∃ e, w.shape.channel q = some e ∧ e.peerId = sid ∧ e.owner = none
  asked : (c, sid) ∈ w.requests
  server : w.serversMap sid = some s
  entry : w.connection s k = some n
  connection : w.shape.connection n = some (s, some b)
  joined : w.net.Joined q b

namespace Promise
variable {w w' : World η} {q c s n b : Ref} {k sid : UInt64}

theorem congr (h : w.Promise q c s n b k sid)
    (hclient : w'.shape.clientIds c = w.shape.clientIds c)
    (hchannel : w'.shape.channel q = w.shape.channel q)
    (hrequests : w'.requests = w.requests)
    (hserver : w'.serversMap sid = w.serversMap sid)
    (hentry : w'.connection s k = w.connection s k)
    (hconnection : w'.shape.connection n = w.shape.connection n)
    (hjoined : w'.net.Joined q b) : w'.Promise q c s n b k sid where
  client := hclient.trans h.client
  channel := by
    rw [hchannel]
    exact h.channel
  asked := by
    rw [hrequests]
    exact h.asked
  server := hserver.trans h.server
  entry := hentry.trans h.entry
  connection := hconnection.trans h.connection
  joined := hjoined

theorem of_shape (h : w.Promise q c s n b k sid) (hshape : w'.shape = w.shape)
    (hrequests : w'.requests = w.requests) (hserver : w'.serversMap sid = w.serversMap sid)
    (hjoined : w'.net.Joined q b) : w'.Promise q c s n b k sid := by
  apply h.congr _ _ hrequests hserver _ _ hjoined
  · rw [hshape]
  · rw [hshape]
  · exact congrFun (congrFun (congrArg Shape.entry hshape) s) k
  · rw [hshape]

theorem setClient_other {d : Ref} (hd : d ≠ c) (x : Option (UInt64 × Option Ref)) :
    (w.shape.setClient d x).clientIds c = w.shape.clientIds c := by
  rw [Shape.clientIds_setClient, Function.update_of_ne hd.symm]

theorem quiet (h : w.Promise q c s n b k sid) {cut : Ref → Prop} (hquiet : Quiet cut w w')
    {closing : Option Ref} (hw : w.net.Wired closing) (hq : ¬cut q) (hb : ¬cut b) :
    w'.Promise q c s n b k sid := by
  apply h.of_shape hquiet.shape hquiet.requests
  · rw [hquiet.serversMap]
  · exact hquiet.joined closing q b hw h.joined hq hb

theorem owner_right (h : w.Promise q c s n b k sid) {floating : Option Ref}
    (howned : w.shape.Owned floating) :
    ∃ f, w.shape.channel b = some f ∧ f.owner = some (.connection n) := by
  obtain ⟨b', f, hb, hf, hfo, -⟩ := howned.connection_owns n s _ h.connection
  cases hb
  exact ⟨f, hf, hfo⟩

/-- A channel of another owner is not an end of the pair. -/
theorem ne_of_owner (h : w.Promise q c s n b k sid) {floating : Option Ref}
    (howned : w.shape.Owned floating) {a : Ref} {e : ChannelEnd} (ha : w.shape.channel a = some e)
    (ho : e.owner ≠ none) (hn : e.owner ≠ some (.connection n)) : a ≠ q ∧ a ≠ b := by
  obtain ⟨f, hf, hfo⟩ := h.owner_right howned
  obtain ⟨e', he', -, ho'⟩ := h.channel
  constructor
  · rintro rfl
    rw [ha] at he'
    cases he'
    exact ho ho'
  · rintro rfl
    rw [ha] at hf
    cases hf
    exact hn hfo

theorem ne_of_client (h : w.Promise q c s n b k sid) {floating : Option Ref}
    (howned : w.shape.Owned floating) {d a : Ref} {l : UInt64}
    (hd : w.shape.client d = some (l, some a)) : a ≠ q ∧ a ≠ b := by
  obtain ⟨e, he, ho⟩ := howned.client_owns d l a hd
  exact h.ne_of_owner howned he (by simp [ho]) (by simp [ho])

theorem ne_of_connection (h : w.Promise q c s n b k sid) {floating : Option Ref}
    (howned : w.shape.Owned floating) {m t a : Ref}
    (hm : w.shape.connection m = some (t, some a)) (hne : m ≠ n) : a ≠ q ∧ a ≠ b := by
  obtain ⟨a', e, ha, he, ho, -⟩ := howned.connection_owns m t _ hm
  cases ha
  exact h.ne_of_owner howned he (by simp [ho]) (by simpa [ho] using hne)

/-- Another server loses a connection. -/
theorem serverOnDisconnected (h : w.Promise q c s n b k sid) {floating closing : Option Ref}
    (hw : w.Consistent floating closing) {t : Ref} (ht : t ≠ s) (l : UInt64) :
    (w.serverOnDisconnected t l).Promise q c s n b k sid := by
  cases hentry : w.connection t l with
  | none =>
      unfold World.serverOnDisconnected
      rw [hentry]
      exact h
  | some m =>
      obtain ⟨a, e, hm, he, -, ho⟩ := hw.owned.entry_end hentry
      have ha := connectionChannel_eq_some.mpr ⟨t, hm⟩
      have hmn : m ≠ n := by
        rintro rfl
        have heq := h.connection
        rw [hm] at heq
        cases heq
        exact ht rfl
      have hne := h.ne_of_connection hw.owned hm hmn
      have hshape := shape_serverOnDisconnected hentry ha
      apply h.congr
      · rw [hshape]
        rfl
      · rw [hshape]
        exact Function.update_of_ne hne.1.symm _ _
      · rw [serverOnDisconnected_eq hentry ha]
      · rw [serverOnDisconnected_eq hentry ha]
      · rw [connection_serverOnDisconnected]
        exact if_neg fun heq => ht heq.1.symm
      · rw [hshape]
        exact Function.update_of_ne hmn.symm _ _
      · rw [serverOnDisconnected_eq hentry ha]
        exact h.joined.destroy hw.wired hne

theorem closeAll (h : w.Promise q c s n b k sid) (hw : w.Settled) {t : Ref} (ht : t ≠ s)
    (hmoment : ∀ m ∈ w.running.map (·.2), ∀ n, m ≠ .closingConnection n t)
    (entries : List (Sigma fun _ : UInt64 => Ref)) :
    (w.closeAll t entries).Promise q c s n b k sid := by
  induction entries generalizing w with
  | nil => exact h
  | cons e entries ih =>
      have hnext := settled_serverOnDisconnected hw t e.1 hmoment
      obtain ⟨_, _, -, hconsistent⟩ := hw
      apply ih (h.serverOnDisconnected hconsistent ht e.1) hnext
      rw [running_serverOnDisconnected]
      exact hmoment

theorem ne_serverId (h : w.Promise q c s n b k sid) (hw : w.Settled) {t : Ref} (ht : t ≠ s)
    {server : ConnectionServerMock η} (hs : w.servers.get t = some server) : sid ≠ server.serverId := by
  rintro rfl
  obtain ⟨hzero, hid⟩ := (hw.serversMap _ s).mp h.server
  exact ht (hw.serversMap.unique hzero ((Heap.view_eq_some _ _).mpr ⟨server, hs, rfl⟩) hid)

theorem bind (h : w.Promise q c s n b k sid) {d : Ref} (clientId : UInt64)
    (hd : (w.bind d clientId).1 = true → d ≠ c) : (w.bind d clientId).2.Promise q c s n b k sid := by
  rcases bind_cases w d clientId with hbind | ⟨l, -, -, -, hbind, hshape⟩
  · rw [hbind]
    exact h
  · rw [hbind] at hshape hd ⊢
    exact h.congr (by rw [hshape]; exact setClient_other (hd rfl) _) (by rw [hshape]; rfl) rfl rfl rfl
      (by rw [hshape]; rfl) h.joined

theorem connectToHost (h : w.Promise q c s n b k sid) (d : Ref) (serverId : UInt64) :
    (w.connectToHost d serverId).2.Promise q c s n b k sid := by
  unfold World.connectToHost
  split
  · exact h
  · split
    · exact h
    · refine ⟨h.client, h.channel, ?_, h.server, h.entry, h.connection, ?_⟩
      · exact List.mem_append_left _ h.asked
      · exact h.joined.congr fun _ _ => rfl

theorem destroyClient (h : w.Promise q c s n b k sid) {floating closing : Option Ref}
    (hw : w.Consistent floating closing) {d : Ref} (hd : d ≠ c) :
    (w.destroyClient d).Promise q c s n b k sid := by
  rcases destroyClient_cases w d with hworld | ⟨l, -, hworld, hshape⟩ | ⟨l, a, ha, hworld, hshape⟩
  · rw [hworld]
    exact h
  · rw [hworld] at hshape ⊢
    exact h.congr (by rw [hshape]; exact setClient_other hd _) (by rw [hshape]; rfl) rfl rfl rfl
      (by rw [hshape]; rfl) h.joined
  · have hne := h.ne_of_client hw.owned ha
    rw [hworld] at hshape ⊢
    apply h.congr
    · rw [hshape]
      exact setClient_other hd _
    · rw [hshape]
      exact Function.update_of_ne hne.1.symm _ _
    · rfl
    · rfl
    · rfl
    · rw [hshape]
      rfl
    · exact h.joined.destroy hw.wired hne

theorem listen (h : w.Promise q c s n b k sid) (t : Ref) (serverId : UInt64) :
    (w.listen t serverId).2.Promise q c s n b k sid := by
  rcases listen_cases w t serverId with hlisten | ⟨server, -, -, -, hfree, hlisten⟩
  · rw [hlisten]
    exact h
  · have hsid : sid ≠ serverId := by
      rintro rfl
      rw [h.server] at hfree
      cases hfree
    rw [hlisten]
    exact h.of_shape (shape_serverId w t serverId _) rfl (Function.update_of_ne hsid _ _) h.joined

/-- Another server disconnects its own connections only. -/
theorem serverDisconnect (I : Iteration) (h : w.Promise q c s n b k sid) (hw : w.Settled) {t : Ref}
    (ht : t ≠ s) : (w.serverDisconnect I t).Promise q c s n b k sid := by
  obtain ⟨floating, closing, -, hconsistent⟩ := id hw
  have howned := hconsistent.owned
  unfold World.serverDisconnect
  split
  next => exact h
  next server hs =>
    have hquiet := quiet_disconnectAll (fun a => ∃ m, w.shape.connection m = some (t, some a)) w
      (I.entries server.connections) (by
        intro e he a ha
        have hentry := connection_of_mem I hs he
        obtain ⟨a', -, hm, -⟩ := howned.entry_end hentry
        rw [connectionChannel_eq_some.mpr ⟨t, hm⟩] at ha
        cases ha
        exact ⟨e.2, hm⟩)
    have hcut : ∀ a, (∃ m, w.shape.connection m = some (t, some a)) → a ≠ q ∧ a ≠ b := by
      rintro a ⟨m, hm⟩
      apply h.ne_of_connection howned hm
      rintro rfl
      have heq := h.connection
      rw [hm] at heq
      cases heq
      exact ht rfl
    have hafter := h.quiet hquiet hconsistent.wired (fun hq => (hcut q hq).1 rfl)
      fun hb => (hcut b hb).2 rfl
    exact hafter.of_shape (shape_serverId _ t 0 _) rfl
      (Function.update_of_ne (h.ne_serverId hw ht hs) _ _) hafter.joined

theorem destroyServer (I : Iteration) (h : w.Promise q c s n b k sid) (hw : w.Settled) {t : Ref}
    (ht : t ≠ s) (hmoment : ∀ m ∈ w.running.map (·.2), ∀ n, m ≠ .closingConnection n t) :
    (w.destroyServer I t).Promise q c s n b k sid := by
  cases hs : w.servers.get t with
  | none =>
      unfold World.destroyServer
      rw [hs]
      exact h
  | some server =>
      rw [destroyServer_eq I hs]
      have hafter := h.closeAll hw ht hmoment (I.entries server.connections)
      exact hafter.of_shape (shape_freeServer (connection_closeAll_self I hs) _) rfl
        (Function.update_of_ne (h.ne_serverId hw ht hs) _ _) hafter.joined

/-- What the handler of the new connection may do. -/
theorem perform (I : Iteration) (h : w.Promise q c s n b k sid) (hw : w.Settled) {handler : η}
    (hrunning : w.running = some (.newConnection handler n, .connecting q c s)) {call : Call η}
    (hallows : w.allows call = true) (htimely : w.timely (.call call) = true) :
    (w.perform I call).Promise q c s n b k sid := by
  obtain ⟨floating, closing, -, hconsistent⟩ := id hw
  have howned := hconsistent.owned
  have hwired := hconsistent.wired
  have hmoment := (Option.all_eq_true _ _).mp hallows _ hrunning
  cases call with
  | bind d clientId =>
      apply h.bind
      rintro hbind rfl
      simp [timely, orderly, keepsIdentifier, hrunning, hbind] at htimely
  | connectToHost d serverId => exact h.connectToHost d serverId
  | destroyClient d =>
      apply h.destroyClient hconsistent
      rintro rfl
      exact Moment.client_ne_of_allows (η := η) hmoment rfl
  | listen t serverId => exact h.listen t serverId
  | serverDisconnect t =>
      apply h.serverDisconnect I hw
      simpa [hrunning] using (Bool.and_eq_true_iff.mp htimely).2
  | destroyServer t =>
      refine h.destroyServer I hw ?_ (not_closing_of_allows hallows)
      simpa [hrunning] using (Bool.and_eq_true_iff.mp htimely).2
  | clientDisconnect d =>
      apply h.quiet (quiet_perform I w rfl) hwired
      all_goals
        intro hcut
        obtain ⟨l, hl⟩ := clientChannel_eq_some.mp hcut
        have hne := h.ne_of_client howned hl
        first | exact hne.1 rfl | exact hne.2 rfl
  | connectionDisconnect m =>
      have hm : m ≠ n := by simpa [hrunning] using (Bool.and_eq_true_iff.mp htimely).2
      apply h.quiet (quiet_perform I w rfl) hwired
      all_goals
        intro hcut
        obtain ⟨t, ht⟩ := connectionChannel_eq_some.mp hcut
        have hne := h.ne_of_connection howned ht hm
        first | exact hne.1 rfl | exact hne.2 rfl
  | _ => exact h.quiet (quiet_perform I w rfl) hwired id id

end Promise

end World
end DeviceMonitoring
