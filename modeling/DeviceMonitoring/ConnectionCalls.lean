import DeviceMonitoring.QuietCalls

/-! What the calls of a user do to the wiring of the channels and to their ownership. -/
namespace DeviceMonitoring
variable {η : Type}
namespace World

/-- What `bind` does when it succeeds. -/
theorem bind_cases (w : World η) (c : Ref) (clientId : UInt64) :
    w.bind c clientId = (false, w) ∨
      ∃ k, w.shape.client c = some (k, none) ∧ clientId ≠ 0 ∧ w.clientsMap clientId = none ∧
        w.bind c clientId = (true, { w with
          clients := w.clients.modify c fun client => { client with clientId }
          clientsMap := Function.update (Function.update w.clientsMap k none) clientId (some c) }) ∧
        (w.bind c clientId).2.shape = w.shape.setClient c (some (clientId, none)) := by
  cases hc : w.clients.get c with
  | none =>
      left
      simp only [bind, hc]
  | some client =>
      by_cases hguard : ((w.clientsMap clientId).isSome || client.channel.isSome || clientId == 0) = true
      · left
        simp only [bind, hc]
        exact if_pos hguard
      · right
        have hbind : w.bind c clientId = (true, { w with
            clients := w.clients.modify c fun client => { client with clientId }
            clientsMap := Function.update (Function.update w.clientsMap client.clientId none)
              clientId (some c) }) := by
          simp only [bind, hc]
          exact if_neg hguard
        simp only [Bool.or_eq_true, beq_iff_eq, not_or, Bool.not_eq_true, Option.isSome_eq_false_iff,
          Option.isNone_iff_eq_none] at hguard
        obtain ⟨⟨hfree, hnone⟩, hid⟩ := hguard
        refine ⟨client.clientId, ?_, hid, hfree, hbind, ?_⟩
        · refine (Heap.view_eq_some _ _).mpr ⟨client, hc, ?_⟩
          rw [ClientConnectionMock.toEnd, hnone]
        · rw [hbind]
          unfold shape Shape.setClient
          simp only [Heap.view_modify, hc, Option.map_some, ClientConnectionMock.toEnd, hnone]
          rfl

theorem settled_bind {w : World η} (h : w.Settled) (c : Ref) (clientId : UInt64)
    (hconnecting : (∃ q s, w.running.map (·.2) = some (.connecting q c s)) →
      (w.bind c clientId).1 = false) : (w.bind c clientId).2.Settled := by
  rcases bind_cases w c clientId with hbind | ⟨k, hcend, hid, hfree, hbind, hshape⟩
  · rw [hbind]
    exact h
  · obtain ⟨floating, closing, hsituation, hw⟩ := h
    have hold : ∀ k a, w.shape.client c ≠ some (k, some a) := by simp [hcend]
    have hrename := hw.clientsMap.rename (Shape.clientIds_eq_some hcend) hid hfree
    rw [hbind] at hconnecting hshape ⊢
    refine ⟨floating, closing, ?_, hw.wired, ?_, ?_, hw.serversMap⟩
    · rw [hshape]
      apply hsituation.setClient
      intro m hm hmc
      rw [Option.mem_def] at hm
      unfold Moment.client at hmc
      split at hmc
      next d =>
        cases hmc
        rw [hm] at hsituation
        obtain ⟨-, k, a, -, hca⟩ := hsituation
        exact hold k a hca
      next q d s =>
        cases hmc
        cases hconnecting ⟨q, s, hm⟩
      · cases hmc
    · rw [hshape]
      exact hw.owned.setClient hold (by simp)
    · rw [hshape, Shape.clientIds_setClient]
      exact hrename

/-- The client goes, and its channel with it. -/
theorem destroyClient_cases (w : World η) (c : Ref) :
    w.destroyClient c = w ∨
      (∃ k, w.shape.client c = some (k, none) ∧
        w.destroyClient c = { w with
          clientsMap := Function.update w.clientsMap k none
          clients := w.clients.free c } ∧
        (w.destroyClient c).shape = w.shape.setClient c none) ∨
      ∃ k a, w.shape.client c = some (k, some a) ∧
        w.destroyClient c = { w with
          clientsMap := Function.update w.clientsMap k none
          net := w.net.destroy a
          clients := w.clients.free c } ∧
        (w.destroyClient c).shape = (w.shape.setChannel a none).setClient c none := by
  cases hc : w.clients.get c with
  | none =>
      left
      simp only [destroyClient, hc]
  | some client =>
      have hcend : w.shape.client c = some (client.clientId, client.channel) :=
        (Heap.view_eq_some _ _).mpr ⟨client, hc, rfl⟩
      right
      cases hch : client.channel with
      | none =>
          rw [hch] at hcend
          have hworld : w.destroyClient c = { w with
              clientsMap := Function.update w.clientsMap client.clientId none
              clients := w.clients.free c } := by
            simp only [destroyClient, hc, hch]
          refine .inl ⟨_, hcend, hworld, ?_⟩
          rw [hworld]
          unfold shape Shape.setClient
          rw [Heap.view_free]
          rfl
      | some a =>
          rw [hch] at hcend
          have hworld : w.destroyClient c = { w with
              clientsMap := Function.update w.clientsMap client.clientId none
              net := w.net.destroy a
              clients := w.clients.free c } := by
            simp only [destroyClient, hc, hch]
          refine .inr ⟨_, a, hcend, hworld, ?_⟩
          rw [hworld]
          unfold shape Shape.setClient Shape.setChannel
          rw [Heap.view_free, Net.view_destroy]
          rfl

theorem settled_destroyClient {w : World η} (h : w.Settled) (c : Ref)
    (hallows : w.allows (.destroyClient c) = true) : (w.destroyClient c).Settled := by
  have hmoment : ∀ m ∈ w.running.map (·.2), m.client ≠ some c := by
    intro m hm
    obtain ⟨running, hrunning, rfl⟩ := Option.map_eq_some_iff.mp hm
    apply Moment.client_ne_of_allows (η := η)
    exact (Option.all_eq_true _ _).mp hallows running hrunning
  have hsettled := h
  obtain ⟨floating, closing, hsituation, hw⟩ := h
  have hmap : ∀ k x, w.shape.client c = some (k, x) → Registered 0 (w.shape.setClient c none).clientIds
      (Function.update w.clientsMap k none) := by
    intro k x hc
    rw [Shape.clientIds_setClient]
    exact hw.clientsMap.unregister (Shape.clientIds_eq_some hc) (.inl rfl)
  rcases destroyClient_cases w c with hworld | ⟨k, hc, hworld, hshape⟩ | ⟨k, a, hc, hworld, hshape⟩
  · rw [hworld]
    exact hsettled
  · rw [hworld] at hshape ⊢
    refine ⟨floating, closing, ?_, hw.wired, ?_, ?_, hw.serversMap⟩
    · rw [hshape]
      exact hsituation.setClient hmoment
    · rw [hshape]
      exact hw.owned.setClient (by simp [hc]) (by simp)
    · rw [hshape]
      exact hmap k _ hc
  · obtain ⟨e, he, ho⟩ := hw.owned.client_owns c _ a hc
    have hfloating := hsituation.floating_ne he (by simp [ho])
    have hclosing := hsituation.closing_ne_of_client hw.owned hc fun hm =>
      hmoment _ (Option.mem_def.mpr hm) rfl
    rw [hworld] at hshape ⊢
    refine ⟨floating, closing, ?_, ?_, ?_, ?_, hw.serversMap⟩
    · rw [hshape]
      exact (hsituation.setChannel hfloating).setClient hmoment
    · apply hw.wired.destroy a
      intro x
      refine (and_iff_left_of_imp ?_).symm
      rintro hx rfl
      exact hclosing hx
    · rw [hshape]
      exact hw.owned.dropClientChannel hc (by simp)
    · rw [hshape]
      exact hmap k _ hc

theorem shape_newClient (w : World η) : ({ w with clients := w.clients.alloc {} } : World η).shape =
    w.shape.setClient w.clients.next (some (0, none)) := by
  unfold shape Shape.setClient
  rw [Heap.view_alloc]
  rfl

theorem settled_newClient {w : World η} (h : w.Settled) :
    ({ w with clients := w.clients.alloc {} } : World η).Settled := by
  obtain ⟨floating, closing, hsituation, hw⟩ := h
  have hnone : w.shape.client w.clients.next = none := w.clients.view_next _
  have hshape := shape_newClient w
  have hold : ∀ k a, w.shape.client w.clients.next ≠ some (k, some a) := by simp [hnone]
  refine ⟨floating, closing, ?_, hw.wired, ?_, ?_, hw.serversMap⟩
  · rw [hshape]
    apply hsituation.setClient
    intro m hm hmc
    rw [Option.mem_def.mp hm] at hsituation
    obtain ⟨k, x, hc⟩ := hsituation.client_live hmc
    rw [hnone] at hc
    cases hc
  · rw [hshape]
    exact hw.owned.setClient hold (by simp)
  · rw [hshape, Shape.clientIds_setClient]
    exact hw.clientsMap.ignore rfl (.inl (by rw [Shape.clientIds, hnone]; rfl)) (.inr rfl)

theorem shape_newServer (w : World η) :
    ({ w with servers := w.servers.alloc {} } : World η).shape = w.shape := by
  have hentry : ({ w with servers := w.servers.alloc {} } : World η).connection = w.connection := by
    funext s k
    unfold connection
    by_cases hs : s = w.servers.next
    · subst hs
      rw [Heap.get_alloc_next, Heap.get_of_next_le _ (Nat.le_refl _)]
      exact AList.lookup_empty k
    · rw [Heap.get_alloc_of_ne _ _ hs]
  unfold shape
  rw [hentry]

theorem settled_newServer {w : World η} (h : w.Settled) :
    ({ w with servers := w.servers.alloc {} } : World η).Settled := by
  obtain ⟨floating, closing, hsituation, hw⟩ := h
  have hshape := shape_newServer w
  refine ⟨floating, closing, ?_, hw.wired, ?_, ?_, ?_⟩
  · rw [hshape]
    exact hsituation
  · rw [hshape]
    exact hw.owned
  · rw [hshape]
    exact hw.clientsMap
  · simp only [Heap.view_alloc]
    exact hw.serversMap.ignore rfl (.inl (w.servers.view_next _)) (.inr rfl)

theorem shape_serverId (w : World η) (s : Ref) (serverId : UInt64)
    (serversMap : UInt64 → Option Ref) : ({ w with
      servers := w.servers.modify s fun server => { server with serverId }
      serversMap } : World η).shape = w.shape := by
  have hentry : ({ w with
      servers := w.servers.modify s fun server => { server with serverId }
      serversMap } : World η).connection = w.connection :=
    connection_congr (Heap.view_modify_of_keep _ _ _ fun _ => rfl)
  unfold shape
  rw [hentry]

/-- A server takes or leaves an identifier. -/
theorem settled_serverId {w : World η} (h : w.Settled) (s : Ref) (serverId : UInt64)
    {serversMap : UInt64 → Option Ref}
    (hmap : Registered 0 ((w.servers.modify s fun server => { server with serverId }).view
      (·.serverId)) serversMap) :
    ({ w with
      servers := w.servers.modify s fun server => { server with serverId }
      serversMap } : World η).Settled := by
  obtain ⟨floating, closing, hsituation, hw⟩ := h
  have hshape := shape_serverId w s serverId serversMap
  refine ⟨floating, closing, ?_, hw.wired, ?_, ?_, hmap⟩
  · rw [hshape]
    exact hsituation
  · rw [hshape]
    exact hw.owned
  · rw [hshape]
    exact hw.clientsMap

theorem Settled.serversMap {w : World η} (h : w.Settled) :
    Registered 0 (w.servers.view (·.serverId)) w.serversMap := by
  obtain ⟨_, _, -, hw⟩ := h
  exact hw.serversMap

theorem serverIds_modify {w : World η} {s : Ref} {server : ConnectionServerMock η}
    (hs : w.servers.get s = some server) (serverId : UInt64) :
    (w.servers.modify s fun server => { server with serverId }).view (·.serverId) =
      Function.update (w.servers.view (·.serverId)) s (some serverId) := by
  rw [Heap.view_modify, hs]
  rfl

theorem listen_cases (w : World η) (s : Ref) (serverId : UInt64) :
    w.listen s serverId = (false, w) ∨
      ∃ server, w.servers.get s = some server ∧ server.serverId = 0 ∧ serverId ≠ 0 ∧
        w.serversMap serverId = none ∧
        w.listen s serverId = (true, { w with
          servers := w.servers.modify s fun server => { server with serverId }
          serversMap := Function.update w.serversMap serverId (some s) }) := by
  cases hs : w.servers.get s with
  | none =>
      left
      simp only [listen, hs]
  | some server =>
      by_cases hguard : ((w.serversMap serverId).isSome || server.serverId != 0 || serverId == 0) = true
      · left
        simp only [listen, hs]
        exact if_pos hguard
      · right
        have hlisten : w.listen s serverId = (true, { w with
            servers := w.servers.modify s fun server => { server with serverId }
            serversMap := Function.update w.serversMap serverId (some s) }) := by
          simp only [listen, hs]
          exact if_neg hguard
        simp only [Bool.or_eq_true, bne_iff_ne, beq_iff_eq, not_or, not_not, Bool.not_eq_true,
          Option.isSome_eq_false_iff, Option.isNone_iff_eq_none] at hguard
        obtain ⟨⟨hfree, hzero⟩, hid⟩ := hguard
        exact ⟨server, rfl, hzero, hid, hfree, hlisten⟩

theorem settled_listen {w : World η} (h : w.Settled) (s : Ref) (serverId : UInt64) :
    (w.listen s serverId).2.Settled := by
  rcases listen_cases w s serverId with hlisten | ⟨server, hs, hzero, hid, hfree, hlisten⟩
  · rw [hlisten]
    exact h
  · rw [hlisten]
    apply settled_serverId h
    rw [serverIds_modify hs]
    exact h.serversMap.register
      (.inr ((Heap.view_eq_some _ _).mpr ⟨server, hs, hzero⟩)) hid hfree

theorem settled_serverDisconnect (I : Iteration) {w : World η} (h : w.Settled) (s : Ref) :
    (w.serverDisconnect I s).Settled := by
  unfold serverDisconnect
  split
  next => exact h
  next server hs =>
    have hquiet := quiet_disconnectAll (fun _ => True) w (I.entries server.connections)
      fun _ _ _ _ => trivial
    have hafter := hquiet.settled h
    have hid : w.servers.view (·.serverId) s = some server.serverId :=
      (Heap.view_eq_some _ _).mpr ⟨server, hs, rfl⟩
    rw [← hquiet.serverIds] at hid
    obtain ⟨server', hs', -⟩ := (Heap.view_eq_some _ _).mp hid
    apply settled_serverId hafter
    rw [serverIds_modify hs']
    exact hafter.serversMap.unregister hid (.inr rfl)

theorem serverOnDisconnected_eq {w : World η} {s n b : Ref} {k : UInt64}
    (hentry : w.connection s k = some n) (hb : w.connectionChannel n = some b) :
    w.serverOnDisconnected s k = { w with
      net := w.net.destroy b
      connections := w.connections.free n
      servers := w.servers.modify s fun server =>
        { server with connections := server.connections.erase k } } := by
  simp only [serverOnDisconnected, hentry, destroyConnection, hb]

theorem serverIds_serverOnDisconnected (w : World η) (s : Ref) (k : UInt64) :
    (w.serverOnDisconnected s k).servers.view (·.serverId) = w.servers.view (·.serverId) := by
  unfold serverOnDisconnected
  split
  · rfl
  · exact Heap.view_modify_of_keep _ _ _ fun _ => rfl

theorem running_serverOnDisconnected (w : World η) (s : Ref) (k : UInt64) :
    (w.serverOnDisconnected s k).running = w.running := by
  unfold serverOnDisconnected
  split <;> rfl

theorem connection_serverOnDisconnected (w : World η) (s : Ref) (k : UInt64) (t : Ref) (l : UInt64) :
    (w.serverOnDisconnected s k).connection t l =
      if t = s ∧ l = k then none else w.connection t l := by
  cases hentry : w.connection s k with
  | none =>
      unfold serverOnDisconnected
      rw [hentry]
      by_cases htl : t = s ∧ l = k
      · obtain ⟨rfl, rfl⟩ := htl
        simpa using hentry
      · simp [htl]
  | some n =>
      have hservers : (w.serverOnDisconnected s k).servers = w.servers.modify s fun server =>
          { server with connections := server.connections.erase k } := by
        unfold serverOnDisconnected
        rw [hentry]
        rfl
      rw [connection_erase w _ s k hservers]

theorem shape_serverOnDisconnected {w : World η} {s n b : Ref} {k : UInt64}
    (hentry : w.connection s k = some n) (hb : w.connectionChannel n = some b) :
    (w.serverOnDisconnected s k).shape = w.shape.dropConnection s k n b := by
  rw [serverOnDisconnected_eq hentry hb]
  unfold shape Shape.dropConnection
  rw [Heap.view_free, Net.view_destroy, connection_erase w _ s k rfl]

/-- A server removes a connection; `closing` may be its channel. -/
theorem consistent_serverOnDisconnected {w : World η} {floating closing closing' : Option Ref}
    (hw : w.Consistent floating closing) {s n b : Ref} {k : UInt64}
    (hentry : w.connection s k = some n) (hn : w.shape.connection n = some (s, some b))
    (hclosing : ∀ x, closing' = some x ↔ closing = some x ∧ x ≠ b) :
    (w.serverOnDisconnected s k).Consistent floating closing' := by
  have hb := connectionChannel_eq_some.mpr ⟨s, hn⟩
  have hshape := shape_serverOnDisconnected hentry hb
  have hworld := serverOnDisconnected_eq hentry hb
  constructor
  · rw [hworld]
    exact hw.wired.destroy b hclosing
  · rw [hshape]
    exact hw.owned.dropConnection hentry hn
  · rw [hshape, hworld]
    exact hw.clientsMap
  · rw [serverIds_serverOnDisconnected, hworld]
    exact hw.serversMap

theorem settled_serverOnDisconnected {w : World η} (h : w.Settled) (s : Ref) (k : UInt64)
    (hmoment : ∀ m ∈ w.running.map (·.2), ∀ n, m ≠ .closingConnection n s) :
    (w.serverOnDisconnected s k).Settled := by
  cases hentry : w.connection s k with
  | none =>
      unfold serverOnDisconnected
      rw [hentry]
      exact h
  | some n =>
      obtain ⟨floating, closing, hsituation, hw⟩ := h
      obtain ⟨b, e, hn, he, -, ho⟩ := hw.owned.entry_end hentry
      have hb := connectionChannel_eq_some.mpr ⟨s, hn⟩
      have hclosing := hsituation.closing_ne_of_connection hw.owned hn fun hm =>
        hmoment _ (Option.mem_def.mpr hm) n rfl
      refine ⟨floating, closing, ?_, consistent_serverOnDisconnected hw hentry hn ?_⟩
      · rw [shape_serverOnDisconnected hentry hb, serverOnDisconnected_eq hentry hb]
        apply hsituation.dropConnection (hsituation.floating_ne he (by simp [ho]))
        intro t hm
        -- a connection belongs to one server
        rw [show w.running.map (·.2) = some (.closingConnection n t) from hm] at hsituation
        obtain ⟨-, a, -, hn'⟩ := hsituation
        rw [hn] at hn'
        cases hn'
        exact hmoment _ (Option.mem_def.mpr hm) n rfl
      · intro x
        refine (and_iff_left_of_imp ?_).symm
        rintro hx rfl
        exact hclosing hx

/-! `~ConnectionServerMock` does to its connections what their ends would do one by one. -/

def closeAll (w : World η) (s : Ref) (entries : List (Sigma fun _ : UInt64 => Ref)) : World η :=
  entries.foldl (fun w e => w.serverOnDisconnected s e.1) w

theorem running_closeAll (w : World η) (s : Ref) (entries : List (Sigma fun _ : UInt64 => Ref)) :
    (w.closeAll s entries).running = w.running := by
  induction entries generalizing w with
  | nil => rfl
  | cons e entries ih => exact (ih _).trans (running_serverOnDisconnected w s e.1)

theorem serverIds_closeAll (w : World η) (s : Ref) (entries : List (Sigma fun _ : UInt64 => Ref)) :
    (w.closeAll s entries).servers.view (·.serverId) = w.servers.view (·.serverId) := by
  induction entries generalizing w with
  | nil => rfl
  | cons e entries ih => exact (ih _).trans (serverIds_serverOnDisconnected w s e.1)

theorem settled_closeAll {w : World η} (h : w.Settled) (s : Ref)
    (entries : List (Sigma fun _ : UInt64 => Ref))
    (hmoment : ∀ m ∈ w.running.map (·.2), ∀ n, m ≠ .closingConnection n s) :
    (w.closeAll s entries).Settled := by
  induction entries generalizing w with
  | nil => exact h
  | cons e entries ih =>
      apply ih (settled_serverOnDisconnected h s e.1 hmoment)
      rw [running_serverOnDisconnected]
      exact hmoment

theorem connection_closeAll (w : World η) (s : Ref) (entries : List (Sigma fun _ : UInt64 => Ref))
    {k : UInt64} (hk : k ∈ entries.map Sigma.fst ∨ w.connection s k = none) :
    (w.closeAll s entries).connection s k = none := by
  induction entries generalizing w with
  | nil => exact hk.resolve_left List.not_mem_nil
  | cons e entries ih =>
      apply ih
      rw [connection_serverOnDisconnected]
      by_cases hke : k = e.1
      · exact .inr (if_pos ⟨rfl, hke⟩)
      · rw [List.map_cons, List.mem_cons] at hk
        refine (hk.imp_left fun hk => hk.resolve_left hke).imp_right fun hnone => ?_
        exact (if_neg fun h => hke h.2).trans hnone

theorem foldl_destroyConnection (w : World η) (servers : Heap (ConnectionServerMock η))
    (entries : List (Sigma fun _ : UInt64 => Ref)) :
    entries.foldl (fun w e => w.destroyConnection e.2) { w with servers } =
      { entries.foldl (fun w e => w.destroyConnection e.2) w with servers } := by
  induction entries generalizing w with
  | nil => rfl
  | cons e entries ih => exact ih (w.destroyConnection e.2)

/-- The loop of the destructor, which leaves the map as it is. -/
theorem closeAll_eq (w : World η) (s : Ref) (entries : List (Sigma fun _ : UInt64 => Ref))
    (hentries : ∀ e ∈ entries, w.connection s e.1 = some e.2) (hnodup : (entries.map Sigma.fst).Nodup) :
    ∃ servers, w.closeAll s entries =
      { entries.foldl (fun w e => w.destroyConnection e.2) w with servers } ∧
        servers.free s = w.servers.free s := by
  induction entries generalizing w with
  | nil => exact ⟨w.servers, rfl, rfl⟩
  | cons e entries ih =>
      rw [List.map_cons, List.nodup_cons] at hnodup
      have he := hentries e List.mem_cons_self
      have hrest : ∀ e' ∈ entries, (w.serverOnDisconnected s e.1).connection s e'.1 = some e'.2 := by
        intro e' he'
        rw [connection_serverOnDisconnected, if_neg, hentries e' (List.mem_cons_of_mem _ he')]
        rintro ⟨-, hkey⟩
        exact hnodup.1 (hkey ▸ List.mem_map_of_mem he')
      obtain ⟨servers, hclose, hfree⟩ := ih _ hrest hnodup.2
      have hstep : w.serverOnDisconnected s e.1 = { w.destroyConnection e.2 with
          servers := w.servers.modify s fun server =>
            { server with connections := server.connections.erase e.1 } } := by
        unfold serverOnDisconnected
        rw [he]
        rfl
      refine ⟨servers, hclose.trans ?_, hfree.trans ?_⟩
      · rw [hstep, foldl_destroyConnection]
        rfl
      · rw [hstep]
        exact Heap.free_modify ..

theorem connection_of_mem (I : Iteration) {w : World η} {s : Ref} {server : ConnectionServerMock η}
    (hs : w.servers.get s = some server) {e : Sigma fun _ : UInt64 => Ref}
    (he : e ∈ I.entries server.connections) : w.connection s e.1 = some e.2 := by
  unfold connection
  rw [hs, Option.bind_some]
  exact AList.mem_lookup_iff.mpr ((I.perm server.connections).mem_iff.mp he)

theorem destroyServer_eq (I : Iteration) {w : World η} {s : Ref} {server : ConnectionServerMock η}
    (hs : w.servers.get s = some server) :
    w.destroyServer I s = { w.closeAll s (I.entries server.connections) with
      serversMap := Function.update (w.closeAll s (I.entries server.connections)).serversMap
        server.serverId none
      servers := (w.closeAll s (I.entries server.connections)).servers.free s } := by
  have hperm := I.perm server.connections
  have hentries : ∀ e ∈ I.entries server.connections, w.connection s e.1 = some e.2 :=
    fun e he => connection_of_mem I hs he
  have hnodup : ((I.entries server.connections).map Sigma.fst).Nodup :=
    (hperm.map Sigma.fst).nodup_iff.mpr server.connections.nodupKeys
  obtain ⟨servers, hclose, hfree⟩ := closeAll_eq w s _ hentries hnodup
  have hservers : ((I.entries server.connections).foldl (fun w e => w.destroyConnection e.2) w).servers =
      w.servers := by
    have hfold := congrArg World.servers
      (foldl_destroyConnection w w.servers (I.entries server.connections))
    exact hfold
  rw [hclose, hfree]
  simp only [destroyServer, hs, hservers]

/-- A server without connections is freed. -/
theorem shape_freeServer {w : World η} {s : Ref} (hempty : ∀ k, w.connection s k = none)
    (serversMap : UInt64 → Option Ref) :
    ({ w with serversMap, servers := w.servers.free s } : World η).shape = w.shape := by
  have hconnection : ({ w with serversMap, servers := w.servers.free s } : World η).connection =
      w.connection := by
    funext t k
    unfold connection at hempty ⊢
    by_cases ht : t = s
    · subst ht
      rw [Heap.get_free_self]
      exact (hempty k).symm
    · rw [Heap.get_free_of_ne _ ht]
  unfold shape
  rw [hconnection]

/-- What is left of the connections of a server whose destructor has been through them. -/
theorem connection_closeAll_self (I : Iteration) {w : World η} {s : Ref}
    {server : ConnectionServerMock η} (hs : w.servers.get s = some server) (k : UInt64) :
    (w.closeAll s (I.entries server.connections)).connection s k = none := by
  apply connection_closeAll
  rw [((I.perm server.connections).map Sigma.fst).mem_iff, or_iff_not_imp_left]
  intro hk
  unfold connection
  rw [hs, Option.bind_some, AList.lookup_eq_none]
  exact hk

theorem not_closing_of_allows {w : World η} {s : Ref}
    (hallows : w.allows (.destroyServer s) = true) :
    ∀ m ∈ w.running.map (·.2), ∀ n, m ≠ .closingConnection n s := by
  rintro m hm n rfl
  obtain ⟨running, hrunning, hmoment⟩ := Option.map_eq_some_iff.mp hm
  have hall := (Option.all_eq_true _ _).mp hallows running hrunning
  rw [hmoment] at hall
  exact of_decide_eq_true hall rfl

theorem settled_destroyServer (I : Iteration) {w : World η} (h : w.Settled) (s : Ref)
    (hallows : w.allows (.destroyServer s) = true) : (w.destroyServer I s).Settled := by
  cases hs : w.servers.get s with
  | none =>
      unfold destroyServer
      rw [hs]
      exact h
  | some server =>
      rw [destroyServer_eq I hs]
      have hclosed := settled_closeAll h s (I.entries server.connections) (not_closing_of_allows hallows)
      have hids := serverIds_closeAll w s (I.entries server.connections)
      have hempty := connection_closeAll_self I hs
      generalize w.closeAll s (I.entries server.connections) = w' at hclosed hids hempty ⊢
      have hshape := shape_freeServer hempty (Function.update w'.serversMap server.serverId none)
      obtain ⟨floating, closing, hsituation, hw⟩ := hclosed
      refine ⟨floating, closing, ?_, hw.wired, ?_, ?_, ?_⟩
      · rw [hshape]
        exact hsituation
      · rw [hshape]
        exact hw.owned
      · rw [hshape]
        exact hw.clientsMap
      · simp only [Heap.view_free]
        refine hw.serversMap.unregister ?_ (.inl rfl)
        rw [hids]
        exact (Heap.view_eq_some _ _).mpr ⟨server, hs, rfl⟩

/-- Every call keeps the invariant, but the binding of a client under way. -/
theorem settled_perform (I : Iteration) {w : World η} (h : w.Settled) {call : Call η}
    (hallows : w.allows call = true)
    (hbind : ∀ c clientId, call = .bind c clientId →
      (∃ q s, w.running.map (·.2) = some (.connecting q c s)) → (w.bind c clientId).1 = false) :
    (w.perform I call).Settled := by
  cases call with
  | bind c clientId => exact settled_bind h c clientId (hbind c clientId rfl)
  | connectToHost c serverId => exact settled_connectToHost h c serverId
  | destroyClient c => exact settled_destroyClient h c hallows
  | listen s serverId => exact settled_listen h s serverId
  | serverDisconnect s => exact settled_serverDisconnect I h s
  | destroyServer s => exact settled_destroyServer I h s hallows
  | _ => exact (quiet_perform I w rfl).settled h

/-- A call neither starts a handler nor ends one. -/
theorem running_perform (I : Iteration) (w : World η) (call : Call η) :
    (w.perform I call).running = w.running := by
  cases call with
  | bind c clientId =>
      simp only [perform]
      rcases bind_cases w c clientId with hbind | ⟨k, -, -, -, hbind, -⟩ <;> rw [hbind]
  | connectToHost c serverId =>
      simp only [perform, connectToHost]
      split
      · rfl
      · split <;> rfl
  | destroyClient c =>
      simp only [perform]
      rcases destroyClient_cases w c with hworld | ⟨k, -, hworld, -⟩ | ⟨k, a, -, hworld, -⟩ <;>
        rw [hworld]
  | listen s serverId =>
      simp only [perform]
      rcases listen_cases w s serverId with hlisten | ⟨server, -, -, -, -, hlisten⟩ <;> rw [hlisten]
  | serverDisconnect s =>
      simp only [perform, serverDisconnect]
      split
      · rfl
      next server _ =>
        exact (quiet_disconnectAll (fun _ => True) w (I.entries server.connections)
          fun _ _ _ _ => trivial).running
  | destroyServer s =>
      simp only [perform]
      cases hs : w.servers.get s with
      | none =>
          unfold destroyServer
          rw [hs]
      | some server =>
          rw [destroyServer_eq I hs]
          exact running_closeAll w s (I.entries server.connections)
  | _ => exact (quiet_perform I w rfl).running

end World
end DeviceMonitoring
