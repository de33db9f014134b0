import DeviceMonitoring.CurrentHandlers
import DeviceMonitoring.Later

/-! A server that has been disconnected. Its connections are off at once and go with the tasks
that are left, and none is added until it listens again. -/
namespace DeviceMonitoring
variable {η : Type}
namespace World

/-- Nobody finds the server, and no connection that it still holds is active. -/
structure Closed (w : World η) (s : Ref) : Prop where
  unregistered : ∀ serverId, w.serversMap serverId ≠ some s
  off : ∀ k n b, w.connection s k = some n → w.connectionChannel n = some b →
    w.net.connected b = false

/-- The server gets no connection, and is registered only where it was. -/
structure Dwindles (s : Ref) (w w' : World η) : Prop where
  later : Later w w'
  entries : ∀ k n, w'.connection s k = some n → w.connection s k = some n
  registered : ∀ serverId, w'.serversMap serverId = some s → w.serversMap serverId = some s

theorem Closed.dwindles {w w' : World η} {s : Ref} (h : w.Closed s) (hw : w.Settled)
    (hdwindles : Dwindles s w w') : w'.Closed s := by
  constructor
  · intro serverId hserver
    exact h.unregistered serverId (hdwindles.registered serverId hserver)
  · intro k n b hn' hb'
    obtain ⟨_, _, -, hconsistent⟩ := hw
    have hn := hdwindles.entries k n hn'
    obtain ⟨a, e, hend, hchannel, -⟩ := hconsistent.owned.entry_end hn
    obtain ⟨conn, hconn, -⟩ := (Heap.view_eq_some _ _).mp hend
    have hb := hdwindles.later.channel n b (Heap.lt_next hconn) hb'
    rw [connectionChannel_eq_some.mpr ⟨s, hend⟩] at hb
    cases hb
    obtain ⟨channel, hget, -⟩ := (Heap.view_eq_some _ _).mp hchannel
    exact hdwindles.later.net.off b (Heap.lt_next hget)
      (h.off k n b hn (connectionChannel_eq_some.mpr ⟨s, hend⟩))

theorem servers_disconnectAll (w : World η) (entries : List (Sigma fun _ : UInt64 => Ref)) :
    (entries.foldl (fun w e => w.connectionDisconnect e.2) w).servers = w.servers ∧
      (entries.foldl (fun w e => w.connectionDisconnect e.2) w).serversMap = w.serversMap := by
  induction entries generalizing w with
  | nil => exact ⟨rfl, rfl⟩
  | cons e entries ih =>
      have hstep : (w.connectionDisconnect e.2).servers = w.servers ∧
          (w.connectionDisconnect e.2).serversMap = w.serversMap := by
        unfold connectionDisconnect
        split <;> exact ⟨rfl, rfl⟩
      obtain ⟨hservers, hmap⟩ := ih (w.connectionDisconnect e.2)
      exact ⟨hservers.trans hstep.1, hmap.trans hstep.2⟩

namespace Dwindles
variable {s : Ref} {w w' w'' : World η}

theorem trans (h : Dwindles s w w') (h' : Dwindles s w' w'') : Dwindles s w w'' where
  later := h.later.trans h'.later
  entries k n hn := h.entries k n (h'.entries k n hn)
  registered serverId hs := h.registered serverId (h'.registered serverId hs)

/-- Whatever leaves the entries of the servers alone. -/
theorem of_connection (hlater : Later w w') (hconnection : w'.connection = w.connection)
    (hmap : w'.serversMap = w.serversMap) : Dwindles s w w' where
  later := hlater
  entries _ _ hn := hconnection ▸ hn
  registered _ hs := hmap ▸ hs

theorem of_servers (hlater : Later w w') (hservers : w'.servers = w.servers)
    (hmap : w'.serversMap = w.serversMap) : Dwindles s w w' :=
  of_connection hlater (connection_congr (by rw [hservers])) hmap

/-- The server is not put into the map, and nothing into its own. -/
theorem change (w : World η) {change : Change η}
    (hfinds : ∀ serverId, change ≠ .findsServer serverId (some s))
    (hentered : ∀ k n, change ≠ .entered s k n) : Dwindles s w (w.change change) := by
  have hlater := Later.change w change
  cases change with
  | findsServer serverId t =>
      refine ⟨hlater, fun _ _ hn => hn, fun other hs => ?_⟩
      simp only [World.change] at hs
      by_cases hother : other = serverId
      · rw [hother, Function.update_self] at hs
        exact absurd (congrArg (Change.findsServer serverId) hs) (hfinds serverId)
      · rwa [Function.update_of_ne hother] at hs
  | serverId t serverId =>
      exact of_connection hlater (connection_congr (Heap.view_modify_of_keep _ _ _ fun _ => rfl)) rfl
  | newConnectionHandler t handler =>
      exact of_connection hlater (connection_congr (Heap.view_modify_of_keep _ _ _ fun _ => rfl)) rfl
  | entered t k n =>
      have hne : s ≠ t := fun heq => hentered k n (by rw [heq])
      refine ⟨hlater, fun l m hm => ?_, fun _ hs => hs⟩
      simp only [World.change, connection] at hm
      rwa [Heap.get_modify_of_ne _ _ hne] at hm
  | erased t k =>
      refine ⟨hlater, fun l m hm => ?_, fun _ hs => hs⟩
      simp only [connection_erase w (w.change (.erased t k)) t k rfl] at hm
      split at hm
      · cases hm
      · exact hm
  | newServer =>
      refine ⟨hlater, fun k n hn => ?_, fun _ hs => hs⟩
      obtain ⟨server, hserver, hlookup⟩ := Option.bind_eq_some_iff.mp hn
      rcases Heap.get_alloc_eq_some.mp hserver with ⟨-, rfl⟩ | hold
      · cases hlookup
      · exact Option.bind_eq_some_iff.mpr ⟨server, hold, hlookup⟩
  | serverGone t =>
      refine ⟨hlater, fun k n hn => ?_, fun _ hs => hs⟩
      obtain ⟨server, hserver, hlookup⟩ := Option.bind_eq_some_iff.mp hn
      exact Option.bind_eq_some_iff.mpr ⟨server, (Heap.get_free_eq_some.mp hserver).2, hlookup⟩
  | messageHandler owner handler =>
      cases owner with
      | client c =>
          refine of_servers hlater ?_ ?_ <;> simp only [World.change, clientSetMessageHandler] <;>
            split <;> rfl
      | connection n =>
          refine of_servers hlater ?_ ?_ <;> simp only [World.change, connectionSetMessageHandler] <;>
            split <;> rfl
  | disconnectedHandler owner handler => cases owner <;> exact of_servers hlater rfl rfl
  | adopted c q =>
      have hservers : (w.clientSetChannel c q).servers = w.servers ∧
          (w.clientSetChannel c q).serversMap = w.serversMap := by
        unfold clientSetChannel
        split
        · exact ⟨rfl, rfl⟩
        · split <;> exact ⟨rfl, rfl⟩
      exact of_servers hlater hservers.1 hservers.2
  | _ => exact of_servers hlater rfl rfl

/-- Nobody finds the server, or no connections are added. -/
theorem of_changes {may : Change η → Prop} (hchanges : Changes may w w')
    (hfinds : ∀ serverId, ¬may (.findsServer serverId (some s)))
    (hs : (∀ serverId, w.serversMap serverId ≠ some s) ∨ ∀ k n, ¬may (.entered s k n)) :
    Dwindles s w w' := by
  have hlift := hchanges.lift (R := fun w w' =>
      ((∀ serverId, w.serversMap serverId ≠ some s) ∨ ∀ k n, ¬may (.entered s k n)) → Dwindles s w w')
    (fun w _ => of_servers (.refl w) rfl rfl) ?_ ?_
  · exact hlift hs
  · intro w w' w'' h h' hs
    refine (h hs).trans (h' (hs.imp_left fun hunlisted serverId hmap => ?_))
    exact hunlisted serverId ((h hs).registered serverId hmap)
  · intro w change hmay hfits hs
    apply Dwindles.change
    · rintro serverId rfl
      exact hfinds serverId hmay
    · rintro k n rfl
      rcases hs with hunlisted | hnever
      · obtain ⟨serverId, hmap⟩ := hfits
        exact hunlisted serverId hmap
      · exact hnever k n hmay

end Dwindles

/-- The server listens in this step. -/
def listens (s : Ref) : WorldStep η → Bool
  | .call (.listen t _) => t = s
  | _ => false

/-- A step puts a server into the map only when it listens. -/
theorem listens_of_changes {s : Ref} {serverId : UInt64} {step : WorldStep η}
    (h : step.changes (.findsServer serverId (some s))) : listens s step = true := by
  cases step with
  | call call =>
      cases call with
      | listen t _ => exact decide_eq_true (Option.some.inj h).symm
      | serverDisconnect t => cases h
      | destroyServer t => cases h
      | _ => exact h.elim
  | _ => exact h.elim

theorem Closed.step (I : Iteration) {w : World η} {s : Ref} (h : w.Closed s) (hw : w.Settled)
    {step : WorldStep η} (hlisten : listens s step = false) : (w.step I step).Closed s := by
  refine h.dwindles hw (.of_changes (.step I w step) (fun serverId hmay => ?_) (.inl h.unregistered))
  rw [listens_of_changes hmay] at hlisten
  cases hlisten

theorem Closed.run (I : Iteration) {w : World η} {s : Ref} (h : w.Closed s) (hw : w.Settled)
    {steps : List (WorldStep η)} (hsteps : w.along I keepsIdentifier steps = true)
    (hlisten : ∀ step ∈ steps, listens s step = false) : (w.run I steps).Closed s := by
  induction steps generalizing w with
  | nil => exact h
  | cons step steps ih =>
      obtain ⟨hstep, hrest⟩ := Bool.and_eq_true_iff.mp hsteps
      obtain ⟨hfirst, hothers⟩ := List.forall_mem_cons.mp hlisten
      exact ih (h.step I hw hfirst) (settled_step I hw hstep) hrest hothers

theorem off_connectionDisconnect (w : World η) {n b : Ref} (hb : w.connectionChannel n = some b) :
    (w.connectionDisconnect n).net.connected b = false := by
  have hdisconnect : (w.connectionDisconnect n).net = w.net.disconnect b := by
    unfold connectionDisconnect
    rw [hb]
  rw [hdisconnect]
  obtain ⟨-, met, hmet, hoff⟩ := w.net.disconnect_meets b
  cases hon : w.net.connected b with
  | false =>
      rw [Net.disconnect_off hon]
      exact hon
  | true =>
      have hmem : b ∈ met := (hmet.reached b).mpr ⟨hon, .refl⟩
      simp only [Net.connected, hoff.channels, if_pos hmem]
      cases w.net.channels.get b <;> rfl

/-- `disconnect` goes through all the connections. -/
theorem off_disconnectAll {w : World η} (entries : List (Sigma fun _ : UInt64 => Ref))
    {e : Sigma fun _ : UInt64 => Ref} (he : e ∈ entries) {b : Ref} (hlt : b < w.net.channels.next)
    (hb : w.connectionChannel e.2 = some b) :
    (entries.foldl (fun w e => w.connectionDisconnect e.2) w).net.connected b = false := by
  induction entries generalizing w with
  | nil => cases he
  | cons first entries ih =>
      have hlater : Later w (w.connectionDisconnect first.2) :=
        .perform .byEntry w (.connectionDisconnect first.2)
      have hlt' : b < (w.connectionDisconnect first.2).net.channels.next :=
        Nat.lt_of_lt_of_le hlt hlater.net.next
      rcases List.mem_cons.mp he with rfl | he
      · have hrest : Changes (fun _ => True) (w.connectionDisconnect e.2) _ :=
          .disconnectAll (fun _ => trivial) _ entries
        exact (Later.of_changes hrest).net.off b hlt' (off_connectionDisconnect w hb)
      · have hsame : (w.connectionDisconnect first.2).connectionChannel e.2 = some b := by
          have hconnections : (w.connectionDisconnect first.2).connections = w.connections := by
            unfold connectionDisconnect
            split <;> rfl
          rwa [connectionChannel, hconnections]
        exact ih he hlt' hsame

theorem closed_disconnected (I : Iteration) {w : World η} (hw : w.Settled) (s : Ref) :
    (w.serverDisconnect I s).Closed s := by
  have hafter := settled_serverDisconnect I hw s
  cases hs : w.servers.get s with
  | none =>
      have hgone : ∀ k, w.connection s k = none := by
        intro k
        rw [connection, hs, Option.bind_none]
      have hsame : w.serverDisconnect I s = w := by
        unfold serverDisconnect
        rw [hs]
      rw [hsame]
      constructor
      · intro serverId hmap
        obtain ⟨-, hid⟩ := (hw.serversMap serverId s).mp hmap
        rw [Heap.view, hs] at hid
        cases hid
      · intro k n b hn
        rw [hgone] at hn
        cases hn
  | some server =>
      obtain ⟨hservers, -⟩ := servers_disconnectAll w (I.entries server.connections)
      constructor
      · intro serverId hmap
        obtain ⟨hne, hid⟩ := (hafter.serversMap serverId s).mp hmap
        simp only [serverDisconnect, hs, hservers, Heap.view, Heap.get_modify_self, Option.map_some,
          Option.some.injEq] at hid
        exact hne hid.symm
      · intro k n b hn' hb'
        have hdwindles : Dwindles s w (w.serverDisconnect I s) :=
          .of_changes (.perform I w (.serverDisconnect s)) (fun serverId h => by cases h)
            (.inr fun k n h => h)
        have hn := hdwindles.entries k n hn'
        obtain ⟨_, _, -, hconsistent⟩ := hw
        obtain ⟨a, e, hend, hchannel, -⟩ := hconsistent.owned.entry_end hn
        obtain ⟨conn, hconn, -⟩ := (Heap.view_eq_some _ _).mp hend
        obtain ⟨channel, hget, -⟩ := (Heap.view_eq_some _ _).mp hchannel
        have hlater : Later w (w.serverDisconnect I s) := .perform I w (.serverDisconnect s)
        have hb := hlater.channel n b (Heap.lt_next hconn) hb'
        have ha := connectionChannel_eq_some.mpr ⟨s, hend⟩
        rw [ha] at hb
        cases hb
        have hmem : (⟨k, n⟩ : Sigma fun _ : UInt64 => Ref) ∈ I.entries server.connections := by
          rw [(I.perm server.connections).mem_iff, ← AList.mem_lookup_iff]
          unfold connection at hn
          rwa [hs, Option.bind_some] at hn
        have hoff := off_disconnectAll (I.entries server.connections) hmem (Heap.lt_next hget) ha
        simp only [serverDisconnect, hs]
        exact hoff

/-- In an orderly run, after `disconnect` on a server and until it listens again: nobody finds it,
and none of its connections is active. When no handler runs and every task has run, it has no
connection left, and every client that has a channel has it to another server. -/
theorem shutdown_final (I : Iteration) (steps more : List (WorldStep η)) (s : Ref)
    (hsteps : ({} : World η).along I orderly (steps ++ .call (.serverDisconnect s) :: more) = true)
    (hmore : ∀ step ∈ more, listens s step = false) :
    let w := ({} : World η).run I (steps ++ .call (.serverDisconnect s) :: more)
    w.Closed s ∧ (w.running = none → w.net.tasks = [] → (∀ k, w.connection s k = none) ∧
      ∀ c client, w.clients.get c = some client → client.channel.isSome = true →
        ∃ t n a b, t ≠ s ∧ client.channel = some a ∧ w.Holds t client.clientId n a b) := by
  intro w
  have hsettled : w.Settled := settled_orderly I _ hsteps
  have hclosed : w.Closed s := by
    rw [along_append, Bool.and_eq_true_iff] at hsteps
    obtain ⟨hbefore, hrest⟩ := hsteps
    obtain ⟨hdisconnect, hafter⟩ := Bool.and_eq_true_iff.mp hrest
    have hallows := (Bool.and_eq_true_iff.mp hdisconnect).1
    have hstep : (({} : World η).run I steps).step I (.call (.serverDisconnect s)) =
        (({} : World η).run I steps).serverDisconnect I s := if_pos hallows
    have hw : w = ((({} : World η).run I steps).serverDisconnect I s).run I more := by
      rw [← hstep]
      exact run_append I {} steps (.call (.serverDisconnect s) :: more)
    have hstart := settled_orderly I steps hbefore
    rw [hw]
    rw [hstep] at hafter
    exact (closed_disconnected I hstart s).run I (settled_serverDisconnect I hstart s)
      (along_mono I (fun _ _ => keepsIdentifier_of_orderly) hafter) hmore
  refine ⟨hclosed, fun hidle hempty => ?_⟩
  have hagree := agreement_of_settled hsettled hidle hempty
  -- what is left of a connection would be connected
  have hnone : ∀ k, w.connection s k = none := by
    intro k
    cases hn : w.connection s k with
    | none => rfl
    | some n =>
        obtain ⟨c, client, a, b, -, -, -, -, hb, hj⟩ := hagree.connections s k n hn
        have hon := hj.symm.connected
        rw [hclosed.off k n b hn hb] at hon
        cases hon
  refine ⟨hnone, fun c client hc hchannel => ?_⟩
  obtain ⟨t, ⟨n, a, b, ha, hholds⟩, -⟩ := (hagree.clients c client hc).mp hchannel
  refine ⟨t, n, a, b, ?_, ha, hholds⟩
  rintro rfl
  have hn := hholds.1
  rw [hnone client.clientId] at hn
  cases hn

/-- Two clients ask for two servers. The handler of the new connection disconnects the first server,
which a third client asks for. -/
theorem shutdown_final_two_servers :
    let w := ({} : World Unit).run .byEntry ([.newClient, .newClient, .newClient, .newServer,
      .newServer, .call (.bind 0 7), .call (.bind 1 8), .call (.bind 2 9), .call (.listen 0 4),
      .call (.listen 1 5), .call (.setNewConnectionHandler 0 (some ())), .call (.connectToHost 0 4),
      .call (.connectToHost 1 5), .call (.connectToHost 2 4), .start] ++
      .call (.serverDisconnect 0) :: [.resume, .start, .start, .start, .start])
    w.connection 0 7 = none ∧ w.clientChannel 0 = none ∧ w.clientChannel 1 = some 3 ∧
      w.clientChannel 2 = none ∧ w.Closed 0 := by
  intro w
  have h := shutdown_final (η := Unit) .byEntry [.newClient, .newClient, .newClient, .newServer,
    .newServer, .call (.bind 0 7), .call (.bind 1 8), .call (.bind 2 9), .call (.listen 0 4),
    .call (.listen 1 5), .call (.setNewConnectionHandler 0 (some ())), .call (.connectToHost 0 4),
    .call (.connectToHost 1 5), .call (.connectToHost 2 4), .start]
    [.resume, .start, .start, .start, .start] 0 (by decide) (by decide)
  exact ⟨(h.2 rfl rfl).1 7, rfl, rfl, rfl, h.1⟩

end World
end DeviceMonitoring
