import DeviceMonitoring.Letters
import DeviceMonitoring.Later

/-! Where the message handlers of the owners come from: an owner loses its handler when it
goes, and gets one by `setMessageHandler` only. -/
namespace DeviceMonitoring
variable {η : Type}

/-- The owner that a call gives a message handler to. -/
def Call.given : Call η → Option Owner
  | .clientSetMessageHandler c _ => some (.client c)
  | .connectionSetMessageHandler n _ => some (.connection n)
  | _ => none

namespace World

theorem handlerOf_client {w : World η} {c : Ref} {handler : η} :
    w.handlerOf (some (.client c)) = some handler ↔
      ∃ client, w.clients.get c = some client ∧ client.messageHandler = some handler := by
  simp only [handlerOf, Heap.view, Option.join_eq_some_iff, Option.map_eq_some_iff]

theorem handlerOf_connection {w : World η} {n : Ref} {handler : η} :
    w.handlerOf (some (.connection n)) = some handler ↔
      ∃ conn, w.connections.get n = some conn ∧ conn.messageHandler = some handler := by
  simp only [handlerOf, Heap.view, Option.join_eq_some_iff, Option.map_eq_some_iff]

/-- Every owner that has a message handler now had it before. -/
def Inherits (w w' : World η) : Prop :=
  ∀ owner handler, w'.handlerOf owner = some handler → w.handlerOf owner = some handler

namespace Inherits
variable {w w' w'' : World η}

theorem of_heaps
    (hclients : ∀ c client', w'.clients.get c = some client' → client'.messageHandler.isSome = true →
      ∃ client, w.clients.get c = some client ∧ client.messageHandler = client'.messageHandler)
    (hconnections : ∀ n conn', w'.connections.get n = some conn' →
      conn'.messageHandler.isSome = true →
        ∃ conn, w.connections.get n = some conn ∧ conn.messageHandler = conn'.messageHandler) :
    Inherits w w' := by
  intro owner handler hhandler
  cases owner with
  | none => cases hhandler
  | some owner =>
      cases owner with
      | client c =>
          obtain ⟨client', hc', hset⟩ := handlerOf_client.mp hhandler
          obtain ⟨client, hc, hsame⟩ := hclients c client' hc' (by rw [hset, Option.isSome_some])
          exact handlerOf_client.mpr ⟨client, hc, hsame.trans hset⟩
      | connection n =>
          obtain ⟨conn', hn', hset⟩ := handlerOf_connection.mp hhandler
          obtain ⟨conn, hn, hsame⟩ := hconnections n conn' hn' (by rw [hset, Option.isSome_some])
          exact handlerOf_connection.mpr ⟨conn, hn, hsame.trans hset⟩

theorem of_eq (hclients : w'.clients = w.clients) (hconnections : w'.connections = w.connections) :
    Inherits w w' := by
  apply of_heaps
  · intro c client hc _
    exact ⟨client, hclients ▸ hc, rfl⟩
  · intro n conn hn _
    exact ⟨conn, hconnections ▸ hn, rfl⟩

theorem refl (w : World η) : Inherits w w := of_eq rfl rfl

theorem trans (h : Inherits w w') (h' : Inherits w' w'') : Inherits w w'' :=
  fun owner handler hhandler => h owner handler (h' owner handler hhandler)

/-- Whatever leaves the message handler of the client alone. -/
theorem modify_client {c : Ref} {f : ClientConnectionMock η → ClientConnectionMock η}
    (hclients : w'.clients = w.clients.modify c f) (hconnections : w'.connections = w.connections)
    (hf : ∀ client, (f client).messageHandler = client.messageHandler) : Inherits w w' := by
  apply of_heaps
  · intro d client' hd _
    rw [hclients] at hd
    obtain ⟨client, hc, rfl⟩ := Heap.get_modify_eq_some.mp hd
    refine ⟨client, hc, ?_⟩
    split
    · exact (hf client).symm
    · rfl
  · intro n conn hn _
    exact ⟨conn, hconnections ▸ hn, rfl⟩

theorem free_connection {n : Ref} (hclients : w'.clients = w.clients)
    (hconnections : w'.connections = w.connections.free n) : Inherits w w' := by
  apply of_heaps
  · intro c client hc _
    exact ⟨client, hclients ▸ hc, rfl⟩
  · intro m conn hm _
    rw [hconnections] at hm
    exact ⟨conn, (Heap.get_free_eq_some.mp hm).2, rfl⟩

theorem newClient (w : World η) : Inherits w { w with clients := w.clients.alloc {} } := by
  apply of_heaps
  · intro c client hc hset
    rcases Heap.get_alloc_eq_some.mp hc with ⟨-, rfl⟩ | hc
    · cases hset
    · exact ⟨client, hc, rfl⟩
  · exact fun n conn hn _ => ⟨conn, hn, rfl⟩

/-- Only `setMessageHandler` gives an owner a message handler. -/
theorem change (w : World η) (change : Change η)
    (hgiven : ∀ owner handler, change ≠ .messageHandler owner handler) : Inherits w (w.change change) := by
  cases change with
  | messageHandler owner handler => exact absurd rfl (hgiven owner handler)
  | clientId c _ => exact modify_client (c := c) rfl rfl fun _ => rfl
  | connectedHandler c _ => exact modify_client (c := c) rfl rfl fun _ => rfl
  | adopted c ch =>
      simp only [World.change, clientSetChannel]
      split
      · exact refl w
      · split
        · exact of_eq rfl rfl
        · exact modify_client (c := c) rfl rfl fun _ => rfl
  | released c => exact modify_client (c := c) rfl rfl fun _ => rfl
  | connectionGone n => exact free_connection (n := n) rfl rfl
  | newClient => exact newClient w
  | disconnectedHandler owner handler =>
      cases owner with
      | client c => exact modify_client (c := c) rfl rfl fun _ => rfl
      | connection n =>
          apply of_heaps
          · exact fun c client hc _ => ⟨client, hc, rfl⟩
          · intro m conn' hm _
            obtain ⟨conn, hn, rfl⟩ := Heap.get_modify_eq_some.mp hm
            refine ⟨conn, hn, ?_⟩
            split <;> rfl
  | opened s task =>
      apply of_heaps
      · exact fun c client hc _ => ⟨client, hc, rfl⟩
      · intro n conn hn hset
        rcases Heap.get_alloc_eq_some.mp hn with ⟨-, rfl⟩ | hn
        · cases hset
        · exact ⟨conn, hn, rfl⟩
  | clientGone c =>
      apply of_heaps
      · exact fun d client hd _ => ⟨client, (Heap.get_free_eq_some.mp hd).2, rfl⟩
      · exact fun n conn hn _ => ⟨conn, hn, rfl⟩
  | _ => exact of_eq rfl rfl

theorem of_changes {may : Change η → Prop} (hmay : ∀ owner handler, ¬may (.messageHandler owner handler))
    (h : Changes may w w') : Inherits w w' :=
  h.lift refl (fun _ _ _ => trans) fun w change hchange _ =>
    .change w change fun owner handler heq => hmay owner handler (heq ▸ hchange)

theorem start (w : World η) : Inherits w w.start := of_changes (fun _ _ h => h) (.start w)

theorem resume (w : World η) : Inherits w w.resume := of_changes (fun _ _ h => h) (.resume w)

theorem perform (I : Iteration) (w : World η) (call : Call η) (hcall : call.given = none) :
    Inherits w (w.perform I call) := by
  refine of_changes (fun owner handler h => ?_) (.perform I w call)
  cases call with
  | clientSetMessageHandler c given => cases hcall
  | connectionSetMessageHandler n given => cases hcall
  | _ => cases h

end Inherits

theorem handlerOf_clientSetMessageHandler {w : World η} {c : Ref} {given : Option η}
    {owner : Option Owner} {handler : η}
    (h : (w.clientSetMessageHandler c given).handlerOf owner = some handler) :
    w.handlerOf owner = some handler ∨ owner = some (.client c) ∧ given = some handler := by
  have hclients : (w.clientSetMessageHandler c given).clients =
      w.clients.modify c fun client => { client with messageHandler := given } := by
    unfold clientSetMessageHandler
    simp only
    split <;> rfl
  have hconnections : (w.clientSetMessageHandler c given).connections = w.connections := by
    unfold clientSetMessageHandler
    simp only
    split <;> rfl
  cases owner with
  | none => cases h
  | some owner =>
      cases owner with
      | connection n =>
          rw [handlerOf_connection, hconnections] at h
          exact .inl (handlerOf_connection.mpr h)
      | client d =>
          obtain ⟨client', hd, hset⟩ := handlerOf_client.mp h
          rw [hclients] at hd
          obtain ⟨client, hold, rfl⟩ := Heap.get_modify_eq_some.mp hd
          by_cases hdc : d = c
          · subst hdc
            rw [if_pos rfl] at hset
            exact .inr ⟨rfl, hset⟩
          · rw [if_neg hdc] at hset
            exact .inl (handlerOf_client.mpr ⟨client, hold, hset⟩)

theorem handlerOf_connectionSetMessageHandler {w : World η} {n : Ref} {given : Option η}
    {owner : Option Owner} {handler : η}
    (h : (w.connectionSetMessageHandler n given).handlerOf owner = some handler) :
    w.handlerOf owner = some handler ∨ owner = some (.connection n) ∧ given = some handler := by
  have hclients : (w.connectionSetMessageHandler n given).clients = w.clients := by
    unfold connectionSetMessageHandler
    simp only
    split <;> rfl
  have hconnections : (w.connectionSetMessageHandler n given).connections =
      w.connections.modify n fun conn => { conn with messageHandler := given } := by
    unfold connectionSetMessageHandler
    simp only
    split <;> rfl
  cases owner with
  | none => cases h
  | some owner =>
      cases owner with
      | client c =>
          rw [handlerOf_client, hclients] at h
          exact .inl (handlerOf_client.mpr h)
      | connection m =>
          obtain ⟨conn', hm, hset⟩ := handlerOf_connection.mp h
          rw [hconnections] at hm
          obtain ⟨conn, hold, rfl⟩ := Heap.get_modify_eq_some.mp hm
          by_cases hmn : m = n
          · subst hmn
            rw [if_pos rfl] at hset
            exact .inr ⟨rfl, hset⟩
          · rw [if_neg hmn] at hset
            exact .inl (handlerOf_connection.mpr ⟨conn, hold, hset⟩)

/-- What happens between two states of a run. The letters that are put into the queue on the way
are `posted`. -/
structure Moves (posted : List Letter) (w w' : World η) : Prop where
  settled : w'.Settled
  current : w'.Current
  passage : Passage posted w w'
  later : Later w w'

namespace Moves
variable {w w' w'' : World η} {posted more : List Letter}

theorem refl (hw : w.Settled) (hcurrent : w.Current) : Moves [] w w :=
  ⟨hw, hcurrent, .refl w, .refl w⟩

theorem trans (h : Moves posted w w') (h' : Moves more w' w'') : Moves (posted ++ more) w w'' :=
  ⟨h'.settled, h'.current, h.passage.trans h'.passage, h.later.trans h'.later⟩

/-- Nothing is posted on the way. -/
theorem followed (h : Moves posted w w') (h' : Moves [] w' w'') : Moves posted w w'' := by
  have hboth := h.trans h'
  rwa [List.append_nil] at hboth

/-- A call that may be made at any moment; nobody binds a client that is being connected. -/
theorem perform (I : Iteration) (hw : w.Settled) (hcurrent : w.Current) (call : Call η)
    (hallows : w.allows call = true) (hbind : w.keepsIdentifier (.call call) = true) :
    Moves (w.posts call) w (w.perform I call) := by
  have hconnecting : ∀ c clientId, call = .bind c clientId →
      (∃ q s, w.running.map (·.2) = some (.connecting q c s)) → (w.bind c clientId).1 = false := by
    rintro c clientId rfl ⟨q, s, hmoment⟩
    obtain ⟨⟨invocation, moment⟩, hrunning, rfl⟩ := Option.map_eq_some_iff.mp hmoment
    simpa [keepsIdentifier, hrunning] using hbind
  exact ⟨settled_perform I hw hallows hconnecting, hcurrent.of_changes hw (.perform I w call),
    .perform I hw hallows hconnecting, .perform I w call⟩

theorem newClient (hw : w.Settled) (hcurrent : w.Current) :
    Moves [] w { w with clients := w.clients.alloc {} } :=
  ⟨settled_newClient hw, hcurrent.of_changes hw (.step .byEntry w .newClient), .newClient hw, .of_net rfl rfl⟩

theorem resume (hw : w.Settled) (hcurrent : w.Current) : Moves [] w w.resume :=
  ⟨settled_resume hw, hcurrent.of_changes hw (.resume w), .resume hw, .resume w⟩

end Moves
end World
end DeviceMonitoring
