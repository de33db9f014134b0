import DeviceMonitoring.Identity
import DeviceMonitoring.Operations

/-! What `connected()` tells on the two sides of a connection. -/
namespace DeviceMonitoring
variable {η : Type}
namespace World

/-- A channel is off as long as its disconnect task waits. -/
theorem connected_eq {w : World η} (h : w.Idle) {r : Ref} (hr : (w.net.channels.get r).isSome = true) :
    w.net.connected r = true ↔ .disconnect r ∉ w.net.tasks := by
  obtain ⟨channel, hget⟩ := Option.isSome_iff_exists.mp hr
  have hqueued := h.consistent.wired.queued r channel hget
  simp only [reduceCtorEq, or_false] at hqueued
  rw [← hqueued, Net.connected, hget, Option.any_some, Bool.not_eq_false]

theorem connected_of_peer {w : World η} (h : w.Idle) {a b : Ref} (hpeer : w.net.peer a = some b) :
    w.net.connected a = w.net.connected b := by
  obtain ⟨channel, hget, hp, hlive⟩ := Net.peer_eq_some.mp hpeer
  obtain ⟨b', hb', -, -, -, hsame⟩ := h.consistent.wired.paired a channel hget
  rw [hp] at hb'
  cases hb'
  obtain ⟨peer, hgetb⟩ := Option.isSome_iff_exists.mp hlive
  rw [Net.connected, Net.connected, hget, hgetb, Option.any_some, Option.any_some,
    (hsame peer hgetb).2]

/-- The server's side keeps calling the connection connected until the disconnect task of
its end has run; the client's side stops as soon as it is disconnected. -/
theorem connected_agree_iff (I : Iteration) (operations : List (Operation η)) (s : Ref) (k : UInt64)
    (n b c a : Ref) (h : (({} : World η).operate I operations).OwnPair s k n b c a) :
    (({} : World η).operate I operations).connectionConnected n =
        (({} : World η).operate I operations).clientConnected c ↔
      .disconnect a ∉ (({} : World η).operate I operations).net.tasks ∧
        .disconnect b ∉ (({} : World η).operate I operations).net.tasks := by
  have hidle := idle_operate I idle_empty operations
  generalize ({} : World η).operate I operations = w at h hidle ⊢
  obtain ⟨-, -, -, hlive⟩ := Net.peer_eq_some.mp h.paired.1
  obtain ⟨-, -, -, hlive'⟩ := Net.peer_eq_some.mp h.paired.2
  rw [← connected_eq hidle hlive, ← connected_eq hidle hlive', connected_of_peer hidle h.paired.1,
    and_self, connectionConnected, h.serverEnd, clientConnected, h.clientEnd]
  simp only
  rw [connected_of_peer hidle h.paired.1, Option.isSome_some, eq_comm]

def link : List (Operation Unit) :=
  [.newClient, .newServer, .call (.bind 0 7), .call (.listen 0 5), .call (.connectToHost 0 5),
    .processTask [] []]

theorem connected_agree_iff_link :
    (({} : World Unit).operate .byEntry link).connectionConnected 0 =
        (({} : World Unit).operate .byEntry link).clientConnected 0 ↔
      .disconnect 1 ∉ (({} : World Unit).operate .byEntry link).net.tasks ∧
        .disconnect 0 ∉ (({} : World Unit).operate .byEntry link).net.tasks :=
  connected_agree_iff .byEntry link 0 7 0 0 0 1 ⟨rfl, rfl, rfl, rfl, rfl⟩

/-- The client has disconnected, the server's side does not know yet. -/
theorem connected_disagree : ¬ ∀ (I : Iteration) (operations : List (Operation Unit)) (s : Ref)
    (k : UInt64) (n b c a : Ref),
      (({} : World Unit).operate I operations).OwnPair s k n b c a →
        (({} : World Unit).operate I operations).connectionConnected n =
          (({} : World Unit).operate I operations).clientConnected c := by
  intro h
  have hagree := h .byEntry (link ++ [.call (.clientDisconnect 0)]) 0 7 0 0 0 1
    ⟨rfl, rfl, rfl, rfl, rfl⟩
  revert hagree
  decide

end World
end DeviceMonitoring
