import DeviceMonitoring.Mismatch
import DeviceMonitoring.Session

/-! What the server does with any string that it receives: either the whole of what a meterage
calls for, or nothing. -/
namespace DeviceMonitoring

theorem serialize_meterage_bytes (meterage : MessageMeterage) :
    ∃ bs : Bytes, bs.length = 8 ∧
      serialize (.meterage meterage) = 'm'.toUInt8 :: (bs ++ [meterage.meterage]) := by
  refine ⟨toBigEndian (n := 8) [] meterage.timeStamp.toBitVec, by simp [toBigEndian], ?_⟩
  simp [serialize, toBigEndian, BigEndian.lowBytes]

namespace Monitoring

/-- The channel of the device's own client, still joined to the one of its connection. -/
def Routed (m : Monitoring) (deviceId : UInt64) (a : Ref) : Prop :=
  ∃ n b c client, m.world.connection m.connectionServer deviceId = some n ∧
    m.world.connectionChannel n = some b ∧ m.world.clients.get c = some client ∧
    client.clientId = deviceId ∧ client.channel = some a ∧ m.world.net.Joined a b

/-- The meterage has been processed, once and for its device only; `reply` is the answer. -/
structure Processed (m : Monitoring) (deviceId : UInt64) (meterage : MessageMeterage)
    (center : CommandCenter) (reply : Message) : Prop where
  once : m.server.commandCenter.processMeterage deviceId meterage = some (center, [(deviceId, reply)])
  others : ∀ other, other ≠ deviceId →
    center.scheduleInfo other = m.server.commandCenter.scheduleInfo other ∧
    center.statsInfo other = m.server.commandCenter.statsInfo other ∧
    center.lastTimeStamp other = m.server.commandCenter.lastTimeStamp other

/-- The state after the receipt of a meterage. Nothing else has changed. -/
inductive Receipt (m : Monitoring) (deviceId : UInt64) (meterage : MessageMeterage) :
    Monitoring → Prop
  | answered (center : CommandCenter) (reply : Message) (sent : Bytes) (a : Ref)
      (processed : m.Processed deviceId meterage center reply) (routed : m.Routed deviceId a)
      (decoded : received (m.server.encoder.decode sent) = (true, [reply])) :
      Receipt m deviceId meterage { m with
        server := { m.server with commandCenter := center }
        world := { m.world with net := m.world.net.scheduleTask (.sendMessage sent a) } }
  | unanswered (center : CommandCenter) (reply : Message)
      (processed : m.Processed deviceId meterage center reply) (lost : ∀ a, ¬ m.Routed deviceId a) :
      Receipt m deviceId meterage { m with server := { m.server with commandCenter := center } }

theorem sendMessage_routed {m : Monitoring} (h : m.world.Consistent none none) (deviceId : UInt64)
    (sent : Bytes) :
    (∃ a, m.Routed deviceId a ∧ m.sendMessage deviceId sent =
      { m with world := { m.world with net := m.world.net.scheduleTask (.sendMessage sent a) } }) ∨
    (∀ a, ¬ m.Routed deviceId a) ∧ m.sendMessage deviceId sent = m := by
  cases hn : m.world.connection m.connectionServer deviceId with
  | none =>
      right
      refine ⟨?_, by simp only [sendMessage, hn]⟩
      rintro a ⟨n, b, c, client, hn', -⟩
      rw [hn] at hn'
      cases hn'
  | some n =>
      obtain ⟨b, f, hnb, -⟩ := h.owned.entry_end hn
      have hb := World.connectionChannel_eq_some.mpr ⟨_, hnb⟩
      have hsend : m.sendMessage deviceId sent =
          { m with world := { m.world with net := m.world.net.sendMessage b sent } } := by
        simp only [sendMessage, hn, World.connectionSendMessage, hb]
      rcases m.world.net.sendMessage_cases b sent with ⟨p, hon, hp, -, hsent⟩ | ⟨hoff, hsame⟩
      · left
        obtain ⟨c, client, a, hc, hid, ha, hj⟩ := World.opposite_of_entry h hn hb hon
        obtain rfl : a = p := Option.some.inj (hj.symm.peer.symm.trans hp)
        exact ⟨a, ⟨n, b, c, client, hn, hb, hc, hid, ha, hj⟩, by rw [hsend, hsent]⟩
      · right
        refine ⟨?_, by rw [hsend, hsame]⟩
        rintro a ⟨n', b', c, client, hn', hb', -, -, -, hj⟩
        rw [hn] at hn'
        cases hn'
        rw [hb] at hb'
        cases hb'
        have hfalse := hoff hj.symm.connected a hj.symm.peer
        rw [hj.connected] at hfalse
        cases hfalse

theorem Sound.consistent {S : PhaseSort} {m : Monitoring} (h : Sound S m)
    (hmoment : ∀ running ∈ m.world.running, running.2 = .message) : m.world.Consistent none none := by
  obtain ⟨floating, closing, hsituation, hw⟩ := h.settled
  cases hrunning : m.world.running with
  | none =>
      rw [hrunning] at hsituation
      obtain ⟨rfl, rfl⟩ := hsituation
      exact hw
  | some running =>
      obtain ⟨invocation, moment⟩ := running
      obtain rfl : moment = .message := hmoment _ hrunning
      rw [hrunning] at hsituation
      obtain ⟨rfl, rfl⟩ := hsituation
      exact hw

/-- What the server encodes it can decode, if it decodes anything. -/
theorem received_outgoing {server : DeviceMonitoringServer}
    (hexecutor : ∀ E, server.encoder.selected = some E → ∃ A : Algorithm, A.executor = E) {w : Bytes}
    (hw : server.encoder.decode w ≠ []) (reply : Message) :
    received (server.encoder.decode (server.outgoing reply)) = (true, [reply]) := by
  cases hselected : server.encoder.selected with
  | none =>
      have hnone : server.encoder.currentExecutor = none := Option.map_eq_none_iff.mp hselected
      unfold MessageEncoder.decode at hw
      rw [hnone] at hw
      exact absurd rfl hw
  | some E =>
      obtain ⟨A, rfl⟩ := hexecutor E hselected
      rw [DeviceMonitoringServer.outgoing, MessageEncoder.encode_of_selected hselected,
        MessageEncoder.decode_of_selected hselected, A.decode_encode]
      have hreceived := received_append reply []
      rwa [List.append_nil] at hreceived

theorem receipt_of_meterage {S : PhaseSort} {m : Monitoring} (h : Sound S m)
    (hmoment : ∀ running ∈ m.world.running, running.2 = .message)
    (hexecutor : ∀ E, m.server.encoder.selected = some E → ∃ A : Algorithm, A.executor = E)
    {deviceId : UInt64} {w : Bytes} {meterage : MessageMeterage}
    (hw : serialize (.meterage meterage) <+: m.server.encoder.decode w) :
    ∃ m', m.onMessageReceived deviceId w = .ok m' ∧ Receipt m deviceId meterage m' := by
  obtain ⟨past, hpast⟩ := h.history
  obtain ⟨center, hcenter, -⟩ := (agrees_of_after hpast).processMeterage deviceId meterage
  have hprocessed : m.Processed deviceId meterage center (reply S past deviceId meterage) :=
    ⟨hcenter, fun other hother => CommandCenter.processMeterage_others hcenter hother⟩
  have hnonempty : m.server.encoder.decode w ≠ [] := by
    intro hnil
    rw [hnil, List.prefix_nil] at hw
    cases hw
  have hdecoded := received_outgoing hexecutor hnonempty (reply S past deviceId meterage)
  have hserver := DeviceMonitoringServer.onMessageReceived_meterage hw deviceId
  rw [hcenter] at hserver
  simp only [onMessageReceived, hserver, Option.map_some, List.map_cons, List.map_nil,
    List.foldl_cons, List.foldl_nil]
  -- the reply goes out from the state with the new command centre
  rcases sendMessage_routed (m := { m with server := { m.server with commandCenter := center } })
    (h.consistent hmoment) deviceId (m.server.outgoing (reply S past deviceId meterage)) with
    ⟨a, hrouted, hsent⟩ | ⟨hlost, hsent⟩
  · rw [hsent]
    exact ⟨_, rfl, .answered center _ _ a hprocessed hrouted hdecoded⟩
  · rw [hsent]
    exact ⟨_, rfl, .unanswered center _ hprocessed hlost⟩

/-- In every state of every session, whatever string the server receives from a device: if the
decoded string begins with a meterage, this is processed once, and one reply goes to the
device's own channel, if that is still connected; otherwise nothing at all happens. -/
theorem receipts_atomic (S : PhaseSort) (I : Iteration) (steps : List SessionStep)
    (hmoment : ∀ running ∈ (create.session S I steps).world.running, running.2 = .message)
    (hexecutor : ∀ E, (create.session S I steps).server.encoder.selected = some E →
      ∃ A : Algorithm, A.executor = E) (deviceId : UInt64) (w : Bytes) :
    let m := create.session S I steps
    (∀ (bs : Bytes) (value : UInt8) (rest : Bytes), bs.length = 8 →
      m.server.encoder.decode w = 'm'.toUInt8 :: (bs ++ value :: rest) →
      ∃ m', m.onMessageReceived deviceId w = .ok m' ∧
        Receipt m deviceId ⟨UInt64.ofBitVec (bs.foldl BigEndian.push 0), value⟩ m') ∧
    ((∀ (bs : Bytes) (value : UInt8) (rest : Bytes), bs.length = 8 →
      m.server.encoder.decode w ≠ 'm'.toUInt8 :: (bs ++ value :: rest)) →
      m.onMessageReceived deviceId w = .ok m) := by
  intro m
  have hsound : Sound S m := (sound_create S).run steps
  constructor
  · intro bs value rest hlength hw
    refine receipt_of_meterage hsound hmoment hexecutor ⟨rest, ?_⟩
    rw [serialize_meterage_of_bytes bs value hlength, hw, List.cons_append, List.append_assoc]
    rfl
  · intro hw
    have hother : m.server.onMessageReceived deviceId w = some (m.server, []) := by
      apply DeviceMonitoringServer.onMessageReceived_other
      intro meterage hmeterage
      obtain ⟨bs, hlength, hbytes⟩ := serialize_meterage_bytes meterage
      obtain ⟨rest, hrest⟩ := hmeterage
      rw [hbytes, List.cons_append, List.append_assoc] at hrest
      exact hw bs meterage.meterage rest hlength hrest.symm
    simp only [onMessageReceived, hother]
    rfl

def greeting : List SessionStep :=
  [.call .newDevice, .call (.bind 0 7), .call (.listen 5), .call (.connectToServer 0 5), .start,
    .handle, .handle, .call (.selectExecutor "ROT3")]

theorem receipts_atomic_rot3 :
    let m := create.session .stable .byEntry greeting
    (∃ m', m.onMessageReceived 7 (rot3EncoderExecutor.encode (serialize (.meterage ⟨0, 5⟩))) = .ok m' ∧
      Receipt m 7 ⟨0, 5⟩ m') ∧ m.onMessageReceived 7 [] = .ok m := by
  have hmoment : ∀ running ∈ (create.session .stable .byEntry greeting).world.running,
      running.2 = .message := by
    rintro running ⟨⟩
  have hexecutor : ∀ E, (create.session .stable .byEntry greeting).server.encoder.selected = some E →
      ∃ A : Algorithm, A.executor = E := fun E hE => ⟨.rot3, Option.some.inj hE⟩
  constructor
  · exact (receipts_atomic .stable .byEntry greeting hmoment hexecutor 7 _).1 [0, 0, 0, 0, 0, 0, 0, 0] 5
      [] rfl rfl
  · refine (receipts_atomic .stable .byEntry greeting hmoment hexecutor 7 []).2 ?_
    intro bs value rest _ hw
    cases hw

end Monitoring
end DeviceMonitoring
