import Seshat.Commands.GatewayPlan
import Seshat.Config.Validate
import Seshat.Run.BoundaryCheck
import Seshat.Run.CleanPath
import Mathlib.Tactic.Common

/-! Throughput runs over the UDP gateway: every connection numbers its own datagrams, and
the receivers of all connections drain one backend socket. -/

namespace Seshat.Run
open Config Commands Workload Transport Metrics Proto.Wire Lib.Rounds

/-- `UdpSink`, with the default batch of a datagram transport. -/
def udpSink : SinkTraits where
  preferredBatch := 32
  supportsInplace := false

/-- A connection's sender thread: its clock at the start, and what its rounds meet. -/
structure SenderThread (messageBytes : UInt32) where
  start : UInt64
  turns : List (SenderTurn messageBytes (clampBatch udpSink.preferredBatch))

/-- A connection's receiver thread: what its clone of the socket hands it, and its rounds. -/
structure ReceiverThread where
  source : DatagramSource
  turns : List ReceiverTurn

/-- A datagram at the backend socket, and the receiver that takes it. -/
structure Arrival (connections : Nat) where
  flow : Fin connections
  receiver : Fin connections
  gram : List UInt8

/-- `run_once` over `GatewayUdpTransport`. -/
structure UdpRun (params : RunParams) (connections : Nat) where
  senders : Fin connections → SenderThread params.messageBytes
  receivers : Fin connections → ReceiverThread
  arrivals : List (Arrival connections)

namespace UdpRun

variable {params : RunParams} {connections : Nat} (run : UdpRun params connections)

/-- What the sender of a connection got accepted. -/
def sent (flow : Fin connections) : List (List UInt8) :=
  (senderLoop udpSink params.sender params.messageBytes (run.senders flow).start
    (run.senders flow).turns).accepted

def received (receiver : Fin connections) : Round (ReceiverState DatagramSource) Delivery :=
  receiverLoop udpSource (run.receivers receiver).source params.messageBytes
    (run.receivers receiver).turns

/-- The datagrams a receiver takes from the socket. -/
def taken (receiver : Fin connections) : List (List UInt8) :=
  (run.arrivals.filter fun arrival => arrival.receiver = receiver).map Arrival.gram

def summary (sqrt : ℚ → ℚ) (durationS : ℚ) : FlowSummary :=
  aggregateRun sqrt (List.ofFn fun receiver => (run.received receiver).state.metrics) durationS
    params.removeOutliers

/-- Every datagram arrives once, in order per flow, and is received in the measure window. -/
structure Clean : Prop where
  inOrder : ∀ flow, (run.arrivals.filter fun arrival => arrival.flow = flow).map Arrival.gram =
    run.sent flow
  shared : ∀ receiver, (run.receivers receiver).source.datagrams = run.taken receiver
  steady : ∀ receiver, (run.receivers receiver).source.Steady
  drained : ∀ receiver, (run.received receiver).emitted.length = (run.taken receiver).length
  measured : ∀ receiver, ∀ delivery ∈ (run.received receiver).emitted, delivery.phase = .measure

end UdpRun

section Runs

variable {params : RunParams} {connections : Nat} {run : UdpRun params connections}

/-- A receiver records the numbers of the datagrams it takes. -/
theorem UdpRun.Clean.seqs (clean : run.Clean) (sized : 24 ≤ params.messageBytes.toNat)
    {receiver : Fin connections} {hdrs : List WireHeader}
    (taken : run.taken receiver = hdrs.map message)
    (sizes : ∀ hdr ∈ hdrs, hdr.total = params.messageBytes.toNat) :
    (run.received receiver).state.metrics.seqs = hdrs.map WireHeader.seq := by
  have fits : ∀ gram ∈ run.taken receiver, gram.length ≤ params.messageBytes.toNat := by
    intro gram member
    rw [taken] at member
    obtain ⟨hdr, inHdrs, rfl⟩ := List.mem_map.mp member
    rw [message_length, sizes hdr inHdrs]
  have front : (run.received receiver).emitted.map Delivery.msg <+: _ :=
    receiverRounds_front (freshSlots_usable (by omega) (clampBatch_pos _)) (clean.steady receiver)
  simp only [clean.shared receiver, FramedReader.map_take_fits fits] at front
  have handed := front.eq_of_length (by rw [List.length_map, clean.drained receiver])
  have folded : (run.received receiver).state.metrics = _ :=
    receiverRounds_metrics udpSource _ _ _ (run.receivers receiver).turns
  rw [folded]
  exact (account_messages (handed.trans taken) sizes (clean.measured receiver) {}).1

end Runs

/-! One connection. -/

theorem filter_subsingleton {α : Type} {β : α → Fin 1} (list : List α) (only : Fin 1) :
    list.filter (fun item => β item = only) = list :=
  List.filter_eq_self.mpr fun _ _ => decide_eq_true (Subsingleton.elim _ _)

/-- The receiver of a single connection sees its flow and nothing else. -/
theorem UdpRun.Clean.single {params : RunParams} {run : UdpRun params 1} (clean : run.Clean)
    (sized : 24 ≤ params.messageBytes.toNat) (few : (run.sent 0).length < 2 ^ 64)
    (sqrt : ℚ → ℚ) (durationS : ℚ) :
    (run.summary sqrt durationS).integrity.lost = 0 ∧
      (run.summary sqrt durationS).integrity.duplicate = 0 := by
  obtain ⟨hdrs, whole, sizes, numbers⟩ := accepted_headers udpSink params.sender
    (run.senders 0).start (run.senders 0).turns sized
  have taken : run.taken 0 = run.sent 0 := by
    rw [← clean.inOrder 0, UdpRun.taken, filter_subsingleton, filter_subsingleton]
  have seqs := clean.seqs sized (taken.trans whole) sizes
  have single := (aggregateRun_single sqrt (run.received 0).state.metrics durationS
    params.removeOutliers).1
  have total : (run.summary sqrt durationS).integrity = _ := single
  rw [UdpRun.sent] at few
  rw [total, seqs, numbers, integrity_consecutive few]
  exact ⟨rfl, rfl⟩

/-! Two connections. -/

/-- A round in which the sink accepts one message. -/
def singleTurn (messageBytes : UInt32) :
    SenderTurn messageBytes (clampBatch udpSink.preferredBatch) where
  phase := .measure
  phaseAwake := .measure
  phaseSending := .measure
  nowNs := fun _ => 0
  reserve := fun _ => none
  commitBatched := fun _ => .ok false
  flushBatch := .ok ()
  sendBatch := .ok 1
  sendOne := .ok ()

theorem singleTurn_accepted (spec : Sender) (messageBytes : UInt32) :
    (senderLoop udpSink spec messageBytes 0 [singleTurn messageBytes]).accepted.length = 1 := by
  cases blast : (Pacer.fromSender spec messageBytes).isBlast with
  | false =>
    have accepts : ∀ turn ∈ [singleTurn messageBytes], turn.attempt = .accepted :=
      List.forall_mem_singleton.mpr rfl
    rw [senderLoop_paced udpSink spec messageBytes 0 _ blast, List.length_mapIdx,
      acceptedRounds_all accepts, List.length_range']
    rfl
  | true =>
    have built := congrArg List.length ((BatchBuilder.new messageBytes
      (clampBatch udpSink.preferredBatch)).build_messages 0 (clampBatch udpSink.preferredBatch)
      fun _ => 0)
    rw [List.length_map, List.length_range'] at built
    have room : min (clampBatch udpSink.preferredBatch) (BatchBuilder.new messageBytes
        (clampBatch udpSink.preferredBatch)).bufs.length = 32 := by
      simp [BatchBuilder.new, udpSink, clampBatch, batchAbsMax]
    have emitted : (senderLoop udpSink spec messageBytes 0 [singleTurn messageBytes]).accepted =
        ((BatchBuilder.new messageBytes (clampBatch udpSink.preferredBatch)).build 0
          (clampBatch udpSink.preferredBatch) fun _ => 0).1.take 1 ++ [] := by
      simp only [senderLoop, blast, if_pos]
      rfl
    rw [emitted, List.append_nil, List.length_take, built, room]
    rfl

/-- The threads of a run in which the receivers get what the arrivals say. -/
def UdpRun.delivering (params : RunParams) {connections : Nat}
    (senders : Fin connections → SenderThread params.messageBytes)
    (arrivals : List (Arrival connections)) : UdpRun params connections where
  senders
  receivers := fun receiver =>
    { source := .leave 0
        ((arrivals.filter fun arrival => arrival.receiver = receiver).map Arrival.gram) []
      turns := measuringTurns arrivals.length }
  arrivals

theorem UdpRun.delivering_clean {params : RunParams} {connections : Nat}
    (sized : 24 ≤ params.messageBytes.toNat)
    {senders : Fin connections → SenderThread params.messageBytes}
    {arrivals : List (Arrival connections)}
    (inOrder : ∀ flow, (arrivals.filter fun arrival => arrival.flow = flow).map Arrival.gram =
      (UdpRun.delivering params senders arrivals).sent flow) :
    (UdpRun.delivering params senders arrivals).Clean := by
  have shared (receiver : Fin connections) :
      ((UdpRun.delivering params senders arrivals).receivers receiver).source.datagrams =
        (UdpRun.delivering params senders arrivals).taken receiver := by
    refine (DatagramSource.leave_datagrams _ _ _).trans ?_
    rw [List.drop_zero, DatagramSource.datagrams, List.append_nil]
    rfl
  have steady (receiver : Fin connections) :
      ((UdpRun.delivering params senders arrivals).receivers receiver).source.Steady :=
    DatagramSource.leave_steady fun kind none => absurd none List.not_mem_nil
  refine ⟨inOrder, shared, steady, fun receiver => ?_, fun receiver =>
    receiverLoop_phase (measuringTurns_phase _)⟩
  have idle : ((UdpRun.delivering params senders arrivals).receivers receiver).source.pauses = 0 :=
    DatagramSource.leave_pauses _ _ _
  have few : ((UdpRun.delivering params senders arrivals).taken receiver).length ≤
      arrivals.length := by
    rw [UdpRun.taken, List.length_map]
    exact List.length_filter_le _ _
  have enough : ((UdpRun.delivering params senders arrivals).receivers
      receiver).source.datagrams.length + ((UdpRun.delivering params senders arrivals).receivers
        receiver).source.pauses ≤ (measuringTurns arrivals.length).length := by
    rw [shared, idle, measuringTurns, List.length_replicate]
    exact few
  have positive : 0 < params.messageBytes.toNat := by omega
  have handed := receiverLoop_datagrams positive (steady receiver) (measuringTurns_awake _) enough
  have count := congrArg List.length handed
  rw [List.length_map, List.length_map, shared] at count
  exact count

/-- The first messages of the first two connections, both taken by the first receiver. -/
def mixedRun (params : RunParams) (others : Nat) : UdpRun params (others + 2) :=
  .delivering params
    (fun flow =>
      { start := 0, turns := if flow.val < 2 then [singleTurn params.messageBytes] else [] })
    ((senderLoop udpSink params.sender params.messageBytes 0
      [singleTurn params.messageBytes]).accepted.flatMap fun gram =>
        [{ flow := 0, receiver := 0, gram }, { flow := 1, receiver := 0, gram }])

section Mixed

variable {params : RunParams}

/-- The first message of a connection, as every sender of the run builds it. -/
theorem firstMessage (sized : 24 ≤ params.messageBytes.toNat) :
    ∃ hdr : WireHeader, hdr.total = params.messageBytes.toNat ∧ hdr.seq = 0 ∧
      (senderLoop udpSink params.sender params.messageBytes 0
        [singleTurn params.messageBytes]).accepted = [message hdr] := by
  obtain ⟨hdrs, whole, sizes, numbers⟩ := accepted_headers udpSink params.sender 0
    [singleTurn params.messageBytes] sized
  rw [singleTurn_accepted] at numbers
  obtain ⟨hdr, rfl, number⟩ := List.map_eq_singleton_iff.mp numbers
  exact ⟨hdr, sizes hdr List.mem_cons_self, number, whole⟩

theorem mixedRun_arrivals (hdr : WireHeader) (others : Nat)
    (first : (senderLoop udpSink params.sender params.messageBytes 0
      [singleTurn params.messageBytes]).accepted = [message hdr]) :
    (mixedRun params others).arrivals =
      [{ flow := 0, receiver := 0, gram := message hdr },
        { flow := 1, receiver := 0, gram := message hdr }] := by
  change List.flatMap _ _ = _
  rw [first]
  rfl

theorem mixedRun_clean (sized : 24 ≤ params.messageBytes.toNat) (others : Nat) :
    (mixedRun params others).Clean := by
  refine UdpRun.delivering_clean sized fun flow => ?_
  obtain ⟨hdr, -, -, first⟩ := firstMessage sized
  have idle : (senderLoop udpSink params.sender params.messageBytes 0 []).accepted = [] := by
    simp only [senderLoop]
    split <;> rfl
  have arrivals := mixedRun_arrivals hdr others first
  change ((mixedRun params others).arrivals.filter _).map _ = (senderLoop udpSink params.sender
    params.messageBytes 0 (if flow.val < 2 then [singleTurn params.messageBytes] else [])).accepted
  rw [arrivals]
  by_cases sends : flow.val < 2
  · rw [if_pos sends, first]
    have which : flow = 0 ∨ flow = 1 := by
      rcases Nat.lt_succ_iff_lt_or_eq.mp sends with zero | one
      · exact .inl (Fin.ext (by simpa using zero))
      · exact .inr (Fin.ext (by simpa using one))
    rcases which with rfl | rfl <;> simp
  · have apart : 0 ≠ flow ∧ 1 ≠ flow := by
      constructor <;> rintro rfl <;> simp at sends
    rw [if_neg sends, idle]
    simp [apart]

/-- The first receiver sees two flows start at 0, the others see nothing. -/
theorem mixedRun_seqs (sized : 24 ≤ params.messageBytes.toNat) (others : Nat)
    (receiver : Fin (others + 2)) :
    ((mixedRun params others).received receiver).state.metrics.seqs =
      if receiver = 0 then [0, 0] else [] := by
  obtain ⟨hdr, size, number, first⟩ := firstMessage sized
  have clean := mixedRun_clean sized others
  have arrivals := mixedRun_arrivals hdr others first
  by_cases here : receiver = 0
  · subst here
    have taken : (mixedRun params others).taken 0 = [hdr, hdr].map message := by
      rw [UdpRun.taken, arrivals]
      rfl
    have seqs := clean.seqs sized taken (by simp [size])
    rw [seqs, if_pos rfl, List.map_cons, List.map_singleton, number]
  · have taken : (mixedRun params others).taken receiver = [].map message := by
      rw [UdpRun.taken, arrivals]
      simp [Ne.symm here]
    rw [if_neg here, clean.seqs sized taken (by simp)]
    rfl

/-- Receivers without a datagram leave the totals as they are. -/
theorem aggregateRun_rest (sqrt : ℚ → ℚ) (m : FlowMetrics) {rest : List FlowMetrics}
    (quiet : ∀ other ∈ rest, other.seqs = []) (durationS : ℚ) (removeOutliers : Bool) :
    (aggregateRun sqrt (m :: rest) durationS removeOutliers).integrity = integrity m.seqs := by
  have kept (total : RunTotals) : (rest.foldl RunTotals.add total).integ = total.integ := by
    induction rest generalizing total with
    | nil => rfl
    | cons other rest ih =>
      rw [List.foldl_cons, ih (fun third member => quiet third (List.mem_cons_of_mem _ member))]
      simp [RunTotals.add, quiet other List.mem_cons_self, integrity]
  refine (kept _).trans ?_
  simp [RunTotals.add]

theorem mixedRun_duplicate (sized : 24 ≤ params.messageBytes.toNat) (others : Nat)
    (sqrt : ℚ → ℚ) (durationS : ℚ) :
    ((mixedRun params others).summary sqrt durationS).integrity.duplicate = 1 := by
  rw [UdpRun.summary, List.ofFn_succ, aggregateRun_rest, mixedRun_seqs sized, if_pos rfl]
  · decide
  · intro other member
    obtain ⟨receiver, rfl⟩ := List.mem_ofFn.mp member
    rw [mixedRun_seqs sized, if_neg (Fin.succ_ne_zero _)]

end Mixed

/-! Scenarios. -/

/-- The run that `run_once` makes of a scenario's connections. -/
abbrev ScenarioRun (params : RunParams) := UdpRun params (max params.connections 1)

/-- No clean run of these parameters reports a loss or a duplicate, unless a flow numbers
past the last word. -/
def CountsPerFlow (params : RunParams) : Prop :=
  ∀ (run : ScenarioRun params), run.Clean → (∀ flow, (run.sent flow).length < 2 ^ 64) →
    ∀ (sqrt : ℚ → ℚ) (durationS : ℚ), (run.summary sqrt durationS).integrity.lost = 0 ∧
      (run.summary sqrt durationS).integrity.duplicate = 0

theorem countsPerFlow_single {params : RunParams} (sized : 24 ≤ params.messageBytes.toNat)
    (single : max params.connections 1 = 1) : CountsPerFlow params := by
  unfold CountsPerFlow ScenarioRun
  rw [single]
  exact fun run clean few sqrt durationS => clean.single sized (few 0) sqrt durationS

theorem countsPerFlow_mixed {params : RunParams} (sized : 24 ≤ params.messageBytes.toNat)
    (several : 2 ≤ params.connections) : ¬CountsPerFlow params := by
  obtain ⟨others, connections⟩ : ∃ others, max params.connections 1 = others + 2 :=
    ⟨params.connections - 2, by omega⟩
  unfold CountsPerFlow ScenarioRun
  rw [connections]
  intro always
  have clean := mixedRun_clean sized others
  have few (flow : Fin (others + 2)) : ((mixedRun params others).sent flow).length < 2 ^ 64 := by
    obtain ⟨hdr, -, -, first⟩ := firstMessage sized
    rw [← clean.inOrder flow, List.length_map, mixedRun_arrivals hdr others first]
    exact lt_of_le_of_lt (List.length_filter_le _ _) (by simp)
  have none := (always (mixedRun params others) clean few id 0).2
  rw [mixedRun_duplicate sized] at none
  exact absurd none (by decide)

/-- A scenario that is driven through the gateway's UDP transport reports per-flow counts
exactly when it has one connection. -/
theorem udpGateway_counts_iff {s : Scenario} {d : Defaults} {rate : Option ℚ} {params : RunParams}
    (driven : udpGatewayParams s d rate = some params) :
    CountsPerFlow params ↔ s.connections ≤ 1 := by
  obtain ⟨sized, connections⟩ := udpGatewayParams_spec driven
  have bound : s.connections ≤ 1 ↔ s.connections.toNat ≤ 1 := UInt32.le_iff_toNat_le
  rw [bound]
  constructor
  · intro counts
    by_contra several
    exact countsPerFlow_mixed sized (by omega) counts
  · intro few
    exact countsPerFlow_single sized (by omega)

/-- A scenario that routes plain UDP through the gateway. -/
def routedUdp (connections : UInt32) : Scenario where
  name := "udp"
  connections
  sender := some { interface := .udp, targetAddr := "127.0.0.1:5000" }
  gateway := { enabled := true }

def routedUdpParams (connections : UInt32) : RunParams :=
  buildRunParams (routedUdp connections) {}
    { interface := .udp, targetAddr := "127.0.0.1:5000" }

theorem routedUdp_driven (connections : UInt32) :
    udpGatewayParams (routedUdp connections) {} none = some (routedUdpParams connections) := by
  rfl

theorem udpGateway_counts_iff_one :
    CountsPerFlow (routedUdpParams 1) ↔ (routedUdp 1).connections ≤ 1 :=
  udpGateway_counts_iff (routedUdp_driven 1)

/-- Two connections pass validation and share the socket. -/
theorem udpGateway_counts_fail :
    ¬∀ (config : Config) (s : Scenario), (validate config).ok = true → s ∈ config.scenarios →
      ∀ (rate : Option ℚ) (params : RunParams),
        udpGatewayParams s config.defaults rate = some params → CountsPerFlow params := by
  intro always
  have accepted : (validate { suite := { name := "suite", version := "1.0.0" }
                              scenarios := [routedUdp 2] }).ok = true := by
    decide +kernel
  exact countsPerFlow_mixed (by decide) (by decide)
    (always _ (routedUdp 2) accepted List.mem_cons_self none _ (routedUdp_driven 2))

end Seshat.Run
