import Seshat.Metrics.Integrity
import Seshat.Run.StreamPath
import Mathlib.Tactic.Common

/-! The clean path end to end: what a sender's sink accepted, carried losslessly to a
receiver that measures throughout, is counted without a single defect. -/

namespace Seshat.Run
open Config Workload Transport Metrics Proto.Wire Lib.Rounds Lib.Framing

/-- The accepted messages of a run are encoded headers, numbered from the start. -/
theorem numbered_headers {messageBytes : UInt32} {seq : UInt64} {list : List (List UInt8)}
    (numbered : Numbered (Carries messageBytes) (· + 1) seq list) :
    ∃ hdrs : List WireHeader, list = hdrs.map message ∧
      (∀ hdr ∈ hdrs, hdr.total = (clampedSize messageBytes).toNat) ∧
      hdrs.map WireHeader.seq = (List.range list.length).map fun k => seq + UInt64.ofNat k := by
  induction list generalizing seq with
  | nil => exact ⟨[], rfl, by simp, rfl⟩
  | cons msg rest ih =>
    obtain ⟨⟨tsNs, rfl⟩, later⟩ := numbered
    obtain ⟨hdrs, rfl, sizes, seqs⟩ := ih later
    refine ⟨stamped messageBytes seq tsNs :: hdrs, rfl, ?_, ?_⟩
    · intro hdr member
      rcases List.mem_cons.mp member with rfl | old
      · exact stamped_total _ _ _
      · exact sizes hdr old
    · have shift (k : Nat) : seq + UInt64.ofNat (k + 1) = seq + 1 + UInt64.ofNat k := by
        rw [Nat.add_comm, UInt64.ofNat_add, ← UInt64.add_assoc]
        rfl
      rw [List.map_cons, seqs, List.length_cons, List.range_succ_eq_map, List.map_cons,
        List.map_map]
      simp only [Function.comp_def, shift, show UInt64.ofNat 0 = 0 from rfl, UInt64.add_zero]
      rfl

/-- What a sink accepted of a run, as headers numbered from 0. -/
theorem accepted_headers (sink : SinkTraits) (spec : Sender) {messageBytes : UInt32}
    (start : UInt64) (turns : List (SenderTurn messageBytes (clampBatch sink.preferredBatch)))
    (sized : 24 ≤ messageBytes.toNat) :
    ∃ hdrs : List WireHeader,
      (senderLoop sink spec messageBytes start turns).accepted = hdrs.map message ∧
      (∀ hdr ∈ hdrs, hdr.total = messageBytes.toNat) ∧
      hdrs.map WireHeader.seq =
        consecutive (senderLoop sink spec messageBytes start turns).accepted.length := by
  obtain ⟨hdrs, whole, sizes, seqs⟩ :=
    numbered_headers (senderLoop_numbered sink spec messageBytes start turns)
  have size : (clampedSize messageBytes).toNat = messageBytes.toNat := by
    rw [clampedSize_toNat]
    omega
  refine ⟨hdrs, whole, fun hdr member => (sizes hdr member).trans size, seqs.trans ?_⟩
  simp only [UInt64.zero_add]
  rfl

/-- Measured whole messages of the configured size are recorded one by one. -/
theorem account_messages {stride : Nat} {deliveries : List Delivery} {hdrs : List WireHeader}
    (carried : deliveries.map Delivery.msg = hdrs.map message)
    (sizes : ∀ hdr ∈ hdrs, hdr.total = stride)
    (measured : ∀ delivery ∈ deliveries, delivery.phase = .measure) (m : FlowMetrics) :
    let result := deliveries.foldl (Delivery.account stride) m
    result.seqs = m.seqs ++ hdrs.map WireHeader.seq ∧
      result.bytes = m.bytes + UInt64.ofNat (hdrs.length * stride) ∧
      result.integrityFailures = m.integrityFailures ∧
      result.boundaryViolations = m.boundaryViolations := by
  induction deliveries generalizing hdrs m with
  | nil =>
    have none : hdrs = [] := List.map_eq_nil_iff.mp carried.symm
    subst none
    simp
  | cons delivery rest ih =>
    cases hdrs with
    | nil => simp at carried
    | cons hdr hdrs =>
      rw [List.map_cons, List.map_cons, List.cons.injEq] at carried
      obtain ⟨whole, carried⟩ := carried
      have one : delivery.account stride m =
          m.record hdr.seq (Lib.Saturating.satSub delivery.recvNs hdr.tsNs)
            (UInt64.ofNat stride) := by
        rw [Delivery.account, if_pos (measured delivery List.mem_cons_self), whole,
          receive_message m hdr _ (sizes hdr List.mem_cons_self)]
      obtain ⟨seqs, bytes, failures, violations⟩ := ih carried
        (fun other member => sizes other (List.mem_cons_of_mem _ member))
        (fun other member => measured other (List.mem_cons_of_mem _ member))
        (delivery.account stride m)
      rw [List.foldl_cons]
      refine ⟨?_, ?_, failures.trans (by rw [one]; rfl), violations.trans (by rw [one]; rfl)⟩
      · rw [seqs, one]
        simp [FlowMetrics.record]
      · rw [bytes, one, List.length_cons, Nat.add_mul, Nat.one_mul, UInt64.ofNat_add,
          UInt64.add_comm (UInt64.ofNat _) (UInt64.ofNat stride), ← UInt64.add_assoc]
        rfl

theorem aggregateRun_single (sqrt : ℚ → ℚ) (m : FlowMetrics) (durationS : ℚ)
    (removeOutliers : Bool) :
    let summary := aggregateRun sqrt [m] durationS removeOutliers
    summary.integrity = integrity m.seqs ∧ summary.bytes = m.bytes ∧
      summary.integrityFailures = m.integrityFailures ∧
      summary.boundaryViolations = m.boundaryViolations := by
  simp [aggregateRun, RunTotals.add]

section Path

variable {sink : SinkTraits} {spec : Sender} {messageBytes : UInt32} {start : UInt64}
  {sent : List (SenderTurn messageBytes (clampBatch sink.preferredBatch))} {src : ByteSource}
  {turns : List ReceiverTurn} {accepted : List (List UInt8)}

/-- A reader at the start of a stream of whole messages of its size holds them, none cut. -/
theorem headers_held {hdrs : List WireHeader}
    (sizes : ∀ hdr ∈ hdrs, hdr.total = messageBytes.toNat)
    (carried : src.bytes = (hdrs.map message).flatten) :
    (FramedReader.new messageBytes).remaining src = hdrs.map message ∧
      (hdrs.map message).map (List.take messageBytes.toNat) = hdrs.map message := by
  have lengths : ∀ msg ∈ hdrs.map message, msg.length = messageBytes.toNat := by
    intro msg member
    obtain ⟨hdr, in_hdrs, rfl⟩ := List.mem_map.mp member
    rw [message_length, sizes hdr in_hdrs]
  constructor
  · refine FramedReader.new_remaining messageBytes (fun msg member => ?_) (fun msg member => ?_)
      carried
    · obtain ⟨hdr, -, rfl⟩ := List.mem_map.mp member
      exact message_wellFormed hdr
    · exact message_fits messageBytes (le_of_eq (lengths msg member))
  · conv_rhs => rw [← List.map_id (hdrs.map message)]
    exact List.map_congr_left fun msg member =>
      List.take_of_length_le (le_of_eq (lengths msg member))

/-- The receiver's metrics at the end of a clean path. -/
theorem cleanPath_metrics (sized : 24 ≤ messageBytes.toNat)
    (ran : (senderLoop sink spec messageBytes start sent).accepted = accepted)
    (carried : src.bytes = accepted.flatten)
    (steady : src.Steady) (awake : ∀ turn ∈ turns, turn.phase ≠ .done)
    (enough : accepted.length + src.pauses < turns.length)
    (measured : ∀ delivery ∈ (receiverLoop (tcpSource messageBytes) (.new messageBytes, src)
      messageBytes turns).emitted, delivery.phase = .measure) :
    let metrics := (receiverLoop (tcpSource messageBytes) (.new messageBytes, src) messageBytes
      turns).state.metrics
    metrics.seqs = consecutive accepted.length ∧
      metrics.bytes = UInt64.ofNat (accepted.length * messageBytes.toNat) ∧
      metrics.integrityFailures = 0 ∧ metrics.boundaryViolations = 0 := by
  obtain ⟨hdrs, whole, sizes, seqs⟩ := accepted_headers sink spec start sent sized
  rw [ran] at whole seqs
  intro metrics
  obtain ⟨held, uncut⟩ := headers_held sizes (whole ▸ carried)
  have positive : 0 < messageBytes.toNat := by omega
  have handed := receiverLoop_stream positive steady awake (by rw [held, ← whole]; exact enough)
  rw [held, uncut] at handed
  have folded : metrics = _ := receiverRounds_metrics (tcpSource messageBytes) _ _ _ turns
  obtain ⟨gotSeqs, gotBytes, gotFailures, gotViolations⟩ :=
    account_messages handed sizes measured {}
  have count : accepted.length = hdrs.length := by rw [whole, List.length_map]
  refine ⟨?_, ?_, ?_, ?_⟩
  · rw [folded]
    refine gotSeqs.trans ?_
    rw [seqs, List.nil_append]
  · rw [folded]
    refine gotBytes.trans ?_
    rw [count, UInt64.zero_add]
  · rw [folded]
    exact gotFailures
  · rw [folded]
    exact gotViolations

/-- A lossless FIFO path measured throughout gets a clean verdict; only the byte counter
wraps at 2^64. -/
theorem cleanPath_verdict (sqrt : ℚ → ℚ) (durationS : ℚ) (removeOutliers : Bool)
    (sized : 24 ≤ messageBytes.toNat)
    (ran : (senderLoop sink spec messageBytes start sent).accepted = accepted)
    (few : accepted.length < 2 ^ 64) (carried : src.bytes = accepted.flatten)
    (steady : src.Steady) (awake : ∀ turn ∈ turns, turn.phase ≠ .done)
    (enough : accepted.length + src.pauses < turns.length)
    (measured : ∀ delivery ∈ (receiverLoop (tcpSource messageBytes) (.new messageBytes, src)
      messageBytes turns).emitted, delivery.phase = .measure) :
    let n := accepted.length
    let summary := aggregateRun sqrt [(receiverLoop (tcpSource messageBytes)
      (.new messageBytes, src) messageBytes turns).state.metrics] durationS removeOutliers
    summary.integrity.received.toNat = n ∧ summary.integrity.distinct.toNat = n ∧
      summary.integrity.lost = 0 ∧ summary.integrity.duplicate = 0 ∧
      summary.integrity.reordered = 0 ∧ summary.integrityFailures = 0 ∧
      summary.boundaryViolations = 0 ∧
      summary.bytes.toNat = n * messageBytes.toNat % 2 ^ 64 := by
  intro n summary
  obtain ⟨seqs, bytes, failures, violations⟩ :=
    cleanPath_metrics sized ran carried steady awake enough measured
  obtain ⟨integ, runBytes, runFailures, runViolations⟩ :=
    aggregateRun_single sqrt (receiverLoop (tcpSource messageBytes) (.new messageBytes, src)
      messageBytes turns).state.metrics durationS removeOutliers
  have clean : summary.integrity = _ := integ.trans (by rw [seqs, integrity_consecutive few])
  have counted : (UInt64.ofNat n).toNat = n := by
    rw [UInt64.toNat_ofNat', Nat.mod_eq_of_lt few]
  refine ⟨by rw [clean]; exact counted, by rw [clean]; exact counted, by rw [clean],
    by rw [clean], by rw [clean], runFailures.trans failures, runViolations.trans violations, ?_⟩
  have total : summary.bytes = _ := runBytes.trans bytes
  rw [total, UInt64.toNat_ofNat']

end Path

/-! A path on which every attempt is accepted and everything arrives in one chunk. -/

def microsecondSender : Sender :=
  { interface := .tcp, targetAddr := "127.0.0.1:9000", pattern := .periodic,
    intervalUs := some 1 }

/-- A round in which a sink of 32-message batches accepts what it is offered. -/
def acceptingTurn (messageBytes : UInt32) : SenderTurn messageBytes (clampBatch 32) where
  phase := .measure
  phaseAwake := .measure
  phaseSending := .measure
  nowNs := fun _ => 0
  reserve := fun _ => none
  commitBatched := fun _ => .ok false
  flushBatch := .ok ()
  sendBatch := .ok 0
  sendOne := .ok ()

def acceptingRun (messageBytes : UInt32) (n : Nat) : List (List UInt8) :=
  (senderLoop ⟨32, false⟩ microsecondSender messageBytes 0
    (List.replicate n (acceptingTurn messageBytes))).accepted

def measuringRun (messageBytes : UInt32) (accepted : List (List UInt8)) :
    Round (ReceiverState (FramedReader × ByteSource)) Delivery :=
  receiverLoop (tcpSource messageBytes) (.new messageBytes, .ofBytes accepted.flatten)
    messageBytes (measuringTurns (accepted.length + 1))

theorem acceptingRun_length (messageBytes : UInt32) (n : Nat) :
    (acceptingRun messageBytes n).length = n := by
  have accepts : ∀ turn ∈ List.replicate n (acceptingTurn messageBytes),
      turn.attempt = .accepted := by
    intro turn member
    rw [List.eq_of_mem_replicate member]
    rfl
  have paced : (Pacer.fromSender microsecondSender messageBytes).isBlast = false := by rfl
  rw [acceptingRun, senderLoop_paced ⟨32, false⟩ _ _ _ _ paced, List.length_mapIdx,
    acceptedRounds_all accepts, List.length_range', List.length_replicate]

theorem measuringRun_measured (messageBytes : UInt32) (accepted : List (List UInt8)) :
    ∀ delivery ∈ (measuringRun messageBytes accepted).emitted, delivery.phase = .measure :=
  receiverLoop_phase (measuringTurns_phase _)

theorem measuringRun_enough (accepted : List (List UInt8)) :
    accepted.length + (ByteSource.ofBytes accepted.flatten).pauses <
      (measuringTurns (accepted.length + 1)).length := by
  rw [ByteSource.ofBytes_pauses, measuringTurns, List.length_replicate]
  omega

/-- Two 32-byte messages. -/
theorem cleanPath_verdict_two :
    (aggregateRun id [(measuringRun 32 (acceptingRun 32 2)).state.metrics] 1 false).bytes.toNat =
      64 := by
  have two := acceptingRun_length 32 2
  have few : (acceptingRun 32 2).length < 2 ^ 64 := by rw [two]; decide
  have ran : (senderLoop ⟨32, false⟩ microsecondSender 32 0 _).accepted = acceptingRun 32 2 := rfl
  have verdict := cleanPath_verdict id 1 false (by decide) ran few
    (ByteSource.ofBytes_bytes (acceptingRun 32 2).flatten) (ByteSource.ofBytes_steady _)
    (measuringTurns_awake _) (measuringRun_enough _) (measuringRun_measured 32 (acceptingRun 32 2))
  obtain ⟨-, -, -, -, -, -, -, bytes⟩ := verdict
  rw [measuringRun, bytes, two]
  rfl

theorem acceptingRun_bytes (messageBytes : UInt32) (sized : 24 ≤ messageBytes.toNat) (n : Nat) :
    (aggregateRun id [(measuringRun messageBytes (acceptingRun messageBytes n)).state.metrics] 1
      false).bytes = UInt64.ofNat (n * messageBytes.toNat) := by
  have ran : (senderLoop ⟨32, false⟩ microsecondSender messageBytes 0 _).accepted =
      acceptingRun messageBytes n := rfl
  have total := (cleanPath_metrics sized ran
    (ByteSource.ofBytes_bytes (acceptingRun messageBytes n).flatten)
    (ByteSource.ofBytes_steady _) (measuringTurns_awake _) (measuringRun_enough _)
    (measuringRun_measured messageBytes (acceptingRun messageBytes n))).2.1
  have single := (aggregateRun_single id
    (measuringRun messageBytes (acceptingRun messageBytes n)).state.metrics 1 false).2.1
  have counted : (measuringRun messageBytes (acceptingRun messageBytes n)).state.metrics.bytes =
      UInt64.ofNat ((acceptingRun messageBytes n).length * messageBytes.toNat) := total
  rw [single, counted, acceptingRun_length]

/-- 2^44 messages of 1 MiB: the byte counter of the run reads 0. -/
theorem cleanPath_bytes_wrap :
    (acceptingRun 1048576 (2 ^ 44)).length < 2 ^ 64 ∧
      (∀ delivery ∈ (measuringRun 1048576 (acceptingRun 1048576 (2 ^ 44))).emitted,
        delivery.phase = .measure) ∧
      (aggregateRun id [(measuringRun 1048576 (acceptingRun 1048576 (2 ^ 44))).state.metrics]
        1 false).bytes.toNat ≠
          (acceptingRun 1048576 (2 ^ 44)).length * (1048576 : UInt32).toNat := by
  refine ⟨?_, measuringRun_measured _ _, ?_⟩
  · rw [acceptingRun_length]
    decide
  · rw [acceptingRun_bytes 1048576 (by decide) (2 ^ 44), acceptingRun_length]
    decide

end Seshat.Run
