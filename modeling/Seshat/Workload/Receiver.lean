import Seshat.Metrics.App
import Seshat.Proto.Wire
import Mathlib.Tactic.Common

/-! What a receiver does with one message: check its size, decode, validate, record. -/

namespace Seshat.Workload
open Metrics Proto.Wire Lib.Saturating

/-- Decode and validate one message; only a valid one is recorded. -/
def ingest (metrics : FlowMetrics) (buf : List UInt8) (recvNs : UInt64) :
    Except WireError WireHeader × FlowMetrics :=
  match decodeMessage buf with
  | .error wrong => (.error wrong, metrics)
  | .ok hdr =>
      let latencyNs := satSub recvNs hdr.tsNs
      let wireBytes := UInt64.ofNat (headerLen + hdr.payloadLen.toNat)
      (.ok hdr, metrics.record hdr.seq latencyNs wireBytes)

/-- One message of a measured batch, as the receiver loops account for it. -/
def receive (stride : Nat) (metrics : FlowMetrics) (msg : List UInt8) (recvNs : UInt64) :
    FlowMetrics :=
  let metrics := if msg.length ≠ stride then metrics.recordBoundaryViolation else metrics
  match ingest metrics msg recvNs with
  | (.ok _, metrics) => metrics
  | (.error _, metrics) => metrics.recordIntegrityFailure

@[simp] theorem record_boundary (m : FlowMetrics) (seq latencyNs wireBytes : UInt64) :
    (m.record seq latencyNs wireBytes).boundaryViolations = m.boundaryViolations := rfl

@[simp] theorem recordIntegrityFailure_boundary (m : FlowMetrics) :
    m.recordIntegrityFailure.boundaryViolations = m.boundaryViolations := rfl

@[simp] theorem recordBoundaryViolation_boundary (m : FlowMetrics) :
    m.recordBoundaryViolation.boundaryViolations = m.boundaryViolations + 1 := rfl

theorem ingest_boundary (m : FlowMetrics) (msg : List UInt8) (recvNs : UInt64) :
    (ingest m msg recvNs).2.boundaryViolations = m.boundaryViolations := by
  unfold ingest
  split <;> rfl

/-- The size of a message decides about the violation, whatever it holds. -/
theorem receive_boundary (stride : Nat) (m : FlowMetrics) (msg : List UInt8) (recvNs : UInt64) :
    (receive stride m msg recvNs).boundaryViolations =
      if msg.length ≠ stride then m.boundaryViolations + 1 else m.boundaryViolations := by
  have kept (metrics : FlowMetrics) : (match ingest metrics msg recvNs with
      | (.ok _, metrics) => metrics
      | (.error _, metrics) => metrics.recordIntegrityFailure).boundaryViolations =
      metrics.boundaryViolations := by
    rw [← ingest_boundary metrics msg recvNs]
    generalize ingest metrics msg recvNs = result
    obtain ⟨decoded, recorded⟩ := result
    cases decoded with
    | error wrong => rfl
    | ok hdr => rfl
  refine (kept _).trans ?_
  split <;> rfl

/-- A whole message of the configured size is recorded and nothing else. -/
theorem receive_message {stride : Nat} (m : FlowMetrics) (hdr : WireHeader) (recvNs : UInt64)
    (size : hdr.total = stride) :
    receive stride m (message hdr) recvNs =
      m.record hdr.seq (satSub recvNs hdr.tsNs) (UInt64.ofNat stride) := by
  have exact_size : ¬(message hdr).length ≠ stride := by rw [message_length, size, not_not]
  simp only [receive, if_neg exact_size, ingest, decodeMessage_exact]
  rw [← size]
  rfl

/-- A whole message is recorded under its number, whatever size is expected. -/
theorem receive_seqs (stride : Nat) (m : FlowMetrics) (hdr : WireHeader) (recvNs : UInt64) :
    (receive stride m (message hdr) recvNs).seqs = m.seqs ++ [hdr.seq] := by
  simp only [receive, ingest, decodeMessage_exact]
  split <;> rfl

end Seshat.Workload
