import Seshat.Lib.Saturating
import Seshat.Metrics.Stats
import Mathlib.Data.List.Dedup

/-! Application-level metrics: sequence integrity, the accumulator a receiver feeds,
and the aggregation of a run's connections. Counters are 64-bit words that wrap, as
in a release build. -/

namespace Seshat.Metrics
open Lib.Saturating

/-- Throughput in decimal Gbit/s. -/
def throughputGbps (bytes : UInt64) (secs : ℚ) : ℚ :=
  if secs ≤ 0 then 0 else (bytes.toNat * 8 : ℚ) / 10 ^ 9 / secs

def messageRate (messages : UInt64) (secs : ℚ) : ℚ :=
  if secs ≤ 0 then 0 else messages.toNat / secs

structure Integrity where
  received : UInt64 := 0
  distinct : UInt64 := 0
  lost : UInt64 := 0
  duplicate : UInt64 := 0
  reordered : UInt64 := 0
  deriving DecidableEq, Repr

/-- What the scan over arrivals carries. -/
structure SeqScan where
  min : UInt64
  max : UInt64
  reordered : UInt64
  prev : UInt64
  deriving DecidableEq, Repr

/-- One arrival; the first one has no predecessor to fall behind. -/
def SeqScan.step (scan : SeqScan) (arrival : UInt64 × Nat) : SeqScan where
  min := if arrival.1 < scan.min then arrival.1 else scan.min
  max := if arrival.1 > scan.max then arrival.1 else scan.max
  reordered :=
    if arrival.2 > 0 ∧ arrival.1 < scan.prev then scan.reordered + 1 else scan.reordered
  prev := arrival.1

def SeqScan.over (first : UInt64) (seqs : List UInt64) : SeqScan :=
  seqs.zipIdx.foldl SeqScan.step
    { min := clampWord top, max := 0, reordered := 0, prev := first }

/-- Loss, duplicates and reordering of arrival-ordered sequence numbers. -/
def integrity (seqs : List UInt64) : Integrity :=
  match seqs with
  | [] => {}
  | first :: _ =>
      let scan := SeqScan.over first seqs
      let received := UInt64.ofNat seqs.length
      let distinct := UInt64.ofNat seqs.dedup.length
      let span := scan.max - scan.min + 1
      { received
        distinct
        lost := satSub span distinct
        duplicate := received - distinct
        reordered := scan.reordered }

/-- Mean absolute difference of consecutive latencies. -/
def jitter (latencies : List ℚ) : ℚ :=
  if latencies.length < 2 then 0
  else
    ((latencies.zip latencies.tail).map fun pair => |pair.2 - pair.1|).sum /
      (latencies.length - 1)

structure FlowMetrics where
  latenciesUs : List ℚ := []
  seqs : List UInt64 := []
  bytes : UInt64 := 0
  integrityFailures : UInt64 := 0
  boundaryViolations : UInt64 := 0
  durationS : ℚ := 0
  deriving DecidableEq, Repr

namespace FlowMetrics

def record (m : FlowMetrics) (seq latencyNs wireBytes : UInt64) : FlowMetrics :=
  { m with
    seqs := m.seqs ++ [seq]
    latenciesUs := m.latenciesUs ++ [(latencyNs.toNat : ℚ) / 1000]
    bytes := m.bytes + wireBytes }

def recordIntegrityFailure (m : FlowMetrics) : FlowMetrics :=
  { m with integrityFailures := m.integrityFailures + 1 }

def recordBoundaryViolation (m : FlowMetrics) : FlowMetrics :=
  { m with boundaryViolations := m.boundaryViolations + 1 }

end FlowMetrics

structure FlowSummary where
  messages : UInt64
  bytes : UInt64
  durationS : ℚ
  throughputGbps : ℚ
  messageRate : ℚ
  latencyUs : Summary
  jitterUs : ℚ
  integrity : Integrity
  integrityFailures : UInt64
  boundaryViolations : UInt64
  lossPct : ℚ
  outliersRemoved : Nat
  deriving DecidableEq, Repr

def lossPct (integ : Integrity) : ℚ :=
  (integ.lost.toNat : ℚ) / ((integ.distinct + integ.lost).toNat : ℚ) * 100

section Sqrt

variable (sqrt : ℚ → ℚ)

def FlowMetrics.finish (m : FlowMetrics) (removeOutliers : Bool) : FlowSummary :=
  let integ := integrity m.seqs
  let samples := if removeOutliers then removeOutliersIqr m.latenciesUs else (m.latenciesUs, 0)
  let messages := UInt64.ofNat m.seqs.length
  { messages
    bytes := m.bytes
    durationS := m.durationS
    throughputGbps := Metrics.throughputGbps m.bytes m.durationS
    messageRate := Metrics.messageRate messages m.durationS
    latencyUs := summarize sqrt samples.1
    jitterUs := jitter m.latenciesUs
    integrity := integ
    integrityFailures := m.integrityFailures
    boundaryViolations := m.boundaryViolations
    lossPct := if integ.received + integ.lost > 0 then Metrics.lossPct integ else 0
    outliersRemoved := samples.2 }

/-- What the aggregation loop carries over the connections of a run. -/
structure RunTotals where
  allLat : List ℚ := []
  bytes : UInt64 := 0
  integ : Integrity := {}
  jitterWeighted : ℚ := 0
  jitterWeight : UInt64 := 0
  integrityFailures : UInt64 := 0
  boundaryViolations : UInt64 := 0

def RunTotals.add (total : RunTotals) (m : FlowMetrics) : RunTotals :=
  let mi := integrity m.seqs
  { allLat := total.allLat ++ m.latenciesUs
    bytes := total.bytes + m.bytes
    integ :=
      { received := total.integ.received + mi.received
        distinct := total.integ.distinct + mi.distinct
        lost := total.integ.lost + mi.lost
        duplicate := total.integ.duplicate + mi.duplicate
        reordered := total.integ.reordered + mi.reordered }
    jitterWeighted := total.jitterWeighted + jitter m.latenciesUs * (mi.received.toNat : ℚ)
    jitterWeight := total.jitterWeight + mi.received
    integrityFailures := total.integrityFailures + m.integrityFailures
    boundaryViolations := total.boundaryViolations + m.boundaryViolations }

def aggregateRun (metrics : List FlowMetrics) (durationS : ℚ) (removeOutliers : Bool) :
    FlowSummary :=
  let total := metrics.foldl RunTotals.add {}
  let samples := if removeOutliers then removeOutliersIqr total.allLat else (total.allLat, 0)
  { messages := total.integ.received
    bytes := total.bytes
    durationS
    throughputGbps := Metrics.throughputGbps total.bytes durationS
    messageRate := Metrics.messageRate total.integ.received durationS
    latencyUs := summarize sqrt samples.1
    jitterUs :=
      if total.jitterWeight > 0 then total.jitterWeighted / (total.jitterWeight.toNat : ℚ) else 0
    integrity := total.integ
    integrityFailures := total.integrityFailures
    boundaryViolations := total.boundaryViolations
    lossPct := if total.integ.distinct + total.integ.lost > 0 then Metrics.lossPct total.integ else 0
    outliersRemoved := samples.2 }

end Sqrt

end Seshat.Metrics
