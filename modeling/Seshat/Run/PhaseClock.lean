import Seshat.Run.SenderLoop
import Seshat.Workload.Receiver
import Mathlib.Tactic.Common

/-! The phase flag over time, and what a worker counts of the arrivals it looks at. -/

namespace Seshat.Run
open Workload Metrics

/-- The instants at which the main thread moves the phase flag on. -/
structure Clock where
  measureAt : Nat
  cooldownAt : Nat
  doneAt : Nat
  warms : measureAt ≤ cooldownAt
  cools : cooldownAt ≤ doneAt
  deriving DecidableEq, Repr

namespace Clock

/-- The flag at an instant. -/
def phase (clock : Clock) (t : Nat) : Phase :=
  if t < clock.measureAt then .warmup
  else if t < clock.cooldownAt then .measure
  else if t < clock.doneAt then .cooldown
  else .done

def Measuring (clock : Clock) (t : Nat) : Prop := clock.measureAt ≤ t ∧ t < clock.cooldownAt

theorem phase_measure (clock : Clock) (t : Nat) :
    clock.phase t = .measure ↔ clock.Measuring t := by
  unfold phase Measuring
  split_ifs <;> simp <;> omega

end Clock

/-- What enters the metrics of a worker. -/
inductive Entry where
  | message (stride : Nat) (msg : List UInt8) (recvNs : UInt64)
  | sample (seq latencyNs wireBytes : UInt64)
  deriving DecidableEq, Repr

def Entry.account (metrics : FlowMetrics) : Entry → FlowMetrics
  | .message stride msg recvNs => receive stride metrics msg recvNs
  | .sample seq latencyNs wireBytes => metrics.record seq latencyNs wireBytes

/-- Something that came in: when, the flag read that decides about it, if there is one, and
what it would enter. -/
structure StampedArrival where
  receivedAt : Nat
  flagAt : Option Nat
  entry : Option Entry
  deriving DecidableEq, Repr

/-- What an arrival does enter. -/
def StampedArrival.counted (clock : Clock) (arrival : StampedArrival) : Option Entry :=
  match arrival.flagAt with
  | some flagAt => if clock.phase flagAt = .measure then arrival.entry else none
  | none => arrival.entry

/-- The metrics after the counted ones of some arrivals. -/
def tally (clock : Clock) (metrics : FlowMetrics) (arrivals : List StampedArrival) : FlowMetrics :=
  (arrivals.filterMap (StampedArrival.counted clock)).foldl Entry.account metrics

theorem tally_append (clock : Clock) (metrics : FlowMetrics) (first second : List StampedArrival) :
    tally clock metrics (first ++ second) = tally clock (tally clock metrics first) second := by
  rw [tally, List.filterMap_append, List.foldl_append]
  rfl

end Seshat.Run
