import Seshat.Run.SenderLoop
import Seshat.Transport.FramedRun
import Seshat.Workload.Receiver
import Mathlib.Tactic.Common

/-! `receiver_loop` over a batch-receiving source. A round emits what the source
handed over in it; the metrics are a fold over these deliveries. -/

namespace Seshat.Run
open Workload Transport Metrics Proto.Wire Lib.Rounds

/-- A receiving transport as the loop uses it. -/
structure DataSource (σ : Type) where
  recvBatch : σ → Slots → (stride max : Nat) → Except ErrorKind BatchOutcome × Slots × σ
  preferredBatch : Nat

/-- The phase flag and the clock as one round reads them. -/
structure ReceiverTurn where
  phase : Phase
  recvNs : UInt64
  deriving DecidableEq, Repr

/-- A message handed over by the source, and when. -/
structure Delivery where
  phase : Phase
  recvNs : UInt64
  msg : List UInt8
  deriving DecidableEq, Repr

structure ReceiverState (σ : Type) where
  source : σ
  slots : Slots
  metrics : FlowMetrics

/-- Measured messages are accounted for, others only decoded. -/
def Delivery.account (stride : Nat) (metrics : FlowMetrics) (delivery : Delivery) : FlowMetrics :=
  if delivery.phase = .measure then receive stride metrics delivery.msg delivery.recvNs
  else metrics

section Loop

variable {σ : Type} (source : DataSource σ) (stride batch : Nat)

def receiverRound (state : ReceiverState σ) (turn : ReceiverTurn) :
    Round (ReceiverState σ) Delivery :=
  match source.recvBatch state.source state.slots stride batch with
  | (.ok (.messages count), slots, rest) =>
      let batchOf := (slots.carved stride count).map fun msg =>
        { phase := turn.phase, recvNs := turn.recvNs, msg }
      { state :=
          { source := rest, slots, metrics := batchOf.foldl (Delivery.account stride) state.metrics }
        emitted := batchOf
        again := true }
  | (.ok .timeout, slots, rest) =>
      { state := { state with source := rest, slots }
        emitted := []
        again := turn.phase ≠ .done }
  | (.ok .closed, slots, rest) =>
      { state := { state with source := rest, slots }, emitted := [], again := false }
  | (.error _, slots, rest) =>
      { state := { state with source := rest, slots }, emitted := [], again := false }

end Loop

/-- The batch buffer of a receiver. -/
def freshSlots (stride batch : Nat) : Slots where
  buf := List.replicate (stride * batch) 0
  lens := List.replicate batch 0

def receiverLoop {σ : Type} (source : DataSource σ) (start : σ) (messageBytes : UInt32)
    (turns : List ReceiverTurn) : Round (ReceiverState σ) Delivery :=
  let stride := messageBytes.toNat
  let batch := clampBatch source.preferredBatch
  rounds (receiverRound source stride batch)
    { source := start, slots := freshSlots stride batch, metrics := {} } turns

theorem receiverRound_metrics {σ : Type} (source : DataSource σ) (stride batch : Nat)
    (state : ReceiverState σ) (turn : ReceiverTurn) :
    (receiverRound source stride batch state turn).state.metrics =
      (receiverRound source stride batch state turn).emitted.foldl
        (Delivery.account stride) state.metrics := by
  unfold receiverRound
  split <;> rfl

/-- A delivery carries what its round read of the flag and the clock. -/
theorem receiverRound_turn {σ : Type} (source : DataSource σ) (stride batch : Nat)
    (state : ReceiverState σ) (turn : ReceiverTurn) :
    ∀ delivery ∈ (receiverRound source stride batch state turn).emitted,
      delivery.phase = turn.phase ∧ delivery.recvNs = turn.recvNs := by
  intro delivery member
  unfold receiverRound at member
  split at member
  · obtain ⟨msg, -, rfl⟩ := List.mem_map.mp member
    exact ⟨rfl, rfl⟩
  · simp at member
  · simp at member
  · simp at member

/-- The metrics of a receiver are those of the deliveries, in order. -/
theorem receiverRounds_metrics {σ : Type} (source : DataSource σ) (stride batch : Nat)
    (state : ReceiverState σ) (turns : List ReceiverTurn) :
    (rounds (receiverRound source stride batch) state turns).state.metrics =
      (rounds (receiverRound source stride batch) state turns).emitted.foldl
        (Delivery.account stride) state.metrics := by
  refine rounds_keeps (fun (next : ReceiverState σ) out => next.metrics =
    out.foldl (Delivery.account stride) state.metrics) (fun next out turn _ kept => ?_) rfl
  rw [List.foldl_append, ← kept, receiverRound_metrics]

theorem receiverLoop_phase {σ : Type} {source : DataSource σ} {start : σ} {messageBytes : UInt32}
    {turns : List ReceiverTurn} {phase : Phase} (same : ∀ turn ∈ turns, turn.phase = phase) :
    ∀ delivery ∈ (receiverLoop source start messageBytes turns).emitted,
      delivery.phase = phase := by
  refine rounds_keeps (fun _ (out : List Delivery) => ∀ delivery ∈ out, delivery.phase = phase)
    (fun state out turn member kept => ?_) nofun
  refine List.forall_mem_append.mpr ⟨kept, fun delivery emitted => ?_⟩
  rw [(receiverRound_turn _ _ _ state turn delivery emitted).1, same turn member]

/-- The turns of a receiver that measures throughout. -/
def measuringTurns (count : Nat) : List ReceiverTurn :=
  List.replicate count { phase := .measure, recvNs := 0 }

theorem measuringTurns_phase (count : Nat) :
    ∀ turn ∈ measuringTurns count, turn.phase = .measure := by
  intro turn member
  rw [List.eq_of_mem_replicate member]

theorem measuringTurns_awake (count : Nat) :
    ∀ turn ∈ measuringTurns count, turn.phase ≠ .done := by
  intro turn member
  rw [measuringTurns_phase count turn member]
  decide

end Seshat.Run
