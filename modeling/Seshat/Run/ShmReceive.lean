import Seshat.Run.StreamPath
import Seshat.Transport.ShmSource
import Mathlib.Tactic.Common

/-! `receiver_loop` over a shared-memory ring: which messages a run removes from the ring
and hands over to the metrics. -/

namespace Seshat.Run
open Workload Transport Metrics Proto.Wire Lib.Rounds

/-- `ShmSource`, with the batch it prefers. -/
def shmSource : DataSource ShmRing where
  recvBatch ring slots stride max :=
    match ring.recvBatch slots stride max with
    | (.ok outcome, slots, rest) => (.ok outcome, slots, rest)
    | (.error _, slots, rest) => (.error .other, slots, rest)
  preferredBatch := 32

/-- What a run has removed from the ring is what it has handed over. -/
def HandedOver (stride : Nat) (ring : ShmRing) (run : Round (ReceiverState ShmRing) Delivery) :
    Prop :=
  ring.messages.map (List.take stride) =
    run.emitted.map Delivery.msg ++ run.state.source.messages.map (List.take stride)

/-- Every removed message is handed over and accounted for. -/
structure AllRecorded (stride : Nat) (ring : ShmRing)
    (run : Round (ReceiverState ShmRing) Delivery) : Prop where
  handed : HandedOver stride ring run
  recorded : run.state.metrics = run.emitted.foldl (Delivery.account stride) {}

/-- A receive with room for a message meets an error behind the first message it takes. -/
def losesBatch (stride batch : Nat) (ring : ShmRing) : Bool :=
  stride ≠ 0 && ring.failsMidBatch batch

/-- No receive of a run meets an error behind a message of its batch. -/
def NoMidBatchError (stride batch : Nat) (state : ReceiverState ShmRing) :
    List ReceiverTurn → Prop
  | [] => True
  | turn :: rest =>
      losesBatch stride batch state.source = false ∧
        ((receiverRound shmSource stride batch state turn).again = true →
          NoMidBatchError stride batch (receiverRound shmSource stride batch state turn).state rest)

section Rounds

variable {stride batch : Nat}

/-- Slots of the shape the loop allocates. -/
def BatchShaped (stride batch : Nat) (slots : Slots) : Prop :=
  slots.SameShape (freshSlots stride batch)

theorem BatchShaped.cap {slots : Slots} (shaped : BatchShaped stride batch slots)
    (positive : 0 < stride) :
    min (min batch (slots.buf.length / stride)) slots.lens.length = batch := by
  rw [shaped.1, shaped.2, freshSlots, List.length_replicate, List.length_replicate,
    Nat.mul_div_cancel_left batch positive, Nat.min_self, Nat.min_self]

/-- What a round may do to the ring; `dropped` is a batch that is lost. -/
inductive ShmStep (stride batch : Nat) (state : ReceiverState ShmRing) :
    (dropped : Bool) → Round (ReceiverState ShmRing) Delivery → Prop
  | hands (taken : List (List UInt8)) (emitted : List Delivery)
      (next : ReceiverState ShmRing) (shaped : BatchShaped stride batch next.slots)
      (msgs : emitted.map Delivery.msg = taken.map (List.take stride))
      (messages : state.source.messages = taken ++ next.source.messages) :
      ShmStep stride batch state false { state := next, emitted, again := true }
  | rests (next : ReceiverState ShmRing) (again : Bool)
      (shaped : BatchShaped stride batch next.slots)
      (messages : state.source.messages = next.source.messages) :
      ShmStep stride batch state false { state := next, emitted := [], again }
  | drops (taken : List (List UInt8)) (some_taken : taken ≠ []) (next : ReceiverState ShmRing)
      (messages : state.source.messages = taken ++ next.source.messages) :
      ShmStep stride batch state true { state := next, emitted := [], again := false }

theorem receiverRound_shm (some_slot : 0 < batch) {state : ReceiverState ShmRing}
    (shaped : BatchShaped stride batch state.slots) (turn : ReceiverTurn) :
    ShmStep stride batch state (losesBatch stride batch state.source)
      (receiverRound shmSource stride batch state turn) := by
  by_cases zero : stride = 0
  · subst zero
    have idle : state.source.recvBatch state.slots 0 batch =
        (.ok .timeout, state.slots, state.source) := if_pos (Or.inr (Or.inl rfl))
    simp only [receiverRound, shmSource, idle]
    exact .rests _ _ shaped rfl
  have positive := Nat.pos_of_ne_zero zero
  rw [losesBatch, decide_eq_true zero, Bool.true_and]
  have received := ShmRing.recvBatch_received state.source
    (Slots.Usable.congr shaped (freshSlots_usable positive some_slot))
  rw [shaped.cap positive] at received
  simp only [receiverRound, shmSource]
  generalize state.source.failsMidBatch batch = dropped at received ⊢
  generalize state.source.recvBatch state.slots stride batch = result at received ⊢
  cases received with
  | messages taken given rest same carved messages =>
    refine .hands taken _ _ ⟨same.1.trans shaped.1, same.2.trans shaped.2⟩ ?_ messages
    rw [carved, List.map_map]
    exact List.map_id _
  | reports outcome rest nothing messages =>
    cases outcome with
    | error e => exact .rests _ _ shaped messages
    | ok outcome =>
      cases outcome with
      | messages n => exact absurd rfl (nothing n)
      | timeout => exact .rests _ _ shaped messages
      | closed => exact .rests _ _ shaped messages
  | drops error taken some_taken given rest same messages =>
    exact .drops taken some_taken _ messages

/-- A batch that is handed over leaves the rest of the run to hand over the rest. -/
theorem HandedOver.append {ring rest : ShmRing} {taken : List (List UInt8)}
    {emitted : List Delivery} (msgs : emitted.map Delivery.msg = taken.map (List.take stride))
    (messages : ring.messages = taken ++ rest.messages)
    (later : Round (ReceiverState ShmRing) Delivery) :
    HandedOver stride ring
        { state := later.state, emitted := emitted ++ later.emitted, again := later.again } ↔
      HandedOver stride rest later := by
  unfold HandedOver
  rw [messages, List.map_append, List.map_append, msgs, List.append_assoc, List.append_right_inj]

/-- A run hands over what it removes exactly if no receive meets an error behind a message
of its batch. -/
theorem shmRounds_handedOver (some_slot : 0 < batch) {state : ReceiverState ShmRing}
    (shaped : BatchShaped stride batch state.slots) (turns : List ReceiverTurn) :
    HandedOver stride state.source (rounds (receiverRound shmSource stride batch) state turns) ↔
      NoMidBatchError stride batch state turns := by
  induction turns generalizing state with
  | nil => exact iff_of_true rfl trivial
  | cons turn rest ih =>
    have step := receiverRound_shm some_slot shaped turn
    rw [NoMidBatchError]
    generalize losesBatch stride batch state.source = lost at step ⊢
    generalize played : receiverRound shmSource stride batch state turn = round at step ⊢
    cases step with
    | hands taken emitted next shaped msgs messages =>
      rw [rounds_again (by rw [played]), played]
      refine (HandedOver.append msgs messages _).trans ((ih shaped).trans ?_)
      exact ⟨fun later => ⟨rfl, fun _ => later⟩, fun clean => clean.2 rfl⟩
    | rests next again shaped messages =>
      cases again with
      | true =>
        rw [rounds_again (by rw [played]), played]
        refine (@HandedOver.append _ _ _ [] [] rfl messages _).trans ((ih shaped).trans ?_)
        exact ⟨fun later => ⟨rfl, fun _ => later⟩, fun clean => clean.2 rfl⟩
      | false =>
        rw [rounds_break (by rw [played]), played]
        refine iff_of_true ?_ ⟨rfl, nofun⟩
        rw [HandedOver, messages]
        rfl
    | drops taken some_taken next messages =>
      rw [rounds_break (by rw [played]), played]
      refine iff_of_false (fun handed => ?_) (fun clean => absurd clean.1 (by decide))
      unfold HandedOver at handed
      dsimp only at handed
      rw [messages, List.map_append, List.map_nil, List.nil_append, List.append_left_eq_self] at handed
      exact some_taken (List.map_eq_nil_iff.mp handed)

end Rounds

/-- The receiver's first state in front of a ring. -/
def shmStart (ring : ShmRing) (messageBytes : UInt32) : ReceiverState ShmRing where
  source := ring
  slots := freshSlots messageBytes.toNat (clampBatch shmSource.preferredBatch)
  metrics := {}

/-- Every message a run removes from the ring is recorded exactly if no receive of the run
meets an error behind a message of its batch. -/
theorem receiverLoop_shm_recorded (ring : ShmRing) (messageBytes : UInt32)
    (turns : List ReceiverTurn) :
    AllRecorded messageBytes.toNat ring (receiverLoop shmSource ring messageBytes turns) ↔
      NoMidBatchError messageBytes.toNat (clampBatch shmSource.preferredBatch)
        (shmStart ring messageBytes) turns := by
  have handed := shmRounds_handedOver (clampBatch_pos shmSource.preferredBatch)
    (show BatchShaped messageBytes.toNat _ (shmStart ring messageBytes).slots from ⟨rfl, rfl⟩) turns
  constructor
  · intro all
    exact handed.mp all.handed
  · intro clean
    exact ⟨handed.mpr clean, receiverRounds_metrics shmSource _ _ _ turns⟩

/-- A header-only message, then an error of the client: the message is taken and lost. -/
theorem receiverLoop_shm_drops :
    let header : WireHeader := { seq := 0, tsNs := 0, payloadLen := 0 }
    let ring : ShmRing := [.message header.bytes, .fails "channel closed"]
    ¬AllRecorded 24 ring (receiverLoop shmSource ring 24 (measuringTurns 1)) := by
  intro header ring all
  have clean := (shmRounds_handedOver (clampBatch_pos shmSource.preferredBatch)
    (show BatchShaped 24 _ (shmStart ring 24).slots from ⟨rfl, rfl⟩) (measuringTurns 1)).mp
      all.handed
  exact absurd clean.1 (by decide)

end Seshat.Run
