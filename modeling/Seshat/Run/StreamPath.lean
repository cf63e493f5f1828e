import Seshat.Run.ReceiverLoop
import Mathlib.Tactic.Common

/-! The stream receive path: `receiver_loop` over a framed reader. Whatever the reads
look like, the loop hands over the frames of the stream in order, each as far as its
slot reaches. -/

namespace Seshat.Run
open Workload Transport Metrics Proto.Wire Lib.Rounds Lib.Framing

/-- `BATCH_BYTES_BUDGET` filled with messages, between `BATCH_MAX` and `BATCH_ABS_MAX`. -/
def streamBatchSize (messageBytes : UInt32) : Nat :=
  min (max (256 * 1024 / max messageBytes.toNat 1) 32) batchAbsMax

/-- `TcpSource`. -/
def tcpSource (messageBytes : UInt32) : DataSource (FramedReader × ByteSource) where
  recvBatch source slots stride max :=
    let result := source.1.recvBatch slots stride max source.2
    (result.1, result.2.1, result.2.2.1, result.2.2.2)
  preferredBatch := streamBatchSize messageBytes

theorem clampBatch_pos (preferred : Nat) : 0 < clampBatch preferred := by
  unfold clampBatch batchAbsMax
  omega

theorem freshSlots_usable {stride batch : Nat} (positive : 0 < stride) (some_slot : 0 < batch) :
    (freshSlots stride batch).Usable stride batch := by
  refine ⟨some_slot, positive, ?_, ?_⟩
  · rw [freshSlots, List.length_replicate]
    exact Nat.le_mul_of_pos_right stride some_slot
  · rwa [freshSlots, List.length_replicate]

theorem message_fits (messageBytes : UInt32) {size : Nat} (small : size ≤ messageBytes.toNat) :
    size ≤ (FramedReader.new messageBytes).buf.length := by
  simp only [FramedReader.new, List.length_replicate]
  omega

section Rounds

variable (messageBytes : UInt32) {stride batch : Nat}

/-- What a round over a steady stream may do. -/
inductive StreamStep (stride batch : Nat) (state : ReceiverState (FramedReader × ByteSource))
    (turn : ReceiverTurn) : Round (ReceiverState (FramedReader × ByteSource)) Delivery → Prop
  | delivers (list : List (List UInt8))
      (next : ReceiverState (FramedReader × ByteSource)) (some_found : list ≠ [])
      (kept : next.slots.Usable stride batch)
      (pauses : next.source.2.pauses = state.source.2.pauses)
      (progress : FramedReader.Progress state.source.1 state.source.2 list
        next.source.1 next.source.2) :
      StreamStep stride batch state turn
        { state := next
          emitted := (list.map (List.take stride)).map fun msg =>
            { phase := turn.phase, recvNs := turn.recvNs, msg }
          again := true }
  | idle (next : ReceiverState (FramedReader × ByteSource))
      (kept : next.slots.Usable stride batch)
      (pauses : next.source.2.pauses + 1 = state.source.2.pauses)
      (progress : FramedReader.Progress state.source.1 state.source.2 []
        next.source.1 next.source.2) :
      StreamStep stride batch state turn
        { state := next, emitted := [], again := turn.phase ≠ .done }
  | ended (next : ReceiverState (FramedReader × ByteSource))
      (progress : FramedReader.Progress state.source.1 state.source.2 []
        next.source.1 next.source.2)
      (nothing : state.source.1.remaining state.source.2 = []) :
      StreamStep stride batch state turn { state := next, emitted := [], again := false }

theorem receiverRound_stream (state : ReceiverState (FramedReader × ByteSource))
    (turn : ReceiverTurn) (usable : state.slots.Usable stride batch)
    (holds : headerLen ≤ state.source.1.buf.length) (steady : state.source.2.Steady) :
    StreamStep stride batch state turn
      (receiverRound (tcpSource messageBytes) stride batch state turn) := by
  have polled := FramedReader.recvBatch_polled state.source.1 state.source.2 usable holds steady
  simp only [receiverRound, tcpSource]
  generalize state.source.1.recvBatch state.slots stride batch state.source.2 = result at polled
  cases polled with
  | delivers n given next rest list some_found seen kept pauses progress =>
    simp only [seen]
    exact .delivers list _ some_found kept pauses progress
  | idle given next rest kept pauses progress => exact .idle _ kept pauses progress
  | ended given next kept pauses progress nothing =>
    refine .ended _ progress ?_
    rw [progress.remaining, nothing]
    rfl

/-- A run that is not told to stop, and lasts a round for each frame and each idle read
and one more, hands over every frame still to come. -/
theorem receiverRounds_complete {turns : List ReceiverTurn}
    {state : ReceiverState (FramedReader × ByteSource)}
    (usable : state.slots.Usable stride batch) (holds : headerLen ≤ state.source.1.buf.length)
    (steady : state.source.2.Steady) (awake : ∀ turn ∈ turns, turn.phase ≠ .done)
    (enough : (state.source.1.remaining state.source.2).length + state.source.2.pauses <
      turns.length) :
    (rounds (receiverRound (tcpSource messageBytes) stride batch) state turns).emitted.map
      Delivery.msg = (state.source.1.remaining state.source.2).map (List.take stride) := by
  induction turns generalizing state with
  | nil => simp at enough
  | cons turn rest ih =>
    have step := receiverRound_stream messageBytes state turn usable holds steady
    have stays_awake : ∀ other ∈ rest, other.phase ≠ .done :=
      fun other member => awake other (List.mem_cons_of_mem _ member)
    rw [List.length_cons] at enough
    generalize played : receiverRound (tcpSource messageBytes) stride batch state turn = result
      at step
    cases step with
    | delivers list next some_found kept pauses progress =>
      have taken := List.length_pos_iff.mpr some_found
      have left := congrArg List.length progress.remaining
      rw [List.length_append] at left
      have later := ih kept (by rw [progress.sameRoom]; exact holds) (progress.steady steady)
        stays_awake (by omega)
      rw [rounds_again (by rw [played]), played, List.map_append, later, progress.remaining,
        List.map_append, List.map_map]
      simp
    | idle next kept pauses progress =>
      have left := congrArg List.length progress.remaining
      rw [List.length_append, List.length_nil] at left
      have later := ih kept (by rw [progress.sameRoom]; exact holds) (progress.steady steady)
        stays_awake (by omega)
      have runs_on : decide (turn.phase ≠ .done) = true :=
        decide_eq_true (awake turn List.mem_cons_self)
      rw [rounds_again (by rw [played]; exact runs_on), played, List.map_append, later,
        progress.remaining]
      rfl
    | ended next progress nothing =>
      rw [rounds_break (by rw [played]), played, nothing]
      rfl

end Rounds

/-- The whole stream path: a fresh reader in front of a steady source. -/
theorem receiverLoop_stream {messageBytes : UInt32} (sized : 0 < messageBytes.toNat)
    {src : ByteSource} (steady : src.Steady) {turns : List ReceiverTurn}
    (awake : ∀ turn ∈ turns, turn.phase ≠ .done)
    (enough : ((FramedReader.new messageBytes).remaining src).length + src.pauses <
      turns.length) :
    (receiverLoop (tcpSource messageBytes) (.new messageBytes, src) messageBytes
      turns).emitted.map Delivery.msg =
        ((FramedReader.new messageBytes).remaining src).map (List.take messageBytes.toNat) :=
  receiverRounds_complete messageBytes (freshSlots_usable sized (clampBatch_pos _))
    (FramedReader.new_holds messageBytes) steady awake enough

end Seshat.Run
