import Seshat.Lib.Rounds
import Seshat.Transport.ByteSource
import Seshat.Workload.Builder
import Seshat.Workload.Pacer
import Mathlib.Tactic.Common

/-! `sender_loop`: the three branches that number, build and hand over messages. A
turn holds everything the environment answers in one round of a branch: phase reads,
clock reads and the sink's replies. What a round emits is what the sink accepted. -/

namespace Seshat.Run
open Config Workload Transport Proto.Wire Lib.Rounds Lib.Saturating

inductive Phase where
  | warmup
  | measure
  | cooldown
  | done
  deriving DecidableEq, Repr

/-- `BATCH_ABS_MAX`, the bound of one vectored write. -/
def batchAbsMax : Nat := 1024

def clampBatch (preferred : Nat) : Nat := min (max preferred 1) batchAbsMax

/-- A ring slot lent for in-place production: `len` bytes of whatever it held before. -/
abbrev RingSlot (len : Nat) := { slot : List UInt8 // slot.length = len }

/-- What a sink is asked once, before the loop. -/
structure SinkTraits where
  preferredBatch : Nat
  supportsInplace : Bool
  deriving DecidableEq, Repr

/-- The environment of one round, for messages of `messageBytes` in batches of `batch`. -/
structure SenderTurn (messageBytes : UInt32) (batch : Nat) where
  phase : Phase
  /-- The phase read behind the paced branch's sleep, and the one that decides
  whether the lag is recorded. -/
  phaseAwake : Phase
  phaseSending : Phase
  /-- The clock reads of the round. -/
  nowNs : Nat → UInt64
  reserve : Nat → Option (RingSlot (clampedSize messageBytes).toNat)
  commitBatched : Nat → Except ErrorKind Bool
  flushBatch : Except ErrorKind Unit
  /-- `send_batch` accepts a front of the batch. -/
  sendBatch : Except ErrorKind (Fin (batch + 1))
  /-- `commit_reserved` or `send_msg` of the paced branch. -/
  sendOne : Except ErrorKind Unit

section Branches

variable {messageBytes : UInt32} {batch : Nat}

/-- The slot loop of the zero-copy blast from slot `i` on, `left` slots to go: the
messages published before a reserve or commit was refused. -/
def fillSlots (builder : MessageBuilder messageBytes) (turn : SenderTurn messageBytes batch)
    (seq : UInt64) (i : Nat) : Nat → List (List UInt8)
  | 0 => []
  | left + 1 =>
      match turn.reserve i with
      | none => []
      | some slot =>
          match turn.commitBatched i with
          | .ok true =>
              builder.buildInto (seq + UInt64.ofNat i) (turn.nowNs i) slot.1 ::
                fillSlots builder turn seq (i + 1) left
          | _ => []

def inplaceRound (builder : MessageBuilder messageBytes) (seq : UInt64)
    (turn : SenderTurn messageBytes batch) : Round UInt64 (List UInt8) :=
  if turn.phase = .done then { state := seq, emitted := [], again := false }
  else
    let sent := fillSlots builder turn seq 0 batch
    if sent.length > 0 then
      match turn.flushBatch with
      | .error _ => { state := seq, emitted := sent, again := false }
      | .ok () => { state := seq + UInt64.ofNat sent.length, emitted := sent, again := true }
    else { state := seq, emitted := [], again := true }

/-- The batched branch's counter, and its builder with one buffer for each message of a
batch. -/
structure BatchState (messageBytes : UInt32) (batch : Nat) where
  seq : UInt64
  builder : BatchBuilder messageBytes
  staged : batch ≤ builder.bufs.length

def batchRound (state : BatchState messageBytes batch) (turn : SenderTurn messageBytes batch) :
    Round (BatchState messageBytes batch) (List UInt8) :=
  if turn.phase = .done then { state, emitted := [], again := false }
  else
    let built := state.builder.build state.seq batch turn.nowNs
    have staged := (state.builder.build_bufs state.seq batch turn.nowNs).symm ▸ state.staged
    match turn.sendBatch with
    | .ok n =>
        { state := { seq := state.seq + UInt64.ofNat n.val, builder := built.2, staged }
          emitted := built.1.take n.val
          again := true }
    | .error _ =>
        { state := { seq := state.seq, builder := built.2, staged }, emitted := [], again := false }

structure PacedState (messageBytes : UInt32) where
  pacer : Pacer
  seq : UInt64
  builder : MessageBuilder messageBytes
  lag : SendLag

/-- The message a paced round offers: built in a lent slot, else in the builder's buffer. -/
def offer (builder : MessageBuilder messageBytes) (seq deadline : UInt64) :
    Option (RingSlot (clampedSize messageBytes).toNat) → List UInt8 × MessageBuilder messageBytes
  | some slot => (builder.buildInto seq deadline slot.1, builder)
  | none => builder.buildAt seq deadline

def pacedRound (start : UInt64) (state : PacedState messageBytes)
    (turn : SenderTurn messageBytes batch) : Round (PacedState messageBytes) (List UInt8) :=
  if turn.phase = .done then { state, emitted := [], again := false }
  else
    let next := state.pacer.nextDeadlineNs
    let deadline := start + next.1
    let woke := turn.nowNs 0
    if turn.phaseAwake = .done then
      { state := { state with pacer := next.2 }, emitted := [], again := false }
    else
      let msg := offer state.builder state.seq deadline (turn.reserve 0)
      let state := { state with pacer := next.2, builder := msg.2 }
      match turn.sendOne with
      | .ok () =>
          let lag :=
            if turn.phaseSending = .measure then state.lag.record (satSub woke deadline)
            else state.lag
          { state := { state with lag, seq := state.seq + 1 }, emitted := [msg.1], again := true }
      | .error .wouldBlock => { state, emitted := [], again := true }
      | .error _ => { state, emitted := [], again := false }

end Branches

/-- What a sender thread leaves behind: the messages its sink accepted, and its lag. -/
structure SenderRun where
  accepted : List (List UInt8)
  lag : SendLag
  running : Bool

def senderLoop (sink : SinkTraits) (spec : Sender) (messageBytes : UInt32) (start : UInt64)
    (turns : List (SenderTurn messageBytes (clampBatch sink.preferredBatch))) : SenderRun :=
  let pacer := Pacer.fromSender spec messageBytes
  let batch := clampBatch sink.preferredBatch
  if pacer.isBlast then
    if sink.supportsInplace then
      let run := rounds (inplaceRound (.new messageBytes)) 0 turns
      { accepted := run.emitted, lag := {}, running := run.again }
    else
      let builder := BatchBuilder.new messageBytes batch
      have staged : batch ≤ builder.bufs.length := by simp [builder, BatchBuilder.new]
      let run := rounds batchRound { seq := 0, builder, staged } turns
      { accepted := run.emitted, lag := {}, running := run.again }
  else
    let builder := MessageBuilder.new messageBytes
    let run := rounds (pacedRound start) { pacer, seq := 0, builder, lag := {} } turns
    { accepted := run.emitted, lag := run.state.lag, running := run.again }

/-! Every branch numbers what the sink accepts without a gap. -/

section Branches

variable {messageBytes : UInt32} {batch : Nat}

theorem fillSlots_numbered (builder : MessageBuilder messageBytes)
    (turn : SenderTurn messageBytes batch) (seq : UInt64) (i left : Nat) :
    Numbered (Carries messageBytes) (· + 1) (seq + UInt64.ofNat i)
      (fillSlots builder turn seq i left) := by
  induction left generalizing i with
  | zero => trivial
  | succ left ih =>
    rw [fillSlots]
    split
    · trivial
    · next slot lent =>
      split
      · refine ⟨⟨turn.nowNs i, builder.buildInto_message _ _ slot.2⟩, ?_⟩
        have later := ih (i + 1)
        rwa [UInt64.ofNat_add, ← UInt64.add_assoc] at later
      · trivial

/-- A round that numbers what it emits from `seq` on, and goes on behind it. -/
structure Counts (messageBytes : UInt32) (seq next : UInt64) (emitted : List (List UInt8))
    (again : Bool) : Prop where
  numbered : Numbered (Carries messageBytes) (· + 1) seq emitted
  advances : again = true → next = (· + 1)^[emitted.length] seq

theorem Counts.breaks (seq next : UInt64) : Counts messageBytes seq next [] false :=
  ⟨trivial, fun again => absurd again (by decide)⟩

theorem inplaceRound_counts (builder : MessageBuilder messageBytes) (seq : UInt64)
    (turn : SenderTurn messageBytes batch) :
    Counts messageBytes seq (inplaceRound builder seq turn).state
      (inplaceRound builder seq turn).emitted (inplaceRound builder seq turn).again := by
  have slots := fillSlots_numbered builder turn seq 0 batch
  rw [show UInt64.ofNat 0 = 0 from rfl, UInt64.add_zero] at slots
  unfold inplaceRound
  by_cases ended : turn.phase = .done
  · rw [if_pos ended]
    exact .breaks seq seq
  rw [if_neg ended]
  dsimp only
  by_cases some_sent : (fillSlots builder turn seq 0 batch).length > 0
  · rw [if_pos some_sent]
    cases turn.flushBatch with
    | error kind => exact ⟨slots, fun again => absurd again (by simp)⟩
    | ok done => exact ⟨slots, fun _ => (succ_iterate seq _).symm⟩
  · rw [if_neg some_sent]
    exact ⟨trivial, fun _ => rfl⟩

theorem staged_numbered (messageBytes : UInt32) (seq : UInt64) (clock : Nat → UInt64)
    (i count : Nat) :
    Numbered (Carries messageBytes) (· + 1) (seq + UInt64.ofNat i)
      ((List.range' i count).map fun k =>
        message (stamped messageBytes (seq + UInt64.ofNat k) (clock k))) := by
  induction count generalizing i with
  | zero => trivial
  | succ count ih =>
    rw [List.range'_succ, List.map_cons]
    refine ⟨⟨clock i, rfl⟩, ?_⟩
    have later := ih (i + 1)
    rwa [UInt64.ofNat_add, ← UInt64.add_assoc] at later

theorem batchRound_counts (state : BatchState messageBytes batch)
    (turn : SenderTurn messageBytes batch) :
    Counts messageBytes state.seq (batchRound state turn).state.seq
      (batchRound state turn).emitted (batchRound state turn).again := by
  have built := state.builder.build_messages state.seq batch turn.nowNs
  have size := congrArg List.length built
  rw [List.length_map, List.length_range', Nat.min_eq_left state.staged] at size
  have all := staged_numbered messageBytes state.seq turn.nowNs 0
    (min batch state.builder.bufs.length)
  rw [show UInt64.ofNat 0 = 0 from rfl, UInt64.add_zero, ← built] at all
  unfold batchRound
  by_cases ended : turn.phase = .done
  · rw [if_pos ended]
    exact .breaks _ _
  rw [if_neg ended]
  dsimp only
  cases turn.sendBatch with
  | error kind => exact .breaks _ _
  | ok n =>
    refine ⟨all.take n.val, fun _ => ?_⟩
    have fits := n.isLt
    rw [succ_iterate, List.length_take, size, Nat.min_eq_left (by omega)]

theorem offer_message (builder : MessageBuilder messageBytes) (seq deadline : UInt64)
    (slot : Option (RingSlot (clampedSize messageBytes).toNat)) :
    (offer builder seq deadline slot).1 = message (stamped messageBytes seq deadline) := by
  cases slot with
  | none => exact builder.buildAt_message seq deadline
  | some slot => exact builder.buildInto_message seq deadline slot.2

/-- How a paced round ends. -/
inductive Attempt where
  | accepted
  | refused
  | breaks
  deriving DecidableEq, Repr

def SenderTurn.attempt (turn : SenderTurn messageBytes batch) : Attempt :=
  if turn.phase = .done ∨ turn.phaseAwake = .done then .breaks
  else
    match turn.sendOne with
    | .ok () => .accepted
    | .error .wouldBlock => .refused
    | .error _ => .breaks

/-- What a paced round may do. -/
inductive PacedStep (start : UInt64) (state : PacedState messageBytes) :
    Attempt → Round (PacedState messageBytes) (List UInt8) → Prop
  | breaks (next : PacedState messageBytes) :
      PacedStep start state .breaks { state := next, emitted := [], again := false }
  | refused (next : PacedState messageBytes) (seq : next.seq = state.seq)
      (pacer : next.pacer = state.pacer.nextDeadlineNs.2) :
      PacedStep start state .refused { state := next, emitted := [], again := true }
  | accepted (next : PacedState messageBytes) (seq : next.seq = state.seq + 1)
      (pacer : next.pacer = state.pacer.nextDeadlineNs.2) :
      PacedStep start state .accepted
        { state := next
          emitted := [message (stamped messageBytes state.seq (start + state.pacer.nextNs))]
          again := true }

theorem pacedRound_step (start : UInt64) (state : PacedState messageBytes)
    (turn : SenderTurn messageBytes batch) :
    PacedStep start state turn.attempt (pacedRound start state turn) := by
  unfold pacedRound SenderTurn.attempt
  by_cases ended : turn.phase = .done
  · rw [if_pos ended, if_pos (Or.inl ended)]
    exact .breaks _
  rw [if_neg ended]
  dsimp only
  by_cases awake : turn.phaseAwake = .done
  · rw [if_pos awake, if_pos (Or.inr awake)]
    exact .breaks _
  rw [if_neg awake, if_neg (not_or.mpr ⟨ended, awake⟩)]
  match turn.sendOne with
  | .ok () =>
    rw [offer_message, Pacer.nextDeadlineNs_fst]
    exact .accepted _ rfl rfl
  | .error .wouldBlock => exact .refused _ rfl rfl
  | .error .timedOut => exact .breaks _
  | .error .interrupted => exact .breaks _
  | .error .invalidData => exact .breaks _
  | .error .other => exact .breaks _

theorem pacedRound_counts (start : UInt64) (state : PacedState messageBytes)
    (turn : SenderTurn messageBytes batch) :
    Counts messageBytes state.seq (pacedRound start state turn).state.seq
      (pacedRound start state turn).emitted (pacedRound start state turn).again := by
  have step := pacedRound_step start state turn
  generalize pacedRound start state turn = result at step
  generalize turn.attempt = attempt at step
  cases step with
  | breaks next => exact .breaks _ _
  | refused next seq pacer => exact ⟨trivial, fun _ => seq⟩
  | accepted next seq pacer => exact ⟨⟨⟨_, rfl⟩, trivial⟩, fun _ => seq⟩

end Branches

theorem senderLoop_numbered (sink : SinkTraits) (spec : Sender) (messageBytes : UInt32)
    (start : UInt64) (turns : List (SenderTurn messageBytes (clampBatch sink.preferredBatch))) :
    Numbered (Carries messageBytes) (· + 1) 0
      (senderLoop sink spec messageBytes start turns).accepted := by
  unfold senderLoop
  dsimp only
  split
  · split
    · exact rounds_numbered _ id (fun seq turn => (inplaceRound_counts _ seq turn).numbered)
        (fun seq turn => (inplaceRound_counts _ seq turn).advances) 0 turns
    · exact rounds_numbered _ BatchState.seq (fun state turn => (batchRound_counts state turn).numbered)
        (fun state turn => (batchRound_counts state turn).advances)
        { seq := 0, builder := _, staged := _ } turns
  · exact rounds_numbered _ PacedState.seq
      (fun state turn => (pacedRound_counts start state turn).numbered)
      (fun state turn => (pacedRound_counts start state turn).advances)
      { pacer := _, seq := 0, builder := _, lag := _ } turns

/-! The paced branch: which deadline each accepted message is stamped with. -/

section Paced

variable {messageBytes : UInt32} {batch : Nat}

/-- The rounds, counted from `round`, in which the sink accepted a message before the
loop broke. -/
def acceptedRounds (round : Nat) : List (SenderTurn messageBytes batch) → List Nat
  | [] => []
  | turn :: rest =>
      match turn.attempt with
      | .accepted => round :: acceptedRounds (round + 1) rest
      | .refused => acceptedRounds (round + 1) rest
      | .breaks => []

/-- The pacer moves on in every round, the sequence number only in accepted ones. -/
theorem pacedRounds_emitted (start : UInt64) (pacer : Pacer) {round : Nat}
    {state : PacedState messageBytes} (at_round : state.pacer = pacer.after round)
    (turns : List (SenderTurn messageBytes batch)) :
    (rounds (pacedRound start) state turns).emitted =
      (acceptedRounds round turns).mapIdx fun k j =>
        message (stamped messageBytes (state.seq + UInt64.ofNat k) (start + pacer.deadline j)) := by
  induction turns generalizing round state with
  | nil => rfl
  | cons turn rest ih =>
    have step := pacedRound_step start state turn
    rw [acceptedRounds]
    generalize attempted : turn.attempt = attempt at step
    generalize played : pacedRound start state turn = result at step
    cases step with
    | breaks next =>
      rw [rounds_break (by rw [played]), played]
      rfl
    | refused next seq moved =>
      have later : next.pacer = pacer.after (round + 1) := by rw [moved, at_round]; rfl
      rw [rounds_again (by rw [played]), played, ih later, seq]
      rfl
    | accepted next seq moved =>
      have later : next.pacer = pacer.after (round + 1) := by rw [moved, at_round]; rfl
      have shift (k : Nat) : state.seq + UInt64.ofNat (k + 1) =
          state.seq + 1 + UInt64.ofNat k := by
        rw [Nat.add_comm, UInt64.ofNat_add, ← UInt64.add_assoc]
        rfl
      rw [rounds_again (by rw [played]), played, ih later, seq, List.mapIdx_cons, at_round]
      simp only [shift, show UInt64.ofNat 0 = 0 from rfl, UInt64.add_zero]
      rfl

/-- The run of a paced sender: message `k` carries the deadline of the round that
accepted it. -/
theorem senderLoop_paced (sink : SinkTraits) (spec : Sender) (messageBytes : UInt32)
    (start : UInt64) (turns : List (SenderTurn messageBytes (clampBatch sink.preferredBatch)))
    (paced : (Pacer.fromSender spec messageBytes).isBlast = false) :
    (senderLoop sink spec messageBytes start turns).accepted =
      (acceptedRounds 0 turns).mapIdx fun k j => message (stamped messageBytes (UInt64.ofNat k)
        (start + (Pacer.fromSender spec messageBytes).deadline j)) := by
  have fresh : Pacer.fromSender spec messageBytes =
      (Pacer.fromSender spec messageBytes).after 0 := rfl
  simp only [senderLoop, paced]
  rw [if_neg (by decide), pacedRounds_emitted start _ fresh]
  simp only [UInt64.zero_add]

/-- A sink that never refuses accepts a message in every round. -/
theorem acceptedRounds_all {turns : List (SenderTurn messageBytes batch)}
    (accepts : ∀ turn ∈ turns, turn.attempt = .accepted) (round : Nat) :
    acceptedRounds round turns = List.range' round turns.length := by
  induction turns generalizing round with
  | nil => rfl
  | cons turn rest ih =>
    rw [acceptedRounds, accepts turn List.mem_cons_self, List.length_cons, List.range'_succ]
    exact congrArg _ (ih (fun other member => accepts other (List.mem_cons_of_mem _ member)) _)

end Paced

/-- Whatever the sink answers, the accepted messages are numbered 0, 1, 2, … in the order
accepted, each of the configured size and filled from its own number. -/
theorem senderLoop_sequence (sink : SinkTraits) (spec : Sender) (messageBytes : UInt32)
    (start : UInt64) (turns : List (SenderTurn messageBytes (clampBatch sink.preferredBatch)))
    {i : Nat} {msg : List UInt8}
    (accepted : (senderLoop sink spec messageBytes start turns).accepted[i]? = some msg) :
    ∃ hdr, WireHeader.decode msg = .ok hdr ∧ hdr.seq = UInt64.ofNat i ∧
      msg.length = max messageBytes.toNat 24 ∧
      msg.drop headerLen = fillPayload hdr.seq (msg.drop headerLen) := by
  obtain ⟨tsNs, rfl⟩ := (senderLoop_numbered sink spec messageBytes start turns).get accepted
  rw [succ_iterate, UInt64.zero_add]
  refine ⟨stamped messageBytes (UInt64.ofNat i) tsNs, decode_bytes _ _, rfl, ?_, ?_⟩
  · rw [message_length, stamped_total, clampedSize_toNat]
  · rw [fillPayload_pattern, message, List.drop_left' (header_bytes_length _), pattern_length]

/-- A blast in batches of four, of which the sink takes two, none and three: the fifth message
taken is the last of the third batch. -/
theorem senderLoop_sequence_first :
    let turn (taken : Fin 5) : SenderTurn 32 4 :=
      { phase := .measure, phaseAwake := .measure, phaseSending := .measure, nowNs := fun _ => 9,
        reserve := fun _ => none, commitBatched := fun _ => .ok false, flushBatch := .ok (),
        sendBatch := .ok taken, sendOne := .ok () }
    let spec : Sender := { interface := .tcp, targetAddr := "127.0.0.1:9000" }
    let run := senderLoop ⟨4, false⟩ spec 32 5 [turn 2, turn 0, turn 3]
    run.accepted.length = 5 ∧ ∃ msg hdr, run.accepted[4]? = some msg ∧
      WireHeader.decode msg = .ok hdr ∧ hdr.seq = 4 ∧ msg.length = 32 := by
  intro turn spec run
  have five : run.accepted.length = 5 := by decide
  have fifth : run.accepted[4]? = some run.accepted[4] := List.getElem?_eq_getElem _
  obtain ⟨hdr, decoded, numbered, size, -⟩ :=
    senderLoop_sequence ⟨4, false⟩ spec 32 5 [turn 2, turn 0, turn 3] fifth
  exact ⟨five, _, hdr, fifth, decoded, numbered, size⟩

/-! The schedule and backpressure: the pacer moves on when the sink refuses, the
sequence number does not. -/

/-- Message `k` is stamped with the `k`-th deadline of the schedule. -/
def StampedOnSchedule (spec : Sender) (messageBytes : UInt32) (start : UInt64)
    (accepted : List (List UInt8)) : Prop :=
  ∀ k msg, accepted[k]? = some msg → ∃ hdr, WireHeader.decode msg = .ok hdr ∧
    hdr.seq = UInt64.ofNat k ∧ hdr.tsNs = start + (Pacer.fromSender spec messageBytes).deadline k

/-- The stamps follow the schedule exactly when no refusal in front of an accepted message
moved the pacer to a later deadline. -/
theorem senderLoop_stamps (sink : SinkTraits) (spec : Sender) (messageBytes : UInt32)
    (start : UInt64) (turns : List (SenderTurn messageBytes (clampBatch sink.preferredBatch)))
    (paced : (Pacer.fromSender spec messageBytes).isBlast = false) :
    StampedOnSchedule spec messageBytes start
        (senderLoop sink spec messageBytes start turns).accepted ↔
      ∀ k j, (acceptedRounds 0 turns)[k]? = some j →
        (Pacer.fromSender spec messageBytes).deadline j =
          (Pacer.fromSender spec messageBytes).deadline k := by
  rw [senderLoop_paced sink spec messageBytes start turns paced]
  constructor
  · intro scheduled k j at_k
    obtain ⟨hdr, decoded, -, stamp⟩ := scheduled k
      (message (stamped messageBytes (UInt64.ofNat k)
        (start + (Pacer.fromSender spec messageBytes).deadline j)))
      (by rw [List.getElem?_mapIdx, at_k, Option.map_some])
    rw [message, decode_bytes, Except.ok.injEq] at decoded
    rw [← decoded] at stamp
    exact (UInt64.add_right_inj start).mp stamp
  · intro unmoved k msg at_k
    rw [List.getElem?_mapIdx] at at_k
    obtain ⟨j, at_j, rfl⟩ := Option.map_eq_some_iff.mp at_k
    exact ⟨_, decode_bytes _ _, rfl, congrArg (start + ·) (unmoved k j at_j)⟩

/-- One refused attempt of a 1 µs schedule: message 0 is stamped 1 µs late. -/
theorem senderLoop_stamps_refused :
    let turn (answer : Except ErrorKind Unit) : SenderTurn 32 32 :=
      { phase := .measure, phaseAwake := .measure, phaseSending := .measure, nowNs := fun _ => 9,
        reserve := fun _ => none, commitBatched := fun _ => .ok false, flushBatch := .ok (),
        sendBatch := .ok 0, sendOne := answer }
    let spec : Sender :=
      { interface := .shm, targetAddr := "ring", pattern := .periodic, intervalUs := some 1 }
    (Pacer.fromSender spec 32).isBlast = false ∧
      ¬StampedOnSchedule spec 32 5
        (senderLoop ⟨32, false⟩ spec 32 5 [turn (.error .wouldBlock), turn (.ok ())]).accepted := by
  intro turn spec
  refine ⟨by decide, fun scheduled => ?_⟩
  rw [senderLoop_paced ⟨32, false⟩ spec 32 5 _ (by decide)] at scheduled
  obtain ⟨hdr, decoded, -, stamp⟩ := scheduled 0
    (message (stamped 32 (UInt64.ofNat 0) (5 + (Pacer.fromSender spec 32).deadline 1))) rfl
  rw [message, decode_bytes, Except.ok.injEq] at decoded
  rw [← decoded] at stamp
  exact absurd stamp (by decide)

/-- A paced run without refusals. -/
theorem senderLoop_stamps_accepted :
    let turn : SenderTurn 32 32 :=
      { phase := .measure, phaseAwake := .measure, phaseSending := .measure, nowNs := fun _ => 9,
        reserve := fun _ => none, commitBatched := fun _ => .ok false, flushBatch := .ok (),
        sendBatch := .ok 0, sendOne := .ok () }
    let spec : Sender :=
      { interface := .tcp, targetAddr := "127.0.0.1:9000", pattern := .periodic,
        intervalUs := some 1 }
    StampedOnSchedule spec 32 5 (senderLoop ⟨32, false⟩ spec 32 5 [turn, turn]).accepted := by
  intro turn spec
  refine (senderLoop_stamps ⟨32, false⟩ spec 32 5 [turn, turn] (by decide)).mpr ?_
  intro k j at_k
  match k with
  | 0 =>
    have zero : j = 0 := by simpa [acceptedRounds, SenderTurn.attempt, turn] using at_k.symm
    rw [zero]
  | 1 =>
    have one : j = 1 := by simpa [acceptedRounds, SenderTurn.attempt, turn] using at_k.symm
    rw [one]
  | k + 2 => simp [acceptedRounds, SenderTurn.attempt, turn] at at_k

end Seshat.Run
