import Seshat.Metrics.Aggregate
import Seshat.Run.CleanPath
import Seshat.Run.TimedLoops
import Seshat.Transport.ReadExact
import Mathlib.Algebra.BigOperators.Group.List.Basic
import Mathlib.Tactic.Common

/-! The distributed mode: one host writes frames on its connections while the phase clock runs,
the other accepts them and reads what they hold once its own clock has run out. What the
receiver reports against what the sender wrote, and against what the sender reports. -/

namespace Seshat.Run
open Workload Transport Metrics Proto.Wire Lib.Rounds Lib.Saturating Lib.Folds

/-! The sending host. -/

/-- What becomes of a frame of `size` bytes: `write_all` writes it, or fails in front of one of
its bytes. -/
inductive WriteAll (size : Nat) where
  | written
  | fails (front : Fin size)

/-- One round of a connection: the flag it reads, the time it stamps and its write. -/
structure FrameTurn (size : Nat) where
  phase : Phase
  nowNs : UInt64
  write : WriteAll size

structure FrameSender where
  buf : List UInt8
  seq : UInt64 := 0
  measured : UInt64 := 0

/-- `encode` and `fill_payload` on the buffer of a connection. -/
def frameInto (hdr : WireHeader) (buf : List UInt8) : List UInt8 :=
  let buf := hdr.encode buf
  buf.take headerLen ++ fillPayload hdr.seq (buf.drop headerLen)

/-- A whole frame goes out. -/
def FrameTurn.goesOn {size : Nat} (turn : FrameTurn size) : Bool :=
  match turn.phase, turn.write with
  | .done, _ => false
  | _, .fails _ => false
  | _, .written => true

def sendRound (messageBytes : UInt32) (sender : FrameSender)
    (turn : FrameTurn (clampedSize messageBytes).toNat) : Round FrameSender (List UInt8) :=
  if turn.phase = .done then { state := sender, emitted := [], again := false }
  else
    let buf := frameInto (stamped messageBytes sender.seq turn.nowNs) sender.buf
    match turn.write with
    | .fails front =>
        { state := { sender with buf }, emitted := [buf.take front], again := false }
    | .written =>
        { state :=
            { buf
              seq := sender.seq + 1
              measured := if turn.phase = .measure then sender.measured + 1 else sender.measured }
          emitted := [buf]
          again := true }

/-- One connection of `run_distributed_sender`: the bytes it writes, and its counter. -/
def sendFrames (messageBytes : UInt32)
    (turns : List (FrameTurn (clampedSize messageBytes).toNat)) : Round FrameSender (List UInt8) :=
  rounds (sendRound messageBytes) { buf := List.replicate (clampedSize messageBytes).toNat 0 } turns

/-- `run_distributed_sender`: the frames of the measure window. -/
def distributedSender (messageBytes : UInt32)
    (conns : List (List (FrameTurn (clampedSize messageBytes).toNat))) : UInt64 :=
  wrapSum (fun turns => (sendFrames messageBytes turns).state.measured) conns

/-! The receiving host. -/

structure AcceptTurn (α : Type) where
  phase : Phase
  accept : Except ErrorKind α

/-- The accept thread looks at the flag first and sleeps while there is nobody. -/
def acceptRound {α : Type} (_ : Unit) (turn : AcceptTurn α) : Round Unit α :=
  match turn.phase, turn.accept with
  | .cooldown, _ => { state := (), emitted := [], again := false }
  | .done, _ => { state := (), emitted := [], again := false }
  | _, .ok conn => { state := (), emitted := [conn], again := true }
  | _, .error .wouldBlock => { state := (), emitted := [], again := true }
  | _, .error _ => { state := (), emitted := [], again := false }

def accepted {α : Type} (turns : List (AcceptTurn α)) : List α :=
  (rounds acceptRound () turns).emitted

/-- The frames of a connection that are written whole. -/
def framesOf {size : Nat} (turns : List (FrameTurn size)) : List (FrameTurn size) :=
  turns.takeWhile FrameTurn.goesOn

/-- A connection between the hosts: what its sender does, what of that the receiver's reads
bring, and the instants of the reads. -/
structure Link (messageBytes : UInt32) where
  turns : List (FrameTurn (clampedSize messageBytes).toNat)
  src : ByteSource
  carried : src.bytes <+: (sendFrames messageBytes turns).emitted.flatten
  reads : List DistributedTimes
  enough : (framesOf turns).length < reads.length

namespace Link

variable {messageBytes : UInt32} (clock : Clock) (link : Link messageBytes)

def metrics : FlowMetrics :=
  (rounds (distributedRound clock ByteSource.readExact (clampedSize messageBytes).toNat)
    { rest := link.src, metrics := {} } link.reads).state.metrics

/-- Everything arrives, and no read times out. -/
def Drained : Prop :=
  link.src.bytes = (sendFrames messageBytes link.turns).emitted.flatten ∧ link.src.Quiet

end Link

/-- `run_distributed_receiver` -/
def distributedReceiver (sqrt : ℚ → ℚ) {messageBytes : UInt32} (clock : Clock)
    (accepts : List (AcceptTurn (Link messageBytes))) (measureSecs : ℚ) (removeOutliers : Bool) :
    FlowSummary :=
  aggregateRun sqrt ((accepted accepts).map (Link.metrics clock)) measureSecs removeOutliers

/-! What a connection writes. -/

section Sender

variable {messageBytes : UInt32}

theorem frameInto_message (hdr : WireHeader) {buf : List UInt8} (room : buf.length = hdr.total) :
    frameInto hdr buf = message hdr := by
  have payload : (buf.drop headerLen).length = hdr.payloadLen.toNat := by
    rw [List.length_drop, room, WireHeader.total, Nat.add_sub_cancel_left]
  rw [frameInto, encode_bytes, List.take_left' (header_bytes_length hdr),
    List.drop_left' (header_bytes_length hdr), fillPayload_pattern, payload, message]

theorem clampedSize_pos (messageBytes : UInt32) : 0 < (clampedSize messageBytes).toNat := by
  rw [clampedSize_toNat]
  omega

/-- The whole frames of a connection, numbered, and the front of the one that failed. -/
structure Writes (messageBytes : UInt32) (sender : FrameSender)
    (turns : List (FrameTurn (clampedSize messageBytes).toNat))
    (run : Round FrameSender (List UInt8)) (whole : List (List UInt8)) (cut : List UInt8) :
    Prop where
  bytes : run.emitted.flatten = whole.flatten ++ cut
  short : cut.length < (clampedSize messageBytes).toNat
  numbered : Numbered (Carries messageBytes) (· + 1) sender.seq whole
  count : whole.length = (framesOf turns).length
  measured : run.state.measured =
    sender.measured + UInt64.ofNat ((framesOf turns).countP fun turn => turn.phase = .measure)

theorem framesOf_stop {size : Nat} {turn : FrameTurn size} {rest : List (FrameTurn size)}
    (stops : turn.goesOn = false) : framesOf (turn :: rest) = [] := by
  rw [framesOf, List.takeWhile_cons, stops]
  rfl

theorem sendRounds_writes (turns : List (FrameTurn (clampedSize messageBytes).toNat))
    {sender : FrameSender} (room : sender.buf.length = (clampedSize messageBytes).toNat) :
    ∃ whole cut, Writes messageBytes sender turns (rounds (sendRound messageBytes) sender turns)
      whole cut := by
  have positive := clampedSize_pos messageBytes
  induction turns generalizing sender with
  | nil => exact ⟨[], [], rfl, positive, trivial, rfl, (UInt64.add_zero _).symm⟩
  | cons turn rest ih =>
    have built : frameInto (stamped messageBytes sender.seq turn.nowNs) sender.buf =
        message (stamped messageBytes sender.seq turn.nowNs) :=
      frameInto_message _ (room.trans (stamped_total _ _ _).symm)
    by_cases ended : turn.phase = .done
    · have round : sendRound messageBytes sender turn =
          { state := sender, emitted := [], again := false } := if_pos ended
      have none : framesOf (turn :: rest) = [] := framesOf_stop (by simp [FrameTurn.goesOn, ended])
      rw [rounds_break (by rw [round]), round]
      refine ⟨[], [], rfl, positive, trivial, by rw [none]; rfl, ?_⟩
      rw [none]
      exact (UInt64.add_zero _).symm
    · cases wrote : turn.write with
      | fails front =>
        have stops : turn.goesOn = false := by
          unfold FrameTurn.goesOn
          rw [wrote]
          cases turn.phase <;> rfl
        have round : sendRound messageBytes sender turn = _ := if_neg ended
        simp only [wrote] at round
        rw [rounds_break (by rw [round]), round]
        refine ⟨[], _, List.append_nil _, ?_, trivial, by rw [framesOf_stop stops]; rfl, ?_⟩
        · exact lt_of_le_of_lt (List.length_take_le _ _) front.isLt
        · rw [framesOf_stop stops]
          exact (UInt64.add_zero _).symm
      | written =>
        have more : turn.goesOn = true := by
          unfold FrameTurn.goesOn
          rw [wrote]
          cases phase : turn.phase with
          | done => exact absurd phase ended
          | _ => rfl
        have frames : framesOf (turn :: rest) = turn :: framesOf rest := by
          rw [framesOf, List.takeWhile_cons, more]
          rfl
        have round : sendRound messageBytes sender turn = _ := if_neg ended
        simp only [wrote, built] at round
        obtain ⟨whole, cut, later⟩ := @ih (sendRound messageBytes sender turn).state (by
          rw [round, message_length, stamped_total])
        have again : (sendRound messageBytes sender turn).again = true := by rw [round]
        rw [rounds_again again]
        refine ⟨message (stamped messageBytes sender.seq turn.nowNs) :: whole, cut, ?_, later.short,
          ⟨⟨turn.nowNs, rfl⟩, ?_⟩, ?_, ?_⟩
        · change ((sendRound messageBytes sender turn).emitted ++ _).flatten = _
          rw [List.flatten_append, later.bytes, round, List.flatten_singleton, List.flatten_cons,
            List.append_assoc]
        · have numbered := later.numbered
          rw [round] at numbered
          exact numbered
        · rw [List.length_cons, later.count, frames, List.length_cons]
        · refine later.measured.trans ?_
          rw [frames, List.countP_cons, round]
          by_cases measuring : turn.phase = .measure
          · simp only [measuring, if_true, decide_true]
            rw [UInt64.ofNat_add, UInt64.add_assoc, UInt64.add_comm 1]
            rfl
          · simp only [measuring, if_false, decide_false, Bool.false_eq_true]
            rfl

end Sender

/-! What the receiver makes of it. -/

section Receiver

variable {messageBytes : UInt32} (clock : Clock)

/-- A read brings the next frame, or the loop ends. -/
inductive Received (state : Counting ByteSource) (times : DistributedTimes) (size : Nat)
    (round : Round (Counting ByteSource) StampedArrival) : Prop
  | frame (buf : List UInt8) (rest : ByteSource) (length : buf.length = size)
      (split : state.rest.bytes = buf ++ rest.bytes) (quiet : state.rest.Quiet → rest.Quiet)
      (again : round.again = true)
      (after : round.state =
        { rest
          metrics := (headerEntry size (UInt64.ofNat times.stampedAt) buf).elim state.metrics
            (Entry.account state.metrics) })
  | ended (again : round.again = false) (kept : round.state.metrics = state.metrics)
      (short : state.rest.Quiet → state.rest.bytes.length < size)

theorem distributedRound_received (state : Counting ByteSource) (times : DistributedTimes)
    (size : Nat) :
    Received state times size (distributedRound clock ByteSource.readExact size state times) := by
  have read := ByteSource.readExact_exactly state.rest size
  unfold distributedRound
  generalize ByteSource.readExact state.rest size = result at read
  cases read with
  | whole buf rest length split quiet => exact .frame buf rest length split quiet rfl rfl
  | fails kind rest short => exact .ended rfl rfl short

theorem headerEntry_message (recvNs : UInt64) (hdr : WireHeader) (size : Nat) :
    headerEntry size recvNs (message hdr) =
      some (.sample hdr.seq (satSub recvNs hdr.tsNs) (UInt64.ofNat size)) := by
  rw [headerEntry, message, decode_bytes]

/-- The metrics after some frames have been recorded. -/
structure Recorded (start final : FlowMetrics) (seqs : List UInt64) : Prop where
  seqs : final.seqs = start.seqs ++ seqs
  integrityFailures : final.integrityFailures = start.integrityFailures
  boundaryViolations : final.boundaryViolations = start.boundaryViolations

/-- Of a stream of whole frames and a cut one, the loop records frames in front until a read
fails, and no read fails in front of a whole frame unless it times out. -/
theorem receiveRounds_recorded {hdrs : List WireHeader} {cut : List UInt8} {size : Nat}
    (sizes : ∀ hdr ∈ hdrs, hdr.total = size) (short : cut.length < size)
    {state : Counting ByteSource} (carried : state.rest.bytes <+: (hdrs.map message).flatten ++ cut)
    {reads : List DistributedTimes} (enough : hdrs.length < reads.length) :
    ∃ n ≤ hdrs.length,
      Recorded state.metrics
        (rounds (distributedRound clock ByteSource.readExact size) state reads).state.metrics
        ((hdrs.map WireHeader.seq).take n) ∧
      (state.rest.bytes = (hdrs.map message).flatten ++ cut → state.rest.Quiet →
        n = hdrs.length) := by
  induction hdrs generalizing state reads with
  | nil =>
    cases reads with
    | nil => cases enough
    | cons times reads =>
      refine ⟨0, le_rfl, ?_, fun _ _ => rfl⟩
      cases distributedRound_received clock state times size with
      | frame buf rest length split _ _ _ =>
        have most := carried.length_le
        rw [split, List.length_append, length] at most
        simp only [List.map_nil, List.flatten_nil, List.nil_append] at most
        omega
      | ended again kept _ =>
        rw [rounds_break again]
        exact ⟨by rw [kept]; exact (List.append_nil _).symm, by rw [kept], by rw [kept]⟩
  | cons hdr hdrs ih =>
    cases reads with
    | nil => cases enough
    | cons times reads =>
      have first := sizes hdr List.mem_cons_self
      have stream : ((hdr :: hdrs).map message).flatten ++ cut =
          message hdr ++ ((hdrs.map message).flatten ++ cut) := by
        rw [List.map_cons, List.flatten_cons, List.append_assoc]
      cases distributedRound_received clock state times size with
      | frame buf rest length split quiet again after =>
        have same : buf = message hdr := by
          have front : buf <+: message hdr ++ ((hdrs.map message).flatten ++ cut) :=
            (List.prefix_append buf rest.bytes).trans (stream ▸ split ▸ carried)
          refine List.IsPrefix.eq_of_length (List.prefix_of_prefix_length_le front
            (List.prefix_append _ _) ?_) ?_
          · rw [length, message_length, first]
          · rw [length, message_length, first]
        subst same
        have left : rest.bytes <+: (hdrs.map message).flatten ++ cut := by
          rw [split, stream] at carried
          exact (List.prefix_append_right_inj _).mp carried
        rw [headerEntry_message, Option.elim_some] at after
        have later (other : WireHeader) (member : other ∈ hdrs) : other.total = size :=
          sizes other (List.mem_cons_of_mem _ member)
        obtain ⟨n, within, recorded, all⟩ := @ih later
          (distributedRound clock ByteSource.readExact size state times).state
          (by rw [after]; exact left) reads (Nat.lt_of_succ_lt_succ enough)
        rw [rounds_again again]
        rw [after] at recorded all ⊢
        refine ⟨n + 1, Nat.succ_le_succ within, ⟨?_, ?_, ?_⟩, fun whole still => ?_⟩
        · rw [recorded.seqs, List.map_cons, List.take_succ_cons]
          simp [Entry.account, FlowMetrics.record]
        · exact recorded.integrityFailures
        · exact recorded.boundaryViolations
        · rw [split, stream] at whole
          rw [List.length_cons, all (List.append_cancel_left whole) (quiet still)]
      | ended again kept stopped =>
        rw [rounds_break again]
        refine ⟨0, Nat.zero_le _, ⟨?_, by rw [kept], by rw [kept]⟩, fun whole still => ?_⟩
        · rw [kept, List.take_zero, List.append_nil]
        · have less := stopped still
          rw [whole, stream, List.length_append, message_length, first] at less
          omega

end Receiver

namespace Link

variable {messageBytes : UInt32} (clock : Clock) (link : Link messageBytes)

/-- The frames the receiver has read. -/
def got : Nat := (link.metrics clock).seqs.length

structure Counted : Prop where
  seqs : (link.metrics clock).seqs = consecutive (link.got clock)
  within : link.got clock ≤ (framesOf link.turns).length
  drained : link.Drained → link.got clock = (framesOf link.turns).length
  integrityFailures : (link.metrics clock).integrityFailures = 0
  boundaryViolations : (link.metrics clock).boundaryViolations = 0

theorem counted : link.Counted clock := by
  obtain ⟨whole, cut, writes⟩ := @sendRounds_writes messageBytes link.turns
    { buf := List.replicate (clampedSize messageBytes).toNat 0 } List.length_replicate
  obtain ⟨hdrs, rfl, sizes, seqs⟩ := numbered_headers writes.numbered
  have bytes : (sendFrames messageBytes link.turns).emitted.flatten =
      (hdrs.map message).flatten ++ cut := writes.bytes
  have count : hdrs.length = (framesOf link.turns).length := by
    rw [← writes.count, List.length_map]
  obtain ⟨n, within, recorded, all⟩ := @receiveRounds_recorded clock hdrs cut _ sizes writes.short
    { rest := link.src, metrics := {} } (bytes ▸ link.carried) link.reads
    (count ▸ link.enough)
  have numbers : hdrs.map WireHeader.seq = consecutive hdrs.length := by
    rw [seqs, List.length_map]
    simp only [UInt64.zero_add]
    rfl
  have read : (link.metrics clock).seqs = (consecutive hdrs.length).take n := by
    rw [← numbers]
    exact recorded.seqs
  have size : link.got clock = n := by
    rw [got, read, List.length_take, consecutive_length, min_eq_left within]
  refine ⟨?_, by rw [size, ← count]; exact within, fun drained => ?_, recorded.integrityFailures,
    recorded.boundaryViolations⟩
  · rw [read, size, consecutive, consecutive, ← List.map_take, List.take_range, min_eq_left within]
  · rw [size, ← count]
    exact all (drained.1.trans bytes) drained.2

end Link

/-- The counter of a connection holds the frames of its measure window. -/
theorem sendFrames_measured {messageBytes : UInt32}
    (turns : List (FrameTurn (clampedSize messageBytes).toNat)) :
    (sendFrames messageBytes turns).state.measured =
      UInt64.ofNat ((framesOf turns).countP fun turn => turn.phase = .measure) := by
  obtain ⟨whole, cut, writes⟩ := @sendRounds_writes messageBytes turns
    { buf := List.replicate (clampedSize messageBytes).toNat 0 } List.length_replicate
  exact writes.measured.trans (UInt64.zero_add _)

section Hosts

variable {messageBytes : UInt32} (clock : Clock) {links : List (Link messageBytes)}
  (few : (links.map fun link => (framesOf link.turns).length).sum < 2 ^ 64)
include few

theorem frames_few {link : Link messageBytes} (member : link ∈ links) :
    (framesOf link.turns).length < 2 ^ 64 := by
  have listed : (framesOf link.turns).length ∈ links.map fun link => (framesOf link.turns).length :=
    List.mem_map.mpr ⟨link, member, rfl⟩
  exact lt_of_le_of_lt (List.single_le_sum (fun _ _ => Nat.zero_le _) _ listed) few

/-- Every connection is a clean sequence to the accounting. -/
theorem link_integrity {link : Link messageBytes} (member : link ∈ links) :
    integrity (link.metrics clock).seqs =
      { received := UInt64.ofNat (link.got clock), distinct := UInt64.ofNat (link.got clock),
        lost := 0, duplicate := 0, reordered := 0 } := by
  have counted := link.counted clock
  rw [counted.seqs]
  exact integrity_consecutive (lt_of_le_of_lt counted.within (frames_few few member))

theorem got_few : (links.map (Link.got clock)).sum < 2 ^ 64 :=
  lt_of_le_of_lt (List.sum_le_sum fun link _ => (link.counted clock).within) few

theorem measured_few :
    (links.map fun link => (framesOf link.turns).countP fun turn => turn.phase = .measure).sum <
      2 ^ 64 :=
  lt_of_le_of_lt (List.sum_le_sum fun _ _ => List.countP_le_length) few

/-- The sending host reports the frames of the measure window, summed over its connections. -/
theorem distributedSender_measured :
    (distributedSender messageBytes (links.map Link.turns)).toNat =
      (links.map fun link =>
        (framesOf link.turns).countP fun turn => turn.phase = .measure).sum := by
  have words : distributedSender messageBytes (links.map Link.turns) =
      wrapSum (fun link : Link messageBytes => (sendFrames messageBytes link.turns).state.measured)
        links := by
    rw [distributedSender, wrapSum, List.foldl_map]
    rfl
  rw [words]
  refine wrapSum_eq_sum _ (fun link member => ?_) (measured_few few)
  rw [sendFrames_measured, UInt64.toNat_ofNat', Nat.mod_eq_of_lt]
  exact lt_of_le_of_lt List.countP_le_length (frames_few few member)

end Hosts

/-- Two hosts of one message size: whatever the accept thread finds and however the connections
end, the receiver reports no loss, no duplicate and no reordering, and as many messages as it has
read whole frames. Where it has read everything, they are those the sender reports of the accepted
connections and those it sent on them outside the measure window. -/
theorem distributed_counts (sqrt : ℚ → ℚ) {messageBytes : UInt32} (clock : Clock)
    (accepts : List (AcceptTurn (Link messageBytes))) (measureSecs : ℚ) (removeOutliers : Bool)
    (few : ((accepted accepts).map fun link => (framesOf link.turns).length).sum < 2 ^ 64) :
    let links := accepted accepts
    let summary := distributedReceiver sqrt clock accepts measureSecs removeOutliers
    (∀ link ∈ links, link.Counted clock) ∧
      summary.integrity.received.toNat = (links.map (Link.got clock)).sum ∧
      summary.integrity.distinct.toNat = (links.map (Link.got clock)).sum ∧
      summary.integrity.lost = 0 ∧ summary.integrity.duplicate = 0 ∧
      summary.integrity.reordered = 0 ∧ summary.integrityFailures = 0 ∧
      summary.boundaryViolations = 0 ∧
      ((∀ link ∈ links, link.Drained) →
        summary.integrity.received.toNat =
          (distributedSender messageBytes (links.map Link.turns)).toNat +
            (links.map fun link =>
              (framesOf link.turns).countP fun turn => turn.phase ≠ .measure).sum) := by
  intro links summary
  have wrapped := counters_wrap sqrt (links.map (Link.metrics clock)) measureSecs removeOutliers
  simp only [counters, List.forall_mem_cons] at wrapped
  obtain ⟨received, distinct, lost, duplicate, reordered, failures, violations, -⟩ := wrapped
  have clean {link : Link messageBytes} (member : link ∈ links) := link_integrity clock few member
  have sum (part : FlowMetrics → UInt64)
      (each : ∀ link ∈ links, part (link.metrics clock) = UInt64.ofNat (link.got clock)) :
      (wrapSum part (links.map (Link.metrics clock))).toNat = (links.map (Link.got clock)).sum := by
    rw [wrapSum, List.foldl_map]
    refine wrapSum_eq_sum (fun link : Link messageBytes => part (link.metrics clock))
      (fun link member => ?_) (got_few clock few)
    rw [each link member, UInt64.toNat_ofNat', Nat.mod_eq_of_lt]
    exact lt_of_le_of_lt (link.counted clock).within (frames_few few member)
  have none (part : FlowMetrics → UInt64)
      (each : ∀ link ∈ links, part (link.metrics clock) = 0) :
      wrapSum part (links.map (Link.metrics clock)) = 0 := by
    refine wrapSum_zero part fun m member => ?_
    obtain ⟨link, inside, rfl⟩ := List.mem_map.mp member
    exact each link inside
  have got : summary.integrity.received.toNat = (links.map (Link.got clock)).sum :=
    (congrArg UInt64.toNat received).trans (sum _ fun link member => by rw [clean member])
  refine ⟨fun link _ => link.counted clock, got, ?_, ?_, ?_, ?_, ?_, ?_, fun drained => ?_⟩
  · exact (congrArg UInt64.toNat distinct).trans (sum _ fun link member => by rw [clean member])
  · exact lost.trans (none _ fun link member => by rw [clean member])
  · exact duplicate.trans (none _ fun link member => by rw [clean member])
  · exact reordered.trans (none _ fun link member => by rw [clean member])
  · exact failures.trans (none _ fun link _ => (link.counted clock).integrityFailures)
  · exact violations.trans (none _ fun link _ => (link.counted clock).boundaryViolations)
  · rw [got, distributedSender_measured few, ← List.sum_map_add]
    refine congrArg List.sum (List.map_congr_left fun link member => ?_)
    rw [(link.counted clock).drained (drained link member),
      List.length_eq_countP_add_countP fun turn => decide (turn.phase = .measure)]
    simp

/-! Two frames of 24 bytes, one before and one in the measure window, and a third cut short. -/

def twoFrames : List (FrameTurn (clampedSize 24).toNat) :=
  [{ phase := .warmup, nowNs := 5, write := .written },
    { phase := .measure, nowNs := 12, write := .written },
    { phase := .measure, nowNs := 14, write := .fails ⟨7, by decide⟩ }]

def twoFramesClock : Clock where
  measureAt := 11
  cooldownAt := 21
  doneAt := 31
  warms := by decide
  cools := by decide

def twoFramesLink : Link 24 where
  turns := twoFrames
  src := .ofBytes (sendFrames 24 twoFrames).emitted.flatten
  carried := by rw [ByteSource.ofBytes_bytes]
  reads := List.replicate 3 { delay := 1, stampedAt := 40 }
  enough := by decide

def twoFramesAccepts : List (AcceptTurn (Link 24)) :=
  [{ phase := .warmup, accept := .error .wouldBlock },
    { phase := .warmup, accept := .ok twoFramesLink },
    { phase := .cooldown, accept := .ok twoFramesLink }]

theorem distributed_counts_two :
    (distributedReceiver id twoFramesClock twoFramesAccepts 1 false).integrity.received.toNat =
      1 + 1 := by
  have one : accepted twoFramesAccepts = [twoFramesLink] := by rfl
  have counts := distributed_counts id twoFramesClock twoFramesAccepts 1 false (by rw [one]; decide)
  obtain ⟨-, -, -, -, -, -, -, -, all⟩ := counts
  have drained : ∀ link ∈ accepted twoFramesAccepts, link.Drained := by
    rw [one]
    intro link member
    rw [List.mem_singleton.mp member]
    exact ⟨ByteSource.ofBytes_bytes (sendFrames 24 twoFrames).emitted.flatten,
      ByteSource.ofBytes_quiet (sendFrames 24 twoFrames).emitted.flatten⟩
  rw [all drained, one]
  decide +kernel

end Seshat.Run
