import Seshat.Run.PhaseClock
import Seshat.Run.ReceiverLoop
import Mathlib.Tactic.Common

/-! The worker loops of every mode, with the instants at which they read the phase flag and
received what they count. -/

namespace Seshat.Run
open Workload Transport Metrics Proto.Wire Lib.Rounds Lib.Saturating

/-! The receiver of a throughput run. -/

/-- The instants around one receive: taken off the transport, stamped, flag read. -/
structure ReadTimes where
  receivedAt : Nat
  stampedAt : Nat
  flagAt : Nat
  stamped : receivedAt ≤ stampedAt
  flagged : stampedAt ≤ flagAt

/-- The instants of one round: of the messages in it, and of the flag read of an idle one. -/
structure ReceiverTimes where
  each : Nat → ReadTimes
  idleAt : Nat

structure ReceiverSource (σ : Type) extends DataSource σ where
  supportsInplaceRecv : Bool
  /-- The messages the transport shows to the loop, and the outcome of the call. -/
  recvInplace : σ → (max : Nat) → Except ErrorKind BatchOutcome × List (List UInt8) × σ

/-- A worker's counters beside whatever else its loop carries. -/
structure Counting (α : Type) where
  rest : α
  metrics : FlowMetrics

section Receiver

variable {σ : Type} (clock : Clock) (source : ReceiverSource σ) (stride batch : Nat)

/-- The copying branch: one flag read for a whole batch. -/
def copyRound (state : ReceiverState σ) (times : ReceiverTimes) : Round (ReceiverState σ) StampedArrival :=
  let read := times.each 0
  let round := receiverRound source.toDataSource stride batch state
    { phase := clock.phase read.flagAt, recvNs := UInt64.ofNat read.stampedAt }
  { round with
    emitted := round.emitted.map fun delivery =>
      { receivedAt := read.receivedAt
        flagAt := some read.flagAt
        entry := some (.message stride delivery.msg delivery.recvNs) } }

/-- The closure of the zero-copy branch reads the flag for every message. -/
def ingestOne (times : ReceiverTimes) (metrics : FlowMetrics) (shown : List UInt8 × Nat) :
    FlowMetrics :=
  let read := times.each shown.2
  if clock.phase read.flagAt = .measure then
    receive stride metrics shown.1 (UInt64.ofNat read.stampedAt)
  else metrics

def shownArrival (times : ReceiverTimes) (shown : List UInt8 × Nat) : StampedArrival :=
  let read := times.each shown.2
  { receivedAt := read.receivedAt
    flagAt := some read.flagAt
    entry := some (.message stride shown.1 (UInt64.ofNat read.stampedAt)) }

def shownRound (state : Counting σ) (times : ReceiverTimes) : Round (Counting σ) StampedArrival :=
  let (outcome, msgs, rest) := source.recvInplace state.rest batch
  { state := { rest, metrics := msgs.zipIdx.foldl (ingestOne clock stride times) state.metrics }
    emitted := msgs.zipIdx.map (shownArrival stride times)
    again :=
      match outcome with
      | .ok (.messages _) => true
      | .ok .timeout => clock.phase times.idleAt ≠ .done
      | .ok .closed => false
      | .error _ => false }

end Receiver

/-- Below this size a batched copy is faster. -/
def zcRecvMin : Nat := 512 * 1024

/-- `receiver_loop`: its metrics and everything that came in. -/
def receiverWindow {σ : Type} (clock : Clock) (source : ReceiverSource σ) (start : σ)
    (messageBytes : UInt32) (turns : List ReceiverTimes) : FlowMetrics × List StampedArrival :=
  let stride := messageBytes.toNat
  let batch := clampBatch source.preferredBatch
  if source.supportsInplaceRecv ∧ zcRecvMin ≤ messageBytes.toNat then
    let run := rounds (shownRound clock source stride batch)
      { rest := start, metrics := {} } turns
    (run.state.metrics, run.emitted)
  else
    let run := rounds (copyRound clock source stride batch)
      { source := start, slots := freshSlots stride batch, metrics := {} } turns
    (run.state.metrics, run.emitted)

/-! The ping-pong client. -/

inductive PingReply where
  | message (bytes : List UInt8)
  | timeout
  | closed
  deriving DecidableEq, Repr

structure DuplexEnd (σ : Type) where
  sendMsg : σ → List UInt8 → Except ErrorKind Unit × σ
  recvMsg : σ → Except ErrorKind PingReply × σ

/-- The instants of one round trip, in the order of the loop. -/
structure PingTimes where
  loopAt : Nat
  flagAt : Nat
  stampedAt : Nat
  sentAt : Nat
  retryAt : Nat
  receivedAt : Nat
  nowAt : Nat
  idleAt : Nat
  sent : flagAt ≤ sentAt
  received : sentAt ≤ receivedAt

structure PingState (σ : Type) (messageBytes : UInt32) where
  client : σ
  builder : MessageBuilder messageBytes
  seq : UInt64
  metrics : FlowMetrics

section PingPong

variable {σ : Type} {messageBytes : UInt32} (clock : Clock) (client : DuplexEnd σ)

/-- An echo of `recv`: its round trip enters if it decodes. -/
def echoEntry (times : PingTimes) (recv : List UInt8) : Option Entry :=
  match decodeMessage recv with
  | .ok hdr =>
      some (.sample hdr.seq (satSub (UInt64.ofNat times.nowAt) (UInt64.ofNat times.sentAt))
        (UInt64.ofNat recv.length))
  | .error _ => none

def pingRound (state : PingState σ messageBytes) (times : PingTimes) :
    Round (PingState σ messageBytes) StampedArrival :=
  if clock.phase times.loopAt = .done then { state, emitted := [], again := false }
  else
    let (msg, builder) := state.builder.buildAt state.seq (UInt64.ofNat times.stampedAt)
    let state := { state with builder }
    match client.sendMsg state.client msg with
    | (.error .wouldBlock, end_) =>
        { state := { state with client := end_ }
          emitted := []
          again := clock.phase times.retryAt ≠ .done }
    | (.error _, end_) => { state := { state with client := end_ }, emitted := [], again := false }
    | (.ok (), end_) =>
        match client.recvMsg end_ with
        | (.ok (.message recv), end_) =>
            let entry := echoEntry times recv
            { state :=
                { state with
                  client := end_
                  seq := state.seq + 1
                  metrics :=
                    if clock.phase times.flagAt = .measure then
                      entry.elim state.metrics (Entry.account state.metrics)
                    else state.metrics }
              emitted := [{ receivedAt := times.receivedAt, flagAt := some times.flagAt, entry }]
              again := true }
        | (.ok .timeout, end_) =>
            { state := { state with client := end_ }
              emitted := []
              again := clock.phase times.idleAt ≠ .done }
        | (.ok .closed, end_) =>
            { state := { state with client := end_ }, emitted := [], again := false }
        | (.error _, end_) =>
            { state := { state with client := end_ }, emitted := [], again := false }

end PingPong

/-! The connector of a connection-rate run. -/

structure ConnTimes where
  flagAt : Nat
  establishedAt : Nat
  established : flagAt ≤ establishedAt

structure ConnState (σ : Type) where
  factory : σ
  seq : UInt64
  firstNs : Option UInt64
  secondNs : Option UInt64
  metrics : FlowMetrics

/-- `connect_once` reports the time of its handshake. -/
def connRound {σ : Type} (clock : Clock) (connectOnce : σ → Except ErrorKind UInt64 × σ)
    (state : ConnState σ) (times : ConnTimes) : Round (ConnState σ) StampedArrival :=
  let p := clock.phase times.flagAt
  if p = .done then { state, emitted := [], again := false }
  else
    match connectOnce state.factory with
    | (.ok handshakeNs, factory) =>
        let entry : Entry := .sample state.seq handshakeNs 0
        { state :=
            if p = .measure then
              { factory
                seq := state.seq + 1
                firstNs := state.firstNs.orElse fun _ => some handshakeNs
                secondNs :=
                  if state.firstNs = none then state.secondNs
                  else state.secondNs.orElse fun _ => some handshakeNs
                metrics := Entry.account state.metrics entry }
            else { state with factory }
          emitted :=
            [{ receivedAt := times.establishedAt
               flagAt := some times.flagAt
               entry := some entry }]
          again := true }
    | (.error _, factory) => { state := { state with factory }, emitted := [], again := true }

/-! The distributed receiver: its thread keeps the phase clock first and reads the accepted
connections behind it. -/

structure DistributedTimes where
  /-- How long after the store of `DONE` the read returns. -/
  delay : Nat
  stampedAt : Nat

def headerEntry (msgBytes : Nat) (recvNs : UInt64) (buf : List UInt8) : Option Entry :=
  match WireHeader.decode buf with
  | .ok hdr => some (.sample hdr.seq (satSub recvNs hdr.tsNs) (UInt64.ofNat msgBytes))
  | .error _ => none

def distributedRound {σ : Type} (clock : Clock)
    (readExact : σ → Nat → Except ErrorKind (List UInt8) × σ) (msgBytes : Nat)
    (state : Counting σ) (times : DistributedTimes) : Round (Counting σ) StampedArrival :=
  match readExact state.rest msgBytes with
  | (.ok buf, rest) =>
      let entry := headerEntry msgBytes (UInt64.ofNat times.stampedAt) buf
      { state := { rest, metrics := entry.elim state.metrics (Entry.account state.metrics) }
        emitted := [{ receivedAt := clock.doneAt + times.delay, flagAt := none, entry }]
        again := true }
  | (.error _, rest) => { state := { state with rest }, emitted := [], again := false }

end Seshat.Run
