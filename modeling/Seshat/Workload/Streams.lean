import Seshat.Lib.Rounds
import Seshat.Transport.ByteSource
import Seshat.Workload.Builder
import Seshat.Workload.Pacer
import Seshat.Workload.Receiver
import Mathlib.Data.List.MinMax
import Mathlib.Tactic.Common

/-! Multi-stream runs: the two threads of each stream, and the verdict over all of them.
A thread is a loop against its environment; a turn holds the flag reads, clock reads and
transport answers of one round. -/

namespace Seshat.Workload
open Metrics Transport Proto.Wire Lib.Rounds Lib.Saturating

/-- The `stop` and `measuring` flags of a run, in the order in which they are stored. -/
inductive Stage where
  | warmup
  | measure
  | stopped
  deriving DecidableEq, Repr

def Stage.stop (stage : Stage) : Bool := stage = .stopped

/-- The flag stays up when the run stops. -/
def Stage.measuring (stage : Stage) : Bool := stage ≠ .warmup

structure StreamConfig where
  name : String
  trafficClass : String
  dscpLabel : String
  dscpTag : Option UInt8
  messageBytes : UInt32
  intervalUs : Option UInt64
  deriving DecidableEq, Repr

structure StreamResult where
  name : String
  trafficClass : String
  dscpLabel : String
  summary : FlowSummary
  paced : Bool
  sendLagMeanUs : ℚ
  sendLagMaxUs : ℚ
  dscpPreserved : Option Bool
  deriving DecidableEq, Repr

structure MultiStreamResult where
  streams : List StreamResult
  fairnessRatio : ℚ
  safetyLossFree : Bool
  safetyP99Us : Option ℚ
  deriving DecidableEq, Repr

/-- `SAFETY_CLASS` -/
def safetyClass : String := "safety"

/-- The smallest over the largest throughput; 0 without a stream or without traffic. -/
def fairnessRatio (throughputs : List ℚ) : ℚ :=
  match throughputs with
  | [] => 0
  | first :: rest =>
      let least := rest.foldl min first
      let most := throughputs.foldl max 0
      if most > 0 then least / most else 0

def MultiStreamResult.fromStreams (streams : List StreamResult) : MultiStreamResult :=
  let safety := streams.filter fun s => s.trafficClass = safetyClass
  { streams
    fairnessRatio := Workload.fairnessRatio (streams.map fun s => s.summary.throughputGbps)
    safetyLossFree := safety.all fun s => s.summary.integrity.lost = 0
    safetyP99Us := (safety.map fun s => s.summary.latencyUs.p99).max? }

structure DscpObservation where
  observed : UInt64 := 0
  matched : UInt64 := 0
  deriving DecidableEq, Repr

def tosToDscp (tos : UInt8) : UInt8 := tos >>> 2

def DscpObservation.record (seen : DscpObservation) (tos expected : UInt8) : DscpObservation where
  observed := satAdd seen.observed 1
  matched := if tosToDscp tos = expected then satAdd seen.matched 1 else seen.matched

def DscpObservation.verdict (seen : DscpObservation) : Option Bool :=
  if seen.observed > 0 then some (seen.matched = seen.observed) else none

/-- A message as the receiver got it, and which of the stream's sends it is. -/
structure Arrival where
  origin : Nat
  msg : List UInt8
  tos : Option UInt8
  deriving DecidableEq, Repr

inductive StreamAnswer where
  | message (arrival : Arrival)
  | timeout
  | closed
  deriving DecidableEq, Repr

/-- One round of a receiver thread. -/
structure ReceiveTurn where
  head : Stage
  answer : Except ErrorKind StreamAnswer
  recvNs : UInt64
  counted : Stage

/-- A message taken from the transport, and the stage at its admission. -/
structure Received where
  arrival : Arrival
  stage : Stage
  deriving DecidableEq, Repr

structure StreamReceiver where
  metrics : FlowMetrics := {}
  dscpSeen : DscpObservation := {}

def observeDscp (expected : Option UInt8) (seen : DscpObservation) (tos : Option UInt8) :
    DscpObservation :=
  match expected, tos with
  | some expected, some tos => seen.record tos expected
  | _, _ => seen

def receiveRound (cfg : StreamConfig) (state : StreamReceiver) (turn : ReceiveTurn) :
    Round StreamReceiver Received :=
  if turn.head.stop then { state, emitted := [], again := false }
  else
    match turn.answer with
    | .ok (.message arrival) =>
        let state :=
          if turn.counted.measuring then
            { metrics := receive cfg.messageBytes.toNat state.metrics arrival.msg turn.recvNs
              dscpSeen := observeDscp cfg.dscpTag state.dscpSeen arrival.tos }
          else state
        { state, emitted := [{ arrival, stage := turn.counted }], again := true }
    | .ok .timeout => { state, emitted := [], again := true }
    | .ok .closed => { state, emitted := [], again := false }
    | .error _ => { state, emitted := [], again := false }

/-- One round of a sender thread. -/
structure SendTurn where
  head : Stage
  /-- The clock and the stop flag read behind the paced sleep. -/
  wokeNs : UInt64
  awake : Stage
  /-- The clock read by a blast stream's `build`. -/
  stampNs : UInt64
  /-- The stage in which the transport takes the message. -/
  sending : Stage
  answer : Except ErrorKind Unit
  /-- The `measuring` read behind the send. -/
  sent : Stage

/-- A message the transport took, and the stage in which it did. -/
structure Sent where
  msg : List UInt8
  stage : Stage
  deriving DecidableEq, Repr

structure StreamSender (messageBytes : UInt32) where
  builder : MessageBuilder messageBytes
  seq : UInt64
  nextNs : UInt64
  lag : SendLag

def StreamSender.new (messageBytes : UInt32) (startNs : UInt64) : StreamSender messageBytes where
  builder := .new messageBytes
  seq := 0
  nextNs := startNs
  lag := {}

section Senders

variable {messageBytes : UInt32}

def pacedStreamRound (gapNs : UInt64) (state : StreamSender messageBytes) (turn : SendTurn) :
    Round (StreamSender messageBytes) Sent :=
  if turn.head.stop ∨ turn.awake.stop then { state, emitted := [], again := false }
  else
    let built := state.builder.buildAt state.seq state.nextNs
    match turn.answer with
    | .error _ => { state := { state with builder := built.2 }, emitted := [], again := false }
    | .ok () =>
        { state :=
            { builder := built.2
              seq := state.seq + 1
              nextNs := satAdd state.nextNs gapNs
              lag :=
                if turn.sent.measuring then state.lag.record (satSub turn.wokeNs state.nextNs)
                else state.lag }
          emitted := [{ msg := built.1, stage := turn.sending }]
          again := true }

def blastStreamRound (state : StreamSender messageBytes) (turn : SendTurn) :
    Round (StreamSender messageBytes) Sent :=
  if turn.head.stop then { state, emitted := [], again := false }
  else
    let built := state.builder.buildAt state.seq turn.stampNs
    match turn.answer with
    | .error _ => { state := { state with builder := built.2 }, emitted := [], again := false }
    | .ok () =>
        { state := { state with builder := built.2, seq := state.seq + 1 }
          emitted := [{ msg := built.1, stage := turn.sending }]
          again := true }

end Senders

/-- Everything the two threads of one stream meet in a run. -/
structure StreamTrace where
  startNs : UInt64
  sends : List SendTurn
  receives : List ReceiveTurn
  /-- The sends still on their way when the receiver stopped. -/
  unread : List Nat

section Threads

variable (cfg : StreamConfig) (trace : StreamTrace)

def streamSender : Round (StreamSender cfg.messageBytes) Sent :=
  let start := StreamSender.new cfg.messageBytes trace.startNs
  match cfg.intervalUs.map fun us => satMul us 1000 with
  | some gapNs =>
      if gapNs > 0 then rounds (pacedStreamRound gapNs) start trace.sends
      else rounds blastStreamRound start trace.sends
  | none => rounds blastStreamRound start trace.sends

def streamReceiver : Round StreamReceiver Received :=
  rounds (receiveRound cfg) {} trace.receives

/-- The messages of a stream, by the order in which its sender numbers them. -/
def StreamTrace.sent : List Sent := (streamSender cfg trace).emitted

def StreamTrace.received : List Received := (streamReceiver cfg trace).emitted

end Threads

section Sqrt

variable (sqrt : ℚ → ℚ)

def streamResult (measureSecs : ℚ) (cfg : StreamConfig) (trace : StreamTrace) : StreamResult :=
  let lag := (streamSender cfg trace).state.lag
  let receiver := (streamReceiver cfg trace).state
  { name := cfg.name
    trafficClass := cfg.trafficClass
    dscpLabel := cfg.dscpLabel
    summary := { receiver.metrics with durationS := measureSecs }.finish sqrt true
    paced := cfg.intervalUs.isSome
    sendLagMeanUs := lag.meanUs
    sendLagMaxUs := lag.maxUs
    dscpPreserved := receiver.dscpSeen.verdict }

def runMultiStream (configs : List StreamConfig) (pairs : List StreamTrace) (measureSecs : ℚ) :
    Except String MultiStreamResult :=
  if configs.length ≠ pairs.length then
    .error s!"stream config/pair mismatch: {configs.length} configs but {pairs.length} transport pairs"
  else .ok (.fromStreams (List.zipWith (streamResult sqrt measureSecs) configs pairs))

end Sqrt

end Seshat.Workload
