import Seshat.Lib.Machine
import Seshat.Run.SenderLoop
import Seshat.Workload.Receiver
import Mathlib.Tactic.Common

/-! The closed-loop ping-pong mode: `pingpong_client_loop`, `echo_loop`, and the two
FIFO directions of their connection. Messages carry two numbers the code does not have:
which send of the client they came from, and how many round trips were complete then. -/

namespace Seshat.Run.PingPong
open Workload Transport Metrics Proto.Wire Lib.Saturating Lib.Machine

structure Packet where
  send : Nat
  round : Nat
  bytes : List UInt8
  deriving DecidableEq, Repr

/-- A recorded round trip: the send whose time it starts from and the send it echoes. -/
structure Sample where
  send : Nat
  echoOf : Nat
  round : Nat
  seq : UInt64
  rttNs : UInt64
  deriving DecidableEq, Repr

/-- The client between a send and its receive. -/
structure Waiting where
  t0 : UInt64
  measuring : Bool
  deriving DecidableEq, Repr

structure State (messageBytes : UInt32) where
  seq : UInt64
  builder : MessageBuilder messageBytes
  waiting : Option Waiting
  metrics : FlowMetrics
  clientUp : Bool
  serverUp : Bool
  requests : List Packet
  replies : List Packet
  sends : Nat
  arrivals : Nat
  timeouts : Nat
  samples : List Sample

inductive Action where
  /-- A round of the client up to its `send_msg`, with the phase and clock reads of it. -/
  | clientSend (phase phaseMeasuring phaseRefused : Phase) (stampNs t0 : UInt64)
      (answer : Except ErrorKind Unit)
  | clientMessage (nowNs : UInt64)
  | clientTimeout (phase : Phase)
  /-- `Closed` or an error from the client's receive. -/
  | clientBreaks
  | echo (answer : Except ErrorKind Unit)
  | serverTimeout (phase : Phase)
  | serverBreaks

variable {messageBytes : UInt32}

def init (messageBytes : UInt32) : State messageBytes where
  seq := 0
  builder := .new messageBytes
  waiting := none
  metrics := {}
  clientUp := true
  serverUp := true
  requests := []
  replies := []
  sends := 0
  arrivals := 0
  timeouts := 0
  samples := []

def clientSend (s : State messageBytes) (phase phaseMeasuring phaseRefused : Phase)
    (stampNs t0 : UInt64) (answer : Except ErrorKind Unit) : State messageBytes :=
  if phase = .done then { s with clientUp := false }
  else
    let built := s.builder.buildAt s.seq stampNs
    match answer with
    | .ok () =>
        { s with
          builder := built.2
          requests := s.requests ++ [{ send := s.sends, round := s.arrivals, bytes := built.1 }]
          waiting := some { t0, measuring := phaseMeasuring = .measure }
          sends := s.sends + 1 }
    | .error .wouldBlock => { s with builder := built.2, clientUp := phaseRefused ≠ .done }
    | .error _ => { s with builder := built.2, clientUp := false }

/-- The echo `packet` reaches a waiting client, whatever send it echoes. -/
def clientMessage (s : State messageBytes) (waiting : Waiting) (packet : Packet)
    (rest : List Packet) (nowNs : UInt64) : State messageBytes :=
  let rttNs := satSub nowNs waiting.t0
  let recv := packet.bytes.take messageBytes.toNat
  let s := { s with
    replies := rest
    waiting := none
    seq := s.seq + 1
    arrivals := s.arrivals + 1 }
  if waiting.measuring then
    match decodeMessage recv with
    | .ok hdr =>
        let sample : Sample :=
          { send := s.sends - 1, echoOf := packet.send, round := packet.round, seq := hdr.seq,
            rttNs }
        { s with
          metrics := s.metrics.record hdr.seq rttNs (UInt64.ofNat recv.length)
          samples := s.samples ++ [sample] }
    | .error _ => s
  else s

def step (s : State messageBytes) : Action → Option (State messageBytes)
  | .clientSend phase phaseMeasuring phaseRefused stampNs t0 answer =>
      if s.clientUp = true ∧ s.waiting = none then
        some (clientSend s phase phaseMeasuring phaseRefused stampNs t0 answer)
      else none
  | .clientMessage nowNs =>
      match s.waiting, s.replies with
      | some waiting, packet :: rest => some (clientMessage s waiting packet rest nowNs)
      | _, _ => none
  | .clientTimeout phase =>
      match s.waiting with
      | some _ =>
          some { s with
            waiting := none, timeouts := s.timeouts + 1, clientUp := phase ≠ .done }
      | none => none
  | .clientBreaks =>
      match s.waiting with
      | some _ => some { s with waiting := none, clientUp := false }
      | none => none
  | .echo answer =>
      match s.serverUp, s.requests with
      | true, packet :: rest =>
          match answer with
          | .ok () =>
              some { s with
                requests := rest
                replies := s.replies ++
                  [{ packet with bytes := packet.bytes.take messageBytes.toNat }] }
          | .error _ => some { s with requests := rest, serverUp := false }
      | _, _ => none
  | .serverTimeout phase =>
      if s.serverUp then some { s with serverUp := phase ≠ .done } else none
  | .serverBreaks => if s.serverUp then some { s with serverUp := false } else none

/-! What every run keeps. -/

/-- The echo queues hold the sends in order, from the first one not yet arrived; the
client is one send ahead of its arrivals and timeouts while it waits. -/
structure Inv (s : State messageBytes) : Prop where
  seq : s.seq = UInt64.ofNat s.arrivals
  sent : s.clientUp = true →
    s.sends = s.arrivals + s.timeouts + if s.waiting.isSome then 1 else 0
  replied : s.replies.map Packet.send = List.range' s.arrivals s.replies.length
  requested : s.serverUp = true →
    s.requests.map Packet.send =
        List.range' (s.arrivals + s.replies.length) s.requests.length ∧
      s.arrivals + s.replies.length + s.requests.length = s.sends
  encoded : ∀ packet ∈ s.requests ++ s.replies, ∃ tsNs,
    packet.bytes = message (stamped messageBytes (UInt64.ofNat packet.round) tsNs)
  prompt : s.timeouts = 0 → ∀ packet ∈ s.requests ++ s.replies, packet.round = packet.send
  stays : s.waiting.isSome → s.clientUp = true

theorem init_inv (messageBytes : UInt32) : Inv (init messageBytes) := by
  constructor <;> simp [init]

/-- A stopped client changes nothing of what the invariant speaks of. -/
theorem Inv.stop {s : State messageBytes} (inv : Inv s)
    (builder : MessageBuilder messageBytes) :
    Inv { s with builder, waiting := none, clientUp := false } where
  seq := inv.seq
  sent up := by simp at up
  replied := inv.replied
  requested := inv.requested
  encoded := inv.encoded
  prompt := inv.prompt
  stays waits := by simp at waits

/-- A request that is sent queues up behind the others. -/
theorem Inv.request {s : State messageBytes} (inv : Inv s) (up : s.clientUp = true)
    (idle : s.waiting = none) (waiting : Waiting) (stampNs : UInt64) :
    let built := s.builder.buildAt s.seq stampNs
    Inv { s with
      builder := built.2
      requests := s.requests ++ [{ send := s.sends, round := s.arrivals, bytes := built.1 }]
      waiting := some waiting
      sends := s.sends + 1 } := by
  have sent := inv.sent up
  rw [idle] at sent
  simp only [Option.isSome_none, Bool.false_eq_true, if_false, Nat.add_zero] at sent
  intro built
  constructor
  · exact inv.seq
  · intro _
    simp only [Option.isSome_some, if_true]
    omega
  · exact inv.replied
  · intro serverUp
    obtain ⟨requested, total⟩ := inv.requested serverUp
    refine ⟨?_, ?_⟩
    · rw [List.map_append, requested, List.length_append, List.length_singleton,
        List.range'_1_concat, total]
      rfl
    · show s.arrivals + s.replies.length + (s.requests ++ [_]).length = s.sends + 1
      rw [List.length_append, List.length_singleton]
      omega
  · intro packet member
    rw [List.mem_append, List.mem_append, List.mem_singleton] at member
    rcases member with (old | rfl) | old
    · exact inv.encoded packet (List.mem_append_left _ old)
    · exact ⟨stampNs, by rw [s.builder.buildAt_message, inv.seq]⟩
    · exact inv.encoded packet (List.mem_append_right _ old)
  · intro none_yet packet member
    have none_yet : s.timeouts = 0 := none_yet
    rw [List.mem_append, List.mem_append, List.mem_singleton] at member
    rcases member with (old | rfl) | old
    · exact inv.prompt none_yet packet (List.mem_append_left _ old)
    · show s.arrivals = s.sends
      omega
    · exact inv.prompt none_yet packet (List.mem_append_right _ old)
  · exact fun _ => up

theorem clientSend_inv {s : State messageBytes} (inv : Inv s) (up : s.clientUp = true)
    (idle : s.waiting = none) (phase phaseMeasuring phaseRefused : Phase) (stampNs t0 : UInt64)
    (answer : Except ErrorKind Unit) :
    Inv (clientSend s phase phaseMeasuring phaseRefused stampNs t0 answer) := by
  have stopped (builder : MessageBuilder messageBytes) :
      Inv { s with builder, clientUp := false } := by
    have stop := inv.stop builder
    rwa [← idle] at stop
  unfold clientSend
  by_cases done : phase = .done
  · rw [if_pos done]
    exact stopped s.builder
  rw [if_neg done]
  match answer with
  | .ok () => exact inv.request up idle _ stampNs
  | .error .wouldBlock =>
    by_cases refused : phaseRefused = .done
    · simp only [refused, ne_eq, not_true_eq_false, decide_false]
      exact stopped _
    · simp only [ne_eq, refused, not_false_eq_true, decide_true]
      constructor
      · exact inv.seq
      · exact fun _ => inv.sent up
      · exact inv.replied
      · exact inv.requested
      · exact inv.encoded
      · exact inv.prompt
      · exact fun _ => rfl
  | .error .timedOut => exact stopped _
  | .error .interrupted => exact stopped _
  | .error .invalidData => exact stopped _
  | .error .other => exact stopped _

/-- Receiving an echo moves the queues on by one, whatever is recorded. -/
theorem clientMessage_frame (s : State messageBytes) (waiting : Waiting) (packet : Packet)
    (rest : List Packet) (nowNs : UInt64) :
    let next := clientMessage s waiting packet rest nowNs
    next.seq = s.seq + 1 ∧ next.waiting = none ∧ next.clientUp = s.clientUp ∧
      next.serverUp = s.serverUp ∧ next.requests = s.requests ∧ next.replies = rest ∧
      next.sends = s.sends ∧ next.arrivals = s.arrivals + 1 ∧ next.timeouts = s.timeouts := by
  unfold clientMessage
  dsimp only
  split
  · split
    · exact ⟨rfl, rfl, rfl, rfl, rfl, rfl, rfl, rfl, rfl⟩
    · exact ⟨rfl, rfl, rfl, rfl, rfl, rfl, rfl, rfl, rfl⟩
  · exact ⟨rfl, rfl, rfl, rfl, rfl, rfl, rfl, rfl, rfl⟩

theorem clientMessage_inv {s : State messageBytes} (inv : Inv s) {waiting : Waiting}
    (waits : s.waiting = some waiting) {packet : Packet} {rest : List Packet}
    (queue : s.replies = packet :: rest) (nowNs : UInt64) :
    Inv (clientMessage s waiting packet rest nowNs) := by
  obtain ⟨seq, idle, clientUp, serverUp, requests, replies, sends, arrivals, timeouts⟩ :=
    clientMessage_frame s waiting packet rest nowNs
  have replied := inv.replied
  rw [queue, List.map_cons, List.length_cons, List.range'_succ, List.cons.injEq] at replied
  have sent := inv.sent (inv.stays (by rw [waits]; rfl))
  rw [waits] at sent
  simp only [Option.isSome_some, if_true] at sent
  have subset : ∀ p ∈ s.requests ++ rest, p ∈ s.requests ++ s.replies := by
    intro p member
    rw [queue]
    simp only [List.mem_append, List.mem_cons] at member ⊢
    tauto
  generalize clientMessage s waiting packet rest nowNs = next at *
  constructor
  · rw [seq, inv.seq, arrivals, UInt64.ofNat_add]
    rfl
  · intro _
    rw [sends, arrivals, timeouts, idle]
    simp only [Option.isSome_none, Bool.false_eq_true, if_false]
    omega
  · rw [replies, arrivals]
    exact replied.2
  · intro up
    obtain ⟨requested, total⟩ := inv.requested (serverUp ▸ up)
    rw [queue, List.length_cons] at requested total
    rw [requests, replies, arrivals, sends]
    refine ⟨?_, by omega⟩
    rw [requested]
    congr 1
    omega
  · rw [requests, replies]
    exact fun p member => inv.encoded p (subset p member)
  · rw [requests, replies, timeouts]
    exact fun none_yet p member => inv.prompt none_yet p (subset p member)
  · rw [idle]
    simp

theorem clientTimeout_inv {s : State messageBytes} (inv : Inv s) {waiting : Waiting}
    (waits : s.waiting = some waiting) (phase : Phase) :
    Inv { s with
      waiting := none, timeouts := s.timeouts + 1, clientUp := phase ≠ .done } := by
  have sent := inv.sent (inv.stays (by rw [waits]; rfl))
  rw [waits] at sent
  simp only [Option.isSome_some, if_true] at sent
  constructor
  · exact inv.seq
  · intro _
    simp only [Option.isSome_none, Bool.false_eq_true, if_false]
    omega
  · exact inv.replied
  · exact inv.requested
  · exact inv.encoded
  · intro none_yet
    simp at none_yet
  · simp

/-- The server's copy of a whole message is the message. -/
theorem Inv.uncut {s : State messageBytes} (inv : Inv s) (sized : 24 ≤ messageBytes.toNat)
    {packet : Packet} (member : packet ∈ s.requests ++ s.replies) :
    packet.bytes.take messageBytes.toNat = packet.bytes := by
  obtain ⟨tsNs, whole⟩ := inv.encoded packet member
  rw [whole, List.take_of_length_le]
  rw [message_length, stamped_total, clampedSize_toNat]
  omega

theorem echo_inv {s : State messageBytes} (inv : Inv s) (sized : 24 ≤ messageBytes.toNat)
    (up : s.serverUp = true) {packet : Packet} {rest : List Packet}
    (queue : s.requests = packet :: rest) :
    Inv { s with
      requests := rest
      replies := s.replies ++ [{ packet with bytes := packet.bytes.take messageBytes.toNat }] } := by
  have uncut := inv.uncut sized (List.mem_append_left _ (queue ▸ List.mem_cons_self))
  rw [uncut]
  obtain ⟨requested, total⟩ := inv.requested up
  rw [queue, List.map_cons, List.length_cons, List.range'_succ, List.cons.injEq] at requested
  rw [queue, List.length_cons] at total
  have subset : ∀ p ∈ rest ++ (s.replies ++ [packet]), p ∈ s.requests ++ s.replies := by
    intro p member
    rw [queue]
    simp only [List.mem_append, List.mem_cons, List.not_mem_nil, or_false] at member ⊢
    tauto
  constructor
  · exact inv.seq
  · exact inv.sent
  · show (s.replies ++ [packet]).map Packet.send = _
    rw [List.map_append, inv.replied, List.length_append, List.length_singleton,
      List.range'_1_concat, List.map_singleton, requested.1]
  · intro _
    show rest.map Packet.send = List.range' (s.arrivals + (s.replies ++ [packet]).length) rest.length ∧
      s.arrivals + (s.replies ++ [packet]).length + rest.length = s.sends
    rw [List.length_append, List.length_singleton, ← Nat.add_assoc, requested.2]
    exact ⟨rfl, by omega⟩
  · exact fun p member => inv.encoded p (subset p member)
  · exact fun none_yet p member => inv.prompt none_yet p (subset p member)
  · exact inv.stays

/-- A stopped server echoes nothing any more, so its requests are no longer counted. -/
theorem Inv.stopServer {s : State messageBytes} (inv : Inv s) {requests : List Packet}
    (left : ∀ packet ∈ requests, packet ∈ s.requests) :
    Inv { s with requests, serverUp := false } := by
  have kept : ∀ packet ∈ requests ++ s.replies, packet ∈ s.requests ++ s.replies := by
    intro packet member
    rcases List.mem_append.mp member with request | reply
    · exact List.mem_append_left _ (left packet request)
    · exact List.mem_append_right _ reply
  exact
    { seq := inv.seq
      sent := inv.sent
      replied := inv.replied
      requested := fun up => by simp at up
      encoded := fun packet member => inv.encoded packet (kept packet member)
      prompt := fun none_yet packet member => inv.prompt none_yet packet (kept packet member)
      stays := inv.stays }

/-- What a step does, with the guards it passed. -/
inductive Stepped (s : State messageBytes) : Action → State messageBytes → Prop
  | clientSend (up : s.clientUp = true) (idle : s.waiting = none)
      (phase phaseMeasuring phaseRefused : Phase) (stampNs t0 : UInt64)
      (answer : Except ErrorKind Unit) :
      Stepped s (.clientSend phase phaseMeasuring phaseRefused stampNs t0 answer)
        (clientSend s phase phaseMeasuring phaseRefused stampNs t0 answer)
  | clientMessage (waiting : Waiting) (packet : Packet) (rest : List Packet)
      (waits : s.waiting = some waiting) (queue : s.replies = packet :: rest) (nowNs : UInt64) :
      Stepped s (.clientMessage nowNs) (clientMessage s waiting packet rest nowNs)
  | clientTimeout (waiting : Waiting) (waits : s.waiting = some waiting) (phase : Phase) :
      Stepped s (.clientTimeout phase)
        { s with waiting := none, timeouts := s.timeouts + 1, clientUp := phase ≠ .done }
  | clientBreaks : Stepped s .clientBreaks { s with waiting := none, clientUp := false }
  | echo (packet : Packet) (rest : List Packet) (up : s.serverUp = true)
      (queue : s.requests = packet :: rest) :
      Stepped s (.echo (.ok ()))
        { s with
          requests := rest
          replies := s.replies ++
            [{ packet with bytes := packet.bytes.take messageBytes.toNat }] }
  | serverStops (action : Action) (requests : List Packet)
      (server : ∀ nowNs, action ≠ .clientMessage nowNs)
      (left : ∀ packet ∈ requests, packet ∈ s.requests) :
      Stepped s action { s with requests, serverUp := false }
  | serverWaits (phase : Phase) : Stepped s (.serverTimeout phase) s

theorem step_stepped {s next : State messageBytes} {action : Action}
    (moved : step s action = some next) : Stepped s action next := by
  cases action with
  | clientSend phase phaseMeasuring phaseRefused stampNs t0 answer =>
    simp only [step] at moved
    split at moved
    · next ready =>
      rw [← Option.some.inj moved]
      exact .clientSend ready.1 ready.2 _ _ _ _ _ _
    · simp at moved
  | clientMessage nowNs =>
    simp only [step] at moved
    split at moved
    · next waiting packet rest waits queue =>
      rw [← Option.some.inj moved]
      exact .clientMessage waiting packet rest waits queue nowNs
    · simp at moved
  | clientTimeout phase =>
    simp only [step] at moved
    split at moved
    · next waiting waits =>
      rw [← Option.some.inj moved]
      exact .clientTimeout waiting waits phase
    · simp at moved
  | clientBreaks =>
    simp only [step] at moved
    split at moved
    · rw [← Option.some.inj moved]
      exact .clientBreaks
    · simp at moved
  | echo answer =>
    simp only [step] at moved
    split at moved
    · next packet rest up queue =>
      split at moved
      · rw [← Option.some.inj moved]
        exact .echo packet rest up queue
      · rw [← Option.some.inj moved]
        exact .serverStops _ rest nofun fun p member => queue ▸ List.mem_cons_of_mem _ member
    · simp at moved
  | serverTimeout phase =>
    simp only [step] at moved
    split at moved
    · next up =>
      rw [← Option.some.inj moved]
      by_cases done : phase = .done
      · simp only [done, ne_eq, not_true_eq_false, decide_false]
        exact .serverStops _ s.requests nofun fun _ member => member
      · have same : s = { s with serverUp := decide (phase ≠ .done) } := by
          rw [decide_eq_true done, ← up]
        rw [← same]
        exact .serverWaits phase
    · simp at moved
  | serverBreaks =>
    simp only [step] at moved
    split at moved
    · rw [← Option.some.inj moved]
      exact .serverStops _ s.requests nofun fun _ member => member
    · simp at moved

theorem step_inv (sized : 24 ≤ messageBytes.toNat) {s next : State messageBytes}
    {action : Action} (inv : Inv s) (moved : step s action = some next) : Inv next := by
  cases step_stepped moved with
  | clientSend up idle => exact clientSend_inv inv up idle _ _ _ _ _ _
  | clientMessage waiting packet rest waits queue nowNs =>
    exact clientMessage_inv inv waits queue nowNs
  | clientTimeout waiting waits phase => exact clientTimeout_inv inv waits phase
  | clientBreaks => exact inv.stop s.builder
  | echo packet rest up queue => exact echo_inv inv sized up queue
  | serverStops _ requests server left => exact inv.stopServer left
  | serverWaits phase => exact inv

/-! What is recorded. -/

/-- What an arriving echo adds to the samples and the metrics. -/
theorem clientMessage_samples {s : State messageBytes} (inv : Inv s)
    (sized : 24 ≤ messageBytes.toNat) {waiting : Waiting} (waits : s.waiting = some waiting)
    {packet : Packet} {rest : List Packet} (queue : s.replies = packet :: rest) (nowNs : UInt64) :
    let next := clientMessage s waiting packet rest nowNs
    let sample : Sample :=
      { send := s.arrivals + s.timeouts, echoOf := s.arrivals, round := packet.round,
        seq := UInt64.ofNat packet.round, rttNs := satSub nowNs waiting.t0 }
    if waiting.measuring then
      next.samples = s.samples ++ [sample] ∧
        next.metrics = s.metrics.record sample.seq sample.rttNs (UInt64.ofNat messageBytes.toNat)
    else next.samples = s.samples ∧ next.metrics = s.metrics := by
  have member : packet ∈ s.requests ++ s.replies :=
    List.mem_append_right _ (queue ▸ List.mem_cons_self)
  have uncut := inv.uncut sized member
  obtain ⟨tsNs, whole⟩ := inv.encoded packet member
  have size : packet.bytes.length = messageBytes.toNat := by
    rw [whole, message_length, stamped_total, clampedSize_toNat]
    omega
  have sent := inv.sent (inv.stays (by rw [waits]; rfl))
  rw [waits] at sent
  simp only [Option.isSome_some, if_true] at sent
  have echoed := inv.replied
  rw [queue, List.map_cons, List.length_cons, List.range'_succ, List.cons.injEq] at echoed
  have decoded : decodeMessage (packet.bytes.take messageBytes.toNat) =
      .ok (stamped messageBytes (UInt64.ofNat packet.round) tsNs) := by
    rw [uncut, whole, decodeMessage_exact]
  rw [uncut] at decoded
  have current : s.sends - 1 = s.arrivals + s.timeouts := by omega
  intro next sample
  by_cases measuring : waiting.measuring = true
  · rw [if_pos measuring]
    simp only [next, clientMessage, if_pos measuring, uncut, decoded, current, echoed.1, size]
    exact ⟨rfl, rfl⟩
  · rw [if_neg measuring]
    simp only [next, clientMessage, if_neg measuring]
    exact ⟨trivial, trivial⟩

/-- Only an arriving echo touches the samples, the metrics and the arrivals. -/
theorem step_samples {s next : State messageBytes} {action : Action}
    (moved : step s action = some next) (other : ∀ nowNs, action ≠ .clientMessage nowNs) :
    next.samples = s.samples ∧ next.metrics = s.metrics ∧ next.arrivals = s.arrivals := by
  cases step_stepped moved with
  | clientSend up idle phase phaseMeasuring phaseRefused stampNs t0 answer =>
    unfold clientSend
    split
    · exact ⟨rfl, rfl, rfl⟩
    · dsimp only
      split <;> exact ⟨rfl, rfl, rfl⟩
  | clientMessage waiting packet rest waits queue nowNs => exact absurd rfl (other nowNs)
  | clientTimeout waiting waits phase => exact ⟨rfl, rfl, rfl⟩
  | clientBreaks => exact ⟨rfl, rfl, rfl⟩
  | echo packet rest up queue => exact ⟨rfl, rfl, rfl⟩
  | serverStops _ requests server left => exact ⟨rfl, rfl, rfl⟩
  | serverWaits phase => exact ⟨rfl, rfl, rfl⟩

/-- Every recorded round trip is a send and its own echo, no round and no sequence number is
recorded twice (up to the wrap of the counter), and the metrics hold exactly these round trips. -/
structure Sound (s : State messageBytes) : Prop where
  paired : ∀ sample ∈ s.samples, sample.echoOf = sample.send
  apart : (s.samples.map Sample.round).Nodup
  once : s.arrivals ≤ UInt64.size → (s.samples.map Sample.seq).Nodup
  numbered : ∀ sample ∈ s.samples, sample.seq = UInt64.ofNat sample.round
  seqs : s.metrics.seqs = s.samples.map Sample.seq
  latencies : s.metrics.latenciesUs =
    s.samples.map fun sample => (sample.rttNs.toNat : ℚ) / 1000

/-- Rounds within the word have numbers of their own. -/
theorem rounds_once {s : State messageBytes} (apart : (s.samples.map Sample.round).Nodup)
    (numbered : ∀ sample ∈ s.samples, sample.seq = UInt64.ofNat sample.round)
    (past : ∀ sample ∈ s.samples, sample.round < s.arrivals) (within : s.arrivals ≤ UInt64.size) :
    (s.samples.map Sample.seq).Nodup := by
  have numbers : s.samples.map Sample.seq = (s.samples.map Sample.round).map UInt64.ofNat := by
    rw [List.map_map]
    exact List.map_congr_left numbered
  have small (round : Nat) (member : round ∈ s.samples.map Sample.round) :
      (UInt64.ofNat round).toNat = round := by
    obtain ⟨sample, recorded, rfl⟩ := List.mem_map.mp member
    exact UInt64.toNat_ofNat_of_lt' (Nat.lt_of_lt_of_le (past sample recorded) within)
  rw [numbers]
  refine apart.map_on fun first one second other same => ?_
  rw [← small first one, same, small second other]

theorem Sound.unrecorded {s next : State messageBytes} (sound : Sound s)
    (samples : next.samples = s.samples) (metrics : next.metrics = s.metrics)
    (arrivals : s.arrivals ≤ next.arrivals) : Sound next := by
  constructor
  · rw [samples]
    exact sound.paired
  · rw [samples]
    exact sound.apart
  · rw [samples]
    exact fun within => sound.once (Nat.le_trans arrivals within)
  · rw [samples]
    exact sound.numbered
  · rw [samples, metrics]
    exact sound.seqs
  · rw [samples, metrics]
    exact sound.latencies

/-- One more send with its own echo, in the round behind all others. -/
theorem Sound.recorded {s next : State messageBytes} (sound : Sound s) {sample : Sample}
    {bytes : UInt64} (samples : next.samples = s.samples ++ [sample])
    (metrics : next.metrics = s.metrics.record sample.seq sample.rttNs bytes)
    (paired : sample.echoOf = sample.send) (numbered : sample.seq = UInt64.ofNat sample.round)
    (behind : ∀ old ∈ s.samples, old.round < sample.round)
    (past : ∀ old ∈ next.samples, old.round < next.arrivals) : Sound next := by
  have all_apart : (next.samples.map Sample.round).Nodup := by
    rw [samples, List.map_append, List.map_singleton]
    refine List.Nodup.append sound.apart (List.nodup_singleton _) ?_
    intro number old new
    obtain ⟨other, member, rfl⟩ := List.mem_map.mp old
    have before := behind other member
    rw [List.mem_singleton.mp new] at before
    exact absurd before (lt_irrefl _)
  have all_numbered : ∀ other ∈ next.samples, other.seq = UInt64.ofNat other.round := by
    rw [samples]
    intro other member
    rcases List.mem_append.mp member with old | new
    · exact sound.numbered other old
    · rw [List.mem_singleton.mp new]
      exact numbered
  refine ⟨?_, all_apart, rounds_once all_apart all_numbered past, all_numbered, ?_, ?_⟩
  · rw [samples]
    intro other member
    rcases List.mem_append.mp member with old | new
    · exact sound.paired other old
    · rw [List.mem_singleton.mp new]
      exact paired
  · rw [samples, metrics, List.map_append, ← sound.seqs]
    rfl
  · rw [samples, metrics, List.map_append, ← sound.latencies]
    rfl

/-- No receive has timed out before an echo is measured. -/
def Prompt (s : State messageBytes) : Action → Prop
  | .clientMessage _ =>
      ∀ waiting, s.waiting = some waiting → waiting.measuring = true → s.timeouts = 0
  | _ => True

structure PromptInv (s : State messageBytes) : Prop where
  inv : Inv s
  sound : Sound s
  past : ∀ sample ∈ s.samples, sample.round < s.arrivals

theorem init_promptInv (messageBytes : UInt32) : PromptInv (init messageBytes) where
  inv := init_inv messageBytes
  sound := by constructor <;> simp [init]
  past := by simp [init]

theorem clientMessage_promptInv (sized : 24 ≤ messageBytes.toNat) {s : State messageBytes}
    (held : PromptInv s) {waiting : Waiting} (waits : s.waiting = some waiting) {packet : Packet}
    {rest : List Packet} (queue : s.replies = packet :: rest) (nowNs : UInt64)
    (prompt : waiting.measuring = true → s.timeouts = 0) :
    PromptInv (clientMessage s waiting packet rest nowNs) := by
  have inv := clientMessage_inv held.inv waits queue nowNs
  have arrivals := (clientMessage_frame s waiting packet rest nowNs).2.2.2.2.2.2.2.1
  have recorded := clientMessage_samples held.inv sized waits queue nowNs
  have sound := held.sound
  have past := held.past
  by_cases measuring : waiting.measuring = true
  · have none_yet := prompt measuring
    have member : packet ∈ s.requests ++ s.replies :=
      List.mem_append_right _ (queue ▸ List.mem_cons_self)
    have echoed := held.inv.replied
    rw [queue, List.map_cons, List.length_cons, List.range'_succ, List.cons.injEq] at echoed
    have round : packet.round = s.arrivals :=
      (held.inv.prompt none_yet packet member).trans echoed.1
    simp only [if_pos measuring, none_yet, round, Nat.add_zero] at recorded
    obtain ⟨samples, metrics⟩ := recorded
    have behind : ∀ old ∈ (clientMessage s waiting packet rest nowNs).samples,
        old.round < (clientMessage s waiting packet rest nowNs).arrivals := by
      rw [samples, arrivals]
      intro sample member
      rcases List.mem_append.mp member with old | new
      · exact Nat.lt_succ_of_lt (past sample old)
      · rw [List.mem_singleton.mp new]
        exact Nat.lt_succ_self _
    exact ⟨inv, sound.recorded samples metrics rfl rfl past behind, behind⟩
  · simp only [if_neg measuring] at recorded
    obtain ⟨samples, metrics⟩ := recorded
    refine ⟨inv, sound.unrecorded samples metrics (arrivals ▸ Nat.le_succ _), ?_⟩
    rw [samples, arrivals]
    exact fun sample member => Nat.lt_succ_of_lt (past sample member)

theorem step_promptInv (sized : 24 ≤ messageBytes.toNat) (s : State messageBytes)
    (action : Action) (next : State messageBytes) (held : PromptInv s) (prompt : Prompt s action)
    (moved : step s action = some next) : PromptInv next := by
  by_cases arrival : ∃ nowNs, action = .clientMessage nowNs
  · obtain ⟨nowNs, rfl⟩ := arrival
    cases step_stepped moved with
    | clientMessage waiting packet rest waits queue =>
      exact clientMessage_promptInv sized held waits queue nowNs (prompt waiting waits)
    | serverStops _ requests server left => exact absurd rfl (server nowNs)
  · obtain ⟨samples, metrics, arrivals⟩ := step_samples moved fun nowNs same =>
      arrival ⟨nowNs, same⟩
    refine ⟨step_inv sized held.inv moved,
      held.sound.unrecorded samples metrics (Nat.le_of_eq arrivals.symm), ?_⟩
    rw [samples, arrivals]
    exact held.past

/-! What a stale echo does. -/

/-- A sample that pairs a send with the echo of another one. -/
def Mispaired (s : State messageBytes) : Prop := ∃ sample ∈ s.samples, sample.echoOf ≠ sample.send

theorem clientMessage_keeps (s : State messageBytes) (waiting : Waiting) (packet : Packet)
    (rest : List Packet) (nowNs : UInt64) :
    ∀ sample ∈ s.samples, sample ∈ (clientMessage s waiting packet rest nowNs).samples := by
  intro sample member
  unfold clientMessage
  dsimp only
  split
  · split
    · exact List.mem_append_left _ member
    · exact member
  · exact member

theorem step_mispaired (s : State messageBytes) (action : Action) (next : State messageBytes)
    (bad : Mispaired s) (moved : step s action = some next) : Mispaired next := by
  obtain ⟨sample, member, apart⟩ := bad
  refine ⟨sample, ?_, apart⟩
  by_cases arrival : ∃ nowNs, action = .clientMessage nowNs
  · obtain ⟨nowNs, rfl⟩ := arrival
    cases step_stepped moved with
    | clientMessage waiting packet rest waits queue =>
      exact clientMessage_keeps s waiting packet rest nowNs sample member
    | serverStops _ requests server left => exact absurd rfl (server nowNs)
  · rw [(step_samples moved fun nowNs same => arrival ⟨nowNs, same⟩).1]
    exact member

/-- An echo measured after a timeout is the echo of an earlier send. -/
theorem step_unprompt (sized : 24 ≤ messageBytes.toNat) (s : State messageBytes)
    (action : Action) (next : State messageBytes) (inv : Inv s) (late : ¬Prompt s action)
    (moved : step s action = some next) : Mispaired next := by
  cases action with
  | clientMessage nowNs =>
    simp only [Prompt, not_forall] at late
    obtain ⟨waiting, waits, measuring, timedOut⟩ := late
    cases step_stepped moved with
    | clientMessage other packet rest waits' queue =>
      rw [waits, Option.some.injEq] at waits'
      subst waits'
      have recorded := clientMessage_samples inv sized waits queue nowNs
      rw [if_pos measuring] at recorded
      have new (sample : Sample) : sample ∈ s.samples ++ [sample] :=
        List.mem_append_right _ (List.mem_singleton_self _)
      have apart : s.arrivals ≠ s.arrivals + s.timeouts := by omega
      exact ⟨_, recorded.1.symm ▸ new _, apart⟩
    | serverStops _ requests server left => exact absurd rfl (server nowNs)
  | clientSend | clientTimeout | clientBreaks | echo | serverTimeout | serverBreaks =>
    exact absurd trivial late

theorem run_unprompt (sized : 24 ≤ messageBytes.toNat) {actions : List Action}
    {last : State messageBytes} (ran : run step (init messageBytes) actions = some last)
    (late : ¬Along step Prompt (init messageBytes) actions) : Mispaired last :=
  run_unguarded step (fun _ _ _ inv moved => step_inv sized inv moved) (step_unprompt sized)
    step_mispaired ran (init_inv messageBytes) late

/-- The recorded round trips are sound in exactly the runs where no receive timed out
before a measured echo. -/
theorem run_sound_iff (sized : 24 ≤ messageBytes.toNat) {actions : List Action}
    {last : State messageBytes} (ran : run step (init messageBytes) actions = some last) :
    Sound last ↔ Along step Prompt (init messageBytes) actions := by
  constructor
  · intro sound
    by_contra late
    obtain ⟨sample, member, apart⟩ := run_unprompt sized ran late
    exact apart (sound.paired sample member)
  · intro prompt
    exact (run_guarded step (step_promptInv sized) ran (init_promptInv messageBytes) prompt).sound

instance (s : State messageBytes) : (action : Action) → Decidable (Prompt s action)
  | .clientMessage _ => inferInstanceAs
      (Decidable (∀ waiting ∈ s.waiting, waiting.measuring = true → s.timeouts = 0))
  | .clientSend .. | .clientTimeout _ | .clientBreaks | .echo _ | .serverTimeout _
  | .serverBreaks => isTrue trivial

/-- One send of `t0` in the measure window, taken by the sink. -/
def measuredSend (t0 : UInt64) : Action := .clientSend .measure .measure .measure t0 t0 (.ok ())

/-- A refused send, two round trips, and a third send whose echo does not come. -/
def promptRun : List Action :=
  [measuredSend 5, .echo (.ok ()), .clientMessage 9,
    .clientSend .measure .measure .measure 11 11 (.error .wouldBlock), measuredSend 12,
    .serverTimeout .measure, .echo (.ok ()), .clientMessage 20, measuredSend 21,
    .clientTimeout .measure]

theorem run_sound_iff_roundTrip :
    ∃ last, run step (init 24) promptRun = some last ∧ Sound last ∧
      last.samples.map (fun sample => (sample.seq, sample.rttNs)) = [(0, 4), (1, 8)] := by
  have recorded : (run step (init 24) promptRun).map
      (fun last => last.samples.map fun sample => (sample.seq, sample.rttNs)) =
      some [(0, 4), (1, 8)] := by decide +kernel
  obtain ⟨last, ran, samples⟩ := Option.map_eq_some_iff.mp recorded
  have prompt : Along step Prompt (init 24) promptRun := by decide +kernel
  exact ⟨last, ran, (run_sound_iff (by decide) ran).mpr prompt, samples⟩

/-- The reply to the first send arrives in the receive of the second one. -/
theorem run_mispairs_late_echo :
    ¬∀ (actions : List Action) (last : State 24), run step (init 24) actions = some last →
      Sound last := by
  intro sound
  let actions : List Action :=
    [measuredSend 5, .clientTimeout .measure, measuredSend 9, .echo (.ok ()), .clientMessage 11]
  have late : ¬Along step Prompt (init 24) actions := by
    intro prompt
    obtain ⟨-, prompt⟩ := prompt
    obtain ⟨-, prompt⟩ := prompt _ rfl
    obtain ⟨-, prompt⟩ := prompt _ rfl
    obtain ⟨-, prompt⟩ := prompt _ rfl
    have prompt := prompt _ rfl
    exact absurd (prompt.1 _ rfl rfl) (by decide)
  have ran : run step (init 24) actions = some _ := rfl
  obtain ⟨sample, member, apart⟩ := run_unprompt (by decide) ran late
  exact apart ((sound actions _ ran).paired sample member)

end Seshat.Run.PingPong
