import Seshat.Run.TimedLoops
import Mathlib.Tactic.Common

/-! Which of the arrivals a run counts were received in its MEASURE window. -/

namespace Seshat.Run
open Workload Transport Metrics Proto.Wire Lib.Rounds Lib.Saturating

/-- A worker of a run in one of the modes, with everything it meets. -/
inductive Worker : Type 1 where
  | receiver {σ : Type} (source : ReceiverSource σ) (start : σ) (messageBytes : UInt32)
      (turns : List ReceiverTimes)
  | pingPong {σ : Type} (client : DuplexEnd σ) (start : σ) (messageBytes : UInt32)
      (turns : List PingTimes)
  | connrate {σ : Type} (connectOnce : σ → Except ErrorKind UInt64 × σ) (start : σ)
      (turns : List ConnTimes)
  | distributed {σ : Type} (readExact : σ → Nat → Except ErrorKind (List UInt8) × σ) (start : σ)
      (messageBytes : UInt32) (turns : List DistributedTimes)

namespace Worker

/-- The metrics of a worker, and everything that came in. -/
def run (clock : Clock) : Worker → FlowMetrics × List StampedArrival
  | .receiver source start messageBytes turns =>
      receiverWindow clock source start messageBytes turns
  | .pingPong client start messageBytes turns =>
      let run := rounds (pingRound clock client)
        ({ client := start, builder := .new messageBytes, seq := 0, metrics := {} } :
          PingState _ messageBytes) turns
      (run.state.metrics, run.emitted)
  | .connrate connectOnce start turns =>
      let run := rounds (connRound clock connectOnce)
        { factory := start, seq := 0, firstNs := none, secondNs := none, metrics := {} } turns
      (run.state.metrics, run.emitted)
  | .distributed readExact start messageBytes turns =>
      let run := rounds (distributedRound clock readExact (max messageBytes.toNat headerLen))
        { rest := start, metrics := {} } turns
      (run.state.metrics, run.emitted)

def metrics (clock : Clock) (worker : Worker) : FlowMetrics := (worker.run clock).1

def arrivals (clock : Clock) (worker : Worker) : List StampedArrival := (worker.run clock).2

/-- No receive and no round trip of the worker lies across a border of the window: a receiver
looks at the flag behind the receive, a client before it, and the distributed receiver never. -/
def Unstraddled (clock : Clock) (worker : Worker) : Prop :=
  match worker with
  | .receiver .. =>
      ∀ arrival ∈ worker.arrivals clock, ∀ flagAt ∈ arrival.flagAt,
        ¬(arrival.receivedAt < clock.measureAt ∧ clock.Measuring flagAt)
  | .pingPong .. =>
      ∀ arrival ∈ worker.arrivals clock, arrival.entry.isSome = true → ∀ flagAt ∈ arrival.flagAt,
        ¬(clock.Measuring flagAt ∧ clock.cooldownAt ≤ arrival.receivedAt)
  | .connrate .. =>
      ∀ arrival ∈ worker.arrivals clock, arrival.entry.isSome = true → ∀ flagAt ∈ arrival.flagAt,
        ¬(clock.Measuring flagAt ∧ clock.cooldownAt ≤ arrival.receivedAt)
  | .distributed .. => ∀ arrival ∈ worker.arrivals clock, arrival.entry = none

end Worker

/-- A run: its clock, the workers of its connections, and what the aggregation is told. -/
structure WindowedRun where
  clock : Clock
  workers : List Worker
  measureSecs : ℚ
  removeOutliers : Bool

namespace WindowedRun

def summary (sqrt : ℚ → ℚ) (run : WindowedRun) : FlowSummary :=
  aggregateRun sqrt (run.workers.map (Worker.metrics run.clock)) run.measureSecs run.removeOutliers

/-- Everything the run counts was received while the phase was MEASURE. -/
def Pure (run : WindowedRun) : Prop :=
  ∀ worker ∈ run.workers, ∀ arrival ∈ worker.arrivals run.clock,
    (arrival.counted run.clock).isSome = true → run.clock.phase arrival.receivedAt = .measure

end WindowedRun

/-! What one round counts, and when it received it. -/

/-- The flag is read behind the receive. -/
structure FlagBehind (arrival : StampedArrival) : Prop where
  entry : arrival.entry.isSome = true
  flag : ∃ flagAt, arrival.flagAt = some flagAt ∧ arrival.receivedAt ≤ flagAt

/-- The flag is read before the operation that receives. -/
def FlagBefore (arrival : StampedArrival) : Prop :=
  ∃ flagAt, arrival.flagAt = some flagAt ∧ flagAt ≤ arrival.receivedAt

/-- No flag is read, and the run is over. -/
def Unflagged (clock : Clock) (arrival : StampedArrival) : Prop :=
  arrival.flagAt = none ∧ clock.doneAt ≤ arrival.receivedAt

/-- A round that counts as the tally of its arrivals does. -/
structure Tallied {σ : Type} (clock : Clock) (metrics : σ → FlowMetrics) (good : StampedArrival → Prop)
    (before : σ) (round : Round σ StampedArrival) : Prop where
  tally : metrics round.state = tally clock (metrics before) round.emitted
  good : ∀ arrival ∈ round.emitted, good arrival

theorem rounds_tallied {σ τ : Type} {clock : Clock} {metrics : σ → FlowMetrics}
    {good : StampedArrival → Prop} {body : σ → τ → Round σ StampedArrival}
    (each : ∀ state turn, Tallied clock metrics good state (body state turn)) (start : σ)
    (turns : List τ) : Tallied clock metrics good start (rounds body start turns) := by
  suffices both : metrics (rounds body start turns).state =
      Run.tally clock (metrics start) (rounds body start turns).emitted ∧
        ∀ arrival ∈ (rounds body start turns).emitted, good arrival by
    exact ⟨both.1, both.2⟩
  refine rounds_keeps (fun state out => metrics state = Run.tally clock (metrics start) out ∧
    ∀ arrival ∈ out, good arrival) (fun state out turn _ kept => ?_) ⟨rfl, nofun⟩
  obtain ⟨counted, ordered⟩ := each state turn
  constructor
  · rw [tally_append, ← kept.1, counted]
  · exact List.forall_mem_append.mpr ⟨kept.2, ordered⟩

theorem tally_single (clock : Clock) (metrics : FlowMetrics) (receivedAt flagAt : Nat)
    (entry : Option Entry) :
    tally clock metrics [{ receivedAt, flagAt := some flagAt, entry }] =
      if clock.phase flagAt = .measure then entry.elim metrics (Entry.account metrics)
      else metrics := by
  simp only [tally, StampedArrival.counted, List.filterMap_cons, List.filterMap_nil]
  split_ifs
  · cases entry <;> rfl
  · rfl

section Rounds

variable {σ : Type} (clock : Clock)

/-- All deliveries of a batch share its flag read. -/
theorem tally_batch (stride : Nat) (read : ReadTimes) (deliveries : List Delivery)
    (metrics : FlowMetrics)
    (same : ∀ delivery ∈ deliveries, delivery.phase = clock.phase read.flagAt) :
    deliveries.foldl (Delivery.account stride) metrics =
      tally clock metrics (deliveries.map fun delivery =>
        { receivedAt := read.receivedAt
          flagAt := some read.flagAt
          entry := some (.message stride delivery.msg delivery.recvNs) }) := by
  induction deliveries generalizing metrics with
  | nil => rfl
  | cons first rest ih =>
    rw [List.foldl_cons, ih _ fun delivery member => same delivery (List.mem_cons_of_mem _ member),
      List.map_cons, ← List.singleton_append, tally_append, tally_single, Delivery.account,
      same first List.mem_cons_self]
    rfl

theorem copyRound_tallied (source : ReceiverSource σ) (stride batch : Nat)
    (state : ReceiverState σ) (times : ReceiverTimes) :
    Tallied clock ReceiverState.metrics FlagBehind state
      (copyRound clock source stride batch state times) := by
  let read := times.each 0
  let turn : ReceiverTurn :=
    { phase := clock.phase read.flagAt, recvNs := UInt64.ofNat read.stampedAt }
  constructor
  · have counted := receiverRound_metrics source.toDataSource stride batch state turn
    rw [tally_batch clock stride read _ _ fun delivery member =>
      (receiverRound_turn _ _ _ state turn delivery member).1] at counted
    exact counted
  · intro arrival member
    obtain ⟨delivery, -, rfl⟩ := List.mem_map.mp member
    exact ⟨rfl, _, rfl, Nat.le_trans read.stamped read.flagged⟩

theorem shownRound_tallied (source : ReceiverSource σ) (stride batch : Nat)
    (state : Counting σ) (times : ReceiverTimes) :
    Tallied clock Counting.metrics FlagBehind state
      (shownRound clock source stride batch state times) := by
  constructor
  · simp only [shownRound]
    generalize (source.recvInplace state.rest batch).2.1.zipIdx = shown
    generalize state.metrics = metrics
    induction shown generalizing metrics with
    | nil => rfl
    | cons first rest ih =>
      rw [List.foldl_cons, ih, List.map_cons, ← List.singleton_append, tally_append]
      congr 1
      rw [shownArrival, tally_single]
      rfl
  · intro arrival member
    obtain ⟨shown, -, rfl⟩ := List.mem_map.mp member
    exact ⟨rfl, _, rfl, Nat.le_trans (times.each shown.2).stamped (times.each shown.2).flagged⟩

theorem pingRound_tallied {messageBytes : UInt32} (client : DuplexEnd σ)
    (state : PingState σ messageBytes) (times : PingTimes) :
    Tallied clock PingState.metrics FlagBefore state (pingRound clock client state times) := by
  have ordered : times.flagAt ≤ times.receivedAt := Nat.le_trans times.sent times.received
  unfold pingRound
  split
  · exact ⟨rfl, nofun⟩
  · dsimp only
    split
    · exact ⟨rfl, nofun⟩
    · exact ⟨rfl, nofun⟩
    · split
      · constructor
        · exact (tally_single clock state.metrics _ _ _).symm
        · intro arrival member
          rw [List.mem_singleton.mp member]
          exact ⟨_, rfl, ordered⟩
      · exact ⟨rfl, nofun⟩
      · exact ⟨rfl, nofun⟩
      · exact ⟨rfl, nofun⟩

theorem connRound_tallied (connectOnce : σ → Except ErrorKind UInt64 × σ) (state : ConnState σ)
    (times : ConnTimes) :
    Tallied clock ConnState.metrics FlagBefore state (connRound clock connectOnce state times) := by
  unfold connRound
  dsimp only
  split
  · exact ⟨rfl, nofun⟩
  · split
    · constructor
      · rw [tally_single]
        split_ifs <;> rfl
      · intro arrival member
        rw [List.mem_singleton.mp member]
        exact ⟨_, rfl, times.established⟩
    · exact ⟨rfl, nofun⟩

theorem distributedRound_tallied (readExact : σ → Nat → Except ErrorKind (List UInt8) × σ)
    (msgBytes : Nat) (state : Counting σ) (times : DistributedTimes) :
    Tallied clock Counting.metrics (Unflagged clock) state
      (distributedRound clock readExact msgBytes state times) := by
  unfold distributedRound
  split
  · next buf rest _ =>
    constructor
    · simp only [tally, StampedArrival.counted, List.filterMap_cons, List.filterMap_nil]
      cases headerEntry msgBytes (UInt64.ofNat times.stampedAt) buf <;> rfl
    · intro arrival member
      rw [List.mem_singleton.mp member]
      exact ⟨rfl, Nat.le_add_right _ _⟩
  · exact ⟨rfl, nofun⟩

end Rounds

/-! What a whole run counts. -/

/-- The order of receive and flag read that a mode gives every arrival. -/
def Worker.Ordered (clock : Clock) : Worker → StampedArrival → Prop
  | .receiver .. => FlagBehind
  | .pingPong .. => FlagBefore
  | .connrate .. => FlagBefore
  | .distributed .. => Unflagged clock

theorem worker_tallied (clock : Clock) (worker : Worker) :
    worker.metrics clock = tally clock {} (worker.arrivals clock) ∧
      ∀ arrival ∈ worker.arrivals clock, worker.Ordered clock arrival := by
  cases worker with
  | receiver source start messageBytes turns =>
    simp only [Worker.metrics, Worker.arrivals, Worker.run, receiverWindow]
    split
    · have all := rounds_tallied (shownRound_tallied clock source messageBytes.toNat
        (clampBatch source.preferredBatch)) { rest := start, metrics := {} } turns
      exact ⟨all.tally, all.good⟩
    · have all := rounds_tallied (copyRound_tallied clock source messageBytes.toNat
        (clampBatch source.preferredBatch))
        { source := start
          slots := freshSlots messageBytes.toNat (clampBatch source.preferredBatch)
          metrics := {} } turns
      exact ⟨all.tally, all.good⟩
  | pingPong client start messageBytes turns =>
    have all := rounds_tallied (pingRound_tallied clock client)
      ({ client := start, builder := .new messageBytes, seq := 0, metrics := {} } :
        PingState _ messageBytes) turns
    exact ⟨all.tally, all.good⟩
  | connrate connectOnce start turns =>
    have all := rounds_tallied (connRound_tallied clock connectOnce)
      { factory := start, seq := 0, firstNs := none, secondNs := none, metrics := {} } turns
    exact ⟨all.tally, all.good⟩
  | distributed readExact start messageBytes turns =>
    have all := rounds_tallied (distributedRound_tallied clock readExact
      (max messageBytes.toNat headerLen)) { rest := start, metrics := {} } turns
    exact ⟨all.tally, all.good⟩

/-- The summary of a run is made of its counted arrivals alone. -/
theorem summary_counted (sqrt : ℚ → ℚ) (run : WindowedRun) :
    run.summary sqrt =
      aggregateRun sqrt
        (run.workers.map fun worker => tally run.clock {} (worker.arrivals run.clock))
        run.measureSecs run.removeOutliers := by
  rw [WindowedRun.summary]
  congr 1
  exact List.map_congr_left fun worker _ => (worker_tallied run.clock worker).1

/-! Purity: a border of the window is missed only by an operation that lies across it. -/

section Arrivals

variable {clock : Clock} {arrival : StampedArrival}

theorem counted_flag {flagAt : Nat} (flag : arrival.flagAt = some flagAt) :
    (arrival.counted clock).isSome = true ↔
      clock.Measuring flagAt ∧ arrival.entry.isSome = true := by
  rw [StampedArrival.counted, flag, ← clock.phase_measure]
  dsimp only
  split_ifs with measuring <;> simp [measuring]

theorem behind_pure (behind : FlagBehind arrival) :
    ((arrival.counted clock).isSome = true → clock.phase arrival.receivedAt = .measure) ↔
      ∀ flagAt ∈ arrival.flagAt, ¬(arrival.receivedAt < clock.measureAt ∧ clock.Measuring flagAt) := by
  obtain ⟨entry, flagAt, flag, order⟩ := behind
  rw [counted_flag flag, clock.phase_measure, flag]
  simp only [entry, and_true, Option.mem_some_iff, forall_eq', Clock.Measuring]
  omega

theorem before_pure (before : FlagBefore arrival) :
    ((arrival.counted clock).isSome = true → clock.phase arrival.receivedAt = .measure) ↔
      (arrival.entry.isSome = true → ∀ flagAt ∈ arrival.flagAt,
        ¬(clock.Measuring flagAt ∧ clock.cooldownAt ≤ arrival.receivedAt)) := by
  obtain ⟨flagAt, flag, order⟩ := before
  rw [counted_flag flag, clock.phase_measure, flag]
  simp only [Option.mem_some_iff, forall_eq', Clock.Measuring]
  constructor
  · intro measured entry straddles
    have inside := measured ⟨straddles.1, entry⟩
    omega
  · intro apart counted
    have within := apart counted.2
    omega

/-- Behind `DONE` nothing is received in the window. -/
theorem unflagged_pure (unflagged : Unflagged clock arrival) :
    ((arrival.counted clock).isSome = true → clock.phase arrival.receivedAt = .measure) ↔
      arrival.entry = none := by
  obtain ⟨flag, done⟩ := unflagged
  have outside : ¬clock.phase arrival.receivedAt = .measure := by
    rw [clock.phase_measure, Clock.Measuring]
    have cools := clock.cools
    omega
  rw [StampedArrival.counted, flag]
  simp only [outside, imp_false, Bool.not_eq_true, Option.isSome_eq_false_iff,
    Option.isNone_iff_eq_none]

end Arrivals

theorem worker_pure_iff (clock : Clock) (worker : Worker) :
    (∀ arrival ∈ worker.arrivals clock, (arrival.counted clock).isSome = true →
      clock.phase arrival.receivedAt = .measure) ↔ worker.Unstraddled clock := by
  have ordered := (worker_tallied clock worker).2
  cases worker with
  | receiver source start messageBytes turns =>
    exact forall₂_congr fun arrival member => behind_pure (ordered arrival member)
  | pingPong client start messageBytes turns =>
    exact forall₂_congr fun arrival member => before_pure (ordered arrival member)
  | connrate connectOnce start turns =>
    exact forall₂_congr fun arrival member => before_pure (ordered arrival member)
  | distributed readExact start messageBytes turns =>
    exact forall₂_congr fun arrival member => unflagged_pure (ordered arrival member)

/-- In every mode, at every schedule of the phases and every order of arrivals, a run counts
only what it received in its window exactly where nothing lies across a border of it. -/
theorem run_pure_iff (run : WindowedRun) :
    run.Pure ↔ ∀ worker ∈ run.workers, worker.Unstraddled run.clock :=
  forall₂_congr fun worker _ => worker_pure_iff run.clock worker

def shortClock : Clock where
  measureAt := 10
  cooldownAt := 20
  doneAt := 30
  warms := by decide
  cools := by decide

/-- A connection begun at 19 and established at 25. -/
def lateConnect : WindowedRun where
  clock := shortClock
  workers :=
    [.connrate (fun up => (.ok 6000, up)) ()
      [{ flagAt := 19, establishedAt := 25, established := by decide }]]
  measureSecs := 10
  removeOutliers := false

/-- One message on a connection of the distributed receiver. -/
def backlog : WindowedRun where
  clock := shortClock
  workers :=
    [.distributed
      (fun (msgs : List (List UInt8)) _ =>
        match msgs with
        | [] => (.error .timedOut, [])
        | msg :: rest => (.ok msg, rest))
      [WireHeader.bytes { seq := 0, tsNs := 5, payloadLen := 0 }] 24
      [{ delay := 1, stampedAt := 31 }]]
  measureSecs := 10
  removeOutliers := false

/-- Both are counted, the first in COOLDOWN and the second behind DONE. -/
theorem counted_outside_window : ¬lateConnect.Pure ∧ ¬backlog.Pure := by
  constructor
  · intro measured
    have late := measured _ List.mem_cons_self
      { receivedAt := 25, flagAt := some 19, entry := some (.sample 0 6000 0) } (by decide) (by decide)
    exact absurd late (by decide)
  · intro measured
    have late := measured _ List.mem_cons_self
      { receivedAt := 31, flagAt := none, entry := some (.sample 0 26 24) }
      (by decide +kernel) (by decide)
    exact absurd late (by decide)

end Seshat.Run
