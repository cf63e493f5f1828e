import Seshat.Metrics.Pooling
import Seshat.Run.MeasureWindow
import Mathlib.Tactic.Common

/-! The handshake figures of the connection-rate mode: what each connector keeps of its
handshakes, how runs and connectors are averaged, and which handshakes the figures are of. -/

namespace Seshat.Run
open Transport Metrics Lib.Rounds

/-! The connectors of a run. -/

/-- One pass of a connector: its instants, and what the connect answers. -/
structure Connect where
  times : ConnTimes
  answer : Except ErrorKind UInt64

/-- The answers in their order. -/
def nextAnswer :
    List (Except ErrorKind UInt64) → Except ErrorKind UInt64 × List (Except ErrorKind UInt64)
  | [] => (.error .other, [])
  | answer :: rest => (answer, rest)

def connrateClientLoop (clock : Clock) (connects : List Connect) :
    Round (ConnState (List (Except ErrorKind UInt64))) StampedArrival :=
  rounds (connRound clock nextAnswer)
    { factory := connects.map Connect.answer
      seq := 0
      firstNs := none
      secondNs := none
      metrics := {} }
    (connects.map Connect.times)

structure ConnRun where
  clock : Clock
  connectors : List (List Connect)
  measureSecs : ℚ
  removeOutliers : Bool

/-- Microseconds. -/
def micros (ns : UInt64) : ℚ := ns.toNat / 1000

structure ConnSummary where
  connsPerSec : ℚ
  connsPerSecCi95 : ℚ
  handshakeP50Us : ℚ
  handshakeP99Us : ℚ
  totalConns : UInt64
  firstHandshakeUs : ℚ
  resumedHandshakeUs : ℚ

section Averages

variable (sqrt : ℚ → ℚ)

/-- The summary of a run, and its mean first and second handshake. -/
def runOnceConnrate (run : ConnRun) : FlowSummary × ℚ × ℚ :=
  let clients := run.connectors.map (connrateClientLoop run.clock)
  (aggregateRun sqrt (clients.map fun client => client.state.metrics) run.measureSecs
      run.removeOutliers,
    mean (clients.filterMap fun client => client.state.firstNs.map micros),
    mean (clients.filterMap fun client => client.state.secondNs.map micros))

def runScenarioConnrate (runs : List ConnRun) : ConnSummary :=
  let results := runs.map (runOnceConnrate sqrt)
  let rate := summarize sqrt (results.map fun result => result.1.messageRate)
  { connsPerSec := rate.mean
    connsPerSecCi95 := rate.ci95
    handshakeP50Us := (summarize sqrt (results.map fun result => result.1.latencyUs.p50)).mean
    handshakeP99Us := (summarize sqrt (results.map fun result => result.1.latencyUs.p99)).mean
    totalConns := results.foldl (fun sum result => sum + result.1.messages) 0
    firstHandshakeUs := mean (results.map fun result => result.2.1)
    resumedHandshakeUs := mean (results.map fun result => result.2.2) }

end Averages

/-! The connections that a connector establishes. -/

/-- The time of a handshake, and whether the flag read before it was MEASURE. -/
structure Handshake where
  ns : UInt64
  measured : Bool
  deriving DecidableEq, Repr

def handshakeOf (clock : Clock) (arrival : StampedArrival) : Option Handshake :=
  match arrival.entry, arrival.flagAt with
  | some (.sample _ ns _), some flagAt => some { ns, measured := clock.phase flagAt = .measure }
  | _, _ => none

def established (clock : Clock) (connects : List Connect) : List Handshake :=
  (connrateClientLoop clock connects).emitted.filterMap (handshakeOf clock)

/-- The times of the measured ones. -/
def measuredNs (handshakes : List Handshake) : List UInt64 :=
  (handshakes.filter Handshake.measured).map Handshake.ns

/-! What the figures are to be. -/

/-- The first connection of a connector, measured or not. -/
def coldSample (handshakes : List Handshake) : Option ℚ :=
  handshakes.head?.map fun handshake => micros handshake.ns

/-- The measured connections behind it. -/
def resumedSample (handshakes : List Handshake) : Option ℚ :=
  meanOf ((measuredNs handshakes.tail).map micros)

def ConnRun.handshakes (run : ConnRun) : List (List Handshake) :=
  run.connectors.map (established run.clock)

/-- The mean over the runs of the means over their connectors; what has no sample does not
count. -/
def meanSample (sample : List Handshake → Option ℚ) (runs : List ConnRun) : ℚ :=
  mean (runs.filterMap fun run => meanOf (run.handshakes.filterMap sample))

structure MeansFirstAndResumed (sqrt : ℚ → ℚ) (runs : List ConnRun) : Prop where
  first : (runScenarioConnrate sqrt runs).firstHandshakeUs = meanSample coldSample runs
  resumed : (runScenarioConnrate sqrt runs).resumedHandshakeUs = meanSample resumedSample runs

/-! What the loop of a connector establishes and keeps. -/

section Loop

variable {clock : Clock}

/-- The connections up to the end of the run. -/
def handshakesOf (clock : Clock) : List Connect → List Handshake
  | [] => []
  | connect :: rest =>
      if clock.phase connect.times.flagAt = .done then []
      else
        match connect.answer with
        | .ok ns =>
            { ns, measured := clock.phase connect.times.flagAt = .measure } ::
              handshakesOf clock rest
        | .error _ => handshakesOf clock rest

theorem rounds_established (connects : List Connect)
    (state : ConnState (List (Except ErrorKind UInt64)))
    (answers : state.factory = connects.map Connect.answer) :
    (rounds (connRound clock nextAnswer) state (connects.map Connect.times)).emitted.filterMap
      (handshakeOf clock) = handshakesOf clock connects := by
  induction connects generalizing state with
  | nil => rfl
  | cons connect rest ih =>
    rw [List.map_cons] at answers ⊢
    by_cases ended : clock.phase connect.times.flagAt = .done
    · have round : connRound clock nextAnswer state connect.times =
          { state, emitted := [], again := false } := by
        rw [connRound, if_pos ended]
      rw [rounds_break (by rw [round]), round, handshakesOf, if_pos ended]
      rfl
    · rw [handshakesOf, if_neg ended]
      have next : nextAnswer state.factory = (connect.answer, rest.map Connect.answer) := by
        rw [answers]
        rfl
      have again : (connRound clock nextAnswer state connect.times).again = true := by
        rw [connRound, if_neg ended, next]
        cases connect.answer <;> rfl
      have left : (connRound clock nextAnswer state connect.times).state.factory =
          rest.map Connect.answer := by
        rw [connRound, if_neg ended, next]
        cases connect.answer with
        | ok ns => exact (apply_ite ConnState.factory _ _ _).trans (ite_self _)
        | error kind => rfl
      rw [rounds_again again, List.filterMap_append, ih _ left, connRound, if_neg ended, next]
      cases connect.answer <;> rfl

theorem established_eq (connects : List Connect) :
    established clock connects = handshakesOf clock connects := rounds_established connects _ rfl

theorem measuredNs_append (first second : List Handshake) :
    measuredNs (first ++ second) = measuredNs first ++ measuredNs second := by
  rw [measuredNs, List.filter_append, List.map_append]
  rfl

/-- What is kept of the measured handshakes so far. -/
structure Keeps (clock : Clock) (state : ConnState (List (Except ErrorKind UInt64)))
    (out : List StampedArrival) : Prop where
  first : state.firstNs = (measuredNs (out.filterMap (handshakeOf clock)))[0]?
  second : state.secondNs = (measuredNs (out.filterMap (handshakeOf clock)))[1]?

theorem kept_append {seen : List UInt64} {firstOf secondOf : Option UInt64} (new : UInt64)
    (first : firstOf = seen[0]?) (second : secondOf = seen[1]?) :
    (firstOf.orElse fun _ => some new) = (seen ++ [new])[0]? ∧
      (if firstOf = none then secondOf else secondOf.orElse fun _ => some new) =
        (seen ++ [new])[1]? := by
  subst first second
  rcases seen with _ | ⟨one, _ | ⟨two, rest⟩⟩
  · exact ⟨rfl, rfl⟩
  · exact ⟨rfl, rfl⟩
  · exact ⟨rfl, rfl⟩

theorem connRound_keeps (state : ConnState (List (Except ErrorKind UInt64)))
    (out : List StampedArrival) (times : ConnTimes) (before : Keeps clock state out) :
    Keeps clock (connRound clock nextAnswer state times).state
      (out ++ (connRound clock nextAnswer state times).emitted) := by
  obtain ⟨first, second⟩ := before
  rw [connRound]
  dsimp only
  split
  · rw [List.append_nil]
    exact ⟨first, second⟩
  · split
    · next ns factory _ =>
      let arrival : StampedArrival :=
        { receivedAt := times.establishedAt
          flagAt := some times.flagAt
          entry := some (.sample state.seq ns 0) }
      have more : measuredNs ((out ++ [arrival]).filterMap (handshakeOf clock)) =
          measuredNs (out.filterMap (handshakeOf clock)) ++
            if clock.phase times.flagAt = .measure then [ns] else [] := by
        rw [List.filterMap_append, measuredNs_append]
        by_cases measuring : clock.phase times.flagAt = .measure
        · simp [measuredNs, handshakeOf, arrival, measuring]
        · simp [measuredNs, handshakeOf, arrival, measuring]
      by_cases measuring : clock.phase times.flagAt = .measure
      · rw [if_pos measuring] at more ⊢
        obtain ⟨one, two⟩ := kept_append ns first second
        exact ⟨one.trans (congrArg (·[0]?) more.symm), two.trans (congrArg (·[1]?) more.symm)⟩
      · rw [if_neg measuring, List.append_nil] at more
        rw [if_neg measuring]
        exact ⟨first.trans (congrArg (·[0]?) more.symm), second.trans (congrArg (·[1]?) more.symm)⟩
    · rw [List.append_nil]
      exact ⟨first, second⟩

/-- The first two measured handshakes are kept. -/
theorem clientLoop_keeps (connects : List Connect) :
    Keeps clock (connrateClientLoop clock connects).state
      (connrateClientLoop clock connects).emitted :=
  rounds_keeps (Keeps clock) (fun state out times _ => connRound_keeps state out times) ⟨rfl, rfl⟩

end Loop

/-! The figures, from the connections established. -/

/-- The handshake a connector keeps at a place. -/
def keptSample (place : Nat) (handshakes : List Handshake) : Option ℚ :=
  (measuredNs handshakes)[place]?.map micros

section Figures

variable (sqrt : ℚ → ℚ) (runs : List ConnRun)

def samplesOf (sample : List Handshake → Option ℚ) (runs : List ConnRun) : List (List ℚ) :=
  runs.map fun run => run.handshakes.filterMap sample

theorem firstHandshakeUs_eq :
    (runScenarioConnrate sqrt runs).firstHandshakeUs =
      meanOfAll (samplesOf (keptSample 0) runs) := by
  change mean ((runs.map (runOnceConnrate sqrt)).map fun result => result.2.1) =
    mean ((samplesOf (keptSample 0) runs).map mean)
  rw [samplesOf, List.map_map, List.map_map]
  refine congrArg mean (List.map_congr_left fun run _ => ?_)
  simp only [Function.comp_apply, runOnceConnrate, ConnRun.handshakes, List.filterMap_map]
  refine congrArg mean (List.filterMap_congr fun connects _ => ?_)
  rw [(clientLoop_keeps connects).first]
  rfl

theorem resumedHandshakeUs_eq :
    (runScenarioConnrate sqrt runs).resumedHandshakeUs =
      meanOfAll (samplesOf (keptSample 1) runs) := by
  change mean ((runs.map (runOnceConnrate sqrt)).map fun result => result.2.2) =
    mean ((samplesOf (keptSample 1) runs).map mean)
  rw [samplesOf, List.map_map, List.map_map]
  refine congrArg mean (List.map_congr_left fun run _ => ?_)
  simp only [Function.comp_apply, runOnceConnrate, ConnRun.handshakes, List.filterMap_map]
  refine congrArg mean (List.filterMap_congr fun connects _ => ?_)
  rw [(clientLoop_keeps connects).second]
  rfl

theorem meanSample_eq (sample : List Handshake → Option ℚ) :
    meanSample sample runs = meanOfSome (samplesOf sample runs) := by
  rw [meanSample, meanOfSome, samplesOf, List.filterMap_map]
  rfl

end Figures

end Seshat.Run
