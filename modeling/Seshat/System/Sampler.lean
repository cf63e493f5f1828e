import Seshat.Lib.SortedMap
import Seshat.Report.Cells
import Mathlib.Algebra.Order.Floor.Semiring

/-! The sampler of the gateway processes and the rollup of what it sampled. Each operation on
`f64` values is one on rationals whose result is rounded; none of them leaves the range of the
normal doubles. -/

namespace Seshat.System
open Lib.Binary64 Lib.SortedMap

/-! Sampling. -/

/-- What `/proc` tells about one process. -/
structure ProcReading where
  rssKib : UInt64
  pssKib : UInt64
  threads : UInt64
  utimeTicks : UInt64
  stimeTicks : UInt64
  voluntaryCtxt : UInt64
  nonvoluntaryCtxt : UInt64
  readBytes : UInt64
  writeBytes : UInt64
  threadTicks : List (UInt32 × UInt64)
  deriving DecidableEq, Repr

structure SystemSample extends ProcReading where
  elapsedMs : Nat
  pid : UInt32
  hostBusyTicks : UInt64
  hostTotalTicks : UInt64
  deriving DecidableEq, Repr

/-- What one turn of the loop reads: the nanoseconds since the start, the counters of the host
and those of each process that has not exited. -/
structure Round where
  now : Nat
  hostBusy : UInt64
  hostTotal : UInt64
  proc : Int32 → Option ProcReading

namespace Round

/-- `as_millis() as u64` -/
def elapsedMs (round : Round) : Nat := round.now / 1000000 % UInt64.size

def samplePid (round : Round) (pid : Int32) : Option SystemSample :=
  (round.proc pid).map fun reading =>
    { reading with
      elapsedMs := round.elapsedMs
      pid := pid.toUInt32
      hostBusyTicks := round.hostBusy
      hostTotalTicks := round.hostTotal }

end Round

/-- `Duration::from_secs_f64(1.0 / rate_hz)` in nanoseconds. -/
def samplingInterval (rateHz : UInt32) : Nat :=
  roundHalfEven (onGrid (1 / rateHz.toNat) * 1000000000)

structure SampleState where
  next : Nat := 0
  out : List SystemSample := []

/-- A turn samples every process once its tick is due. -/
def SampleState.turn (pids : List Int32) (interval : Nat) (state : SampleState) (round : Round) :
    SampleState :=
  if state.next ≤ round.now then
    let next := state.next + interval
    { next := if next ≤ round.now then round.now + interval else next
      out := state.out ++ pids.filterMap round.samplePid }
  else state

/-- The turns until the sampler is stopped. -/
def sampleLoop (pids : List Int32) (rateHz : UInt32) (rounds : List Round) : List SystemSample :=
  (rounds.foldl (SampleState.turn pids (samplingInterval rateHz)) {}).out

/-! Rolling up. -/

/-- The clock ticks a second, from `sysconf`. -/
def clkTck (sysconf : Int64) : ℚ := if 0 < sysconf then onGrid sysconf.toInt else 100

/-- `u64::saturating_sub` as a number. -/
def grown (before after : UInt64) : Nat := after.toNat - before.toNat

namespace SystemSample

def cpuTicks (s : SystemSample) : UInt64 := s.utimeTicks + s.stimeTicks

def ctxSwitches (s : SystemSample) : UInt64 := s.voluntaryCtxt + s.nonvoluntaryCtxt

end SystemSample

/-- Milliseconds as seconds. -/
def seconds (ms : Nat) : ℚ := onGrid (onGrid ms / 1000)

def cpuSeconds (ticks : Nat) (tck : ℚ) : ℚ := onGrid (onGrid ticks / tck)

/-- The share of the time in percent. -/
def percent (ticks : Nat) (tck time : ℚ) : ℚ := onGrid (onGrid (cpuSeconds ticks tck / time) * 100)

def cpuPercent (prev cur : SystemSample) (tck : ℚ) : ℚ :=
  let dt := seconds (cur.elapsedMs - prev.elapsedMs)
  if dt ≤ 0 then 0 else percent (grown prev.cpuTicks cur.cpuTicks) tck dt

def hotThreadPercent (prev cur : SystemSample) (tck : ℚ) : ℚ :=
  let dt := seconds (cur.elapsedMs - prev.elapsedMs)
  if dt ≤ 0 then 0
  else
    let hottest := cur.threadTicks.foldl (fun hottest thread =>
      match prev.threadTicks.find? fun other => other.1 = thread.1 with
      | some other => max hottest (grown other.2 thread.2)
      | none => hottest) 0
    percent hottest tck dt

/-- The nearest rank of a series that need not be sorted. -/
def nearestRank (values : List ℚ) (p : ℚ) : ℚ :=
  let rank := ⌈onGrid (values.length * max 0 (min 1 p))⌉₊
  (values.mergeSort (· ≤ ·)).getD (min (rank - 1) (values.length - 1)) 0

structure SysAgg extends Report.SysAgg where
  nPids : Nat
  cpuHotThreadPctPeak : ℚ
  windowS : ℚ

def firstSeen (samples : List SystemSample) : List UInt32 :=
  samples.foldl (fun pids s => if s.pid ∈ pids then pids else pids ++ [s.pid]) []

/-- What the rollup has gathered. -/
structure Rollup where
  cpuByTime : List (Nat × ℚ) := []
  rssByTime : List (Nat × UInt64) := []
  pssByTime : List (Nat × UInt64) := []
  hotByTime : List (Nat × ℚ) := []
  hostByTime : List (Nat × (UInt64 × UInt64)) := []
  ctxTotal : UInt64 := 0
  cpuTicksTotal : UInt64 := 0
  spanS : ℚ := 0

namespace Rollup

/-- One sample and the one before it of the same process. -/
def sample (tck : ℚ) (rollup : Rollup) (prev : Option SystemSample) (s : SystemSample) : Rollup :=
  let cpu := prev.elim 0 fun p => cpuPercent p s tck
  let hot := prev.elim 0 fun p => hotThreadPercent p s tck
  { rollup with
    cpuByTime := upsert s.elapsedMs 0 (fun total => onGrid (total + cpu)) rollup.cpuByTime
    rssByTime := upsert s.elapsedMs 0 (· + s.rssKib) rollup.rssByTime
    pssByTime := upsert s.elapsedMs 0 (· + s.pssKib) rollup.pssByTime
    hotByTime := upsert s.elapsedMs 0 (max · hot) rollup.hotByTime
    hostByTime := upsert s.elapsedMs (s.hostBusyTicks, s.hostTotalTicks) id rollup.hostByTime }

/-- The whole series of one process. -/
def series (tck : ℚ) (rollup : Rollup) (samples : List SystemSample) : Rollup :=
  let (rollup, _) := samples.foldl
    (fun (rollup, prev) s => (sample tck rollup prev s, some s)) (rollup, none)
  match samples.head?, samples.getLast? with
  | some first, some last =>
      { rollup with
        ctxTotal := rollup.ctxTotal + .ofNat (grown first.ctxSwitches last.ctxSwitches)
        cpuTicksTotal := rollup.cpuTicksTotal + .ofNat (grown first.cpuTicks last.cpuTicks)
        spanS := max rollup.spanS (seconds (last.elapsedMs - first.elapsedMs)) }
  | _, _ => rollup

end Rollup

/-- The busy fraction of the host from one tick to the next. -/
def hostBusy : List (UInt64 × UInt64) → List ℚ
  | (busy, total) :: (busy', total') :: rest =>
      let tail := hostBusy ((busy', total') :: rest)
      if 0 < grown total total' then
        onGrid (onGrid (grown busy busy') / onGrid (grown total total')) :: tail
      else tail
  | _ => []

def rollUp (tck : ℚ) (samples : List SystemSample) : Rollup :=
  (firstSeen samples).foldl
    (fun rollup pid => rollup.series tck (samples.filter fun s => s.pid = pid)) {}

def aggregate (tck : ℚ) (samples : List SystemSample) : Option SysAgg :=
  if samples.isEmpty then none
  else
    let rollup := rollUp tck samples
    let times := rollup.cpuByTime.map Prod.fst
    -- the first tick has no delta to a tick before
    let measured := if 1 < times.length then times.tail else times
    let cpuSeries := measured.map (valueAt 0 rollup.cpuByTime)
    let hotSeries := measured.map (valueAt 0 rollup.hotByTime)
    let hostSeries := hostBusy (rollup.hostByTime.map Prod.snd)
    some
      { nPids := (firstSeen samples).length
        cpuPctPeak := cpuSeries.foldl max 0
        cpuPctMean :=
          if 0 < rollup.spanS then percent rollup.cpuTicksTotal.toNat tck rollup.spanS else 0
        cpuPctP95 := nearestRank cpuSeries (onGrid 0.95)
        cpuHotThreadPctPeak := hotSeries.foldl max 0
        cpuHotThreadPctP95 := nearestRank hotSeries (onGrid 0.95)
        hostBusyFracP95 := nearestRank hostSeries (onGrid 0.95)
        rssPeakKib := (rollup.rssByTime.map Prod.snd).foldl max 0
        pssPeakKib := (rollup.pssByTime.map Prod.snd).foldl max 0
        ctxSwitchesPerS :=
          if 0 < rollup.spanS then onGrid (onGrid rollup.ctxTotal.toNat / rollup.spanS) else 0
        cpuSecondsTotal := cpuSeconds rollup.cpuTicksTotal.toNat tck
        ctxSwitchesTotal := rollup.ctxTotal
        windowS := rollup.spanS }

end Seshat.System
