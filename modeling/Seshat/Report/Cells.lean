import Seshat.Commands.ProtocolLabel
import Seshat.Lib.Binary64
import Seshat.Metrics.App
import Seshat.Report.Results
import Mathlib.Tactic.Common

/-! The cells a measured scenario is recorded in: its configuration, its aggregated metrics,
its runs and its top-level row. Metrics, which the program holds as `f64`, are rationals. -/

namespace Seshat.Report
open Config Commands Metrics
open Lib.Binary64 (roundHalfEven)
open Gateway (Effective effectiveProtocolLabel)
open Proto.Wire (headerLen)

/-! Numbers as text. -/

def natText (n : Nat) : Text := Nat.toDigits 10 n

def boolText (b : Bool) : Text := (if b then "true" else "false").toList

/-- Fixed precision. -/
def num (v : ℚ) (decimals : Nat) : Text :=
  let scaled := roundHalfEven (|v| * 10 ^ decimals)
  let fraction := natText (scaled % 10 ^ decimals)
  (if v < 0 then ['-'] else []) ++ natText (scaled / 10 ^ decimals) ++
    (if decimals = 0 then []
    else '.' :: (List.replicate (decimals - fraction.length) '0' ++ fraction))

/-- A 64-bit counter. -/
def count (n : UInt64) : Text := natText n.toNat

/-! What is recorded. -/

structure RttSummary where
  meanUs : ℚ
  meanCi95 : ℚ
  p50Us : ℚ
  p99Us : ℚ
  samples : UInt64

structure ConnSummary where
  connsPerSec : ℚ
  connsPerSecCi95 : ℚ
  handshakeP50Us : ℚ
  handshakeP99Us : ℚ
  totalConns : UInt64

structure RunStats where
  runs : List FlowSummary
  throughputGbps : Summary
  latencyMeanUs : Summary
  latencyP99Us : Summary
  handshakeUs : Summary
  totalLost : UInt64
  lossPct : ℚ
  rtt : Option RttSummary := none
  conn : Option ConnSummary := none
  coCorrected : Bool
  sendLagMeanUs : ℚ
  sendLagMaxUs : ℚ

structure Calibration where
  ceilingGbps : ℚ
  headroom : ℚ
  harnessLimited : Bool
  dut : String
  bottleneck : String
  ceilingTransport : String

structure SweepPoint where
  offeredMbps : ℚ
  throughputGbps : ℚ
  lossPct : ℚ
  latencyP99Us : ℚ

structure SweepResult where
  points : List SweepPoint
  saturationGbps : ℚ
  maxLossfreeGbps : ℚ
  kneeOfferedMbps : ℚ

structure SysAgg where
  cpuPctPeak : ℚ
  cpuPctMean : ℚ
  cpuPctP95 : ℚ
  cpuHotThreadPctP95 : ℚ
  hostBusyFracP95 : ℚ
  rssPeakKib : UInt64
  pssPeakKib : UInt64
  ctxSwitchesPerS : ℚ
  cpuSecondsTotal : ℚ
  ctxSwitchesTotal : UInt64

structure PerfResult where
  cycles : Option UInt64
  instructions : Option UInt64
  ipc : Option ℚ
  cacheReferences : Option UInt64
  cacheMisses : Option UInt64
  contextSwitches : Option UInt64
  syscalls : Option UInt64
  taskClockMs : Option ℚ
  durationS : Option ℚ

structure MemCopyResult where
  copyToUser : Option UInt64
  copyFromUser : Option UInt64
  splice : Option UInt64
  poll : Option UInt64
  ppoll : Option UInt64
  ioUringEnter : Option UInt64

structure ScenarioArtifacts where
  cal : Option Calibration := none
  sweep : Option SweepResult := none
  sys : Option SysAgg := none
  perf : Option PerfResult := none
  memCopies : Option MemCopyResult := none
  effective : Option Effective := none
  lossThresholdPct : ℚ := 0

def MemCopyResult.totalCopies (m : MemCopyResult) : Option UInt64 :=
  match m.copyToUser, m.copyFromUser with
  | none, none => none
  | a, b => some (a.getD 0 + b.getD 0)

def MemCopyResult.copiesPerMsg (m : MemCopyResult) (messages : UInt64) : Option ℚ :=
  if messages = 0 then none
  else m.totalCopies.map fun copies => (copies.toNat : ℚ) / messages.toNat

/-- `poll` entries, or else `ppoll` ones. -/
def MemCopyResult.polls (m : MemCopyResult) : Option UInt64 := m.poll.or m.ppoll

def resumedFraction (eff : Effective) : Option ℚ :=
  let total := eff.resumedHandshakes + eff.fullHandshakes
  if total > 0 then some ((eff.resumedHandshakes : ℚ) / total) else none

namespace RunStats

def meanJitter (stats : RunStats) : ℚ :=
  if stats.runs.isEmpty then 0 else (stats.runs.map FlowSummary.jitterUs).sum / stats.runs.length

/-- A counter summed over the runs. -/
def total (stats : RunStats) (counter : FlowSummary → UInt64) : UInt64 :=
  stats.runs.foldl (fun sum run => sum + counter run) 0

def totalMessages (stats : RunStats) : UInt64 := stats.total FlowSummary.messages

def integrityFailures (stats : RunStats) : UInt64 := stats.total FlowSummary.integrityFailures

def boundaryViolations (stats : RunStats) : UInt64 := stats.total FlowSummary.boundaryViolations

end RunStats

inductive EncapProfile where
  | tcp
  | udp
  | tls12Gcm
  | tls12Cbc
  | tls13Aead
  | dtls12Gcm
  | dtls12Cbc
  | uds
  | shm
  deriving DecidableEq, Repr

/-- The total of `compute`, in bytes for each message. -/
def EncapProfile.total : EncapProfile → Nat
  | .tcp => 52
  | .udp => 28
  | .tls12Gcm => 81
  | .tls12Cbc => 113
  | .tls13Aead => 74
  | .dtls12Gcm => 65
  | .dtls12Cbc => 97
  | .uds => 0
  | .shm => 0

def analyticalOverhead (s : Scenario) (params : RunParams) : Option Nat :=
  let profile : Option EncapProfile :=
    match params.sender.interface with
    | .unix => some .uds
    | .shm => some .shm
    | .udp => some (if s.protocol.kind = .dtls then .dtls12Gcm else .udp)
    | .tcp | .tproxy =>
        match s.protocol.kind with
        | .tls => some (if s.protocol.version = .v1_3 then .tls13Aead else .tls12Gcm)
        | .dtls => none
        | _ => some .tcp
  profile.map EncapProfile.total

/-! The tables of a scenario directory. -/

/-- The variant name of `Debug`, in lower case. -/
def patternText : Pattern → Text
  | .sustained => "sustained".toList
  | .periodic => "periodic".toList
  | .burst => "burst".toList
  | .ramp => "ramp".toList

/-- The values of `config.csv` behind the name, in the order of `configKeys`. -/
def scenarioConfigValues (s : Scenario) (params : RunParams) (overhead : Option Nat) : List Text :=
  [(s.category.getD "").toList, params.sender.interface.label.toList, protocolLabel s,
    patternText params.sender.pattern, natText params.messageBytes.toNat,
    natText (params.messageBytes.toNat - headerLen), (overhead.map natText).getD [],
    boolText false, natText params.connections, boolText s.gateway.enabled, natText params.runs,
    count params.warmup, count params.measure, count params.cooldown,
    boolText params.removeOutliers]

def kv (key : String) (value : Text) : Text × Text := (key.toList, value)

/-- A pair that is written only when there is a value. -/
def kvSome (key : String) (value : Option Text) : List (Text × Text) := value.toList.map (kv key)

def calibrationPairs : Option Calibration → List (Text × Text)
  | none => []
  | some cal =>
      [kv "ceiling_gbps" (num cal.ceilingGbps 4), kv "headroom" (num cal.headroom 2),
        kv "harness_limited" (boolText cal.harnessLimited), kv "dut" cal.dut.toList,
        kv "bottleneck" cal.bottleneck.toList, kv "ceiling_transport" cal.ceilingTransport.toList]

/-- Throughput for each fully loaded core of the peak. -/
def gbpsPerCore (throughput : ℚ) (a : SysAgg) : Option Text :=
  if a.cpuPctPeak > 0 then some (num (throughput / (a.cpuPctPeak / 100)) 4) else none

def sysPairs (throughput : ℚ) : Option SysAgg → List (Text × Text)
  | none => []
  | some a =>
      [kv "cpu_pct_peak" (num a.cpuPctPeak 1), kv "cpu_pct_mean" (num a.cpuPctMean 1),
        kv "cpu_pct_p95" (num a.cpuPctP95 1),
        kv "cpu_hot_thread_pct_p95" (num a.cpuHotThreadPctP95 1),
        kv "host_busy_frac_p95" (num a.hostBusyFracP95 3),
        kv "cpu_seconds_total" (num a.cpuSecondsTotal 4),
        kv "ctx_switches_total" (count a.ctxSwitchesTotal),
        kv "ctx_switches_per_s" (num a.ctxSwitchesPerS 1), kv "rss_peak_kib" (count a.rssPeakKib),
        kv "pss_peak_kib" (count a.pssPeakKib)] ++
        kvSome "gbps_per_core" (gbpsPerCore throughput a)

def perfPairs : Option PerfResult → List (Text × Text)
  | none => []
  | some p =>
      kvSome "perf_cycles" (p.cycles.map count) ++
      kvSome "perf_instructions" (p.instructions.map count) ++
      kvSome "perf_ipc" (p.ipc.map (num · 3)) ++
      kvSome "perf_cache_references" (p.cacheReferences.map count) ++
      kvSome "perf_cache_misses" (p.cacheMisses.map count) ++
      kvSome "perf_context_switches" (p.contextSwitches.map count) ++
      kvSome "perf_syscalls" (p.syscalls.map count) ++
      kvSome "perf_task_clock_ms" (p.taskClockMs.map (num · 3)) ++
      kvSome "perf_duration_s" (p.durationS.map (num · 6))

def memPairs (messages : UInt64) : Option MemCopyResult → List (Text × Text)
  | none => []
  | some m =>
      kvSome "mem_copies_per_msg" ((m.copiesPerMsg messages).map (num · 3)) ++
      kvSome "mem_copy_to_user" (m.copyToUser.map count) ++
      kvSome "mem_copy_from_user" (m.copyFromUser.map count) ++
      kvSome "mem_splice_syscalls" (m.splice.map count) ++
      kvSome "mem_poll_syscalls" (m.polls.map count) ++
      kvSome "mem_io_uring_enter" (m.ioUringEnter.map count)

def sweepPairs : Option SweepResult → List (Text × Text)
  | none => []
  | some sweep =>
      [kv "saturation_gbps" (num sweep.saturationGbps 4),
        kv "max_lossfree_gbps" (num sweep.maxLossfreeGbps 4),
        kv "knee_offered_mbps" (num sweep.kneeOfferedMbps 3)]

def rttPairs : Option RttSummary → List (Text × Text)
  | none => []
  | some r =>
      [kv "rtt_us_mean" (num r.meanUs 3), kv "rtt_us_ci95" (num r.meanCi95 3),
        kv "rtt_us_p50" (num r.p50Us 3), kv "rtt_us_p99" (num r.p99Us 3),
        kv "rtt_samples" (count r.samples)]

def connPairs : Option ConnSummary → List (Text × Text)
  | none => []
  | some c =>
      [kv "conns_per_sec" (num c.connsPerSec 1), kv "conns_per_sec_ci95" (num c.connsPerSecCi95 1),
        kv "conn_handshake_p50_us" (num c.handshakeP50Us 3),
        kv "conn_handshake_p99_us" (num c.handshakeP99Us 3), kv "conn_total" (count c.totalConns)]

def effectivePairs : Option Effective → List (Text × Text)
  | none => []
  | some eff =>
      match resumedFraction eff with
      | none => []
      | some fraction =>
          [kv "resumed_fraction" (num fraction 3),
            kv "resumed_handshakes" (natText eff.resumedHandshakes),
            kv "full_handshakes" (natText eff.fullHandshakes)]

/-- The pairs of a scenario's `summary.csv`. -/
def scenarioSummaryPairs (stats : RunStats) (art : ScenarioArtifacts) (overloaded : Bool)
    (effectiveProtocol : Text) (overhead : Option Nat) : List (Text × Text) :=
  let thr := stats.throughputGbps
  let lat := stats.latencyMeanUs
  let p99 := stats.latencyP99Us
  [kv "runs" (natText stats.runs.length), kv "throughput_gbps_mean" (num thr.mean 4),
    kv "throughput_gbps_ci95" (num thr.ci95 4), kv "throughput_gbps_stddev" (num thr.stddev 4),
    kv "throughput_gbps_min" (num thr.min 4), kv "throughput_gbps_max" (num thr.max 4),
    kv "throughput_gbps_cov" (num thr.cov 4), kv "latency_mean_us" (num lat.mean 3),
    kv "latency_mean_ci95" (num lat.ci95 3), kv "latency_p99_us_mean" (num p99.mean 3),
    kv "latency_p99_us_ci95" (num p99.ci95 3),
    kv "handshake_us_mean" (num stats.handshakeUs.mean 3), kv "loss_pct" (num stats.lossPct 4),
    kv "total_lost" (count stats.totalLost),
    kv "integrity_failures" (count stats.integrityFailures),
    kv "boundary_violations" (count stats.boundaryViolations),
    kv "overloaded" (boolText overloaded), kv "effective_protocol" effectiveProtocol,
    kv "encapsulation_overhead_bytes_analytical" ((overhead.map natText).getD []),
    kv "encapsulation_overhead_capture_verified" (boolText false)] ++
    calibrationPairs art.cal ++ sysPairs thr.mean art.sys ++ perfPairs art.perf ++
    memPairs stats.totalMessages art.memCopies ++ sweepPairs art.sweep ++ rttPairs stats.rtt ++
    connPairs stats.conn ++ effectivePairs art.effective

def runsHeaders : List String :=
  ["run", "throughput_gbps", "message_rate", "messages", "bytes", "duration_s",
    "latency_mean_us", "latency_p50_us", "latency_p90_us", "latency_p95_us", "latency_p99_us",
    "latency_p999_us", "latency_min_us", "latency_max_us", "jitter_us", "loss_pct", "lost",
    "duplicate", "reordered", "integrity_failures", "boundary_violations", "outliers_removed"]

def runRow (run : FlowSummary) (index : Nat) : List Text :=
  let l := run.latencyUs
  [natText (index + 1), num run.throughputGbps 4, num run.messageRate 1, count run.messages,
    count run.bytes, num run.durationS 4, num l.mean 3, num l.p50 3, num l.p90 3, num l.p95 3,
    num l.p99 3, num l.p999 3, num l.min 3, num l.max 3, num run.jitterUs 3, num run.lossPct 4,
    count run.integrity.lost, count run.integrity.duplicate, count run.integrity.reordered,
    count run.integrityFailures, count run.boundaryViolations, natText run.outliersRemoved]

def runsCsv (stats : RunStats) : Csv where
  headers := texts runsHeaders
  rows := stats.runs.zipIdx.map fun entry => runRow entry.1 entry.2

def saturationCsv (sweep : SweepResult) : Csv where
  headers := texts ["point", "offered_mbps", "throughput_gbps", "loss_pct", "latency_p99_us",
    "pct_of_peak_throughput", "past_lossfree_knee"]
  rows := sweep.points.zipIdx.map fun entry =>
    let peak := sweep.saturationGbps
    let point := entry.1
    let pctOfPeak := if peak > 0 then point.throughputGbps / peak * 100 else 0
    let pastKnee := decide (sweep.kneeOfferedMbps > 0 ∧ point.offeredMbps > sweep.kneeOfferedMbps)
    [natText (entry.2 + 1), num point.offeredMbps 3, num point.throughputGbps 4,
      num point.lossPct 4, num point.latencyP99Us 3, num pctOfPeak 1, boolText pastKnee]

/-! The top-level row. -/

def calibrationCells : Option Calibration → List Text
  | none => [[], [], [], []]
  | some cal =>
      [num cal.ceilingGbps 4, num cal.headroom 2, boolText cal.harnessLimited, cal.dut.toList]

def sweepCells : Option SweepResult → List Text
  | none => [[], []]
  | some sweep => [num sweep.saturationGbps 4, num sweep.maxLossfreeGbps 4]

def cpuCells (throughput : ℚ) : Option SysAgg → List Text
  | none => [[], [], [], [], []]
  | some a =>
      [num a.cpuPctPeak 1, num a.cpuPctMean 1, count a.rssPeakKib, count a.pssPeakKib,
        (gbpsPerCore throughput a).getD []]

def rttCells : Option RttSummary → List Text
  | none => [[], [], [], []]
  | some r => [num r.meanUs 3, num r.meanCi95 3, num r.p50Us 3, num r.p99Us 3]

def connCells : Option ConnSummary → List Text
  | none => [[], [], [], []]
  | some c =>
      [num c.connsPerSec 1, num c.connsPerSecCi95 1, num c.handshakeP50Us 3,
        num c.handshakeP99Us 3]

def perfCells : Option PerfResult → List Text
  | none => [[], [], [], [], [], [], [], [], []]
  | some p =>
      [(p.cycles.map count).getD [], (p.instructions.map count).getD [],
        (p.ipc.map (num · 3)).getD [], (p.cacheReferences.map count).getD [],
        (p.cacheMisses.map count).getD [], (p.contextSwitches.map count).getD [],
        (p.syscalls.map count).getD [], (p.taskClockMs.map (num · 3)).getD [],
        (p.durationS.map (num · 6)).getD []]

def effectiveProtocol (s : Scenario) (art : ScenarioArtifacts) : Text :=
  match art.effective with
  | some eff => effectiveProtocolLabel (protocolLabel s) eff
  | none => protocolLabel s

def overloaded (stats : RunStats) (art : ScenarioArtifacts) : Bool :=
  decide (stats.lossPct > art.lossThresholdPct)

/-- The top-level row behind the scenario's name. -/
def summaryCells (s : Scenario) (params : RunParams) (stats : RunStats) (art : ScenarioArtifacts) :
    List Text :=
  let thr := stats.throughputGbps
  let lat := stats.latencyMeanUs
  let p99 := stats.latencyP99Us
  [params.sender.interface.label.toList, protocolLabel s, natText params.messageBytes.toNat,
    natText params.connections, natText stats.runs.length, num thr.mean 4, num thr.ci95 4,
    num thr.min 4, num thr.max 4, num lat.mean 3, num lat.ci95 3, num p99.mean 3, num p99.ci95 3,
    num stats.meanJitter 3, num stats.handshakeUs.mean 3, num stats.lossPct 4,
    count stats.totalLost, count stats.integrityFailures, count stats.boundaryViolations,
    ((analyticalOverhead s params).map natText).getD [], boolText false] ++
    calibrationCells art.cal ++ sweepCells art.sweep ++
    [boolText (overloaded stats art), effectiveProtocol s art] ++ cpuCells thr.mean art.sys ++
    [(art.cal.map fun cal => cal.bottleneck.toList).getD []] ++ rttCells stats.rtt ++
    connCells stats.conn ++ perfCells art.perf ++
    [boolText stats.coCorrected, num stats.sendLagMeanUs 3, num stats.sendLagMaxUs 3,
      (art.sys.map fun a => count a.ctxSwitchesTotal).getD [],
      (art.sys.map fun a => num a.ctxSwitchesPerS 1).getD [],
      (art.sys.map fun a => num a.cpuSecondsTotal 4).getD [],
      ((art.memCopies.bind fun m => m.copiesPerMsg stats.totalMessages).map (num · 3)).getD [],
      ((art.memCopies.bind MemCopyResult.copyToUser).map count).getD [],
      ((art.memCopies.bind MemCopyResult.copyFromUser).map count).getD [],
      ((art.memCopies.bind MemCopyResult.splice).map count).getD [],
      ((art.memCopies.bind MemCopyResult.polls).map count).getD [],
      ((art.memCopies.bind MemCopyResult.ioUringEnter).map count).getD [],
      ((art.effective.bind resumedFraction).map (num · 3)).getD [],
      (art.sys.map fun a => num a.cpuHotThreadPctP95 1).getD [],
      (art.sys.map fun a => num a.hostBusyFracP95 3).getD [],
      (art.cal.map fun cal => cal.ceilingTransport.toList).getD []]

end Seshat.Report
