import Seshat.Report.Cells
import Seshat.Report.Resume
import Mathlib.Tactic.Common

/-! The top-level row rebuilt from the files of a scenario directory, against the row that
recording the scenario wrote. -/

namespace Seshat.Report
open Config Commands Metrics
open Gateway (Effective)

/-! Tables in which a key may have no value. -/

/-- The pairs that are written. -/
def present (entries : List (String × Option Text)) : List (Text × Text) :=
  entries.flatMap fun entry => kvSome entry.1 entry.2

theorem present_append (first second : List (String × Option Text)) :
    present (first ++ second) = present first ++ present second := List.flatMap_append

theorem present_keys {entries : List (String × Option Text)} {pair : Text × Text}
    (member : pair ∈ present entries) : pair.1 ∈ texts (entries.map Prod.fst) := by
  obtain ⟨entry, inEntries, written⟩ := List.mem_flatMap.mp member
  obtain ⟨value, -, rfl⟩ := List.mem_map.mp written
  exact List.mem_map_of_mem (List.mem_map_of_mem inEntries)

theorem lookupKey_append (first second : List (Text × Text)) (key : Text) :
    lookupKey (first ++ second) key = (lookupKey second key).or (lookupKey first key) := by
  rw [lookupKey, List.reverse_append, List.lookup_append]
  rfl

theorem lookupKey_kvSome (key : String) (value : Option Text) :
    lookupKey (kvSome key value) key.toList = value := by
  cases value with
  | none => rfl
  | some value => simp [kvSome, kv, lookupKey]

/-- Where no key is given twice, the last pair of a key is its entry. -/
theorem lookupKey_present {entries : List (String × Option Text)}
    (distinct : (entries.map Prod.fst).Nodup) (key : String) :
    lookupKey (present entries) key.toList = (entries.lookup key).join := by
  induction entries with
  | nil => rfl
  | cons entry rest ih =>
    rw [List.map_cons, List.nodup_cons] at distinct
    have split : present (entry :: rest) = kvSome entry.1 entry.2 ++ present rest := rfl
    rw [split, lookupKey_append, List.lookup_cons]
    by_cases same : key = entry.1
    · have behind : lookupKey (present rest) key.toList = none := by
        refine lookupKey_none fun pair member equal => distinct.1 ?_
        obtain ⟨other, inRest, text⟩ := List.mem_map.mp (present_keys member)
        rw [← same, ← String.toList_inj.mp (text.trans equal)]
        exact inRest
      rw [behind, same, lookupKey_kvSome, beq_self_eq_true]
      cases entry.2 <;> rfl
    · have ahead : lookupKey (kvSome entry.1 entry.2) key.toList = none := by
        refine lookupKey_none fun pair member equal => ?_
        obtain ⟨value, -, rfl⟩ := List.mem_map.mp member
        exact same (String.toList_inj.mp equal).symm
      rw [ih distinct.2, ahead, Option.or_none, beq_false_of_ne same]

/-! The tables of a scenario, key by key. -/

def configEntries (s : Scenario) (params : RunParams) : List (String × Option Text) :=
  [("name", some s.name.toList), ("category", some (s.category.getD "").toList),
    ("transport", some params.sender.interface.label.toList), ("protocol", some (protocolLabel s)),
    ("pattern", some (patternText params.sender.pattern)),
    ("message_bytes", some (natText params.messageBytes.toNat)),
    ("payload_bytes", some (natText (params.messageBytes.toNat - Proto.Wire.headerLen))),
    ("encapsulation_overhead_bytes_analytical",
      some (((analyticalOverhead s params).map natText).getD [])),
    ("encapsulation_overhead_capture_verified", some (boolText false)),
    ("connections", some (natText params.connections)),
    ("gateway_enabled", some (boolText s.gateway.enabled)), ("runs", some (natText params.runs)),
    ("warmup_secs", some (count params.warmup)), ("measure_secs", some (count params.measure)),
    ("cooldown_secs", some (count params.cooldown)),
    ("outlier_removal", some (boolText params.removeOutliers))]

def calibrationEntries (cal : Option Calibration) : List (String × Option Text) :=
  [("ceiling_gbps", cal.map fun c => num c.ceilingGbps 4),
    ("headroom", cal.map fun c => num c.headroom 2),
    ("harness_limited", cal.map fun c => boolText c.harnessLimited),
    ("dut", cal.map fun c => c.dut.toList), ("bottleneck", cal.map fun c => c.bottleneck.toList),
    ("ceiling_transport", cal.map fun c => c.ceilingTransport.toList)]

def sysEntries (throughput : ℚ) (sys : Option SysAgg) : List (String × Option Text) :=
  [("cpu_pct_peak", sys.map fun a => num a.cpuPctPeak 1),
    ("cpu_pct_mean", sys.map fun a => num a.cpuPctMean 1),
    ("cpu_pct_p95", sys.map fun a => num a.cpuPctP95 1),
    ("cpu_hot_thread_pct_p95", sys.map fun a => num a.cpuHotThreadPctP95 1),
    ("host_busy_frac_p95", sys.map fun a => num a.hostBusyFracP95 3),
    ("cpu_seconds_total", sys.map fun a => num a.cpuSecondsTotal 4),
    ("ctx_switches_total", sys.map fun a => count a.ctxSwitchesTotal),
    ("ctx_switches_per_s", sys.map fun a => num a.ctxSwitchesPerS 1),
    ("rss_peak_kib", sys.map fun a => count a.rssPeakKib),
    ("pss_peak_kib", sys.map fun a => count a.pssPeakKib),
    ("gbps_per_core", sys.bind (gbpsPerCore throughput))]

def perfEntries (perf : Option PerfResult) : List (String × Option Text) :=
  [("perf_cycles", perf.bind fun p => p.cycles.map count),
    ("perf_instructions", perf.bind fun p => p.instructions.map count),
    ("perf_ipc", perf.bind fun p => p.ipc.map (num · 3)),
    ("perf_cache_references", perf.bind fun p => p.cacheReferences.map count),
    ("perf_cache_misses", perf.bind fun p => p.cacheMisses.map count),
    ("perf_context_switches", perf.bind fun p => p.contextSwitches.map count),
    ("perf_syscalls", perf.bind fun p => p.syscalls.map count),
    ("perf_task_clock_ms", perf.bind fun p => p.taskClockMs.map (num · 3)),
    ("perf_duration_s", perf.bind fun p => p.durationS.map (num · 6))]

def memEntries (messages : UInt64) (mem : Option MemCopyResult) : List (String × Option Text) :=
  [("mem_copies_per_msg", (mem.bind fun m => m.copiesPerMsg messages).map (num · 3)),
    ("mem_copy_to_user", (mem.bind MemCopyResult.copyToUser).map count),
    ("mem_copy_from_user", (mem.bind MemCopyResult.copyFromUser).map count),
    ("mem_splice_syscalls", (mem.bind MemCopyResult.splice).map count),
    ("mem_poll_syscalls", (mem.bind MemCopyResult.polls).map count),
    ("mem_io_uring_enter", (mem.bind MemCopyResult.ioUringEnter).map count)]

def sweepEntries (sweep : Option SweepResult) : List (String × Option Text) :=
  [("saturation_gbps", sweep.map fun s => num s.saturationGbps 4),
    ("max_lossfree_gbps", sweep.map fun s => num s.maxLossfreeGbps 4),
    ("knee_offered_mbps", sweep.map fun s => num s.kneeOfferedMbps 3)]

def rttEntries (rtt : Option RttSummary) : List (String × Option Text) :=
  [("rtt_us_mean", rtt.map fun r => num r.meanUs 3),
    ("rtt_us_ci95", rtt.map fun r => num r.meanCi95 3),
    ("rtt_us_p50", rtt.map fun r => num r.p50Us 3),
    ("rtt_us_p99", rtt.map fun r => num r.p99Us 3),
    ("rtt_samples", rtt.map fun r => count r.samples)]

def connEntries (conn : Option ConnSummary) : List (String × Option Text) :=
  [("conns_per_sec", conn.map fun c => num c.connsPerSec 1),
    ("conns_per_sec_ci95", conn.map fun c => num c.connsPerSecCi95 1),
    ("conn_handshake_p50_us", conn.map fun c => num c.handshakeP50Us 3),
    ("conn_handshake_p99_us", conn.map fun c => num c.handshakeP99Us 3),
    ("conn_total", conn.map fun c => count c.totalConns)]

def effectiveEntries (effective : Option Effective) : List (String × Option Text) :=
  let resumed := effective.filter fun eff => (resumedFraction eff).isSome
  [("resumed_fraction", (effective.bind resumedFraction).map (num · 3)),
    ("resumed_handshakes", resumed.map fun eff => natText eff.resumedHandshakes),
    ("full_handshakes", resumed.map fun eff => natText eff.fullHandshakes)]

def statsEntries (stats : RunStats) (overloaded : Bool) (effectiveProtocol : Text)
    (overhead : Option Nat) : List (String × Option Text) :=
  [("runs", some (natText stats.runs.length)),
    ("throughput_gbps_mean", some (num stats.throughputGbps.mean 4)),
    ("throughput_gbps_ci95", some (num stats.throughputGbps.ci95 4)),
    ("throughput_gbps_stddev", some (num stats.throughputGbps.stddev 4)),
    ("throughput_gbps_min", some (num stats.throughputGbps.min 4)),
    ("throughput_gbps_max", some (num stats.throughputGbps.max 4)),
    ("throughput_gbps_cov", some (num stats.throughputGbps.cov 4)),
    ("latency_mean_us", some (num stats.latencyMeanUs.mean 3)),
    ("latency_mean_ci95", some (num stats.latencyMeanUs.ci95 3)),
    ("latency_p99_us_mean", some (num stats.latencyP99Us.mean 3)),
    ("latency_p99_us_ci95", some (num stats.latencyP99Us.ci95 3)),
    ("handshake_us_mean", some (num stats.handshakeUs.mean 3)),
    ("loss_pct", some (num stats.lossPct 4)), ("total_lost", some (count stats.totalLost)),
    ("integrity_failures", some (count stats.integrityFailures)),
    ("boundary_violations", some (count stats.boundaryViolations)),
    ("overloaded", some (boolText overloaded)), ("effective_protocol", some effectiveProtocol),
    ("encapsulation_overhead_bytes_analytical", some ((overhead.map natText).getD [])),
    ("encapsulation_overhead_capture_verified", some (boolText false))]

def summaryEntries (stats : RunStats) (art : ScenarioArtifacts) (overloaded : Bool)
    (effectiveProtocol : Text) (overhead : Option Nat) : List (String × Option Text) :=
  statsEntries stats overloaded effectiveProtocol overhead ++ calibrationEntries art.cal ++
    sysEntries stats.throughputGbps.mean art.sys ++ perfEntries art.perf ++
    memEntries stats.totalMessages art.memCopies ++ sweepEntries art.sweep ++
    rttEntries stats.rtt ++ connEntries stats.conn ++ effectiveEntries art.effective

theorem effectivePairs_present (effective : Option Effective) :
    effectivePairs effective = present (effectiveEntries effective) := by
  cases effective with
  | none => rfl
  | some eff =>
    cases fraction : resumedFraction eff with
    | none => simp [effectivePairs, effectiveEntries, present, kvSome, fraction, Option.filter]
    | some fraction =>
      simp [effectivePairs, effectiveEntries, present, kvSome, fraction, Option.filter]

theorem scenarioSummaryPairs_present (stats : RunStats) (art : ScenarioArtifacts)
    (overloaded : Bool) (effectiveProtocol : Text) (overhead : Option Nat) :
    scenarioSummaryPairs stats art overloaded effectiveProtocol overhead =
      present (summaryEntries stats art overloaded effectiveProtocol overhead) := by
  have cal : calibrationPairs art.cal = present (calibrationEntries art.cal) := by
    cases art.cal <;> rfl
  have sys : sysPairs stats.throughputGbps.mean art.sys =
      present (sysEntries stats.throughputGbps.mean art.sys) := by
    cases art.sys with
    | none => rfl
    | some a => simp [sysPairs, sysEntries, present, kvSome]
  have perf : perfPairs art.perf = present (perfEntries art.perf) := by
    cases art.perf with
    | none => rfl
    | some p => simp [perfPairs, perfEntries, present]
  have mem : memPairs stats.totalMessages art.memCopies =
      present (memEntries stats.totalMessages art.memCopies) := by
    cases art.memCopies with
    | none => rfl
    | some m => simp [memPairs, memEntries, present]
  have sweep : sweepPairs art.sweep = present (sweepEntries art.sweep) := by
    cases art.sweep <;> rfl
  have rtt : rttPairs stats.rtt = present (rttEntries stats.rtt) := by cases stats.rtt <;> rfl
  have conn : connPairs stats.conn = present (connEntries stats.conn) := by
    cases stats.conn <;> rfl
  simp only [scenarioSummaryPairs, summaryEntries, present_append, cal, sys, perf, mem, sweep, rtt,
    conn, effectivePairs_present]
  rfl

/-! Keys are plain and given once. -/

theorem summaryEntries_keys (stats : RunStats) (art : ScenarioArtifacts) (overloaded : Bool)
    (effectiveProtocol : Text) (overhead : Option Nat) :
    (summaryEntries stats art overloaded effectiveProtocol overhead).map Prod.fst = summaryKeys :=
  rfl

theorem configEntries_keys (s : Scenario) (params : RunParams) :
    (configEntries s params).map Prod.fst = "name" :: configKeys := rfl

theorem summaryKeys_nodup : summaryKeys.Nodup := by decide +kernel

theorem configKeys_nodup : ("name" :: configKeys).Nodup := by decide +kernel

/-! The cells of the live row, column by column. -/

theorem calibrationCells_columns (cal : Option Calibration) :
    calibrationCells cal = [(cal.map fun c => num c.ceilingGbps 4).getD [],
      (cal.map fun c => num c.headroom 2).getD [],
      (cal.map fun c => boolText c.harnessLimited).getD [],
      (cal.map fun c => c.dut.toList).getD []] := by cases cal <;> rfl

theorem sweepCells_columns (sweep : Option SweepResult) :
    sweepCells sweep = [(sweep.map fun s => num s.saturationGbps 4).getD [],
      (sweep.map fun s => num s.maxLossfreeGbps 4).getD []] := by cases sweep <;> rfl

theorem cpuCells_columns (throughput : ℚ) (sys : Option SysAgg) :
    cpuCells throughput sys = [(sys.map fun a => num a.cpuPctPeak 1).getD [],
      (sys.map fun a => num a.cpuPctMean 1).getD [], (sys.map fun a => count a.rssPeakKib).getD [],
      (sys.map fun a => count a.pssPeakKib).getD [],
      (sys.bind (gbpsPerCore throughput)).getD []] := by cases sys <;> rfl

theorem rttCells_columns (rtt : Option RttSummary) :
    rttCells rtt = [(rtt.map fun r => num r.meanUs 3).getD [],
      (rtt.map fun r => num r.meanCi95 3).getD [], (rtt.map fun r => num r.p50Us 3).getD [],
      (rtt.map fun r => num r.p99Us 3).getD []] := by cases rtt <;> rfl

theorem connCells_columns (conn : Option ConnSummary) :
    connCells conn = [(conn.map fun c => num c.connsPerSec 1).getD [],
      (conn.map fun c => num c.connsPerSecCi95 1).getD [],
      (conn.map fun c => num c.handshakeP50Us 3).getD [],
      (conn.map fun c => num c.handshakeP99Us 3).getD []] := by cases conn <;> rfl

theorem perfCells_columns (perf : Option PerfResult) :
    perfCells perf = (perfEntries perf).map fun entry => entry.2.getD [] := by cases perf <;> rfl

theorem summaryCells_length (s : Scenario) (params : RunParams) (stats : RunStats)
    (art : ScenarioArtifacts) :
    (summaryCells s params stats art).length + 1 = summaryHeaders.length := by
  simp only [summaryCells, calibrationCells_columns, sweepCells_columns, cpuCells_columns,
    rttCells_columns, connCells_columns, perfCells_columns, perfEntries, List.map_cons,
    List.map_nil, List.cons_append, List.nil_append, List.length_cons, List.length_nil,
    summaryHeaders]

/-- What recording a measured scenario writes. -/
def measured (s : Scenario) (params : RunParams) (stats : RunStats) (art : ScenarioArtifacts) :
    Measured where
  configValues := scenarioConfigValues s params (analyticalOverhead s params)
  summary := scenarioSummaryPairs stats art (overloaded stats art) (effectiveProtocol s art)
    (analyticalOverhead s params)
  keyed pair member := by
    rw [scenarioSummaryPairs_present] at member
    exact summaryEntries_keys .. ▸ present_keys member
  runs := runsCsv stats
  saturation := art.sweep.map saturationCsv
  row := summaryCells s params stats art
  aligned := summaryCells_length s params stats art

/-- The row that recording writes. -/
def summaryRow (s : Scenario) (params : RunParams) (stats : RunStats) (art : ScenarioArtifacts) :
    List Text := s.name.toList :: summaryCells s params stats art

/-- The columns no per-scenario file holds. -/
def unpersisted : List String :=
  ["jitter_us_mean", "co_corrected", "send_lag_mean_us", "send_lag_max_us"]

/-- Where the rebuilt row looks for a column. -/
def columnKey (header : String) : String := if header = "scenario" then "name" else header

theorem reconstruct_present {config summary : List (String × Option Text)}
    (configured : (config.map Prod.fst).Nodup) (summarised : (summary.map Prod.fst).Nodup) :
    reconstructSummaryRow (present config) (present summary) =
      summaryHeaders.map fun header => (((summary.lookup (columnKey header)).join).or
        (config.lookup (columnKey header)).join).getD [] := by
  have key (header : String) : (if header.toList = "scenario".toList then "name".toList
      else header.toList) = (columnKey header).toList := by
    unfold columnKey
    by_cases scenario : header = "scenario"
    · rw [if_pos scenario, if_pos (congrArg String.toList scenario)]
    · rw [if_neg scenario, if_neg fun same => scenario (String.toList_inj.mp same)]
  rw [reconstructSummaryRow, texts, List.map_map]
  refine List.map_congr_left fun header _ => ?_
  simp only [Function.comp_apply, key, lookupKey_present configured, lookupKey_present summarised]

theorem reconstruct_columns (s : Scenario) (params : RunParams) (stats : RunStats)
    (art : ScenarioArtifacts) :
    reconstructSummaryRow (present (configEntries s params))
        (present (summaryEntries stats art (overloaded stats art) (effectiveProtocol s art)
          (analyticalOverhead s params))) =
      List.zipWith (fun header cell => if header ∈ unpersisted then [] else cell) summaryHeaders
        (summaryRow s params stats art) := by
  rw [reconstruct_present (configEntries_keys s params ▸ configKeys_nodup)
    (summaryEntries_keys stats art _ _ _ ▸ summaryKeys_nodup)]
  simp [summaryRow, summaryCells, calibrationCells_columns, sweepCells_columns, cpuCells_columns,
    rttCells_columns, connCells_columns, perfCells_columns, perfEntries, summaryHeaders,
    summaryEntries, statsEntries, calibrationEntries, sysEntries, memEntries, sweepEntries,
    rttEntries, connEntries, effectiveEntries, configEntries, columnKey, unpersisted,
    List.lookup_cons]

/-! What is rendered from a number or a flag has no line break. -/

theorem oneLine_append {first second : Text} (left : OneLine first) (right : OneLine second) :
    OneLine (first ++ second) := by
  rw [OneLine, List.mem_append]
  exact not_or.mpr ⟨left, right⟩

theorem natText_oneLine (n : Nat) : OneLine (natText n) := by
  intro member
  have digit := Nat.isDigit_of_mem_toDigits (by decide) (by decide) member
  exact absurd digit (by decide)

theorem count_oneLine (n : UInt64) : OneLine (count n) := natText_oneLine n.toNat

theorem boolText_oneLine (b : Bool) : OneLine (boolText b) := by
  unfold OneLine
  cases b <;> decide

theorem num_oneLine (v : ℚ) (decimals : Nat) : OneLine (num v decimals) := by
  have sign : OneLine (if v < 0 then ['-'] else []) := by split <;> simp [OneLine]
  refine oneLine_append (oneLine_append sign (natText_oneLine _)) ?_
  split
  · simp [OneLine]
  · rw [OneLine, List.mem_cons, List.mem_append, List.mem_replicate]
    rintro (point | padding | digits)
    · exact absurd point (by decide)
    · exact absurd padding.2 (by decide)
    · exact natText_oneLine _ digits

theorem label_oneLine (interface : Interface) : OneLine interface.label.toList := by
  unfold OneLine
  cases interface <;> decide +kernel

theorem patternText_oneLine (pattern : Pattern) : OneLine (patternText pattern) := by
  unfold OneLine
  cases pattern <;> decide +kernel

theorem overhead_oneLine (overhead : Option Nat) :
    OneLine ((overhead.map natText).getD []) := by
  cases overhead with
  | none => simp [OneLine]
  | some bytes => exact natText_oneLine bytes

/-- The cells of a scenario that hold text of its document, its gateway logs or its
calibration. -/
def textCells (s : Scenario) (art : ScenarioArtifacts) : List Text :=
  [s.name.toList, (s.category.getD "").toList, protocolLabel s, effectiveProtocol s art] ++
    art.cal.elim [] fun cal =>
      [cal.dut.toList, cal.bottleneck.toList, cal.ceilingTransport.toList]

/-- No value of a table has a line break. -/
def Unbroken (entries : List (String × Option Text)) : Prop :=
  ∀ entry ∈ entries, ∀ value ∈ entry.2, OneLine value

theorem Unbroken.append {first second : List (String × Option Text)} (left : Unbroken first)
    (right : Unbroken second) : Unbroken (first ++ second) :=
  List.forall_mem_append.mpr ⟨left, right⟩

theorem Unbroken.present {entries : List (String × Option Text)} (unbroken : Unbroken entries)
    {pair : Text × Text} (member : pair ∈ present entries) : OneLine pair.2 := by
  obtain ⟨entry, inEntries, written⟩ := List.mem_flatMap.mp member
  obtain ⟨value, inEntry, rfl⟩ := List.mem_map.mp written
  exact unbroken entry inEntries value (Option.mem_toList.mp inEntry)

section Unbroken

variable {s : Scenario} {art : ScenarioArtifacts}
  (oneLine : ∀ cell ∈ textCells s art, OneLine cell)
include oneLine

theorem configEntries_unbroken (params : RunParams) : Unbroken (configEntries s params) := by
  have overhead := overhead_oneLine (analyticalOverhead s params)
  have name := oneLine s.name.toList (by simp [textCells])
  have category := oneLine (s.category.getD "").toList (by simp [textCells])
  have protocol := oneLine (protocolLabel s) (by simp [textCells])
  simp only [Unbroken, configEntries, List.forall_mem_cons, Option.mem_some_iff, forall_eq',
    List.not_mem_nil, IsEmpty.forall_iff, implies_true, and_true]
  simp only [name, category, protocol, overhead, natText_oneLine, count_oneLine, boolText_oneLine,
    label_oneLine, patternText_oneLine, and_self]

theorem calibrationEntries_unbroken : Unbroken (calibrationEntries art.cal) := by
  cases cal : art.cal with
  | none => simp [Unbroken, calibrationEntries]
  | some c =>
    rw [textCells, cal] at oneLine
    simp only [Option.elim_some, List.forall_mem_append, List.forall_mem_cons] at oneLine
    obtain ⟨-, dut, bottleneck, ceiling, -⟩ := oneLine
    simp [Unbroken, calibrationEntries, num_oneLine, boolText_oneLine, dut, bottleneck, ceiling]

theorem statsEntries_unbroken (stats : RunStats) (overhead : Option Nat) :
    Unbroken (statsEntries stats (overloaded stats art) (effectiveProtocol s art) overhead) := by
  have bytes := overhead_oneLine overhead
  have effective := oneLine (effectiveProtocol s art) (by simp [textCells])
  simp only [Unbroken, statsEntries, List.forall_mem_cons, Option.mem_some_iff, forall_eq',
    List.not_mem_nil, IsEmpty.forall_iff, implies_true, and_true]
  simp only [effective, bytes, natText_oneLine, count_oneLine, boolText_oneLine, num_oneLine,
    and_self]

theorem summaryEntries_unbroken (stats : RunStats) (overhead : Option Nat) :
    Unbroken (summaryEntries stats art (overloaded stats art) (effectiveProtocol s art)
      overhead) := by
  have sys : Unbroken (sysEntries stats.throughputGbps.mean art.sys) := by
    cases art.sys with
    | none => simp [Unbroken, sysEntries]
    | some a => simp [Unbroken, sysEntries, gbpsPerCore, num_oneLine, count_oneLine]
  have perf : Unbroken (perfEntries art.perf) := by
    cases art.perf with
    | none => simp [Unbroken, perfEntries]
    | some p => simp [Unbroken, perfEntries, num_oneLine, count_oneLine]
  have mem : Unbroken (memEntries stats.totalMessages art.memCopies) := by
    cases art.memCopies with
    | none => simp [Unbroken, memEntries]
    | some m => simp [Unbroken, memEntries, num_oneLine, count_oneLine]
  have sweep : Unbroken (sweepEntries art.sweep) := by
    cases art.sweep with
    | none => simp [Unbroken, sweepEntries]
    | some sweep => simp [Unbroken, sweepEntries, num_oneLine]
  have rtt : Unbroken (rttEntries stats.rtt) := by
    cases stats.rtt with
    | none => simp [Unbroken, rttEntries]
    | some r => simp [Unbroken, rttEntries, num_oneLine, count_oneLine]
  have conn : Unbroken (connEntries stats.conn) := by
    cases stats.conn with
    | none => simp [Unbroken, connEntries]
    | some c => simp [Unbroken, connEntries, num_oneLine, count_oneLine]
  have effective : Unbroken (effectiveEntries art.effective) := by
    cases art.effective with
    | none => simp [Unbroken, effectiveEntries]
    | some eff =>
      cases fraction : resumedFraction eff with
      | none => simp [Unbroken, effectiveEntries, fraction]
      | some fraction =>
        simp [Unbroken, effectiveEntries, fraction, num_oneLine, natText_oneLine]
  exact (((((((statsEntries_unbroken oneLine stats overhead).append
    (calibrationEntries_unbroken oneLine)).append sys).append perf).append mem).append
      sweep).append rtt).append conn |>.append effective

end Unbroken

/-! What recording leaves in the directory. -/

theorem recorded_files (tree : Tree) (name : String) (m : Measured) :
    let dir := (tree.applyAll (recordScenario name m)).files (scenarioPlace name)
    dir .config = some (scenarioConfigCsv name m).render ∧
      dir .summary = some (scenarioSummaryCsv m).render ∧
      dir .summaryRow = some (writeRow (name.toList :: m.row)) := by
  intro dir
  have files : dir = (tree.files (scenarioPlace name)).puts (measuredFiles name m) := by
    rw [← recordScenario_puts]
    exact Tree.applyAll_same (recordScenario_place name m)
  rw [files]
  cases sweep : m.saturation <;>
    simp [measuredFiles, sweep, Dir.puts, Dir.put]

/-- The row rebuilt from `config.csv` and `summary.csv` is the recorded one, but for the four
columns that no file holds. -/
theorem rebuilt_row_agrees (tree : Tree) (s : Scenario) (params : RunParams) (stats : RunStats)
    (art : ScenarioArtifacts) (oneLine : ∀ cell ∈ textCells s art, OneLine cell) :
    let dir := (tree.applyAll (recordScenario s.name (measured s params stats art))).files
      (scenarioPlace s.name)
    let row := summaryRow s params stats art
    dir .summaryRow = some (writeRow row) ∧ row.length = summaryHeaders.length ∧
      ∃ config summary, dir .config = some config ∧ dir .summary = some summary ∧
        reconstructSummaryRow (readKeyValueCsv config) (readKeyValueCsv summary) =
          List.zipWith (fun header cell => if header ∈ unpersisted then [] else cell)
            summaryHeaders row := by
  intro dir row
  obtain ⟨config, summary, written⟩ := recorded_files tree s.name (measured s params stats art)
  refine ⟨written, summaryCells_length s params stats art, _, _, config, summary, ?_⟩
  have configText : readKeyValueCsv (scenarioConfigCsv s.name (measured s params stats art)).render =
      present (configEntries s params) := by
    refine readKeyValueCsv_render fun pair member => ?_
    refine ⟨?_, (configEntries_unbroken oneLine params).present member⟩
    have key : pair.1 ∈ texts ((configEntries s params).map Prod.fst) := present_keys member
    rw [configEntries_keys] at key
    rcases List.mem_cons.mp key with name | other
    · rw [name]
      simp [OneLine]
    · exact configKeys_plain.1 _ other
  have pairs : (measured s params stats art).summary = present (summaryEntries stats art
      (overloaded stats art) (effectiveProtocol s art) (analyticalOverhead s params)) :=
    scenarioSummaryPairs_present ..
  have summaryText : readKeyValueCsv (scenarioSummaryCsv (measured s params stats art)).render =
      present (summaryEntries stats art (overloaded stats art) (effectiveProtocol s art)
        (analyticalOverhead s params)) := by
    rw [← pairs]
    refine readKeyValueCsv_render fun pair member => ?_
    refine ⟨summaryKeys_plain.1 _ ((measured s params stats art).keyed pair member), ?_⟩
    rw [pairs] at member
    exact (summaryEntries_unbroken oneLine stats _).present member
  rw [configText, summaryText, reconstruct_columns]

def plainScenario : Scenario where
  name := "tcp, plain"

def plainParams : RunParams where
  messageBytes := 1024
  connections := 1
  runs := 1
  warmup := 0
  measure := 1
  cooldown := 0
  removeOutliers := false
  sender := { interface := .tcp, targetAddr := "127.0.0.1:9000" }
  mode := .throughput

def plainStats : RunStats where
  runs := []
  throughputGbps := .empty
  latencyMeanUs := .empty
  latencyP99Us := .empty
  handshakeUs := .empty
  totalLost := 0
  lossPct := 0
  coCorrected := false
  sendLagMeanUs := 0
  sendLagMaxUs := 0

def measuredSummary : Summary :=
  { Summary.empty with n := 2, mean := 19 / 2, min := 9, max := 10, ci95 := 1 / 2 }

def measuredRun : FlowSummary where
  messages := 4000
  bytes := 4096000
  durationS := 1
  throughputGbps := 19 / 2
  messageRate := 4000
  latencyUs := measuredSummary
  jitterUs := 3 / 4
  integrity := { received := 4000, distinct := 4000, lost := 8 }
  integrityFailures := 1
  boundaryViolations := 0
  lossPct := 1 / 5
  outliersRemoved := 0

def measuredStats : RunStats where
  runs := [measuredRun, measuredRun]
  throughputGbps := measuredSummary
  latencyMeanUs := measuredSummary
  latencyP99Us := measuredSummary
  handshakeUs := measuredSummary
  totalLost := 16
  lossPct := 1 / 5
  rtt := some { meanUs := 50, meanCi95 := 1, p50Us := 49, p99Us := 90, samples := 8000 }
  conn := some
    { connsPerSec := 120, connsPerSecCi95 := 2, handshakeP50Us := 700, handshakeP99Us := 1200
      totalConns := 240 }
  coCorrected := true
  sendLagMeanUs := 1 / 3
  sendLagMaxUs := 7

/-- Artifacts of every kind. -/
def everyArtifact : ScenarioArtifacts where
  cal := some
    { ceilingGbps := 40, headroom := 21 / 5, harnessLimited := false, dut := "scg, tls"
      bottleneck := "gateway-cpu", ceilingTransport := "tcp" }
  sweep := some
    { points := [], saturationGbps := 9, maxLossfreeGbps := 8, kneeOfferedMbps := 9000 }
  sys := some
    { cpuPctPeak := 180, cpuPctMean := 150, cpuPctP95 := 175, cpuHotThreadPctP95 := 99
      hostBusyFracP95 := 1 / 4, rssPeakKib := 30000, pssPeakKib := 28000, ctxSwitchesPerS := 1500
      cpuSecondsTotal := 3, ctxSwitchesTotal := 3000 }
  perf := some
    { cycles := some 9000, instructions := some 18000, ipc := some 2, cacheReferences := some 500
      cacheMisses := some 50, contextSwitches := some 3000, syscalls := some 4100
      taskClockMs := some 1500, durationS := some 2 }
  memCopies := some
    { copyToUser := some 4000, copyFromUser := some 4000, splice := some 0, poll := none
      ppoll := some 12, ioUringEnter := some 0 }
  effective := some { resumedHandshakes := 3, fullHandshakes := 1 }

/-- With every column filled, only the four are lost. -/
theorem rebuilt_row_agrees_plain :
    let dir := (Tree.fresh.applyAll (recordScenario plainScenario.name
      (measured plainScenario plainParams measuredStats everyArtifact))).files
      (scenarioPlace plainScenario.name)
    let row := summaryRow plainScenario plainParams measuredStats everyArtifact
    dir .summaryRow = some (writeRow row) ∧ row.count [] = 0 ∧
      ∃ config summary, dir .config = some config ∧ dir .summary = some summary ∧
        (reconstructSummaryRow (readKeyValueCsv config) (readKeyValueCsv summary)).count [] = 4 := by
  intro dir row
  obtain ⟨written, -, config, summary, readConfig, readSummary, rebuilt⟩ :=
    rebuilt_row_agrees Tree.fresh plainScenario plainParams measuredStats everyArtifact (by
      unfold OneLine
      decide +kernel)
  refine ⟨written, by decide +kernel, config, summary, readConfig, readSummary, ?_⟩
  rw [rebuilt]
  decide +kernel

end Seshat.Report
