import Seshat.Config.Schema
import Seshat.Report.Csv
import Mathlib.Data.Char
import Mathlib.Data.List.Lex
import Mathlib.Data.List.Sort
import Mathlib.Tactic.Common

/-! The result tree: what recording a scenario writes, what a resumed run finds recorded,
and the tables rebuilt from what is on disk. -/

namespace Seshat.Report
open Config

/-- The files that recording and rebuilding write or read. -/
inductive FileName where
  | config
  | summary
  | runs
  | saturation
  | summaryRow
  | streams
  | streamSummary
  | hotreload
  | skip
  | skipRow
  | skipped
  deriving DecidableEq, Repr

def sanitizeChar (c : Char) : Char :=
  if c.isAlphanum ∨ c = '.' ∨ c = '_' ∨ c = '-' then c else '_'

def sanitize (name : String) : Text := name.toList.map sanitizeChar

/-- A directory of the tree: the tree itself, `scenarios/`, or a child of the latter. -/
inductive Place where
  | root
  | scenarios
  | child (dir : Text)
  deriving DecidableEq, Repr

/-- Where `scenarios/<sanitized name>` leads. -/
def scenarioPlace (name : String) : Place :=
  let dir := sanitize name
  if dir = [] ∨ dir = ['.'] then .scenarios
  else if dir = ['.', '.'] then .root
  else .child dir

abbrev Dir := FileName → Option Text

/-- The files of every directory, and the children of `scenarios/` that exist. -/
structure Tree where
  files : Place → Dir
  dirs : List Text

/-- The tree of `ResultDir::create`. -/
def Tree.fresh : Tree where
  files _ _ := none
  dirs := []

/-- One file-system operation; the process may stop between two of them. -/
inductive Write where
  | mkdir (place : Place)
  | file (place : Place) (name : FileName) (text : Text)

def Dir.put (dir : Dir) (name : FileName) (text : Text) : Dir :=
  fun other => if other = name then some text else dir other

def Tree.apply (tree : Tree) : Write → Tree
  | .mkdir (.child dir) =>
      if dir ∈ tree.dirs then tree else { tree with dirs := tree.dirs ++ [dir] }
  | .mkdir _ => tree
  | .file place name text =>
      { tree with
        files := fun other =>
          if other = place then (tree.files place).put name text else tree.files other }

def Tree.applyAll (tree : Tree) (writes : List Write) : Tree := writes.foldl Tree.apply tree

/-- `Csv::write`: parent directories first. -/
def Csv.write (csv : Csv) (place : Place) (name : FileName) : List Write :=
  [.mkdir place, .file place name csv.render]

def texts (names : List String) : List Text := names.map String.toList

/-- `SUMMARY_HEADERS` -/
def summaryHeaders : List String :=
  ["scenario", "transport", "protocol", "message_bytes", "connections", "runs",
    "throughput_gbps_mean", "throughput_gbps_ci95", "throughput_gbps_min", "throughput_gbps_max",
    "latency_mean_us", "latency_mean_ci95", "latency_p99_us_mean", "latency_p99_us_ci95",
    "jitter_us_mean", "handshake_us_mean", "loss_pct", "total_lost", "integrity_failures",
    "boundary_violations", "encapsulation_overhead_bytes_analytical",
    "encapsulation_overhead_capture_verified", "ceiling_gbps", "headroom", "harness_limited",
    "dut", "saturation_gbps", "max_lossfree_gbps", "overloaded", "effective_protocol",
    "cpu_pct_peak", "cpu_pct_mean", "rss_peak_kib", "pss_peak_kib", "gbps_per_core", "bottleneck",
    "rtt_us_mean", "rtt_us_ci95", "rtt_us_p50", "rtt_us_p99", "conns_per_sec",
    "conns_per_sec_ci95", "conn_handshake_p50_us", "conn_handshake_p99_us", "perf_cycles",
    "perf_instructions", "perf_ipc", "perf_cache_references", "perf_cache_misses",
    "perf_context_switches", "perf_syscalls", "perf_task_clock_ms", "perf_duration_s",
    "co_corrected", "send_lag_mean_us", "send_lag_max_us", "ctx_switches_total",
    "ctx_switches_per_s", "cpu_seconds_total", "mem_copies_per_msg", "mem_copy_to_user",
    "mem_copy_from_user", "mem_splice_syscalls", "mem_poll_syscalls", "mem_io_uring_enter",
    "resumed_fraction", "cpu_hot_thread_pct_p95", "host_busy_frac_p95", "ceiling_transport"]

/-- The keys of a scenario's `config.csv` behind `name`. -/
def configKeys : List String :=
  ["category", "transport", "protocol", "pattern", "message_bytes", "payload_bytes",
    "encapsulation_overhead_bytes_analytical", "encapsulation_overhead_capture_verified",
    "connections", "gateway_enabled", "runs", "warmup_secs", "measure_secs", "cooldown_secs",
    "outlier_removal"]

/-- The keys a scenario's `summary.csv` may hold. -/
def summaryKeys : List String :=
  ["runs", "throughput_gbps_mean", "throughput_gbps_ci95", "throughput_gbps_stddev",
    "throughput_gbps_min", "throughput_gbps_max", "throughput_gbps_cov", "latency_mean_us",
    "latency_mean_ci95", "latency_p99_us_mean", "latency_p99_us_ci95", "handshake_us_mean",
    "loss_pct", "total_lost", "integrity_failures", "boundary_violations", "overloaded",
    "effective_protocol", "encapsulation_overhead_bytes_analytical",
    "encapsulation_overhead_capture_verified", "ceiling_gbps", "headroom", "harness_limited",
    "dut", "bottleneck", "ceiling_transport", "cpu_pct_peak", "cpu_pct_mean", "cpu_pct_p95",
    "cpu_hot_thread_pct_p95", "host_busy_frac_p95", "cpu_seconds_total", "ctx_switches_total",
    "ctx_switches_per_s", "rss_peak_kib", "pss_peak_kib", "gbps_per_core", "perf_cycles",
    "perf_instructions", "perf_ipc", "perf_cache_references", "perf_cache_misses",
    "perf_context_switches", "perf_syscalls", "perf_task_clock_ms", "perf_duration_s",
    "mem_copies_per_msg", "mem_copy_to_user", "mem_copy_from_user", "mem_splice_syscalls",
    "mem_poll_syscalls", "mem_io_uring_enter", "saturation_gbps", "max_lossfree_gbps",
    "knee_offered_mbps", "rtt_us_mean", "rtt_us_ci95", "rtt_us_p50", "rtt_us_p99", "rtt_samples",
    "conns_per_sec", "conns_per_sec_ci95", "conn_handshake_p50_us", "conn_handshake_p99_us",
    "conn_total", "resumed_fraction", "resumed_handshakes", "full_handshakes"]

def streamHeaders : List String :=
  ["stream", "traffic_class", "dscp_tag", "throughput_gbps", "latency_mean_us", "latency_p50_us",
    "latency_p95_us", "latency_p99_us", "jitter_us", "loss_pct", "lost", "duplicate", "reordered",
    "co_corrected", "send_lag_mean_us", "send_lag_max_us", "dscp_preserved"]

def reloadKeys : List String :=
  ["action", "reload_fired", "action_succeeded", "reload_duration_us", "connections_before",
    "connections_after", "inflight_packets_lost", "latency_p99_us",
    "throughput_during_reload_gbps", "rollback_continuity_passed", "change_applied"]

/-- A measured scenario as the cells it is recorded in. -/
structure Measured where
  configValues : List Text
  summary : List (Text × Text)
  keyed : ∀ pair ∈ summary, pair.1 ∈ texts summaryKeys
  runs : Csv
  saturation : Option Csv
  /-- The top-level row behind the scenario's name. -/
  row : List Text
  aligned : row.length + 1 = summaryHeaders.length

structure StreamTables where
  rows : List (List Text)
  fairnessRatio : Text
  safetyLossFree : Text
  safetyP99Us : Text

section Recording

variable (name : String)

def scenarioConfigCsv (m : Measured) : Csv :=
  .keyValue (("name".toList, name.toList) :: (texts configKeys).zip m.configValues)

def scenarioSummaryCsv (m : Measured) : Csv := .keyValue m.summary

/-- The first operation stands for `create_dir_all` of the directory and of its
`system_metrics/`. -/
def recordScenario (m : Measured) : List Write :=
  let place := scenarioPlace name
  .mkdir place ::
    ((scenarioConfigCsv name m).write place .config ++
      ((scenarioSummaryCsv m).write place .summary ++
        (m.runs.write place .runs ++
          ((m.saturation.elim [] fun sweep => sweep.write place .saturation) ++
            [.file place .summaryRow
              (Csv.renderBody
                { headers := texts summaryHeaders, rows := [name.toList :: m.row] })]))))

def recordStreamResults (tables : StreamTables) : List Write :=
  let place := scenarioPlace name
  let summary : Csv := .keyValue
    [("fairness_ratio".toList, tables.fairnessRatio),
      ("safety_loss_free".toList, tables.safetyLossFree),
      ("safety_p99_us".toList, tables.safetyP99Us)]
  Csv.write { headers := texts streamHeaders, rows := tables.rows } place .streams ++
    summary.write place .streamSummary

def recordReloadArtifact (values : List Text) : List Write :=
  (Csv.keyValue ((texts reloadKeys).zip values)).write (scenarioPlace name) .hotreload

def skipCsv (reason : Text) : Csv :=
  .keyValue [("scenario".toList, name.toList), ("reason".toList, reason)]

def recordSkipped (reason : Text) : List Write :=
  let place := scenarioPlace name
  (skipCsv name reason).write place .skip ++
    [.file place .skipRow
      (Csv.renderBody
        { headers := texts ["scenario", "reason"], rows := [[name.toList, reason]] })]

end Recording

def scenarioRecorded (tree : Tree) (name : String) : Bool :=
  [.summary, .skip, .streamSummary, .hotreload].any fun file =>
    (tree.files (scenarioPlace name) file).isSome

/-! Rebuilding the consolidated tables. -/

def reconstructSummaryRow (config summary : List (Text × Text)) : List Text :=
  (texts summaryHeaders).map fun header =>
    let key := if header = "scenario".toList then "name".toList else header
    ((lookupKey summary key).or (lookupKey config key)).getD []

/-- What a scenario directory adds to the top-level `summary.csv`. -/
def summaryPart (dir : Dir) : Option Text :=
  match dir .summaryRow with
  | some text => some text
  | none =>
      (dir .summary).map fun kv =>
        let summary := readKeyValueCsv kv
        let config := ((dir .config).map readKeyValueCsv).getD []
        Csv.renderBody
          { headers := texts summaryHeaders, rows := [reconstructSummaryRow config summary] }

/-- What a scenario directory adds to `skipped.csv`. -/
def skipPart (dir : Dir) : Option Text :=
  match dir .skipRow with
  | some text => some text
  | none =>
      (dir .skip).map fun kv =>
        let m := readKeyValueCsv kv
        Csv.renderBody
          { headers := texts ["scenario", "reason"]
            rows :=
              [[(lookupKey m "scenario".toList).getD [], (lookupKey m "reason".toList).getD []]] }

/-- `scenario_dirs`: the existing children in path order. -/
def Tree.scenarioDirs (tree : Tree) : List Text := tree.dirs.mergeSort fun a b => a ≤ b

/-- The text of a rebuilt table, and its row count. -/
def Tree.rebuild (tree : Tree) (headers : List String) (part : Dir → Option Text) : Text × Nat :=
  let parts := tree.scenarioDirs.filterMap fun dir => part (tree.files (.child dir))
  (Csv.render { headers := texts headers } ++ parts.flatten, parts.length)

def Tree.rebuildSummary (tree : Tree) : Text × Nat := tree.rebuild summaryHeaders summaryPart

def Tree.rebuildSkipped (tree : Tree) : Text × Nat :=
  tree.rebuild ["scenario", "reason"] skipPart

/-- The consolidated tables `finish` writes. -/
def finish (tree : Tree) : List Write :=
  let summary := Write.file .root .summary tree.rebuildSummary.1
  [summary, .file .root .skipped (tree.apply summary).rebuildSkipped.1]

/-! Runs over a result tree. -/

/-- How a run records a scenario, by the path it takes. -/
inductive Outcome where
  | measured (m : Measured)
  | skipped (reason : Text)
  | multiStream (tables : StreamTables) (m : Measured)
  | multiStreamSkipped (tables : StreamTables) (reason : Text)
  | hotReload (m : Measured) (artifact : List Text)

def Outcome.record (name : String) : Outcome → List Write
  | .measured m => recordScenario name m
  | .skipped reason => recordSkipped name reason
  | .multiStream tables m => recordStreamResults name tables ++ recordScenario name m
  | .multiStreamSkipped tables reason => recordStreamResults name tables ++ recordSkipped name reason
  | .hotReload m artifact => recordScenario name m ++ recordReloadArtifact name artifact

/-- The operations of `run_config` over the enabled scenarios, then of `finish`. A
scenario that is already recorded is left untouched. -/
def runWrites (outcome : String → Outcome) : List String → Tree → List Write
  | [], tree => finish tree
  | name :: rest, tree =>
      if scenarioRecorded tree name then runWrites outcome rest tree
      else
        let writes := (outcome name).record name
        writes ++ runWrites outcome rest (tree.applyAll writes)

/-- The names of the scenarios that a run executes. -/
def executed (outcome : String → Outcome) : List String → Tree → List String
  | [], _ => []
  | name :: rest, tree =>
      if scenarioRecorded tree name then executed outcome rest tree
      else name :: executed outcome rest (tree.applyAll ((outcome name).record name))

def enabledNames (scenarios : List Scenario) : List String :=
  (scenarios.filter Scenario.enabled).map Scenario.name

end Seshat.Report
