import Seshat.Lib.Passes
import Seshat.Report.SummaryRow
import Mathlib.Logic.Function.Basic
import Mathlib.Tactic.Common

/-! Comparison groups over a run: the ceilings that throughput scenarios leave behind, the
rates later scenarios are offered, and the table of deltas. All of it is kept in memory, and
a resumed run starts without it. -/

namespace Seshat.Commands
open Config Report Lib.Passes

/-- A completed row of a comparison group. -/
structure ComparisonOutcome where
  group : String
  scenario : String
  transport : String
  reference : String
  gatewayReference : Option String
  throughputGbps : ℚ
  latencyMeanUs : ℚ
  latencyP99Us : ℚ
  jitterUs : ℚ
  lossPct : ℚ
  cpuPctPeak : Option ℚ
  rssPeakKib : Option UInt64
  pssPeakKib : Option UInt64
  deriving DecidableEq, Repr

structure ScenarioOutcome where
  name : String
  throughputGbps : ℚ
  lossPct : ℚ
  deriving DecidableEq, Repr

/-- What a run carries from scenario to scenario; only the tree outlives the process. -/
structure RunContext where
  tree : Tree
  comparisons : List ComparisonOutcome := []
  outcomes : List ScenarioOutcome := []
  comparisonCeilings : String → Option ℚ := fun _ => none
  /-- The rates offered so far to the scenarios that have been measured. -/
  offered : List (String × Option ℚ) := []

/-- `ResultDir::create` -/
def RunContext.create : RunContext where
  tree := .fresh

/-- `ResultDir::open` on the tree of an earlier run. -/
def RunContext.reopen (earlier : RunContext) : RunContext where
  tree := earlier.tree

/-- How a scenario ends, whatever rate it is offered. -/
inductive Trial where
  | measured (params : RunParams) (stats : RunStats) (art : ScenarioArtifacts)
  | skipped (reason : Text)
  | multiStream (tables : StreamTables) (params : RunParams) (stats : RunStats)
      (art : ScenarioArtifacts)
  | multiStreamSkipped (tables : StreamTables) (reason : Text)
  | hotReload (params : RunParams) (stats : RunStats) (art : ScenarioArtifacts)
      (artifact : List Text)

/-- What a trial writes. Streams and hot reloads do not take the offered rate. -/
def Trial.outcome (s : Scenario) (rate : Option ℚ) : Trial → Outcome
  | .measured params stats art => .measured (Report.measured s (params.atRate rate) stats art)
  | .skipped reason => .skipped reason
  | .multiStream tables params stats art =>
      .multiStream tables (Report.measured s params stats art)
  | .multiStreamSkipped tables reason => .multiStreamSkipped tables reason
  | .hotReload params stats art artifact =>
      .hotReload (Report.measured s params stats art) artifact

/-- The measurement handed to `record_scenario`. -/
def Trial.recording : Trial → Option (RunParams × RunStats × ScenarioArtifacts)
  | .measured params stats art => some (params, stats, art)
  | .multiStream _ params stats art => some (params, stats, art)
  | .hotReload params stats art _ => some (params, stats, art)
  | _ => none

/-- Whether the offered rate reaches the sender. -/
def Trial.takesRate : Trial → Bool
  | .measured _ _ _ => true
  | _ => false

/-- The rate, in Mbit/s, of a scenario that runs at a fraction of its group's ceiling. -/
def comparisonRate (s : Scenario) (ceilings : String → Option ℚ) : Option ℚ := do
  let comparison ← s.comparison
  let group ← comparison.calibrationGroup
  let fraction ← comparison.calibrationFraction
  let gbps ← ceilings group
  let mbps := gbps * 1000 * fraction
  if mbps > 0 then some mbps else none

def captureComparisonCeiling (s : Scenario) (outcomes : List ScenarioOutcome)
    (lossThresholdPct : ℚ) (ceilings : String → Option ℚ) : String → Option ℚ :=
  match s.comparison with
  | none => ceilings
  | some comparison =>
      if s.category ≠ some "interface-comparison-throughput" then ceilings
      else
        match outcomes.getLast?.filter fun outcome => outcome.name = s.name with
        | none => ceilings
        | some outcome =>
            if outcome.lossPct > lossThresholdPct ∨ outcome.throughputGbps ≤ 0 then ceilings
            else
              let lowest :=
                match ceilings comparison.group with
                | some ceiling => min ceiling outcome.throughputGbps
                | none => outcome.throughputGbps
              Function.update ceilings comparison.group (some lowest)

def comparisonOutcome (s : Scenario) (comparison : Comparison) (params : RunParams)
    (stats : RunStats) (art : ScenarioArtifacts) : ComparisonOutcome where
  group := comparison.group
  scenario := s.name
  transport := params.sender.interface.label
  reference := comparison.reference
  gatewayReference := comparison.gatewayReference
  throughputGbps := stats.throughputGbps.mean
  latencyMeanUs := stats.latencyMeanUs.mean
  latencyP99Us := stats.latencyP99Us.mean
  jitterUs := stats.meanJitter
  lossPct := stats.lossPct
  cpuPctPeak := art.sys.map SysAgg.cpuPctPeak
  rssPeakKib := art.sys.map SysAgg.rssPeakKib
  pssPeakKib := art.sys.map SysAgg.pssPeakKib

/-- An enabled scenario of a suite, under the defaults of its config. -/
abbrev Entry := Defaults × Scenario

/-- The scenarios of all configs in execution order. -/
def enabledEntries (suite : List Config) : List Entry :=
  suite.flatMap fun config => (config.scenarios.filter Scenario.enabled).map (config.defaults, ·)

section Run

variable (trial : String → Trial)

/-- The row a trial adds to the comparison table. -/
def comparisonRow (entry : Entry) : Option ComparisonOutcome := do
  let comparison ← entry.2.comparison
  let (params, stats, art) ← (trial entry.2.name).recording
  some (comparisonOutcome entry.2 comparison params stats art)

/-- What memory keeps of a measurement. -/
def RunContext.keep (ctx : RunContext) (entry : Entry) : RunContext :=
  match (trial entry.2.name).recording with
  | none => ctx
  | some (_, stats, _) =>
      let outcomes := ctx.outcomes ++
        [{ name := entry.2.name, throughputGbps := stats.throughputGbps.mean,
           lossPct := stats.lossPct }]
      { ctx with
        outcomes
        comparisons := ctx.comparisons ++ (comparisonRow trial entry).toList
        comparisonCeilings :=
          captureComparisonCeiling entry.2 outcomes entry.1.lossThresholdPct ctx.comparisonCeilings
        offered := ctx.offered ++
          if (trial entry.2.name).takesRate then
            [(entry.2.name, comparisonRate entry.2 ctx.comparisonCeilings)]
          else [] }

/-- A scenario that is not yet recorded: it runs and is recorded. -/
def RunContext.execute (ctx : RunContext) (entry : Entry) : RunContext :=
  let rate := comparisonRate entry.2 ctx.comparisonCeilings
  let writes := ((trial entry.2.name).outcome entry.2 rate).record entry.2.name
  RunContext.keep trial { ctx with tree := ctx.tree.applyAll writes } entry

/-- Whether a scenario directory holds the evidence of a recording. -/
def evidence (ctx : RunContext) (place : Place) : Bool :=
  [.summary, .skip, .streamSummary, .hotreload].any fun file => (ctx.tree.files place file).isSome

def entryPlace (entry : Entry) : Place := scenarioPlace entry.2.name

/-- The loop of `run_config`, over all configs. -/
def runEntries : List Entry → RunContext → RunContext :=
  pass evidence entryPlace (RunContext.execute trial)

end Run

def comparisonHeaders : List String :=
  ["group", "scenario", "transport", "reference_scenario", "gateway_reference_scenario",
    "throughput_gbps", "latency_mean_us", "latency_p99_us", "jitter_us", "loss_pct",
    "cpu_pct_peak", "rss_peak_kib", "pss_peak_kib", "throughput_delta_vs_direct_gbps",
    "latency_p99_delta_vs_direct_us", "throughput_delta_vs_gateway_gbps",
    "latency_p99_delta_vs_gateway_us"]

/-- The throughput and latency deltas against a reference. -/
def deltaCells (row : ComparisonOutcome) (reference : Option ComparisonOutcome) : List Text :=
  [(reference.map fun r => num (row.throughputGbps - r.throughputGbps) 4).getD [],
    (reference.map fun r => num (row.latencyP99Us - r.latencyP99Us) 3).getD []]

def comparisonCells (byScenario : String → Option ComparisonOutcome) (row : ComparisonOutcome) :
    List Text :=
  [row.group.toList, row.scenario.toList, row.transport.toList, row.reference.toList,
    (row.gatewayReference.getD "").toList, num row.throughputGbps 4, num row.latencyMeanUs 3,
    num row.latencyP99Us 3, num row.jitterUs 3, num row.lossPct 4,
    (row.cpuPctPeak.map (num · 1)).getD [], (row.rssPeakKib.map count).getD [],
    (row.pssPeakKib.map count).getD []] ++
    deltaCells row (byScenario row.reference) ++
    deltaCells row (row.gatewayReference.bind byScenario)

/-- The table `finish` writes, if it writes one. The last row of a name is its reference. -/
def interfaceComparison (comparisons : List ComparisonOutcome) : Option Csv :=
  if comparisons.isEmpty then none
  else
    let byScenario name := comparisons.reverse.find? fun row => row.scenario = name
    some { headers := texts comparisonHeaders, rows := comparisons.map (comparisonCells byScenario) }

/-! What one scenario does to the context. -/

section Step

variable {trial : String → Trial}

theorem keep_tree (ctx : RunContext) (entry : Entry) :
    (ctx.keep trial entry).tree = ctx.tree := by
  unfold RunContext.keep
  split <;> rfl

theorem puts_isSome (dir : Dir) (files : List (FileName × Text)) (file : FileName) :
    ((dir.puts files) file).isSome = true ↔ (dir file).isSome = true ∨ file ∈ files.map Prod.fst := by
  induction files generalizing dir with
  | nil => simp [Dir.puts]
  | cons first rest ih =>
    rw [Dir.puts, List.foldl_cons]
    refine (ih (dir.put first.1 first.2)).trans ?_
    by_cases same : file = first.1
    · simp [Dir.put, same]
    · simp [Dir.put, same]

/-- Every way a scenario is recorded leaves evidence. -/
theorem files_evidence (name : String) (outcome : Outcome) :
    ∃ file ∈ [FileName.summary, .skip, .streamSummary, .hotreload],
      file ∈ (outcome.files name).map Prod.fst := by
  cases outcome with
  | measured m => exact ⟨.summary, by simp, by simp [Outcome.files, measuredFiles]⟩
  | skipped reason => exact ⟨.skip, by simp, by simp [Outcome.files, skippedFiles]⟩
  | multiStream tables m =>
    exact ⟨.summary, by simp, by simp [Outcome.files, streamFiles, measuredFiles]⟩
  | multiStreamSkipped tables reason =>
    exact ⟨.skip, by simp, by simp [Outcome.files, streamFiles, skippedFiles]⟩
  | hotReload m artifact => exact ⟨.summary, by simp, by simp [Outcome.files, measuredFiles]⟩

theorem evidence_execute (ctx : RunContext) (entry : Entry) :
    evidence (ctx.execute trial entry) = also (evidence ctx) (entryPlace entry) := by
  funext place
  set outcome := (trial entry.2.name).outcome entry.2
    (comparisonRate entry.2 ctx.comparisonCeilings) with shape
  have tree : (ctx.execute trial entry).tree =
      ctx.tree.applyAll (outcome.record entry.2.name) := keep_tree _ entry
  have inPlace := outcome.record_place entry.2.name
  rw [also, evidence, tree]
  by_cases here : place = entryPlace entry
  · rw [here, entryPlace, Tree.applyAll_same inPlace, Outcome.record_puts, decide_eq_true rfl,
      Bool.or_true, List.any_eq_true]
    obtain ⟨file, listed, written⟩ := files_evidence entry.2.name outcome
    exact ⟨file, listed, (puts_isSome _ _ file).mpr (Or.inr written)⟩
  · rw [Tree.applyAll_other inPlace here, decide_eq_false here, Bool.or_false]
    rfl

theorem execute_comparisons (ctx : RunContext) (entry : Entry) :
    (ctx.execute trial entry).comparisons =
      ctx.comparisons ++ (comparisonRow trial entry).toList := by
  unfold RunContext.execute RunContext.keep
  split
  · next unrecorded =>
    have none : comparisonRow trial entry = none := by
      rw [comparisonRow, unrecorded]
      cases entry.2.comparison <;> rfl
    rw [none, Option.toList_none, List.append_nil]
  · rfl

/-- Only the rows of the comparison table leave ceilings behind. -/
theorem execute_ceilings (ctx : RunContext) {entry : Entry}
    (unlisted : comparisonRow trial entry = none) :
    (ctx.execute trial entry).comparisonCeilings = ctx.comparisonCeilings := by
  unfold RunContext.execute RunContext.keep
  split
  · rfl
  · next recorded =>
    have none : entry.2.comparison = none := by
      rw [comparisonRow, recorded] at unlisted
      cases comparison : entry.2.comparison with
      | none => rfl
      | some comparison => simp [comparison] at unlisted
    simp only [captureComparisonCeiling, none]

/-- The next offer, and the next ceilings, depend on nothing but the ceilings. -/
theorem execute_alike (trial : String → Trial) {ctx other : RunContext}
    (same : ctx.comparisonCeilings = other.comparisonCeilings) (entry : Entry) :
    (∃ offers, (ctx.execute trial entry).offered = ctx.offered ++ offers ∧
      (other.execute trial entry).offered = other.offered ++ offers) ∧
      (ctx.execute trial entry).comparisonCeilings =
        (other.execute trial entry).comparisonCeilings := by
  unfold RunContext.execute RunContext.keep
  split
  · exact ⟨⟨[], by simp, by simp⟩, same⟩
  · refine ⟨⟨_, rfl, by rw [same]⟩, ?_⟩
    simp only [captureComparisonCeiling, List.getLast?_concat, same]

end Step

/-! What a whole run does to it. -/

section Runs

variable {trial : String → Trial}

theorem foldl_comparisons (entries : List Entry) (ctx : RunContext) :
    (entries.foldl (RunContext.execute trial) ctx).comparisons =
      ctx.comparisons ++ entries.filterMap (comparisonRow trial) := by
  induction entries generalizing ctx with
  | nil => simp
  | cons entry rest ih =>
    rw [List.foldl_cons, ih, execute_comparisons, List.append_assoc, List.filterMap_cons]
    cases comparisonRow trial entry <;> rfl

theorem foldl_ceilings {entries : List Entry} (ctx : RunContext)
    (unlisted : ∀ entry ∈ entries, comparisonRow trial entry = none) :
    (entries.foldl (RunContext.execute trial) ctx).comparisonCeilings = ctx.comparisonCeilings := by
  induction entries generalizing ctx with
  | nil => rfl
  | cons entry rest ih =>
    rw [List.foldl_cons, ih _ fun other member => unlisted other (List.mem_cons_of_mem _ member),
      execute_ceilings ctx (unlisted entry List.mem_cons_self)]

theorem foldl_alike (trial : String → Trial) (entries : List Entry) {ctx other : RunContext}
    (same : ctx.comparisonCeilings = other.comparisonCeilings) :
    ∃ offers, (entries.foldl (RunContext.execute trial) ctx).offered = ctx.offered ++ offers ∧
      (entries.foldl (RunContext.execute trial) other).offered = other.offered ++ offers := by
  induction entries generalizing ctx other with
  | nil => exact ⟨[], by simp, by simp⟩
  | cons entry rest ih =>
    obtain ⟨⟨first, left, right⟩, later⟩ := execute_alike trial same entry
    obtain ⟨offers, leftRest, rightRest⟩ := ih later
    refine ⟨first ++ offers, ?_, ?_⟩
    · rw [List.foldl_cons, leftRest, left, List.append_assoc]
    · rw [List.foldl_cons, rightRest, right, List.append_assoc]

/-- A resumed run works on what the first one left, without what that kept in memory. -/
theorem runEntries_split (trial : String → Trial) (entries rest : List Entry) :
    let first := runEntries trial entries .create
    let left := fresh entryPlace (evidence first) rest
    first = (fresh entryPlace (fun _ => false) entries).foldl (RunContext.execute trial) .create ∧
      runEntries trial (entries ++ rest) .create =
        left.foldl (RunContext.execute trial) first ∧
      runEntries trial (entries ++ rest) first.reopen =
        left.foldl (RunContext.execute trial) first.reopen := by
  intro first left
  have recorded (entry : Entry) (member : entry ∈ entries) :
      evidence first.reopen (entryPlace entry) = true :=
    (recorded_pass evidence_execute entries _ _).mpr (Or.inr ⟨entry, member, rfl⟩)
  have again : runEntries trial entries first.reopen = first.reopen := by
    rw [runEntries, pass_fresh evidence_execute, fresh_done recorded, List.foldl_nil]
  refine ⟨pass_fresh evidence_execute entries _, ?_, ?_⟩
  · rw [runEntries, pass_append]
    exact pass_fresh evidence_execute rest first
  · rw [runEntries, pass_append]
    change pass evidence entryPlace (RunContext.execute trial) rest
      (runEntries trial entries first.reopen) = _
    rw [again]
    exact pass_fresh evidence_execute rest first.reopen

end Runs

/-- An interrupted run and the one that resumes it offer together what an uninterrupted run
offers, and end with its comparison table. -/
structure ResumesAlike (full first resumed : RunContext) : Prop where
  rates : full.offered = first.offered ++ resumed.offered
  rows : interfaceComparison resumed.comparisons = interfaceComparison full.comparisons

/-- The entries a run into an empty tree executes: no earlier one has their directory. -/
def executedFresh (entries : List Entry) : List Entry :=
  fresh entryPlace (fun _ => false) entries

theorem interfaceComparison_longer {first later : List ComparisonOutcome}
    (same : interfaceComparison later = interfaceComparison (first ++ later)) : first = [] := by
  by_contra nonempty
  have whole : (first ++ later).isEmpty = false := by
    cases first with
    | nil => exact absurd rfl nonempty
    | cons row rest => rfl
  unfold interfaceComparison at same
  rw [whole] at same
  split at same
  · simp at same
  · have rows := congrArg (fun table => (table.map fun csv => csv.rows.length).getD 0) same
    simp only [Bool.false_eq_true, if_false, Option.map_some, Option.getD_some, List.length_map,
      List.length_append] at rows
    exact nonempty (List.length_eq_zero_iff.mp (by omega))

theorem comparisonRow_none (trial : String → Trial) (entry : Entry) :
    comparisonRow trial entry = none ↔
      (entry.2.comparison.isSome = true → (trial entry.2.name).recording = none) := by
  unfold comparisonRow
  cases entry.2.comparison with
  | none => simp
  | some comparison => cases (trial entry.2.name).recording <;> simp

/-- The comparison rows of a run, and of the one that resumes it without them. -/
theorem comparisons_split (trial : String → Trial) (entries rest : List Entry) :
    let first := runEntries trial entries .create
    let later := (fresh entryPlace (evidence first) rest).filterMap (comparisonRow trial)
    first.comparisons = (executedFresh entries).filterMap (comparisonRow trial) ∧
      (runEntries trial (entries ++ rest) .create).comparisons = first.comparisons ++ later ∧
      (runEntries trial (entries ++ rest) first.reopen).comparisons = later := by
  obtain ⟨firstRun, fullRun, resumedRun⟩ := runEntries_split trial entries rest
  refine ⟨?_, ?_, ?_⟩
  · rw [firstRun, foldl_comparisons]
    rfl
  · rw [fullRun, foldl_comparisons]
  · rw [resumedRun, foldl_comparisons]
    rfl

/-- Wherever a run of a suite is interrupted between two scenarios, resuming it gives the
offered rates and the comparison table of an uninterrupted run exactly where the first run has
measured no scenario of a comparison group. -/
theorem resumed_comparisons_iff (trial : String → Trial) (suite : List Config) (k : Nat) :
    let entries := enabledEntries suite
    let full := runEntries trial entries .create
    let first := runEntries trial (entries.take k) .create
    let resumed := runEntries trial entries first.reopen
    ResumesAlike full first resumed ↔
      ∀ entry ∈ executedFresh (entries.take k),
        entry.2.comparison.isSome = true → (trial entry.2.name).recording = none := by
  intro entries full first resumed
  obtain ⟨firstRun, fullRun, resumedRun⟩ :=
    runEntries_split trial (entries.take k) (entries.drop k)
  obtain ⟨listed, fullTable, resumedTable⟩ :=
    comparisons_split trial (entries.take k) (entries.drop k)
  rw [List.take_append_drop] at fullRun resumedRun fullTable resumedTable
  set left := fresh entryPlace (evidence first) (entries.drop k)
  replace fullRun : full = left.foldl _ first := fullRun
  replace resumedRun : resumed = left.foldl _ first.reopen := resumedRun
  constructor
  · intro alike entry executed
    rw [← comparisonRow_none]
    have rows := alike.rows
    rw [fullTable, resumedTable] at rows
    have none : first.comparisons = [] := interfaceComparison_longer rows
    rw [listed, List.filterMap_eq_nil_iff] at none
    exact none entry executed
  · intro unmeasured
    have unlisted (entry : Entry) (executed : entry ∈ executedFresh (entries.take k)) :
        comparisonRow trial entry = none :=
      (comparisonRow_none trial entry).mpr (unmeasured entry executed)
    have empty : first.comparisons = [] := by
      rw [listed]
      exact List.filterMap_eq_nil_iff.mpr unlisted
    have ceilings : first.comparisonCeilings = fun _ => none := by
      rw [show first = _ from firstRun]
      exact foldl_ceilings .create unlisted
    obtain ⟨offers, fullOffers, resumedOffers⟩ :=
      @foldl_alike trial left first first.reopen ceilings
    constructor
    · rw [fullRun, resumedRun, fullOffers, resumedOffers]
      rfl
    · rw [fullTable, resumedTable, empty, List.nil_append]

/-- A throughput scenario that sets the ceiling of a group, and a latency scenario that runs at
half of it. -/
def comparedSuite : Config where
  suite := { name := "suite", version := "1.0" }
  scenarios := [
    { name := "throughput"
      category := some "interface-comparison-throughput"
      messageSizeBytes := some 1024
      sender := some { interface := .tcp, targetAddr := "127.0.0.1:15000" }
      comparison := some { group := "g", reference := "throughput" } },
    { name := "latency"
      category := some "interface-comparison-latency"
      messageSizeBytes := some 1024
      sender := some { interface := .tcp, targetAddr := "127.0.0.1:15001" }
      comparison := some
        { group := "l", reference := "latency", calibrationGroup := some "g"
          calibrationFraction := some (1 / 2) } }]

def tenGbps : Trial :=
  .measured plainParams
    { plainStats with throughputGbps := { Metrics.Summary.empty with mean := 10 } } {}

/-- Interrupted behind the throughput scenario, the suite is resumed without its ceiling: the
latency scenario is offered no rate instead of 5000 Mbit/s. -/
theorem resumed_loses_ceiling :
    let entries := enabledEntries [comparedSuite]
    let full := runEntries (fun _ => tenGbps) entries .create
    let first := runEntries (fun _ => tenGbps) (entries.take 1) .create
    let resumed := runEntries (fun _ => tenGbps) entries first.reopen
    (validate comparedSuite).ok = true ∧
      full.offered = [("throughput", none), ("latency", some 5000)] ∧
      first.offered = [("throughput", none)] ∧ resumed.offered = [("latency", none)] ∧
      ¬ResumesAlike full first resumed := by
  intro entries full first resumed
  have fullRates : full.offered = [("throughput", none), ("latency", some 5000)] := by
    decide +kernel
  have firstRates : first.offered = [("throughput", none)] := by decide +kernel
  have resumedRates : resumed.offered = [("latency", none)] := by decide +kernel
  refine ⟨by decide +kernel, fullRates, firstRates, resumedRates, fun alike => ?_⟩
  have rates := alike.rates
  rw [fullRates, firstRates, resumedRates] at rates
  exact absurd rates (by decide +kernel)

end Seshat.Commands
