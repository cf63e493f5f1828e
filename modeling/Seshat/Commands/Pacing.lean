import Seshat.Commands.Comparisons
import Seshat.Lib.Minima
import Seshat.Matrix.Families
import Seshat.Matrix.Generated
import Seshat.Matrix.Names
import Mathlib.Tactic.Common

/-! The rates a run offers: a scenario that refers to a throughput group is paced off the slowest
path of that group the run has measured, and in a generated comparison that is the slowest of
all of them. -/

namespace Seshat.Commands
open Config Report Lib.Passes Lib.Minima

/-- What a scenario notes as a ceiling of its group, if its throughput counts. -/
def notedCeiling (trial : String → Trial) (entry : Entry) : Option (String × ℚ) := do
  let comparison ← entry.2.comparison
  let (_, stats, _) ← (trial entry.2.name).recording
  if entry.2.category = some "interface-comparison-throughput" ∧
      stats.lossPct ≤ entry.1.lossThresholdPct ∧ 0 < stats.throughputGbps.mean then
    some (comparison.group, stats.throughputGbps.mean)
  else none

theorem notedCeiling_none (trial : String → Trial) {entry : Entry}
    (apart : entry.2.category ≠ some "interface-comparison-throughput") :
    notedCeiling trial entry = none := by
  unfold notedCeiling
  cases entry.2.comparison with
  | none => rfl
  | some comparison => cases (trial entry.2.name).recording <;> simp [apart]

/-- The throughput a scenario counts with, where one is measured and no more is lost than may
be. -/
def countedThroughput (trial : String → Trial) (entry : Entry) : Option ℚ := do
  let (_, stats, _) ← (trial entry.2.name).recording
  if stats.lossPct ≤ entry.1.lossThresholdPct ∧ 0 < stats.throughputGbps.mean then
    some stats.throughputGbps.mean
  else none

theorem notedCeiling_eq_some {trial : String → Trial} {entry : Entry} {group : String} {gbps : ℚ} :
    notedCeiling trial entry = some (group, gbps) ↔
      entry.2.category = some "interface-comparison-throughput" ∧
        (∃ comparison, entry.2.comparison = some comparison ∧ comparison.group = group) ∧
        countedThroughput trial entry = some gbps := by
  unfold notedCeiling countedThroughput
  cases entry.2.comparison with
  | none => simp
  | some comparison =>
    cases (trial entry.2.name).recording with
    | none => simp
    | some recording =>
      simp only [Option.bind_eq_bind, Option.bind_some, Option.ite_none_right_eq_some,
        Option.some.injEq, Prod.mk.injEq, exists_eq_left']
      tauto

/-- The throughputs that count for a group. -/
def groupCeilings (trial : String → Trial) (entries : List Entry) (group : String) : Set ℚ :=
  {gbps | ∃ entry ∈ entries, notedCeiling trial entry = some (group, gbps)}

/-- The rate of a scenario whose group has been measured by these entries. -/
structure Paced (trial : String → Trial) (measured : List Entry) (s : Scenario) (mbps : ℚ) :
    Prop where
  positive : 0 < mbps
  slowest : ∃ comparison group fraction gbps, s.comparison = some comparison ∧
    comparison.calibrationGroup = some group ∧ comparison.calibrationFraction = some fraction ∧
    IsLeast (groupCeilings trial measured group) gbps ∧ gbps * 1000 * fraction = mbps

/-- A process that has just started, with an empty tree or with that of an earlier run. -/
structure RunContext.Opened (ctx : RunContext) : Prop where
  ceilings : ctx.comparisonCeilings = fun _ => none
  offered : ctx.offered = []

theorem RunContext.reopen_opened (earlier : RunContext) : earlier.reopen.Opened := ⟨rfl, rfl⟩

section Step

variable (trial : String → Trial) (ctx : RunContext) (entry : Entry)

theorem execute_notes :
    (ctx.execute trial entry).comparisonCeilings =
      (notedCeiling trial entry).elim ctx.comparisonCeilings fun noted =>
        note ctx.comparisonCeilings noted.1 noted.2 := by
  unfold RunContext.execute RunContext.keep notedCeiling
  cases recorded : (trial entry.2.name).recording with
  | none => cases entry.2.comparison <;> rfl
  | some recording =>
    obtain ⟨params, stats, art⟩ := recording
    have own : (some (ScenarioOutcome.mk entry.2.name stats.throughputGbps.mean
        stats.lossPct)).filter (fun outcome => outcome.name = entry.2.name) = some _ :=
      if_pos (decide_eq_true rfl)
    simp only [captureComparisonCeiling, List.getLast?_concat, own]
    cases entry.2.comparison with
    | none => rfl
    | some comparison =>
      by_cases category : entry.2.category = some "interface-comparison-throughput"
      · by_cases counts : stats.lossPct ≤ entry.1.lossThresholdPct ∧ 0 < stats.throughputGbps.mean
        · have kept : ¬(stats.lossPct > entry.1.lossThresholdPct ∨
              stats.throughputGbps.mean ≤ 0) := by
            simpa using counts
          simp only [category, ne_eq, not_true_eq_false, if_false, if_neg kept, Option.bind_eq_bind,
            Option.bind_some, true_and, if_pos counts, Option.elim_some, note]
          cases ctx.comparisonCeilings comparison.group <;> rfl
        · have dropped : stats.lossPct > entry.1.lossThresholdPct ∨
              stats.throughputGbps.mean ≤ 0 := by
            by_contra kept
            exact counts (by simpa using kept)
          simp only [category, ne_eq, not_true_eq_false, if_false, if_pos dropped,
            Option.bind_eq_bind, Option.bind_some, true_and, if_neg counts, Option.elim_none]
      · simp [category]

/-- The rate offered, as the ceilings stand. -/
theorem execute_offers :
    (ctx.execute trial entry).offered = ctx.offered ++
      if (trial entry.2.name).takesRate then
        [(entry.2.name, comparisonRate entry.2 ctx.comparisonCeilings)]
      else [] := by
  unfold RunContext.execute RunContext.keep
  cases (trial entry.2.name) <;> simp [Trial.recording, Trial.takesRate]

theorem comparisonRate_eq_some {s : Scenario} {ceilings : String → Option ℚ} {mbps : ℚ} :
    comparisonRate s ceilings = some mbps ↔
      0 < mbps ∧ ∃ comparison group fraction gbps, s.comparison = some comparison ∧
        comparison.calibrationGroup = some group ∧
        comparison.calibrationFraction = some fraction ∧ ceilings group = some gbps ∧
        gbps * 1000 * fraction = mbps := by
  simp only [comparisonRate, Option.bind_eq_bind, Option.bind_eq_some_iff]
  constructor
  · rintro ⟨comparison, compared, group, grouped, fraction, fractioned, gbps, known, rate⟩
    split at rate
    · next positive =>
      obtain rfl := Option.some.inj rate
      exact ⟨positive, comparison, group, fraction, gbps, compared, grouped, fractioned, known, rfl⟩
    · cases rate
  · rintro ⟨positive, comparison, group, fraction, gbps, compared, grouped, fractioned, known, rfl⟩
    exact ⟨comparison, compared, group, grouped, fraction, fractioned, gbps, known, if_pos positive⟩

end Step

section Runs

variable {trial : String → Trial}

theorem foldl_notes (entries : List Entry) (ctx : RunContext) :
    (entries.foldl (RunContext.execute trial) ctx).comparisonCeilings =
      noteAll ctx.comparisonCeilings (entries.filterMap (notedCeiling trial)) := by
  induction entries generalizing ctx with
  | nil => rfl
  | cons entry rest ih =>
    rw [List.foldl_cons, ih, execute_notes, List.filterMap_cons]
    cases notedCeiling trial entry <;> rfl

/-- The number of scenarios that take a rate. -/
def rated (trial : String → Trial) (entries : List Entry) : Nat :=
  entries.countP fun entry => (trial entry.2.name).takesRate

theorem foldl_offers (entries : List Entry) (ctx : RunContext) :
    ∃ offers, offers.length = rated trial entries ∧
      (entries.foldl (RunContext.execute trial) ctx).offered = ctx.offered ++ offers := by
  induction entries generalizing ctx with
  | nil => exact ⟨[], rfl, (List.append_nil _).symm⟩
  | cons entry rest ih =>
    obtain ⟨offers, count, later⟩ := ih (ctx.execute trial entry)
    refine ⟨_, ?_, by rw [List.foldl_cons, later, execute_offers, List.append_assoc]⟩
    rw [List.length_append, count, rated, rated, List.countP_cons, Nat.add_comm]
    split <;> rfl

/-- The ceilings of a fresh process are the slowest throughputs of what it has executed. -/
theorem ceilings_least {ctx : RunContext} (opened : ctx.Opened) (entries : List Entry)
    (group : String) (gbps : ℚ) :
    (entries.foldl (RunContext.execute trial) ctx).comparisonCeilings group = some gbps ↔
      IsLeast (groupCeilings trial entries group) gbps := by
  have values : groupCeilings trial entries group =
      {gbps | (group, gbps) ∈ entries.filterMap (notedCeiling trial)} := by
    ext gbps
    simp [groupCeilings]
  rw [foldl_notes, opened.ceilings, values]
  exact minima_eq_some

/-- The rate a scenario is offered behind what has been executed. -/
theorem rate_paced {ctx : RunContext} (opened : ctx.Opened) (before : List Entry) (s : Scenario)
    (mbps : ℚ) :
    comparisonRate s (before.foldl (RunContext.execute trial) ctx).comparisonCeilings = some mbps ↔
      Paced trial before s mbps := by
  rw [comparisonRate_eq_some]
  simp only [ceilings_least opened]
  exact ⟨fun holds => ⟨holds.1, holds.2⟩, fun paced => ⟨paced.1, paced.2⟩⟩

/-- A run offers one rate to each scenario that takes one, in order, and that of a scenario is
paced off what the same process has measured before it. -/
theorem run_offers {ctx : RunContext} (opened : ctx.Opened) {entries before after : List Entry}
    {entry : Entry} (executed : fresh entryPlace (evidence ctx) entries = before ++ entry :: after)
    (takes : (trial entry.2.name).takesRate = true) :
    ∃ rate,
      (runEntries trial entries ctx).offered[rated trial before]? = some (entry.2.name, rate) ∧
      ∀ mbps, rate = some mbps ↔ Paced trial before entry.2 mbps := by
  obtain ⟨offers, count, front⟩ := @foldl_offers trial before ctx
  obtain ⟨later, -, back⟩ := @foldl_offers trial after
    ((before.foldl (RunContext.execute trial) ctx).execute trial entry)
  refine ⟨_, ?_, rate_paced opened before entry.2⟩
  rw [runEntries, pass_fresh evidence_execute, executed, List.foldl_append, List.foldl_cons, back,
    execute_offers, if_pos takes, front, opened.offered, List.nil_append, List.append_assoc,
    List.getElem?_append_right count.le, count, Nat.sub_self]
  rfl

/-- In a process that opens an empty tree or that of an earlier run, every scenario that takes a
rate is offered one, in order of execution: the fraction it asks for of the slowest throughput
of its group that this process has measured before it, and none if there is no such throughput,
however far the run gets. -/
theorem suite_paced (trial : String → Trial) (suite : List Config) (stop : Nat)
    (earlier : RunContext) :
    let entries := (enabledEntries suite).take stop
    let executed := fresh entryPlace (evidence earlier.reopen) entries
    let offered := (runEntries trial entries earlier.reopen).offered
    offered.length = rated trial executed ∧
      ∀ before entry after, executed = before ++ entry :: after →
        (trial entry.2.name).takesRate = true →
        ∃ rate, offered[rated trial before]? = some (entry.2.name, rate) ∧
          ∀ mbps, rate = some mbps ↔ Paced trial before entry.2 mbps := by
  intro entries executed offered
  constructor
  · obtain ⟨offers, count, all⟩ := @foldl_offers trial executed earlier.reopen
    have run : offered = (executed.foldl (RunContext.execute trial) earlier.reopen).offered :=
      congrArg RunContext.offered (pass_fresh evidence_execute entries earlier.reopen)
    rw [run, all, earlier.reopen_opened.offered, List.nil_append, count]
  · intro before entry after split takes
    exact run_offers earlier.reopen_opened split takes

def comparedLatency : Scenario := comparedSuite.scenarios.get ⟨1, by decide⟩

/-- A latency scenario behind the throughput scenario of its group is offered half of that. -/
theorem suite_paced_compared :
    (runEntries (fun _ => tenGbps) (enabledEntries [comparedSuite])
      RunContext.create.reopen).offered[1]? = some ("latency", some 5000) := by
  obtain ⟨rate, offered, paced⟩ :=
    (suite_paced (fun _ => tenGbps) [comparedSuite] 2 .create).2
      ((enabledEntries [comparedSuite]).take 1) (comparedSuite.defaults, comparedLatency) []
      (by decide +kernel) rfl
  have ten : groupCeilings (fun _ => tenGbps) ((enabledEntries [comparedSuite]).take 1) "g" =
      {10} := by
    ext gbps
    simp [groupCeilings, enabledEntries, comparedSuite, notedCeiling, tenGbps, Trial.recording,
      plainStats, eq_comm]
  have half : Paced (fun _ => tenGbps) ((enabledEntries [comparedSuite]).take 1)
      comparedLatency 5000 :=
    ⟨by norm_num, _, "g", 1 / 2, 10, rfl, rfl, rfl, ten ▸ isLeast_singleton, by norm_num⟩
  obtain rfl := (paced 5000).mpr half
  exact offered

end Runs

/-! A generated comparison: its throughput rows stand in front of its latency rows. -/

section Generated
open Seshat.Matrix

/-- What the config loader makes of the comparison of a row. -/
def readComparison (comparison : RowComparison) : Comparison where
  group := String.ofList comparison.group
  reference := String.ofList comparison.reference
  gatewayReference := some (String.ofList comparison.gatewayReference)
  calibrationGroup := comparison.calibrationGroup.map String.ofList
  calibrationFraction := comparison.calibrationFraction

/-- The scenarios of a config that has been loaded from these rows. -/
def LoadedFrom (rows : List Emitted) (scenarios : List Scenario) : Prop :=
  scenarios.map (fun s =>
      (s.name.toList, s.category, s.messageSizeBytes, s.connections, s.comparison)) =
    rows.map fun emitted =>
      (emitted.row.name, some emitted.row.category, some emitted.row.messageSizeBytes,
        emitted.row.connections, emitted.row.comparison.map readComparison)

/-- A throughput scenario of a path. -/
structure ThroughputOf (path : ComparisonPath) (size connections : UInt32) (s : Scenario) :
    Prop where
  name : s.name.toList = ifaceName path.id "throughput" size connections
  category : s.category = some "interface-comparison-throughput"
  size : s.messageSizeBytes = some size
  connections : s.connections = connections

/-- The throughputs that count for a size and a connection count, over all paths. -/
def pathCeilings (trial : String → Trial) (comparison : InterfaceComparison)
    (entries : List Entry) (size connections : UInt32) : Set ℚ :=
  {gbps | ∃ path ∈ comparison.paths, path.SupportsConnections connections ∧
    ∃ entry ∈ entries, ThroughputOf path size connections entry.2 ∧
      countedThroughput trial entry = some gbps}

/-- No throughput row stands behind one of another category. -/
def Ahead (first second : Option String) : Prop :=
  second = some "interface-comparison-throughput" → first = some "interface-comparison-throughput"

variable {spec : MatrixSpec} {rows : List Emitted} {config : Config}
  {direct gateway : ComparisonPath}

theorem rows_ahead (pushed : pushAll (comparisonPushes spec.interfaceComparison direct gateway) =
    .ok rows) : rows.Pairwise fun first second =>
      Ahead (some first.row.category) (some second.row.category) := by
  rw [(pushAll_ok pushed).2, comparisonPushes, List.mapIdx_append, List.pairwise_append]
  have front {push : Push} (member : push ∈ pathPushes spec.interfaceComparison
      spec.interfaceComparison.throughputMessageSizes
      spec.interfaceComparison.throughputConnections (throughputComparison direct gateway))
      (ordinal : Nat) :
      (push.emit ordinal).row.category = "interface-comparison-throughput" := by
    obtain ⟨size, -, connections, -, path, -, -, rfl⟩ := mem_pathPushes.mp member
    rfl
  have back {push : Push} (member : push ∈ pathPushes spec.interfaceComparison
      spec.interfaceComparison.latencyMessageSizes spec.interfaceComparison.latencyConnections
      (latencyComparison spec.interfaceComparison direct gateway)) (ordinal : Nat) :
      (push.emit ordinal).row.category = "interface-comparison-latency" := by
    obtain ⟨size, -, connections, -, path, -, -, rfl⟩ := mem_pathPushes.mp member
    rfl
  refine ⟨List.pairwise_of_forall_mem_list ?_, List.pairwise_of_forall_mem_list ?_, ?_⟩
  · intro first member second _ _
    obtain ⟨i, inside, rfl⟩ := List.mem_mapIdx.mp member
    exact congrArg some (front (List.getElem_mem inside) i)
  · intro first _ second member throughput
    obtain ⟨i, inside, rfl⟩ := List.mem_mapIdx.mp member
    rw [back (List.getElem_mem inside)] at throughput
    exact absurd throughput (by decide)
  · intro first member second _ _
    obtain ⟨i, inside, rfl⟩ := List.mem_mapIdx.mp member
    exact congrArg some (front (List.getElem_mem inside) i)

/-- What is left of a generated comparison is in the same order. -/
theorem executed_ahead {executed : List Entry}
    (pushed : pushAll (comparisonPushes spec.interfaceComparison direct gateway) = .ok rows)
    (loaded : LoadedFrom rows config.scenarios)
    (left : executed.Sublist (enabledEntries [config])) :
    executed.Pairwise fun first second => Ahead first.2.category second.2.category := by
  have scenarios : config.scenarios.Pairwise fun first second =>
      Ahead first.category second.category := by
    have columns := congrArg (List.map fun column => column.2.1) loaded
    simp only [List.map_map] at columns
    have ordered : (config.scenarios.map Scenario.category).Pairwise Ahead := by
      have same : config.scenarios.map Scenario.category =
          rows.map fun emitted => some emitted.row.category := columns
      rw [same, List.pairwise_map]
      exact rows_ahead pushed
    exact List.pairwise_map.mp ordered
  refine List.Pairwise.sublist left ?_
  rw [enabledEntries, List.flatMap_singleton, List.pairwise_map]
  exact scenarios.filter _

/-- A scenario comes from a push of the comparison. -/
theorem scenario_pushed {s : Scenario}
    (pushed : pushAll (comparisonPushes spec.interfaceComparison direct gateway) = .ok rows)
    (loaded : LoadedFrom rows config.scenarios) (member : s ∈ config.scenarios) :
    ∃ push ∈ comparisonPushes spec.interfaceComparison direct gateway, ∃ ordinal,
      s.name.toList = push.name ∧ s.category = some (push.row ordinal).category ∧
      s.messageSizeBytes = some (push.row ordinal).messageSizeBytes ∧
      s.connections = (push.row ordinal).connections ∧
      s.comparison = (push.row ordinal).comparison.map readComparison := by
  have column : (s.name.toList, s.category, s.messageSizeBytes, s.connections, s.comparison) ∈
      config.scenarios.map fun s =>
        (s.name.toList, s.category, s.messageSizeBytes, s.connections, s.comparison) :=
    List.mem_map_of_mem member
  rw [loaded, List.mem_map] at column
  obtain ⟨emitted, here, read⟩ := column
  obtain ⟨push, listed, ordinal, rfl⟩ := push_of_mem pushed here
  simp only [Prod.mk.injEq] at read
  obtain ⟨name, category, size, connections, comparison⟩ := read
  exact ⟨push, listed, ordinal, name.symm, category.symm, size.symm, connections.symm,
    comparison.symm⟩

/-- A latency row refers to the throughput group of its own size and connections. -/
theorem latency_row {s : Scenario}
    (pushed : pushAll (comparisonPushes spec.interfaceComparison direct gateway) = .ok rows)
    (loaded : LoadedFrom rows config.scenarios) (member : s ∈ config.scenarios)
    (latency : s.category = some "interface-comparison-latency") :
    ∃ size, s.messageSizeBytes = some size ∧ ∃ comparison, s.comparison = some comparison ∧
      comparison.calibrationGroup =
        some (String.ofList (ifaceGroup "throughput" size s.connections)) ∧
      comparison.calibrationFraction = some spec.interfaceComparison.latencyFraction := by
  obtain ⟨push, listed, ordinal, -, category, sized, counted, compared⟩ :=
    scenario_pushed pushed loaded member
  rw [comparisonPushes, List.mem_append, mem_pathPushes, mem_pathPushes] at listed
  rcases listed with ⟨size, -, connections, -, path, -, -, rfl⟩ |
    ⟨size, -, connections, -, path, -, -, rfl⟩
  · have other : some "interface-comparison-throughput" ≠ some "interface-comparison-latency" := by
      decide
    exact absurd (category.symm.trans latency) other
  · exact ⟨size, sized, _, compared, by rw [counted]; rfl, rfl⟩

/-- A throughput row is of a path, and notes its throughput for its own size and connections. -/
theorem throughput_row {s : Scenario}
    (pushed : pushAll (comparisonPushes spec.interfaceComparison direct gateway) = .ok rows)
    (loaded : LoadedFrom rows config.scenarios) (member : s ∈ config.scenarios)
    (throughput : s.category = some "interface-comparison-throughput") :
    ∃ path ∈ spec.interfaceComparison.paths, ∃ size, path.SupportsConnections s.connections ∧
      ThroughputOf path size s.connections s ∧ ∃ comparison, s.comparison = some comparison ∧
        comparison.group = String.ofList (ifaceGroup "throughput" size s.connections) := by
  obtain ⟨push, listed, ordinal, name, category, sized, counted, compared⟩ :=
    scenario_pushed pushed loaded member
  rw [comparisonPushes, List.mem_append, mem_pathPushes, mem_pathPushes] at listed
  rcases listed with ⟨size, -, connections, -, path, known, supports, rfl⟩ |
    ⟨size, -, connections, -, path, -, -, rfl⟩
  · obtain rfl : s.connections = connections := counted
    exact ⟨path, known, size, supports, ⟨name, throughput, sized, rfl⟩, _, compared, rfl⟩
  · have other : some "interface-comparison-latency" ≠ some "interface-comparison-throughput" := by
      decide
    exact absurd (category.symm.trans throughput) other

/-- What is noted for a group is the throughput of the paths with its size and connections. -/
theorem groupCeilings_eq {trial : String → Trial} {executed : List Entry}
    (pushed : pushAll (comparisonPushes spec.interfaceComparison direct gateway) = .ok rows)
    (loaded : LoadedFrom rows config.scenarios)
    (scenarios : ∀ entry ∈ executed, entry.2 ∈ config.scenarios) (size connections : UInt32) :
    groupCeilings trial executed (String.ofList (ifaceGroup "throughput" size connections)) =
      pathCeilings trial spec.interfaceComparison executed size connections := by
  ext gbps
  simp only [groupCeilings, pathCeilings, Set.mem_ofPred_eq, notedCeiling_eq_some]
  constructor
  · rintro ⟨entry, member, throughput, ⟨comparison, compared, group⟩, counted⟩
    obtain ⟨path, known, own, supports, row, other, same, noted⟩ :=
      throughput_row pushed loaded (scenarios entry member) throughput
    obtain rfl : comparison = other := Option.some.inj (compared.symm.trans same)
    obtain ⟨rfl, rfl⟩ := ifaceGroup_inj.mp (String.ofList_injective (group.symm.trans noted))
    exact ⟨path, known, supports, entry, member, row, counted⟩
  · rintro ⟨path, -, -, entry, member, row, counted⟩
    obtain ⟨other, -, own, -, own_row, comparison, compared, noted⟩ :=
      throughput_row pushed loaded (scenarios entry member) row.category
    obtain rfl : size = own := Option.some.inj (row.size.symm.trans own_row.size)
    rw [row.connections] at noted
    exact ⟨entry, member, row.category, ⟨comparison, compared, noted⟩, counted⟩

/-- In a run of a generated comparison, from the start or resumed, every latency row is offered
the configured fraction of the slowest throughput of its own size and connections over all the
paths the process measures, as no throughput row comes behind a latency row. -/
theorem generated_paced {trial : String → Trial} {earlier : RunContext}
    {before after : List Entry} {entry : Entry}
    (expanded : expandInterfaceComparison spec = .ok rows)
    (loaded : LoadedFrom rows config.scenarios)
    (executed : fresh entryPlace (evidence earlier.reopen) (enabledEntries [config]) =
      before ++ entry :: after)
    (latency : entry.2.category = some "interface-comparison-latency")
    (takes : (trial entry.2.name).takesRate = true) :
    ∃ size rate, entry.2.messageSizeBytes = some size ∧
      (runEntries trial (enabledEntries [config]) earlier.reopen).offered[
        rated trial before]? = some (entry.2.name, rate) ∧
      ∀ mbps, rate = some mbps ↔ 0 < mbps ∧ ∃ gbps,
        IsLeast (pathCeilings trial spec.interfaceComparison (before ++ entry :: after) size
          entry.2.connections) gbps ∧
        gbps * 1000 * spec.interfaceComparison.latencyFraction = mbps := by
  obtain ⟨direct, gateway, -, -, pushed⟩ := expandInterfaceComparison_ok expanded
  have left : (before ++ entry :: after).Sublist (enabledEntries [config]) :=
    executed ▸ fresh_sublist _ _ _
  have scenarios : ∀ other ∈ before ++ entry :: after, other.2 ∈ config.scenarios := by
    intro other among
    have inside := left.subset among
    simp only [enabledEntries, List.flatMap_singleton, List.mem_map, List.mem_filter] at inside
    obtain ⟨s, ⟨here, -⟩, rfl⟩ := inside
    exact here
  obtain ⟨size, sized, comparison, compared, group, fraction⟩ :=
    latency_row pushed loaded (scenarios entry (List.mem_append_right before List.mem_cons_self))
      latency
  have behind (other : Entry) (later : other ∈ entry :: after) :
      notedCeiling trial other = none := by
    have ordered := (List.pairwise_append.mp (executed_ahead pushed loaded left)).2.1
    have apart : other.2.category ≠ some "interface-comparison-throughput" := by
      rcases List.mem_cons.mp later with rfl | later
      · rw [latency]
        decide
      · intro throughput
        have same := (List.pairwise_cons.mp ordered).1 other later throughput
        rw [latency] at same
        exact absurd same (by decide)
    exact notedCeiling_none trial apart
  have all (name : String) : groupCeilings trial (before ++ entry :: after) name =
      groupCeilings trial before name := by
    ext gbps
    simp only [groupCeilings, Set.mem_ofPred_eq, List.mem_append, or_and_right, exists_or]
    refine or_iff_left ?_
    rintro ⟨other, later, noted⟩
    rw [behind other later] at noted
    cases noted
  obtain ⟨rate, offered, paced⟩ := run_offers earlier.reopen_opened executed takes
  refine ⟨size, rate, sized, offered, fun mbps => (paced mbps).trans ?_⟩
  rw [← groupCeilings_eq pushed loaded scenarios, all]
  constructor
  · rintro ⟨positive, own, name, part, gbps, same, grouped, parted, least, rfl⟩
    obtain rfl : comparison = own := Option.some.inj (compared.symm.trans same)
    obtain rfl := Option.some.inj (group.symm.trans grouped)
    obtain rfl := Option.some.inj (fraction.symm.trans parted)
    exact ⟨positive, gbps, least, rfl⟩
  · rintro ⟨positive, gbps, least, rfl⟩
    exact ⟨positive, comparison, _, _, gbps, compared, group, fraction, least, rfl⟩

/-! Two paths of one size and one connection. -/

def tcpSpec : MatrixSpec where
  dimensions := oneSize
  profiles := [plainProfile]
  interfaceComparison := tcpComparison

def tcpRows : List Emitted :=
  (comparisonPushes tcpComparison loopbackPath scgPath).mapIdx fun ordinal push => push.emit ordinal

def tcpConfig : Config where
  suite := { name := "interface comparison", version := "1.0" }
  scenarios := tcpRows.map fun emitted =>
    { name := String.ofList emitted.row.name
      category := some emitted.row.category
      messageSizeBytes := some emitted.row.messageSizeBytes
      connections := emitted.row.connections
      comparison := emitted.row.comparison.map readComparison }

theorem tcpRows_expanded : expandInterfaceComparison tcpSpec = .ok tcpRows := by
  have direct : tcpSpec.interfaceComparison.tcpPath false = some loopbackPath := by rfl
  have gateway : tcpSpec.interfaceComparison.tcpPath true = some scgPath := by rfl
  rw [expandInterfaceComparison, direct, gateway]
  exact pushAll_of_nodup (by decide +kernel)

theorem tcpConfig_loaded : LoadedFrom tcpRows tcpConfig.scenarios := by
  simp [LoadedFrom, tcpConfig, Function.comp_def]

def tcpSlower : Entry := (enabledEntries [tcpConfig]).get ⟨1, by decide +kernel⟩

def tcpLatency : Entry := (enabledEntries [tcpConfig]).get ⟨2, by decide +kernel⟩

/-- The path through the gateway takes less. -/
def slowerGateway (name : String) : Trial :=
  .measured plainParams
    { plainStats with throughputGbps :=
        { Metrics.Summary.empty with
          mean := if name = "iface_tcp_scg_throughput_1KB_1c" then 4 else 10 } } {}

theorem slowerGateway_counts {entry : Entry} {gbps : ℚ}
    (counted : countedThroughput slowerGateway entry = some gbps) : 4 ≤ gbps := by
  simp only [countedThroughput, slowerGateway, Trial.recording, Option.bind_eq_bind,
    Option.bind_some, Option.ite_none_right_eq_some, Option.some.injEq] at counted
  rw [← counted.2]
  split <;> norm_num

/-- Half of what the path through the gateway takes. -/
theorem generated_paced_tcp :
    (runEntries slowerGateway (enabledEntries [tcpConfig]) RunContext.create.reopen).offered[2]? =
      some (tcpLatency.2.name, some 2000) := by
  obtain ⟨size, rate, sized, offered, paced⟩ :=
    @generated_paced tcpSpec tcpRows tcpConfig slowerGateway .create
      ((enabledEntries [tcpConfig]).take 2) ((enabledEntries [tcpConfig]).drop 3) tcpLatency
      tcpRows_expanded tcpConfig_loaded (by decide +kernel) (by decide +kernel) rfl
  have own : tcpLatency.2.messageSizeBytes = some 1024 := by decide +kernel
  obtain rfl : 1024 = size := Option.some.inj (own.symm.trans sized)
  have least : IsLeast (pathCeilings slowerGateway tcpComparison
      ((enabledEntries [tcpConfig]).take 2 ++ tcpLatency :: (enabledEntries [tcpConfig]).drop 3)
      1024 tcpLatency.2.connections) 4 := by
    constructor
    · have row : ThroughputOf scgPath 1024 tcpLatency.2.connections tcpSlower.2 :=
        { name := by decide +kernel
          category := by decide +kernel
          size := by decide +kernel
          connections := by decide +kernel }
      refine ⟨scgPath, by simp [tcpComparison], .inl rfl, tcpSlower, ?_, row, ?_⟩
      · exact List.mem_append_left _ (List.mem_of_getElem? (i := 1) (by decide +kernel))
      · decide +kernel
    · rintro gbps ⟨-, -, -, entry, -, -, counted⟩
      exact slowerGateway_counts counted
  obtain rfl := (paced 2000).mpr ⟨by norm_num, 4, least, by norm_num [tcpSpec, tcpComparison]⟩
  exact offered

end Generated

end Seshat.Commands
