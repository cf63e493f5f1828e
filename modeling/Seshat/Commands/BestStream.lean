import Seshat.Commands.MultiStream
import Seshat.Lib.Extremes
import Seshat.Metrics.Percentiles
import Seshat.Report.Overview
import Mathlib.Tactic.Common

/-! The summary row of a multi-stream scenario: its metrics are those of the fastest stream,
its parameters those of the first one. -/

namespace Seshat.Commands
open Config Workload Metrics Report Proto.Wire Lib.Decimals Lib.Extremes

/-! What is recorded. -/

/-- The size a stream runs at. -/
def streamSize (stream : Stream) : UInt32 :=
  max stream.messageSizeBytes (UInt32.ofNat headerLen)

/-- `max_by` over the throughputs. -/
def bestStream (result : MultiStreamResult) : Option StreamResult :=
  lastMax (fun stream => stream.summary.throughputGbps) result.streams

section Recording

variable (sqrt : ℚ → ℚ)

def bestStreamStats (best : StreamResult) : RunStats where
  runs := [best.summary]
  throughputGbps := summarize sqrt [best.summary.throughputGbps]
  latencyMeanUs := summarize sqrt [best.summary.latencyUs.mean]
  latencyP99Us := summarize sqrt [best.summary.latencyUs.p99]
  handshakeUs := summarize sqrt [0]
  totalLost := best.summary.integrity.lost
  lossPct := best.summary.lossPct
  coCorrected := best.paced
  sendLagMeanUs := best.sendLagMeanUs
  sendLagMaxUs := best.sendLagMaxUs

def streamRecordParams (s : Scenario) (d : Defaults) (firstStream : Stream) : RunParams where
  messageBytes := streamSize firstStream
  connections := s.streams.length
  runs := 1
  warmup := s.warmupSecs.getD d.warmupSecs
  measure := max (s.durationSecs.getD d.durationSecs) 1
  cooldown := s.cooldownSecs.getD d.cooldownSecs
  removeOutliers := d.outlierRemoval = .iqr
  sender := declaredSender firstStream
  mode := .throughput

/-- The parameters and the metrics of the row, or why there is none. -/
def recordMultiStream (s : Scenario) (d : Defaults) (firstStream : Stream)
    (result : MultiStreamResult) : Except String (RunParams × RunStats) :=
  match bestStream result with
  | none => .error "no multi-stream results were produced"
  | some best =>
      if best.summary.messages = 0 then
        .error "no multi-stream messages reached a receiver (zero-metric result)"
      else .ok (streamRecordParams s d firstStream, bestStreamStats sqrt best)

end Recording

/-! What the row says. -/

def cell (row : List Text) (header : String) : Option Text :=
  cellUnder (texts summaryHeaders) row header

/-- The figures of the row are those of a stream. -/
structure Reports (row : List Text) (result : StreamResult) : Prop where
  throughput : cell row "throughput_gbps_mean" = some (num result.summary.throughputGbps 4)
  latency : cell row "latency_mean_us" = some (num result.summary.latencyUs.mean 3)
  p99 : cell row "latency_p99_us_mean" = some (num result.summary.latencyUs.p99 3)
  loss : cell row "loss_pct" = some (num result.summary.lossPct 4)
  lost : cell row "total_lost" = some (count result.summary.integrity.lost)
  coCorrected : cell row "co_corrected" = some (boolText result.paced)

/-- No stream in front is faster, and all streams behind are slower. -/
def Fastest (entries : List (StreamConfig × StreamResult)) (entry : StreamConfig × StreamResult) :
    Prop :=
  ∃ before after, entries = before ++ entry :: after ∧
    (∀ other ∈ before, other.2.summary.throughputGbps ≤ entry.2.summary.throughputGbps) ∧
    ∀ other ∈ after, other.2.summary.throughputGbps < entry.2.summary.throughputGbps

/-- The figures and the message size of the row are of one stream, the fastest. -/
def DescribesOneStream (entries : List (StreamConfig × StreamResult)) (row : List Text) : Prop :=
  ∃ entry, Fastest entries entry ∧ Reports row entry.2 ∧
    cell row "message_bytes" = some (natText entry.1.messageBytes.toNat)

/-- Whatever row the results of the streams lead to is of one stream. -/
def RowsDescribe (sqrt : ℚ → ℚ) (s : Scenario) (d : Defaults) (firstStream : Stream)
    (configs : List StreamConfig) (results : List StreamResult) : Prop :=
  ∀ params stats art,
    recordMultiStream sqrt s d firstStream (.fromStreams results) = .ok (params, stats) →
      DescribesOneStream (configs.zip results) (summaryRow s params stats art)

theorem natText_injective : Function.Injective natText := by
  intro m n same
  have value := congrArg (Nat.ofDigitChars 10 · 0) same
  rwa [natText, natText, Nat.ofDigitChars_ten_toDigits, Nat.ofDigitChars_ten_toDigits] at value

theorem fastest_iff {entries : List (StreamConfig × StreamResult)}
    {entry : StreamConfig × StreamResult} :
    Fastest entries entry ↔
      lastMax (fun entry => entry.2.summary.throughputGbps) entries = some entry :=
  lastMax_eq_some.symm

theorem Fastest.unique {entries : List (StreamConfig × StreamResult)}
    {entry other : StreamConfig × StreamResult} (fastest : Fastest entries entry)
    (too : Fastest entries other) : entry = other :=
  Option.some_inj.mp ((fastest_iff.mp fastest).symm.trans (fastest_iff.mp too))

section Rows

variable {sqrt : ℚ → ℚ} {s : Scenario} {d : Defaults} {firstStream : Stream}
  {configs : List StreamConfig} {results : List StreamResult}

/-- What is recorded is of the fastest stream, if it got a message through. -/
theorem recordMultiStream_ok (same : results.length = configs.length) (params : RunParams)
    (stats : RunStats) :
    recordMultiStream sqrt s d firstStream (.fromStreams results) = .ok (params, stats) ↔
      params = streamRecordParams s d firstStream ∧
        ∃ entry, Fastest (configs.zip results) entry ∧ entry.2.summary.messages ≠ 0 ∧
          stats = bestStreamStats sqrt entry.2 := by
  have streams : (configs.zip results).map Prod.snd = results :=
    List.map_snd_zip (Nat.le_of_eq same)
  have best : bestStream (.fromStreams results) =
      (lastMax (fun entry : StreamConfig × StreamResult => entry.2.summary.throughputGbps)
        (configs.zip results)).map Prod.snd :=
    (congrArg (lastMax fun stream : StreamResult => stream.summary.throughputGbps)
      streams).symm.trans (lastMax_map Prod.snd _)
  rw [recordMultiStream, best]
  cases chosen : lastMax (fun entry : StreamConfig × StreamResult =>
      entry.2.summary.throughputGbps) (configs.zip results) with
  | none =>
    refine iff_of_false (fun ok => by cases ok) ?_
    rintro ⟨-, entry, fastest, -⟩
    cases (fastest_iff.mp fastest).symm.trans chosen
  | some entry =>
    have fastest := fastest_iff.mpr chosen
    rw [Option.map_some]
    dsimp only
    split
    · next none =>
      refine iff_of_false (fun ok => by cases ok) ?_
      rintro ⟨-, other, too, some, -⟩
      exact some (too.unique fastest ▸ none)
    · next some =>
      rw [Except.ok.injEq, Prod.mk.injEq, eq_comm, @eq_comm _ (bestStreamStats sqrt entry.2)]
      refine and_congr_right fun _ => ⟨fun same => ⟨entry, fastest, some, same⟩, ?_⟩
      rintro ⟨other, too, -, same⟩
      rwa [too.unique fastest] at same

theorem summary_single (sqrt : ℚ → ℚ) (x : ℚ) : (summarize sqrt [x]).mean = x := by
  change mean [x] = x
  exact mean_const (List.cons_ne_nil x []) (List.forall_mem_singleton.mpr rfl)

theorem cell_messageBytes (params : RunParams) (stats : RunStats) (art : ScenarioArtifacts) :
    cell (summaryRow s params stats art) "message_bytes" =
      some (natText params.messageBytes.toNat) := by
  rw [cell, @cellUnder_header "message_bytes" 3 (by decide +kernel)]
  rfl

theorem reports_best (params : RunParams) (best : StreamResult) (art : ScenarioArtifacts) :
    Reports (summaryRow s params (bestStreamStats sqrt best) art) best where
  throughput := by
    rw [cell, @cellUnder_header "throughput_gbps_mean" 6 (by decide +kernel),
      ← summary_single sqrt best.summary.throughputGbps]
    rfl
  latency := by
    rw [cell, @cellUnder_header "latency_mean_us" 10 (by decide +kernel),
      ← summary_single sqrt best.summary.latencyUs.mean]
    rfl
  p99 := by
    rw [cell, @cellUnder_header "latency_p99_us_mean" 12 (by decide +kernel),
      ← summary_single sqrt best.summary.latencyUs.p99]
    rfl
  loss := by
    rw [cell, @cellUnder_header "loss_pct" 16 (by decide +kernel)]
    rfl
  lost := by
    rw [cell, @cellUnder_header "total_lost" 17 (by decide +kernel)]
    rfl
  coCorrected := by
    rw [cell, @cellUnder_header "co_corrected" 53 (by decide +kernel), summaryRow, summaryCells]
    simp only [calibrationCells_columns, sweepCells_columns, cpuCells_columns, rttCells_columns,
      connCells_columns, perfCells_columns, perfEntries, List.map_cons, List.map_nil,
      List.cons_append, List.nil_append]
    rfl

/-- For given results the row is of one stream exactly if the fastest stream has the size of
the first. -/
theorem rowsDescribe_iff (same : results.length = configs.length) :
    RowsDescribe sqrt s d firstStream configs results ↔
      ∀ entry, Fastest (configs.zip results) entry → entry.2.summary.messages ≠ 0 →
        entry.1.messageBytes = streamSize firstStream := by
  constructor
  · intro describes entry fastest some
    have recorded : recordMultiStream sqrt s d firstStream (.fromStreams results) =
        .ok (streamRecordParams s d firstStream, bestStreamStats sqrt entry.2) :=
      (recordMultiStream_ok same _ _).mpr ⟨rfl, entry, fastest, some, rfl⟩
    obtain ⟨other, too, -, size⟩ := describes _ _ {} recorded
    rw [too.unique fastest, cell_messageBytes, Option.some_inj] at size
    exact (UInt32.toNat_inj.mp (natText_injective size)).symm
  · rintro agree params stats art recorded
    obtain ⟨rfl, entry, fastest, some, rfl⟩ := (recordMultiStream_ok same params stats).mp recorded
    refine ⟨entry, fastest, reports_best _ _ art, ?_⟩
    rw [cell_messageBytes, agree entry fastest some]
    rfl

def resultOf (messages : UInt64) (throughputGbps : ℚ) : StreamResult where
  name := "Bulk-0"
  trafficClass := "normal"
  dscpLabel := "BE"
  summary :=
    { messages
      bytes := messages
      durationS := 1
      throughputGbps
      messageRate := messages.toNat
      latencyUs := .empty
      jitterUs := 0
      integrity := { received := messages, distinct := messages }
      integrityFailures := 0
      boundaryViolations := 0
      lossPct := 0
      outliersRemoved := 0 }
  paced := false
  sendLagMeanUs := 0
  sendLagMaxUs := 0
  dscpPreserved := none

/-- Every stream is the fastest in some run. -/
theorem fastest_split (before after : List StreamConfig) (cfg : StreamConfig) :
    Fastest ((before ++ cfg :: after).zip ((before.map fun _ => resultOf 0 0) ++
      resultOf 1 1 :: after.map fun _ => resultOf 0 0)) (cfg, resultOf 1 1) := by
  have idle (list : List StreamConfig) :
      ∀ other ∈ list.zip (list.map fun _ => resultOf 0 0), other.2 = resultOf 0 0 := by
    intro other member
    obtain ⟨_, -, same⟩ := List.mem_map.mp (List.of_mem_zip member).2
    exact same.symm
  refine ⟨_, _, List.zip_append (List.length_map _).symm, fun other member => ?_,
    fun other member => ?_⟩
  · rw [idle before other member]
    exact zero_le_one
  · rw [idle after other member]
    exact one_pos

theorem rowsDescribe_always :
    (∀ results, results.length = configs.length →
      RowsDescribe sqrt s d firstStream configs results) ↔
      ∀ cfg ∈ configs, cfg.messageBytes = streamSize firstStream := by
  constructor
  · intro always cfg member
    obtain ⟨before, after, rfl⟩ := List.append_of_mem member
    have same : ((before.map fun _ => resultOf 0 0) ++
        resultOf 1 1 :: after.map fun _ => resultOf 0 0).length =
          (before ++ cfg :: after).length := by simp
    exact (rowsDescribe_iff same).mp (always _ same) _ (fastest_split before after cfg)
      (show (1 : UInt64) ≠ 0 by decide)
  · intro agree results same
    refine (rowsDescribe_iff same).mpr fun entry fastest _ => ?_
    obtain ⟨before, after, split, -⟩ := fastest
    have member : entry ∈ configs.zip results := by simp [split]
    exact agree entry.1 (List.of_mem_zip member).1

end Rows

/-- The row of a multi-stream scenario is of one stream exactly if the fastest stream, the last
of several, runs at the size of the first one; whatever the results, exactly if all streams run
at one size. -/
theorem rowsDescribe_streams_iff (sqrt : ℚ → ℚ) (dscp : String → DscpMark) {config : Config}
    {s : Scenario} (accepted : (validate config).ok = true) (member : s ∈ config.scenarios)
    (enabled : s.enabled = true) {firstStream : Stream} {rest : List Stream}
    (streams : s.streams = firstStream :: rest) :
    ∃ built, streamConfigs dscp s = .ok built ∧
      (∀ results, results.length = s.streams.length →
        (RowsDescribe sqrt s config.defaults firstStream (built.map Prod.snd) results ↔
          ∀ entry, Fastest ((built.map Prod.snd).zip results) entry →
            entry.2.summary.messages ≠ 0 → entry.1.messageBytes = streamSize firstStream)) ∧
      ((∀ results, results.length = s.streams.length →
        RowsDescribe sqrt s config.defaults firstStream (built.map Prod.snd) results) ↔
          ∀ stream ∈ rest, streamSize stream = streamSize firstStream) := by
  obtain ⟨built, found⟩ :=
    streamConfigsFrom_accepted dscp (validate_accepted accepted member enabled).streams 0
  obtain ⟨inOrder, each⟩ := streamConfigsFrom_spec found
  have length : s.streams.length = (built.map Prod.snd).length := by
    rw [← inOrder, List.length_map, List.length_map]
  have sizes : (built.map Prod.snd).map StreamConfig.messageBytes = s.streams.map streamSize := by
    rw [← inOrder, List.map_map, List.map_map]
    refine List.map_congr_left fun entry inBuilt => ?_
    obtain ⟨trafficClass, i, same⟩ := each entry inBuilt
    rw [Function.comp_apply, same]
    rfl
  refine ⟨built, found, fun results same => rowsDescribe_iff (same.trans length), ?_⟩
  rw [length, rowsDescribe_always]
  have all : (∀ cfg ∈ built.map Prod.snd, cfg.messageBytes = streamSize firstStream) ↔
      ∀ size ∈ (built.map Prod.snd).map StreamConfig.messageBytes,
        size = streamSize firstStream :=
    ⟨fun each => List.forall_mem_map.mpr each, fun each => List.forall_mem_map.mp each⟩
  rw [all, sizes, List.forall_mem_map, streams, List.forall_mem_cons]
  exact and_iff_right rfl

def safetyStream : Stream := { oneStream .periodic (some 200) with messageSizeBytes := 256 }

def bulkStream : Stream where
  role := .bulk
  interface := .tcp
  targetAddr := "127.0.0.1:11001"
  messageSizeBytes := 65536
  priority := { dscpTag := "BE", trafficClass := "normal" }

def mixedScenario : Scenario where
  name := "qos_contended_routing"
  gateway := { enabled := true }
  streams := [safetyStream, bulkStream]

def mixedSuite : Config where
  suite := { name := "SCG QoS Isolation", version := "1.0.0" }
  scenarios := [mixedScenario]

def mixedConfigs : List (Stream × StreamConfig) :=
  [(safetyStream, streamConfig unmarked "safety" 0 safetyStream),
    (bulkStream, streamConfig unmarked "normal" 1 bulkStream)]

def mixedResults : List StreamResult := [resultOf 5000 (1 / 100), resultOf 9000 5]

/-- A bulk stream of the safety stream's size. -/
def evenScenario : Scenario :=
  { mixedScenario with streams := [safetyStream, { bulkStream with messageSizeBytes := 256 }] }

theorem rowsDescribe_streams_iff_even :
    ∃ built, streamConfigs unmarked evenScenario = .ok built ∧
      ∀ results, results.length = 2 →
        RowsDescribe id evenScenario {} safetyStream (built.map Prod.snd) results := by
  obtain ⟨built, found, -, always⟩ :=
    @rowsDescribe_streams_iff id unmarked { mixedSuite with scenarios := [evenScenario] }
      evenScenario (by decide +kernel) List.mem_cons_self rfl safetyStream _ rfl
  exact ⟨built, found, always.mpr (List.forall_mem_singleton.mpr rfl)⟩

/-- The row gives the throughput of the bulk stream and the message size of the safety
stream. -/
theorem mixedScenario_mixes :
    (validate mixedSuite).ok = true ∧ streamConfigs unmarked mixedScenario = .ok mixedConfigs ∧
      (∃ params stats, recordMultiStream id mixedScenario {} safetyStream
          (.fromStreams mixedResults) = .ok (params, stats) ∧
        cell (summaryRow mixedScenario params stats {}) "throughput_gbps_mean" =
          some "5.0000".toList ∧
        cell (summaryRow mixedScenario params stats {}) "message_bytes" = some "256".toList) ∧
      ¬RowsDescribe id mixedScenario {} safetyStream (mixedConfigs.map Prod.snd) mixedResults := by
  have fastest : Fastest ((mixedConfigs.map Prod.snd).zip mixedResults)
      (streamConfig unmarked "normal" 1 bulkStream, resultOf 9000 5) := by
    refine ⟨[(streamConfig unmarked "safety" 0 safetyStream, resultOf 5000 (1 / 100))], [], rfl,
      List.forall_mem_singleton.mpr ?_, List.forall_mem_nil _⟩
    change (1 / 100 : ℚ) ≤ 5
    norm_num
  have delivered : (resultOf 9000 5).summary.messages ≠ 0 := by decide
  have recorded : recordMultiStream id mixedScenario {} safetyStream (.fromStreams mixedResults) =
      .ok (streamRecordParams mixedScenario {} safetyStream,
        bestStreamStats id (resultOf 9000 5)) :=
    (@recordMultiStream_ok id mixedScenario {} safetyStream (mixedConfigs.map Prod.snd) mixedResults
      rfl _ _).mpr ⟨rfl, _, fastest, delivered, rfl⟩
  refine ⟨by decide +kernel, rfl, ⟨_, _, recorded, ?_, ?_⟩, fun describes => ?_⟩
  · rw [(reports_best _ (resultOf 9000 5) {}).throughput]
    decide +kernel
  · rw [cell_messageBytes]
    decide +kernel
  · have sizes := (rowsDescribe_iff (by rfl)).mp describes _ fastest delivered
    exact absurd sizes (by decide)

end Seshat.Commands
