import Seshat.Lib.Counting
import Seshat.Lib.Extremes
import Seshat.Report.RoundTrip
import Seshat.Report.SummaryRow
import Seshat.System.PerfStat
import Mathlib.Algebra.Order.BigOperators.Group.List
import Mathlib.Tactic.Common

/-! The overview of a result tree: which rows of `summary.csv` its throughput table, its
leaderboard and its summary statistics show, and which scenarios those rows are of. -/

namespace Seshat.Report
open Config Commands Lib.Counting Lib.Decimals Lib.Extremes
open Lib.Binary64 (roundHalfEven roundHalfEven_natCast)
open Seshat.System (parseF64)

/-! The sections on throughput. -/

def SummaryRow.shownProtocol (row : SummaryRow ℚ) : Text :=
  if row.effectiveProtocol.isEmpty then row.protocol else row.effectiveProtocol

def isSpecial (name : Text) : Bool :=
  ["lat_", "pp_", "conn_"].any fun start => start.toList.isPrefixOf name

/-- The rows above a cut, but for those whose name tells that they do not rank. -/
def above (cut : ℚ) (rows : List (SummaryRow ℚ)) : List (SummaryRow ℚ) :=
  rows.filter fun row => cut < row.throughputMean ∧ ¬isSpecial row.scenario

/-- `sort_by` with the operands exchanged. -/
def byThroughput (rows : List (SummaryRow ℚ)) : List (SummaryRow ℚ) :=
  rows.mergeSort fun a b => b.throughputMean ≤ a.throughputMean

def throughputTable (rows : List (SummaryRow ℚ)) : List (SummaryRow ℚ) :=
  byThroughput (above (1 / 10) rows)

def throughputHeaders : List String :=
  ["Scenario", "Transport", "Protocol", "Bytes", "Conns", "Throughput Gbit/s", "p99 µs", "Loss %",
    "Headroom"]

def throughputCells (row : SummaryRow ℚ) : List Text :=
  [row.scenario, row.transport, row.shownProtocol, row.messageBytes, row.connections,
    num row.throughputMean 3 ++ " ± ".toList ++ num row.throughputCi95 3 ++
      (if row.bottleneck = "host-saturated".toList then " †".toList
      else if row.harnessLimited then " *".toList else []),
    num row.latencyP99Us 1, num row.lossPct 3,
    if row.headroom > 0 then num row.headroom 1 ++ "×".toList else "-".toList]

def leaderboard (rows : List (SummaryRow ℚ)) : List (SummaryRow ℚ) := byThroughput (above 0 rows)

def leaderboardHeaders : List String := ["Rank", "Scenario", "Protocol", "Throughput Gbit/s"]

def leaderboardCells (rows : List (SummaryRow ℚ)) : List (List Text) :=
  (leaderboard rows).zipIdx.map fun (row, i) =>
    [natText (i + 1), row.scenario, row.shownProtocol, num row.throughputMean 3]

/-- `table` cuts a row to the columns that have a header: nothing is lost. -/
theorem cells_headed (rows : List (SummaryRow ℚ)) :
    (∀ row, (throughputCells row).length = throughputHeaders.length) ∧
      ∀ cells ∈ leaderboardCells rows, cells.length = leaderboardHeaders.length := by
  refine ⟨fun row => rfl, fun cells member => ?_⟩
  obtain ⟨entry, -, rfl⟩ := List.mem_map.mp member
  rfl

/-- The ranks count the rows of the board. -/
theorem leaderboardCells_ranked (rows : List (SummaryRow ℚ)) (i : Nat) :
    (leaderboardCells rows)[i]? = (leaderboard rows)[i]?.map fun row =>
      [natText (i + 1), row.scenario, row.shownProtocol, num row.throughputMean 3] := by
  rw [leaderboardCells, List.getElem?_map, List.getElem?_zipIdx, Option.map_map, Nat.zero_add]
  rfl

structure SummaryStats where
  best : Option (SummaryRow ℚ)
  worst : Option (SummaryRow ℚ)
  mean : ℚ

/-- The best, the worst and the mean of some rows. -/
def statistics (thr : List (SummaryRow ℚ)) : SummaryStats where
  best := lastMax SummaryRow.throughputMean thr
  worst := firstMin SummaryRow.throughputMean thr
  mean := (thr.map SummaryRow.throughputMean).sum / thr.length

def summaryStats (rows : List (SummaryRow ℚ)) : Option SummaryStats :=
  let thr := above 0 rows
  if thr.isEmpty then none else some (statistics thr)

def SummaryStats.lines (stats : SummaryStats) : List (Text × Text) :=
  let shown (row : SummaryRow ℚ) :=
    row.scenario ++ " (".toList ++ num row.throughputMean 3 ++ " Gbit/s)".toList
  kvSome "Best throughput" (stats.best.map shown) ++
    kvSome "Worst throughput" (stats.worst.map shown) ++
    [kv "Mean throughput" (num stats.mean 3 ++ " Gbit/s".toList)]

/-! The rows of a result tree. -/

/-- A scenario that was executed, and what was recorded of it. -/
structure Recorded where
  scenario : Scenario
  params : RunParams
  stats : RunStats
  art : ScenarioArtifacts

def Recorded.record (r : Recorded) : List Text := summaryRow r.scenario r.params r.stats r.art

/-- The row as the overview has it. -/
def Recorded.row (r : Recorded) : SummaryRow ℚ :=
  SummaryRow.ofRecord parseF64 (texts summaryHeaders) r.record

def summaryCsv (tree : List Recorded) : Csv where
  headers := texts summaryHeaders
  rows := tree.map Recorded.record

/-- What `parse_summary` reads of the written file. -/
def overviewRows (tree : List Recorded) : List (SummaryRow ℚ) :=
  parseSummary parseF64 (summaryCsv tree).render

/-- The rows that the overview reads where the row of a scenario is written. -/
def Recorded.readRows (r : Recorded) : List (SummaryRow ℚ) :=
  (summaryRecords (writeRow r.record)).map (SummaryRow.ofRecord parseF64 (texts summaryHeaders))

/-- Where the columns of `summary.csv` stand. -/
theorem cellUnder_header {name : String} {column : Nat}
    (place : (summaryHeaders.zipIdx.reverse.find? fun entry => entry.1 = name) =
      some (name, column)) (record : List Text) :
    cellUnder (texts summaryHeaders) record name = record[column]? := by
  have same : (fun entry : Text × Nat => decide (entry.1 = name.toList)) ∘
      Prod.map String.toList id = fun entry => decide (entry.1 = name) :=
    funext fun entry => decide_eq_decide.mpr String.toList_inj
  rw [cellUnder, texts, List.zipIdx_map, ← List.map_reverse, List.find?_map, same, place]
  rfl

theorem Recorded.row_scenario (r : Recorded) : r.row.scenario = r.scenario.name.toList := by
  have column := @cellUnder_header "scenario" 0 (by decide +kernel) r.record
  rw [Recorded.row, SummaryRow.ofRecord]
  simp only [column]
  rfl

theorem Recorded.row_throughput (r : Recorded) :
    r.row.throughputMean = (parseF64 (num r.stats.throughputGbps.mean 4)).getD 0 := by
  have column := @cellUnder_header "throughput_gbps_mean" 6 (by decide +kernel) r.record
  rw [Recorded.row, SummaryRow.ofRecord]
  simp only [column]
  rfl

/-- A number that is not negative is read back as it was rounded. -/
theorem parseF64_num {v : ℚ} (positive : 0 ≤ v) {decimals : Nat} (some_decimals : 0 < decimals) :
    parseF64 (num v decimals) =
      some ((roundHalfEven (v * 10 ^ decimals) : ℚ) / 10 ^ decimals) := by
  have fraction := Nat.mod_lt (roundHalfEven (v * 10 ^ decimals))
    (Nat.pow_pos (n := decimals) (by decide : 0 < 10))
  have text : num v decimals =
      Nat.toDigits 10 (roundHalfEven (v * 10 ^ decimals) / 10 ^ decimals) ++
        '.' :: padded decimals (roundHalfEven (v * 10 ^ decimals) % 10 ^ decimals) := by
    rw [num, abs_of_nonneg positive, if_neg (not_lt.mpr positive),
      if_neg (Nat.ne_of_gt some_decimals)]
    rfl
  rw [text, System.parseF64_point (digits_toDigits _) (digits_padded _ _),
    padded_length some_decimals fraction, Nat.div_add_mod]

/-- The overview ranks the recorded mean, rounded to four decimals. -/
theorem Recorded.row_throughput_rounded {r : Recorded}
    (positive : 0 ≤ r.stats.throughputGbps.mean) :
    r.row.throughputMean = roundHalfEven (r.stats.throughputGbps.mean * 10 ^ 4) / 10 ^ 4 := by
  rw [r.row_throughput, parseF64_num positive (by decide), Option.getD_some]

theorem map_oneLine {α : Type} {cell : Option α} {text : α → Text}
    (oneLine : ∀ a, OneLine (text a)) : OneLine ((cell.map text).getD []) := by
  cases cell with
  | none => simp [OneLine]
  | some a => exact oneLine a

theorem bind_oneLine {α β : Type} {cell : Option α} {part : α → Option β} {text : β → Text}
    (oneLine : ∀ b, OneLine (text b)) :
    OneLine ((cell.bind fun a => (part a).map text).getD []) := by
  cases cell with
  | none => simp [OneLine]
  | some a => exact map_oneLine oneLine

/-- The texts of a row that come from the document of its scenario or from gateway logs. -/
def Recorded.ownTexts (r : Recorded) : List Text :=
  [r.scenario.name.toList, protocolLabel r.scenario, effectiveProtocol r.scenario r.art]

/-- A row that no text cuts in two. -/
def Recorded.Whole (r : Recorded) : Prop := ∀ text ∈ r.ownTexts, OneLine text

/-- The labels of a calibration, which the program chooses itself, have no line break. -/
def Recorded.Labelled (r : Recorded) : Prop :=
  ∀ cal ∈ r.art.cal, OneLine cal.dut.toList ∧ OneLine cal.bottleneck.toList ∧
    OneLine cal.ceilingTransport.toList

theorem Recorded.labelled_of_none {r : Recorded} (none : r.art.cal = none) : r.Labelled := by
  intro cal some
  rw [none] at some
  cases some

theorem Recorded.record_oneLine {r : Recorded} (labelled : r.Labelled) (whole : r.Whole) :
    ∀ cell ∈ r.record, OneLine cell := by
  have name := whole r.scenario.name.toList (by simp [ownTexts])
  have protocol := whole (protocolLabel r.scenario) (by simp [ownTexts])
  have effective := whole (effectiveProtocol r.scenario r.art) (by simp [ownTexts])
  have overhead := overhead_oneLine (analyticalOverhead r.scenario r.params)
  have cal : ∀ cell ∈ calibrationCells r.art.cal ++
      [(r.art.cal.map fun cal => cal.bottleneck.toList).getD [],
        (r.art.cal.map fun cal => cal.ceilingTransport.toList).getD []], OneLine cell := by
    cases some : r.art.cal with
    | none => simp [calibrationCells, OneLine]
    | some cal =>
      obtain ⟨dut, bottleneck, ceiling⟩ := labelled cal some
      simp [calibrationCells, num_oneLine, boolText_oneLine, dut, bottleneck, ceiling]
  have perCore : OneLine
      ((r.art.sys.bind (gbpsPerCore r.stats.throughputGbps.mean)).getD []) := by
    cases r.art.sys with
    | none => simp [OneLine]
    | some a =>
      rw [Option.bind_some, gbpsPerCore]
      split
      · exact num_oneLine _ _
      · simp [OneLine]
  simp only [calibrationCells_columns, List.cons_append, List.nil_append,
    List.forall_mem_cons] at cal
  simp only [record, summaryRow, summaryCells, calibrationCells_columns, sweepCells_columns,
    cpuCells_columns, rttCells_columns, connCells_columns, perfCells_columns, perfEntries,
    List.map_cons, List.map_nil, List.cons_append, List.nil_append, List.forall_mem_cons]
  simp [name, protocol, effective, overhead, perCore, cal, num_oneLine, natText_oneLine,
    count_oneLine, boolText_oneLine, label_oneLine, map_oneLine,
    bind_oneLine]

theorem record_visible {record : List Text} (wide : 1 < record.length) :
    ¬(record = [] ∨ record = [[]]) := by
  rintro (rfl | rfl)
  · exact absurd wide (by decide)
  · exact absurd wide (by decide)

theorem Recorded.record_length (r : Recorded) : r.record.length = summaryHeaders.length :=
  summaryCells_length ..

/-- A record without line feeds is read as one. -/
theorem summaryRecords_single {record : List Text} (wide : 1 < record.length)
    (oneLine : ∀ cell ∈ record, OneLine cell) : summaryRecords (writeRow record) = [record] := by
  have read := summaryRecords_records (List.forall_mem_singleton.mpr oneLine)
  rw [List.flatMap_singleton] at read
  exact read.trans (List.filter_cons_of_pos (decide_eq_true (record_visible wide)))

/-- The overview reads the rows of a tree scenario by scenario. -/
theorem overviewRows_flatMap (tree : List Recorded) :
    overviewRows tree = tree.flatMap Recorded.readRows := by
  have headers : ∀ cell ∈ texts summaryHeaders, OneLine cell := by
    unfold OneLine
    decide +kernel
  have columns : 1 < (texts summaryHeaders).length := by
    rw [texts, List.length_map]
    decide
  rw [overviewRows, parseSummary, render_records, Csv.records, List.flatMap_cons,
    summaryRecords_writeRow, summaryCsv, summaryRecords_single columns headers,
    summaryRecords_flatMap, List.flatMap_map, List.singleton_append]
  exact List.map_flatMap

theorem Recorded.readRows_whole {r : Recorded} (labelled : r.Labelled) (whole : r.Whole) :
    r.readRows = [r.row] := by
  have wide : 1 < r.record.length := by
    rw [r.record_length]
    decide
  rw [readRows, summaryRecords_single wide (record_oneLine labelled whole)]
  rfl

theorem Recorded.row_protocol (r : Recorded) : r.row.protocol = protocolLabel r.scenario := by
  have column := @cellUnder_header "protocol" 2 (by decide +kernel) r.record
  rw [Recorded.row, SummaryRow.ofRecord]
  simp only [column]
  rfl

theorem Recorded.row_effectiveProtocol (r : Recorded) :
    r.row.effectiveProtocol = effectiveProtocol r.scenario r.art := by
  have column := @cellUnder_header "effective_protocol" 29 (by decide +kernel) r.record
  have cell : r.record[29]? = some (effectiveProtocol r.scenario r.art) := by
    simp only [record, summaryRow, summaryCells, calibrationCells_columns, sweepCells_columns]
    rfl
  rw [Recorded.row, SummaryRow.ofRecord]
  simp only [column, cell, Option.getD_some]

/-- No text that the overview reads has a line feed. -/
theorem overviewRows_oneLine {tree : List Recorded} {row : SummaryRow ℚ}
    (read : row ∈ overviewRows tree) :
    OneLine row.scenario ∧ OneLine row.protocol ∧ OneLine row.effectiveProtocol := by
  rw [overviewRows_flatMap] at read
  obtain ⟨r, -, inside⟩ := List.mem_flatMap.mp read
  obtain ⟨record, found, rfl⟩ := List.mem_map.mp inside
  have cells := summaryRecords_oneLine _ record found
  have shown (name : String) :
      OneLine ((cellUnder (texts summaryHeaders) record name).getD []) := by
    cases cell : cellUnder (texts summaryHeaders) record name with
    | none => simp [OneLine]
    | some text =>
      obtain ⟨column, -, here⟩ := Option.bind_eq_some_iff.mp cell
      exact cells text (List.mem_of_getElem? here)
  exact ⟨shown _, shown _, shown _⟩

/-- The overview never shows the row of a scenario one of whose texts has a line feed. -/
theorem Recorded.whole_of_read {r : Recorded} {tree : List Recorded}
    (read : r.row ∈ overviewRows tree) : r.Whole := by
  obtain ⟨name, protocol, effective⟩ := overviewRows_oneLine read
  rw [r.row_scenario] at name
  rw [r.row_protocol] at protocol
  rw [r.row_effectiveProtocol] at effective
  simp [Whole, ownTexts, name, protocol, effective]

/-! What the sections are to show. -/

section Ranking

variable (latency : Scenario → Bool)

/-- A scenario that measures round trips, connections, or, as no field but the given choice
tells, latency at a fixed rate. -/
def offBandwidth (s : Scenario) : Bool :=
  match s.mode with
  | .throughput => latency s
  | .pingpong => true
  | .connrate => true

/-- A scenario that measures bandwidth, and found more than the cut. -/
def Recorded.ranks (cut : ℚ) (r : Recorded) : Bool :=
  cut < r.row.throughputMean ∧ ¬offBandwidth latency r.scenario

/-- The rows of the scenarios that measure bandwidth, above a cut. -/
def bandwidthRows (cut : ℚ) (tree : List Recorded) : List (SummaryRow ℚ) :=
  (tree.filter (Recorded.ranks latency cut)).map Recorded.row

/-- Every row of a bandwidth scenario ranks once in what the overview reads of the file, and no
other row does. -/
structure RanksBandwidth (tree : List Recorded) : Prop where
  table : (throughputTable (overviewRows tree)).Perm (bandwidthRows latency (1 / 10) tree)
  leaderboard : (leaderboard (overviewRows tree)).Perm (bandwidthRows latency 0 tree)
  statistics : summaryStats (overviewRows tree) =
    if (bandwidthRows latency 0 tree).isEmpty then none
    else some (statistics (bandwidthRows latency 0 tree))
  tableDescends : (throughputTable (overviewRows tree)).Pairwise fun a b =>
    b.throughputMean ≤ a.throughputMean
  leaderboardDescends : (Report.leaderboard (overviewRows tree)).Pairwise fun a b =>
    b.throughputMean ≤ a.throughputMean

/-- The name of a scenario with some throughput starts as its mode has it; if its row is cut in
two it measures no bandwidth, and the parts look like no throughput either. -/
structure Recorded.Named (r : Recorded) : Prop where
  whole : r.Whole → 0 < r.row.throughputMean →
    isSpecial r.scenario.name.toList = offBandwidth latency r.scenario
  cut : ¬r.Whole → r.ranks latency 0 = false ∧ above 0 r.readRows = []

end Ranking

theorem byThroughput_perm (rows : List (SummaryRow ℚ)) : (byThroughput rows).Perm rows :=
  List.mergeSort_perm ..

theorem byThroughput_descends (rows : List (SummaryRow ℚ)) :
    (byThroughput rows).Pairwise fun a b => b.throughputMean ≤ a.throughputMean := by
  let higher (a b : SummaryRow ℚ) : Bool := b.throughputMean ≤ a.throughputMean
  have trans (a b c : SummaryRow ℚ) (first : higher a b) (second : higher b c) : higher a c :=
    decide_eq_true ((of_decide_eq_true second).trans (of_decide_eq_true first))
  have total (a b : SummaryRow ℚ) : higher a b || higher b a :=
    Bool.or_eq_true_iff.mpr ((le_total _ _).imp decide_eq_true decide_eq_true)
  exact (List.pairwise_mergeSort trans total rows).imp of_decide_eq_true

section Ranks

variable {latency : Scenario → Bool} {tree : List Recorded}

theorem above_flatMap (cut : ℚ) :
    above cut (overviewRows tree) = tree.flatMap fun r => above cut r.readRows := by
  rw [overviewRows_flatMap, above, List.filter_flatMap]
  rfl

theorem bandwidthRows_flatMap (cut : ℚ) :
    bandwidthRows latency cut tree =
      tree.flatMap fun r => if r.ranks latency cut then [r.row] else [] := by
  rw [bandwidthRows]
  induction tree with
  | nil => rfl
  | cons r rest ih =>
    rw [List.flatMap_cons, ← ih]
    by_cases ranks : r.ranks latency cut = true
    · rw [List.filter_cons_of_pos ranks, if_pos ranks, List.map_cons]
      rfl
    · rw [List.filter_cons_of_neg ranks, if_neg ranks]
      rfl

/-- A higher cut selects from what a lower one leaves. -/
theorem above_above {low high : ℚ} (lower : low ≤ high) (rows : List (SummaryRow ℚ)) :
    above high rows = (above low rows).filter fun row => high < row.throughputMean := by
  rw [above, above, List.filter_filter]
  refine List.filter_congr fun row _ => ?_
  rw [← Bool.decide_and, decide_eq_decide]
  exact ⟨fun ⟨higher, plain⟩ => ⟨higher, lower.trans_lt higher, plain⟩,
    fun ⟨higher, _, plain⟩ => ⟨higher, plain⟩⟩

/-- A whole row stays above the cut unless its name speaks against it. -/
theorem Recorded.above_row (cut : ℚ) (r : Recorded) :
    above cut [r.row] =
      if cut < r.row.throughputMean ∧ ¬isSpecial r.scenario.name.toList then [r.row] else [] := by
  rw [above, ← r.row_scenario]
  by_cases shown : cut < r.row.throughputMean ∧ ¬isSpecial r.row.scenario
  · rw [if_pos shown]
    exact List.filter_cons_of_pos (decide_eq_true shown)
  · rw [if_neg shown]
    exact List.filter_cons_of_neg fun passed => shown (of_decide_eq_true passed)

/-- A well-named scenario ranks as it should. -/
theorem Recorded.Named.above {r : Recorded} (named : r.Named latency) (labelled : r.Labelled)
    {cut : ℚ} (nonneg : 0 ≤ cut) :
    Report.above cut r.readRows = if r.ranks latency cut then [r.row] else [] := by
  by_cases whole : r.Whole
  · rw [readRows_whole labelled whole, above_row]
    refine if_congr ?_ rfl rfl
    rw [ranks, decide_eq_true_eq]
    exact and_congr_right fun higher => by rw [named.whole whole (nonneg.trans_lt higher)]
  · obtain ⟨silent, none⟩ := named.cut whole
    rw [above_above nonneg, none, List.filter_nil, if_neg]
    intro ranks
    refine absurd silent (Bool.ne_false_iff.mpr (decide_eq_true ?_))
    obtain ⟨higher, bandwidth⟩ := of_decide_eq_true ranks
    exact ⟨nonneg.trans_lt higher, bandwidth⟩

theorem RanksBandwidth.named (labelled : ∀ r ∈ tree, r.Labelled)
    (ranks : RanksBandwidth latency tree) : ∀ r ∈ tree, r.Named latency := by
  have perm := (byThroughput_perm _).symm.trans ranks.leaderboard
  -- a scenario that is to rank is whole, and its name does not speak against it
  have shown : ∀ r ∈ tree, r.ranks latency 0 = true → r.Whole ∧ above 0 r.readRows = [r.row] := by
    intro r member right
    have expected : r.row ∈ bandwidthRows latency 0 tree :=
      List.mem_map_of_mem (List.mem_filter.mpr ⟨member, right⟩)
    obtain ⟨read, plain⟩ := List.mem_filter.mp (perm.mem_iff.mpr expected)
    have whole := Recorded.whole_of_read read
    refine ⟨whole, ?_⟩
    have plain := of_decide_eq_true plain
    rw [r.row_scenario] at plain
    rw [Recorded.readRows_whole (labelled r member) whole, r.above_row, if_pos plain]
  have below : ∀ r ∈ tree, (if r.ranks latency 0 then [r.row] else []).length ≤
      (above 0 r.readRows).length := by
    intro r member
    by_cases right : r.ranks latency 0 = true
    · rw [if_pos right, (shown r member right).2]
    · rw [if_neg right]
      exact Nat.zero_le _
  have total := perm.length_eq
  rw [above_flatMap, bandwidthRows_flatMap, List.length_flatMap, List.length_flatMap] at total
  have equal := eq_of_sum_eq below total.le
  intro r member
  have same := equal r member
  by_cases right : r.ranks latency 0 = true
  · obtain ⟨whole, above⟩ := shown r member right
    refine ⟨fun _ higher => ?_, fun torn => absurd whole torn⟩
    obtain ⟨-, bandwidth⟩ := of_decide_eq_true right
    rw [Recorded.readRows_whole (labelled r member) whole, r.above_row] at above
    have plain : 0 < r.row.throughputMean ∧ ¬isSpecial r.scenario.name.toList := by
      by_contra wrong
      rw [if_neg wrong] at above
      cases above
    rw [Bool.eq_false_iff.mpr plain.2, Bool.eq_false_iff.mpr bandwidth]
  · rw [if_neg right, List.length_nil, eq_comm, List.length_eq_zero_iff] at same
    refine ⟨fun whole higher => ?_, fun _ => ⟨Bool.eq_false_iff.mpr right, same⟩⟩
    rw [Recorded.readRows_whole (labelled r member) whole, r.above_row] at same
    have special : isSpecial r.scenario.name.toList = true := by
      by_contra plain
      rw [if_pos ⟨higher, plain⟩] at same
      cases same
    have off : offBandwidth latency r.scenario = true := by
      by_contra bandwidth
      exact right (decide_eq_true ⟨higher, bandwidth⟩)
    rw [special, off]

theorem RanksBandwidth.of_named (labelled : ∀ r ∈ tree, r.Labelled)
    (named : ∀ r ∈ tree, r.Named latency) : RanksBandwidth latency tree := by
  have ranked (cut : ℚ) (nonneg : 0 ≤ cut) :
      above cut (overviewRows tree) = bandwidthRows latency cut tree := by
    rw [above_flatMap, bandwidthRows_flatMap]
    exact List.flatMap_congr fun r member => (named r member).above (labelled r member) nonneg
  exact
    { table := (byThroughput_perm _).trans (.of_eq (ranked _ (by norm_num)))
      leaderboard := (byThroughput_perm _).trans (.of_eq (ranked 0 le_rfl))
      statistics := by rw [summaryStats, ranked 0 le_rfl]
      tableDescends := byThroughput_descends _
      leaderboardDescends := byThroughput_descends _ }

/-- The overview ranks the rows of the bandwidth scenarios, and no others, exactly where the
name of every row with some throughput starts as its mode has it, and no row that a line feed
cuts is one of them or reads as one. -/
theorem ranksBandwidth_iff (latency : Scenario → Bool) {tree : List Recorded}
    (labelled : ∀ r ∈ tree, r.Labelled) :
    RanksBandwidth latency tree ↔ ∀ r ∈ tree, r.Named latency :=
  ⟨RanksBandwidth.named labelled, RanksBandwidth.of_named labelled⟩

end Ranks

/-- The mean lies between the worst and the best row. -/
theorem summaryStats_spread {rows : List (SummaryRow ℚ)} {stats : SummaryStats}
    (some_rows : summaryStats rows = some stats) :
    ∃ best ∈ stats.best, ∃ worst ∈ stats.worst,
      worst.throughputMean ≤ stats.mean ∧ stats.mean ≤ best.throughputMean := by
  rw [summaryStats] at some_rows
  split at some_rows
  · cases some_rows
  next shown =>
  rw [List.isEmpty_iff] at shown
  obtain rfl := Option.some_inj.mp some_rows
  obtain ⟨best, best_some⟩ : ∃ best, (statistics (above 0 rows)).best = some best :=
    Option.ne_none_iff_exists'.mp (mt lastMax_eq_none.mp shown)
  obtain ⟨worst, worst_some⟩ : ∃ worst, (statistics (above 0 rows)).worst = some worst :=
    Option.ne_none_iff_exists'.mp (mt firstMin_eq_none.mp shown)
  have count : (0 : ℚ) < (above 0 rows).length :=
    Nat.cast_pos.mpr (List.length_pos_iff.mpr shown)
  refine ⟨best, best_some, worst, worst_some, ?_, ?_⟩
  · rw [statistics, le_div_iff₀ count]
    calc worst.throughputMean * (above 0 rows).length
        = (above 0 rows).length • worst.throughputMean := by rw [nsmul_eq_mul, mul_comm]
      _ ≤ ((above 0 rows).map SummaryRow.throughputMean).sum := by
          rw [← @List.length_map _ _ (above 0 rows) SummaryRow.throughputMean]
          exact List.card_nsmul_le_sum _ _ (List.forall_mem_map.mpr (firstMin_le worst_some))
  · rw [statistics, div_le_iff₀ count]
    calc ((above 0 rows).map SummaryRow.throughputMean).sum
        ≤ (above 0 rows).length • best.throughputMean := by
          rw [← @List.length_map _ _ (above 0 rows) SummaryRow.throughputMean]
          exact List.sum_le_card_nsmul _ _ (List.forall_mem_map.mpr (le_lastMax best_some))
      _ = best.throughputMean * (above 0 rows).length := by rw [nsmul_eq_mul, mul_comm]

/-- A throughput scenario, and connections whose name is cut in two. -/
def bulkTransfer : Recorded where
  scenario := { name := "bulk_tcp" }
  params := plainParams
  stats := { plainStats with throughputGbps := { Metrics.Summary.empty with mean := 5 } }
  art := {}

def cutConnections : Recorded where
  scenario := { name := "churn\nagain", mode := .connrate }
  params := plainParams
  stats := { plainStats with throughputGbps := { Metrics.Summary.empty with mean := 1 / 2 } }
  art := {}

theorem ranksBandwidth_iff_cut :
    RanksBandwidth (fun _ => false) [bulkTransfer, cutConnections] := by
  refine (ranksBandwidth_iff (fun _ => false) (List.forall_mem_cons.mpr
    ⟨Recorded.labelled_of_none rfl,
      List.forall_mem_singleton.mpr (Recorded.labelled_of_none rfl)⟩)).mpr
    (List.forall_mem_cons.mpr ⟨⟨fun _ _ => ?_, fun cut => ?_⟩,
      List.forall_mem_singleton.mpr ⟨fun whole => ?_, fun _ => ⟨?_, ?_⟩⟩⟩)
  · decide +kernel
  · refine absurd (?_ : bulkTransfer.Whole) cut
    unfold Recorded.Whole OneLine
    decide +kernel
  · refine absurd (whole _ List.mem_cons_self) ?_
    unfold OneLine
    decide +kernel
  · decide +kernel
  · decide +kernel

/-- A ping-pong row, under the name that the matrix expansion gives it. -/
def matrixLatency : Recorded where
  scenario :=
    { name := "matrix_lat_routing_tcp_tcp_4096B_direct_1c"
      category := some "matrix-latency"
      gateway := { enabled := true }
      mode := .pingpong }
  params := { plainParams with messageBytes := 4096 }
  stats := { plainStats with throughputGbps := { Metrics.Summary.empty with mean := 1 / 2 } }
  art := {}

/-- It leads the board. -/
theorem matrixLatency_ranks :
    matrixLatency.row.throughputMean = 1 / 2 ∧
      leaderboard (overviewRows [matrixLatency]) = [matrixLatency.row] ∧
      ∀ latency, ¬RanksBandwidth latency [matrixLatency] := by
  have mean : matrixLatency.row.throughputMean = 1 / 2 := by
    have thousandths : (1 / 2 * 10 ^ 4 : ℚ) = (5000 : Nat) := by norm_num
    have rounded := @Recorded.row_throughput_rounded matrixLatency (by decide +kernel)
    rw [show matrixLatency.stats.throughputGbps.mean = 1 / 2 from rfl, thousandths,
      roundHalfEven_natCast] at rounded
    rw [rounded]
    norm_num
  have whole : matrixLatency.Whole := by
    unfold Recorded.Whole OneLine
    decide +kernel
  have labelled : matrixLatency.Labelled := Recorded.labelled_of_none rfl
  have plain : isSpecial matrixLatency.scenario.name.toList = false := by decide +kernel
  have shown : above 0 (overviewRows [matrixLatency]) = [matrixLatency.row] := by
    rw [above_flatMap, List.flatMap_singleton, Recorded.readRows_whole labelled whole,
      Recorded.above_row, mean, plain, if_pos (by norm_num)]
  refine ⟨mean, by rw [leaderboard, byThroughput, shown, List.mergeSort_singleton], ?_⟩
  intro latency ranks
  have perm := (byThroughput_perm _).symm.trans ranks.leaderboard
  have expected : bandwidthRows latency 0 [matrixLatency] = [] := by
    rw [bandwidthRows, List.filter_cons_of_neg, List.filter_nil, List.map_nil]
    exact fun right => (of_decide_eq_true right).2 rfl
  rw [shown, expected] at perm
  exact List.cons_ne_nil _ _ perm.eq_nil

end Seshat.Report
