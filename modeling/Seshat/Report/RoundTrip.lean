import Seshat.Report.Csv
import Mathlib.Data.List.Basic
import Mathlib.Tactic.Common

/-! What the two hand-written readers make of a rendered table: the overview, which reads
every cell of `summary.csv`, and the store, which reads `key,value` tables. -/

namespace Seshat.Report

/-! The reader of the overview. -/

/-- `line.trim_end_matches('\r')` -/
def trimCrs (line : Text) : Text := (line.reverse.dropWhile (· = '\r')).reverse

/-- `parse_record` -/
def parseRecord (line : Text) : List Text := splitCsvLine line

def summaryLines (text : Text) : List Text :=
  ((text.splitOn '\n').map trimCrs).filter fun line => ¬line.isEmpty

/-- The header record and the records behind it. -/
def summaryRecords (text : Text) : List (List Text) := (summaryLines text).map parseRecord

/-- The columns of `summary.csv` that the overview shows. -/
structure SummaryRow (F : Type) where
  scenario : Text
  transport : Text
  protocol : Text
  effectiveProtocol : Text
  messageBytes : Text
  connections : Text
  throughputMean : F
  throughputCi95 : F
  latencyMeanUs : F
  latencyP99Us : F
  lossPct : F
  headroom : F
  harnessLimited : Bool
  bottleneck : Text
  saturationGbps : F
  maxLossfreeGbps : F
  rttMeanUs : F
  rttP50Us : F
  rttP99Us : F
  connsPerSec : F
  handshakeP50Us : F
  handshakeP99Us : F

/-- The cell of a record under a header; of equal headers the last one counts. -/
def cellUnder (header record : List Text) (name : String) : Option Text := do
  let column ← header.zipIdx.reverse.find? fun entry => entry.1 = name.toList
  record[column.2]?

section Overview

variable {F : Type} [Zero F] (parseF64 : Text → Option F)

def SummaryRow.ofRecord (header record : List Text) : SummaryRow F :=
  let s name := (cellUnder header record name).getD []
  let num name := ((cellUnder header record name).bind parseF64).getD 0
  { scenario := s "scenario"
    transport := s "transport"
    protocol := s "protocol"
    effectiveProtocol := s "effective_protocol"
    messageBytes := s "message_bytes"
    connections := s "connections"
    throughputMean := num "throughput_gbps_mean"
    throughputCi95 := num "throughput_gbps_ci95"
    latencyMeanUs := num "latency_mean_us"
    latencyP99Us := num "latency_p99_us_mean"
    lossPct := num "loss_pct"
    headroom := num "headroom"
    harnessLimited := cellUnder header record "harness_limited" = some "true".toList
    bottleneck := s "bottleneck"
    saturationGbps := num "saturation_gbps"
    maxLossfreeGbps := num "max_lossfree_gbps"
    rttMeanUs := num "rtt_us_mean"
    rttP50Us := num "rtt_us_p50"
    rttP99Us := num "rtt_us_p99"
    connsPerSec := num "conns_per_sec"
    handshakeP50Us := num "conn_handshake_p50_us"
    handshakeP99Us := num "conn_handshake_p99_us" }

def parseSummary (text : Text) : List (SummaryRow F) :=
  match summaryRecords text with
  | [] => []
  | header :: records => records.map (SummaryRow.ofRecord parseF64 header)

end Overview

/-! A rendered record, and its line. -/

/-- A record without its line break. -/
def rowText (cells : List Text) : Text := [','].intercalate (cells.map escape)

theorem writeRow_text (cells : List Text) : writeRow cells = rowText cells ++ ['\r', '\n'] := rfl

theorem rowText_single (cell : Text) : rowText [cell] = escape cell := by
  simp [rowText]

theorem rowText_cons (cell next : Text) (rest : List Text) :
    rowText (cell :: next :: rest) = escape cell ++ ',' :: rowText (next :: rest) := by
  simp [rowText, List.intercalate]

theorem rowText_oneLine {cells : List Text} (oneLine : ∀ cell ∈ cells, OneLine cell) :
    OneLine (rowText cells) := by
  induction cells with
  | nil => simp [rowText, OneLine]
  | cons cell rest ih =>
    have first := escape_oneLine (oneLine cell List.mem_cons_self)
    cases rest with
    | nil => rwa [rowText_single]
    | cons next rest =>
      have later := ih fun other member => oneLine other (List.mem_cons_of_mem _ member)
      rw [rowText_cons, OneLine, List.mem_append, List.mem_cons]
      rintro (inFirst | comma | inRest)
      · exact first inFirst
      · exact absurd comma (by decide)
      · exact later inRest

/-- An escaped cell does not end in a carriage return. -/
theorem escape_getLast (cell : Text) : (escape cell).getLast? ≠ some '\r' := by
  unfold escape
  split
  · rw [List.getLast?_concat]
    simp
  · next plain =>
    intro last
    exact plain (List.any_eq_true.mpr ⟨'\r', List.mem_of_getLast? last, by decide⟩)

theorem rowText_getLast (cells : List Text) : (rowText cells).getLast? ≠ some '\r' := by
  induction cells with
  | nil => simp [rowText]
  | cons cell rest ih =>
    cases rest with
    | nil =>
      rw [rowText_single]
      exact escape_getLast cell
    | cons next rest =>
      rw [rowText_cons, List.getLast?_append, List.getLast?_cons]
      cases last : (rowText (next :: rest)).getLast? with
      | none => simp
      | some c =>
        rw [last] at ih
        simpa using ih

theorem trimCrs_rowText (cells : List Text) : trimCrs (rowText cells ++ ['\r']) = rowText cells := by
  rw [trimCrs, List.reverse_append, List.reverse_singleton, List.singleton_append,
    List.dropWhile_cons_of_pos (by decide)]
  have kept : (rowText cells).reverse.dropWhile (· = '\r') = (rowText cells).reverse := by
    have last := rowText_getLast cells
    rw [← List.head?_reverse] at last
    cases back : (rowText cells).reverse with
    | nil => rfl
    | cons c rest =>
      rw [back, List.head?_cons, ne_eq, Option.some.injEq] at last
      exact List.dropWhile_cons_of_neg (by simpa using last)
  rw [kept, List.reverse_reverse]

theorem escape_eq_nil (cell : Text) : escape cell = [] ↔ cell = [] := by
  unfold escape
  split
  · next special =>
    refine iff_of_false (by simp) ?_
    rintro rfl
    simp at special
  · rfl

/-- The records that render as an empty line. -/
theorem rowText_eq_nil (cells : List Text) : rowText cells = [] ↔ cells = [] ∨ cells = [[]] := by
  rcases cells with _ | ⟨cell, _ | ⟨next, rest⟩⟩
  · simp [rowText]
  · simp [rowText_single, escape_eq_nil]
  · simp [rowText_cons]

theorem splitFrom_rowText (fields : List Text) {cells : List Text} (nonempty : cells ≠ []) :
    splitFrom { fields } (rowText cells) = fields ++ cells := by
  induction cells generalizing fields with
  | nil => exact absurd rfl nonempty
  | cons cell rest ih =>
    cases rest with
    | nil =>
      have last := splitFrom_escape fields [] cell [] (by simp)
      rw [List.append_nil, List.nil_append] at last
      rw [rowText_single]
      exact last.trans rfl
    | cons next rest =>
      rw [rowText_cons, splitFrom_escape fields [] cell _ (by simp), splitFrom.eq_def]
      simp only [Bool.false_eq_true, if_false]
      rw [if_neg (by decide), if_pos trivial, List.nil_append, ih (fields ++ [cell]) (by simp),
        List.append_assoc, List.singleton_append]

/-- A record on a line of its own is read back as it was. -/
theorem splitCsvLine_rowText {cells : List Text} (nonempty : cells ≠ []) :
    splitCsvLine (rowText cells) = cells := splitFrom_rowText [] nonempty

/-! Both readers on a table whose cells have no line feed. -/

/-- The header record and the rows. -/
def Csv.records (csv : Csv) : List (List Text) := csv.headers :: csv.rows

theorem render_records (csv : Csv) : csv.render = csv.records.flatMap writeRow := rfl

section Lines

variable {records : List (List Text)}
  (oneLine : ∀ record ∈ records, ∀ cell ∈ record, OneLine cell)
include oneLine

theorem splitOn_records :
    (records.flatMap writeRow).splitOn '\n' =
      (records.map fun record => rowText record ++ ['\r']) ++ [[]] := by
  induction records with
  | nil => rfl
  | cons record rest ih =>
    have first := rowText_oneLine (oneLine record List.mem_cons_self)
    have line : '\n' ∉ rowText record ++ ['\r'] := by
      rw [List.mem_append]
      exact not_or.mpr ⟨first, by simp⟩
    rw [List.flatMap_cons, writeRow_text, show rowText record ++ ['\r', '\n'] ++
      rest.flatMap writeRow = (rowText record ++ ['\r']) ++ '\n' :: rest.flatMap writeRow by simp,
      List.splitOn_append_cons_self_of_not_mem line,
      ih fun other member => oneLine other (List.mem_cons_of_mem _ member)]
    rfl

theorem lines_records : lines (records.flatMap writeRow) = records.map rowText := by
  induction records with
  | nil => rfl
  | cons record rest ih =>
    have first := rowText_oneLine (oneLine record List.mem_cons_self)
    rw [List.flatMap_cons, writeRow_text, lines, List.append_assoc]
    refine (linesFrom_line [] _ first).trans ?_
    exact congrArg _ (ih fun other member => oneLine other (List.mem_cons_of_mem _ member))

/-- The overview loses the records that render as an empty line, and no other. -/
theorem summaryRecords_records :
    summaryRecords (records.flatMap writeRow) =
      records.filter fun record => ¬(record = [] ∨ record = [[]]) := by
  have shown : summaryLines (records.flatMap writeRow) =
      (records.map rowText).filter fun line => ¬line.isEmpty := by
    rw [summaryLines, splitOn_records oneLine, List.map_append, List.map_map, List.filter_append]
    have trimmed : (trimCrs ∘ fun record => rowText record ++ ['\r']) = rowText :=
      funext trimCrs_rowText
    rw [trimmed]
    exact List.append_nil _
  have emptyLine (record : List Text) :
      decide (¬(rowText record).isEmpty = true) = decide (¬(record = [] ∨ record = [[]])) :=
    decide_eq_decide.mpr (not_congr (by rw [List.isEmpty_iff, rowText_eq_nil]))
  rw [summaryRecords, shown, List.filter_map, List.map_map]
  refine (List.map_congr_left fun record member => ?_).trans (List.map_id _)
    |>.trans (List.filter_congr fun record _ => emptyLine record)
  have full := (List.mem_filter.mp member).2
  rw [Function.comp_apply, emptyLine, decide_eq_true_iff, not_or] at full
  exact splitCsvLine_rowText full.1

end Lines

/-! A reader never hands out a line feed. -/

theorem OneLine.cons {c : Char} {line : Text} (oneLine : OneLine (c :: line)) :
    c ≠ '\n' ∧ OneLine line := by
  rw [OneLine, List.mem_cons, not_or] at oneLine
  exact ⟨fun same => oneLine.1 same.symm, oneLine.2⟩

theorem OneLine.concat {field : Text} (oneLine : OneLine field) {c : Char} (other : c ≠ '\n') :
    OneLine (field ++ [c]) := by
  rw [OneLine, List.mem_append, List.mem_singleton]
  exact not_or.mpr ⟨oneLine, other.symm⟩

theorem splitFrom_oneLine (state : Splitting) {line : Text} (oneLine : OneLine line)
    (begun : OneLine state.field) (behind : ∀ field ∈ state.fields, OneLine field) :
    ∀ field ∈ splitFrom state line, OneLine field := by
  fun_induction splitFrom state line with
  | case1 state =>
    intro field member
    rcases List.mem_append.mp member with before | last
    · exact behind field before
    · exact List.mem_singleton.mp last ▸ begun
  | case2 state quoted rest ih =>
    exact ih oneLine.cons.2.cons.2 (begun.concat (by decide)) behind
  | case3 state quoted rest single ih => exact ih oneLine.cons.2 begun behind
  | case4 state c rest quoted other ih =>
    exact ih oneLine.cons.2 (begun.concat oneLine.cons.1) behind
  | case5 state rest plain ih => exact ih oneLine.cons.2 begun behind
  | case6 state rest plain comma ih =>
    refine ih oneLine.cons.2 (by simp [OneLine]) fun field member => ?_
    rcases List.mem_append.mp member with before | last
    · exact behind field before
    · exact List.mem_singleton.mp last ▸ begun
  | case7 state c rest plain other comma ih =>
    exact ih oneLine.cons.2 (begun.concat oneLine.cons.1) behind

theorem splitOn_oneLine (text : Text) : ∀ piece ∈ text.splitOn '\n', OneLine piece := by
  induction text with
  | nil => simp [OneLine]
  | cons c rest ih =>
    rw [List.splitOn_cons_eq_if_modifyHead]
    split
    · refine List.forall_mem_cons.mpr ⟨by simp [OneLine], ih⟩
    · next other =>
      cases pieces : rest.splitOn '\n' with
      | nil => exact absurd pieces (List.splitOn_ne_nil _ _)
      | cons first later =>
        rw [pieces, List.forall_mem_cons] at ih
        refine List.forall_mem_cons.mpr ⟨?_, ih.2⟩
        rw [OneLine, List.mem_cons, not_or]
        exact ⟨fun same => other (beq_iff_eq.mpr same.symm), ih.1⟩

theorem trimCrs_oneLine {line : Text} (oneLine : OneLine line) : OneLine (trimCrs line) := by
  intro member
  rw [trimCrs, List.mem_reverse] at member
  exact oneLine (List.mem_reverse.mp ((List.dropWhile_sublist _).mem member))

theorem summaryRecords_oneLine (text : Text) :
    ∀ record ∈ summaryRecords text, ∀ cell ∈ record, OneLine cell := by
  intro record member
  obtain ⟨line, inLines, rfl⟩ := List.mem_map.mp member
  obtain ⟨piece, inText, rfl⟩ := List.mem_map.mp (List.mem_filter.mp inLines).1
  exact splitFrom_oneLine {} (trimCrs_oneLine (splitOn_oneLine text piece inText))
    (by simp [OneLine]) (by simp)

/-! Records that are cut. -/

theorem summaryRecords_nil : summaryRecords [] = [] := rfl

theorem splitOn_line (front back : Text) :
    (front ++ '\n' :: back).splitOn '\n' = front.splitOn '\n' ++ back.splitOn '\n' := by
  induction front with
  | nil => rw [List.nil_append, List.splitOn_cons_eq_if_modifyHead, if_pos (by decide)]; rfl
  | cons c rest ih =>
    rw [List.cons_append, List.splitOn_cons_eq_if_modifyHead, List.splitOn_cons_eq_if_modifyHead,
      ih]
    split
    · rfl
    · cases pieces : rest.splitOn '\n' with
      | nil => exact absurd pieces (List.splitOn_ne_nil _ _)
      | cons first later => rfl

/-- What is behind a line does not change what the line is read as. -/
theorem summaryRecords_line (front back : Text) :
    summaryRecords (front ++ '\n' :: back) = summaryRecords front ++ summaryRecords back := by
  rw [summaryRecords, summaryLines, splitOn_line, List.map_append, List.filter_append,
    List.map_append]
  rfl

theorem summaryRecords_writeRow (cells : List Text) (back : Text) :
    summaryRecords (writeRow cells ++ back) =
      summaryRecords (writeRow cells) ++ summaryRecords back := by
  have ended (rest : Text) : writeRow cells ++ rest = (rowText cells ++ ['\r']) ++ '\n' :: rest := by
    rw [writeRow_text]
    simp
  have self := ended []
  rw [List.append_nil] at self
  rw [ended, self, summaryRecords_line, summaryRecords_line, summaryRecords_nil, List.append_nil]

/-- The records of a table are read one by one, whether they are cut or not. -/
theorem summaryRecords_flatMap (records : List (List Text)) :
    summaryRecords (records.flatMap writeRow) =
      records.flatMap fun record => summaryRecords (writeRow record) := by
  induction records with
  | nil => exact summaryRecords_nil
  | cons record rest ih =>
    rw [List.flatMap_cons, summaryRecords_writeRow, ih, List.flatMap_cons]

/-! Which tables are read back. -/

/-- The overview sees the header and the rows, cell for cell. -/
def ReadByOverview (csv : Csv) : Prop := summaryRecords csv.render = csv.records

/-- The map of the store gives every row back, and holds nothing else. -/
structure ReadByStore (csv : Csv) : Prop where
  rows : ∀ row ∈ csv.rows, ∃ key value, row = [key, value] ∧
    lookupKey (readKeyValueCsv csv.render) key = some value
  only : ∀ key value, lookupKey (readKeyValueCsv csv.render) key = some value →
    [key, value] ∈ csv.rows

/-- No cell has a line feed, and no record is without cells or a single empty cell. -/
structure Shown (csv : Csv) : Prop where
  oneLine : ∀ record ∈ csv.records, ∀ cell ∈ record, OneLine cell
  visible : ∀ record ∈ csv.records, ¬(record = [] ∨ record = [[]])

/-- Every row is a pair, and no key has two values. -/
structure Keyed (csv : Csv) : Prop where
  pairs : ∀ row ∈ csv.rows, row.length = 2
  distinct : ∀ row ∈ csv.rows, ∀ other ∈ csv.rows, row.head? = other.head? → row = other

theorem readByOverview_iff (csv : Csv) : ReadByOverview csv ↔ Shown csv := by
  have read (oneLine : ∀ record ∈ csv.records, ∀ cell ∈ record, OneLine cell) :
      summaryRecords csv.render =
        csv.records.filter fun record => ¬(record = [] ∨ record = [[]]) := by
    rw [render_records]
    exact summaryRecords_records oneLine
  constructor
  · intro same
    have oneLine : ∀ record ∈ csv.records, ∀ cell ∈ record, OneLine cell := by
      rw [← show summaryRecords csv.render = csv.records from same]
      exact summaryRecords_oneLine _
    have all := (read oneLine).symm.trans same
    rw [List.filter_eq_self] at all
    exact ⟨oneLine, fun record member => of_decide_eq_true (all record member)⟩
  · intro shown
    refine (read shown.oneLine).trans (List.filter_eq_self.mpr fun record member => ?_)
    exact decide_eq_true (shown.visible record member)

/-- What is shown reaches the rows of the overview under the headers it was written under. -/
theorem parseSummary_render {F : Type} [Zero F] (parseF64 : Text → Option F) {csv : Csv}
    (shown : Shown csv) :
    parseSummary parseF64 csv.render =
      csv.rows.map (SummaryRow.ofRecord parseF64 csv.headers) := by
  rw [parseSummary, show summaryRecords csv.render = csv.headers :: csv.rows from
    (readByOverview_iff csv).mpr shown]

/-- The pair of a row in a `key,value` table. -/
def rowPair : List Text → Option (Text × Text)
  | key :: value :: _ => some (key, value)
  | _ => none

theorem readKeyValueCsv_rows {csv : Csv}
    (oneLine : ∀ record ∈ csv.records, ∀ cell ∈ record, OneLine cell) :
    readKeyValueCsv csv.render = csv.rows.filterMap rowPair := by
  rw [readKeyValueCsv, render_records, lines_records oneLine, Csv.records, List.map_cons,
    List.drop_one, List.tail_cons, List.filterMap_map]
  refine List.filterMap_congr fun row _ => ?_
  rcases row with _ | ⟨key, _ | ⟨value, rest⟩⟩
  · rfl
  · rw [Function.comp_apply, splitCsvLine_rowText (by simp)]
    rfl
  · have shown : (rowText (key :: value :: rest)).isEmpty = false := by
      rw [List.isEmpty_eq_false_iff, ne_eq, rowText_eq_nil]
      simp
    rw [Function.comp_apply, splitCsvLine_rowText (by simp)]
    simp only [shown]
    rfl

theorem lookupKey_mem {pairs : List (Text × Text)} {key value : Text}
    (found : lookupKey pairs key = some value) : (key, value) ∈ pairs := by
  rw [lookupKey, List.lookup_eq_some_iff] at found
  obtain ⟨before, after, split, -⟩ := found
  rw [← List.mem_reverse, split]
  simp

theorem lookupKey_of_mem {pairs : List (Text × Text)} {key value : Text}
    (member : (key, value) ∈ pairs) : ∃ last, lookupKey pairs key = some last := by
  refine Option.ne_none_iff_exists'.mp fun absent => ?_
  rw [lookupKey, List.lookup_eq_none_iff] at absent
  have apart := absent (key, value) (List.mem_reverse.mpr member)
  simp at apart

theorem mem_rowPair {rows : List (List Text)} (pairs : ∀ row ∈ rows, row.length = 2)
    (key value : Text) : (key, value) ∈ rows.filterMap rowPair ↔ [key, value] ∈ rows := by
  rw [List.mem_filterMap]
  constructor
  · rintro ⟨row, member, pair⟩
    obtain ⟨first, second, rfl⟩ := List.length_eq_two.mp (pairs row member)
    rw [rowPair, Option.some.injEq, Prod.mk.injEq] at pair
    rwa [← pair.1, ← pair.2]
  · exact fun member => ⟨[key, value], member, rfl⟩

theorem readByStore_iff {csv : Csv} (shown : Shown csv) : ReadByStore csv ↔ Keyed csv := by
  have read := readKeyValueCsv_rows shown.oneLine
  constructor
  · intro stored
    have value {row : List Text} (member : row ∈ csv.rows) := stored.rows row member
    refine ⟨fun row member => ?_, fun row member other otherMember same => ?_⟩
    · obtain ⟨key, value, rfl, -⟩ := value member
      rfl
    · obtain ⟨key, first, rfl, found⟩ := value member
      obtain ⟨otherKey, second, rfl, otherFound⟩ := value otherMember
      rw [List.head?_cons, List.head?_cons, Option.some.injEq] at same
      rw [← same, found, Option.some.injEq] at otherFound
      rw [same, otherFound]
  · intro keyed
    have member (key value : Text) := mem_rowPair keyed.pairs key value
    refine ⟨fun row inRows => ?_, fun key value found => ?_⟩
    · obtain ⟨key, value, rfl⟩ := List.length_eq_two.mp (keyed.pairs row inRows)
      obtain ⟨last, found⟩ := lookupKey_of_mem (((member key value).mpr inRows))
      have same := keyed.distinct [key, value] inRows [key, last]
        ((member key last).mp (lookupKey_mem found)) rfl
      rw [List.cons.injEq, List.cons.injEq] at same
      refine ⟨key, value, rfl, ?_⟩
      rw [read, found, same.2.1]
    · rw [read] at found
      exact (member key value).mp (lookupKey_mem found)

/-- A rendered table is read back by the overview exactly where no cell has a line feed and no
record is without cells or a single empty cell, and by the store as well where its rows are
pairs and no key has two values. -/
theorem read_back_iff (csv : Csv) :
    (ReadByOverview csv ↔ Shown csv) ∧
      (ReadByOverview csv ∧ ReadByStore csv ↔ Shown csv ∧ Keyed csv) := by
  refine ⟨readByOverview_iff csv, ?_⟩
  rw [readByOverview_iff]
  exact and_congr_right readByStore_iff

/-- A skip record whose reason has a line break. -/
def brokenReason : Csv where
  headers := ["scenario".toList, "reason".toList]
  rows := [["tcp".toList, "no\nbinary".toList]]

/-- The overview takes it for two rows, and the store cuts the reason off. -/
theorem brokenReason_split :
    summaryRecords brokenReason.render =
        [["scenario".toList, "reason".toList], ["tcp".toList, "no".toList], ["binary".toList]] ∧
      readKeyValueCsv brokenReason.render = [("tcp".toList, "no".toList)] ∧
      ¬ReadByOverview brokenReason ∧ ¬ReadByStore brokenReason := by
  have overview : summaryRecords brokenReason.render =
      [["scenario".toList, "reason".toList], ["tcp".toList, "no".toList], ["binary".toList]] := by
    decide +kernel
  have store : readKeyValueCsv brokenReason.render = [("tcp".toList, "no".toList)] := by
    decide +kernel
  refine ⟨overview, store, fun read => ?_, fun read => ?_⟩
  · rw [ReadByOverview, overview] at read
    exact absurd read (by decide +kernel)
  · obtain ⟨key, value, row, found⟩ := read.rows _ List.mem_cons_self
    rw [List.cons.injEq, List.cons.injEq] at row
    rw [store, ← row.1, ← row.2.1] at found
    exact absurd found (by decide +kernel)

end Seshat.Report
