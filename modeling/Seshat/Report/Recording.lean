import Seshat.Report.Results
import Mathlib.Tactic.Common

/-! Recording one scenario: what its directory may be after a stop between any two file
operations, and what the rebuilt tables take from it. -/

namespace Seshat.Report
open Config

/-! The operations of a recording on the tree. -/

def Write.put : Write → Option (FileName × Text)
  | .mkdir _ => none
  | .file _ name text => some (name, text)

def Write.place : Write → Place
  | .mkdir place => place
  | .file place _ _ => place

def Dir.puts (dir : Dir) (files : List (FileName × Text)) : Dir :=
  files.foldl (fun dir file => dir.put file.1 file.2) dir

section Trees

variable {tree : Tree} {place : Place} {writes : List Write}

theorem Tree.applyAll_append (tree : Tree) (first second : List Write) :
    tree.applyAll (first ++ second) = (tree.applyAll first).applyAll second := List.foldl_append

theorem Tree.apply_files (tree : Tree) (write : Write) (other : Place) :
    (tree.apply write).files other =
      if other = write.place then (tree.files other).puts write.put.toList else tree.files other := by
  cases write with
  | mkdir place =>
    have kept : (tree.apply (.mkdir place)).files = tree.files := by
      cases place with
      | child dir =>
        rw [Tree.apply]
        split <;> rfl
      | root => rfl
      | scenarios => rfl
    rw [kept]
    exact (ite_self _).symm
  | file place name text =>
    by_cases same : other = place
    · rw [same]
      rfl
    · rw [Write.place, if_neg same]
      exact if_neg same

/-- Operations on one directory touch no other one. -/
theorem Tree.applyAll_other (inPlace : ∀ write ∈ writes, write.place = place) {other : Place}
    (apart : other ≠ place) : (tree.applyAll writes).files other = tree.files other := by
  induction writes generalizing tree with
  | nil => rfl
  | cons write rest ih =>
    have here := inPlace write List.mem_cons_self
    have later : ((tree.apply write).applyAll rest).files other = (tree.apply write).files other :=
      ih fun w member => inPlace w (List.mem_cons_of_mem _ member)
    rw [Tree.applyAll, List.foldl_cons]
    refine later.trans ?_
    rw [Tree.apply_files, here, if_neg apart]

theorem Tree.applyAll_same (inPlace : ∀ write ∈ writes, write.place = place) :
    (tree.applyAll writes).files place =
      Dir.puts (tree.files place) (writes.filterMap Write.put) := by
  induction writes generalizing tree with
  | nil => rfl
  | cons write rest ih =>
    have here := inPlace write List.mem_cons_self
    have later : ((tree.apply write).applyAll rest).files place =
        Dir.puts ((tree.apply write).files place) (rest.filterMap Write.put) :=
      ih fun w member => inPlace w (List.mem_cons_of_mem _ member)
    rw [Tree.applyAll, List.foldl_cons]
    refine later.trans ?_
    rw [Tree.apply_files, here, if_pos rfl]
    cases write with
    | mkdir place => rfl
    | file place name text => rfl

/-- A directory exists if it did or was made. -/
theorem Tree.mem_apply_dirs (tree : Tree) (write : Write) (dir : Text) :
    dir ∈ (tree.apply write).dirs ↔ dir ∈ tree.dirs ∨ write = .mkdir (.child dir) := by
  cases write with
  | file place name text => simp [Tree.apply]
  | mkdir place =>
    cases place with
    | root => simp [Tree.apply]
    | scenarios => simp [Tree.apply]
    | child made =>
      rw [Tree.apply]
      split
      · next old =>
        simp only [Write.mkdir.injEq, Place.child.injEq, iff_self_or]
        rintro rfl
        exact old
      · simp [eq_comm]

theorem Tree.mem_applyAll_dirs (tree : Tree) (writes : List Write) (dir : Text) :
    dir ∈ (tree.applyAll writes).dirs ↔ dir ∈ tree.dirs ∨ .mkdir (.child dir) ∈ writes := by
  induction writes generalizing tree with
  | nil => simp [Tree.applyAll]
  | cons write rest ih =>
    rw [Tree.applyAll, List.foldl_cons]
    refine (ih (tree.apply write)).trans ?_
    rw [Tree.mem_apply_dirs, List.mem_cons, or_assoc, eq_comm (a := write)]

theorem Tree.apply_nodup (tree : Tree) (write : Write) (distinct : tree.dirs.Nodup) :
    (tree.apply write).dirs.Nodup := by
  cases write with
  | file place name text => exact distinct
  | mkdir place =>
    cases place with
    | root => exact distinct
    | scenarios => exact distinct
    | child made =>
      rw [Tree.apply]
      split
      · exact distinct
      · next fresh => exact distinct.append (List.nodup_singleton _) (by simpa using fresh)

theorem Tree.applyAll_nodup (tree : Tree) (writes : List Write) (distinct : tree.dirs.Nodup) :
    (tree.applyAll writes).dirs.Nodup := by
  induction writes generalizing tree with
  | nil => exact distinct
  | cons write rest ih => exact ih (tree.apply write) (tree.apply_nodup write distinct)

end Trees

theorem csv_write_place (csv : Csv) (place : Place) (file : FileName) :
    ∀ write ∈ csv.write place file, write.place = place := by
  simp [Csv.write, Write.place]

theorem recordScenario_place (name : String) (m : Measured) :
    ∀ write ∈ recordScenario name m, write.place = scenarioPlace name := by
  have swept : ∀ write ∈ (m.saturation.elim [] fun sweep =>
      sweep.write (scenarioPlace name) .saturation), write.place = scenarioPlace name := by
    cases m.saturation with
    | none => simp
    | some sweep => exact csv_write_place sweep _ _
  unfold recordScenario
  simp only [List.forall_mem_cons, List.forall_mem_append]
  exact ⟨rfl, csv_write_place _ _ _, csv_write_place _ _ _, csv_write_place _ _ _, swept, rfl,
    by simp⟩

theorem recordSkipped_place (name : String) (reason : Text) :
    ∀ write ∈ recordSkipped name reason, write.place = scenarioPlace name := by
  simp [recordSkipped, Csv.write, Write.place]

theorem recordStreamResults_place (name : String) (tables : StreamTables) :
    ∀ write ∈ recordStreamResults name tables, write.place = scenarioPlace name := by
  simp [recordStreamResults, Csv.write, Write.place]

/-- A scenario is recorded in its own directory. -/
theorem Outcome.record_place (name : String) (outcome : Outcome) :
    ∀ write ∈ outcome.record name, write.place = scenarioPlace name := by
  intro write member
  cases outcome with
  | measured m => exact recordScenario_place name m write member
  | skipped reason => exact recordSkipped_place name reason write member
  | multiStream tables m =>
    rcases List.mem_append.mp member with streams | scenario
    · exact recordStreamResults_place name tables write streams
    · exact recordScenario_place name m write scenario
  | multiStreamSkipped tables reason =>
    rcases List.mem_append.mp member with streams | skipped
    · exact recordStreamResults_place name tables write streams
    · exact recordSkipped_place name reason write skipped
  | hotReload m artifact =>
    rcases List.mem_append.mp member with scenario | reload
    · exact recordScenario_place name m write scenario
    · exact csv_write_place _ _ _ write reload

/-! One directory. -/

/-- Nothing in the directory counts as recorded, and it adds to no table. -/
structure Dir.Unrecorded (dir : Dir) : Prop where
  summary : dir .summary = none
  skip : dir .skip = none
  streamSummary : dir .streamSummary = none
  hotreload : dir .hotreload = none
  summaryRow : dir .summaryRow = none
  skipRow : dir .skipRow = none

/-- The directory adds one row of its scenario to `summary.csv` and none to `skipped.csv`. -/
structure Dir.Executed (name : Text) (dir : Dir) : Prop where
  marker : (dir .summary).isSome
  row : ∃ cells, summaryPart dir = some (writeRow (name :: cells))
  skip : skipPart dir = none

structure Dir.Skipped (name : Text) (dir : Dir) : Prop where
  marker : (dir .skip).isSome
  row : ∃ cells, skipPart dir = some (writeRow (name :: cells))
  summary : summaryPart dir = none

/-- The line-oriented reader finds the scenario's own name in the tables it is rebuilt from. -/
def Outcome.ReadsBack (name : String) : Outcome → Prop
  | .measured m | .multiStream _ m | .hotReload m _ =>
      (reconstructSummaryRow (readKeyValueCsv (scenarioConfigCsv name m).render)
        (readKeyValueCsv (scenarioSummaryCsv m).render)).head? = some name.toList
  | .skipped reason | .multiStreamSkipped _ reason =>
      lookupKey (readKeyValueCsv (skipCsv name reason).render) "scenario".toList =
        some name.toList

/-- The files written so far. -/
def written (done : List Write) : List FileName := (done.filterMap Write.put).map Prod.fst

/-- A stop within the recording of a scenario that leaves no trap behind: not between
`stream_summary.csv` and the table with the verdict, and between that table and its row
only if the table can be read back. -/
structure SafeStop (name : String) (outcome : Outcome) (files : List FileName) : Prop where
  streams : .streamSummary ∈ files → .summary ∈ files ∨ .skip ∈ files
  row : .summary ∈ files ∨ .skip ∈ files →
    .summaryRow ∈ files ∨ .skipRow ∈ files ∨ outcome.ReadsBack name

/-- What a directory may be after a safe stop. -/
def Dir.Settled (name : Text) (dir : Dir) : Prop :=
  dir.Unrecorded ∨ dir.Executed name ∨ dir.Skipped name

/-- A property of all stops within a list of files to write. -/
def AtStops (holds : List FileName → Dir → Prop) (done : List FileName) (dir : Dir) :
    List (FileName × Text) → Prop
  | [] => holds done dir
  | file :: rest => holds done dir ∧ AtStops holds (done ++ [file.1]) (dir.put file.1 file.2) rest

theorem AtStops.take {holds : List FileName → Dir → Prop} {done : List FileName} {dir : Dir}
    {files : List (FileName × Text)} (all : AtStops holds done dir files) (n : Nat) :
    holds (done ++ (files.take n).map Prod.fst) (dir.puts (files.take n)) := by
  induction files generalizing done dir n with
  | nil => simpa [Dir.puts, AtStops] using all
  | cons file rest ih =>
    cases n with
    | zero => simpa [Dir.puts] using all.1
    | succ n =>
      have later := ih all.2 n
      rwa [List.append_assoc] at later

theorem put_take (writes : List Write) (n : Nat) :
    ∃ m, (writes.take n).filterMap Write.put = (writes.filterMap Write.put).take m := by
  induction writes generalizing n with
  | nil => exact ⟨0, by simp⟩
  | cons write rest ih =>
    cases n with
    | zero => exact ⟨0, by simp⟩
    | succ n =>
      obtain ⟨m, same⟩ := ih n
      rw [List.take_succ_cons, List.filterMap_cons, List.filterMap_cons]
      cases write.put with
      | none => exact ⟨m, same⟩
      | some file => exact ⟨m + 1, by rw [List.take_succ_cons]; exact congrArg _ same⟩

/-- The files that measuring a scenario writes behind the evidence of its streams. -/
def measuredFiles (name : String) (m : Measured) : List (FileName × Text) :=
  (.config, (scenarioConfigCsv name m).render) ::
    (.summary, (scenarioSummaryCsv m).render) ::
      (.runs, m.runs.render) ::
        ((m.saturation.elim [] fun sweep => [(.saturation, sweep.render)]) ++
          [(.summaryRow, writeRow (name.toList :: m.row))])

def skippedFiles (name : String) (reason : Text) : List (FileName × Text) :=
  [(.skip, (skipCsv name reason).render), (.skipRow, writeRow [name.toList, reason])]

/-- The files of the evidence of streams. -/
def streamFiles (tables : StreamTables) : List (FileName × Text) :=
  [(.streams, Csv.render { headers := texts streamHeaders, rows := tables.rows }),
    (.streamSummary, (Csv.keyValue
      [("fairness_ratio".toList, tables.fairnessRatio),
        ("safety_loss_free".toList, tables.safetyLossFree),
        ("safety_p99_us".toList, tables.safetyP99Us)]).render)]

/-- The files a scenario is recorded in, by the path it takes. -/
def Outcome.files (name : String) : Outcome → List (FileName × Text)
  | .measured m => measuredFiles name m
  | .skipped reason => skippedFiles name reason
  | .multiStream tables m => streamFiles tables ++ measuredFiles name m
  | .multiStreamSkipped tables reason => streamFiles tables ++ skippedFiles name reason
  | .hotReload m artifact =>
      measuredFiles name m ++
        [(.hotreload, (Csv.keyValue ((texts reloadKeys).zip artifact)).render)]

theorem recordScenario_puts (name : String) (m : Measured) :
    (recordScenario name m).filterMap Write.put = measuredFiles name m := by
  cases sweep : m.saturation <;>
    simp [recordScenario, measuredFiles, Csv.write, List.filterMap_cons, Write.put, sweep,
      Csv.renderBody]

theorem recordSkipped_puts (name : String) (reason : Text) :
    (recordSkipped name reason).filterMap Write.put = skippedFiles name reason := by
  simp [recordSkipped, skippedFiles, Csv.write, List.filterMap_cons, Write.put, Csv.renderBody]

section Directories

variable {dir : Dir} {name : Text}

@[simp] theorem Dir.put_same (file : FileName) (text : Text) : dir.put file text file = some text :=
  if_pos rfl

theorem Dir.put_other {file other : FileName} (text : Text) (apart : other ≠ file) :
    dir.put file text other = dir other := if_neg apart

/-- Files that no table is rebuilt from. -/
def FileName.Evidence (file : FileName) : Prop :=
  file = .runs ∨ file = .saturation ∨ file = .streams ∨ file = .streamSummary ∨ file = .hotreload

theorem summaryPart_congr {other : Dir} (row : dir .summaryRow = other .summaryRow)
    (summary : dir .summary = other .summary) (config : dir .config = other .config) :
    summaryPart dir = summaryPart other := by
  unfold summaryPart
  rw [row, summary, config]

theorem skipPart_congr {other : Dir} (row : dir .skipRow = other .skipRow)
    (skip : dir .skip = other .skip) : skipPart dir = skipPart other := by
  unfold skipPart
  rw [row, skip]

theorem FileName.Evidence.parts {file : FileName} (evidence : file.Evidence) (dir : Dir)
    (text : Text) :
    summaryPart (dir.put file text) = summaryPart dir ∧
      skipPart (dir.put file text) = skipPart dir ∧
      dir.put file text .summary = dir .summary ∧ dir.put file text .skip = dir .skip := by
  have kept (other : FileName) (apart : other ≠ file) : dir.put file text other = dir other :=
    Dir.put_other text apart
  rcases evidence with rfl | rfl | rfl | rfl | rfl <;>
    exact ⟨summaryPart_congr (kept _ (by decide)) (kept _ (by decide)) (kept _ (by decide)),
      skipPart_congr (kept _ (by decide)) (kept _ (by decide)), kept _ (by decide),
      kept _ (by decide)⟩

theorem Dir.Executed.put (executed : dir.Executed name) {file : FileName}
    (evidence : file.Evidence) (text : Text) : (dir.put file text).Executed name := by
  obtain ⟨summary, skip, marker, -⟩ := evidence.parts dir text
  exact ⟨by rw [marker]; exact executed.marker, by rw [summary]; exact executed.row,
    by rw [skip]; exact executed.skip⟩

/-- Neither table is rebuilt from the directory yet. -/
structure Dir.Unlisted (dir : Dir) : Prop where
  summary : dir .summary = none
  skip : dir .skip = none
  summaryRow : dir .summaryRow = none
  skipRow : dir .skipRow = none

theorem Dir.Unrecorded.unlisted (unrecorded : dir.Unrecorded) : dir.Unlisted :=
  ⟨unrecorded.summary, unrecorded.skip, unrecorded.summaryRow, unrecorded.skipRow⟩

theorem Dir.Unlisted.parts (unlisted : dir.Unlisted) : summaryPart dir = none ∧ skipPart dir = none := by
  simp [summaryPart, skipPart, unlisted.summary, unlisted.skip, unlisted.summaryRow,
    unlisted.skipRow]

/-- Once the row file stands, the directory is executed, whatever the reader would find. -/
theorem Dir.Executed.rowed (marker : (dir .summary).isSome) (skip : skipPart dir = none)
    (cells : List Text) : (dir.put .summaryRow (writeRow (name :: cells))).Executed name where
  marker := by rwa [Dir.put_other _ (by decide)]
  row := ⟨cells, by rw [summaryPart, Dir.put_same]⟩
  skip := by
    rwa [skipPart_congr (Dir.put_other _ (by decide)) (Dir.put_other _ (by decide))]

/-- Before that, it is executed if the reader finds the name in its tables. -/
theorem Dir.Executed.read {config summary : Text} (configured : dir .config = some config)
    (summarized : dir .summary = some summary) (unrowed : dir .summaryRow = none)
    (skip : skipPart dir = none)
    (back : (reconstructSummaryRow (readKeyValueCsv config) (readKeyValueCsv summary)).head? =
      some name) : dir.Executed name where
  marker := by rw [summarized]; rfl
  row := by
    obtain ⟨cells, row⟩ := List.head?_eq_some_iff.mp back
    refine ⟨cells, ?_⟩
    simp [summaryPart, unrowed, summarized, configured, row, Csv.renderBody]
  skip := skip

theorem Dir.Skipped.rowed (marker : (dir .skip).isSome) (summary : summaryPart dir = none)
    (cells : List Text) : (dir.put .skipRow (writeRow (name :: cells))).Skipped name where
  marker := by rwa [Dir.put_other _ (by decide)]
  row := ⟨cells, by rw [skipPart, Dir.put_same]⟩
  summary := by
    rwa [summaryPart_congr (Dir.put_other _ (by decide)) (Dir.put_other _ (by decide))
      (Dir.put_other _ (by decide))]

theorem Dir.Skipped.read {skip : Text} (skipped : dir .skip = some skip)
    (unrowed : dir .skipRow = none) (summary : summaryPart dir = none)
    (back : lookupKey (readKeyValueCsv skip) "scenario".toList = some name) :
    dir.Skipped name where
  marker := by rw [skipped]; rfl
  row := by
    refine ⟨[(lookupKey (readKeyValueCsv skip) "reason".toList).getD []], ?_⟩
    rw [skipPart, unrowed, skipped]
    dsimp only [Option.map_some]
    rw [back]
    simp only [Csv.renderBody, List.flatMap_singleton, Option.getD_some]
  summary := summary

end Directories

section Stops

variable {name : String} {outcome : Outcome} {files done : List FileName} {dir : Dir}

/-- A safe stop leaves the directory settled. -/
def SettlesAt (name : String) (outcome : Outcome) (files : List FileName) (dir : Dir) : Prop :=
  SafeStop name outcome files → dir.Settled name.toList

theorem settlesAt_unrowed (settled : outcome.ReadsBack name → dir.Settled name.toList)
    (marked : .summary ∈ files ∨ .skip ∈ files)
    (unrowed : .summaryRow ∉ files ∧ .skipRow ∉ files) : SettlesAt name outcome files dir := by
  intro safe
  rcases safe.row marked with row | row | back
  · exact absurd row unrowed.1
  · exact absurd row unrowed.2
  · exact settled back

theorem atStops_append {holds : List FileName → Dir → Prop} {first second : List (FileName × Text)}
    (starts : AtStops holds done dir first)
    (continues : AtStops holds (done ++ first.map Prod.fst) (dir.puts first) second) :
    AtStops holds done dir (first ++ second) := by
  induction first generalizing done dir with
  | nil => simpa [Dir.puts] using continues
  | cons file rest ih =>
    refine ⟨starts.1, ih starts.2 ?_⟩
    rwa [List.append_assoc]

/-- The stops while a measured scenario is recorded, from just before its `config.csv`. -/
theorem measured_stops (name : String) (outcome : Outcome) (m : Measured) (done : List FileName)
    (same : outcome.ReadsBack name → (Outcome.measured m).ReadsBack name)
    (unlisted : dir.Unlisted) (unrowed : .summaryRow ∉ done ∧ .skipRow ∉ done)
    (before : SettlesAt name outcome done dir)
    (configured : SettlesAt name outcome (done ++ [.config])
      (dir.put .config (scenarioConfigCsv name m).render)) :
    AtStops (SettlesAt name outcome) done dir (measuredFiles name m) ∧
      (dir.puts (measuredFiles name m)).Executed name.toList := by
  let summary := (dir.put .config (scenarioConfigCsv name m).render).put .summary
    (scenarioSummaryCsv m).render
  have noSkip : skipPart summary = none := unlisted.parts.2
  have readable (back : outcome.ReadsBack name) : summary.Executed name.toList :=
    .read rfl rfl unlisted.summaryRow noSkip (same back)
  have runs : FileName.Evidence .runs := .inl rfl
  have saturation : FileName.Evidence .saturation := .inr (.inl rfl)
  have evidence := runs.parts summary m.runs.render
  have summarized : SettlesAt name outcome (done ++ [.config] ++ [.summary]) summary :=
    settlesAt_unrowed (fun back => .inr (.inl (readable back))) (by simp) (by simpa using unrowed)
  have ran : SettlesAt name outcome (done ++ [.config] ++ [.summary] ++ [.runs])
      (summary.put .runs m.runs.render) :=
    settlesAt_unrowed (fun back => .inr (.inl ((readable back).put runs _))) (by simp)
      (by simpa using unrowed)
  cases sweep : m.saturation with
  | none =>
    have rowed : ((summary.put .runs m.runs.render).put .summaryRow
        (writeRow (name.toList :: m.row))).Executed name.toList :=
      .rowed (by rw [evidence.2.2.1]; rfl) (by rw [evidence.2.1, noSkip]) m.row
    simp only [measuredFiles, sweep, Option.elim_none, List.nil_append, AtStops, Dir.puts,
      List.foldl_cons, List.foldl_nil]
    exact ⟨⟨before, configured, summarized, ran, fun _ => .inr (.inl rowed)⟩, rowed⟩
  | some sweep' =>
    have evidence' := saturation.parts (summary.put .runs m.runs.render) sweep'.render
    have swept : SettlesAt name outcome
        (done ++ [.config] ++ [.summary] ++ [.runs] ++ [.saturation])
        ((summary.put .runs m.runs.render).put .saturation sweep'.render) :=
      settlesAt_unrowed
        (fun back => .inr (.inl (((readable back).put runs _).put saturation _))) (by simp)
        (by simpa using unrowed)
    have rowed : (((summary.put .runs m.runs.render).put .saturation sweep'.render).put .summaryRow
        (writeRow (name.toList :: m.row))).Executed name.toList :=
      .rowed (by rw [evidence'.2.2.1, evidence.2.2.1]; rfl)
        (by rw [evidence'.2.1, evidence.2.1, noSkip]) m.row
    simp only [measuredFiles, sweep, Option.elim_some, List.cons_append, List.nil_append, AtStops,
      Dir.puts, List.foldl_cons, List.foldl_nil]
    exact ⟨⟨before, configured, summarized, ran, swept, fun _ => .inr (.inl rowed)⟩, rowed⟩

/-- The stops while a scenario is recorded as skipped. -/
theorem skipped_stops (name : String) (outcome : Outcome) (reason : Text)
    (done : List FileName)
    (same : outcome.ReadsBack name → (Outcome.skipped reason).ReadsBack name)
    (unlisted : dir.Unlisted) (unrowed : .summaryRow ∉ done ∧ .skipRow ∉ done)
    (before : SettlesAt name outcome done dir) :
    AtStops (SettlesAt name outcome) done dir (skippedFiles name reason) ∧
      (dir.puts (skippedFiles name reason)).Skipped name.toList := by
  let skip := dir.put .skip (skipCsv name reason).render
  have noSummary : summaryPart skip = none := unlisted.parts.1
  have marked : SettlesAt name outcome (done ++ [.skip]) skip :=
    settlesAt_unrowed (fun back => .inr (.inr (.read rfl unlisted.skipRow noSummary (same back))))
      (by simp) (by simpa using unrowed)
  have rowed : (skip.put .skipRow (writeRow [name.toList, reason])).Skipped name.toList :=
    .rowed rfl noSummary [reason]
  exact ⟨⟨before, marked, fun _ => .inr (.inr rowed)⟩, rowed⟩

/-- A directory without markers keeps none while evidence of streams is written to it. -/
theorem Dir.Unrecorded.put_streams (unrecorded : dir.Unrecorded) (text : Text) :
    (dir.put .streams text).Unrecorded :=
  ⟨unrecorded.summary, unrecorded.skip, unrecorded.streamSummary, unrecorded.hotreload,
    unrecorded.summaryRow, unrecorded.skipRow⟩

theorem Dir.Unrecorded.put_config (unrecorded : dir.Unrecorded) (text : Text) :
    (dir.put .config text).Unrecorded :=
  ⟨unrecorded.summary, unrecorded.skip, unrecorded.streamSummary, unrecorded.hotreload,
    unrecorded.summaryRow, unrecorded.skipRow⟩

theorem Dir.Unlisted.put_streamSummary (unlisted : dir.Unlisted) (text : Text) :
    (dir.put .streamSummary text).Unlisted :=
  ⟨unlisted.summary, unlisted.skip, unlisted.summaryRow, unlisted.skipRow⟩

/-- No stop between `stream_summary.csv` and the next marker is safe. -/
theorem unsafe_gap (gap : .streamSummary ∈ files)
    (unmarked : .summary ∉ files ∧ .skip ∉ files) : SettlesAt name outcome files dir :=
  fun safe => ((safe.streams gap).elim unmarked.1 unmarked.2).elim

theorem stream_stops (name : String) (outcome : Outcome) (unrecorded : dir.Unrecorded)
    (tables : StreamTables) :
    AtStops (SettlesAt name outcome) [] dir (streamFiles tables) ∧
      (dir.puts (streamFiles tables)).Unlisted :=
  ⟨⟨fun _ => .inl unrecorded, fun _ => .inl (unrecorded.put_streams _),
      unsafe_gap (by simp) (by simp)⟩,
    (unrecorded.put_streams _).unlisted.put_streamSummary _⟩

theorem Outcome.record_puts (name : String) (outcome : Outcome) :
    (outcome.record name).filterMap Write.put = outcome.files name := by
  have streams (tables : StreamTables) :
      (recordStreamResults name tables).filterMap Write.put = streamFiles tables := by
    simp [recordStreamResults, streamFiles, Csv.write, List.filterMap_cons, Write.put]
  cases outcome with
  | measured m => exact recordScenario_puts name m
  | skipped reason => exact recordSkipped_puts name reason
  | multiStream tables m =>
    rw [record, List.filterMap_append, streams, recordScenario_puts]
    rfl
  | multiStreamSkipped tables reason =>
    rw [record, List.filterMap_append, streams, recordSkipped_puts]
    rfl
  | hotReload m artifact =>
    rw [record, List.filterMap_append, recordScenario_puts]
    simp [Outcome.files, recordReloadArtifact, Csv.write, List.filterMap_cons, Write.put]

/-- Every safe stop while an unrecorded scenario is recorded leaves its directory settled,
and the whole recording lists it in one table. -/
theorem Outcome.stops (name : String) (outcome : Outcome) (unrecorded : dir.Unrecorded) :
    AtStops (SettlesAt name outcome) [] dir (outcome.files name) ∧
      ((dir.puts (outcome.files name)).Executed name.toList ∨
        (dir.puts (outcome.files name)).Skipped name.toList) := by
  have start (files : List FileName) : SettlesAt name outcome files dir := fun _ => .inl unrecorded
  have configured (files : List FileName) (text : Text) :
      SettlesAt name outcome files (dir.put .config text) :=
    fun _ => .inl (unrecorded.put_config text)
  have puts_append (first second : List (FileName × Text)) :
      dir.puts (first ++ second) = (dir.puts first).puts second := List.foldl_append
  cases outcome with
  | measured m =>
    obtain ⟨stops, executed⟩ := measured_stops name (.measured m) m [] id unrecorded.unlisted
      (by simp) (start []) (configured _ _)
    exact ⟨stops, .inl executed⟩
  | skipped reason =>
    obtain ⟨stops, skipped⟩ := skipped_stops name (.skipped reason) reason [] id
      unrecorded.unlisted (by simp) (start [])
    exact ⟨stops, .inr skipped⟩
  | multiStream tables m =>
    obtain ⟨streams, unlisted⟩ := stream_stops name (.multiStream tables m) unrecorded tables
    obtain ⟨stops, executed⟩ := measured_stops name (.multiStream tables m) m
      ([] ++ (streamFiles tables).map Prod.fst) id unlisted (by simp [streamFiles])
      (unsafe_gap (by simp [streamFiles]) (by simp [streamFiles]))
      (unsafe_gap (by simp [streamFiles]) (by simp [streamFiles]))
    refine ⟨atStops_append streams stops, .inl ?_⟩
    rw [Outcome.files, puts_append]
    exact executed
  | multiStreamSkipped tables reason =>
    obtain ⟨streams, unlisted⟩ :=
      stream_stops name (.multiStreamSkipped tables reason) unrecorded tables
    obtain ⟨stops, skipped⟩ := skipped_stops name (.multiStreamSkipped tables reason) reason
      ([] ++ (streamFiles tables).map Prod.fst) id unlisted (by simp [streamFiles])
      (unsafe_gap (by simp [streamFiles]) (by simp [streamFiles]))
    refine ⟨atStops_append streams stops, .inr ?_⟩
    rw [Outcome.files, puts_append]
    exact skipped
  | hotReload m artifact =>
    obtain ⟨stops, executed⟩ := measured_stops name (.hotReload m artifact) m [] id
      unrecorded.unlisted (by simp) (start []) (configured _ _)
    have evidence : FileName.Evidence .hotreload := by simp [FileName.Evidence]
    have reloaded := executed.put evidence
      (Csv.keyValue ((texts reloadKeys).zip artifact)).render
    have last : AtStops (SettlesAt name (.hotReload m artifact))
        ([] ++ (measuredFiles name m).map Prod.fst) (dir.puts (measuredFiles name m))
        [(.hotreload, (Csv.keyValue ((texts reloadKeys).zip artifact)).render)] :=
      ⟨fun _ => .inr (.inl executed), fun _ => .inr (.inl reloaded)⟩
    refine ⟨atStops_append stops last, .inl ?_⟩
    rw [Outcome.files, puts_append]
    exact reloaded

end Stops

end Seshat.Report
