import Seshat.Report.Collision
import Mathlib.Data.List.Perm.Subperm
import Mathlib.Tactic.Common

/-! Crash and resume: what a run may leave behind when it stops between any two file
operations, and what the tables of a later complete run hold. -/

namespace Seshat.Report
open Config

/-- A run of the suite that stopped after `count` file operations. -/
structure StoppedRun where
  outcome : String → Outcome
  count : Nat

def Tree.after (tree : Tree) (names : List String) (run : StoppedRun) : Tree :=
  tree.applyAll ((runWrites run.outcome names tree).take run.count)

def Tree.complete (tree : Tree) (names : List String) (outcome : String → Outcome) : Tree :=
  tree.applyAll (runWrites outcome names tree)

/-- The run stops at a safe point of the scenario it is recording, if it is recording one. -/
def StopsClean (outcome : String → Outcome) : List String → Tree → Nat → Prop
  | [], _, _ => True
  | name :: rest, tree, count =>
      if scenarioRecorded tree name then StopsClean outcome rest tree count
      else
        let writes := (outcome name).record name
        if writes.length ≤ count then
          StopsClean outcome rest (tree.applyAll writes) (count - writes.length)
        else SafeStop name (outcome name) (written (writes.take count))

/-- Every run of a history, each resuming the tree of the one before, stops clean. -/
def CleanHistory (names : List String) : List StoppedRun → Tree → Prop
  | [], _ => True
  | run :: rest, tree =>
      StopsClean run.outcome names tree run.count ∧ CleanHistory names rest (tree.after names run)

def Tree.afterAll (tree : Tree) (names : List String) (history : List StoppedRun) : Tree :=
  history.foldl (fun tree run => tree.after names run) tree

/-- Each name is the first cell of exactly one row of the two consolidated tables. -/
def Accounted (names : List String) (tree : Tree) : Prop :=
  ∃ executed skipped : List (List Text),
    tree.files .root .summary =
        some (Csv.render { headers := texts summaryHeaders, rows := executed }) ∧
      tree.files .root .skipped =
        some (Csv.render { headers := texts ["scenario", "reason"], rows := skipped }) ∧
      ∀ name ∈ names, ((executed ++ skipped).map List.head?).count (some name.toList) = 1

/-! Between runs. -/

/-- What every clean stop leaves behind. -/
structure TreeOk (names : List String) (tree : Tree) : Prop where
  settled : ∀ name ∈ names, Dir.Settled name.toList (tree.files (scenarioPlace name))
  known : ∀ dir ∈ tree.dirs, ∃ name ∈ names, sanitize name = dir
  distinct : tree.dirs.Nodup
  exist : ∀ name ∈ names, ¬Dir.Unrecorded (tree.files (scenarioPlace name)) →
    sanitize name ∈ tree.dirs

theorem fresh_ok (names : List String) : TreeOk names Tree.fresh where
  settled _ _ := .inl ⟨rfl, rfl, rfl, rfl, rfl, rfl⟩
  known := by simp [Tree.fresh]
  distinct := List.nodup_nil
  exist _ _ recorded := absurd ⟨rfl, rfl, rfl, rfl, rfl, rfl⟩ recorded

theorem Dir.Executed.recorded {dir : Dir} {name : Text} (executed : dir.Executed name) :
    ¬dir.Unrecorded := by
  intro unrecorded
  have marker := executed.marker
  rw [unrecorded.summary] at marker
  exact absurd marker (by decide)

theorem Dir.Skipped.recorded {dir : Dir} {name : Text} (skipped : dir.Skipped name) :
    ¬dir.Unrecorded := by
  intro unrecorded
  have marker := skipped.marker
  rw [unrecorded.skip] at marker
  exact absurd marker (by decide)

/-- In a settled directory the resume check sees what the tables see. -/
theorem scenarioRecorded_iff {tree : Tree} {name : String}
    (settled : Dir.Settled name.toList (tree.files (scenarioPlace name))) :
    scenarioRecorded tree name = true ↔ ¬Dir.Unrecorded (tree.files (scenarioPlace name)) := by
  rcases settled with unrecorded | executed | skipped
  · simp [scenarioRecorded, unrecorded.summary, unrecorded.skip, unrecorded.streamSummary,
      unrecorded.hotreload, unrecorded]
  · exact ⟨fun _ => executed.recorded, fun _ => by simp [scenarioRecorded, executed.marker]⟩
  · exact ⟨fun _ => skipped.recorded, fun _ => by simp [scenarioRecorded, skipped.marker]⟩

theorem Outcome.record_head (name : String) (outcome : Outcome) :
    ∃ rest, outcome.record name = .mkdir (scenarioPlace name) :: rest := by
  cases outcome <;> exact ⟨_, rfl⟩

section Steps

variable {names : List String} {tree : Tree} {name : String}

/-- Recording a front of an unrecorded scenario keeps the tree in order if it settles the
scenario's own directory. -/
theorem TreeOk.record (ok : TreeOk names tree) (own : OwnDirs names) (member : name ∈ names)
    (unrecorded : Dir.Unrecorded (tree.files (scenarioPlace name))) (outcome : Outcome) (n : Nat)
    (settled : Dir.Settled name.toList
      ((tree.applyAll ((outcome.record name).take n)).files (scenarioPlace name))) :
    TreeOk names (tree.applyAll ((outcome.record name).take n)) := by
  have inPlace : ∀ write ∈ (outcome.record name).take n, write.place = scenarioPlace name :=
    fun write taken => outcome.record_place name write (List.mem_of_mem_take taken)
  have elsewhere {other : String} (inNames : other ∈ names) (apart : other ≠ name) :
      (tree.applyAll ((outcome.record name).take n)).files (scenarioPlace other) =
        tree.files (scenarioPlace other) :=
    Tree.applyAll_other inPlace (own.places inNames member apart)
  constructor
  · intro other inNames
    by_cases same : other = name
    · rw [same]
      exact settled
    · rw [elsewhere inNames same]
      exact ok.settled other inNames
  · intro dir exists_now
    rcases (tree.mem_applyAll_dirs _ dir).mp exists_now with old | made
    · exact ok.known dir old
    · have place := inPlace _ made
      rw [own.children name member] at place
      exact ⟨name, member, (Place.child.inj place).symm⟩
  · exact tree.applyAll_nodup _ ok.distinct
  · intro other inNames recorded
    refine (tree.mem_applyAll_dirs _ _).mpr ?_
    by_cases same : other = name
    · -- whatever was written, the directory was made first
      subst same
      obtain ⟨rest, first⟩ := outcome.record_head other
      cases n with
      | zero => exact absurd unrecorded recorded
      | succ n =>
        right
        rw [first, List.take_succ_cons, own.children other inNames]
        exact List.mem_cons_self
    · rw [elsewhere inNames same] at recorded
      exact .inl (ok.exist other inNames recorded)

theorem files_after_record (tree : Tree) (name : String) (outcome : Outcome) (n : Nat) :
    ∃ m, (tree.applyAll ((outcome.record name).take n)).files (scenarioPlace name) =
        Dir.puts (tree.files (scenarioPlace name)) ((outcome.files name).take m) ∧
      written ((outcome.record name).take n) = ((outcome.files name).take m).map Prod.fst := by
  obtain ⟨m, same⟩ := put_take (outcome.record name) n
  rw [outcome.record_puts] at same
  refine ⟨m, ?_, by rw [written, same]⟩
  rw [Tree.applyAll_same fun write taken =>
    outcome.record_place name write (List.mem_of_mem_take taken), same]

theorem TreeOk.record_stop (ok : TreeOk names tree) (own : OwnDirs names) (member : name ∈ names)
    (unrecorded : Dir.Unrecorded (tree.files (scenarioPlace name))) (outcome : Outcome) {n : Nat}
    (safe : SafeStop name outcome (written ((outcome.record name).take n))) :
    TreeOk names (tree.applyAll ((outcome.record name).take n)) := by
  refine ok.record own member unrecorded outcome n ?_
  obtain ⟨m, files, names_written⟩ := files_after_record tree name outcome n
  have stops := (outcome.stops name unrecorded).1.take m
  rw [List.nil_append, ← names_written] at stops
  rw [files]
  exact stops safe

theorem TreeOk.record_whole (ok : TreeOk names tree) (own : OwnDirs names) (member : name ∈ names)
    (unrecorded : Dir.Unrecorded (tree.files (scenarioPlace name))) (outcome : Outcome) :
    TreeOk names (tree.applyAll (outcome.record name)) ∧
      ¬Dir.Unrecorded ((tree.applyAll (outcome.record name)).files (scenarioPlace name)) := by
  have files : (tree.applyAll (outcome.record name)).files (scenarioPlace name) =
      Dir.puts (tree.files (scenarioPlace name)) (outcome.files name) := by
    rw [Tree.applyAll_same (outcome.record_place name), outcome.record_puts]
  have whole := (outcome.stops name unrecorded).2
  have kept := ok.record own member unrecorded outcome (outcome.record name).length
  rw [List.take_length] at kept
  refine ⟨kept ?_, ?_⟩
  · rw [files]
    exact .inr whole
  · rw [files]
    exact whole.elim Dir.Executed.recorded Dir.Skipped.recorded

/-- The consolidated tables lie outside every scenario's directory. -/
theorem TreeOk.root_writes (ok : TreeOk names tree) (own : OwnDirs names) {writes : List Write}
    (atRoot : ∀ write ∈ writes, ∃ file text, write = .file .root file text) :
    TreeOk names (tree.applyAll writes) := by
  have kept : ∀ name ∈ names, (tree.applyAll writes).files (scenarioPlace name) =
      tree.files (scenarioPlace name) := by
    intro name member
    have apart : scenarioPlace name ≠ .root := by
      rw [own.children name member]
      exact Place.noConfusion
    refine Tree.applyAll_other (fun write inWrites => ?_) apart
    obtain ⟨file, text, rfl⟩ := atRoot write inWrites
    rfl
  have dirs (dir : Text) : dir ∈ (tree.applyAll writes).dirs ↔ dir ∈ tree.dirs := by
    rw [Tree.mem_applyAll_dirs, or_iff_left]
    intro made
    obtain ⟨file, text, same⟩ := atRoot _ made
    exact Write.noConfusion same
  constructor
  · intro name member
    rw [kept name member]
    exact ok.settled name member
  · intro dir exists_now
    exact ok.known dir ((dirs dir).mp exists_now)
  · exact tree.applyAll_nodup writes ok.distinct
  · intro name member recorded
    rw [kept name member] at recorded
    exact (dirs _).mpr (ok.exist name member recorded)

theorem finish_files (tree : Tree) :
    (tree.applyAll (finish tree)).files .root .summary = some tree.rebuildSummary.1 ∧
      (tree.applyAll (finish tree)).files .root .skipped = some tree.rebuildSkipped.1 := ⟨rfl, rfl⟩

theorem finish_root (tree : Tree) :
    ∀ write ∈ finish tree, ∃ file text, write = .file .root file text := by
  simp [finish]

end Steps

/-! Whole runs. -/

section Runs

variable {names rest : List String} {tree : Tree}

/-- A run that stops clean leaves the tree in order. -/
theorem TreeOk.run_stop (own : OwnDirs names) (within : ∀ name ∈ rest, name ∈ names)
    (ok : TreeOk names tree) {outcome : String → Outcome} {count : Nat}
    (clean : StopsClean outcome rest tree count) :
    TreeOk names (tree.applyAll ((runWrites outcome rest tree).take count)) := by
  induction rest generalizing tree count with
  | nil =>
    rw [runWrites]
    exact ok.root_writes own fun write taken =>
      finish_root tree write (List.mem_of_mem_take taken)
  | cons name rest ih =>
    have member := within name List.mem_cons_self
    have later : ∀ other ∈ rest, other ∈ names :=
      fun other inRest => within other (List.mem_cons_of_mem _ inRest)
    rw [StopsClean] at clean
    rw [runWrites]
    by_cases recorded : scenarioRecorded tree name
    · rw [if_pos recorded] at clean ⊢
      exact ih later ok clean
    · rw [if_neg recorded] at clean ⊢
      have unrecorded := not_not.mp (mt (scenarioRecorded_iff (ok.settled name member)).mpr recorded)
      dsimp only at clean ⊢
      rw [List.take_append, Tree.applyAll_append]
      by_cases whole : ((outcome name).record name).length ≤ count
      · rw [if_pos whole] at clean
        rw [List.take_of_length_le whole]
        exact ih later (ok.record_whole own member unrecorded (outcome name)).1 clean
      · rw [if_neg whole] at clean
        rw [Nat.sub_eq_zero_of_le (by omega), List.take_zero]
        exact ok.record_stop own member unrecorded (outcome name) clean

/-- A history of clean stops leaves the tree in order. -/
theorem TreeOk.history (own : OwnDirs names) (ok : TreeOk names tree) {history : List StoppedRun}
    (clean : CleanHistory names history tree) : TreeOk names (tree.afterAll names history) := by
  induction history generalizing tree with
  | nil => exact ok
  | cons run rest ih => exact ih (ok.run_stop own (fun _ member => member) clean.1) clean.2

/-- A complete run brings every scenario it goes through into one of the tables' sources,
then writes the tables. -/
theorem TreeOk.run_complete (own : OwnDirs names) (within : ∀ name ∈ rest, name ∈ names)
    (ok : TreeOk names tree) (outcome : String → Outcome) :
    ∃ last, TreeOk names last ∧
      (∀ name ∈ names, name ∈ rest ∨ ¬Dir.Unrecorded (tree.files (scenarioPlace name)) →
        ¬Dir.Unrecorded (last.files (scenarioPlace name))) ∧
      tree.applyAll (runWrites outcome rest tree) = last.applyAll (finish last) := by
  induction rest generalizing tree with
  | nil => exact ⟨tree, ok, fun name _ held => held.resolve_left List.not_mem_nil, rfl⟩
  | cons name rest ih =>
    have member := within name List.mem_cons_self
    have later : ∀ other ∈ rest, other ∈ names :=
      fun other inRest => within other (List.mem_cons_of_mem _ inRest)
    have already := scenarioRecorded_iff (ok.settled name member)
    rw [runWrites]
    by_cases recorded : scenarioRecorded tree name
    · obtain ⟨last, lastOk, all, writes⟩ := ih later ok
      rw [if_pos recorded]
      refine ⟨last, lastOk, fun other inNames held => all other inNames ?_, writes⟩
      rcases held with here | held
      · rcases List.mem_cons.mp here with rfl | inRest
        · exact .inr (already.mp recorded)
        · exact .inl inRest
      · exact .inr held
    · have unrecorded := not_not.mp (mt already.mpr recorded)
      obtain ⟨recordedOk, listed⟩ := ok.record_whole own member unrecorded (outcome name)
      obtain ⟨last, lastOk, all, writes⟩ := ih later recordedOk
      rw [if_neg recorded]
      dsimp only
      rw [Tree.applyAll_append]
      refine ⟨last, lastOk, fun other inNames held => all other inNames ?_, writes⟩
      by_cases same : other = name
      · rw [same]
        exact .inr listed
      · rw [Tree.applyAll_other ((outcome name).record_place name)
          (own.places inNames member same)]
        exact held.imp_left fun here => (List.mem_cons.mp here).resolve_left same

end Runs

/-! The rebuilt tables. -/

section Tables

variable {names : List String} {tree : Tree}

/-- The directories of a tree whose scenarios are all recorded are those of its names. -/
theorem TreeOk.dirs_perm (ok : TreeOk names tree) (own : OwnDirs names) (unique : names.Nodup)
    (all : ∀ name ∈ names, ¬Dir.Unrecorded (tree.files (scenarioPlace name))) :
    tree.scenarioDirs.Perm (names.map sanitize) := by
  have apart : (names.map sanitize).Nodup := by
    refine unique.map_on fun a inA b inB same => ?_
    by_contra different
    exact own.distinct a inA b inB different same
  refine (List.mergeSort_perm _ _).trans ((List.perm_ext_iff_of_nodup ok.distinct apart).mpr ?_)
  intro dir
  rw [List.mem_map]
  constructor
  · exact ok.known dir
  · rintro ⟨name, member, rfl⟩
    exact ok.exist name member (all name member)

/-- Directories that each list one scenario give one row for each of them. -/
theorem rows_of_dirs (own : OwnDirs names) {dirs : List Text}
    (listed : ∀ dir ∈ dirs, ∃ name ∈ names, sanitize name = dir ∧
      ((tree.files (scenarioPlace name)).Executed name.toList ∨
        (tree.files (scenarioPlace name)).Skipped name.toList)) :
    ∃ (inDirs : List String) (executed skipped : List (List Text)),
      (∀ name ∈ inDirs, name ∈ names) ∧ inDirs.map sanitize = dirs ∧
        (dirs.filterMap fun dir => summaryPart (tree.files (.child dir))) =
          executed.map writeRow ∧
        (dirs.filterMap fun dir => skipPart (tree.files (.child dir))) = skipped.map writeRow ∧
        ((executed ++ skipped).map List.head?).Perm
          (inDirs.map fun name => some name.toList) := by
  induction dirs with
  | nil => exact ⟨[], [], [], by simp, rfl, rfl, rfl, .nil⟩
  | cons dir rest ih =>
    obtain ⟨inDirs, executed, skipped, within, dirs, summary, skip, heads⟩ :=
      ih fun other member => listed other (List.mem_cons_of_mem _ member)
    obtain ⟨name, member, rfl, lists⟩ := listed dir List.mem_cons_self
    rw [own.children name member] at lists
    have withinAll : ∀ other ∈ name :: inDirs, other ∈ names :=
      List.forall_mem_cons.mpr ⟨member, within⟩
    simp only [List.filterMap_cons, summary, skip]
    rcases lists with here | here
    · obtain ⟨cells, row⟩ := here.row
      refine ⟨name :: inDirs, (name.toList :: cells) :: executed, skipped, withinAll,
        by rw [List.map_cons, dirs], by rw [row, List.map_cons], by rw [here.skip], ?_⟩
      exact heads.cons _
    · obtain ⟨cells, row⟩ := here.row
      refine ⟨name :: inDirs, executed, (name.toList :: cells) :: skipped, withinAll,
        by rw [List.map_cons, dirs], by rw [here.summary], by rw [row, List.map_cons], ?_⟩
      rw [List.map_append, List.map_cons, List.map_cons]
      exact List.perm_middle.trans ((List.map_append ▸ heads).cons _)

/-- The tables that `finish` writes once every scenario is recorded. -/
theorem TreeOk.accounted (ok : TreeOk names tree) (own : OwnDirs names) (unique : names.Nodup)
    (all : ∀ name ∈ names, ¬Dir.Unrecorded (tree.files (scenarioPlace name))) :
    Accounted names (tree.applyAll (finish tree)) := by
  have dirs := ok.dirs_perm own unique all
  have listed : ∀ dir ∈ tree.scenarioDirs, ∃ name ∈ names, sanitize name = dir ∧
      ((tree.files (scenarioPlace name)).Executed name.toList ∨
        (tree.files (scenarioPlace name)).Skipped name.toList) := by
    intro dir member
    obtain ⟨name, inNames, rfl⟩ := List.mem_map.mp (dirs.mem_iff.mp member)
    exact ⟨name, inNames, rfl, (ok.settled name inNames).resolve_left (all name inNames)⟩
  obtain ⟨inDirs, executed, skipped, within, same, summary, skip, heads⟩ := rows_of_dirs own listed
  have inject {a b : String} (inA : a ∈ names) (inB : b ∈ names) : sanitize a = sanitize b → a = b :=
    not_imp_not.mp (own.distinct a inA b inB)
  have distinct : inDirs.Nodup :=
    List.Nodup.of_map sanitize (same ▸ dirs.nodup_iff.mpr
      (unique.map_on fun a inA b inB => inject inA inB))
  refine ⟨executed, skipped, ?_, ?_, fun name member => ?_⟩
  · rw [(finish_files tree).1, Tree.rebuildSummary, Tree.rebuild, summary]
    simp [Csv.render, List.flatMap_def]
  · rw [(finish_files tree).2, Tree.rebuildSkipped, Tree.rebuild, skip]
    simp [Csv.render, List.flatMap_def]
  · have listedDir : sanitize name ∈ inDirs.map sanitize := by
      rw [same, dirs.mem_iff]
      exact List.mem_map_of_mem member
    obtain ⟨found, inFound, sameDir⟩ := List.mem_map.mp listedDir
    have inName : name ∈ inDirs := inject (within found inFound) member sameDir ▸ inFound
    have cells : (inDirs.map fun name => some name.toList).Nodup :=
      distinct.map fun a b both => String.toList_inj.mp (Option.some.inj both)
    rw [heads.count_eq]
    exact List.count_eq_one_of_mem cells (List.mem_map_of_mem inName)

end Tables

/-! What the reader needs to find a scenario's name again. -/

theorem lookupKey_first {pairs : List (Text × Text)} {key : Text} (value : Text)
    (apart : ∀ pair ∈ pairs, pair.1 ≠ key) : lookupKey ((key, value) :: pairs) key = some value := by
  have none : pairs.reverse.lookup key = none := by
    rw [List.lookup_eq_none_iff]
    intro pair member
    simpa using (apart pair (List.mem_reverse.mp member)).symm
  rw [lookupKey, List.reverse_cons, List.lookup_append, none]
  simp

theorem lookupKey_none {pairs : List (Text × Text)} {key : Text}
    (apart : ∀ pair ∈ pairs, pair.1 ≠ key) : lookupKey pairs key = none := by
  rw [lookupKey, List.lookup_eq_none_iff]
  intro pair member
  simpa using (apart pair (List.mem_reverse.mp member)).symm

theorem configKeys_plain :
    (∀ key ∈ texts configKeys, OneLine key) ∧ ∀ key ∈ texts configKeys, key ≠ "name".toList := by
  unfold OneLine
  decide +kernel

theorem summaryKeys_plain :
    (∀ key ∈ texts summaryKeys, OneLine key) ∧ ∀ key ∈ texts summaryKeys, key ≠ "name".toList := by
  unfold OneLine
  decide +kernel

/-- A skip record without line breaks is read back. -/
theorem skipped_readsBack {name : String} {reason : Text}
    (oneLine : OneLine name.toList ∧ OneLine reason) : (Outcome.skipped reason).ReadsBack name := by
  have pairs : ∀ pair ∈ [("scenario".toList, name.toList), ("reason".toList, reason)],
      OneLine pair.1 ∧ OneLine pair.2 := by
    have keys : OneLine "scenario".toList ∧ OneLine "reason".toList := by
      constructor <;> simp [OneLine]
    simp only [List.forall_mem_cons]
    exact ⟨⟨keys.1, oneLine.1⟩, ⟨keys.2, oneLine.2⟩, by simp⟩
  rw [Outcome.ReadsBack, skipCsv, readKeyValueCsv_render pairs]
  refine lookupKey_first _ ?_
  simp only [List.forall_mem_cons]
  exact ⟨by decide, by simp⟩

/-- So is a measured scenario without line breaks in its cells. -/
theorem measured_readsBack {name : String} {m : Measured}
    (oneLine : OneLine name.toList ∧ (∀ value ∈ m.configValues, OneLine value) ∧
      ∀ pair ∈ m.summary, OneLine pair.2) : (Outcome.measured m).ReadsBack name := by
  have inZip {pair : Text × Text} (member : pair ∈ (texts configKeys).zip m.configValues) :
      pair.1 ∈ texts configKeys ∧ pair.2 ∈ m.configValues := List.of_mem_zip member
  have config : ∀ pair ∈ ("name".toList, name.toList) :: (texts configKeys).zip m.configValues,
      OneLine pair.1 ∧ OneLine pair.2 := by
    refine List.forall_mem_cons.mpr ⟨⟨by simp [OneLine], oneLine.1⟩, fun pair member => ?_⟩
    exact ⟨configKeys_plain.1 _ (inZip member).1, oneLine.2.1 _ (inZip member).2⟩
  have summary : ∀ pair ∈ m.summary, OneLine pair.1 ∧ OneLine pair.2 := fun pair member =>
    ⟨summaryKeys_plain.1 _ (m.keyed pair member), oneLine.2.2 pair member⟩
  have unnamed := lookupKey_none fun pair member => summaryKeys_plain.2 _ (m.keyed pair member)
  have named := lookupKey_first name.toList fun pair member => configKeys_plain.2 _ (inZip member).1
  rw [Outcome.ReadsBack, scenarioConfigCsv, scenarioSummaryCsv, readKeyValueCsv_render config,
    readKeyValueCsv_render summary]
  change some (((lookupKey m.summary "name".toList).or (lookupKey _ "name".toList)).getD []) = _
  rw [unnamed, named]
  rfl

/-- No cell of the table with the verdict holds a line break. -/
def Outcome.Plain (name : String) : Outcome → Prop
  | .measured m | .multiStream _ m | .hotReload m _ =>
      OneLine name.toList ∧ (∀ value ∈ m.configValues, OneLine value) ∧
        ∀ pair ∈ m.summary, OneLine pair.2
  | .skipped reason | .multiStreamSkipped _ reason =>
      OneLine name.toList ∧ OneLine reason

theorem Outcome.Plain.readsBack {name : String} {outcome : Outcome} (plain : outcome.Plain name) :
    outcome.ReadsBack name := by
  cases outcome with
  | measured m | multiStream tables m | hotReload m artifact => exact measured_readsBack plain
  | skipped reason | multiStreamSkipped tables reason => exact skipped_readsBack plain

/-- Without line breaks a recording may stop between the table with the verdict and its row. -/
theorem SafeStop.of_plain {name : String} {outcome : Outcome} {files : List FileName}
    (streams : .streamSummary ∈ files → .summary ∈ files ∨ .skip ∈ files)
    (row : .summary ∈ files ∨ .skip ∈ files →
      .summaryRow ∈ files ∨ .skipRow ∈ files ∨ outcome.Plain name) :
    SafeStop name outcome files where
  streams
  row marked := (row marked).imp_right (Or.imp_right Outcome.Plain.readsBack)

/-! Every scenario ends up in one table. -/

/-- Whatever clean stops came before, a complete run lists every enabled scenario once, if
the names have directories of their own. -/
theorem resume_accounted {scenarios : List Scenario} (unique : (enabledNames scenarios).Nodup)
    (separated : ∀ a ∈ enabledNames scenarios, ∀ b ∈ enabledNames scenarios, a ≠ b → Separated a b)
    (inside : ∀ a ∈ enabledNames scenarios, a ∉ ["", ".", ".."]) (history : List StoppedRun)
    (clean : CleanHistory (enabledNames scenarios) history Tree.fresh)
    (last : String → Outcome) :
    Accounted (enabledNames scenarios)
      ((Tree.fresh.afterAll (enabledNames scenarios) history).complete
        (enabledNames scenarios) last) := by
  have own := (ownDirs_iff _).mpr ⟨separated, inside⟩
  have ok := (fresh_ok (enabledNames scenarios)).history own clean
  obtain ⟨tree, treeOk, all, writes⟩ := ok.run_complete own (fun _ member => member) last
  rw [Tree.complete, writes]
  exact treeOk.accounted own unique fun name member => all name member (.inl member)

/-- A run that stops between `skip.csv` and `skip_row.csv`. -/
def stoppedAtSkipRow : StoppedRun where
  outcome _ := .skipped "no peer".toList
  count := 2

theorem resume_accounted_skipped :
    Accounted (enabledNames [tcpScenario "tcp"])
      ((Tree.fresh.afterAll (enabledNames [tcpScenario "tcp"]) [stoppedAtSkipRow]).complete
        (enabledNames [tcpScenario "tcp"]) stoppedAtSkipRow.outcome) := by
  have plain : (Outcome.skipped "no peer".toList).Plain "tcp" := by
    unfold Outcome.Plain OneLine
    decide
  have stop : SafeStop "tcp" (.skipped "no peer".toList) [.skip] :=
    .of_plain (by simp) fun _ => .inr (.inr plain)
  have clean : CleanHistory (enabledNames [tcpScenario "tcp"]) [stoppedAtSkipRow] Tree.fresh :=
    ⟨stop, trivial⟩
  refine resume_accounted (by decide) ?_ (by decide) [stoppedAtSkipRow] clean _
  intro a inA b inB apart
  rw [List.mem_singleton.mp inA, List.mem_singleton.mp inB] at apart
  exact absurd rfl apart

/-- One safety stream through a gateway. -/
def mixScenario : Scenario where
  name := "mix"
  gateway := { enabled := true }
  streams :=
    [{ role := .safety, interface := .tcp, targetAddr := "127.0.0.1:9000", messageSizeBytes := 64
       priority := { dscpTag := "EF", trafficClass := "safety" } }]

def mixSuite : Config where
  suite := { name := "suite", version := "1.0.0" }
  scenarios := [mixScenario]

/-- A run that stops between `stream_summary.csv` and `config.csv`. -/
def stoppedAfterStreams : StoppedRun where
  outcome _ := .multiStream
    { rows := [], fairnessRatio := "1.0000".toList, safetyLossFree := "true".toList
      safetyP99Us := "42.000".toList }
    { configValues := []
      summary := []
      keyed := by simp
      runs := { headers := [] }
      saturation := none
      row := List.replicate 68 []
      aligned := by decide }
  count := 4

theorem Csv.render_rows {headers : List Text} {rows : List (List Text)}
    (empty : Csv.render { headers, rows } = Csv.render { headers }) : rows = [] := by
  rw [Csv.render, Csv.render, List.append_cancel_left_eq, List.flatMap_nil] at empty
  cases rows with
  | nil => rfl
  | cons row rest => simp [writeRow] at empty

theorem Tree.rebuild_empty {tree : Tree} {headers : List String} {part : Dir → Option Text}
    (unlisted : ∀ dir ∈ tree.dirs, part (tree.files (.child dir)) = none) :
    (tree.rebuild headers part).1 = Csv.render { headers := texts headers } := by
  have none : tree.scenarioDirs.filterMap (fun dir => part (tree.files (.child dir))) = [] := by
    rw [List.filterMap_eq_nil_iff]
    exact fun dir member => unlisted dir ((List.mergeSort_perm _ _).mem_iff.mp member)
  rw [Tree.rebuild, none, List.flatten_nil, List.append_nil]

/-- Validation accepts the suite, the next run skips the scenario as recorded, and no table lists
it. -/
theorem resume_loses_streams :
    ¬∀ (config : Config), (validate config).ok = true → (enabledNames config.scenarios).Nodup →
      ∀ (history : List StoppedRun) (last : String → Outcome),
        Accounted (enabledNames config.scenarios)
          ((Tree.fresh.afterAll (enabledNames config.scenarios) history).complete
            (enabledNames config.scenarios) last) := by
  intro always
  let last := stoppedAfterStreams.outcome
  obtain ⟨executed, skipped, summary, skip, listed⟩ := always mixSuite (by decide +kernel)
    (by decide) [stoppedAfterStreams] last
  let tree := Tree.fresh.afterAll ["mix"] [stoppedAfterStreams]
  have dirs : tree.dirs = ["mix".toList] := rfl
  have skipsIt : tree.complete ["mix"] last = tree.applyAll (finish tree) := rfl
  have onlyHeaders : tree.rebuildSummary.1 = Csv.render { headers := texts summaryHeaders } :=
    Tree.rebuild_empty (by rw [dirs, List.forall_mem_singleton]; rfl)
  have onlyHeaders' : tree.rebuildSkipped.1 = Csv.render { headers := texts ["scenario", "reason"] } :=
    Tree.rebuild_empty (by rw [dirs, List.forall_mem_singleton]; rfl)
  change (tree.complete ["mix"] _).files .root .summary = _ at summary
  change (tree.complete ["mix"] _).files .root .skipped = _ at skip
  rw [skipsIt, (finish_files tree).1, onlyHeaders, Option.some.injEq] at summary
  rw [skipsIt, (finish_files tree).2, onlyHeaders', Option.some.injEq] at skip
  have once := listed "mix" (by decide)
  rw [Csv.render_rows summary.symm, Csv.render_rows skip.symm] at once
  exact absurd once (by decide)

end Seshat.Report
