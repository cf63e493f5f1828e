import Seshat.Lib.Extremes
import Seshat.Lib.Series
import Seshat.System.Totals
import Mathlib.Algebra.Order.Group.Multiset
import Mathlib.Data.List.TakeWhile

/-! The ticks of the sampler, and what a rollup collects of each. -/

namespace Seshat.System
open Lib.Binary64 Lib.Extremes Lib.Folds Lib.Series Lib.SortedMap

/-! Ticks. -/

/-- The turns that sample, from one that is due at `next` on. -/
def ticksFrom (interval : Nat) : Nat → List Round → List Round
  | _, [] => []
  | next, round :: rest =>
      if next ≤ round.now then
        round :: ticksFrom interval
          (if next + interval ≤ round.now then round.now + interval else next + interval) rest
      else ticksFrom interval next rest

def ticks (rateHz : UInt32) (rounds : List Round) : List Round :=
  ticksFrom (samplingInterval rateHz) 0 rounds

def samplesOf (pids : List Int32) (ticks : List Round) : List SystemSample :=
  ticks.flatMap fun tick => pids.filterMap tick.samplePid

theorem sampleLoop_ticks (pids : List Int32) (rateHz : UInt32) (rounds : List Round) :
    sampleLoop pids rateHz rounds = samplesOf pids (ticks rateHz rounds) := by
  have along (interval : Nat) (state : SampleState) :
      (rounds.foldl (SampleState.turn pids interval) state).out =
        state.out ++ samplesOf pids (ticksFrom interval state.next rounds) := by
    induction rounds generalizing state with
    | nil => simp [samplesOf, ticksFrom]
    | cons round rest ih =>
      rw [List.foldl_cons, ih, SampleState.turn, ticksFrom]
      split
      · rw [samplesOf, samplesOf, List.flatMap_cons, List.append_assoc]
      · rfl
  exact along _ {}

/-! The rollup as what its updates collect. -/

/-- Each sample with the one before it of the same process. -/
def stepsOf (samples : List SystemSample) : List (Option SystemSample × SystemSample) :=
  (firstSeen samples).flatMap fun pid => paired none (ofPid samples pid)

def cpuStep (tck : ℚ) (step : Option SystemSample × SystemSample) : ℚ :=
  step.1.elim 0 fun prev => cpuPercent prev step.2 tck

/-- A map of the rollup that each sample of a series updates, given the one before it. -/
theorem series_field {F : Type} (field : Rollup → F) (tck : ℚ)
    (update : F → Option SystemSample × SystemSample → F)
    (sampled : ∀ rollup prev s, field (Rollup.sample tck rollup prev s) =
      update (field rollup) (prev, s))
    (kept : ∀ rollup ctx cpu span, field { rollup with
      ctxTotal := ctx, cpuTicksTotal := cpu, spanS := span } = field rollup)
    (rollup : Rollup) (samples : List SystemSample) :
    field (rollup.series tck samples) = (paired none samples).foldl update (field rollup) := by
  have along (state : Rollup × Option SystemSample) :
      field (samples.foldl (fun before s => (Rollup.sample tck before.1 before.2 s, some s))
        state).1 = (paired state.2 samples).foldl update (field state.1) := by
    induction samples generalizing state with
    | nil => rfl
    | cons s rest ih => rw [List.foldl_cons, ih, paired, List.foldl_cons, sampled]
  rw [← along (rollup, none), Rollup.series]
  cases samples.head? with
  | none => rfl
  | some first =>
    cases samples.getLast? with
    | none => rfl
    | some last => exact kept _ _ _ _

theorem rollUp_field {F : Type} (field : Rollup → F) (tck : ℚ)
    (update : F → Option SystemSample × SystemSample → F)
    (series : ∀ rollup samples, field (Rollup.series tck rollup samples) =
      (paired none samples).foldl update (field rollup)) (samples : List SystemSample) :
    field (rollUp tck samples) = (stepsOf samples).foldl update (field {}) := by
  rw [stepsOf, List.foldl_flatMap]
  exact (List.foldl_hom field fun rollup pid => (series rollup (ofPid samples pid)).symm).symm

theorem rollUp_rss (tck : ℚ) (samples : List SystemSample) :
    (rollUp tck samples).rssByTime =
      collect (fun step : Option SystemSample × SystemSample => step.2.elapsedMs) 0
        (fun (total : UInt64) step => total + step.2.rssKib) (stepsOf samples) :=
  rollUp_field Rollup.rssByTime tck _
    (series_field Rollup.rssByTime tck _ (fun _ _ _ => rfl) fun _ _ _ _ => rfl) samples

theorem rollUp_cpu (tck : ℚ) (samples : List SystemSample) :
    (rollUp tck samples).cpuByTime =
      collect (fun step : Option SystemSample × SystemSample => step.2.elapsedMs) 0
        (fun total step => onGrid (total + cpuStep tck step)) (stepsOf samples) :=
  rollUp_field Rollup.cpuByTime tck _
    (series_field Rollup.cpuByTime tck _ (fun _ _ _ => rfl) fun _ _ _ _ => rfl) samples

/-! Series by process. -/

/-- The samples of one process. -/
def seriesOf (pid : Int32) (ticks : List Round) : List SystemSample :=
  ticks.filterMap fun tick => tick.samplePid pid

@[simp] theorem seriesOf_nil (pid : Int32) : seriesOf pid [] = [] := rfl

theorem seriesOf_append (pid : Int32) (front back : List Round) :
    seriesOf pid (front ++ back) = seriesOf pid front ++ seriesOf pid back := List.filterMap_append

theorem seriesOf_none {pid : Int32} {tick : Round} (gone : tick.samplePid pid = none)
    (rest : List Round) : seriesOf pid (tick :: rest) = seriesOf pid rest :=
  List.filterMap_cons_none gone

theorem seriesOf_some {pid : Int32} {tick : Round} {s : SystemSample}
    (sampled : tick.samplePid pid = some s) (rest : List Round) :
    seriesOf pid (tick :: rest) = s :: seriesOf pid rest := List.filterMap_cons_some sampled

theorem toUInt32_injective : Function.Injective Int32.toUInt32 := by
  rintro ⟨a⟩ ⟨b⟩ same
  exact congrArg Int32.ofUInt32 same

theorem samplePid_pid {tick : Round} {pid : Int32} {s : SystemSample}
    (sampled : tick.samplePid pid = some s) :
    s.pid = pid.toUInt32 ∧ s.elapsedMs = tick.elapsedMs := by
  obtain ⟨reading, -, rfl⟩ := Option.map_eq_some_iff.mp sampled
  exact ⟨rfl, rfl⟩

theorem samplePid_none {tick : Round} {pid : Int32} :
    tick.samplePid pid = none ↔ tick.proc pid = none := Option.map_eq_none_iff

theorem ofPid_tick (tick : Round) {pids : List Int32} (distinct : pids.Nodup) {pid : Int32}
    (member : pid ∈ pids) :
    ofPid (pids.filterMap tick.samplePid) pid.toUInt32 = (tick.samplePid pid).toList := by
  have other (list : List Int32) (absent : pid ∉ list) :
      ofPid (list.filterMap tick.samplePid) pid.toUInt32 = [] := by
    refine List.filter_eq_nil_iff.mpr fun s inside same => ?_
    obtain ⟨pid', here, sampled⟩ := List.mem_filterMap.mp inside
    have equal := (samplePid_pid sampled).1.symm.trans (of_decide_eq_true same)
    exact absent (toUInt32_injective equal ▸ here)
  obtain ⟨front, back, rfl⟩ := List.append_of_mem member
  obtain ⟨-, right, apart⟩ := List.nodup_append.mp distinct
  have before := other front fun inside => apart pid inside pid List.mem_cons_self rfl
  have after := other back (List.nodup_cons.mp right).1
  rw [ofPid] at before after ⊢
  rw [List.filterMap_append, List.filter_append, before, List.nil_append]
  cases sampled : tick.samplePid pid with
  | none => rw [List.filterMap_cons_none sampled, after, Option.toList_none]
  | some s =>
    have self : decide (s.pid = pid.toUInt32) = true := decide_eq_true (samplePid_pid sampled).1
    rw [List.filterMap_cons_some sampled, List.filter_cons, if_pos self, after, Option.toList_some]

/-- The series of a process has its sample of each tick. -/
theorem ofPid_samples {pids : List Int32} (distinct : pids.Nodup) (ticks : List Round)
    {pid : Int32} (member : pid ∈ pids) :
    ofPid (samplesOf pids ticks) pid.toUInt32 = seriesOf pid ticks := by
  induction ticks with
  | nil => rfl
  | cons tick rest ih =>
    have first := ofPid_tick tick distinct member
    rw [ofPid] at first ih ⊢
    rw [samplesOf] at ih ⊢
    rw [List.flatMap_cons, List.filter_append, first, ih]
    cases sampled : tick.samplePid pid with
    | none => rw [seriesOf_none sampled, Option.toList_none, List.nil_append]
    | some s => rw [seriesOf_some sampled, Option.toList_some, List.singleton_append]

/-- A sum over the processes that were seen is one over all of them. -/
theorem sum_firstSeen {M : Type*} [AddCommMonoid M] {pids : List Int32} (distinct : pids.Nodup)
    (ticks : List Round) (f : List SystemSample → M) (empty : f [] = 0) :
    ((firstSeen (samplesOf pids ticks)).map fun p => f (ofPid (samplesOf pids ticks) p)).sum =
      (pids.map fun pid => f (seriesOf pid ticks)).sum := by
  have known : (firstSeen (samplesOf pids ticks)).Perm
      ((pids.map Int32.toUInt32).filter fun p => p ∈ firstSeen (samplesOf pids ticks)) := by
    have nodup := (distinct.map toUInt32_injective).filter
      fun p => decide (p ∈ firstSeen (samplesOf pids ticks))
    refine (List.perm_ext_iff_of_nodup (firstSeen_nodup _) nodup).mpr fun p => ?_
    rw [List.mem_filter, decide_eq_true_iff]
    refine ⟨fun seen => ⟨?_, seen⟩, And.right⟩
    obtain ⟨s, inside, same⟩ := mem_firstSeen.mp seen
    obtain ⟨tick, -, sampled⟩ := List.mem_flatMap.mp inside
    obtain ⟨pid, member, read⟩ := List.mem_filterMap.mp sampled
    exact List.mem_map.mpr ⟨pid, member, (samplePid_pid read).1.symm.trans same⟩
  rw [(known.map _).sum_eq, sum_filter_of_zero, List.map_map]
  · refine congrArg List.sum (List.map_congr_left fun pid member => ?_)
    exact congrArg f (ofPid_samples distinct ticks member)
  · intro p _ unseen
    have none : (ofPid (samplesOf pids ticks) p).head? = none := by
      by_contra some
      exact absurd (ofPid_ne_nil.mp some) (of_decide_eq_false unseen)
    rw [List.head?_eq_none_iff.mp none, empty]

/-! What is collected under the time of a tick. -/

/-- The ticks of a run, each process sampled at every one until it exits. -/
def Exits (pids : List Int32) (ticks : List Round) : Prop :=
  ticks.Pairwise fun before after =>
    ∀ pid ∈ pids, before.proc pid = none → after.proc pid = none

/-- No two ticks are in one millisecond. -/
def Apart (ticks : List Round) : Prop :=
  ticks.Pairwise fun before after => before.elapsedMs < after.elapsedMs

/-- Of the steps of one process the one to a tick is the only one at its time. -/
theorem paired_at {front back : List Round} {tick : Round} (apart : Apart (front ++ tick :: back))
    (pid : Int32) : ((paired none (seriesOf pid (front ++ tick :: back))).filter fun step =>
      step.2.elapsedMs = tick.elapsedMs) =
    ((tick.samplePid pid).map fun s => ((seriesOf pid front).getLast?, s)).toList := by
  obtain ⟨-, right, early⟩ := List.pairwise_append.mp apart
  obtain ⟨late, -⟩ := List.pairwise_cons.mp right
  have other (prev : Option SystemSample) (list : List Round)
      (elsewhere : ∀ t ∈ list, t.elapsedMs ≠ tick.elapsedMs) :
      (paired prev (seriesOf pid list)).filter
        (fun step => step.2.elapsedMs = tick.elapsedMs) = [] := by
    refine List.filter_eq_nil_iff.mpr fun step inside same => ?_
    obtain ⟨t, here, sampled⟩ := List.mem_filterMap.mp (mem_paired inside)
    exact elsewhere t here ((samplePid_pid sampled).2.symm.trans (of_decide_eq_true same))
  have before := fun t here => (early t here tick List.mem_cons_self).ne
  have after := fun t here => (late t here).ne'
  rw [seriesOf_append]
  cases sampled : tick.samplePid pid with
  | none =>
    rw [seriesOf_none sampled, ← seriesOf_append]
    exact other none (front ++ back) (List.forall_mem_append.mpr ⟨before, after⟩)
  | some s =>
    have now : decide (s.elapsedMs = tick.elapsedMs) = true :=
      decide_eq_true (samplePid_pid sampled).2
    rw [seriesOf_some sampled, paired_append, List.filter_append, other none front before,
      List.nil_append,
      List.filter_cons, if_pos now, other (some s) back after, Option.or_none]
    rfl

/-- What the steps at the time of a tick add up to, process by process. -/
theorem steps_at {M : Type*} [AddCommMonoid M] {pids : List Int32} (distinct : pids.Nodup)
    {front back : List Round} {tick : Round} (apart : Apart (front ++ tick :: back))
    (part : Option SystemSample × SystemSample → M) :
    (((stepsOf (samplesOf pids (front ++ tick :: back))).filter fun step =>
      step.2.elapsedMs = tick.elapsedMs).map part).sum =
    (pids.map fun pid => (tick.samplePid pid).elim 0 fun s =>
      part ((seriesOf pid front).getLast?, s)).sum := by
  rw [stepsOf, List.filter_flatMap, List.map_flatMap, List.flatMap_def, List.sum_flatten,
    List.map_map]
  have spread := sum_firstSeen distinct (front ++ tick :: back) (fun series =>
    (((paired none series).filter fun step => step.2.elapsedMs = tick.elapsedMs).map part).sum) rfl
  refine spread.trans (congrArg List.sum (List.map_congr_left fun pid _ => ?_))
  rw [paired_at apart]
  cases tick.samplePid pid with
  | none => rfl
  | some s => exact List.sum_singleton

theorem steps_perm {pids : List Int32} (distinct : pids.Nodup) {front back : List Round}
    {tick : Round} (apart : Apart (front ++ tick :: back)) :
    ((stepsOf (samplesOf pids (front ++ tick :: back))).filter fun step =>
      step.2.elapsedMs = tick.elapsedMs).Perm
    (pids.filterMap fun pid =>
      (tick.samplePid pid).map fun s => ((seriesOf pid front).getLast?, s)) := by
  have bag {β : Type} (list : List β) :
      (list.map fun b => ({b} : Multiset β)).sum = (list : Multiset β) := by
    induction list with
    | nil => rfl
    | cons b rest ih => rw [List.map_cons, List.sum_cons, ih, Multiset.singleton_add,
        Multiset.cons_coe]
  have bags {β : Type} (f : Int32 → Option β) (list : List Int32) :
      (list.map fun pid => (f pid).elim 0 fun b => ({b} : Multiset β)).sum =
        (list.filterMap f : Multiset β) := by
    induction list with
    | nil => rfl
    | cons pid rest ih =>
      rw [List.map_cons, List.sum_cons, ih]
      cases sampled : f pid with
      | none => rw [List.filterMap_cons_none sampled, Option.elim_none, zero_add]
      | some b => rw [List.filterMap_cons_some sampled, Option.elim_some, Multiset.singleton_add,
          Multiset.cons_coe]
  have same := steps_at distinct apart fun step => ({step} : Multiset _)
  rw [bag] at same
  refine Multiset.coe_eq_coe.mp (same.trans ?_)
  rw [← bags]
  refine congrArg List.sum (List.map_congr_left fun pid _ => ?_)
  cases tick.samplePid pid <;> rfl

theorem mem_stepsOf_times {samples : List SystemSample} {time : Nat} :
    time ∈ (stepsOf samples).map (fun step => step.2.elapsedMs) ↔
      ∃ s ∈ samples, s.elapsedMs = time := by
  constructor
  · rintro member
    obtain ⟨step, inside, same⟩ := List.mem_map.mp member
    obtain ⟨pid, -, here⟩ := List.mem_flatMap.mp inside
    exact ⟨step.2, (List.mem_filter.mp (mem_paired here)).1, same⟩
  · rintro ⟨s, inside, same⟩
    have series : s ∈ (paired none (ofPid samples s.pid)).map Prod.snd := by
      rw [paired_map_snd]
      exact List.mem_filter.mpr ⟨inside, decide_eq_true rfl⟩
    obtain ⟨step, here, rfl⟩ := List.mem_map.mp series
    exact List.mem_map.mpr ⟨step, List.mem_flatMap.mpr
      ⟨_, mem_firstSeen.mpr ⟨_, inside, rfl⟩, here⟩, same⟩

theorem mem_samplesOf {pids : List Int32} {all : List Round} {s : SystemSample} :
    s ∈ samplesOf pids all ↔ ∃ tick ∈ all, ∃ pid ∈ pids, tick.samplePid pid = some s := by
  simp [samplesOf, List.mem_flatMap, List.mem_filterMap]

/-- A tick has an entry unless every process has exited. -/
theorem mem_times {M : Type*} (init : M) (op : M → Option SystemSample × SystemSample → M)
    {pids : List Int32} {all : List Round} {time : Nat} :
    time ∈ (collect (fun step => step.2.elapsedMs) init op
      (stepsOf (samplesOf pids all))).map Prod.fst ↔
    ∃ tick ∈ all, tick.elapsedMs = time ∧ ∃ pid ∈ pids, tick.proc pid ≠ none := by
  rw [mem_collect, mem_stepsOf_times]
  constructor
  · rintro ⟨s, inside, rfl⟩
    obtain ⟨tick, here, pid, member, sampled⟩ := mem_samplesOf.mp inside
    refine ⟨tick, here, (samplePid_pid sampled).2.symm, pid, member, fun gone => ?_⟩
    rw [Round.samplePid, gone] at sampled
    cases sampled
  · rintro ⟨tick, here, rfl, pid, member, present⟩
    obtain ⟨reading, read⟩ := Option.ne_none_iff_exists'.mp present
    have sampled : tick.samplePid pid = some _ := congrArg (Option.map _) read
    exact ⟨_, mem_samplesOf.mpr ⟨tick, here, pid, member, sampled⟩, (samplePid_pid sampled).2⟩

theorem rssByTime_sorted (tck : ℚ) (samples : List SystemSample) :
    Sorted (rollUp tck samples).rssByTime := by
  rw [rollUp_rss]
  exact collect_sorted _ _ _ _

theorem cpuByTime_sorted (tck : ℚ) (samples : List SystemSample) :
    Sorted (rollUp tck samples).cpuByTime := by
  rw [rollUp_cpu]
  exact collect_sorted _ _ _ _

theorem mem_rssByTime (tck : ℚ) {pids : List Int32} {all : List Round} {time : Nat} :
    time ∈ (rollUp tck (samplesOf pids all)).rssByTime.map Prod.fst ↔
      ∃ tick ∈ all, tick.elapsedMs = time ∧ ∃ pid ∈ pids, tick.proc pid ≠ none := by
  rw [rollUp_rss]
  exact mem_times _ _

theorem mem_cpuByTime (tck : ℚ) {pids : List Int32} {all : List Round} {time : Nat} :
    time ∈ (rollUp tck (samplesOf pids all)).cpuByTime.map Prod.fst ↔
      ∃ tick ∈ all, tick.elapsedMs = time ∧ ∃ pid ∈ pids, tick.proc pid ≠ none := by
  rw [rollUp_cpu]
  exact mem_times _ _

/-! Processes that exit. -/

theorem seriesOf_exited {pid : Int32} {tick : Round} {rest : List Round}
    (gone : tick.samplePid pid = none)
    (exits : ∀ after ∈ rest, tick.proc pid = none → after.proc pid = none) :
    seriesOf pid rest = [] :=
  List.filterMap_eq_nil_iff.mpr fun after member =>
    samplePid_none.mpr (exits after member (samplePid_none.mp gone))

/-- A process has not exited. -/
def Round.occupied (pids : List Int32) (tick : Round) : Bool :=
  pids.any fun pid => (tick.proc pid).isSome

theorem occupied_iff {pids : List Int32} {tick : Round} :
    tick.occupied pids = true ↔ ∃ pid ∈ pids, tick.proc pid ≠ none := by
  simp [Round.occupied, Option.isSome_iff_ne_none]

/-- The ticks until every process has exited. -/
def liveTicks (pids : List Int32) (all : List Round) : List Round :=
  all.takeWhile (Round.occupied pids)

theorem gone_of_vacant {pids : List Int32} {tick : Round}
    (vacant : ¬∃ pid ∈ pids, tick.proc pid ≠ none) {pid : Int32} (member : pid ∈ pids) :
    tick.proc pid = none := by
  by_contra present
  exact vacant ⟨pid, member, present⟩

/-- Once every process has exited there are no samples. -/
theorem samplesOf_vacant {pids : List Int32} {tick : Round} {rest : List Round}
    (exits : Exits pids (tick :: rest)) (vacant : ¬∃ pid ∈ pids, tick.proc pid ≠ none) :
    samplesOf pids (tick :: rest) = [] := by
  refine List.eq_nil_iff_forall_not_mem.mpr fun s inside => ?_
  obtain ⟨other, here, pid, member, sampled⟩ := mem_samplesOf.mp inside
  have gone := gone_of_vacant vacant member
  have absent : other.proc pid = none := by
    rcases List.mem_cons.mp here with rfl | later
    · exact gone
    · exact (List.pairwise_cons.mp exits).1 other later pid member gone
  rw [samplePid_none.mpr absent] at sampled
  cases sampled

theorem samplesOf_live {pids : List Int32} {all : List Round} (exits : Exits pids all) :
    samplesOf pids (liveTicks pids all) = samplesOf pids all := by
  induction all with
  | nil => rfl
  | cons tick rest ih =>
    rw [liveTicks]
    by_cases alive : tick.occupied pids = true
    · rw [List.takeWhile_cons_of_pos alive]
      exact congrArg (pids.filterMap tick.samplePid ++ ·) (ih (List.pairwise_cons.mp exits).2)
    · rw [List.takeWhile_cons_of_neg alive,
        samplesOf_vacant exits fun present => alive (occupied_iff.mpr present)]
      rfl

end Seshat.System
