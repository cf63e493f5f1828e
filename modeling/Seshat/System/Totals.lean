import Seshat.Lib.Folds
import Seshat.System.Sampler

/-! The totals of a rollup: they come from the first and the last sample of each process. -/

namespace Seshat.System
open Lib.Folds Lib.SortedMap

/-! The processes in a series. -/

theorem firstSeen_concat (samples : List SystemSample) (s : SystemSample) :
    firstSeen (samples ++ [s]) =
      if s.pid ∈ firstSeen samples then firstSeen samples else firstSeen samples ++ [s.pid] := by
  rw [firstSeen, List.foldl_append]
  rfl

theorem mem_firstSeen {samples : List SystemSample} {pid : UInt32} :
    pid ∈ firstSeen samples ↔ ∃ s ∈ samples, s.pid = pid := by
  induction samples using List.reverseRecOn with
  | nil => simp [firstSeen]
  | append_singleton samples s ih =>
    have split : (∃ other ∈ samples ++ [s], other.pid = pid) ↔
        pid ∈ firstSeen samples ∨ s.pid = pid := by
      rw [ih]
      simp [or_and_right, exists_or]
    rw [firstSeen_concat, split]
    split_ifs with seen
    · exact ⟨.inl, fun either => either.elim id fun same => same ▸ seen⟩
    · rw [List.mem_append, List.mem_singleton, eq_comm]

theorem firstSeen_nodup (samples : List SystemSample) : (firstSeen samples).Nodup := by
  induction samples using List.reverseRecOn with
  | nil => exact List.nodup_nil
  | append_singleton samples s ih =>
    rw [firstSeen_concat]
    split_ifs with seen
    · exact ih
    · exact List.nodup_append.mpr ⟨ih, List.nodup_singleton _, fun a member b last same =>
        seen (List.mem_singleton.mp last ▸ same ▸ member)⟩

/-! Totals. -/

structure Totals where
  ctx : UInt64 := 0
  cpuTicks : UInt64 := 0
  span : ℚ := 0

/-- One process adds the difference of its last and its first sample. -/
def Totals.process (totals : Totals) : Option SystemSample → Option SystemSample → Totals
  | some first, some last =>
      { ctx := totals.ctx + .ofNat (grown first.ctxSwitches last.ctxSwitches)
        cpuTicks := totals.cpuTicks + .ofNat (grown first.cpuTicks last.cpuTicks)
        span := max totals.span (seconds (last.elapsedMs - first.elapsedMs)) }
  | _, _ => totals

def Rollup.totals (rollup : Rollup) : Totals := ⟨rollup.ctxTotal, rollup.cpuTicksTotal, rollup.spanS⟩

def ofPid (samples : List SystemSample) (pid : UInt32) : List SystemSample :=
  samples.filter fun s => s.pid = pid

theorem series_totals (tck : ℚ) (rollup : Rollup) (samples : List SystemSample) :
    (rollup.series tck samples).totals =
      rollup.totals.process samples.head? samples.getLast? := by
  have along (state : Rollup × Option SystemSample) :
      (samples.foldl (fun before s => (Rollup.sample tck before.1 before.2 s, some s))
        state).1.totals = state.1.totals := by
    induction samples generalizing state with
    | nil => rfl
    | cons s rest ih => exact ih _
  have kept := along (rollup, none)
  rw [Rollup.series, ← kept]
  cases samples.head? with
  | none => rfl
  | some first =>
    cases samples.getLast? with
    | none => rfl
    | some last => rfl

theorem rollUp_totals (tck : ℚ) (samples : List SystemSample) :
    (rollUp tck samples).totals = (firstSeen samples).foldl (fun totals pid =>
      totals.process (ofPid samples pid).head? (ofPid samples pid).getLast?) {} := by
  have along (pids : List UInt32) (rollup : Rollup) :
      (pids.foldl (fun rollup pid => rollup.series tck (ofPid samples pid)) rollup).totals =
        pids.foldl (fun totals pid =>
          totals.process (ofPid samples pid).head? (ofPid samples pid).getLast?)
          rollup.totals := by
    induction pids generalizing rollup with
    | nil => rfl
    | cons pid rest ih => rw [List.foldl_cons, ih, series_totals, List.foldl_cons]
  exact along (firstSeen samples) {}

theorem Totals.process_comm (totals : Totals) (first last first' last' : Option SystemSample) :
    (totals.process first last).process first' last' =
      (totals.process first' last').process first last := by
  cases first <;> cases last <;> cases first' <;> cases last' <;> try rfl
  simp only [process, Totals.mk.injEq]
  exact ⟨word_right_comm _ _ _, word_right_comm _ _ _, max_right_comm _ _ _⟩

/-! The same figures without any rounding. -/

/-- The milliseconds a process was sampled for. -/
def sampledMs : Option SystemSample → Option SystemSample → Nat
  | some first, some last => last.elapsedMs - first.elapsedMs
  | _, _ => 0

/-- The longest time that a process was sampled for. -/
def windowMs (samples : List SystemSample) : Nat :=
  ((firstSeen samples).map fun pid =>
    sampledMs (ofPid samples pid).head? (ofPid samples pid).getLast?).foldl max 0

/-- The totals as exact rationals. -/
structure ExactTotals where
  cpuSeconds : ℚ
  ctxSwitches : Nat
  window : ℚ
  cpuPctMean : ℚ
  deriving DecidableEq

def exactTotals (tck : ℚ) (samples : List SystemSample) : ExactTotals :=
  let totals := (rollUp tck samples).totals
  let cpuSeconds := totals.cpuTicks.toNat / tck
  let window := windowMs samples / 1000
  { cpuSeconds, ctxSwitches := totals.ctx.toNat, window, cpuPctMean := cpuSeconds / window * 100 }

/-! Samples that are left out. -/

/-- Samples in between are dropped, the first and the last one of each process are kept. -/
structure Thinned (kept samples : List SystemSample) : Prop where
  sublist : kept.Sublist samples
  first : ∀ pid, (ofPid kept pid).head? = (ofPid samples pid).head?
  last : ∀ pid, (ofPid kept pid).getLast? = (ofPid samples pid).getLast?

theorem ofPid_ne_nil {samples : List SystemSample} {pid : UInt32} :
    (ofPid samples pid).head? ≠ none ↔ pid ∈ firstSeen samples := by
  rw [mem_firstSeen, Ne, List.head?_eq_none_iff, ofPid, List.filter_eq_nil_iff]
  simp

theorem Thinned.pids {kept samples : List SystemSample} (thinned : Thinned kept samples) :
    (firstSeen kept).Perm (firstSeen samples) := by
  refine (List.perm_ext_iff_of_nodup (firstSeen_nodup kept) (firstSeen_nodup samples)).mpr
    fun pid => ?_
  rw [← ofPid_ne_nil, thinned.first, ofPid_ne_nil]

theorem Thinned.totals {kept samples : List SystemSample} (thinned : Thinned kept samples)
    (tck : ℚ) : (rollUp tck kept).totals = (rollUp tck samples).totals := by
  simp only [rollUp_totals, thinned.first, thinned.last]
  exact thinned.pids.foldl_eq' (fun _ _ _ _ _ => Totals.process_comm _ _ _ _ _) _

theorem Thinned.windowMs {kept samples : List SystemSample} (thinned : Thinned kept samples) :
    windowMs kept = System.windowMs samples := by
  simp only [System.windowMs, thinned.first, thinned.last]
  exact (thinned.pids.map _).foldl_op_eq

theorem Thinned.exact {kept samples : List SystemSample} (thinned : Thinned kept samples)
    (tck : ℚ) : exactTotals tck kept = exactTotals tck samples := by
  rw [exactTotals, exactTotals, thinned.totals, thinned.windowMs]

theorem Thinned.isEmpty {kept samples : List SystemSample} (thinned : Thinned kept samples) :
    kept.isEmpty = samples.isEmpty := by
  have seen (list : List SystemSample) : list = [] ↔ firstSeen list = [] := by
    constructor
    · rintro rfl
      rfl
    · intro none
      refine List.eq_nil_iff_forall_not_mem.mpr fun s member => ?_
      have pid := mem_firstSeen.mpr ⟨s, member, rfl⟩
      rw [none] at pid
      cases pid
  rw [Bool.eq_iff_iff, List.isEmpty_iff, List.isEmpty_iff, seen, seen, ← List.length_eq_zero_iff,
    thinned.pids.length_eq, List.length_eq_zero_iff]

/-- Any samples at all are rolled up, and their totals, rounded or exact, do not depend on how
often was sampled in between. -/
theorem aggregate_thinned (tck : ℚ) {kept samples : List SystemSample}
    (thinned : Thinned kept samples) :
    (samples = [] ∧ aggregate tck kept = none ∧ aggregate tck samples = none) ∨
      ∃ thin full, aggregate tck kept = some thin ∧ aggregate tck samples = some full ∧
        thin.cpuSecondsTotal = full.cpuSecondsTotal ∧
        thin.ctxSwitchesTotal = full.ctxSwitchesTotal ∧ thin.windowS = full.windowS ∧
        thin.cpuPctMean = full.cpuPctMean ∧
        exactTotals tck kept = exactTotals tck samples := by
  have same := thinned.totals tck
  simp only [Rollup.totals, Totals.mk.injEq] at same
  obtain ⟨ctx, cpu, span⟩ := same
  rw [aggregate, aggregate, thinned.isEmpty]
  split
  case isTrue empty => exact .inl ⟨List.isEmpty_iff.mp empty, rfl, rfl⟩
  case isFalse =>
    refine .inr ⟨_, _, rfl, rfl, ?_⟩
    simp only [ctx, cpu, span, thinned.exact tck, and_self]

/-- A process with so many CPU ticks and context switches at a time. -/
def workSample (pid : UInt32) (elapsedMs : Nat) (ticks switches : UInt64) : SystemSample where
  rssKib := 1000
  pssKib := 0
  threads := 1
  utimeTicks := ticks
  stimeTicks := 0
  voluntaryCtxt := switches
  nonvoluntaryCtxt := 0
  readBytes := 0
  writeBytes := 0
  threadTicks := []
  elapsedMs := elapsedMs
  pid := pid
  hostBusyTicks := 0
  hostTotalTicks := 0

/-- Two processes, sampled in turn; the second one exits before the end. -/
def interleavedSamples : List SystemSample :=
  [workSample 1 0 0 5, workSample 2 0 10 0, workSample 1 500 80 9, workSample 2 500 30 40,
    workSample 2 700 35 41, workSample 1 1000 100 12]

theorem aggregate_thinned_interleaved :
    ∃ thin full,
      aggregate 100 (interleavedSamples.eraseIdx 2 |>.eraseIdx 2) = some thin ∧
      aggregate 100 interleavedSamples = some full ∧
      thin.cpuSecondsTotal = full.cpuSecondsTotal ∧
      thin.ctxSwitchesTotal = full.ctxSwitchesTotal ∧ thin.windowS = full.windowS ∧
      thin.cpuPctMean = full.cpuPctMean ∧
      exactTotals 100 (interleavedSamples.eraseIdx 2 |>.eraseIdx 2) =
        exactTotals 100 interleavedSamples := by
  have kept (pid : UInt32) :
      (ofPid (interleavedSamples.eraseIdx 2 |>.eraseIdx 2) pid).head? =
          (ofPid interleavedSamples pid).head? ∧
        (ofPid (interleavedSamples.eraseIdx 2 |>.eraseIdx 2) pid).getLast? =
          (ofPid interleavedSamples pid).getLast? := by
    by_cases one : 1 = pid <;> by_cases two : 2 = pid <;>
      simp [ofPid, interleavedSamples, workSample, one, two]
  have thinned : Thinned (interleavedSamples.eraseIdx 2 |>.eraseIdx 2) interleavedSamples :=
    { sublist := (List.eraseIdx_sublist _ _).trans (List.eraseIdx_sublist _ _)
      first := fun pid => (kept pid).1
      last := fun pid => (kept pid).2 }
  exact (aggregate_thinned 100 thinned).resolve_left fun none => by cases none.1

end Seshat.System
