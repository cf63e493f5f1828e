import Seshat.Lib.Folds
import Seshat.Metrics.App
import Seshat.Metrics.Percentiles
import Mathlib.Algebra.BigOperators.Group.List.Basic
import Mathlib.Tactic.Linarith
import Mathlib.Tactic.Positivity

/-! `aggregate_run`: what the order of the connections changes, and what its counters are. -/

namespace Seshat.Metrics
open Lib.Folds Lib.Saturating

section Samples

variable {xs ys : List ℚ}

/-- Sorting forgets the order of arrival. -/
theorem sortSamples_congr (perm : xs.Perm ys) : sortSamples xs = sortSamples ys :=
  ((sortSamples_perm xs).trans (perm.trans (sortSamples_perm ys).symm)).eq_of_sortedLE
    (sortSamples_sorted xs) (sortSamples_sorted ys)

/-- The filter keeps the order of arrival, so the kept samples are the same up to it. -/
theorem removeOutliersIqr_congr (perm : xs.Perm ys) :
    (removeOutliersIqr xs).1.Perm (removeOutliersIqr ys).1 ∧
      (removeOutliersIqr xs).2 = (removeOutliersIqr ys).2 := by
  unfold removeOutliersIqr
  rw [perm.length_eq, sortSamples_congr perm]
  by_cases few : ys.length < 4
  · rw [if_pos few, if_pos few]
    exact ⟨perm, rfl⟩
  · rw [if_neg few, if_neg few]
    have kept := perm.filter fun x =>
      x ≥ (percentile (sortSamples ys) 25).getD 0 -
        1.5 * ((percentile (sortSamples ys) 75).getD 0 - (percentile (sortSamples ys) 25).getD 0) ∧
      x ≤ (percentile (sortSamples ys) 75).getD 0 +
        1.5 * ((percentile (sortSamples ys) 75).getD 0 - (percentile (sortSamples ys) 25).getD 0)
    exact ⟨kept, congrArg (ys.length - ·) kept.length_eq⟩

theorem mean_congr (perm : xs.Perm ys) : mean xs = mean ys := by
  rw [mean, mean, perm.isEmpty_eq, perm.sum_eq, perm.length_eq]

theorem stddev_congr (sqrt : ℚ → ℚ) (perm : xs.Perm ys) : stddev sqrt xs = stddev sqrt ys := by
  have squares := (perm.map fun x => (x - mean ys) * (x - mean ys)).sum_eq
  rw [stddev, stddev, mean_congr perm, perm.length_eq]
  dsimp only
  rw [squares]

theorem summarize_congr (sqrt : ℚ → ℚ) (perm : xs.Perm ys) : summarize sqrt xs = summarize sqrt ys := by
  rw [summarize, summarize, perm.isEmpty_eq, sortSamples_congr perm, mean_congr perm,
    perm.length_eq, ci95Halfwidth, ci95Halfwidth, stddev_congr sqrt perm, perm.length_eq,
    coefficientOfVariation, coefficientOfVariation, mean_congr perm, stddev_congr sqrt perm]

end Samples

/-- Totals that differ in the order of the pooled samples only. -/
structure RunTotals.Alike (s t : RunTotals) : Prop where
  allLat : s.allLat.Perm t.allLat
  bytes : s.bytes = t.bytes
  integ : s.integ = t.integ
  jitterWeighted : s.jitterWeighted = t.jitterWeighted
  jitterWeight : s.jitterWeight = t.jitterWeight
  integrityFailures : s.integrityFailures = t.integrityFailures
  boundaryViolations : s.boundaryViolations = t.boundaryViolations

namespace RunTotals

theorem Alike.refl (s : RunTotals) : Alike s s := ⟨.refl _, rfl, rfl, rfl, rfl, rfl, rfl⟩

theorem Alike.trans {s t u : RunTotals} (first : Alike s t) (second : Alike t u) : Alike s u where
  allLat := first.allLat.trans second.allLat
  bytes := first.bytes.trans second.bytes
  integ := first.integ.trans second.integ
  jitterWeighted := first.jitterWeighted.trans second.jitterWeighted
  jitterWeight := first.jitterWeight.trans second.jitterWeight
  integrityFailures := first.integrityFailures.trans second.integrityFailures
  boundaryViolations := first.boundaryViolations.trans second.boundaryViolations

theorem Alike.add {s t : RunTotals} (alike : Alike s t) (m : FlowMetrics) :
    Alike (s.add m) (t.add m) where
  allLat := alike.allLat.append_right _
  bytes := congrArg (· + _) alike.bytes
  integ := by rw [RunTotals.add, RunTotals.add, alike.integ]
  jitterWeighted := congrArg (· + _) alike.jitterWeighted
  jitterWeight := congrArg (· + _) alike.jitterWeight
  integrityFailures := congrArg (· + _) alike.integrityFailures
  boundaryViolations := congrArg (· + _) alike.boundaryViolations

/-- Two connections may change places. -/
theorem add_swap (s : RunTotals) (a b : FlowMetrics) : Alike ((s.add a).add b) ((s.add b).add a) where
  allLat := by
    simp only [RunTotals.add, List.append_assoc]
    exact List.perm_append_comm.append_left _
  bytes := word_right_comm _ _ _
  integ := by
    simp only [RunTotals.add, Integrity.mk.injEq]
    exact ⟨word_right_comm _ _ _, word_right_comm _ _ _, word_right_comm _ _ _,
      word_right_comm _ _ _, word_right_comm _ _ _⟩
  jitterWeighted := add_right_comm _ _ _
  jitterWeight := word_right_comm _ _ _
  integrityFailures := word_right_comm _ _ _
  boundaryViolations := word_right_comm _ _ _

end RunTotals

theorem aggregateRun_perm (sqrt : ℚ → ℚ) {metrics other : List FlowMetrics}
    (perm : other.Perm metrics) (durationS : ℚ) (removeOutliers : Bool) :
    aggregateRun sqrt other durationS removeOutliers =
      aggregateRun sqrt metrics durationS removeOutliers := by
  have alike := foldl_perm RunTotals.Alike.refl (fun _ _ _ => RunTotals.Alike.trans)
    (fun m s t alike => RunTotals.Alike.add alike m) (fun a b s => s.add_swap a b) perm
    (RunTotals.Alike.refl {})
  obtain ⟨kept, removed⟩ := removeOutliersIqr_congr alike.allLat
  unfold aggregateRun
  dsimp only
  rw [alike.bytes, alike.integ, alike.jitterWeighted, alike.jitterWeight, alike.integrityFailures,
    alike.boundaryViolations]
  cases removeOutliers with
  | true =>
    simp only [if_true]
    rw [summarize_congr sqrt kept, removed]
  | false =>
    simp only [Bool.false_eq_true, if_false]
    rw [summarize_congr sqrt alike.allLat]

/-- The counters of a run, and what each connection adds to them. -/
def counters : List ((FlowSummary → UInt64) × (FlowMetrics → UInt64)) :=
  [(fun s => s.integrity.received, fun m => (integrity m.seqs).received),
    (fun s => s.integrity.distinct, fun m => (integrity m.seqs).distinct),
    (fun s => s.integrity.lost, fun m => (integrity m.seqs).lost),
    (fun s => s.integrity.duplicate, fun m => (integrity m.seqs).duplicate),
    (fun s => s.integrity.reordered, fun m => (integrity m.seqs).reordered),
    (FlowSummary.integrityFailures, FlowMetrics.integrityFailures),
    (FlowSummary.boundaryViolations, FlowMetrics.boundaryViolations)]

theorem counters_wrap (sqrt : ℚ → ℚ) (metrics : List FlowMetrics) (durationS : ℚ)
    (removeOutliers : Bool) :
    ∀ counter ∈ counters, counter.1 (aggregateRun sqrt metrics durationS removeOutliers) =
      wrapSum counter.2 metrics := by
  have total (field : RunTotals → UInt64) (part : FlowMetrics → UInt64) (start : field {} = 0)
      (adds : ∀ s m, field s + part m = field (s.add m)) :
      field (metrics.foldl RunTotals.add {}) = wrapSum part metrics := by
    have along := @List.foldl_hom _ _ _ field _ (fun word m => word + part m) metrics {} adds
    rw [start] at along
    exact along.symm
  simp only [counters, List.forall_mem_cons]
  exact ⟨total (fun t => t.integ.received) _ rfl fun _ _ => rfl,
    total (fun t => t.integ.distinct) _ rfl fun _ _ => rfl,
    total (fun t => t.integ.lost) _ rfl fun _ _ => rfl,
    total (fun t => t.integ.duplicate) _ rfl fun _ _ => rfl,
    total (fun t => t.integ.reordered) _ rfl fun _ _ => rfl,
    total RunTotals.integrityFailures _ rfl fun _ _ => rfl,
    total RunTotals.boundaryViolations _ rfl fun _ _ => rfl, List.forall_mem_nil _⟩

/-- The loss of a run, as `aggregate_run` guards its division. -/
def runLossPct (integ : Integrity) : ℚ :=
  if integ.distinct + integ.lost > 0 then lossPct integ else 0

/-- It is a percentage unless the sum in its denominator has wrapped past zero. -/
theorem runLossPct_range (integ : Integrity) :
    0 ≤ runLossPct integ ∧ runLossPct integ ≤ 100 ↔
      integ.distinct.toNat + integ.lost.toNat ≤ top + 1 := by
  have first := integ.distinct.toNat_lt
  have second := integ.lost.toNat_lt
  have wrapped := UInt64.toNat_add integ.distinct integ.lost
  unfold runLossPct
  by_cases some : integ.distinct + integ.lost > 0
  · have positive : 0 < (integ.distinct + integ.lost).toNat := UInt64.lt_iff_toNat_lt.mp some
    have divisor : (0 : ℚ) < (integ.distinct + integ.lost).toNat := Nat.cast_pos.mpr positive
    have part : lossPct integ ≤ 100 ↔ integ.lost.toNat ≤ (integ.distinct + integ.lost).toNat := by
      rw [lossPct, ← @Nat.cast_le ℚ, ← div_le_one divisor]
      constructor
      · intro below
        linarith only [below]
      · intro below
        linarith only [below]
    have start : 0 ≤ lossPct integ := by
      unfold lossPct
      positivity
    rw [if_pos some, and_iff_right start, part, wrapped]
    rw [wrapped] at positive
    unfold top
    omega
  · have none : (integ.distinct + integ.lost).toNat = 0 :=
      Nat.eq_zero_of_not_pos fun positive => some (UInt64.lt_iff_toNat_lt.mpr positive)
    rw [if_neg some]
    rw [wrapped] at none
    refine iff_of_true ⟨le_rfl, by norm_num⟩ ?_
    unfold top
    omega

/-- What the summary of a run promises about its connections. -/
structure Aggregated (sqrt : ℚ → ℚ) (metrics : List FlowMetrics) (durationS : ℚ)
    (removeOutliers : Bool) : Prop where
  orderFree : ∀ other, other.Perm metrics →
    aggregateRun sqrt other durationS removeOutliers =
      aggregateRun sqrt metrics durationS removeOutliers
  summed : ∀ counter ∈ counters,
    (counter.1 (aggregateRun sqrt metrics durationS removeOutliers)).toNat =
      exactSum counter.2 metrics
  loss : 0 ≤ (aggregateRun sqrt metrics durationS removeOutliers).lossPct ∧
    (aggregateRun sqrt metrics durationS removeOutliers).lossPct ≤ 100

/-- No counter of a run leaves its word, nor does the sum behind the loss. -/
structure CountersFit (metrics : List FlowMetrics) : Prop where
  each : ∀ counter ∈ counters, exactSum counter.2 metrics ≤ top
  both : exactSum (fun m => (integrity m.seqs).distinct) metrics +
    exactSum (fun m => (integrity m.seqs).lost) metrics ≤ top + 1

theorem aggregateRun_sound_iff (sqrt : ℚ → ℚ) (metrics : List FlowMetrics) (durationS : ℚ)
    (removeOutliers : Bool) :
    Aggregated sqrt metrics durationS removeOutliers ↔ CountersFit metrics := by
  have wrapped := counters_wrap sqrt metrics durationS removeOutliers
  have exact_iff : (∀ counter ∈ counters,
      (counter.1 (aggregateRun sqrt metrics durationS removeOutliers)).toNat =
        exactSum counter.2 metrics) ↔
      ∀ counter ∈ counters, exactSum counter.2 metrics ≤ top :=
    forall_congr' fun counter => forall_congr' fun member => by
      rw [wrapped counter member, wrapSum_exact_iff]
  have range := runLossPct_range (aggregateRun sqrt metrics durationS removeOutliers).integrity
  have denominator (summed : ∀ counter ∈ counters,
      (counter.1 (aggregateRun sqrt metrics durationS removeOutliers)).toNat =
        exactSum counter.2 metrics) :
      (aggregateRun sqrt metrics durationS removeOutliers).integrity.distinct.toNat +
          (aggregateRun sqrt metrics durationS removeOutliers).integrity.lost.toNat =
        exactSum (fun m => (integrity m.seqs).distinct) metrics +
          exactSum (fun m => (integrity m.seqs).lost) metrics :=
    congrArg₂ (· + ·) (summed _ (List.mem_cons_of_mem _ List.mem_cons_self))
      (summed _ (List.mem_cons_of_mem _ (List.mem_cons_of_mem _ List.mem_cons_self)))
  constructor
  · intro sound
    refine ⟨exact_iff.mp sound.summed, ?_⟩
    rw [← denominator sound.summed]
    exact range.mp sound.loss
  · intro fit
    have summed := exact_iff.mpr fit.each
    refine ⟨fun other perm => aggregateRun_perm sqrt perm durationS removeOutliers, summed,
      range.mpr ?_⟩
    rw [denominator summed]
    exact fit.both

/-- A connection whose sequence numbers jump to the top of the word, beside a clean one. -/
def jumpingRun : List FlowMetrics :=
  [{ seqs := [0, 0xfffffffffffffffe], latenciesUs := [1, 1] },
    { seqs := [5, 6], latenciesUs := [1, 1] }]

/-- Every counter fits its word, distinct and lost together wrap to 1, and the loss of the run is
far above 100 %. -/
theorem jumpingRun_unsound :
    (∀ counter ∈ counters, exactSum counter.2 jumpingRun ≤ top) ∧
      (aggregateRun id jumpingRun 1 false).lossPct = 1844674407370955161300 ∧
      ¬Aggregated id jumpingRun 1 false := by
  have loss : (aggregateRun id jumpingRun 1 false).lossPct = 1844674407370955161300 := by
    decide +kernel
  refine ⟨by decide +kernel, loss, fun sound => ?_⟩
  have range := sound.loss.2
  rw [loss] at range
  norm_num at range

end Seshat.Metrics
