import Seshat.Metrics.Percentiles
import Mathlib.Tactic.Common

/-! Means of means, where some of the inner ones have no sample. -/

namespace Seshat.Metrics

/-- The mean of some samples, if there are any. -/
def meanOf (samples : List ℚ) : Option ℚ := if samples.isEmpty then none else some (mean samples)

/-- Every list counts, an empty one as 0. -/
def meanOfAll (samples : List (List ℚ)) : ℚ := mean (samples.map mean)

/-- Only the lists with a sample count. -/
def meanOfSome (samples : List (List ℚ)) : ℚ := mean (samples.filterMap meanOf)

theorem meanOf_eq_some {xs : List ℚ} {m : ℚ} : meanOf xs = some m ↔ xs ≠ [] ∧ mean xs = m := by
  rw [meanOf]
  cases xs with
  | nil => exact iff_of_false (by simp) fun some => some.1 rfl
  | cons x rest => exact Option.some_inj.trans (iff_and_self.mpr fun _ => List.cons_ne_nil x rest)

theorem meanOf_some {xs : List ℚ} (some_sample : xs ≠ []) : meanOf xs = some (mean xs) :=
  meanOf_eq_some.mpr ⟨some_sample, rfl⟩

theorem meanOf_single (x : ℚ) : meanOf [x] = some x :=
  meanOf_eq_some.mpr ⟨List.cons_ne_nil x [], mean_const (List.cons_ne_nil x []) (by simp)⟩

variable {samples : List (List ℚ)}

theorem meanOfAll_some (each : ∀ xs ∈ samples, xs ≠ []) :
    meanOfAll samples = meanOfSome samples := by
  rw [meanOfAll, meanOfSome, ← List.filterMap_eq_map]
  congr 1
  apply List.filterMap_congr
  intro xs member
  exact (meanOf_some (each xs member)).symm

theorem meanOfAll_none (none : ∀ xs ∈ samples, xs = []) :
    meanOfAll samples = meanOfSome samples := by
  have empty : samples.filterMap meanOf = [] :=
    List.filterMap_eq_nil_iff.mpr fun xs member => by rw [none xs member]; rfl
  have zero : ∀ m ∈ samples.map mean, m = 0 :=
    List.forall_mem_map.mpr fun xs member => by rw [none xs member]; rfl
  rw [meanOfAll, meanOfSome, empty, mean_zero zero]
  rfl

theorem meanOfAll_zero (zero : ∀ xs ∈ samples, ∀ x ∈ xs, x = 0) : meanOfAll samples = 0 :=
  mean_zero (List.forall_mem_map.mpr fun xs member => mean_zero (zero xs member))

theorem mem_means {m : ℚ} :
    m ∈ samples.filterMap meanOf ↔ ∃ xs ∈ samples, xs ≠ [] ∧ mean xs = m := by
  rw [List.mem_filterMap]
  exact exists_congr fun xs => and_congr_right fun _ => meanOf_eq_some

theorem meanOfSome_pos (above : ∀ xs ∈ samples, ∀ x ∈ xs, 0 ≤ x) {xs : List ℚ}
    (in_samples : xs ∈ samples) {x : ℚ} (member : x ∈ xs) (positive : 0 < x) :
    0 < meanOfSome samples := by
  have some_sample := List.ne_nil_of_mem member
  have in_means : mean xs ∈ samples.filterMap meanOf :=
    mem_means.mpr ⟨xs, in_samples, some_sample, rfl⟩
  refine mean_pos ?_ in_means (mean_pos (above xs in_samples) member positive)
  intro m of_samples
  obtain ⟨ys, in_ys, -, rfl⟩ := mem_means.mp of_samples
  exact mean_nonneg (above ys in_ys)

/-- If all samples are the same, only a list without one can pull the mean down. -/
theorem meanOfAll_same {level : ℚ} (positive : 0 < level)
    (all : ∀ xs ∈ samples, ∀ x ∈ xs, x = level) (same : meanOfAll samples = meanOfSome samples)
    {xs : List ℚ} (in_samples : xs ∈ samples) (some_sample : xs ≠ []) :
    ∀ ys ∈ samples, ys ≠ [] := by
  rintro ys in_ys rfl
  have full : meanOfSome samples = level := by
    have in_means : mean xs ∈ samples.filterMap meanOf :=
      mem_means.mpr ⟨xs, in_samples, some_sample, rfl⟩
    apply mean_const (List.ne_nil_of_mem in_means)
    intro m of_samples
    obtain ⟨zs, in_zs, nonempty, rfl⟩ := mem_means.mp of_samples
    exact mean_const nonempty (all zs in_zs)
  have less : meanOfAll samples < level := by
    have empty : mean [] < level := positive
    refine mean_lt (List.forall_mem_map.mpr ?_) (List.mem_map_of_mem in_ys) empty
    intro zs in_zs
    cases zs with
    | nil => exact positive.le
    | cons z rest => exact (mean_const (List.cons_ne_nil z rest) (all _ in_zs)).le
  rw [same, full] at less
  exact less.false

end Seshat.Metrics
