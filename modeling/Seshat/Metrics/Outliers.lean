import Seshat.Metrics.Percentiles
import Mathlib.Tactic.Common

/-! Outlier removal: Tukey's fences lie around the quartiles, and a sample lies between them. -/

namespace Seshat.Metrics
open Lib.Interpolation

/-- What outlier removal may do to samples. -/
structure Conservative (xs : List ℚ) (result : List ℚ × Nat) : Prop where
  subsequence : result.1.Sublist xs
  counted : result.1.length + result.2 = xs.length
  /-- No sample between the first and the third quartile is lost. -/
  middle : ∀ q1 ∈ percentile (sortSamples xs) 25, ∀ q3 ∈ percentile (sortSamples xs) 75,
    (xs.filter fun x => q1 ≤ x ∧ x ≤ q3).Sublist result.1
  nonempty : xs ≠ [] → result.1 ≠ []

theorem quartiles_apart {count : Nat} (four : 4 ≤ count) :
    ⌈percentileRank count 25⌉₊ ≤ ⌊percentileRank count 75⌋₊ := by
  have start := percentileRank_nonneg (show 1 ≤ count by omega) 25
  have samples : (4 : ℚ) ≤ count := by exact_mod_cast four
  have apart : percentileRank count 25 + 1 ≤ percentileRank count 75 := by
    unfold percentileRank
    norm_num
    linarith only [samples]
  exact Nat.le_floor ((Nat.ceil_lt_add_one start).le.trans apart)

/-- With four samples or more, one lies between the quartiles. -/
theorem sample_between {sorted : List ℚ} (climbs : sorted.SortedLE) (four : 4 ≤ sorted.length) :
    ∃ x ∈ sorted, (percentile sorted 25).getD 0 ≤ x ∧ x ≤ (percentile sorted 75).getD 0 := by
  have some_sample : sorted ≠ [] := List.ne_nil_of_length_pos (by omega)
  have ranks := ranked_monotone climbs some_sample
  have start (p : ℚ) := percentileRank_nonneg (show 1 ≤ sorted.length by omega) p
  refine ⟨ranked sorted ⌈percentileRank sorted.length 25⌉₊, ?_, ?_, ?_⟩
  · rw [ranked, List.getD_eq_getElem _ _ (by omega)]
    exact List.getElem_mem _
  · rw [percentile_value some_sample]
    exact interpolate_le_last ranks (start 25) (Nat.le_ceil _)
  · rw [percentile_value some_sample]
    exact (ranks (quartiles_apart four)).trans (le_interpolate ranks (start 75))

/-- The fences lie around the quartiles. -/
theorem middle_kept {xs : List ℚ} (many : ¬xs.length < 4) :
    (xs.filter fun x => (percentile (sortSamples xs) 25).getD 0 ≤ x ∧
      x ≤ (percentile (sortSamples xs) 75).getD 0).Sublist (removeOutliersIqr xs).1 := by
  have count : (sortSamples xs).length = xs.length := (sortSamples_perm xs).length_eq
  have some_sample : sortSamples xs ≠ [] := List.ne_nil_of_length_pos (by omega)
  have range := percentile_mono (sortSamples_sorted xs) some_sample (show (25 : ℚ) ≤ 75 by norm_num)
  rw [removeOutliersIqr, if_neg many]
  refine List.monotone_filter_right xs fun x between => ?_
  rw [decide_eq_true_eq] at between ⊢
  constructor <;> linarith only [range, between.1, between.2]

theorem removeOutliersIqr_conservative (xs : List ℚ) : Conservative xs (removeOutliersIqr xs) := by
  by_cases few : xs.length < 4
  · rw [removeOutliersIqr, if_pos few]
    exact ⟨List.Sublist.refl xs, rfl, fun _ _ _ _ => List.filter_sublist, id⟩
  · have middle := middle_kept few
    refine ⟨?_, ?_, ?_, fun _ none => ?_⟩
    · rw [removeOutliersIqr, if_neg few]
      exact List.filter_sublist
    · rw [removeOutliersIqr, if_neg few]
      exact Nat.add_sub_cancel' (List.length_filter_le _ _)
    · intro q1 first q3 third
      rwa [Option.mem_def.mp first, Option.mem_def.mp third] at middle
    · have count : (sortSamples xs).length = xs.length := (sortSamples_perm xs).length_eq
      obtain ⟨x, member, between⟩ := sample_between (sortSamples_sorted xs) (by omega)
      have kept := middle.subset (List.mem_filter.mpr
        ⟨(sortSamples_perm xs).mem_iff.mp member, decide_eq_true between⟩)
      rw [none] at kept
      cases kept

end Seshat.Metrics
