import Seshat.Lib.Interpolation
import Seshat.Metrics.Stats
import Mathlib.Algebra.Order.BigOperators.Group.List
import Mathlib.Data.List.GetD
import Mathlib.Data.List.Pairwise
import Mathlib.Data.List.Sort

/-! Percentiles in order: the interpolated rank reads a line through the sorted samples. -/

namespace Seshat.Metrics
open Lib.Interpolation

theorem sortSamples_perm (xs : List ℚ) : (sortSamples xs).Perm xs :=
  List.mergeSort_perm xs _

theorem sortSamples_sorted (xs : List ℚ) : (sortSamples xs).SortedLE :=
  List.sortedLE_mergeSort

theorem sortSamples_ne_nil {xs : List ℚ} (some_sample : xs ≠ []) : sortSamples xs ≠ [] :=
  fun none => some_sample (List.Perm.nil_eq (none ▸ sortSamples_perm xs)).symm

/-- The sample at a rank; no rank lies behind the last one. -/
def ranked (sorted : List ℚ) (i : Nat) : ℚ := sorted.getD (min i (sorted.length - 1)) 0

/-- The rank of percentile `p` among `count` samples. -/
def percentileRank (count : Nat) (p : ℚ) : ℚ := max 0 (min p 100) / 100 * (count - 1)

theorem percentileRank_mono {count : Nat} (some_sample : 1 ≤ count) {p q : ℚ} (before : p ≤ q) :
    percentileRank count p ≤ percentileRank count q := by
  have last : (0 : ℚ) ≤ count - 1 := sub_nonneg.mpr (Nat.one_le_cast.mpr some_sample)
  unfold percentileRank
  gcongr

theorem percentileRank_nonneg {count : Nat} (some_sample : 1 ≤ count) (p : ℚ) :
    0 ≤ percentileRank count p := by
  have last : (0 : ℚ) ≤ count - 1 := sub_nonneg.mpr (Nat.one_le_cast.mpr some_sample)
  unfold percentileRank
  positivity

theorem percentileRank_le {count : Nat} (some_sample : 1 ≤ count) (p : ℚ) :
    percentileRank count p ≤ (count - 1 : Nat) := by
  have last : (0 : ℚ) ≤ count - 1 := sub_nonneg.mpr (Nat.one_le_cast.mpr some_sample)
  have part : max 0 (min p 100) / 100 ≤ 1 := by
    rw [div_le_one (by norm_num)]
    exact max_le (by norm_num) (min_le_right p 100)
  rw [percentileRank, Nat.cast_sub some_sample, Nat.cast_one]
  exact mul_le_of_le_one_left last part

section Sorted

variable {sorted : List ℚ}

theorem ranked_inside {i : Nat} (inside : i < sorted.length) : ranked sorted i = sorted.getD i 0 := by
  rw [ranked, Nat.min_eq_left (by omega)]

theorem ranked_first (some_sample : sorted ≠ []) : ranked sorted 0 = sorted.headD 0 := by
  cases sorted with
  | nil => exact absurd rfl some_sample
  | cons first rest => rfl

theorem ranked_last : ranked sorted (sorted.length - 1) = sorted.getLastD 0 := by
  rw [ranked, Nat.min_self, List.getLastD_eq_getLast?, List.getLast?_eq_getElem?,
    List.getD_eq_getElem?_getD]

theorem ranked_monotone (climbs : sorted.SortedLE) (some_sample : sorted ≠ []) :
    Monotone (ranked sorted) := by
  intro i j before
  have count := List.length_pos_of_ne_nil some_sample
  rw [ranked, ranked, List.getD_eq_getElem _ _ (by omega), List.getD_eq_getElem _ _ (by omega)]
  exact climbs.getElem_le_getElem_of_le (by omega)

/-- What `percentile` does with two samples or more. -/
def betweenRanks (sorted : List ℚ) (rank : ℚ) : ℚ :=
  if ⌊rank⌋₊ = ⌈rank⌉₊ then sorted.getD ⌊rank⌋₊ 0
  else
    sorted.getD ⌊rank⌋₊ 0 * (1 - (rank - ⌊rank⌋₊)) + sorted.getD ⌈rank⌉₊ 0 * (rank - ⌊rank⌋₊)

/-- Lower index, upper index and fraction read the line through the sorted samples. -/
theorem betweenRanks_interpolate {rank : ℚ} (start : 0 ≤ rank)
    (inside : ⌈rank⌉₊ < sorted.length) :
    betweenRanks sorted rank = interpolate (ranked sorted) rank := by
  have below := Nat.floor_le_ceil rank
  have next := Nat.ceil_le_floor_add_one rank
  have lower := ranked_inside (Nat.lt_of_le_of_lt below inside)
  unfold betweenRanks interpolate
  by_cases whole : ⌊rank⌋₊ = ⌈rank⌉₊
  · have exact_rank : rank = ⌊rank⌋₊ :=
      le_antisymm (whole ▸ Nat.le_ceil rank) (Nat.floor_le start)
    rw [if_pos whole, ← lower, sub_eq_zero.mpr exact_rank, zero_mul, add_zero]
  · have upper : ⌈rank⌉₊ = ⌊rank⌋₊ + 1 := by omega
    rw [if_neg whole, ← lower, ← ranked_inside inside, upper]
    ring

theorem percentile_interpolate (some_sample : sorted ≠ []) (p : ℚ) :
    percentile sorted p =
      some (interpolate (ranked sorted) (percentileRank sorted.length p)) := by
  have count := List.length_pos_of_ne_nil some_sample
  have top : ⌈percentileRank sorted.length p⌉₊ ≤ sorted.length - 1 :=
    Nat.ceil_le.mpr (percentileRank_le count p)
  have line := betweenRanks_interpolate (percentileRank_nonneg count p)
    (show ⌈percentileRank sorted.length p⌉₊ < sorted.length by omega)
  rcases sorted with _ | ⟨first, _ | ⟨second, rest⟩⟩
  · exact absurd rfl some_sample
  · have zero : percentileRank [first].length p = (0 : Nat) := by
      rw [percentileRank, List.length_singleton, Nat.cast_one, sub_self, mul_zero, Nat.cast_zero]
    rw [zero, interpolate_natCast]
    rfl
  · rw [← line, betweenRanks, apply_ite some]
    rfl

/-- The percentile of a sample that is not empty. -/
theorem percentile_value (some_sample : sorted ≠ []) (p : ℚ) :
    (percentile sorted p).getD 0 =
      interpolate (ranked sorted) (percentileRank sorted.length p) := by
  rw [percentile_interpolate some_sample, Option.getD_some]

theorem percentile_mono (climbs : sorted.SortedLE) (some_sample : sorted ≠ []) {p q : ℚ}
    (before : p ≤ q) : (percentile sorted p).getD 0 ≤ (percentile sorted q).getD 0 := by
  have count := List.length_pos_of_ne_nil some_sample
  rw [percentile_value some_sample, percentile_value some_sample]
  exact interpolate_mono (ranked_monotone climbs some_sample) (percentileRank_nonneg count p)
    (percentileRank_mono count before)

theorem head_le_percentile (climbs : sorted.SortedLE) (some_sample : sorted ≠ []) (p : ℚ) :
    sorted.headD 0 ≤ (percentile sorted p).getD 0 := by
  rw [percentile_value some_sample, ← ranked_first some_sample]
  exact first_le_interpolate (ranked_monotone climbs some_sample)
    (percentileRank_nonneg (List.length_pos_of_ne_nil some_sample) p)

theorem percentile_le_last (climbs : sorted.SortedLE) (some_sample : sorted ≠ []) (p : ℚ) :
    (percentile sorted p).getD 0 ≤ sorted.getLastD 0 := by
  have count := List.length_pos_of_ne_nil some_sample
  rw [percentile_value some_sample, ← ranked_last]
  exact interpolate_le_last (ranked_monotone climbs some_sample) (percentileRank_nonneg count p)
    (percentileRank_le count p)

theorem headD_least (climbs : sorted.SortedLE) (some_sample : sorted ≠ []) :
    IsLeast {x | x ∈ sorted} (sorted.headD 0) := by
  cases sorted with
  | nil => exact absurd rfl some_sample
  | cons first rest =>
    refine ⟨List.mem_cons_self, fun x member => ?_⟩
    rcases List.mem_cons.mp member with rfl | later
    · exact le_rfl
    · exact List.rel_of_pairwise_cons climbs.pairwise later

theorem getLastD_greatest (climbs : sorted.SortedLE) (some_sample : sorted ≠ []) :
    IsGreatest {x | x ∈ sorted} (sorted.getLastD 0) := by
  have last : sorted.getLastD 0 = sorted.getLast some_sample := by
    rw [List.getLastD_eq_getLast?, List.getLast?_eq_some_getLast some_sample, Option.getD_some]
  rw [last]
  exact ⟨List.getLast_mem some_sample, fun x member => climbs.pairwise.rel_getLast member⟩

end Sorted

section Mean

variable {xs : List ℚ} {bound : ℚ}

theorem mean_eq (some_sample : xs ≠ []) : mean xs = xs.sum / xs.length :=
  if_neg (by rwa [List.isEmpty_iff])

theorem samples_pos (some_sample : xs ≠ []) : (0 : ℚ) < xs.length :=
  Nat.cast_pos.mpr (List.length_pos_of_ne_nil some_sample)

theorem le_mean (some_sample : xs ≠ []) (below : ∀ x ∈ xs, bound ≤ x) : bound ≤ mean xs := by
  have total := List.card_nsmul_le_sum xs bound below
  rw [nsmul_eq_mul] at total
  rw [mean_eq some_sample, le_div_iff₀ (samples_pos some_sample), mul_comm]
  exact total

theorem mean_le (some_sample : xs ≠ []) (above : ∀ x ∈ xs, x ≤ bound) : mean xs ≤ bound := by
  have total := List.sum_le_card_nsmul xs bound above
  rw [nsmul_eq_mul] at total
  rw [mean_eq some_sample, div_le_iff₀ (samples_pos some_sample), mul_comm]
  exact total

theorem mean_const (some_sample : xs ≠ []) (all : ∀ x ∈ xs, x = bound) : mean xs = bound :=
  le_antisymm (mean_le some_sample fun x member => (all x member).le)
    (le_mean some_sample fun x member => (all x member).ge)

theorem mean_zero (all : ∀ x ∈ xs, x = 0) : mean xs = 0 := by
  cases xs with
  | nil => rfl
  | cons x rest => exact mean_const (List.cons_ne_nil x rest) all

theorem mean_nonneg (above : ∀ x ∈ xs, 0 ≤ x) : 0 ≤ mean xs := by
  cases xs with
  | nil => exact le_rfl
  | cons x rest => exact le_mean (List.cons_ne_nil x rest) above

theorem mean_pos (above : ∀ x ∈ xs, 0 ≤ x) {x : ℚ} (member : x ∈ xs) (positive : 0 < x) :
    0 < mean xs := by
  have some_sample := List.ne_nil_of_mem member
  rw [mean_eq some_sample]
  exact div_pos (positive.trans_le (List.single_le_sum above x member)) (samples_pos some_sample)

theorem mean_lt (below : ∀ x ∈ xs, x ≤ bound) {x : ℚ} (member : x ∈ xs) (less : x < bound) :
    mean xs < bound := by
  have some_sample := List.ne_nil_of_mem member
  rw [mean_eq some_sample, div_lt_iff₀ (samples_pos some_sample)]
  have total := List.sum_lt_sum (fun x => x) (fun _ => bound) below ⟨x, member, less⟩
  rw [List.map_id', List.map_const', List.sum_replicate, nsmul_eq_mul, mul_comm] at total
  exact total

end Mean

/-- The order in a summary of samples. -/
structure Ordered (xs : List ℚ) (s : Summary) : Prop where
  least : IsLeast {x | x ∈ xs} s.min
  greatest : IsGreatest {x | x ∈ xs} s.max
  /-- Every percentile is a number within the range of the samples. -/
  within : ∀ p, ∃ value, percentile (sortSamples xs) p = some value ∧ s.min ≤ value ∧ value ≤ s.max
  climbs : ∀ p q, p ≤ q → ∀ low ∈ percentile (sortSamples xs) p,
    ∀ high ∈ percentile (sortSamples xs) q, low ≤ high
  min_le_p50 : s.min ≤ s.p50
  p50_le_p90 : s.p50 ≤ s.p90
  p90_le_p95 : s.p90 ≤ s.p95
  p95_le_p99 : s.p95 ≤ s.p99
  p99_le_p999 : s.p99 ≤ s.p999
  p999_le_max : s.p999 ≤ s.max
  min_le_mean : s.min ≤ s.mean
  mean_le_max : s.mean ≤ s.max

theorem summarize_ordered (sqrt : ℚ → ℚ) {xs : List ℚ} (some_sample : xs ≠ []) :
    Ordered xs (summarize sqrt xs) := by
  have sorted := sortSamples_sorted xs
  have kept := sortSamples_ne_nil some_sample
  have same : {x | x ∈ sortSamples xs} = {x | x ∈ xs} :=
    Set.ext fun x => (sortSamples_perm xs).mem_iff
  have least := headD_least sorted kept
  have greatest := getLastD_greatest sorted kept
  have climbs {p q : ℚ} (before : p ≤ q) := percentile_mono sorted kept before
  have value (p : ℚ) : percentile (sortSamples xs) p =
      some ((percentile (sortSamples xs) p).getD 0) := by
    rw [percentile_interpolate kept, Option.getD_some]
  rw [same] at least greatest
  rw [summarize, if_neg (by rwa [List.isEmpty_iff])]
  exact
    { least
      greatest
      within := fun p =>
        ⟨_, value p, head_le_percentile sorted kept p, percentile_le_last sorted kept p⟩
      climbs := fun p q before low at_p high at_q => by
        have ordered := climbs before
        rwa [Option.mem_def.mp at_p, Option.mem_def.mp at_q] at ordered
      min_le_p50 := head_le_percentile sorted kept 50
      p50_le_p90 := climbs (by norm_num)
      p90_le_p95 := climbs (by norm_num)
      p95_le_p99 := climbs (by norm_num)
      p99_le_p999 := climbs (by norm_num)
      p999_le_max := percentile_le_last sorted kept _
      min_le_mean := le_mean some_sample least.2
      mean_le_max := mean_le some_sample greatest.2 }

theorem summarize_ordered_three : Ordered [3, 1, 2] (summarize id [3, 1, 2]) :=
  summarize_ordered id (List.cons_ne_nil _ _)

end Seshat.Metrics
