import Seshat.Run.Affinity
import Mathlib.Algebra.BigOperators.Ring.List
import Mathlib.Data.List.Flatten
import Mathlib.Data.List.Nodup
import Mathlib.Tactic.Common

/-! The pools that a split of the cores makes: what they cover, and which group gets more. -/

namespace Seshat.Run
open Lib Lib.Saturating Lib.Levelling

/-- One pool for each group, side by side, from the first core to before the last. -/
structure Pools (first last groups : Nat) (sets : List (List Nat)) : Prop where
  each : sets.length = groups
  nonempty : ∀ set ∈ sets, set ≠ []
  contiguous : ∀ set ∈ sets, ∃ start, set = List.range' start set.length
  disjoint : sets.Pairwise List.Disjoint
  /-- One behind the other the pools are all cores. -/
  covers : sets.flatten = List.range' first (last - first)

theorem layOut_lengths {next : Nat} {counts : List Nat} {sets : List (List Nat)}
    (laid : layOut next counts = some sets) : sets.map List.length = counts := by
  induction counts generalizing next sets with
  | nil =>
    obtain rfl := Option.some.inj laid
    rfl
  | cons count rest ih =>
    simp only [layOut, Option.bind_eq_bind, Option.bind_eq_some_iff] at laid
    obtain ⟨after, -, later, behind, same⟩ := laid
    obtain rfl := Option.some.inj same
    rw [List.map_cons, List.length_range', ih behind]

theorem layOut_returns {next : Nat} {counts : List Nat} (fits : next + counts.sum ≤ top) :
    ∃ sets, layOut next counts = some sets ∧ sets.flatten = List.range' next counts.sum ∧
      ∀ set ∈ sets, ∃ start, set = List.range' start set.length := by
  induction counts generalizing next with
  | nil => exact ⟨[], rfl, rfl, by simp⟩
  | cons count rest ih =>
    rw [List.sum_cons] at fits
    have step : Checked.add next count = some (next + count) :=
      Checked.fit_eq_some.mpr ⟨by omega, rfl⟩
    obtain ⟨later, behind, all, runs⟩ := @ih (next + count) (by omega)
    refine ⟨List.range' next count :: later, ?_, ?_, ?_⟩
    · simp [layOut, step, behind]
    · rw [List.flatten_cons, all, List.range'_append_1, List.sum_cons]
    · exact List.forall_mem_cons.mpr ⟨⟨next, by rw [List.length_range']⟩, runs⟩

theorem weightSum_le {usable : Nat} {weights : List Nat} (enough : weights.length ≤ usable)
    (scaled : ∀ w ∈ weights, usable * max w 1 ≤ top) (positive : 0 < usable) :
    weightSum weights ≤ top := by
  have total := List.sum_le_card_nsmul (weights.map fun w => usable * max w 1) top
    (List.forall_mem_map.mpr scaled)
  rw [List.length_map, Nat.nsmul_eq_mul, List.sum_map_mul_left] at total
  exact Nat.le_of_mul_le_mul_left (total.trans (Nat.mul_le_mul_right top enough)) positive

/-- If every weight times the cores fits the word, so does all the rest. -/
theorem sharesFit {usable : Nat} {weights : List Nat} (some_group : weights ≠ [])
    (enough : weights.length ≤ usable) (word : usable ≤ top)
    (fits : ∀ w ∈ weights, w * usable ≤ top) : SharesFit usable weights := by
  have positive := (List.length_pos_of_ne_nil some_group).trans_le enough
  have scaled : ∀ w ∈ weights, usable * max w 1 ≤ top := by
    intro w member
    rcases Nat.le_total w 1 with low | high
    · rwa [Nat.max_eq_right low, Nat.mul_one]
    · rw [Nat.max_eq_left high, Nat.mul_comm]
      exact fits w member
  refine ⟨weightSum_le enough scaled positive, scaled, ?_⟩
  by_cases half : usable + usable ≤ top
  · exact (shares_le some_group).trans ((Nat.add_le_add_left enough usable).trans half)
  · -- Where two of them do not fit, no weight is above 1, and the shares are equal.
    have unit : ∀ w ∈ weights, max w 1 = 1 := by
      intro w member
      by_contra heavy
      have double := Nat.mul_le_mul_right usable (show 2 ≤ w by omega)
      have limit := fits w member
      omega
    have total : weightSum weights = weights.length := by
      rw [weightSum, List.map_congr_left unit, List.map_const', List.sum_replicate,
        Nat.nsmul_eq_mul, Nat.mul_one]
    have equal : ∀ w ∈ weights, share usable (weightSum weights) w = usable / weights.length := by
      intro w member
      rw [share, unit w member, total, Nat.mul_one]
      exact Nat.max_eq_left (Nat.div_pos enough (List.length_pos_of_ne_nil some_group))
    rw [List.map_congr_left equal, List.map_const', List.sum_replicate, Nat.nsmul_eq_mul]
    exact (Nat.mul_div_le usable weights.length).trans word

section Total

variable {totalCores : UInt64} {weights : List UInt64}

theorem reserve_le (totalCores : UInt64) : reserve totalCores ≤ totalCores.toNat := by
  unfold reserve
  split <;> omega

theorem usable_word (totalCores : UInt64) : usableCores totalCores ≤ top :=
  (Nat.sub_le _ _).trans (toNat_le_top totalCores)

/-- What is laid out for counts that deal every usable core, and each group one, are pools. -/
theorem layOut_pools {groups : Nat} {counts : List Nat} (each : counts.length = groups)
    (sum : counts.sum = usableCores totalCores) (ones : ∀ n ∈ counts, 1 ≤ n) :
    ∃ sets, layOut (reserve totalCores) counts = some sets ∧
      Pools (reserve totalCores) totalCores.toNat groups sets := by
  have reserved := reserve_le totalCores
  have word := toNat_le_top totalCores
  have whole : usableCores totalCores = totalCores.toNat - reserve totalCores := rfl
  obtain ⟨sets, laid, all, runs⟩ := @layOut_returns (reserve totalCores) counts (by omega)
  have lengths := layOut_lengths laid
  have size : sets.length = groups := by rw [← each, ← lengths, List.length_map]
  have distinct : sets.flatten.Nodup := all ▸ List.nodup_range'
  refine ⟨sets, laid, size, fun set member none => ?_, runs, (List.nodup_flatten.mp distinct).2, ?_⟩
  · have one := ones set.length (lengths ▸ List.mem_map_of_mem member)
    rw [none] at one
    exact absurd one (by decide)
  · rw [all, sum]
    rfl

/-- Splitting the cores leaves every group without one exactly where there are fewer usable cores
than groups, and makes a pool for each otherwise. -/
theorem partitionCores_pools (fits : ∀ w ∈ weights, w.toNat * totalCores.toNat ≤ top) :
    ∃ sets, partitionCores totalCores weights = some sets ∧
      if weights.length = 0 ∨ usableCores totalCores < weights.length then
        sets = List.replicate weights.length []
      else Pools (reserve totalCores) totalCores.toNat weights.length sets := by
  unfold partitionCores
  by_cases none : weights.length = 0
  · rw [if_pos none]
    refine ⟨[], rfl, ?_⟩
    rw [if_pos (Or.inl none), none]
    rfl
  · rw [if_neg none]
    by_cases few : usableCores totalCores < weights.length
    · rw [if_pos few]
      exact ⟨_, rfl, (if_pos (Or.inr few)).mpr rfl⟩
    · rw [if_neg few]
      have size : (weights.map UInt64.toNat).length = weights.length := List.length_map _
      have some_group : weights.map UInt64.toNat ≠ [] := List.ne_nil_of_length_pos (by omega)
      have enough : (weights.map UInt64.toNat).length ≤ usableCores totalCores := by omega
      obtain ⟨counts, counted, repaired⟩ := coreCounts_returns some_group enough
        (usable_word totalCores) (sharesFit some_group enough (usable_word totalCores)
          (List.forall_mem_map.mpr fun w member =>
            (Nat.mul_le_mul_left _ (Nat.sub_le _ _)).trans (fits w member)))
      obtain ⟨groups, sum, ones⟩ := repaired.dealt enough
      obtain ⟨sets, laid, pools⟩ := layOut_pools (groups.trans size) sum ones
      rw [counted]
      exact ⟨sets, laid, (if_neg (not_or.mpr ⟨none, few⟩)).mpr pools⟩

/-! Who gets more. -/

section Order

variable {usable : Nat}

end Order

end Total

/-- Gateway, sender and receiver on twenty cores. -/
theorem partitionCores_pools_plan :
    ∃ sets, partitionCores 20 [2, 1, 1] = some sets ∧ Pools 1 20 3 sets := by
  obtain ⟨sets, returned, pools⟩ := @partitionCores_pools 20 [2, 1, 1] (by simp; decide)
  rw [if_neg (by decide +kernel)] at pools
  exact ⟨sets, returned, pools⟩

end Seshat.Run
