import Seshat.Lib.Binary64
import Mathlib.Algebra.Order.Ring.Pow

/-! Computations whose every operation is rounded to a double: how far their results are from
the exact ones, and which order is kept. -/

namespace Seshat.Lib.Rounding
open Lib.Binary64

/-! Order. -/

theorem roundHalfEven_mono {x y : ℚ} (nonneg : 0 ≤ x) (le : x ≤ y) :
    roundHalfEven x ≤ roundHalfEven y := by
  by_contra less
  refine lt_irrefl (roundHalfEven x) ((roundHalfEven_lt_iff nonneg _).mpr ?_)
  rcases (roundHalfEven_lt_iff (nonneg.trans le) _).mp (not_le.mp less) with below | ⟨tie, odd⟩
  · exact .inl (le.trans_lt below)
  · exact (le.trans_eq tie).lt_or_eq.imp_right fun same => ⟨same, odd⟩

/-- Rounding keeps the order. -/
theorem onGrid_mono {q r : ℚ} (nonneg : 0 ≤ q) (le : q ≤ r) : onGrid q ≤ onGrid r := by
  rcases nonneg.eq_or_lt with rfl | positive
  · rw [onGrid_zero]
    exact onGrid_nonneg r
  have log : Int.log 2 q ≤ Int.log 2 r := Int.log_mono_right positive le
  by_cases same : ulp q = ulp r
  · rw [onGrid, onGrid, same]
    have scaled := div_le_div_of_nonneg_right le (ulp_pos r).le
    have lower := div_nonneg nonneg (ulp_pos r).le
    exact mul_le_mul_of_nonneg_right (Nat.cast_le.mpr (roundHalfEven_mono lower scaled))
      (ulp_pos r).le
  · -- A power of two lies between the two numbers.
    have apart : max (Int.log 2 q - 52) (-1074) ≠ max (Int.log 2 r - 52) (-1074) :=
      fun equal => same (by rw [ulp, ulp, equal])
    have normal : -1022 ≤ Int.log 2 r := by omega
    have less : Int.log 2 q < Int.log 2 r := by omega
    have below : q < 2 ^ Int.log 2 r := (Int.lt_zpow_iff_log_lt (by decide) positive).mpr less
    have above : (2 : ℚ) ^ Int.log 2 r ≤ r :=
      Int.zpow_log_le_self (by decide : 1 < 2) (positive.trans_le le)
    exact (onGrid_le normal nonneg below).trans (le_onGrid normal above)

theorem onGrid_grid {m : ℕ} {e : ℤ} (short : m < 2 ^ 53) (least : -1074 ≤ e) :
    onGrid (m * 2 ^ e) = m * 2 ^ e := by
  have unit := two_zpow_pos e
  rcases Nat.eq_zero_or_pos m with rfl | positive
  · rw [Nat.cast_zero, zero_mul, onGrid_zero]
  have high : (m : ℚ) * 2 ^ e < 2 ^ (53 + e) := by
    rw [zpow_add₀ (by norm_num)]
    refine mul_lt_mul_of_pos_right ?_ unit
    exact_mod_cast short
  have value : (0 : ℚ) < m * 2 ^ e := mul_pos (Nat.cast_pos.mpr positive) unit
  have log : Int.log 2 ((m : ℚ) * 2 ^ e) < 53 + e :=
    (Int.lt_zpow_iff_log_lt (by decide) value).mp high
  obtain ⟨n, rest⟩ : ∃ n : ℕ, max (Int.log 2 ((m : ℚ) * 2 ^ e) - 52) (-1074) + n = e :=
    ⟨(e - max (Int.log 2 ((m : ℚ) * 2 ^ e) - 52) (-1074)).toNat, by omega⟩
  have whole : (m : ℚ) * 2 ^ e = (m * 2 ^ n : ℕ) * ulp (m * 2 ^ e) := by
    rw [ulp]
    nth_rewrite 1 [← rest]
    rw [zpow_add₀ (by norm_num), zpow_natCast]
    push_cast
    ring
  have scaled : (m : ℚ) * 2 ^ e / ulp (m * 2 ^ e) = (m * 2 ^ n : ℕ) :=
    (div_eq_iff (ulp_pos _).ne').mpr whole
  rw [onGrid, scaled, roundHalfEven_natCast, ← whole]

/-- What is rounded once stays as it is. -/
theorem onGrid_idem {q : ℚ} (nonneg : 0 ≤ q) : onGrid (onGrid q) = onGrid q := by
  rcases nonneg.eq_or_lt with rfl | positive
  · rw [onGrid_zero, onGrid_zero]
  have step := ulp_pos q
  have high : q ≤ (2 ^ 53 : ℕ) * ulp q := by
    have binade : q < 2 ^ (Int.log 2 q + 1) := Int.lt_zpow_succ_log_self (by decide : 1 < 2) q
    have exponent : Int.log 2 q + 1 ≤ 53 + max (Int.log 2 q - 52) (-1074) := by omega
    calc
      q ≤ 2 ^ (Int.log 2 q + 1) := binade.le
      _ ≤ 2 ^ (53 + max (Int.log 2 q - 52) (-1074)) := zpow_le_zpow_right₀ (by norm_num) exponent
      _ = (2 ^ 53 : ℕ) * ulp q := by
        rw [ulp, zpow_add₀ (by norm_num)]
        norm_num
  have bounded : roundHalfEven (q / ulp q) ≤ 2 ^ 53 :=
    roundHalfEven_le (scaled_nonneg nonneg) ((div_le_iff₀ step).mpr high)
  rcases bounded.eq_or_lt with full | short
  · -- The next power of two is on the coarser grid behind it as well.
    have coarser : onGrid q =
        (2 ^ 52 : ℕ) * (2 : ℚ) ^ (max (Int.log 2 q - 52) (-1074) + 1) := by
      rw [onGrid, full, ulp, zpow_add_one₀ (by norm_num)]
      push_cast
      ring
    rw [coarser]
    exact onGrid_grid (by norm_num) (by omega)
  · exact onGrid_grid short (le_max_right _ _)

/-! Numbers that are rounded without loss of precision. -/

/-- Nothing at all or at least a power of two. -/
def Above (k : ℤ) (x : ℚ) : Prop := x = 0 ∨ 2 ^ k ≤ x

namespace Above

variable {k : ℤ} {x y : ℚ}

theorem nonneg (above : Above k x) : 0 ≤ x := by
  rcases above with rfl | large
  · exact le_rfl
  · exact (two_zpow_pos k).le.trans large

theorem natCast (n : ℕ) : Above 0 (n : ℚ) := by
  rcases Nat.eq_zero_or_pos n with rfl | positive
  · exact .inl Nat.cast_zero
  · exact .inr (by exact_mod_cast positive)

theorem mono {j : ℤ} (le : j ≤ k) (above : Above k x) : Above j x :=
  above.imp_right fun large => (zpow_le_zpow_right₀ (by norm_num) le).trans large

theorem round (above : Above k x) (normal : -1022 ≤ k) : Above k (onGrid x) := by
  rcases above with rfl | large
  · exact .inl onGrid_zero
  · exact .inr (le_onGrid normal large)

theorem add (first : Above k x) (second : Above k y) : Above k (x + y) := by
  rcases first with rfl | large
  · rwa [zero_add]
  · exact .inr (large.trans (le_add_of_nonneg_right second.nonneg))

theorem mul (above : Above k x) (factor : 1 ≤ y) : Above k (x * y) := by
  rcases above with rfl | large
  · exact .inl (zero_mul y)
  · exact .inr (large.trans (le_mul_of_one_le_right ((two_zpow_pos k).le.trans large) factor))

theorem div {j : ℤ} (above : Above k x) (positive : 0 < y) (bound : y ≤ 2 ^ j) :
    Above (k - j) (x / y) := by
  rcases above with rfl | large
  · exact .inl (zero_div y)
  · refine .inr ?_
    rw [zpow_sub₀ (by norm_num)]
    exact div_le_div₀ ((two_zpow_pos k).le.trans large) large positive bound

end Above

/-! The error. -/

/-- What one rounding leaves of a number at least. -/
def kept : ℚ := 1 - 2 ^ (-53 : ℤ)

theorem kept_pos : 0 < kept := by
  rw [kept]
  norm_num

theorem kept_le_one : kept ≤ 1 := sub_le_self 1 (two_zpow_pos (-53)).le

theorem one_sub_le_kept_pow (n : ℕ) : 1 - n / 2 ^ 53 ≤ kept ^ n := by
  have bernoulli := one_add_mul_le_pow (a := -(2 : ℚ) ^ (-53 : ℤ)) (by norm_num) n
  have exponent : (2 : ℚ) ^ (-53 : ℤ) = 1 / 2 ^ 53 := by norm_num
  rw [kept, sub_eq_add_neg 1, div_eq_mul_one_div, ← exponent, sub_eq_add_neg, ← mul_neg]
  exact bernoulli

theorem onGrid_kept {x : ℚ} (above : Above (-1022) x) :
    x * kept ≤ onGrid x ∧ onGrid x * kept ≤ x := by
  rcases above with rfl | normal
  · rw [onGrid_zero, zero_mul]
    exact ⟨le_rfl, le_rfl⟩
  have positive : 0 < x := (two_zpow_pos _).trans_le normal
  have log : -1022 ≤ Int.log 2 x := (Int.zpow_le_iff_le_log (by decide) positive).mp normal
  have floor : (2 : ℚ) ^ Int.log 2 x ≤ x := Int.zpow_log_le_self (by decide : 1 < 2) positive
  have step : ulp x / 2 ≤ x * 2 ^ (-53 : ℤ) := by
    rw [ulp, max_eq_left (by omega), sub_eq_add_neg, zpow_add₀ (by norm_num),
      show (2 : ℚ) ^ (-52 : ℤ) = 2 ^ (-53 : ℤ) * 2 from zpow_add_one₀ (by norm_num) (-53)]
    linarith [mul_le_mul_of_nonneg_right floor (two_zpow_pos (-53)).le]
  obtain ⟨low, high⟩ := abs_le.mp ((onGrid_error positive.le).trans step)
  have small := two_zpow_pos (-53)
  constructor
  · rw [kept, mul_sub, mul_one]
    linarith
  · calc
      onGrid x * kept ≤ x * (1 + 2 ^ (-53 : ℤ)) * kept :=
        mul_le_mul_of_nonneg_right (by linarith) kept_pos.le
      _ = x * (1 - 2 ^ (-53 : ℤ) * 2 ^ (-53 : ℤ)) := by
        rw [kept]
        ring
      _ ≤ x := mul_le_of_le_one_right positive.le (by linarith [mul_pos small small])

/-- A number and what a computation of so many roundings makes of it. -/
structure Near (n : ℕ) (q x : ℚ) : Prop where
  low : q * kept ^ n ≤ x
  high : x * kept ^ n ≤ q

namespace Near

variable {m n : ℕ} {q r x y : ℚ}

theorem self (q : ℚ) : Near 0 q q := ⟨by simp, by simp⟩

theorem exact_nonneg (near : Near n q x) (nonneg : 0 ≤ x) : 0 ≤ q :=
  (mul_nonneg nonneg (pow_pos kept_pos n).le).trans near.high

theorem mono (le : n ≤ m) (nonneg : 0 ≤ x) (near : Near n q x) : Near m q x := by
  have shrinks : kept ^ m ≤ kept ^ n := pow_le_pow_of_le_one kept_pos.le kept_le_one le
  exact ⟨(mul_le_mul_of_nonneg_left shrinks (near.exact_nonneg nonneg)).trans near.low,
    (mul_le_mul_of_nonneg_left shrinks nonneg).trans near.high⟩

/-- One more rounding. -/
theorem round (near : Near n q x) (above : Above (-1022) x) : Near (n + 1) q (onGrid x) := by
  obtain ⟨low, high⟩ := onGrid_kept above
  have power := (pow_pos kept_pos n).le
  constructor
  · calc
      q * kept ^ (n + 1) = q * kept ^ n * kept := by ring
      _ ≤ x * kept := mul_le_mul_of_nonneg_right near.low kept_pos.le
      _ ≤ onGrid x := low
  · calc
      onGrid x * kept ^ (n + 1) = onGrid x * kept * kept ^ n := by ring
      _ ≤ x * kept ^ n := mul_le_mul_of_nonneg_right high power
      _ ≤ q := near.high

theorem natCast (n : ℕ) : Near 1 n (onGrid n) :=
  (self n).round ((Above.natCast n).mono (by decide))

theorem mul_right (near : Near n q x) {c : ℚ} (factor : 0 ≤ c) : Near n (q * c) (x * c) :=
  ⟨by linarith [mul_le_mul_of_nonneg_right near.low factor],
    by linarith [mul_le_mul_of_nonneg_right near.high factor]⟩

theorem div_right (near : Near n q x) {c : ℚ} (divisor : 0 ≤ c) : Near n (q / c) (x / c) := by
  rw [div_eq_mul_inv, div_eq_mul_inv]
  exact near.mul_right (inv_nonneg.mpr divisor)

theorem add (first : Near n q x) (second : Near n r y) : Near n (q + r) (x + y) :=
  ⟨by linarith [first.low, second.low], by linarith [first.high, second.high]⟩

theorem div (first : Near m q x) (second : Near n r y) (nonneg : 0 ≤ x) (positive : 0 < y) :
    Near (m + n) (q / r) (x / y) := by
  have power {k : ℕ} : 0 < kept ^ k := pow_pos kept_pos k
  have divisor : 0 < r := (mul_pos positive power).trans_le second.high
  constructor
  · rw [div_mul_eq_mul_div, div_le_div_iff₀ divisor positive]
    calc
      q * kept ^ (m + n) * y = q * kept ^ m * (y * kept ^ n) := by ring
      _ ≤ x * r := mul_le_mul first.low second.high (mul_pos positive power).le nonneg
  · rw [div_mul_eq_mul_div, div_le_div_iff₀ positive divisor]
    calc
      x * kept ^ (m + n) * r = x * kept ^ m * (r * kept ^ n) := by ring
      _ ≤ q * y := mul_le_mul first.high second.low (mul_pos divisor power).le
        (first.exact_nonneg nonneg)

/-- The order of the exact numbers is kept up to the roundings. -/
theorem le_up_to (first : Near m q x) (second : Near n r y) (le : q ≤ r) :
    x * kept ^ (m + n) ≤ y := by
  have power := (pow_pos kept_pos n).le
  calc
    x * kept ^ (m + n) = x * kept ^ m * kept ^ n := by ring
    _ ≤ r * kept ^ n := mul_le_mul_of_nonneg_right (first.high.trans le) power
    _ ≤ y := second.low

/-- With a margin it is kept. -/
theorem le_of_margin (first : Near m q x) (second : Near n r y)
    (margin : q ≤ r * kept ^ (m + n)) : x ≤ y := by
  have power := pow_pos kept_pos m
  refine le_of_mul_le_mul_right ?_ power
  calc
    x * kept ^ m ≤ q := first.high
    _ ≤ r * kept ^ n * kept ^ m := margin.trans_eq (by ring)
    _ ≤ y * kept ^ m := mul_le_mul_of_nonneg_right second.low power.le

end Near

/-! Sums. -/

section Sums

variable {α : Type*} (value exact : α → ℚ)

/-- The sum of rounded additions. -/
def roundedSum (list : List α) : ℚ := list.foldl (fun total a => onGrid (total + value a)) 0

theorem roundedSum_concat (list : List α) (a : α) :
    roundedSum value (list ++ [a]) = onGrid (roundedSum value list + value a) := by
  rw [roundedSum, List.foldl_concat, ← roundedSum]

variable {value exact} {list : List α}

theorem Above.sum {k : ℤ} (normal : -1022 ≤ k) (above : ∀ a ∈ list, Above k (value a)) :
    Above k (roundedSum value list) := by
  induction list using List.reverseRecOn with
  | nil => exact .inl rfl
  | append_singleton list a ih =>
    obtain ⟨front, last⟩ := List.forall_mem_append.mp above
    rw [roundedSum_concat]
    exact ((ih front).add (last a List.mem_cons_self)).round normal

/-- Each addition is one more rounding. -/
theorem Near.sum {n : ℕ} {k : ℤ} (normal : -1022 ≤ k) (above : ∀ a ∈ list, Above k (value a))
    (near : ∀ a ∈ list, Near n (exact a) (value a)) :
    Near (n + list.length) (list.map exact).sum (roundedSum value list) := by
  induction list using List.reverseRecOn with
  | nil => exact ⟨by simp [roundedSum], by simp [roundedSum]⟩
  | append_singleton list a ih =>
    obtain ⟨front, last⟩ := List.forall_mem_append.mp above
    obtain ⟨close, nearest⟩ := List.forall_mem_append.mp near
    have total := Above.sum normal front
    have here := last a List.mem_cons_self
    have next := (nearest a List.mem_cons_self).mono (Nat.le_add_right n list.length) here.nonneg
    rw [roundedSum_concat, List.map_append, List.sum_append, List.map_singleton,
      List.sum_singleton, List.length_append, List.length_singleton, ← Nat.add_assoc]
    exact ((ih front close).add next).round ((total.add here).mono normal)

theorem roundedSum_nonneg (list : List α) : 0 ≤ roundedSum value list := by
  rcases List.eq_nil_or_concat' list with rfl | ⟨front, last, rfl⟩
  · exact le_rfl
  · rw [roundedSum_concat]
    exact onGrid_nonneg _

theorem onGrid_roundedSum (nonneg : ∀ a ∈ list, 0 ≤ value a) :
    onGrid (roundedSum value list) = roundedSum value list := by
  rcases List.eq_nil_or_concat' list with rfl | ⟨front, last, rfl⟩
  · exact onGrid_zero
  · rw [roundedSum_concat]
    exact onGrid_idem (add_nonneg (roundedSum_nonneg front) (nonneg last (by simp)))

/-- A sum of doubles is not below any of them. -/
theorem le_roundedSum (nonneg : ∀ a ∈ list, 0 ≤ value a)
    (double : ∀ a ∈ list, onGrid (value a) = value a) :
    ∀ a ∈ list, value a ≤ roundedSum value list := by
  induction list using List.reverseRecOn with
  | nil => simp
  | append_singleton list last ih =>
    obtain ⟨front, back⟩ := List.forall_mem_append.mp nonneg
    obtain ⟨doubles, double⟩ := List.forall_mem_append.mp double
    have total : 0 ≤ roundedSum value list := roundedSum_nonneg list
    have here := back last List.mem_cons_self
    rw [roundedSum_concat]
    refine List.forall_mem_append.mpr ⟨fun a member => ?_, List.forall_mem_singleton.mpr ?_⟩
    · calc
        value a ≤ roundedSum value list := ih front doubles a member
        _ = onGrid (roundedSum value list) := (onGrid_roundedSum front).symm
        _ ≤ onGrid (roundedSum value list + value last) :=
          onGrid_mono total (le_add_of_nonneg_right here)
    · calc
        value last = onGrid (value last) := (double last List.mem_cons_self).symm
        _ ≤ onGrid (roundedSum value list + value last) :=
          onGrid_mono here (le_add_of_nonneg_left total)

end Sums

end Seshat.Lib.Rounding
