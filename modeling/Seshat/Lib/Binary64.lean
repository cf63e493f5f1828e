import Mathlib.Data.Int.Log
import Mathlib.Data.Rat.Floor
import Mathlib.Tactic.Linarith
import Mathlib.Tactic.Ring
import Mathlib.Tactic.FieldSimp
import Mathlib.Tactic.Positivity

/-! Doubles as the rationals they stand for: the rounding of an exact result to the nearest of
them, and which results stay below a bound. -/

namespace Seshat.Lib.Binary64

/-- The nearest integer to a rational that is not negative; ties go to the even one. -/
def roundHalfEven (q : ℚ) : Nat :=
  let low := ⌊q⌋.toNat
  let rest := q - low
  if rest < 1 / 2 then low else if 1 / 2 < rest then low + 1 else low + low % 2

theorem roundHalfEven_natCast (n : Nat) : roundHalfEven n = n := by simp [roundHalfEven]

/-- The distance between neighbouring doubles at a number that is not negative. -/
def ulp (q : ℚ) : ℚ := 2 ^ max (Int.log 2 q - 52) (-1074)

/-- The nearest multiple of that distance; ties go to the even one. -/
def onGrid (q : ℚ) : ℚ := roundHalfEven (q / ulp q) * ulp q

inductive F64 where
  | finite (q : ℚ)
  | infinite (negative : Bool)
  | nan
  deriving DecidableEq

/-- The double an exact result is rounded to. -/
def F64.round (q : ℚ) : F64 :=
  if 2 ^ 1024 ≤ onGrid |q| then .infinite (q < 0)
  else .finite (if q < 0 then -onGrid |q| else onGrid |q|)

/-! Integers. -/

section Integers

variable {x : ℚ}

theorem floor_rest (nonneg : 0 ≤ x) : ∃ low : ℕ, ∃ rest : ℚ, x = low + rest ∧ 0 ≤ rest ∧ rest < 1 ∧
    roundHalfEven x =
      if rest < 1 / 2 then low else if 1 / 2 < rest then low + 1 else low + low % 2 := by
  have floor : ((⌊x⌋.toNat : ℕ) : ℚ) = ⌊x⌋ := by
    exact_mod_cast Int.toNat_of_nonneg (Int.floor_nonneg.mpr nonneg)
  refine ⟨⌊x⌋.toNat, x - ⌊x⌋.toNat, by ring, ?_, ?_, rfl⟩
  · rw [floor]
    linarith [Int.floor_le x]
  · rw [floor]
    linarith [Int.lt_floor_add_one x]

/-- A rounded number is at most half away. -/
theorem roundHalfEven_error (nonneg : 0 ≤ x) : |(roundHalfEven x : ℚ) - x| ≤ 1 / 2 := by
  obtain ⟨low, rest, rfl, lower, upper, rounded⟩ := floor_rest nonneg
  rw [rounded, abs_le]
  split_ifs with below above
  · constructor <;> linarith
  · push_cast
    constructor <;> linarith
  · have half : rest = 1 / 2 := le_antisymm (not_lt.mp above) (not_lt.mp below)
    subst half
    rcases Nat.mod_two_eq_zero_or_one low with even | odd
    · rw [even]
      constructor <;> norm_num
    · rw [odd]
      push_cast
      constructor <;> linarith

/-- Which numbers are rounded to less than an integer; a tie goes up to an even one. -/
theorem roundHalfEven_lt_iff (nonneg : 0 ≤ x) (n : ℕ) :
    roundHalfEven x < n ↔ x < n - 1 / 2 ∨ x = n - 1 / 2 ∧ n % 2 = 1 := by
  obtain ⟨low, rest, rfl, lower, upper, rounded⟩ := floor_rest nonneg
  have before {m : ℕ} (less : m < n) : (m : ℚ) + 1 ≤ n := by exact_mod_cast less
  have behind {m : ℕ} (more : n ≤ m) : (n : ℚ) ≤ m := by exact_mod_cast more
  rw [rounded]
  split_ifs with below above
  · refine ⟨fun less => .inl ?_, fun bound => ?_⟩
    · linarith [before less]
    · by_contra more
      rcases bound with bound | ⟨bound, -⟩ <;> linarith [behind (not_lt.mp more)]
  · refine ⟨fun less => .inl ?_, fun bound => ?_⟩
    · have room := before less
      push_cast at room
      linarith
    · by_contra more
      have room := behind (not_lt.mp more)
      push_cast at room
      rcases bound with bound | ⟨bound, -⟩ <;> linarith
  · have half : rest = 1 / 2 := le_antisymm (not_lt.mp above) (not_lt.mp below)
    subst half
    have tie : (low : ℚ) + 1 / 2 = n - 1 / 2 ↔ low + 1 = n := by
      rw [← @Nat.cast_inj ℚ]
      push_cast
      constructor <;> intro same <;> linarith
    have under : (low : ℚ) + 1 / 2 < n - 1 / 2 ↔ low + 1 < n := by
      rw [← @Nat.cast_lt ℚ]
      push_cast
      constructor <;> intro less <;> linarith
    rw [tie, under]
    omega

theorem roundHalfEven_le (nonneg : 0 ≤ x) {n : ℕ} (below : x ≤ n) : roundHalfEven x ≤ n := by
  refine Nat.lt_succ_iff.mp ((roundHalfEven_lt_iff nonneg _).mpr (.inl ?_))
  push_cast
  linarith

theorem le_roundHalfEven {n : ℕ} (above : n ≤ x) : n ≤ roundHalfEven x := by
  refine not_lt.mp fun less => ?_
  have nonneg : 0 ≤ x := le_trans (Nat.cast_nonneg n) above
  rcases (roundHalfEven_lt_iff nonneg n).mp less with bound | ⟨bound, -⟩ <;> linarith

end Integers

/-! The grid. -/

theorem two_zpow_pos (k : ℤ) : (0 : ℚ) < 2 ^ k := zpow_pos (by norm_num) k

theorem ulp_pos (q : ℚ) : 0 < ulp q := two_zpow_pos _

/-- Up to the next power of two the distance stays as it is. -/
theorem ulp_of_binade {k : ℤ} (normal : -1022 ≤ k) {q : ℚ} (low : 2 ^ k ≤ q)
    (high : q < 2 ^ (k + 1)) : ulp q = 2 ^ (k - 52) := by
  have positive : 0 < q := lt_of_lt_of_le (two_zpow_pos k) low
  have above : k ≤ Int.log 2 q := (Int.zpow_le_iff_le_log (by decide) positive).mp low
  have below : Int.log 2 q < k + 1 := (Int.lt_zpow_iff_log_lt (by decide) positive).mp high
  rw [ulp, show Int.log 2 q = k by omega, max_eq_left (by omega)]

theorem onGrid_nonneg (q : ℚ) : 0 ≤ onGrid q := mul_nonneg (Nat.cast_nonneg _) (ulp_pos q).le

theorem onGrid_zero : onGrid 0 = 0 := by
  rw [onGrid, zero_div, ← Nat.cast_zero, roundHalfEven_natCast, Nat.cast_zero, zero_mul]

theorem scaled_nonneg {q : ℚ} (nonneg : 0 ≤ q) : 0 ≤ q / ulp q := div_nonneg nonneg (ulp_pos q).le

/-- Below a power of two nothing is rounded above it. -/
theorem onGrid_le {k : ℤ} (normal : -1022 ≤ k) {q : ℚ} (nonneg : 0 ≤ q) (high : q < 2 ^ k) :
    onGrid q ≤ 2 ^ k := by
  rcases nonneg.eq_or_lt with rfl | positive
  · rw [onGrid_zero]
    exact (two_zpow_pos k).le
  · have log : Int.log 2 q < k := (Int.lt_zpow_iff_log_lt (by decide) positive).mp high
    obtain ⟨n, room⟩ : ∃ n : ℕ, max (Int.log 2 q - 52) (-1074) + n = k :=
      ⟨(k - max (Int.log 2 q - 52) (-1074)).toNat, by omega⟩
    have whole : (2 : ℚ) ^ k = (2 ^ n : ℕ) * ulp q := by
      rw [ulp, ← room, zpow_add₀ (by norm_num), zpow_natCast, mul_comm]
      push_cast
      rfl
    have scaled : q / ulp q ≤ (2 ^ n : ℕ) := by
      rw [div_le_iff₀ (ulp_pos q), ← whole]
      exact high.le
    have rounded : (roundHalfEven (q / ulp q) : ℚ) ≤ (2 ^ n : ℕ) := by
      exact_mod_cast roundHalfEven_le (scaled_nonneg nonneg) scaled
    rw [whole]
    exact mul_le_mul_of_nonneg_right rounded (ulp_pos q).le

/-- From a power of two on nothing is rounded below it. -/
theorem le_onGrid {k : ℤ} (normal : -1022 ≤ k) {q : ℚ} (low : 2 ^ k ≤ q) : 2 ^ k ≤ onGrid q := by
  have positive : 0 < q := lt_of_lt_of_le (two_zpow_pos k) low
  have log : k ≤ Int.log 2 q := (Int.zpow_le_iff_le_log (by decide) positive).mp low
  have floor : (2 : ℚ) ^ Int.log 2 q ≤ q := by
    exact_mod_cast Int.zpow_log_le_self (by decide : 1 < 2) positive
  have whole : (2 : ℚ) ^ Int.log 2 q = (2 ^ 52 : ℕ) * ulp q := by
    rw [ulp, max_eq_left (by omega), zpow_sub₀ (by norm_num)]
    push_cast
    field_simp
  have scaled : ((2 ^ 52 : ℕ) : ℚ) ≤ q / ulp q := by
    rw [le_div_iff₀ (ulp_pos q), ← whole]
    exact floor
  have rounded : ((2 ^ 52 : ℕ) : ℚ) ≤ roundHalfEven (q / ulp q) := by
    exact_mod_cast le_roundHalfEven scaled
  calc
    (2 : ℚ) ^ k ≤ 2 ^ Int.log 2 q := zpow_le_zpow_right₀ (by norm_num) log
    _ = (2 ^ 52 : ℕ) * ulp q := whole
    _ ≤ onGrid q := mul_le_mul_of_nonneg_right rounded (ulp_pos q).le

/-- Which numbers are rounded below a bound: those below the midpoint in front of the first
double that is not. -/
theorem onGrid_lt_iff {k : ℤ} (normal : -1022 ≤ k) {n : ℕ} (low : 2 ^ 52 < n) (high : n ≤ 2 ^ 53)
    {bound : ℚ} (above : ((n : ℚ) - 1) * 2 ^ (k - 52) < bound) (below : bound ≤ n * 2 ^ (k - 52))
    {q : ℚ} (nonneg : 0 ≤ q) :
    onGrid q < bound ↔ q < (n - 1 / 2) * 2 ^ (k - 52) ∨
      q = (n - 1 / 2) * 2 ^ (k - 52) ∧ n % 2 = 1 := by
  have unit := two_zpow_pos (k - 52)
  have first : (2 : ℚ) ^ 52 + 1 ≤ n := by exact_mod_cast low
  have last : (n : ℚ) ≤ 2 ^ 53 := by exact_mod_cast high
  have start : (2 : ℚ) ^ k = 2 ^ 52 * 2 ^ (k - 52) := by
    rw [zpow_sub₀ (by norm_num)]
    field_simp
  have stop : (2 : ℚ) ^ (k + 1) = 2 ^ 53 * 2 ^ (k - 52) := by
    rw [zpow_add_one₀ (by norm_num), start]
    ring
  rcases lt_or_ge q (2 ^ k) with before | inside
  · have rounded := onGrid_le normal nonneg before
    refine iff_of_true ?_ (.inl ?_)
    · nlinarith
    · nlinarith
  · rcases lt_or_ge q (2 ^ (k + 1)) with within | behind
    · have step := ulp_of_binade normal inside within
      have cut (m : ℕ) : (m : ℚ) * 2 ^ (k - 52) < bound ↔ m < n := by
        refine ⟨fun less => ?_, fun less => ?_⟩
        · by_contra more
          have reached : (n : ℚ) ≤ m := by exact_mod_cast not_lt.mp more
          nlinarith
        · have room : (m : ℚ) + 1 ≤ n := by exact_mod_cast less
          nlinarith
      rw [onGrid, step, cut, roundHalfEven_lt_iff (div_nonneg nonneg unit.le), div_lt_iff₀ unit,
        div_eq_iff unit.ne']
    · have rounded := le_onGrid (by omega) behind
      refine iff_of_false ?_ ?_
      · nlinarith
      · rintro (before | ⟨same, -⟩) <;> nlinarith

/-- A double is nearer than half the distance to its neighbours. -/
theorem onGrid_error {q : ℚ} (nonneg : 0 ≤ q) : |onGrid q - q| ≤ ulp q / 2 := by
  have step := ulp_pos q
  have scaled : onGrid q - q = (roundHalfEven (q / ulp q) - q / ulp q) * ulp q := by
    rw [onGrid, sub_mul, div_mul_cancel₀ _ step.ne']
  rw [scaled, abs_mul, abs_of_pos step]
  have near := mul_le_mul_of_nonneg_right (roundHalfEven_error (scaled_nonneg nonneg)) step.le
  linarith

theorem ulp_le {q : ℚ} (positive : 0 < q) : ulp q ≤ q * 2 ^ (-52 : ℤ) + 2 ^ (-1074 : ℤ) := by
  have floor : (2 : ℚ) ^ Int.log 2 q ≤ q := by
    exact_mod_cast Int.zpow_log_le_self (by decide : 1 < 2) positive
  have tiny := two_zpow_pos (-1074)
  have small := two_zpow_pos (-52)
  rcases le_total (Int.log 2 q - 52) (-1074) with sub | normal
  · rw [ulp, max_eq_right sub]
    nlinarith
  · rw [ulp, max_eq_left normal, sub_eq_add_neg, zpow_add₀ (by norm_num)]
    nlinarith

/-- The error relative to the number, and that of the smallest doubles. -/
theorem onGrid_near {q : ℚ} (nonneg : 0 ≤ q) :
    |onGrid q - q| ≤ q * 2 ^ (-53 : ℤ) + 2 ^ (-1075 : ℤ) := by
  rcases nonneg.eq_or_lt with rfl | positive
  · rw [onGrid_zero, sub_zero, abs_zero, zero_mul, zero_add]
    exact (two_zpow_pos _).le
  · have error := onGrid_error nonneg
    have step := ulp_le positive
    have relative : (2 : ℚ) ^ (-52 : ℤ) = 2 ^ (-53 : ℤ) * 2 := zpow_add_one₀ (by norm_num) (-53)
    have smallest : (2 : ℚ) ^ (-1074 : ℤ) = 2 ^ (-1075 : ℤ) * 2 :=
      zpow_add_one₀ (by norm_num) (-1075)
    rw [relative, smallest] at step
    linarith

/-- The errors of a number, of a factor and of their product add up. -/
theorem product_error {q x c u p ε η : ℚ} (factor : 0 ≤ c) (small : 0 ≤ ε) (nonneg : 0 ≤ q)
    (number : |x - q| ≤ q * ε + η) (unit : |c - u| ≤ u * ε)
    (product : |p - x * c| ≤ x * c * ε + η) :
    |p - q * u| ≤ q * u * (3 * ε + 3 * ε ^ 2 + ε ^ 3) + u * η * (1 + ε) ^ 2 + η := by
  have upper : c ≤ u * (1 + ε) := by linarith [(abs_le.mp unit).2]
  have within : 0 ≤ q * ε + η := le_trans (abs_nonneg _) number
  have before : |x * c - q * u| ≤ (q * ε + η) * (u * (1 + ε)) + q * (u * ε) := by
    calc
      |x * c - q * u| = |(x - q) * c + q * (c - u)| := by ring_nf
      _ ≤ |(x - q) * c| + |q * (c - u)| := abs_add_le _ _
      _ = |x - q| * c + q * |c - u| := by
        rw [abs_mul, abs_mul, abs_of_nonneg factor, abs_of_nonneg nonneg]
      _ ≤ (q * ε + η) * (u * (1 + ε)) + q * (u * ε) :=
        add_le_add (mul_le_mul number upper factor within) (mul_le_mul_of_nonneg_left unit nonneg)
  have size : x * c ≤ q * u + ((q * ε + η) * (u * (1 + ε)) + q * (u * ε)) := by
    linarith [(abs_le.mp before).2]
  calc
    |p - q * u| ≤ |p - x * c| + |x * c - q * u| := abs_sub_le _ _ _
    _ ≤ (x * c * ε + η) + ((q * ε + η) * (u * (1 + ε)) + q * (u * ε)) := add_le_add product before
    _ ≤ ((q * u + ((q * ε + η) * (u * (1 + ε)) + q * (u * ε))) * ε + η) +
        ((q * ε + η) * (u * (1 + ε)) + q * (u * ε)) := by
      linarith [mul_le_mul_of_nonneg_right size small]
    _ = q * u * (3 * ε + 3 * ε ^ 2 + ε ^ 3) + u * η * (1 + ε) ^ 2 + η := by ring

end Seshat.Lib.Binary64
