import Mathlib.Algebra.Order.Field.Basic
import Mathlib.Algebra.Order.Floor.Semiring
import Mathlib.Tactic.Linarith
import Mathlib.Tactic.Ring

/-! Linear interpolation between the neighbouring terms of a sequence. -/

namespace Seshat.Lib.Interpolation

variable {K : Type*} [Field K] [LinearOrder K] [IsStrictOrderedRing K] [FloorSemiring K]

/-- The sequence read at a rank between two indices. -/
def interpolate (f : Nat → K) (rank : K) : K :=
  f ⌊rank⌋₊ + (rank - ⌊rank⌋₊) * (f (⌊rank⌋₊ + 1) - f ⌊rank⌋₊)

variable {f : Nat → K} {r s : K}

theorem interpolate_natCast (f : Nat → K) (n : Nat) : interpolate f n = f n := by
  rw [interpolate, Nat.floor_natCast, sub_self, zero_mul, add_zero]

theorem le_interpolate (climbs : Monotone f) (start : 0 ≤ r) : f ⌊r⌋₊ ≤ interpolate f r := by
  have rest : 0 ≤ r - ⌊r⌋₊ := sub_nonneg.mpr (Nat.floor_le start)
  have slope : 0 ≤ f (⌊r⌋₊ + 1) - f ⌊r⌋₊ := sub_nonneg.mpr (climbs (Nat.le_add_right _ 1))
  exact le_add_of_nonneg_right (mul_nonneg rest slope)

theorem interpolate_le (climbs : Monotone f) : interpolate f r ≤ f (⌊r⌋₊ + 1) := by
  have rest : r - ⌊r⌋₊ ≤ 1 := by
    have above := Nat.lt_floor_add_one r
    linarith only [above]
  have slope : 0 ≤ f (⌊r⌋₊ + 1) - f ⌊r⌋₊ := sub_nonneg.mpr (climbs (Nat.le_add_right _ 1))
  have part := mul_le_mul_of_nonneg_right rest slope
  unfold interpolate
  linarith only [part]

/-- Between two ranks of one index the line climbs; between indices it passes the terms. -/
theorem interpolate_mono (climbs : Monotone f) (start : 0 ≤ r) (before : r ≤ s) :
    interpolate f r ≤ interpolate f s := by
  by_cases same : ⌊r⌋₊ = ⌊s⌋₊
  · have slope : 0 ≤ f (⌊s⌋₊ + 1) - f ⌊s⌋₊ := sub_nonneg.mpr (climbs (Nat.le_add_right _ 1))
    unfold interpolate
    rw [same]
    exact add_le_add_right (mul_le_mul_of_nonneg_right (sub_le_sub_right before _) slope) _
  · have next : ⌊r⌋₊ + 1 ≤ ⌊s⌋₊ := Nat.lt_of_le_of_ne (Nat.floor_le_floor before) same
    calc interpolate f r
        ≤ f (⌊r⌋₊ + 1) := interpolate_le climbs
      _ ≤ f ⌊s⌋₊ := climbs next
      _ ≤ interpolate f s := le_interpolate climbs (start.trans before)

theorem first_le_interpolate (climbs : Monotone f) (start : 0 ≤ r) : f 0 ≤ interpolate f r :=
  (climbs (Nat.zero_le _)).trans (le_interpolate climbs start)

theorem interpolate_le_last (climbs : Monotone f) (start : 0 ≤ r) {last : Nat} (inside : r ≤ last) :
    interpolate f r ≤ f last :=
  (interpolate_mono climbs start inside).trans_eq (interpolate_natCast f last)

end Seshat.Lib.Interpolation
