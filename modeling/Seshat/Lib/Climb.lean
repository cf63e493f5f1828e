import Mathlib.Order.Monotone.Basic
import Mathlib.Tactic.Common

/-! A quantity that never goes back, taken step by step towards a ceiling. -/

namespace Seshat.Lib.Climb

variable {f : Nat → Nat} {ceiling : Nat}

theorem min_le_of_moves (moves : ∀ n, f n < ceiling → f n < f (n + 1)) (climbs : Monotone f)
    (n : Nat) : min n ceiling ≤ f n := by
  induction n with
  | zero => exact (Nat.min_le_left 0 ceiling).trans (Nat.zero_le _)
  | succ n ih =>
    have next := climbs (Nat.le_add_right n 1)
    by_cases below : f n < ceiling
    · have moved := moves n below
      omega
    · omega

/-- What moves whenever it is below the ceiling reaches the ceiling. -/
theorem reaches (moves : ∀ n, f n < ceiling → f n < f (n + 1)) (climbs : Monotone f) :
    ∃ n, ceiling ≤ f n :=
  ⟨ceiling, by simpa using min_le_of_moves moves climbs ceiling⟩

/-- What never reaches the ceiling stands still somewhere below it. -/
theorem stalls (climbs : Monotone f) (below : ∀ n, f n < ceiling) : ∃ n, f (n + 1) = f n := by
  by_contra moving
  simp only [not_exists] at moving
  obtain ⟨n, reached⟩ := reaches (fun n _ =>
    lt_of_le_of_ne (climbs (Nat.le_add_right n 1)) (Ne.symm (moving n))) climbs
  exact absurd (below n) (Nat.not_lt.mpr reached)

end Seshat.Lib.Climb
