import Seshat.Lib.Counting
import Mathlib.Algebra.Order.Ring.Cast
import Mathlib.Tactic.Linarith

/-! The events of a schedule that are due at a time, against one event for each gap. -/

namespace Seshat.Lib.Arrivals

variable {K : Type*} [LinearOrder K]

/-- Of the first `count` events, those due by time `t`. -/
def due (schedule : Nat → K) (count : Nat) (t : K) : Nat :=
  (List.range count).countP fun n => schedule n ≤ t

variable {schedule : Nat → K} {count n : Nat} {t : K}

theorem due_le : due schedule count t ≤ count :=
  List.countP_le_length.trans_eq List.length_range

/-- Events that never go back are due in their order. -/
theorem lt_due (climbs : Monotone schedule) (inside : n < count) :
    n < due schedule count t ↔ schedule n ≤ t := by
  refine (Counting.countP_range_iff (fun earlier later before reached => ?_) inside).trans
    decide_eq_true_iff
  exact decide_eq_true ((climbs before).trans (of_decide_eq_true reached))

/-- No more than one event for each gap, and one more, is due at any time exactly if no event
is early. -/
theorem due_within_iff [CommRing K] [IsStrictOrderedRing K] (climbs : Monotone schedule)
    (starts : 0 ≤ schedule 0) {gap : K} (forward : 0 ≤ gap) :
    (∀ t, 0 ≤ t → due schedule count t * gap ≤ t + gap) ↔ ∀ n < count, n * gap ≤ schedule n := by
  constructor
  · intro within n inside
    have reached := (lt_due climbs inside).mpr le_rfl
    have more : ((n + 1 : Nat) : K) * gap ≤ due schedule count (schedule n) * gap :=
      mul_le_mul_of_nonneg_right (Nat.cast_le.mpr reached) forward
    have bound := within (schedule n) (starts.trans (climbs (Nat.zero_le n)))
    rw [Nat.cast_succ, add_mul, one_mul] at more
    linarith only [more, bound]
  · intro on_time t after_start
    cases found : due schedule count t with
    | zero =>
      rw [Nat.cast_zero, zero_mul]
      exact add_nonneg after_start forward
    | succ n =>
      have inside : n < count := (Nat.lt_of_lt_of_eq n.lt_succ_self found.symm).trans_le due_le
      have reached := (lt_due climbs inside).mp (Nat.lt_of_lt_of_eq n.lt_succ_self found.symm)
      have early := on_time n inside
      rw [Nat.cast_succ, add_mul, one_mul]
      linarith only [reached, early]

end Seshat.Lib.Arrivals
