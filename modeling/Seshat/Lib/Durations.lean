import Mathlib.Data.UInt
import Mathlib.Tactic.Common

/-! Spans of time of a word of seconds and a part of one, as nanoseconds. -/

namespace Seshat.Lib.Durations

/-- The first number of nanoseconds too many. -/
def limit : Nat := 2 ^ 64 * 10 ^ 9

@[ext] structure Duration where
  ns : Nat
  fits : ns < limit
  deriving DecidableEq

def ofNanos? (ns : Nat) : Option Duration := if fits : ns < limit then some ⟨ns, fits⟩ else none

namespace Duration

/-- A sum that does not fit is a panic. -/
def add (a b : Duration) : Option Duration := ofNanos? (a.ns + b.ns)

def ofSecs (secs : UInt64) : Duration where
  ns := secs.toNat * 10 ^ 9
  fits := by
    have word := secs.toNat_lt
    unfold limit
    omega

def ofMillis (millis : UInt64) : Duration where
  ns := millis.toNat * 10 ^ 6
  fits := by
    have word := millis.toNat_lt
    unfold limit
    omega

/-- The longest span at most. -/
def saturated (ns : Nat) : Duration where
  ns := min ns (limit - 1)
  fits := by
    unfold limit
    omega

def satAdd (a b : Duration) : Duration := saturated (a.ns + b.ns)

def satMul (d : Duration) (n : UInt32) : Duration := saturated (d.ns * n.toNat)

/-- The whole seconds. -/
def asSecs (d : Duration) : UInt64 := .ofNat (d.ns / 10 ^ 9)

end Duration

theorem ofNanos?_eq_some {ns : Nat} {d : Duration} : ofNanos? ns = some d ↔ d.ns = ns := by
  unfold ofNanos?
  by_cases fits : ns < limit
  · rw [dif_pos fits, Option.some_inj, Duration.ext_iff]
    exact eq_comm
  · rw [dif_neg fits]
    exact iff_of_false (by simp) fun same => fits (same ▸ d.fits)

theorem ofNanos?_isSome {ns : Nat} : (ofNanos? ns).isSome ↔ ns < limit := by
  unfold ofNanos?
  by_cases fits : ns < limit <;> simp [fits]

namespace Duration

theorem add_eq_some {a b d : Duration} : a.add b = some d ↔ d.ns = a.ns + b.ns := ofNanos?_eq_some

@[simp] theorem ofSecs_ns (secs : UInt64) : (ofSecs secs).ns = secs.toNat * 10 ^ 9 := rfl

@[simp] theorem ofMillis_ns (millis : UInt64) : (ofMillis millis).ns = millis.toNat * 10 ^ 6 := rfl

theorem satAdd_saturated (ns : Nat) (d : Duration) :
    (saturated ns).satAdd d = saturated (ns + d.ns) := by
  refine Duration.ext ?_
  simp only [satAdd, saturated]
  omega

theorem satMul_saturated (ns : Nat) {n : UInt32} (some : n ≠ 0) :
    (saturated ns).satMul n = saturated (ns * n.toNat) := by
  have positive : 1 ≤ n.toNat :=
    Nat.one_le_iff_ne_zero.mpr fun zero => some (UInt32.toNat_inj.mp zero)
  refine Duration.ext ?_
  simp only [satMul, saturated]
  rcases le_total ns (limit - 1) with small | large
  · rw [min_eq_left small]
  · have beyond : limit - 1 ≤ (limit - 1) * n.toNat := Nat.le_mul_of_pos_right _ positive
    rw [min_eq_right large, min_eq_right beyond,
      min_eq_right (beyond.trans (Nat.mul_le_mul_right _ large))]

theorem asSecs_toNat (d : Duration) : d.asSecs.toNat = d.ns / 10 ^ 9 := by
  have fits := d.fits
  unfold limit at fits
  rw [asSecs, UInt64.toNat_ofNat']
  omega

end Duration

end Seshat.Lib.Durations
