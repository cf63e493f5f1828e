import Mathlib.Logic.Function.Iterate
import Mathlib.Tactic.Common
import Mathlib.Tactic.Ring

/-! Saturating arithmetic and counters on 64-bit words. -/

namespace Seshat.Lib.Saturating

/-- The largest word. -/
def top : Nat := 2 ^ 64 - 1

/-- The word nearest to a number. -/
def clampWord (n : Nat) : UInt64 := UInt64.ofNat (min n top)

def satAdd (a b : UInt64) : UInt64 := clampWord (a.toNat + b.toNat)

def satMul (a b : UInt64) : UInt64 := clampWord (a.toNat * b.toNat)

def satSub (a b : UInt64) : UInt64 := UInt64.ofNat (a.toNat - b.toNat)

@[simp] theorem clampWord_toNat (n : Nat) : (clampWord n).toNat = min n top := by
  have small : min n top < 2 ^ 64 := by unfold top; omega
  rw [clampWord, UInt64.toNat_ofNat', Nat.mod_eq_of_lt small]

@[simp] theorem satAdd_toNat (a b : UInt64) :
    (satAdd a b).toNat = min (a.toNat + b.toNat) top := clampWord_toNat _

@[simp] theorem satMul_toNat (a b : UInt64) :
    (satMul a b).toNat = min (a.toNat * b.toNat) top := clampWord_toNat _

@[simp] theorem satSub_toNat (a b : UInt64) : (satSub a b).toNat = a.toNat - b.toNat := by
  have small := a.toNat_lt
  rw [satSub, UInt64.toNat_ofNat', Nat.mod_eq_of_lt (by omega)]

theorem toNat_le_top (a : UInt64) : a.toNat ≤ top := by
  have := a.toNat_lt
  unfold top
  omega

theorem eq_zero_of_toNat {a : UInt64} (none : a.toNat = 0) : a = 0 :=
  UInt64.toNat_inj.mp (none.trans UInt64.toNat_zero.symm)

theorem toNat_pos {a : UInt64} (some : a ≠ 0) : 0 < a.toNat :=
  Nat.pos_of_ne_zero fun none => some (eq_zero_of_toNat none)

/-- Adding never goes back. -/
theorem le_satAdd (a b : UInt64) : a.toNat ≤ (satAdd a b).toNat := by
  rw [satAdd_toNat]
  have := toNat_le_top a
  omega

/-- Adding to a saturated sum saturates as adding before it. -/
theorem satAdd_clampWord (a : Nat) (b : UInt64) : satAdd (clampWord a) b = clampWord (a + b.toNat) := by
  apply UInt64.toNat_inj.mp
  rw [satAdd_toNat, clampWord_toNat, clampWord_toNat]
  omega

theorem satAdd_zero (a : UInt64) : satAdd a 0 = a := by
  have reach := toNat_le_top a
  apply UInt64.toNat_inj.mp
  rw [satAdd_toNat, UInt64.toNat_zero]
  omega

@[simp] theorem max_toNat (a b : UInt64) : (max a b).toNat = max a.toNat b.toNat := by
  have unfolded : max a b = if a ≤ b then b else a := rfl
  rw [unfolded]
  by_cases above : a ≤ b
  · have le := UInt64.le_iff_toNat_le.mp above
    rw [if_pos above, Nat.max_eq_right le]
  · have lt : ¬a.toNat ≤ b.toNat := fun le => above (UInt64.le_iff_toNat_le.mpr le)
    rw [if_neg above, Nat.max_eq_left (by omega)]

theorem succ_iterate (seq : UInt64) (count : Nat) :
    (· + 1)^[count] seq = seq + UInt64.ofNat count := by
  induction count generalizing seq with
  | zero => simp
  | succ count ih =>
    rw [Function.iterate_succ_apply, ih, Nat.add_comm count 1, UInt64.ofNat_add, ← UInt64.add_assoc]
    rfl

end Seshat.Lib.Saturating
