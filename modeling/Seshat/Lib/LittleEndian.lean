import Mathlib.Tactic.Common
import Mathlib.Tactic.Ring

/-! Fixed-width little-endian byte strings. The encoder and the reader are total
functions on naturals, so a machine word of any width is an instance. -/

namespace Seshat.Lib.LittleEndian

/-- The low `width` bytes of `value`, least significant first. -/
def toBytes : Nat → Nat → List UInt8
  | 0, _ => []
  | width + 1, value => UInt8.ofNat value :: toBytes width (value / 256)

def fromBytes : List UInt8 → Nat
  | [] => 0
  | byte :: rest => byte.toNat + 256 * fromBytes rest

@[simp] theorem toBytes_length (width value : Nat) : (toBytes width value).length = width := by
  induction width generalizing value with
  | zero => rfl
  | succ width ih => simp [toBytes, ih]

theorem fromBytes_toBytes (width value : Nat) :
    fromBytes (toBytes width value) = value % 256 ^ width := by
  induction width generalizing value with
  | zero => simp [toBytes, fromBytes, Nat.mod_one]
  | succ width ih =>
    have split : value % 256 ^ (width + 1) = value % 256 + 256 * (value / 256 % 256 ^ width) := by
      rw [pow_succ, Nat.mul_comm, Nat.mod_mul]
    simp only [toBytes, fromBytes, ih, split, UInt8.toNat_ofNat', Nat.reducePow]

theorem fromBytes_toBytes_of_lt {width value : Nat} (small : value < 256 ^ width) :
    fromBytes (toBytes width value) = value := by
  rw [fromBytes_toBytes, Nat.mod_eq_of_lt small]

theorem toBytes_fromBytes (bytes : List UInt8) : toBytes bytes.length (fromBytes bytes) = bytes := by
  induction bytes with
  | nil => rfl
  | cons byte rest ih =>
    have small := byte.toNat_lt
    have high : (byte.toNat + 256 * fromBytes rest) / 256 = fromBytes rest := by omega
    have low : UInt8.ofNat (byte.toNat + 256 * fromBytes rest) = byte := by
      apply UInt8.toNat_inj.mp
      rw [UInt8.toNat_ofNat']
      omega
    rw [List.length_cons, fromBytes, toBytes, high, low, ih]

theorem fromBytes_lt (bytes : List UInt8) : fromBytes bytes < 256 ^ bytes.length := by
  induction bytes with
  | nil => exact Nat.one_pos
  | cons byte rest ih =>
    have small := byte.toNat_lt
    rw [fromBytes, List.length_cons, pow_succ]
    omega

end Seshat.Lib.LittleEndian
