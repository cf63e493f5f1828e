import Mathlib.Algebra.BigOperators.Group.List.Basic
import Mathlib.Algebra.Ring.Nat
import Mathlib.Tactic.Common

/-! Texts of one byte a character, and numbers in hexadecimal among them. -/

namespace Seshat.Lib.Ascii

/-- Every character is one byte of UTF-8. -/
def SingleByte (text : List Char) : Prop := ∀ c ∈ text, c.utf8Size = 1

variable {first second : List Char}

theorem SingleByte.append (left : SingleByte first) (right : SingleByte second) :
    SingleByte (first ++ second) := List.forall_mem_append.mpr ⟨left, right⟩

theorem SingleByte.subset (right : SingleByte second) (inside : first ⊆ second) :
    SingleByte first := fun c member => right c (inside member)

theorem alphanum_utf8Size {c : Char} (plain : c.isAlphanum = true) : c.utf8Size = 1 := by
  have ranges : (('A'.val ≤ c.val ∧ c.val ≤ 'Z'.val) ∨ 'a'.val ≤ c.val ∧ c.val ≤ 'z'.val) ∨
      '0'.val ≤ c.val ∧ c.val ≤ '9'.val := by
    simpa only [Bool.or_eq_true, Bool.and_eq_true, decide_eq_true_iff] using
      (show ((decide ('A'.val ≤ c.val ∧ c.val ≤ 'Z'.val) ||
        decide ('a'.val ≤ c.val) && decide (c.val ≤ 'z'.val)) ||
        decide ('0'.val ≤ c.val) && decide (c.val ≤ '9'.val)) = true from plain)
  have upper : 'Z'.val ≤ 127 := by decide
  have lower : 'z'.val ≤ 127 := by decide
  have digit : '9'.val ≤ 127 := by decide
  rw [Char.utf8Size_eq_one_iff]
  rcases ranges with (⟨-, within⟩ | ⟨-, within⟩) | ⟨-, within⟩
  · exact UInt32.le_trans within upper
  · exact UInt32.le_trans within lower
  · exact UInt32.le_trans within digit

theorem utf8ByteSize_ofList (text : List Char) :
    (String.ofList text).utf8ByteSize = (text.map Char.utf8Size).sum := by
  induction text with
  | nil => rfl
  | cons c rest ih =>
    have split : String.ofList (c :: rest) = String.singleton c ++ String.ofList rest := by
      rw [String.singleton_eq_ofList, ← String.ofList_append]
      rfl
    rw [split, String.utf8ByteSize_append, String.utf8ByteSize_singleton, ih, List.map_cons,
      List.sum_cons]

/-- The bytes of a text are counted by its characters. -/
theorem utf8ByteSize_eq {s : String} (plain : SingleByte s.toList) :
    s.utf8ByteSize = s.toList.length := by
  have ones : s.toList.map Char.utf8Size = List.replicate s.toList.length 1 := by
    rw [List.map_congr_left plain, List.map_const']
  rw [← @String.ofList_toList s, utf8ByteSize_ofList, String.toList_ofList, ones,
    List.sum_replicate, Nat.nsmul_eq_mul, Nat.mul_one]

/-! Hexadecimal. -/

/-- At least `width` digits. -/
def hexPadded (width n : Nat) : List Char :=
  List.replicate (width - (Nat.toDigits 16 n).length) '0' ++ Nat.toDigits 16 n

theorem hexPadded_length (width n : Nat) :
    (hexPadded width n).length = max width (Nat.toDigits 16 n).length := by
  rw [hexPadded, List.length_append, List.length_replicate]
  omega

/-- Only a number that fits the width is as long as the width. -/
theorem hexPadded_length_le_iff {width n : Nat} (positive : 0 < width) :
    (hexPadded width n).length ≤ width ↔ n < 16 ^ width := by
  rw [hexPadded_length, Nat.max_le, Nat.length_toDigits_le_iff (by decide) positive]
  exact and_iff_right (Nat.le_refl _)

theorem digitChar_utf8Size {n : Nat} (digit : n < 16) : n.digitChar.utf8Size = 1 := by
  have all : ∀ i : Fin 16, (i : Nat).digitChar.utf8Size = 1 := by decide
  exact all ⟨n, digit⟩

theorem toDigits_singleByte (n : Nat) : SingleByte (Nat.toDigits 16 n) := by
  induction n using Nat.strongRecOn with
  | ind n ih =>
    by_cases digit : n < 16
    · rw [Nat.toDigits_of_lt_base digit]
      exact List.forall_mem_singleton.mpr (digitChar_utf8Size digit)
    · rw [Nat.toDigits_of_base_le (by decide) (Nat.not_lt.mp digit)]
      exact (ih (n / 16) (by omega)).append
        (List.forall_mem_singleton.mpr (digitChar_utf8Size (Nat.mod_lt n (by decide))))

theorem hexPadded_singleByte (width n : Nat) : SingleByte (hexPadded width n) := by
  refine SingleByte.append (fun c member => ?_) (toDigits_singleByte n)
  rw [List.eq_of_mem_replicate member]
  decide

end Seshat.Lib.Ascii
