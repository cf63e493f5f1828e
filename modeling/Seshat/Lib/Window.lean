import Mathlib.Tactic.Common

/-! Windows of a fixed buffer: reading `len` cells at an offset, overwriting the
cells at an offset, and how the two meet. -/

namespace Seshat.Lib.Window

variable {α : Type*}

/-- The cells `off .. off + len` of a buffer. -/
def window (buf : List α) (off len : Nat) : List α := (buf.drop off).take len

/-- The buffer with the cells from `off` on replaced by `cells`. -/
def overwrite (buf : List α) (off : Nat) (cells : List α) : List α :=
  buf.take off ++ cells ++ buf.drop (off + cells.length)

/-- A slice expression: it fails when the buffer has no such cells. -/
def slice? (buf : List α) (off len : Nat) : Option (List α) :=
  if off + len ≤ buf.length then some (window buf off len) else none

theorem slice?_of_le {buf : List α} {off len : Nat} (inside : off + len ≤ buf.length) :
    slice? buf off len = some (window buf off len) :=
  if_pos inside

theorem window_getElem? {buf : List α} {off len i : Nat} (inside : i < len) :
    (window buf off len)[i]? = buf[off + i]? := by
  rw [window, List.getElem?_take_of_lt inside, List.getElem?_drop]

@[simp] theorem window_length (buf : List α) (off len : Nat) :
    (window buf off len).length = min len (buf.length - off) := by
  simp [window]

theorem window_length_of_le {buf : List α} {off len : Nat} (inside : off + len ≤ buf.length) :
    (window buf off len).length = len := by
  rw [window_length]
  omega

@[simp] theorem window_zero (buf : List α) (off : Nat) : window buf off 0 = [] := by
  simp [window]

theorem window_all (buf : List α) : window buf 0 buf.length = buf := by
  simp [window]

theorem window_add (buf : List α) (off first second : Nat) :
    window buf off (first + second) =
      window buf off first ++ window buf (off + first) second := by
  simp only [window, List.take_add, List.drop_drop]

theorem take_window (buf : List α) (off len count : Nat) :
    (window buf off len).take count = window buf off (min count len) := by
  simp [window, List.take_take]

theorem drop_window (buf : List α) (off len count : Nat) :
    (window buf off len).drop count = window buf (off + count) (len - count) := by
  simp [window, List.drop_take, List.drop_drop]

theorem window_append_left {buf more : List α} {off len : Nat} (inside : off + len ≤ buf.length) :
    window (buf ++ more) off len = window buf off len := by
  unfold window
  rw [List.drop_append_of_le_length (by omega), List.take_append_of_le_length]
  rw [List.length_drop]
  omega

theorem overwrite_length {buf : List α} {off : Nat} {cells : List α}
    (inside : off + cells.length ≤ buf.length) :
    (overwrite buf off cells).length = buf.length := by
  simp only [overwrite, List.length_append, List.length_take, List.length_drop]
  omega

theorem window_overwrite_self {buf : List α} {off : Nat} {cells : List α}
    (inside : off + cells.length ≤ buf.length) :
    window (overwrite buf off cells) off cells.length = cells := by
  have front : (buf.take off).length = off := by rw [List.length_take]; omega
  simp only [window, overwrite, List.append_assoc]
  rw [List.drop_append_of_le_length (by omega), List.drop_of_length_le (by omega),
    List.nil_append, List.take_left']
  rfl

/-- Writing a window back where it was read changes nothing. -/
theorem overwrite_window (buf : List α) (off len : Nat) :
    overwrite buf off (window buf off len) = buf := by
  have behind : (buf.drop off).drop (window buf off len).length = (buf.drop off).drop len := by
    rw [window_length]
    by_cases inside : len ≤ buf.length - off
    · rw [Nat.min_eq_left inside]
    · rw [List.drop_of_length_le, List.drop_of_length_le] <;> rw [List.length_drop] <;> omega
  rw [overwrite, ← List.drop_drop, behind, window, List.append_assoc, List.take_append_drop,
    List.take_append_drop]

/-- Cells in front of the overwritten ones keep their contents. -/
theorem window_overwrite_before {buf : List α} {off : Nat} {cells : List α} {pos len : Nat}
    (inside : off + cells.length ≤ buf.length) (before : pos + len ≤ off) :
    window (overwrite buf off cells) pos len = window buf pos len := by
  have front : (buf.take off).length = off := by rw [List.length_take]; omega
  have left : window (overwrite buf off cells) pos len = window (buf.take off) pos len := by
    simp only [overwrite, List.append_assoc]
    exact window_append_left (by omega)
  have right : window buf pos len = window (buf.take off) pos len := by
    conv_lhs => rw [← List.take_append_drop off buf]
    exact window_append_left (by omega)
  rw [left, right]

theorem overwrite_zero {buf cells : List α} :
    overwrite buf 0 cells = cells ++ buf.drop cells.length := by
  simp [overwrite]

/-- Overwriting the cells right behind a known front replaces the head of the rest. -/
theorem overwrite_append (front rest cells : List α) {off : Nat} (placed : front.length = off) :
    overwrite (front ++ rest) off cells = front ++ (cells ++ rest.drop cells.length) := by
  subst placed
  simp only [overwrite, List.take_left', List.append_assoc]
  rw [List.drop_append, List.drop_of_length_le (by omega)]
  simp

end Seshat.Lib.Window
