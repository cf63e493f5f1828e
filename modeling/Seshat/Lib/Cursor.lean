import Mathlib.Data.List.GetD
import Mathlib.Tactic.Common

/-! A position in a list of blocks: the blocks that are fully behind it, and an offset
into the next one. What is behind a position and what is ahead of it are all the cells. -/

namespace Seshat.Lib

structure Cursor where
  idx : Nat := 0
  off : Nat := 0
  deriving DecidableEq, Repr

namespace Cursor
variable {α : Type*} (blocks : List (List α))

def behind (c : Cursor) : List α :=
  (blocks.take c.idx).flatten ++ (blocks.getD c.idx []).take c.off

def ahead (c : Cursor) : List α :=
  (blocks.getD c.idx []).drop c.off ++ (blocks.drop (c.idx + 1)).flatten

/-- A position between two blocks, or inside one. -/
def Within (c : Cursor) : Prop := c.off = 0 ∨ c.off < (blocks.getD c.idx []).length

variable {blocks} {c after : Cursor}

/-- Nothing lies ahead of the end. -/
theorem ahead_end (ended : blocks.length ≤ c.idx) : ahead blocks c = [] := by
  have past : blocks.drop (c.idx + 1) = [] := List.drop_of_length_le (by omega)
  rw [ahead, List.getD_eq_default _ _ ended, past]
  simp

theorem behind_front (idx : Nat) : behind blocks ⟨idx, 0⟩ = (blocks.take idx).flatten := by
  rw [behind, List.take_zero, List.append_nil]

theorem ahead_boundary (idx : Nat) : ahead blocks ⟨idx, 0⟩ = (blocks.drop idx).flatten := by
  by_cases inside : idx < blocks.length
  · rw [ahead, List.drop_zero, List.drop_eq_getElem_cons inside, List.flatten_cons,
      List.getD_eq_getElem _ _ inside]
  · rw [ahead_end (Nat.not_lt.mp inside), List.drop_of_length_le (Nat.not_lt.mp inside)]
    rfl

theorem Within.off_le (within : Within blocks c) : c.off ≤ (blocks.getD c.idx []).length := by
  rcases within with zero | inside <;> omega

/-- Crossing the end of a block. -/
theorem behind_next (inside : c.idx < blocks.length) :
    behind blocks ⟨c.idx + 1, 0⟩ = behind blocks c ++ (blocks.getD c.idx []).drop c.off := by
  rw [behind_front, behind, List.append_assoc, List.take_append_drop, List.take_add_one,
    List.flatten_append, List.getElem?_eq_getElem inside, List.getD_eq_getElem _ _ inside]
  simp

theorem ahead_next (blocks : List (List α)) (c : Cursor) :
    ahead blocks c = (blocks.getD c.idx []).drop c.off ++ ahead blocks ⟨c.idx + 1, 0⟩ := by
  rw [ahead_boundary, ahead]

theorem behind_append_ahead (blocks : List (List α)) (c : Cursor) :
    behind blocks c ++ ahead blocks c = blocks.flatten := by
  by_cases inside : c.idx < blocks.length
  · rw [ahead_next, ← List.append_assoc, ← behind_next inside, behind_front, ahead_boundary,
      ← List.flatten_append, List.take_append_drop]
  · have ended := Nat.not_lt.mp inside
    rw [ahead_end ended, behind, List.getD_eq_default _ _ ended, List.take_of_length_le ended]
    simp

/-- `count` cells further on. -/
structure Moved (blocks : List (List α)) (c : Cursor) (count : Nat) (after : Cursor) : Prop where
  behind : behind blocks after = behind blocks c ++ (ahead blocks c).take count
  within : Within blocks after

theorem Moved.stays (within : Within blocks c) : Moved blocks c 0 c :=
  ⟨by rw [List.take_zero, List.append_nil], within⟩

theorem Moved.at_end (within : Within blocks c) (ended : blocks.length ≤ c.idx) (count : Nat) :
    Moved blocks c count c :=
  ⟨by rw [ahead_end ended, List.take_nil, List.append_nil], within⟩

theorem Moved.into {count : Nat}
    (short : c.off + count < (blocks.getD c.idx []).length) :
    Moved blocks c count ⟨c.idx, c.off + count⟩ := by
  refine ⟨?_, Or.inr short⟩
  have inside : count ≤ ((blocks.getD c.idx []).drop c.off).length := by
    rw [List.length_drop]
    omega
  rw [Cursor.behind, Cursor.behind, ahead, List.take_append_of_le_length inside, List.take_add,
    List.append_assoc]

theorem Moved.next {count : Nat} (inside : c.idx < blocks.length)
    (long : (blocks.getD c.idx []).length - c.off ≤ count)
    (later : Moved blocks ⟨c.idx + 1, 0⟩ (count - ((blocks.getD c.idx []).length - c.off)) after) :
    Moved blocks c count after := by
  refine ⟨?_, later.within⟩
  have size : ((blocks.getD c.idx []).drop c.off).length =
      (blocks.getD c.idx []).length - c.off := List.length_drop
  have whole : ((blocks.getD c.idx []).drop c.off).take count = (blocks.getD c.idx []).drop c.off :=
    List.take_of_length_le (by rw [size]; exact long)
  rw [later.behind, behind_next inside, ahead_next blocks c, List.append_assoc,
    List.take_append, whole, size]

theorem Moved.ahead_length {count : Nat} (moved : Moved blocks c count after) :
    (ahead blocks after).length = (ahead blocks c).length - count := by
  have before := congrArg List.length (behind_append_ahead blocks c)
  have later := congrArg List.length (behind_append_ahead blocks after)
  rw [moved.behind] at later
  simp only [List.length_append, List.length_take] at before later
  omega

/-- Block `i` behind the position, without what is left of it in front. -/
def view (blocks : List (List α)) (c : Cursor) (i : Nat) : List α :=
  (blocks.getD (c.idx + i) []).drop (if i = 0 then c.off else 0)

/-- The first blocks ahead of a position, and what follows them. -/
theorem views_append_ahead (blocks : List (List α)) (c : Cursor) (count : Nat) :
    ((List.range (count + 1)).map (view blocks c)).flatten ++
      ahead blocks ⟨c.idx + (count + 1), 0⟩ = ahead blocks c := by
  induction count with
  | zero =>
    rw [ahead_next blocks c]
    simp [view]
  | succ count ih =>
    have last : view blocks c (count + 1) = (blocks.getD (c.idx + (count + 1)) []).drop 0 := by
      rw [view, if_neg (Nat.succ_ne_zero count)]
    rw [List.range_succ, List.map_append, List.flatten_append, List.map_singleton,
      List.flatten_singleton, last, List.append_assoc]
    have step := ahead_next blocks ⟨c.idx + (count + 1), 0⟩
    rw [← ih, step]
    rfl

end Cursor

end Seshat.Lib
