import Mathlib.Algebra.Order.BigOperators.Group.List
import Mathlib.Algebra.Order.Ring.Nat
import Mathlib.Data.List.Perm.Basic
import Mathlib.Tactic.Common

/-! Counting the elements of a list that pass a test. -/

namespace Seshat.Lib.Counting

/-- A stronger test finds as much as a weaker one exactly if the weaker one finds nothing
else. -/
theorem countP_eq_iff_of_imp {α : Type*} {strong weak : α → Bool} {list : List α}
    (weaker : ∀ a ∈ list, strong a = true → weak a = true) :
    list.countP strong = list.countP weak ↔ ∀ a ∈ list, weak a = true → strong a = true := by
  constructor
  · intro same
    induction list with
    | nil => simp
    | cons a rest ih =>
      have first := weaker a List.mem_cons_self
      have later (b : α) (member : b ∈ rest) := weaker b (List.mem_cons_of_mem _ member)
      have fewer := List.countP_mono_left later
      rw [List.countP_cons, List.countP_cons] at same
      refine List.forall_mem_cons.mpr ⟨fun found => ?_, ih later ?_⟩
      · by_contra missed
        rw [if_neg missed, if_pos found] at same
        omega
      · by_cases found : strong a = true
        · rw [if_pos found, if_pos (first found)] at same
          omega
        · rw [if_neg found] at same
          omega
  · intro stronger
    exact List.countP_congr fun a member => ⟨weaker a member, stronger a member⟩

/-- Numbers that are nowhere above others and have their sum are those. -/
theorem eq_of_sum_eq {α : Type*} {f g : α → Nat} {list : List α} (below : ∀ a ∈ list, f a ≤ g a)
    (same : (list.map g).sum ≤ (list.map f).sum) : ∀ a ∈ list, f a = g a := by
  induction list with
  | nil => nofun
  | cons a rest ih =>
    obtain ⟨first, later⟩ := List.forall_mem_cons.mp below
    have rest_below : (rest.map f).sum ≤ (rest.map g).sum := List.sum_le_sum later
    rw [List.map_cons, List.map_cons, List.sum_cons, List.sum_cons] at same
    exact List.forall_mem_cons.mpr ⟨by omega, ih later (by omega)⟩

/-- A test that, once failed, fails for all later numbers is passed by the first ones. -/
theorem countP_range_iff {test : Nat → Bool} (down : ∀ m n, m ≤ n → test n = true → test m = true)
    {count n : Nat} (inside : n < count) :
    n < (List.range count).countP test ↔ test n = true := by
  induction count generalizing n with
  | zero => exact absurd inside (Nat.not_lt_zero n)
  | succ count ih =>
    have most : (List.range count).countP test ≤ count :=
      List.countP_le_length.trans_eq List.length_range
    rw [List.range_succ, List.countP_append, List.countP_singleton]
    by_cases last : test count = true
    · have all : (List.range count).countP test = count := by
        refine (List.countP_eq_length.mpr fun i member => ?_).trans List.length_range
        exact down i count (Nat.le_of_lt (List.mem_range.mp member)) last
      rw [if_pos last, all]
      exact iff_of_true inside (down n count (Nat.le_of_lt_succ inside) last)
    · rw [if_neg last, Nat.add_zero]
      by_cases before : n < count
      · exact ih before
      · have same : n = count := by omega
        rw [same]
        exact iff_of_false (Nat.not_lt.mpr most) last

/-- Of elements with different keys one has the key of each. -/
theorem filter_key_eq {α β : Type*} [DecidableEq β] {key : α → β} {list : List α}
    (distinct : (list.map key).Nodup) {a : α} (member : a ∈ list) :
    list.filter (fun b => key b = key a) = [a] := by
  induction list with
  | nil => cases member
  | cons first rest ih =>
    obtain ⟨fresh, later⟩ := List.nodup_cons.mp distinct
    rcases List.mem_cons.mp member with rfl | behind
    · rw [List.filter_cons_of_pos (by simp)]
      refine congrArg (a :: ·) (List.filter_eq_nil_iff.mpr fun b found same => fresh ?_)
      exact List.mem_map.mpr ⟨b, found, of_decide_eq_true same⟩
    · have other : key first ≠ key a := fun same =>
        fresh (List.mem_map.mpr ⟨a, behind, same.symm⟩)
      rw [List.filter_cons_of_neg (by simpa using other)]
      exact ih later behind

end Seshat.Lib.Counting
