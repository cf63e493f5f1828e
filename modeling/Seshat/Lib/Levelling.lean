import Seshat.Lib.Extremes
import Mathlib.Algebra.GroupWithZero.Nat
import Mathlib.Algebra.Order.BigOperators.Group.List
import Mathlib.Algebra.Order.Group.Nat
import Mathlib.Tactic.Common

/-! Cutting the tops off a list of amounts, the last ones first. A cut has a level and a
place: what stands in front of the place keeps the level, what stands behind it is one lower. -/

namespace Seshat.Lib.Levelling
open Extremes

variable {α : Type*} (amount : α → Nat)

def capped (level : Nat) (list : List α) : List Nat := list.map fun a => min (amount a) level

def cut (level : Nat) (front back : List α) : List Nat :=
  capped amount level front ++ capped amount (level - 1) back

variable {amount} {level : Nat} {front back : List α}

theorem capped_append (level : Nat) (front back : List α) :
    capped amount level (front ++ back) = capped amount level front ++ capped amount level back :=
  List.map_append

/-- A list below the level is as well cut one lower. -/
theorem capped_below (below : ∀ a ∈ front, amount a < level) :
    capped amount level front = capped amount (level - 1) front := by
  refine List.map_congr_left fun a member => ?_
  have under := below a member
  omega

theorem cut_length (level : Nat) (front back : List α) :
    (cut amount level front back).length = (front ++ back).length := by
  simp [cut, capped]

/-- A list that is high enough is not cut. -/
theorem cut_high (high : ∀ a ∈ front, amount a ≤ level) :
    cut amount level front [] = front.map amount := by
  rw [cut, capped, capped, List.map_nil, List.append_nil]
  exact List.map_congr_left fun a member => Nat.min_eq_left (high a member)

theorem eq_of_sum_eq {low high : List Nat} (below : List.Forall₂ (· ≤ ·) low high)
    (same : low.sum = high.sum) : low = high := by
  induction below with
  | nil => rfl
  | @cons a b low high first later ih =>
    have rest := later.sum_le_sum
    rw [List.sum_cons, List.sum_cons] at same
    rw [ih (by omega), show a = b by omega]

/-- The last entry in front of the place keeps the level, if it reaches it. -/
theorem cut_keeps {top : α} (reaches : level ≤ amount top) (first rest : List α) :
    cut amount level (first ++ [top]) rest =
      capped amount level first ++ level :: capped amount (level - 1) rest := by
  rw [cut, capped_append, List.append_assoc]
  simp [capped, reaches]

/-- Behind the place it is one lower. -/
theorem cut_lowers {top : α} (reaches : level ≤ amount top) (first rest : List α) :
    cut amount level first (top :: rest) =
      capped amount level first ++ (level - 1) :: capped amount (level - 1) rest := by
  have under : min (amount top) (level - 1) = level - 1 := by omega
  rw [cut, capped, capped, List.map_cons, under]
  rfl

theorem le_of_mem_capped {n : Nat} {list : List α} (member : n ∈ capped amount level list) :
    n ≤ level := by
  obtain ⟨a, -, rfl⟩ := List.mem_map.mp member
  exact Nat.min_le_right _ _

theorem le_of_mem_cut {n : Nat} (member : n ∈ cut amount level front back) : n ≤ level := by
  rcases List.mem_append.mp member with inFront | inBack
  · exact le_of_mem_capped inFront
  · exact (le_of_mem_capped inBack).trans (Nat.sub_le level 1)

/-- A cut at level 1 or below leaves one unit each at most. -/
theorem two_le_of_more (more : (front ++ back).length < (cut amount level front back).sum) :
    2 ≤ level := by
  by_contra low
  have few := List.sum_le_card_nsmul (cut amount level front back) 1 fun n member =>
    (le_of_mem_cut member).trans (by omega)
  rw [cut_length, Nat.nsmul_eq_mul, Nat.mul_one] at few
  omega

/-- A cut that leaves a unit each on average leaves everyone one. -/
theorem cut_pos (ones : ∀ a ∈ front ++ back, 1 ≤ amount a)
    (enough : (front ++ back).length ≤ (cut amount level front back).sum) :
    ∀ n ∈ cut amount level front back, 1 ≤ n := by
  obtain ⟨onesFront, onesBack⟩ := List.forall_mem_append.mp ones
  by_cases high : 2 ≤ level
  · refine List.forall_mem_append.mpr ⟨fun n member => ?_, fun n member => ?_⟩
    · obtain ⟨a, inFront, rfl⟩ := List.mem_map.mp member
      exact Nat.le_min.mpr ⟨onesFront a inFront, by omega⟩
    · obtain ⟨a, inBack, rfl⟩ := List.mem_map.mp member
      exact Nat.le_min.mpr ⟨onesBack a inBack, by omega⟩
  · intro n member
    by_contra none
    have most (list : List Nat) (sub : ∀ m ∈ list, m ∈ cut amount level front back) :
        list.sum ≤ list.length := by
      have few := List.sum_le_card_nsmul list 1 fun m inside =>
        (le_of_mem_cut (sub m inside)).trans (by omega)
      rwa [Nat.nsmul_eq_mul, Nat.mul_one] at few
    rw [← cut_length] at enough
    obtain ⟨before, after, split⟩ := List.append_of_mem member
    rw [split] at most enough
    have first := most before fun m inside => List.mem_append_left _ inside
    have last := most after fun m inside => List.mem_append_right _ (List.mem_cons_of_mem _ inside)
    rw [List.sum_append, List.sum_cons, List.length_append, List.length_cons] at enough
    omega

/-- In a cut that leaves more than one unit each, the last entry that reaches the level can be
found and is above 1. -/
theorem cut_top (level : Nat) (front back : List α)
    (more : (front ++ back).length < (cut amount level front back).sum) :
    ∃ high first top rest, first ++ top :: rest = front ++ back ∧ 2 ≤ high ∧ high ≤ amount top ∧
      cut amount level front back = cut amount high (first ++ [top]) rest := by
  induction level generalizing front back with
  | zero => exact absurd (two_le_of_more more) (by decide)
  | succ level ih =>
    cases chosen : lastMax (fun a => min (amount a) (level + 1)) front with
    | none =>
      rw [lastMax_eq_none] at chosen
      subst chosen
      have lower : cut amount (level + 1) [] back = cut amount level back [] := by
        simp [cut, capped]
      rw [lower] at more ⊢
      obtain ⟨high, first, top, rest, parts, two, reaches, same⟩ := ih back [] (by simpa using more)
      exact ⟨high, first, top, rest, by simpa using parts, two, reaches, same⟩
    | some top =>
      obtain ⟨before, after, rfl, most, under⟩ := lastMax_eq_some.mp chosen
      by_cases reaches : level + 1 ≤ amount top
      · have behind : capped amount (level + 1) after = capped amount level after :=
          capped_below fun a member => by
            have less := under a member
            omega
        have same : cut amount (level + 1) (before ++ top :: after) back =
            cut amount (level + 1) (before ++ [top]) (after ++ back) := by
          rw [cut, cut, Nat.add_sub_cancel, capped_append level after, ← behind,
            ← List.append_assoc, ← capped_append, List.append_assoc]
          rfl
        exact ⟨level + 1, before, top, after ++ back, by simp, two_le_of_more more, reaches, same⟩
      · have below : ∀ a ∈ before ++ top :: after, amount a < level + 1 := by
          refine List.forall_mem_append.mpr ⟨fun a member => ?_,
            List.forall_mem_cons.mpr ⟨by omega, fun a member => ?_⟩⟩
          · have least := most a member
            omega
          · have less := under a member
            omega
        have lower : cut amount (level + 1) (before ++ top :: after) back =
            cut amount level ((before ++ top :: after) ++ back) [] := by
          rw [cut, capped_below below, cut, capped_append]
          simp [capped]
        rw [lower] at more ⊢
        obtain ⟨high, first, top, rest, parts, two, reaches, same⟩ :=
          ih ((before ++ top :: after) ++ back) [] (by simpa using more)
        exact ⟨high, first, top, rest, by simpa using parts, two, reaches, same⟩

end Seshat.Lib.Levelling
