import Mathlib.Algebra.BigOperators.Ring.List
import Mathlib.Algebra.Order.BigOperators.Group.List
import Mathlib.Algebra.Order.Ring.Nat
import Mathlib.Tactic.Common

/-! A sequence that interleaves several series: the series apart, each element with the one
before it, and the neighbours in a whole. -/

namespace Seshat.Lib.Series

variable {α κ : Type*}

/-- Each element with the one before it. -/
def paired : Option α → List α → List (Option α × α)
  | _, [] => []
  | prev, a :: rest => (prev, a) :: paired (some a) rest

theorem paired_map_snd (prev : Option α) (list : List α) :
    (paired prev list).map Prod.snd = list := by
  induction list generalizing prev with
  | nil => rfl
  | cons a rest ih => rw [paired, List.map_cons, ih]

theorem mem_paired {prev : Option α} {list : List α} {pair : Option α × α}
    (member : pair ∈ paired prev list) : pair.2 ∈ list :=
  paired_map_snd prev list ▸ List.mem_map_of_mem member

theorem paired_append (prev : Option α) (front back : List α) (a : α) :
    paired prev (front ++ a :: back) =
      paired prev front ++ (front.getLast?.or prev, a) :: paired (some a) back := by
  induction front generalizing prev with
  | nil => rfl
  | cons b front ih =>
    rw [List.cons_append, paired, ih, paired, List.getLast?_cons, List.cons_append]
    cases front.getLast? <;> rfl

theorem sum_filter_of_zero {M β : Type*} [AddCommMonoid M] (f : β → M) (p : β → Bool)
    {list : List β} (zero : ∀ b ∈ list, p b = false → f b = 0) :
    ((list.filter p).map f).sum = (list.map f).sum := by
  induction list with
  | nil => rfl
  | cons b rest ih =>
    obtain ⟨first, others⟩ := List.forall_mem_cons.mp zero
    rw [List.map_cons, List.sum_cons, ← ih others]
    cases kept : p b with
    | false => rw [List.filter_cons_of_neg (by rw [kept]; decide), first kept, zero_add]
    | true => rw [List.filter_cons_of_pos kept, List.map_cons, List.sum_cons]

/-! Neighbours. -/

def neighbours : List α → List (α × α)
  | a :: b :: rest => (a, b) :: neighbours (b :: rest)
  | _ => []

theorem split_of_neighbours {list : List α} {a b : α} (member : (a, b) ∈ neighbours list) :
    ∃ front back, list = front ++ a :: b :: back := by
  induction list with
  | nil => cases member
  | cons first rest ih =>
    cases rest with
    | nil => cases member
    | cons second rest =>
      rcases List.mem_cons.mp member with same | inside
      · obtain ⟨rfl, rfl⟩ := Prod.mk.inj same
        exact ⟨[], rest, rfl⟩
      · obtain ⟨front, back, split⟩ := ih inside
        exact ⟨first :: front, back, by rw [split]; rfl⟩

theorem adjacent_of_pairwise {R : α → α → Prop} {front back : List α} {a b : α}
    (ordered : (front ++ a :: b :: back).Pairwise R) : R a b := by
  obtain ⟨-, right, -⟩ := List.pairwise_append.mp ordered
  exact (List.pairwise_cons.mp right).1 b List.mem_cons_self

theorem neighbours_of_pairwise {R : α → α → Prop} {list : List α} (ordered : list.Pairwise R)
    {pair : α × α} (member : pair ∈ neighbours list) : R pair.1 pair.2 := by
  obtain ⟨front, back, rfl⟩ := split_of_neighbours member
  exact adjacent_of_pairwise ordered

theorem sum_comm {β M : Type*} [AddCommMonoid M] (xs : List α) (ys : List β) (f : α → β → M) :
    (xs.map fun x => (ys.map (f x)).sum).sum =
      (ys.map fun y => (xs.map fun x => f x y).sum).sum := by
  induction xs with
  | nil => simp
  | cons x xs ih => simp only [List.map_cons, List.sum_cons, ih, List.sum_map_add]

/-- Some element has at least its part of a total. -/
theorem exists_share {list : List α} (filled : list ≠ []) (f g : α → ℕ) :
    ∃ a ∈ list, (list.map f).sum * g a ≤ f a * (list.map g).sum := by
  refine List.exists_le_of_sum_le filled _ _ (le_of_eq ?_)
  rw [List.sum_map_mul_left, List.sum_map_mul_right]

end Seshat.Lib.Series
