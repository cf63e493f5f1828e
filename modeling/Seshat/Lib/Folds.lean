import Seshat.Lib.Saturating
import Mathlib.Tactic.Common

/-! Folds whose steps may change places, and sums of words that wrap. -/

namespace Seshat.Lib.Folds
open Saturating

/-- A fold whose steps keep a relation, and may change places up to it, keeps it on every
permutation. -/
theorem foldl_perm {α β : Type*} {f : β → α → β} {R : β → β → Prop} (refl : ∀ s, R s s)
    (trans : ∀ s t u, R s t → R t u → R s u) (steps : ∀ a s t, R s t → R (f s a) (f t a))
    (swaps : ∀ a b s, R (f (f s a) b) (f (f s b) a)) {first second : List α}
    (perm : first.Perm second) {s t : β} (start : R s t) :
    R (first.foldl f s) (second.foldl f t) := by
  induction perm generalizing s t with
  | nil => exact start
  | cons a _ ih => exact ih (steps a s t start)
  | swap a b rest =>
    have moved := trans _ _ _ (steps a _ _ (steps b s t start)) (swaps b a t)
    exact List.foldl_rel moved fun c _ s t related => steps c s t related
  | trans _ _ left right => exact trans _ _ _ (left start) (right (refl t))

theorem word_right_comm (a b c : UInt64) : a + b + c = a + c + b := by
  rw [UInt64.add_assoc, UInt64.add_comm b c, ← UInt64.add_assoc]

section Wrapping

variable {α : Type*} (part : α → UInt64)

/-- A sum that wraps at the end of the word. -/
def wrapSum (list : List α) : UInt64 := list.foldl (fun total a => total + part a) 0

/-- The same sum as a number. -/
def exactSum (list : List α) : Nat := (list.map fun a => (part a).toNat).sum

theorem wrapSum_toNat (list : List α) : (wrapSum part list).toNat = exactSum part list % 2 ^ 64 := by
  have along (start : UInt64) : (list.foldl (fun total a => total + part a) start).toNat =
      (start.toNat + exactSum part list) % 2 ^ 64 := by
    induction list generalizing start with
    | nil => exact (Nat.mod_eq_of_lt start.toNat_lt).symm
    | cons a rest ih =>
      rw [List.foldl_cons, ih, UInt64.toNat_add, Nat.mod_add_mod, Nat.add_assoc]
      rfl
  rw [wrapSum, along, UInt64.toNat_zero, Nat.zero_add]

/-- A wrapping sum is exact as long as it fits the word. -/
theorem wrapSum_exact_iff (list : List α) :
    (wrapSum part list).toNat = exactSum part list ↔ exactSum part list ≤ top := by
  rw [wrapSum_toNat]
  unfold top
  omega

theorem wrapSum_eq_sum {list : List α} {value : α → Nat}
    (each : ∀ a ∈ list, (part a).toNat = value a) (small : (list.map value).sum < 2 ^ 64) :
    (wrapSum part list).toNat = (list.map value).sum := by
  have exact_sum : exactSum part list = (list.map value).sum :=
    congrArg List.sum (List.map_congr_left each)
  rw [wrapSum_toNat, exact_sum, Nat.mod_eq_of_lt small]

theorem wrapSum_zero {list : List α} (each : ∀ a ∈ list, part a = 0) : wrapSum part list = 0 := by
  induction list with
  | nil => rfl
  | cons a rest ih =>
    rw [wrapSum, List.foldl_cons, each a List.mem_cons_self]
    exact ih fun other member => each other (List.mem_cons_of_mem _ member)

end Wrapping

end Seshat.Lib.Folds
