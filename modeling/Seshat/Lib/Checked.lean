import Seshat.Lib.Saturating
import Mathlib.Algebra.BigOperators.Group.List.Basic
import Mathlib.Tactic.Common

/-! Arithmetic with the overflow checks of a debug build: `none` is a panic. -/

namespace Seshat.Lib.Checked
open Saturating

/-- A number that fits the 64-bit word. -/
def fit (n : Nat) : Option Nat := if n ≤ top then some n else none

def add (a b : Nat) : Option Nat := fit (a + b)

def mul (a b : Nat) : Option Nat := fit (a * b)

def sub (a b : Nat) : Option Nat := if b ≤ a then some (a - b) else none

def div (a b : Nat) : Option Nat := if b = 0 then none else some (a / b)

def sum (list : List Nat) : Option Nat := list.foldlM add 0

theorem fit_eq_some {n m : Nat} : fit n = some m ↔ n ≤ top ∧ n = m := by
  unfold fit
  by_cases fits : n ≤ top <;> simp [fits]

theorem sub_eq_some {a b m : Nat} : sub a b = some m ↔ b ≤ a ∧ a - b = m := by
  unfold sub
  by_cases fits : b ≤ a <;> simp [fits]

theorem div_eq_some {a b m : Nat} : div a b = some m ↔ b ≠ 0 ∧ a / b = m := by
  unfold div
  by_cases zero : b = 0 <;> simp [zero]

/-- A sum fits together with all sums on the way to it. -/
theorem sum_eq_some {list : List Nat} {m : Nat} : sum list = some m ↔ list.sum ≤ top ∧ list.sum = m := by
  have along (start : Nat) (fits : start ≤ top) : list.foldlM add start = some m ↔
      start + list.sum ≤ top ∧ start + list.sum = m := by
    induction list generalizing start with
    | nil => simp [fits]
    | cons a rest ih =>
      rw [List.foldlM_cons, List.sum_cons, ← Nat.add_assoc]
      by_cases next : start + a ≤ top
      · rw [show add start a = some (start + a) from if_pos next]
        exact ih (start + a) next
      · rw [show add start a = none from if_neg next]
        exact iff_of_false (by simp) fun both => next (by omega)
  have whole := along 0 (Nat.zero_le _)
  rwa [Nat.zero_add] at whole

/-- What is computed for every element of a list, if it is for each. -/
theorem mapM_eq_some {α β : Type*} {f : α → Option β} {g : α → β} {list : List α}
    (each : ∀ a ∈ list, ∀ b, f a = some b → b = g a) {result : List β} :
    list.mapM f = some result ↔ (∀ a ∈ list, (f a).isSome) ∧ list.map g = result := by
  induction list generalizing result with
  | nil => simp
  | cons a rest ih =>
    obtain ⟨first, later⟩ := List.forall_mem_cons.mp each
    rw [List.mapM_cons, List.forall_mem_cons, List.map_cons]
    cases value : f a with
    | none => simp
    | some b =>
      have same := first b value
      cases values : rest.mapM f with
      | none =>
        have missing : ¬∀ a ∈ rest, (f a).isSome := fun all => by
          have found := (ih later).mpr ⟨all, rfl⟩
          rw [values] at found
          cases found
        simp [missing]
      | some behind =>
        obtain ⟨all, rfl⟩ := (ih later).mp values
        simpa [same] using fun _ => all

/-! Signed words. -/

/-- A number that fits the signed 64-bit word. -/
def fitInt (n : Int) : Option Int := if -2 ^ 63 ≤ n ∧ n < 2 ^ 63 then some n else none

def addInt (a b : Int) : Option Int := fitInt (a + b)

def subInt (a b : Int) : Option Int := fitInt (a - b)

def mulInt (a b : Int) : Option Int := fitInt (a * b)

section Natural

variable {m n : Nat}

theorem fitInt_natCast (fits : n < 2 ^ 63) : fitInt n = some (n : Int) := if_pos (by omega)

theorem addInt_natCast (fits : m + n < 2 ^ 63) : addInt m n = some ((m + n : Nat) : Int) :=
  fitInt_natCast fits

theorem subInt_natCast (enough : n ≤ m) (fits : m < 2 ^ 63) :
    subInt m n = some ((m - n : Nat) : Int) := by
  rw [subInt, ← Int.ofNat_sub enough]
  exact fitInt_natCast (by omega)

theorem mulInt_natCast (fits : m * n < 2 ^ 63) : mulInt m n = some ((m * n : Nat) : Int) :=
  fitInt_natCast fits

end Natural

theorem tdiv_natCast (n k : Nat) [k.AtLeastTwo] :
    (n : Int).tdiv (OfNat.ofNat k) = ((n / OfNat.ofNat k : Nat) : Int) := rfl

/-- One step of a computation that goes through. -/
theorem bind_eq {α β : Type*} {first : Option α} {next : α → Option β} {a : α} {b : Option β}
    (found : first = some a) (rest : next a = b) : first.bind next = b := by
  subst found
  exact rest

end Seshat.Lib.Checked
