import Mathlib.Data.List.Nodup
import Mathlib.Tactic.Common

/-! Items that are emitted one by one, each at its position, as long as every name is new. -/

namespace Seshat.Lib.Emission

variable {α β κ ε : Type*} [BEq κ] [LawfulBEq κ]

def emitOne (name : α → κ) (named : β → κ) (emit : α → ℕ → β) (refuse : α → ε) (taken : List β)
    (item : α) : Except ε (List β) :=
  if (taken.map named).contains (name item) then .error (refuse item)
  else .ok (taken ++ [emit item taken.length])

section Rules

variable {name : α → κ} {named : β → κ} {emit : α → ℕ → β} {refuse : α → ε} {taken done : List β}

theorem emitOne_known {item : α} (known : name item ∈ taken.map named) :
    emitOne name named emit refuse taken item = .error (refuse item) := by
  rw [emitOne, if_pos (List.contains_iff_mem.mpr known)]

theorem emitOne_new {item : α} (new : name item ∉ taken.map named) :
    emitOne name named emit refuse taken item = .ok (taken ++ [emit item taken.length]) := by
  rw [emitOne, if_neg fun found => new (List.contains_iff_mem.mp found)]

variable (keeps : ∀ item position, named (emit item position) = name item)
include keeps

/-- The emission succeeds iff every name is new, and then it holds each item at its position. -/
theorem emitAll_ok_iff (items : List α) (distinct : (taken.map named).Nodup) :
    items.foldlM (emitOne name named emit refuse) taken = .ok done ↔
      (taken.map named ++ items.map name).Nodup ∧
        done = taken ++ items.mapIdx fun index item => emit item (taken.length + index) := by
  induction items generalizing taken with
  | nil => simp [distinct, pure, Except.pure, eq_comm]
  | cons item items ih =>
    rw [List.foldlM_cons]
    by_cases known : name item ∈ taken.map named
    · rw [emitOne_known known]
      refine iff_of_false (by simp [bind, Except.bind]) fun ⟨whole, _⟩ => ?_
      exact (List.disjoint_of_nodup_append whole) known (List.mem_map_of_mem List.mem_cons_self)
    · have grown : ((taken ++ [emit item taken.length]).map named).Nodup := by
        rw [List.map_append, List.map_singleton, keeps, ← List.concat_eq_append]
        exact distinct.concat known
      have step := ih grown
      simp only [List.map_append, List.map_cons, List.map_nil, keeps, List.append_assoc,
        List.singleton_append, List.length_append, List.length_singleton, Nat.add_assoc,
        Nat.add_comm 1] at step
      rw [emitOne_new known, List.map_cons, List.mapIdx_cons]
      exact step

theorem emitAll_ok {items : List α}
    (emitted : items.foldlM (emitOne name named emit refuse) [] = .ok done) :
    (items.map name).Nodup ∧ done = items.mapIdx fun index item => emit item index := by
  rw [emitAll_ok_iff keeps items (by simp)] at emitted
  simpa using emitted

/-- Items of different names are all emitted. -/
theorem emitAll_of_nodup {items : List α} (distinct : (items.map name).Nodup) :
    items.foldlM (emitOne name named emit refuse) [] =
      .ok (items.mapIdx fun index item => emit item index) := by
  rw [emitAll_ok_iff keeps items (by simp)]
  simpa using distinct

end Rules

end Seshat.Lib.Emission
