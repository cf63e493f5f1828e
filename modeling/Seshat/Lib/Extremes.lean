import Mathlib.Order.MinMax
import Mathlib.Tactic.Common

/-! The last of the largest elements of a list, the first of the smallest, and how large they
are. -/

namespace Seshat.Lib.Extremes

variable {α K : Type*} [LinearOrder K] (key : α → K)

/-- Of equally large elements the last one. -/
def lastMax : List α → Option α
  | [] => none
  | a :: rest =>
      match lastMax rest with
      | none => some a
      | some best => if key best < key a then some a else some best

/-- Of equally small elements the first one. -/
def firstMin : List α → Option α
  | [] => none
  | a :: rest =>
      match firstMin rest with
      | none => some a
      | some best => if key best < key a then some best else some a

variable {key} {list : List α} {most : α}

theorem lastMax_eq_none : lastMax key list = none ↔ list = [] := by
  cases list with
  | nil => exact iff_of_true rfl rfl
  | cons a rest =>
    refine iff_of_false (fun none => ?_) (List.cons_ne_nil a rest)
    rw [lastMax] at none
    split at none
    · cases none
    · split at none <;> cases none

/-- Nothing in front of it is larger, and everything behind it is smaller. -/
theorem lastMax_eq_some : lastMax key list = some most ↔
    ∃ before after, list = before ++ most :: after ∧ (∀ a ∈ before, key a ≤ key most) ∧
      ∀ a ∈ after, key a < key most := by
  induction list generalizing most with
  | nil => exact iff_of_false (by simp [lastMax]) (by simp)
  | cons a rest ih =>
    rw [lastMax]
    cases later : lastMax key rest with
    | none =>
      rw [lastMax_eq_none] at later
      subst later
      constructor
      · intro same
        obtain rfl := Option.some.inj same
        exact ⟨[], [], rfl, by simp, by simp⟩
      · rintro ⟨before, after, split, -, -⟩
        rcases before with _ | ⟨b, before⟩
        · exact congrArg some (List.cons.inj split).1
        · simp at split
    | some best =>
      obtain ⟨front, back, rfl, below, under⟩ := ih.mp later
      have within : ∀ b ∈ front ++ best :: back, key b ≤ key best :=
        List.forall_mem_append.mpr
          ⟨below, List.forall_mem_cons.mpr ⟨le_rfl, fun b member => (under b member).le⟩⟩
      dsimp only
      constructor
      · intro chosen
        by_cases first : key best < key a
        · rw [if_pos first] at chosen
          obtain rfl := Option.some.inj chosen
          exact ⟨[], front ++ best :: back, rfl, by simp,
            fun b member => (within b member).trans_lt first⟩
        · rw [if_neg first] at chosen
          obtain rfl := Option.some.inj chosen
          exact ⟨a :: front, back, rfl, List.forall_mem_cons.mpr ⟨not_lt.mp first, below⟩, under⟩
      · rintro ⟨before, after, split, below', under'⟩
        rcases before with _ | ⟨b, before⟩
        · obtain ⟨rfl, rfl⟩ := List.cons.inj split
          rw [if_pos (under' best (by simp))]
        · obtain ⟨rfl, split'⟩ := List.cons.inj split
          obtain ⟨below'', notFirst⟩ :=
            And.symm (List.forall_mem_cons.mp below')
          have same : best = most :=
            Option.some.inj (later.symm.trans (ih.mpr ⟨before, after, split', below'', under'⟩))
          rw [if_neg (not_lt.mpr (same ▸ notFirst)), same]

theorem le_lastMax (chosen : lastMax key list = some most) : ∀ a ∈ list, key a ≤ key most := by
  obtain ⟨before, after, rfl, below, under⟩ := lastMax_eq_some.mp chosen
  exact List.forall_mem_append.mpr
    ⟨below, List.forall_mem_cons.mpr ⟨le_rfl, fun a member => (under a member).le⟩⟩

/-- The last of the largest images is that of the last element with the largest image. -/
theorem lastMax_map {β : Type*} (image : β → α) (list : List β) :
    lastMax key (list.map image) = (lastMax (fun b => key (image b)) list).map image := by
  induction list with
  | nil => rfl
  | cons b rest ih =>
    rw [List.map_cons, lastMax, lastMax, ih]
    cases lastMax (fun b => key (image b)) rest with
    | none => rfl
    | some best =>
      rw [Option.map_some]
      by_cases less : key (image best) < key (image b)
      · simp only [if_pos less, Option.map_some]
      · simp only [if_neg less, Option.map_some]

theorem firstMin_eq_none : firstMin key list = none ↔ list = [] := by
  cases list with
  | nil => exact iff_of_true rfl rfl
  | cons a rest =>
    refine iff_of_false (fun none => ?_) (List.cons_ne_nil a rest)
    rw [firstMin] at none
    split at none
    · cases none
    · split at none <;> cases none

theorem firstMin_le {least : α} (chosen : firstMin key list = some least) :
    ∀ a ∈ list, key least ≤ key a := by
  induction list generalizing least with
  | nil => exact List.forall_mem_nil _
  | cons a rest ih =>
    rw [firstMin] at chosen
    cases later : firstMin key rest with
    | none =>
      rw [later, Option.some_inj] at chosen
      rw [firstMin_eq_none.mp later, ← chosen]
      exact List.forall_mem_singleton.mpr le_rfl
    | some best =>
      rw [later] at chosen
      have behind := ih later
      by_cases smaller : key best < key a
      · obtain rfl : best = least := by simpa [smaller] using chosen
        exact List.forall_mem_cons.mpr ⟨smaller.le, behind⟩
      · obtain rfl : a = least := by simpa [smaller] using chosen
        exact List.forall_mem_cons.mpr
          ⟨le_rfl, fun b member => (not_lt.mp smaller).trans (behind b member)⟩

theorem foldl_max_le (list : List K) (start bound : K) :
    list.foldl max start ≤ bound ↔ start ≤ bound ∧ ∀ a ∈ list, a ≤ bound := by
  induction list generalizing start with
  | nil => simp
  | cons a rest ih => rw [List.foldl_cons, ih, max_le_iff, List.forall_mem_cons, and_assoc]

theorem le_foldl_max {list : List K} {a : K} (start : K) (member : a ∈ list) :
    a ≤ list.foldl max start := ((foldl_max_le list start _).mp le_rfl).2 a member

theorem start_le_foldl_max (list : List K) (start : K) : start ≤ list.foldl max start :=
  ((foldl_max_le list start _).mp le_rfl).1

end Seshat.Lib.Extremes
