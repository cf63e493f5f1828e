import Mathlib.Tactic.Common

/-! Passes over items that skip those whose key is already recorded: what a pass works on,
and what is left to a second pass over the same items. -/

namespace Seshat.Lib.Passes

variable {σ ι κ : Type*} [DecidableEq κ]

/-- A pass: items whose key is recorded are left alone. -/
def pass (recorded : σ → κ → Bool) (key : ι → κ) (work : σ → ι → σ) (items : List ι) (state : σ) :
    σ :=
  items.foldl (fun state item => if recorded state (key item) then state else work state item) state

/-- The keys behind an item that is worked on. -/
def also (done : κ → Bool) (key : κ) : κ → Bool := fun other => done other || decide (other = key)

/-- The items a pass works on, if these keys are recorded. -/
def fresh (key : ι → κ) (done : κ → Bool) : List ι → List ι
  | [] => []
  | item :: rest =>
      if done (key item) then fresh key done rest
      else item :: fresh key (also done (key item)) rest

section Rules

variable {recorded : σ → κ → Bool} {key : ι → κ} {work : σ → ι → σ}

omit [DecidableEq κ] in
theorem pass_append (first second : List ι) (state : σ) :
    pass recorded key work (first ++ second) state =
      pass recorded key work second (pass recorded key work first state) := List.foldl_append

variable (records : ∀ state item, recorded (work state item) = also (recorded state) (key item))
include records

/-- A pass is its work on the fresh items. -/
theorem pass_fresh (items : List ι) (state : σ) :
    pass recorded key work items state =
      (fresh key (recorded state) items).foldl work state := by
  induction items generalizing state with
  | nil => rfl
  | cons item rest ih =>
    rw [pass, List.foldl_cons, fresh]
    by_cases known : recorded state (key item) = true
    · rw [if_pos known, if_pos known]
      exact ih state
    · rw [if_neg known, if_neg known, List.foldl_cons, ← records]
      exact ih (work state item)

theorem recorded_pass (items : List ι) (state : σ) (k : κ) :
    recorded (pass recorded key work items state) k = true ↔
      recorded state k = true ∨ ∃ item ∈ items, key item = k := by
  induction items generalizing state with
  | nil => simp [pass]
  | cons item rest ih =>
    rw [pass, List.foldl_cons]
    by_cases known : recorded state (key item) = true
    · rw [if_pos known]
      refine (ih state).trans ?_
      constructor
      · rintro (before | ⟨other, member, same⟩)
        · exact Or.inl before
        · exact Or.inr ⟨other, List.mem_cons_of_mem _ member, same⟩
      · rintro (before | ⟨other, member, same⟩)
        · exact Or.inl before
        · rcases List.mem_cons.mp member with rfl | later
          · exact Or.inl (same ▸ known)
          · exact Or.inr ⟨other, later, same⟩
    · rw [if_neg known]
      refine (ih (work state item)).trans ?_
      rw [records, also, Bool.or_eq_true, decide_eq_true_iff, or_assoc, eq_comm (b := key item)]
      simp only [List.mem_cons, or_and_right, exists_or, exists_eq_left]

end Rules

theorem fresh_sublist (key : ι → κ) (done : κ → Bool) (items : List ι) :
    (fresh key done items).Sublist items := by
  induction items generalizing done with
  | nil => exact .slnil
  | cons item rest ih =>
    rw [fresh]
    split
    · exact (ih done).cons item
    · exact (ih _).cons_cons item

/-- Recorded items leave nothing to do. -/
theorem fresh_done {key : ι → κ} {done : κ → Bool} {items : List ι}
    (all : ∀ item ∈ items, done (key item) = true) : fresh key done items = [] := by
  induction items with
  | nil => rfl
  | cons item rest ih =>
    rw [fresh, if_pos (all item List.mem_cons_self)]
    exact ih fun other member => all other (List.mem_cons_of_mem _ member)

end Seshat.Lib.Passes
