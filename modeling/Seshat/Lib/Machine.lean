import Mathlib.Tactic.Common

/-! Machines with a partial step function: a step that is not enabled is `none`. A run
is a list of actions that are enabled one after the other. -/

namespace Seshat.Lib.Machine

variable {σ α : Type*} (step : σ → α → Option σ)

def run : σ → List α → Option σ
  | state, [] => some state
  | state, action :: rest => (step state action).bind fun next => run next rest

/-- A guard that holds before every step of a run. -/
def Along (guard : σ → α → Prop) : σ → List α → Prop
  | _, [] => True
  | state, action :: rest =>
      guard state action ∧ ∀ next, step state action = some next → Along guard next rest

theorem run_cons {state last : σ} {action : α} {rest : List α}
    (ran : run step state (action :: rest) = some last) :
    ∃ next, step state action = some next ∧ run step next rest = some last :=
  Option.bind_eq_some_iff.mp ran

theorem run_append (state : σ) (first second : List α) :
    run step state (first ++ second) =
      (run step state first).bind fun next => run step next second := by
  induction first generalizing state with
  | nil => rfl
  | cons action rest ih =>
    cases moved : step state action with
    | none => simp only [List.cons_append, run, moved, Option.bind_none]
    | some next => simpa only [List.cons_append, run, moved, Option.bind_some] using ih next

/-- A run with one more step behind it. -/
theorem run_snoc {state last next : σ} {actions : List α} {action : α}
    (ran : run step state actions = some last) (moved : step last action = some next) :
    run step state (actions ++ [action]) = some next := by
  rw [run_append, ran, Option.bind_some, run, moved, Option.bind_some, run]

/-- What every guarded step keeps holds at the end of every guarded run. -/
theorem run_guarded {guard : σ → α → Prop} {inv : σ → Prop}
    (keeps : ∀ state action next, inv state → guard state action →
      step state action = some next → inv next)
    {state last : σ} {actions : List α} (ran : run step state actions = some last)
    (start : inv state) (guarded : Along step guard state actions) : inv last := by
  induction actions generalizing state with
  | nil => exact Option.some.inj ran ▸ start
  | cons action rest ih =>
    obtain ⟨next, moved, later⟩ := run_cons step ran
    exact ih later (keeps state action next start guarded.1 moved) (guarded.2 next moved)

theorem along_true (state : σ) (actions : List α) :
    Along step (fun _ _ => True) state actions := by
  induction actions generalizing state with
  | nil => trivial
  | cons action rest ih => exact ⟨trivial, fun next _ => ih next⟩

/-- A guard on the actions alone. -/
theorem along_of_forall {guard : α → Prop} (state : σ) {actions : List α}
    (guarded : ∀ action ∈ actions, guard action) :
    Along step (fun _ action => guard action) state actions := by
  induction actions generalizing state with
  | nil => trivial
  | cons action rest ih =>
    obtain ⟨first, others⟩ := List.forall_mem_cons.mp guarded
    exact ⟨first, fun next _ => ih next others⟩

instance instDecidableAlong (guard : σ → α → Prop) [∀ state action, Decidable (guard state action)] :
    ∀ state actions, Decidable (Along step guard state actions)
  | _, [] => isTrue trivial
  | state, action :: rest =>
      match moved : step state action with
      | none => decidable_of_iff (guard state action)
          ⟨fun first => ⟨first, fun _ other => by rw [moved] at other; cases other⟩, And.left⟩
      | some next =>
          have := instDecidableAlong guard next rest
          decidable_of_iff (guard state action ∧ Along step guard next rest)
            ⟨fun both => ⟨both.1, fun _ other => by rw [moved] at other; cases other; exact both.2⟩,
              fun along => ⟨along.1, along.2 next moved⟩⟩

/-- What every step keeps holds at the end of every run. -/
theorem run_invariant {inv : σ → Prop}
    (keeps : ∀ state action next, inv state → step state action = some next → inv next)
    {state last : σ} {actions : List α} (ran : run step state actions = some last)
    (start : inv state) : inv last :=
  run_guarded step (fun state action next holds _ => keeps state action next holds) ran start
    (along_true step state actions)

/-- A run with an unguarded step ends in what that step causes and no step repairs. -/
theorem run_unguarded {guard : σ → α → Prop} {inv bad : σ → Prop}
    (keeps : ∀ state action next, inv state → step state action = some next → inv next)
    (causes : ∀ state action next, inv state → ¬guard state action →
      step state action = some next → bad next)
    (stays : ∀ state action next, bad state → step state action = some next → bad next)
    {state last : σ} {actions : List α} (ran : run step state actions = some last)
    (start : inv state) (unguarded : ¬Along step guard state actions) : bad last := by
  induction actions generalizing state with
  | nil => exact absurd trivial unguarded
  | cons action rest ih =>
    obtain ⟨next, moved, later⟩ := run_cons step ran
    by_cases guarded : guard state action
    · refine ih later (keeps state action next start moved) fun along => unguarded ⟨guarded, ?_⟩
      intro other same
      rw [moved, Option.some.injEq] at same
      exact same ▸ along
    · exact run_invariant step stays later (causes state action next start guarded moved)

end Seshat.Lib.Machine
