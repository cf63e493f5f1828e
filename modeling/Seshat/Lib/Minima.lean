import Mathlib.Data.List.Induction
import Mathlib.Logic.Function.Basic
import Mathlib.Order.Bounds.Basic
import Mathlib.Tactic.Common

/-! The smallest of the values noted for each key. -/

namespace Seshat.Lib.Minima

variable {κ K : Type*} [DecidableEq κ] [LinearOrder K]

def note (low : κ → Option K) (key : κ) (value : K) : κ → Option K :=
  Function.update low key (some ((low key).elim value (min · value)))

/-- What a list of notes leaves, from a state on. -/
def noteAll (low : κ → Option K) (noted : List (κ × K)) : κ → Option K :=
  noted.foldl (fun low entry => note low entry.1 entry.2) low

def minima (noted : List (κ × K)) : κ → Option K := noteAll (fun _ => none) noted

/-- The state of a key after all its values. -/
inductive Lowest (values : Set K) : Option K → Prop
  | unknown (empty : values = ∅) : Lowest values none
  | known (value : K) (least : IsLeast values value) : Lowest values (some value)

theorem Lowest.iff_least {values : Set K} {state : Option K} (lowest : Lowest values state)
    (value : K) : state = some value ↔ IsLeast values value := by
  cases lowest with
  | unknown empty =>
    refine iff_of_false (by simp) fun least => ?_
    rw [empty] at least
    exact least.1
  | known own least =>
    rw [Option.some.injEq]
    exact ⟨fun same => same ▸ least, fun other => least.unique other⟩

/-- One more value of the key. -/
theorem Lowest.note {values : Set K} {low : κ → Option K} {key : κ}
    (lowest : Lowest values (low key)) (value : K) :
    Lowest (insert value values) (note low key value key) := by
  rw [Minima.note, Function.update_self]
  cases state : low key with
  | none =>
    rw [state] at lowest
    cases lowest with
    | unknown empty =>
      rw [empty, insert_empty_eq]
      exact .known value isLeast_singleton
  | some own =>
    rw [state] at lowest
    cases lowest with
    | known _ least =>
      refine .known _ ?_
      change IsLeast _ (min own value)
      rw [min_comm]
      exact least.insert value

theorem minima_snoc (noted : List (κ × K)) (entry : κ × K) :
    minima (noted ++ [entry]) = note (minima noted) entry.1 entry.2 := by
  rw [minima, noteAll, List.foldl_append]
  rfl

theorem minima_lowest (noted : List (κ × K)) (key : κ) :
    Lowest {value | (key, value) ∈ noted} (minima noted key) := by
  induction noted using List.reverseRecOn with
  | nil => exact .unknown (by simp)
  | append_singleton noted entry ih =>
    rw [minima_snoc]
    by_cases own : key = entry.1
    · have more : {value | (key, value) ∈ noted ++ [entry]} =
          insert entry.2 {value | (key, value) ∈ noted} := by
        ext value
        simp [Prod.ext_iff, own, or_comm]
      rw [more, own]
      exact Lowest.note (own ▸ ih) entry.2
    · have same : {value | (key, value) ∈ noted ++ [entry]} = {value | (key, value) ∈ noted} := by
        ext value
        simp [Prod.ext_iff, own]
      rw [same, note, Function.update_of_ne own]
      exact ih

/-- What is known of a key is the least of its values. -/
theorem minima_eq_some {noted : List (κ × K)} {key : κ} {value : K} :
    minima noted key = some value ↔ IsLeast {value | (key, value) ∈ noted} value :=
  (minima_lowest noted key).iff_least value

end Seshat.Lib.Minima
