import Seshat.Run.Saturation
import Mathlib.Tactic.Linarith

/-! The rates that an accepted saturation plan sweeps over. -/

namespace Seshat.Run
open Config Lib.Saturating

/-- As many points as fit between the rates, up to the cap, one above the other. -/
structure ExactSweep (plan : SweepPlan) : Prop where
  /-- The addition behind the cast stays within the word. -/
  fits : plan.steps.toNat + 1 ≤ top
  count : plan.points = min (⌊(plan.maxMbps - plan.startMbps) / plan.stepMbps⌋₊ + 1) 10000
  some_point : 1 ≤ plan.points
  within : ∀ i < plan.points, plan.startMbps ≤ plan.rate i ∧ plan.rate i ≤ plan.maxMbps
  climbs : ∀ i j, i < j → j < plan.points → plan.rate i < plan.rate j

namespace SweepPlan

variable {plan : SweepPlan}

theorem start_positive (positive : 0 < plan.startMbps) : plan.start = plan.startMbps :=
  max_eq_left positive.le

theorem steps_toNat (positive : 0 < plan.startMbps) (ordered : plan.startMbps ≤ plan.maxMbps) :
    plan.steps.toNat = min ⌊(plan.maxMbps - plan.startMbps) / plan.stepMbps⌋₊ top := by
  rw [steps, clampWord_toNat, start_positive positive, max_eq_left (sub_nonneg.mpr ordered)]
  rfl

theorem rate_le {i : Nat} (positive : 0 < plan.startMbps) (step : 0 < plan.stepMbps)
    (ordered : plan.startMbps ≤ plan.maxMbps)
    (inside : i ≤ ⌊(plan.maxMbps - plan.startMbps) / plan.stepMbps⌋₊) :
    plan.rate i ≤ plan.maxMbps := by
  have room : 0 ≤ (plan.maxMbps - plan.startMbps) / plan.stepMbps :=
    div_nonneg (sub_nonneg.mpr ordered) step.le
  have steps := (le_div_iff₀ step).mp ((Nat.le_floor_iff room).mp inside)
  rw [rate, start_positive positive]
  linarith only [steps]

theorem rate_strictMono (step : 0 < plan.stepMbps) : StrictMono plan.rate := fun _ _ before =>
  add_lt_add_right (mul_lt_mul_of_pos_right (Nat.cast_lt.mpr before) step) _

theorem exact_iff (positive : 0 < plan.startMbps) (step : 0 < plan.stepMbps)
    (ordered : plan.startMbps ≤ plan.maxMbps) :
    ExactSweep plan ↔ ⌊(plan.maxMbps - plan.startMbps) / plan.stepMbps⌋₊ < top := by
  have steps := steps_toNat positive ordered
  constructor
  · intro exact_sweep
    have fits := exact_sweep.fits
    omega
  · intro small
    rw [Nat.min_eq_left small.le] at steps
    have next : (plan.steps + 1).toNat = plan.steps.toNat + 1 := by
      rw [UInt64.toNat_add, UInt64.toNat_one, Nat.mod_eq_of_lt]
      unfold top at small
      omega
    have count : plan.points =
        min (⌊(plan.maxMbps - plan.startMbps) / plan.stepMbps⌋₊ + 1) 10000 := by
      rw [points, if_pos step, next, steps]
    refine ⟨by omega, count, by omega, fun i below => ⟨?_, ?_⟩, fun i j before _ => ?_⟩
    · rw [rate, start_positive positive]
      exact le_add_of_nonneg_right (mul_nonneg (Nat.cast_nonneg i) step.le)
    · exact rate_le positive step ordered (by omega)
    · exact rate_strictMono step before

end SweepPlan

/-- An accepted plan is swept exactly if the whole steps between its rates and one more fit the
word. -/
theorem exact_sweep_iff {config : Config} {s : Scenario} {plan : SweepPlan}
    (accepted : (validate config).ok = true) (member : s ∈ config.scenarios)
    (enabled : s.enabled = true) (planned : s.saturation.bind sweepPlan = some plan) :
    ExactSweep plan ↔ ⌊(plan.maxMbps - plan.startMbps) / plan.stepMbps⌋₊ < top := by
  obtain ⟨sat, some_plan, rates⟩ := Option.bind_eq_some_iff.mp planned
  obtain ⟨start, step, max, valid⟩ :=
    (validate_accepted accepted member enabled).saturation sat some_plan
  have same : plan = ⟨start, step, max⟩ := by
    rw [valid.rates] at rates
    exact (Option.some.inj rates).symm
  rw [same]
  exact SweepPlan.exact_iff valid.start_pos valid.step_pos valid.ordered

/-- Three runs of four connections, and a sweep that stops short of its last rate. -/
def sweptUds : Scenario :=
  { udsSweep with
    connections := 4, runs := some 3
    saturation := some { startMbps := some 100, stepMbps := some 75, maxMbps := some 300 } }

theorem exact_sweep_iff_uds : ∃ plan, sweptUds.saturation.bind sweepPlan = some plan ∧
    ExactSweep plan ∧ (List.range plan.points).map plan.rate = [100, 175, 250] := by
  have planned : sweptUds.saturation.bind sweepPlan = some ⟨100, 75, 300⟩ := rfl
  refine ⟨_, planned, ?_, by decide +kernel⟩
  exact (@exact_sweep_iff (udsConfig sweptUds) sweptUds _ (by decide +kernel) List.mem_cons_self
    rfl planned).mpr (by decide +kernel)

/-- A step of a 2 ^ 64th of the range. -/
def tinyStep : Scenario :=
  { udsSweep with
    saturation := some
      { startMbps := some 1, stepMbps := some (1 / 18446744073709551616), maxMbps := some 2 } }

/-- The cast saturates, the addition wraps to 0, and nothing is swept. -/
theorem tinyStep_sweepsNothing :
    (validate (udsConfig tinyStep)).ok = true ∧ tinyStep.enabled = true ∧
      ∃ plan, tinyStep.saturation.bind sweepPlan = some plan ∧ plan.points = 0 ∧
        ¬ExactSweep plan := by
  refine ⟨by decide +kernel, rfl, ⟨1, 1 / 18446744073709551616, 2⟩, by decide +kernel, ?_⟩
  have none : (⟨1, 1 / 18446744073709551616, 2⟩ : SweepPlan).points = 0 := by decide +kernel
  exact ⟨none, fun swept => absurd swept.some_point (by rw [none]; decide)⟩

end Seshat.Run
