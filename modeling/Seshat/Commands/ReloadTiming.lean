import Seshat.Lib.Checked
import Seshat.Lib.Durations
import Seshat.Run.PhaseClock
import Mathlib.Tactic.Common

/-! When a hot reload is triggered, and where in the phases of its run that is. -/

namespace Seshat.Commands
open Run Lib.Saturating Lib.Durations

/-- The trigger, counted from the start of the engine, and the length of the measurement.
`none` is a sum that overflows. -/
def reloadTiming (triggerSecs : UInt64) (warmup : Duration) (postWindowSecs connections : UInt64) :
    Option (Duration × Duration) := do
  let allowanceMs := min (satMul 20 connections) 10000
  let setupAllowance := Duration.ofMillis allowanceMs
  let trigger ← (← warmup.add setupAllowance).add (.ofSecs triggerSecs)
  let secs ← Lib.Checked.add (← Lib.Checked.add triggerSecs.toNat postWindowSecs.toNat) 2
  let measure ← setupAllowance.add (.ofSecs (.ofNat secs))
  return (trigger, measure)

/-- The phases of a run whose connections are up after `setup` nanoseconds. -/
def phasesAfter (setup : Nat) (warmup measure cooldown : Duration) : Clock where
  measureAt := setup + warmup.ns
  cooldownAt := setup + warmup.ns + measure.ns
  doneAt := setup + warmup.ns + measure.ns + cooldown.ns
  warms := Nat.le_add_right _ _
  cools := Nat.le_add_right _ _

/-- The reload fires in the measurement, and its observation window ends there too. -/
def ReloadLands (triggerSecs : UInt64) (warmup : Duration) (postWindowSecs connections : UInt64)
    (setup : Nat) : Prop :=
  ∃ trigger measure, reloadTiming triggerSecs warmup postWindowSecs connections =
      some (trigger, measure) ∧
    ∀ cooldown, (phasesAfter setup warmup measure cooldown).Measuring trigger.ns ∧
      trigger.ns + postWindowSecs.toNat * 10 ^ 9 ≤
        (phasesAfter setup warmup measure cooldown).cooldownAt

section Timing

variable {triggerSecs : UInt64} {warmup : Duration} {postWindowSecs connections : UInt64}

/-- The nanoseconds left for the connections to come up. -/
def allowanceNs (connections : UInt64) : Nat := min (20 * connections.toNat) 10000 * 10 ^ 6

theorem allowance_ns (connections : UInt64) :
    (Duration.ofMillis (min (satMul 20 connections) 10000)).ns = allowanceNs connections := by
  have product := satMul_toNat 20 connections
  change (satMul 20 connections).toNat = min (20 * connections.toNat) top at product
  have capped : (min (satMul 20 connections) 10000).toNat = min (20 * connections.toNat) 10000 := by
    rw [UInt64.toNat_min, product]
    change min (min (20 * connections.toNat) (2 ^ 64 - 1)) 10000 = _
    omega
  rw [Duration.ofMillis_ns, allowanceNs, capped]

theorem reloadTiming_eq_some {trigger measure : Duration} :
    reloadTiming triggerSecs warmup postWindowSecs connections = some (trigger, measure) ↔
      trigger.ns = warmup.ns + allowanceNs connections + triggerSecs.toNat * 10 ^ 9 ∧
      measure.ns = allowanceNs connections +
        (triggerSecs.toNat + postWindowSecs.toNat + 2) * 10 ^ 9 := by
  have allowed := allowance_ns connections
  have word (secs : Nat) (fits : secs ≤ top) : (UInt64.ofNat secs).toNat = secs := by
    unfold top at fits
    rw [UInt64.toNat_ofNat']
    omega
  constructor
  · intro computed
    obtain ⟨warm, warmed, rest⟩ := Option.bind_eq_some_iff.mp computed
    obtain ⟨late, triggered, rest⟩ := Option.bind_eq_some_iff.mp rest
    obtain ⟨sum, summed, rest⟩ := Option.bind_eq_some_iff.mp rest
    obtain ⟨secs, counted, rest⟩ := Option.bind_eq_some_iff.mp rest
    obtain ⟨span, measured, rest⟩ := Option.bind_eq_some_iff.mp rest
    obtain ⟨rfl, rfl⟩ := Prod.ext_iff.mp (Option.some_inj.mp rest)
    obtain ⟨-, rfl⟩ := Lib.Checked.fit_eq_some.mp summed
    obtain ⟨fits, rfl⟩ := Lib.Checked.fit_eq_some.mp counted
    rw [Duration.add_eq_some] at warmed triggered measured
    rw [allowed] at warmed measured
    rw [warmed, Duration.ofSecs_ns] at triggered
    rw [Duration.ofSecs_ns, word _ fits] at measured
    exact ⟨triggered, measured⟩
  · rintro ⟨triggered, measured⟩
    have late := trigger.fits
    have long := measure.fits
    rw [triggered] at late
    rw [measured] at long
    unfold limit at late long
    have fits : triggerSecs.toNat + postWindowSecs.toNat + 2 ≤ top := by
      unfold top
      omega
    have warm : warmup.ns + allowanceNs connections < limit := by
      unfold limit
      omega
    refine Lib.Checked.bind_eq (a := ⟨_, warm⟩) (Duration.add_eq_some.mpr ?_)
      (Lib.Checked.bind_eq (Duration.add_eq_some.mpr triggered)
      (Lib.Checked.bind_eq (Lib.Checked.fit_eq_some.mpr ⟨by omega, rfl⟩)
      (Lib.Checked.bind_eq (Lib.Checked.fit_eq_some.mpr ⟨fits, rfl⟩)
      (Lib.Checked.bind_eq (Duration.add_eq_some.mpr ?_) rfl))))
    · rw [allowed]
    · rw [measured, allowed, Duration.ofSecs_ns, word _ fits]

/-- Where a reload lands that is not lost to an overflow. -/
theorem reloadLands_iff {setup : Nat} :
    ReloadLands triggerSecs warmup postWindowSecs connections setup ↔
      setup ≤ allowanceNs connections + triggerSecs.toNat * 10 ^ 9 ∧
      warmup.ns + allowanceNs connections + triggerSecs.toNat * 10 ^ 9 < limit ∧
      allowanceNs connections + (triggerSecs.toNat + postWindowSecs.toNat + 2) * 10 ^ 9 < limit := by
  constructor
  · rintro ⟨trigger, measure, computed, lands⟩
    obtain ⟨triggered, measured⟩ := reloadTiming_eq_some.mp computed
    obtain ⟨⟨up, -⟩, -⟩ := lands warmup
    change setup + warmup.ns ≤ trigger.ns at up
    exact ⟨by omega, triggered ▸ trigger.fits, measured ▸ measure.fits⟩
  · rintro ⟨up, late, long⟩
    refine ⟨⟨_, late⟩, ⟨_, long⟩, reloadTiming_eq_some.mpr ⟨rfl, rfl⟩, fun cooldown => ?_⟩
    change (setup + warmup.ns ≤ _ ∧ _ < setup + warmup.ns + _) ∧ _ ≤ setup + warmup.ns + _
    dsimp only
    omega

/-- The allowance is enough for every set-up of 20 ms a connection only up to the number of
connections at which its cap and the trigger hold all of them. -/
theorem reloadTiming_lands_iff :
    (∀ setup ≤ connections.toNat * (20 * 10 ^ 6),
      ReloadLands triggerSecs warmup postWindowSecs connections setup) ↔
      connections.toNat ≤ 500 + 50 * triggerSecs.toNat ∧
      warmup.ns + allowanceNs connections + triggerSecs.toNat * 10 ^ 9 < limit ∧
      allowanceNs connections + (triggerSecs.toNat + postWindowSecs.toNat + 2) * 10 ^ 9 < limit := by
  constructor
  · intro lands
    obtain ⟨up, fits⟩ := reloadLands_iff.mp (lands _ (Nat.le_refl _))
    unfold allowanceNs at up
    exact ⟨by omega, fits⟩
  · rintro ⟨few, fits⟩ setup bound
    refine reloadLands_iff.mpr ⟨Nat.le_trans bound ?_, fits⟩
    clear fits
    rcases Nat.le_total (20 * connections.toNat) 10000 with whole | capped
    · rw [allowanceNs, Nat.min_eq_left whole]
      omega
    · rw [allowanceNs, Nat.min_eq_right capped]
      omega

end Timing

/-- Of 1024 connections the last may come up after the reload has fired. -/
theorem reloadLands_late : ¬ReloadLands 3 (.ofSecs 2) 5 1024 (1024 * (20 * 10 ^ 6)) := by
  rw [reloadLands_iff]
  decide

end Seshat.Commands
