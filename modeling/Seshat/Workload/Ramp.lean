import Seshat.Config.Validate
import Seshat.Workload.Schedule
import Mathlib.Tactic.FieldSimp
import Mathlib.Tactic.Linarith
import Mathlib.Tactic.Positivity

/-! Ramps: the rate a deadline's step has, and when a ramp climbs to the end of its clock. -/

namespace Seshat.Workload
open Config Lib.Saturating

/-- The gap of a rate is positive up to one message bit for each nanosecond. -/
theorem gapNsForRate_ne_zero (messageBytes : UInt32) (rateMbps : ℚ) :
    gapNsForRate messageBytes rateMbps ≠ 0 ↔
      0 < rateMbps ∧ rateMbps ≤ 8000 * messageBytes.toNat := by
  unfold gapNsForRate
  by_cases none : rateMbps ≤ 0
  · rw [if_pos none]
    exact iff_of_false (fun some_gap => some_gap rfl) fun both => absurd both.1 (not_lt.mpr none)
  · have positive := not_le.mp none
    have whole : (messageBytes.toNat * 8 : ℚ) / (rateMbps * 10 ^ 6) * 10 ^ 9 =
        8000 * messageBytes.toNat / rateMbps := by
      field_simp
      ring
    rw [if_neg none, and_iff_right positive]
    dsimp only
    rw [whole, ← one_le_div₀ positive, ne_eq, ← UInt64.toNat_inj, UInt64.toNat_zero, clampWord_toNat]
    have floor : (1 : ℚ) ≤ 8000 * messageBytes.toNat / rateMbps ↔
        1 ≤ ⌊8000 * (messageBytes.toNat : ℚ) / rateMbps⌋ := by
      rw [Int.le_floor, Int.cast_one]
    rw [floor]
    unfold top
    omega

/-- The interval between two steps, as the pacer holds it. -/
def stepIntervalNs (sender : Sender) : UInt64 :=
  satMul (max (sender.rampStepIntervalSecs.getD 1) 1) 1000000000

/-- The rate of the step that a deadline lies in. -/
def rampRate (sender : Sender) (d : UInt64) : ℚ :=
  sender.rampStartMbps.getD 0 +
    sender.rampStepMbps.getD 0 * ((d / stepIntervalNs sender).toNat : ℚ)

/-- The deadlines climb until they saturate, each gap being that of its deadline's step. -/
structure Climbs (sender : Sender) (messageBytes : UInt32) : Prop where
  reaches : ∃ n, ((Pacer.fromSender sender messageBytes).deadline n).toNat = top
  gaps : ∀ n, (Pacer.fromSender sender messageBytes).deadline (n + 1) =
    satAdd ((Pacer.fromSender sender messageBytes).deadline n)
      (gapNsForRate messageBytes
        (rampRate sender ((Pacer.fromSender sender messageBytes).deadline n)))

section Ramp

variable {sender : Sender} {messageBytes : UInt32}

theorem fromSender_ramp (ramp : sender.pattern = .ramp)
    (climbing : 0 < sender.rampStepMbps.getD 0) :
    (Pacer.fromSender sender messageBytes).kind =
      .ramp messageBytes (max (sender.rampStartMbps.getD 0) 0) (sender.rampStepMbps.getD 0)
        (stepIntervalNs sender) (stepInterval_ne_zero _) := by
  simp only [Pacer.fromSender, ramp, max_eq_left climbing.le]
  rfl

theorem rampRate_start_le (climbing : 0 < sender.rampStepMbps.getD 0) (d : UInt64) :
    sender.rampStartMbps.getD 0 ≤ rampRate sender d :=
  le_add_of_nonneg_right (mul_nonneg climbing.le (Nat.cast_nonneg _))

/-- A ramp stands still where the gap of the deadline's rate is zero. -/
theorem ramp_standsStill (ramp : sender.pattern = .ramp)
    (climbing : 0 < sender.rampStepMbps.getD 0) (n : Nat) :
    ((Pacer.fromSender sender messageBytes).after n).standsStill = true ↔
      gapNsForRate messageBytes (max (sender.rampStartMbps.getD 0) 0 +
        sender.rampStepMbps.getD 0 *
          (((Pacer.fromSender sender messageBytes).deadline n / stepIntervalNs sender).toNat : ℚ)) =
        0 := by
  rw [Pacer.standsStill, Pacer.after_ramp (fromSender_ramp ramp climbing)]
  exact decide_eq_true_iff

/-- A ramp that does not start above zero never leaves deadline zero. -/
theorem ramp_stuck (ramp : sender.pattern = .ramp) (climbing : 0 < sender.rampStepMbps.getD 0)
    (none : sender.rampStartMbps.getD 0 ≤ 0) (n : Nat) :
    ((Pacer.fromSender sender messageBytes).deadline n).toNat = 0 := by
  have first : (Pacer.fromSender sender messageBytes).deadline 0 = 0 := rfl
  have still : ((Pacer.fromSender sender messageBytes).after 0).standsStill = true := by
    rw [ramp_standsStill ramp climbing, first, max_eq_right none, UInt64.zero_div, UInt64.toNat_zero,
      Nat.cast_zero, mul_zero, add_zero]
    exact if_pos le_rfl
  exact Nat.le_zero.mp (Pacer.standsStill_last still n)

theorem ramp_gaps (ramp : sender.pattern = .ramp) (climbing : 0 < sender.rampStepMbps.getD 0)
    (some_rate : 0 < sender.rampStartMbps.getD 0) (n : Nat) :
    (Pacer.fromSender sender messageBytes).deadline (n + 1) =
      satAdd ((Pacer.fromSender sender messageBytes).deadline n)
        (gapNsForRate messageBytes
          (rampRate sender ((Pacer.fromSender sender messageBytes).deadline n))) := by
  rw [Pacer.deadline_ramp_succ (fromSender_ramp ramp climbing), max_eq_left some_rate.le]
  rfl

/-- A ramp that starts above zero climbs where no deadline lies in a step that is too fast. -/
theorem slow_climbs (ramp : sender.pattern = .ramp) (climbing : 0 < sender.rampStepMbps.getD 0)
    (some_rate : 0 < sender.rampStartMbps.getD 0)
    (slow : ∀ n, ((Pacer.fromSender sender messageBytes).deadline n).toNat < top →
      rampRate sender ((Pacer.fromSender sender messageBytes).deadline n) ≤
        8000 * messageBytes.toNat) :
    Climbs sender messageBytes := by
  have gaps := @ramp_gaps sender messageBytes ramp climbing some_rate
  have moves (n : Nat) (below : ((Pacer.fromSender sender messageBytes).deadline n).toNat < top) :
      ((Pacer.fromSender sender messageBytes).deadline n).toNat <
        ((Pacer.fromSender sender messageBytes).deadline (n + 1)).toNat := by
    have positive := toNat_pos ((gapNsForRate_ne_zero messageBytes _).mpr
      ⟨some_rate.trans_le (rampRate_start_le climbing _), slow n below⟩)
    have next := congrArg UInt64.toNat (gaps n)
    rw [satAdd_toNat] at next
    omega
  obtain ⟨n, reached⟩ := Lib.Climb.reaches moves (Pacer.deadline_monotone _)
  exact ⟨⟨n, le_antisymm (toNat_le_top _) reached⟩, gaps⟩

/-- The last step of the clock is the fastest. -/
theorem rampRate_le_end (climbing : 0 < sender.rampStepMbps.getD 0) (d : UInt64) :
    rampRate sender d ≤ rampRate sender (clampWord top) := by
  have earlier : (d / stepIntervalNs sender).toNat ≤
      (clampWord top / stepIntervalNs sender).toNat := by
    rw [UInt64.toNat_div, UInt64.toNat_div, clampWord_toNat, Nat.min_self]
    exact Nat.div_le_div_right (toNat_le_top _)
  exact add_le_add_right (mul_le_mul_of_nonneg_left (Nat.cast_le.mpr earlier) climbing.le) _

/-- A ramp climbs to the end whose rate is still slow there. -/
theorem climbs_to_end (ramp : sender.pattern = .ramp) (climbing : 0 < sender.rampStepMbps.getD 0)
    (some_rate : 0 < sender.rampStartMbps.getD 0)
    (slow : rampRate sender (clampWord top) ≤ 8000 * messageBytes.toNat) :
    Climbs sender messageBytes :=
  slow_climbs ramp climbing some_rate fun _ _ => (rampRate_le_end climbing _).trans slow

/-- A ramp climbs exactly if it starts above zero, and no deadline it reaches lies in a step
whose rate exceeds one message bit for each nanosecond. -/
theorem ramp_climbs (ramp : sender.pattern = .ramp) (climbing : 0 < sender.rampStepMbps.getD 0) :
    Climbs sender messageBytes ↔
      0 < sender.rampStartMbps.getD 0 ∧
        ∀ n, ((Pacer.fromSender sender messageBytes).deadline n).toNat < top →
          rampRate sender ((Pacer.fromSender sender messageBytes).deadline n) ≤
            8000 * messageBytes.toNat := by
  constructor
  · intro climbs
    obtain ⟨last, reached⟩ := climbs.reaches
    have some_rate : 0 < sender.rampStartMbps.getD 0 := by
      by_contra none
      rw [ramp_stuck ramp climbing (not_lt.mp none)] at reached
      exact absurd reached (by decide)
    refine ⟨some_rate, fun n below => ?_⟩
    by_contra fast
    have still : ((Pacer.fromSender sender messageBytes).after n).standsStill = true := by
      rw [ramp_standsStill ramp climbing, max_eq_left some_rate.le]
      by_contra some_gap
      exact fast ((gapNsForRate_ne_zero messageBytes _).mp some_gap).2
    have most := Pacer.standsStill_last still last
    omega
  · rintro ⟨some_rate, slow⟩
    exact slow_climbs ramp climbing some_rate slow

end Ramp

/-- From 1 Mbit/s, one more each minute. -/
def slowRamp : Sender where
  interface := .tcp
  targetAddr := "127.0.0.1:9000"
  pattern := .ramp
  rampStartMbps := some 1
  rampStepMbps := some 1
  rampStepIntervalSecs := some 60

theorem slowRamp_end : rampRate slowRamp (clampWord top) = 307445735 := by
  have steps : (clampWord top / stepIntervalNs slowRamp).toNat = 307445734 := by decide
  rw [rampRate, steps]
  norm_num [slowRamp]

/-- With messages of 64 KiB it takes all the steps of the clock. -/
theorem ramp_climbs_slow : Climbs slowRamp 65536 ∧
    ∃ n, rampRate slowRamp ((Pacer.fromSender slowRamp 65536).deadline n) = 307445735 := by
  have climbing : 0 < slowRamp.rampStepMbps.getD 0 := by norm_num [slowRamp]
  have limit : rampRate slowRamp (clampWord top) ≤ 8000 * (65536 : UInt32).toNat := by
    rw [slowRamp_end, show (65536 : UInt32).toNat = 65536 from rfl]
    norm_num
  have climbs : Climbs slowRamp 65536 := (ramp_climbs rfl climbing).mpr
    ⟨by norm_num [slowRamp], fun n _ => (rampRate_le_end climbing _).trans limit⟩
  obtain ⟨n, reached⟩ := climbs.reaches
  have last : (Pacer.fromSender slowRamp 65536).deadline n = clampWord top :=
    UInt64.toNat_inj.mp (reached.trans (by rw [clampWord_toNat, Nat.min_self]))
  exact ⟨climbs, n, by rw [last, slowRamp_end]⟩

/-- A ramp from 0 to higher rates, 10 Mbit/s more each second. -/
def rampFromZero : Sender :=
  { slowRamp with
    rampStartMbps := some 0, rampStepMbps := some 10, rampStepIntervalSecs := some 1 }

def rampConfig : Config where
  suite := { name := "suite", version := "1.0" }
  scenarios := [{ name := "ramp", sender := some rampFromZero }]

/-- Validation accepts it, and every message is due at once. -/
theorem ramp_climbs_zero :
    (validate rampConfig).ok = true ∧
      (∃ s ∈ rampConfig.scenarios, s.enabled = true ∧ s.sender = some rampFromZero) ∧
      rampFromZero.pattern = .ramp ∧ 0 < rampFromZero.rampStepMbps.getD 0 ∧ ¬Climbs rampFromZero 1250 := by
  have climbing : 0 < rampFromZero.rampStepMbps.getD 0 := by norm_num [rampFromZero]
  refine ⟨by decide +kernel, ⟨_, List.mem_cons_self, rfl, rfl⟩, rfl, climbing, fun climbs => ?_⟩
  obtain ⟨n, reached⟩ := climbs.reaches
  rw [ramp_stuck rfl climbing le_rfl] at reached
  exact absurd reached (by decide)

end Seshat.Workload
