import Seshat.Lib.Arrivals
import Seshat.Run.Saturation
import Seshat.Workload.Ramp

/-! The load that a fixed-rate schedule offers, against the rate that the sweep reports. -/

namespace Seshat.Run
open Commands Config Workload Lib Lib.Saturating

/-- The rate that a sender paces to: a periodic one has it in place of an interval. -/
def fixedRate (sender : Sender) : Option ℚ :=
  match sender.pattern with
  | .sustained => sender.rateLimitMbps
  | .periodic => if sender.intervalUs = none then sender.rateLimitMbps else none
  | .burst | .ramp => none

def messageBits (messageBytes : UInt32) : ℚ := messageBytes.toNat * 8

/-- The gap of a rate before it is cut to whole nanoseconds. -/
def exactGapNs (messageBytes : UInt32) (rateMbps : ℚ) : ℚ :=
  messageBits messageBytes / (rateMbps * 10 ^ 6) * 10 ^ 9

/-- Of the first `count` messages, those due `t` nanoseconds behind the start. -/
def dueBy (p : Pacer) (count : Nat) (t : ℚ) : Nat :=
  Arrivals.due (fun n => ((p.deadline n).toNat : ℚ)) count t

/-- At no time more is due than the rate allows, and one message. -/
def WithinRate (p : Pacer) (messageBytes : UInt32) (rateMbps : ℚ) (count : Nat) : Prop :=
  ∀ t : ℚ, 0 ≤ t →
    dueBy p count t * messageBits messageBytes ≤
      rateMbps * 10 ^ 6 * (t / 10 ^ 9) + messageBits messageBytes

section Rate

variable {sender : Sender} {messageBytes : UInt32} {rateMbps : ℚ}

theorem exactGapNs_nonneg (positive : 0 < rateMbps) : 0 ≤ exactGapNs messageBytes rateMbps := by
  unfold exactGapNs messageBits
  positivity

theorem fixedRate_kind (paced : fixedRate sender = some rateMbps) :
    (Pacer.fromSender sender messageBytes).kind = .fixed (gapNsForRate messageBytes rateMbps) := by
  unfold fixedRate at paced
  cases pattern : sender.pattern with
  | sustained =>
    simp only [pattern] at paced
    simp only [Pacer.fromSender, pattern, paced, Option.map_some, Option.getD_some]
  | periodic =>
    simp only [pattern] at paced
    by_cases free : sender.intervalUs = none
    · rw [if_pos free] at paced
      simp only [Pacer.fromSender, pattern, Pacer.intervalGap, free, paced, Option.map_none,
        Option.map_some, Option.none_or, Option.getD_some]
    · rw [if_neg free] at paced
      cases paced
  | burst => simp [pattern] at paced
  | ramp => simp [pattern] at paced

theorem gapNsForRate_toNat (positive : 0 < rateMbps) :
    (gapNsForRate messageBytes rateMbps).toNat =
      min ⌊exactGapNs messageBytes rateMbps⌋.toNat top := by
  rw [gapNsForRate, if_neg (not_le.mpr positive)]
  exact clampWord_toNat _

theorem fixedRate_deadline (paced : fixedRate sender = some rateMbps) (n : Nat) :
    ((Pacer.fromSender sender messageBytes).deadline n).toNat =
      min (n * (gapNsForRate messageBytes rateMbps).toNat) top :=
  (Pacer.fromSender_fresh sender messageBytes).deadline (by rw [fixedRate_kind paced]; rfl)

/-- A schedule is within its rate if no message is early for the exact gap. -/
theorem withinRate_iff (positive : 0 < rateMbps) (p : Pacer) (count : Nat) :
    WithinRate p messageBytes rateMbps count ↔
      ∀ n < count, n * exactGapNs messageBytes rateMbps ≤ (p.deadline n).toNat := by
  have climbs : Monotone fun n => ((p.deadline n).toNat : ℚ) := fun m n before =>
    Nat.cast_le.mpr (p.deadline_monotone before)
  rw [← Arrivals.due_within_iff climbs (Nat.cast_nonneg _) (exactGapNs_nonneg positive)]
  refine forall_congr' fun t => imp_congr_right fun _ => ?_
  have bits : messageBits messageBytes =
      rateMbps * 10 ^ 6 / 10 ^ 9 * exactGapNs messageBytes rateMbps := by
    unfold exactGapNs
    field_simp
  have per_ns : 0 < rateMbps * 10 ^ 6 / 10 ^ 9 := by positivity
  rw [bits, dueBy]
  exact (iff_of_eq (congrArg₂ LE.le (by ring) (by ring))).trans (mul_le_mul_iff_right₀ per_ns)

/-- The gap that is waited out is never above the exact one. -/
theorem gapNsForRate_le (positive : 0 < rateMbps) :
    ((gapNsForRate messageBytes rateMbps).toNat : ℚ) ≤ exactGapNs messageBytes rateMbps := by
  have whole : 0 ≤ ⌊exactGapNs messageBytes rateMbps⌋ :=
    Int.floor_nonneg.mpr (exactGapNs_nonneg positive)
  have cut : (gapNsForRate messageBytes rateMbps).toNat ≤ ⌊exactGapNs messageBytes rateMbps⌋.toNat := by
    rw [gapNsForRate_toNat positive]
    exact Nat.min_le_left _ _
  calc ((gapNsForRate messageBytes rateMbps).toNat : ℚ)
      ≤ (⌊exactGapNs messageBytes rateMbps⌋.toNat : ℚ) := Nat.cast_le.mpr cut
    _ = (⌊exactGapNs messageBytes rateMbps⌋ : ℚ) := by
        rw [← Int.cast_natCast, Int.toNat_of_nonneg whole]
    _ ≤ exactGapNs messageBytes rateMbps := Int.floor_le _

/-- Above one message bit for each nanosecond nothing is waited out, and the engine sends in
batches. -/
theorem fixedRate_blast (positive : 0 < rateMbps) (paced : fixedRate sender = some rateMbps) :
    (Pacer.fromSender sender messageBytes).isBlast = true ↔ 8000 * messageBytes.toNat < rateMbps := by
  have some_gap := gapNsForRate_ne_zero messageBytes rateMbps
  rw [and_iff_right positive] at some_gap
  rw [Pacer.isBlast, fixedRate_kind paced, ← not_le, ← some_gap, not_not]
  exact decide_eq_true_iff

/-- A prefix of a fixed-rate schedule is within its rate exactly if it has one message at most,
or the exact gap is a number of whole nanoseconds and the schedule does not saturate in it. -/
theorem fixed_rate_kept_iff (positive : 0 < rateMbps) (paced : fixedRate sender = some rateMbps)
    (count : Nat) :
    WithinRate (Pacer.fromSender sender messageBytes) messageBytes rateMbps count ↔
      count ≤ 1 ∨ ∃ gap : Nat, (gap : ℚ) = exactGapNs messageBytes rateMbps ∧
        (count - 1) * gap ≤ top := by
  rw [withinRate_iff positive]
  have below := @gapNsForRate_le messageBytes rateMbps positive
  constructor
  · intro on_time
    by_cases single : count ≤ 1
    · exact .inl single
    · have second := on_time 1 (by omega)
      have last := on_time (count - 1) (by omega)
      rw [fixedRate_deadline paced] at second last
      have cut : ((min (1 * (gapNsForRate messageBytes rateMbps).toNat) top : Nat) : ℚ) ≤
          (gapNsForRate messageBytes rateMbps).toNat :=
        Nat.cast_le.mpr (by omega)
      rw [Nat.cast_one, one_mul] at second
      have exact_gap := le_antisymm below (second.trans cut)
      rw [← exact_gap] at last
      refine .inr ⟨(gapNsForRate messageBytes rateMbps).toNat, exact_gap, ?_⟩
      have reached : (count - 1) * (gapNsForRate messageBytes rateMbps).toNat ≤
          min ((count - 1) * (gapNsForRate messageBytes rateMbps).toNat) top := by
        exact_mod_cast last
      exact reached.trans (Nat.min_le_right _ _)
  · rintro (single | ⟨gap, exact_gap, fits⟩) n inside
    · obtain rfl : n = 0 := by omega
      rw [Nat.cast_zero, zero_mul]
      exact Nat.cast_nonneg _
    · have early : n * gap ≤ top := (Nat.mul_le_mul_right gap (by omega)).trans fits
      by_cases first : n = 0
      · rw [first, Nat.cast_zero, zero_mul]
        exact Nat.cast_nonneg _
      · have small : gap ≤ top := (Nat.le_mul_of_pos_left gap (by omega)).trans early
        have waited : (gapNsForRate messageBytes rateMbps).toNat = gap := by
          rw [gapNsForRate_toNat positive, ← exact_gap, Int.floor_natCast]
          exact Nat.min_eq_left small
        rw [fixedRate_deadline paced, waited, Nat.min_eq_left early, ← exact_gap]
        exact le_of_eq (Nat.cast_mul n gap).symm

end Rate

theorem sustainedAt_fixedRate (base : Sender) (rateMbps : ℚ) :
    fixedRate (sustainedAt base rateMbps) = some rateMbps :=
  rfl

/-- A sweep of 64-byte messages: the exact gaps of its points are 568.8… ns and 512 ns. -/
def rateSweep : Scenario where
  name := "rate-sweep"
  messageSizeBytes := some 64
  sender := some { interface := .tcp, targetAddr := "127.0.0.1:9000" }
  saturation := some { startMbps := some 900, stepMbps := some 100, maxMbps := some 1000 }

def sweepConfig : Config where
  suite := { name := "suite", version := "1.0" }
  scenarios := [rateSweep]

def rateSweepSender : Sender where
  interface := .tcp
  targetAddr := "127.0.0.1:9000"

theorem fixed_rate_kept_iff_whole :
    WithinRate (Pacer.fromSender (sustainedAt rateSweepSender 1000) 64) 64 1000 1000000 := by
  refine (fixed_rate_kept_iff (by norm_num) (sustainedAt_fixedRate rateSweepSender 1000) _).mpr
    (.inr ⟨512, ?_, by decide⟩)
  rw [exactGapNs, messageBits, show (64 : UInt32).toNat = 64 from rfl]
  norm_num

/-- The first point of an accepted sweep sends its second message 0.8… ns early. -/
theorem rateSweep_exceeds :
    (validate sweepConfig).ok = true ∧ rateSweep ∈ sweepConfig.scenarios ∧
      rateSweep.enabled = true ∧ rateSweep.sender = some rateSweepSender ∧
      rateSweep.saturation.bind sweepPlan = some ⟨900, 100, 1000⟩ ∧
      (buildRunParams rateSweep {} rateSweepSender).messageBytes = 64 ∧
      ¬WithinRate
        (Pacer.fromSender (sustainedAt rateSweepSender (SweepPlan.start ⟨900, 100, 1000⟩)) 64)
        64 900 2 := by
  refine ⟨by decide +kernel, List.mem_cons_self, rfl, rfl, rfl, by decide, fun within => ?_⟩
  have second := (withinRate_iff (by norm_num) _ _).mp within 1 (by decide)
  have waited : ((Pacer.fromSender (sustainedAt rateSweepSender
      (SweepPlan.start ⟨900, 100, 1000⟩)) 64).deadline 1).toNat = 568 := by
    decide +kernel
  rw [waited, exactGapNs, messageBits, show (64 : UInt32).toNat = 64 from rfl] at second
  norm_num at second

end Seshat.Run
