import Seshat.Lib.Climb
import Seshat.Workload.Pacer
import Mathlib.Tactic.Common

/-! The schedules of the pacer in closed form, and when a schedule stands still. -/

namespace Seshat.Workload
open Config Lib.Saturating

/-- The deadline a pattern declares for message `n`; a ramp declares its gaps only. -/
def PacerKind.scheduled : PacerKind → Nat → Option Nat
  | .fixed gapNs, n => some (n * gapNs.toNat)
  | .burst count gapNs pauseNs _, n => some (n * gapNs.toNat + n / count.toNat * pauseNs.toNat)
  | .ramp _ _ _ _ _, _ => none

namespace Pacer

theorem after_fixed (gapNs : UInt64) (n : Nat) :
    after ⟨.fixed gapNs, 0⟩ n = ⟨.fixed gapNs, clampWord (n * gapNs.toNat)⟩ := by
  induction n with
  | zero => rw [Nat.zero_mul]; rfl
  | succ n ih =>
    rw [after, ih, nextDeadlineNs, Nat.succ_mul]
    simp only [satAdd_clampWord]

/-- Behind `n` messages `n % count` of the running burst are out, and `n / count` pauses
were taken. -/
theorem after_burst {count : UInt64} (positive : count ≠ 0) (gapNs pauseNs : UInt64) (n : Nat) :
    after ⟨.burst count gapNs pauseNs 0, 0⟩ n =
      ⟨.burst count gapNs pauseNs (UInt64.ofNat (n % count.toNat)),
        clampWord (n * gapNs.toNat + n / count.toNat * pauseNs.toNat)⟩ := by
  have some_burst := toNat_pos positive
  induction n with
  | zero =>
    rw [Nat.zero_mod, Nat.zero_div, Nat.zero_mul, Nat.zero_mul]
    rfl
  | succ n ih =>
    have inside := Nat.mod_lt n some_burst
    have parts := Nat.div_add_mod n count.toNat
    have reach := count.toNat_lt
    have pos : (UInt64.ofNat (n % count.toNat) + 1).toNat = n % count.toNat + 1 := by
      rw [UInt64.toNat_add, UInt64.toNat_ofNat', UInt64.toNat_one]
      omega
    rw [after, ih, nextDeadlineNs]
    by_cases last : n % count.toNat + 1 = count.toNat
    · have next := (Nat.div_mod_unique some_burst).mpr
        (show 0 + count.toNat * (n / count.toNat + 1) = n + 1 ∧ 0 < count.toNat from
          ⟨by rw [Nat.mul_add]; omega, some_burst⟩)
      have full : UInt64.ofNat (n % count.toNat) + 1 ≥ count :=
        UInt64.le_iff_toNat_le.mpr (by omega)
      simp only [if_pos full, satAdd_clampWord, next.1, next.2, Nat.succ_mul]
      congr 2
      omega
    · have next := (Nat.div_mod_unique some_burst).mpr
        (show n % count.toNat + 1 + count.toNat * (n / count.toNat) = n + 1 ∧
            n % count.toNat + 1 < count.toNat from ⟨by omega, by omega⟩)
      have room : ¬UInt64.ofNat (n % count.toNat) + 1 ≥ count := fun full =>
        last (by have := UInt64.le_iff_toNat_le.mp full; omega)
      simp only [if_neg room, satAdd_clampWord, next.1, next.2, Nat.succ_mul, UInt64.ofNat_add]
      congr 2
      omega

/-- A pacer as `from_sender` builds it: at the start of its first burst. -/
def Fresh (p : Pacer) : Prop :=
  p.nextNs = 0 ∧ ∀ count gapNs pauseNs pos, p.kind = .burst count gapNs pauseNs pos →
    count ≠ 0 ∧ pos = 0

theorem fromSender_fresh (sender : Sender) (messageBytes : UInt32) :
    (fromSender sender messageBytes).Fresh := by
  refine ⟨rfl, fun count gapNs pauseNs pos burst => ?_⟩
  unfold fromSender at burst
  cases pattern : sender.pattern with
  | sustained => simp [pattern] at burst
  | periodic => simp [pattern] at burst
  | ramp => simp [pattern] at burst
  | burst =>
    simp only [pattern, PacerKind.burst.injEq] at burst
    obtain ⟨rfl, -, -, rfl⟩ := burst
    refine ⟨fun zero => ?_, rfl⟩
    have value := congrArg UInt64.toNat zero
    rw [max_toNat, UInt64.toNat_one, UInt64.toNat_zero] at value
    omega

/-- A fresh pacer emits the deadlines its pattern declares, as far as a word reaches. -/
theorem Fresh.deadline {p : Pacer} (fresh : p.Fresh) {n declared : Nat}
    (scheduled : p.kind.scheduled n = some declared) :
    (p.deadline n).toNat = min declared top := by
  obtain ⟨kind, nextNs⟩ := p
  obtain ⟨rfl, start⟩ := fresh
  cases kind with
  | fixed gapNs =>
    obtain rfl := Option.some.inj scheduled
    rw [Pacer.deadline, after_fixed, clampWord_toNat]
  | burst count gapNs pauseNs pos =>
    obtain ⟨positive, rfl⟩ := start count gapNs pauseNs pos rfl
    obtain rfl := Option.some.inj scheduled
    rw [Pacer.deadline, after_burst positive, clampWord_toNat]
  | ramp messageBytes startMbps stepMbps stepIntervalNs positive =>
    simp [PacerKind.scheduled] at scheduled

/-- Bursts of three, 10 µs apart. -/
example :
    (List.range 6).map (Pacer.deadline ⟨.burst 3 0 10000 0, 0⟩) =
      [0, 0, 0, 10000, 10000, 10000] := by
  decide

theorem after_ramp {messageBytes : UInt32} {startMbps stepMbps : ℚ} {stepIntervalNs : UInt64}
    {positive : stepIntervalNs ≠ 0} {p : Pacer}
    (ramp : p.kind = .ramp messageBytes startMbps stepMbps stepIntervalNs positive) (n : Nat) :
    (p.after n).kind = .ramp messageBytes startMbps stepMbps stepIntervalNs positive := by
  induction n with
  | zero => exact ramp
  | succ n ih =>
    rw [after, nextDeadlineNs]
    simp only [ih]

/-- The gap behind deadline `d` of a ramp is the gap of the rate of `d`'s step. -/
theorem deadline_ramp_succ {messageBytes : UInt32} {startMbps stepMbps : ℚ}
    {stepIntervalNs : UInt64} {positive : stepIntervalNs ≠ 0} {p : Pacer}
    (ramp : p.kind = .ramp messageBytes startMbps stepMbps stepIntervalNs positive) (n : Nat) :
    p.deadline (n + 1) = satAdd (p.deadline n) (gapNsForRate messageBytes
      (startMbps + stepMbps * ((p.deadline n / stepIntervalNs).toNat : ℚ))) := by
  rw [deadline, after, nextDeadlineNs]
  simp only [after_ramp ramp n]
  rfl

/-- No later message has a later deadline. -/
def standsStill (p : Pacer) : Bool :=
  match p.kind with
  | .fixed gapNs => gapNs = 0
  | .burst _ gapNs pauseNs _ => gapNs = 0 ∧ pauseNs = 0
  | .ramp messageBytes startMbps stepMbps stepIntervalNs _ =>
      gapNsForRate messageBytes
        (startMbps + stepMbps * ((p.nextNs / stepIntervalNs).toNat : ℚ)) = 0

theorem isBlast_standsStill {p : Pacer} (blast : p.isBlast = true) : p.standsStill = true := by
  obtain ⟨kind, nextNs⟩ := p
  cases kind with
  | fixed gapNs => exact blast
  | burst count gapNs pauseNs pos => cases blast
  | ramp messageBytes startMbps stepMbps stepIntervalNs positive => cases blast

theorem standsStill_next {p : Pacer} (still : p.standsStill = true) :
    p.nextDeadlineNs.2.nextNs = p.nextNs ∧ p.nextDeadlineNs.2.standsStill = true := by
  obtain ⟨kind, nextNs⟩ := p
  cases kind with
  | fixed gapNs =>
    have zero : gapNs = 0 := of_decide_eq_true still
    subst zero
    exact ⟨satAdd_zero nextNs, rfl⟩
  | burst count gapNs pauseNs pos =>
    obtain ⟨rfl, rfl⟩ : gapNs = 0 ∧ pauseNs = 0 := of_decide_eq_true still
    unfold nextDeadlineNs
    dsimp only
    split
    · exact ⟨by rw [satAdd_zero, satAdd_zero], rfl⟩
    · exact ⟨satAdd_zero nextNs, rfl⟩
  | ramp messageBytes startMbps stepMbps stepIntervalNs positive =>
    have zero : gapNsForRate messageBytes
        (startMbps + stepMbps * ((nextNs / stepIntervalNs).toNat : ℚ)) = 0 :=
      of_decide_eq_true still
    have same :
        (nextDeadlineNs ⟨.ramp messageBytes startMbps stepMbps stepIntervalNs positive, nextNs⟩).2 =
          ⟨.ramp messageBytes startMbps stepMbps stepIntervalNs positive, nextNs⟩ := by
      rw [nextDeadlineNs]
      simp only [zero, satAdd_zero]
    rw [same]
    exact ⟨rfl, still⟩

/-- Where a schedule stands still it has its last deadline. -/
theorem standsStill_last {p : Pacer} {n : Nat} (still : (p.after n).standsStill = true) (m : Nat) :
    (p.deadline m).toNat ≤ (p.deadline n).toNat := by
  have stays (k : Nat) :
      p.deadline (n + k) = p.deadline n ∧ (p.after (n + k)).standsStill = true := by
    induction k with
    | zero => exact ⟨rfl, still⟩
    | succ k ih =>
      obtain ⟨same, again⟩ := standsStill_next ih.2
      exact ⟨same.trans ih.1, again⟩
  calc (p.deadline m).toNat
      ≤ (p.deadline (n + m)).toNat := deadline_monotone p (Nat.le_add_left m n)
    _ = (p.deadline n).toNat := congrArg UInt64.toNat (stays m).1

theorem gap_eq_zero {gap : UInt64} (small : top * gap.toNat < top) : gap = 0 := by
  by_contra some_gap
  exact absurd small (Nat.not_lt.mpr (Nat.le_mul_of_pos_right top (toNat_pos some_gap)))

/-- A schedule that never saturates stands still from some message on. -/
theorem Fresh.stalls {p : Pacer} (fresh : p.Fresh) (below : ∀ n, (p.deadline n).toNat < top) :
    ∃ n, (p.after n).standsStill = true := by
  have small {n declared : Nat} (scheduled : p.kind.scheduled n = some declared) :
      declared < top := by
    have value := fresh.deadline scheduled
    have under := below n
    omega
  cases kind : p.kind with
  | fixed gapNs =>
    have reached : top * gapNs.toNat < top := small (by rw [kind]; rfl)
    have zero := gap_eq_zero reached
    exact ⟨0, by rw [standsStill, after, kind]; exact decide_eq_true zero⟩
  | burst count gapNs pauseNs pos =>
    obtain ⟨positive, -⟩ := fresh.2 count gapNs pauseNs pos kind
    have some_burst := toNat_pos positive
    have reached : top * count.toNat * gapNs.toNat +
        top * count.toNat / count.toNat * pauseNs.toNat < top := small (by rw [kind]; rfl)
    rw [Nat.mul_div_cancel top some_burst] at reached
    have more := Nat.mul_le_mul_right gapNs.toNat (Nat.le_mul_of_pos_right top some_burst)
    have gap := gap_eq_zero (lt_of_le_of_lt more (by omega))
    have pause := gap_eq_zero (show top * pauseNs.toNat < top by omega)
    exact ⟨0, by rw [standsStill, after, kind]; exact decide_eq_true ⟨gap, pause⟩⟩
  | ramp messageBytes startMbps stepMbps stepIntervalNs positive =>
    obtain ⟨n, same⟩ := Lib.Climb.stalls (deadline_monotone p) below
    refine ⟨n, ?_⟩
    have next := congrArg UInt64.toNat (deadline_ramp_succ kind n)
    rw [satAdd_toNat] at next
    have under := below n
    have zero : gapNsForRate messageBytes
        (startMbps + stepMbps * ((p.deadline n / stepIntervalNs).toNat : ℚ)) = 0 :=
      eq_zero_of_toNat (by omega)
    rw [standsStill, after_ramp kind n]
    exact decide_eq_true zero

end Pacer

end Seshat.Workload
