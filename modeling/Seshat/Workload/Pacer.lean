import Seshat.Config.Schema
import Seshat.Lib.Saturating
import Mathlib.Data.Rat.Floor
import Mathlib.Order.Monotone.Basic

/-! When to send: a sender's pattern as a stream of deadlines relative to the run
start. -/

namespace Seshat.Workload
open Config Lib.Saturating

/-- The gap between messages at a rate; the float-to-integer cast truncates and
saturates. -/
def gapNsForRate (messageBytes : UInt32) (rateMbps : ℚ) : UInt64 :=
  if rateMbps ≤ 0 then 0
  else
    let messageBits : ℚ := messageBytes.toNat * 8
    clampWord ⌊messageBits / (rateMbps * 10 ^ 6) * 10 ^ 9⌋.toNat

inductive PacerKind where
  | fixed (gapNs : UInt64)
  | burst (count gapNs pauseNs pos : UInt64)
  | ramp (messageBytes : UInt32) (startMbps stepMbps : ℚ) (stepIntervalNs : UInt64)
      (positive : stepIntervalNs ≠ 0)
  deriving DecidableEq

structure Pacer where
  kind : PacerKind
  nextNs : UInt64
  deriving DecidableEq

theorem stepInterval_ne_zero (secs : UInt64) : satMul (max secs 1) 1000000000 ≠ 0 := by
  intro zero
  have value := congrArg UInt64.toNat zero
  rw [satMul_toNat, max_toNat] at value
  simp only [UInt64.toNat_ofNat, top] at value
  omega

namespace Pacer

/-- The intra-pattern gap: an interval, else a rate, else none. -/
def intervalGap (sender : Sender) (messageBytes : UInt32) : UInt64 :=
  ((sender.intervalUs.map fun us => satMul us 1000).or
    (sender.rateLimitMbps.map (gapNsForRate messageBytes))).getD 0

def fromSender (sender : Sender) (messageBytes : UInt32) : Pacer :=
  let kind :=
    match sender.pattern with
    | .sustained =>
        .fixed ((sender.rateLimitMbps.map (gapNsForRate messageBytes)).getD 0)
    | .periodic => .fixed (intervalGap sender messageBytes)
    | .burst =>
        .burst (max (sender.burstCount.getD 1) 1) (intervalGap sender messageBytes)
          (satMul (sender.burstPauseUs.getD 0) 1000) 0
    | .ramp =>
        .ramp messageBytes (max (sender.rampStartMbps.getD 0) 0)
          (max (sender.rampStepMbps.getD 0) 0)
          (satMul (max (sender.rampStepIntervalSecs.getD 1) 1) 1000000000)
          (stepInterval_ne_zero _)
  { kind, nextNs := 0 }

/-- The deadline of the next message, and the pacer that yields the one after it. -/
def nextDeadlineNs (p : Pacer) : UInt64 × Pacer :=
  let deadline := p.nextNs
  match p.kind with
  | .fixed gapNs => (deadline, { p with nextNs := satAdd p.nextNs gapNs })
  | .burst count gapNs pauseNs pos =>
      if pos + 1 ≥ count then
        (deadline, { kind := .burst count gapNs pauseNs 0,
                     nextNs := satAdd (satAdd p.nextNs gapNs) pauseNs })
      else
        (deadline, { kind := .burst count gapNs pauseNs (pos + 1),
                     nextNs := satAdd p.nextNs gapNs })
  | .ramp messageBytes startMbps stepMbps stepIntervalNs _ =>
      let steps := deadline / stepIntervalNs
      let rate := startMbps + stepMbps * (steps.toNat : ℚ)
      (deadline, { p with nextNs := satAdd p.nextNs (gapNsForRate messageBytes rate) })

/-- No delay between messages: the run engine sends in batches. -/
def isBlast (p : Pacer) : Bool :=
  match p.kind with
  | .fixed gapNs => gapNs = 0
  | _ => false

/-- The pacer after `n` deadlines were read. -/
def after (p : Pacer) : Nat → Pacer
  | 0 => p
  | n + 1 => (after p n).nextDeadlineNs.2

/-- `D(n)`: the `n`-th deadline of the schedule, counted from 0. -/
def deadline (p : Pacer) (n : Nat) : UInt64 := (p.after n).nextNs

@[simp] theorem nextDeadlineNs_fst (p : Pacer) : p.nextDeadlineNs.1 = p.nextNs := by
  unfold nextDeadlineNs
  split
  · rfl
  · split <;> rfl
  · rfl

theorem nextDeadlineNs_le (p : Pacer) :
    p.nextNs.toNat ≤ p.nextDeadlineNs.2.nextNs.toNat := by
  unfold nextDeadlineNs
  split
  · exact le_satAdd _ _
  · split
    · exact le_trans (le_satAdd _ _) (le_satAdd _ _)
    · exact le_satAdd _ _
  · exact le_satAdd _ _

/-- A schedule never goes back. -/
theorem deadline_monotone (p : Pacer) : Monotone fun n => (p.deadline n).toNat :=
  monotone_nat_of_le_succ fun n => nextDeadlineNs_le (p.after n)

end Pacer

/-- How far behind schedule a paced sender woke, over the measured messages. -/
structure SendLag where
  count : Nat := 0
  sumNs : Nat := 0
  maxNs : UInt64 := 0
  deriving DecidableEq, Repr

def SendLag.record (lag : SendLag) (ns : UInt64) : SendLag where
  count := lag.count + 1
  sumNs := lag.sumNs + ns.toNat
  maxNs := if ns > lag.maxNs then ns else lag.maxNs

def SendLag.meanUs (lag : SendLag) : ℚ :=
  if lag.count = 0 then 0 else (lag.sumNs : ℚ) / lag.count / 1000

def SendLag.maxUs (lag : SendLag) : ℚ := (lag.maxNs.toNat : ℚ) / 1000

end Seshat.Workload
