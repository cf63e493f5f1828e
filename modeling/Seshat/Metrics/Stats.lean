import Mathlib.Algebra.Order.Field.Rat
import Mathlib.Data.Rat.Floor
import Mathlib.Tactic.Common

/-! Descriptive statistics over samples. Samples are exact rationals, and the square root
is a parameter. -/

namespace Seshat.Metrics

structure Summary where
  n : Nat
  mean : ℚ
  median : ℚ
  stddev : ℚ
  min : ℚ
  max : ℚ
  p50 : ℚ
  p90 : ℚ
  p95 : ℚ
  p99 : ℚ
  p999 : ℚ
  ci95 : ℚ
  cov : ℚ
  deriving DecidableEq, Repr

def Summary.empty : Summary where
  n := 0
  mean := 0
  median := 0
  stddev := 0
  min := 0
  max := 0
  p50 := 0
  p90 := 0
  p95 := 0
  p99 := 0
  p999 := 0
  ci95 := 0
  cov := 0

def mean (xs : List ℚ) : ℚ := if xs.isEmpty then 0 else xs.sum / xs.length

/-- Percentile `p` by linear interpolation between closest ranks; the NaN of an empty
sample is `none`. -/
def percentile (sorted : List ℚ) (p : ℚ) : Option ℚ :=
  match sorted with
  | [] => none
  | [only] => some only
  | _ =>
      let p := max 0 (min p 100)
      let rank := p / 100 * (sorted.length - 1)
      let lo := ⌊rank⌋.toNat
      let hi := ⌈rank⌉.toNat
      if lo = hi then some (sorted.getD lo 0)
      else
        let frac := rank - lo
        some (sorted.getD lo 0 * (1 - frac) + sorted.getD hi 0 * frac)

/-- The tabulated two-sided 95 % values of Student's t. -/
def tTable : List (Nat × ℚ) :=
  [(1, 12.706), (2, 4.303), (3, 3.182), (4, 2.776), (5, 2.571), (6, 2.447), (7, 2.365),
    (8, 2.306), (9, 2.262), (10, 2.228), (12, 2.179), (15, 2.131), (20, 2.086), (24, 2.064),
    (30, 2.042), (40, 2.021), (60, 2.000), (120, 1.980)]

def tValue95 (df : Nat) : ℚ :=
  if df = 0 then 0
  else if df ≥ 120 then 1.960
  else ((tTable.find? fun row => df ≤ row.1).map Prod.snd).getD 1.960

def sortSamples (xs : List ℚ) : List ℚ := xs.mergeSort fun a b => a ≤ b

/-- Tukey's fences: the kept samples in their order, and how many were removed. -/
def removeOutliersIqr (xs : List ℚ) : List ℚ × Nat :=
  if xs.length < 4 then (xs, 0)
  else
    let sorted := sortSamples xs
    let q1 := (percentile sorted 25).getD 0
    let q3 := (percentile sorted 75).getD 0
    let iqr := q3 - q1
    let lo := q1 - 1.5 * iqr
    let hi := q3 + 1.5 * iqr
    let kept := xs.filter fun x => x ≥ lo ∧ x ≤ hi
    (kept, xs.length - kept.length)

section Sqrt

variable (sqrt : ℚ → ℚ)

def stddev (xs : List ℚ) : ℚ :=
  if xs.length < 2 then 0
  else
    let m := mean xs
    sqrt ((xs.map fun x => (x - m) * (x - m)).sum / (xs.length - 1))

def ci95Halfwidth (xs : List ℚ) : ℚ :=
  if xs.length < 2 then 0
  else tValue95 (xs.length - 1) * stddev sqrt xs / sqrt xs.length

def coefficientOfVariation (xs : List ℚ) : ℚ :=
  let m := mean xs
  if |m| < 1 / 2 ^ 52 then 0 else stddev sqrt xs / m

def summarize (xs : List ℚ) : Summary :=
  if xs.isEmpty then .empty
  else
    let sorted := sortSamples xs
    let at_p (p : ℚ) : ℚ := (percentile sorted p).getD 0
    { n := xs.length
      mean := mean xs
      median := at_p 50
      stddev := stddev sqrt xs
      min := sorted.headD 0
      max := sorted.getLastD 0
      p50 := at_p 50
      p90 := at_p 90
      p95 := at_p 95
      p99 := at_p 99
      p999 := at_p 99.9
      ci95 := ci95Halfwidth sqrt xs
      cov := coefficientOfVariation sqrt xs }

end Sqrt

end Seshat.Metrics
