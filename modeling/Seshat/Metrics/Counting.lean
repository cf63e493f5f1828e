import Seshat.Metrics.Integrity
import Mathlib.Tactic.Common

/-! The integrity counts with the overflow checks of a debug build, and when they are exact. -/

namespace Seshat.Metrics
open Lib.Saturating

/-- An addition that fails when it leaves the 64-bit words. -/
def checkedAdd (a b : UInt64) : Option UInt64 :=
  if a.toNat + b.toNat < 2 ^ 64 then some (a + b) else none

def checkedSub (a b : UInt64) : Option UInt64 := if b ≤ a then some (a - b) else none

def SeqScan.stepChecked (scan : SeqScan) (arrival : UInt64 × Nat) : Option SeqScan :=
  let counted :=
    if arrival.2 > 0 ∧ arrival.1 < scan.prev then checkedAdd scan.reordered 1
    else some scan.reordered
  counted.map fun reordered => { scan.step arrival with reordered }

/-- `integrity` with every addition and subtraction checked; `none` is a panic. -/
def integrityChecked (seqs : List UInt64) : Option Integrity :=
  match seqs with
  | [] => some {}
  | first :: _ => do
      let scan ← seqs.zipIdx.foldlM SeqScan.stepChecked
        { min := clampWord top, max := 0, reordered := 0, prev := first }
      let received := UInt64.ofNat seqs.length
      let distinct := UInt64.ofNat seqs.dedup.length
      let width ← checkedSub scan.max scan.min
      let span ← checkedAdd width 1
      let duplicate ← checkedSub received distinct
      return { received
               distinct
               lost := satSub span distinct
               duplicate
               reordered := scan.reordered }

/-- The arrivals reach from the first to the last 64-bit word. -/
def FullSpan (seqs : List UInt64) : Prop := 0 ∈ seqs ∧ 0xffffffffffffffff ∈ seqs

instance (seqs : List UInt64) : Decidable (FullSpan seqs) := inferInstanceAs (Decidable (_ ∧ _))

/-! The checked computation. -/

theorem checkedAdd_of_lt {a b : UInt64} (small : a.toNat + b.toNat < 2 ^ 64) :
    checkedAdd a b = some (a + b) :=
  if_pos small

theorem checkedSub_of_le {a b : UInt64} (ordered : b.toNat ≤ a.toNat) :
    checkedSub a b = some (a - b) :=
  if_pos (UInt64.le_iff_toNat_le.mpr ordered)

/-- A counter that can still take every arrival counts the step as the unchecked scan does. -/
theorem SeqScan.stepChecked_eq {scan : SeqScan} (arrival : UInt64 × Nat)
    (room : scan.reordered.toNat + 1 < 2 ^ 64) :
    scan.stepChecked arrival = some (scan.step arrival) ∧
      (scan.step arrival).reordered.toNat ≤ scan.reordered.toNat + 1 := by
  have counted := checkedAdd_of_lt (b := 1) room
  unfold SeqScan.stepChecked SeqScan.step
  by_cases behind : arrival.2 > 0 ∧ arrival.1 < scan.prev
  · simp only [if_pos behind, counted, Option.map_some, true_and]
    rw [UInt64.toNat_add, UInt64.toNat_one, Nat.mod_eq_of_lt room]
  · simp only [if_neg behind, Option.map_some, true_and]
    exact Nat.le_succ _

theorem SeqScan.foldlM_stepChecked (arrivals : List (UInt64 × Nat)) (scan : SeqScan)
    (room : scan.reordered.toNat + arrivals.length < 2 ^ 64) :
    arrivals.foldlM SeqScan.stepChecked scan = some (arrivals.foldl SeqScan.step scan) := by
  induction arrivals generalizing scan with
  | nil => rfl
  | cons arrival rest ih =>
      rw [List.length_cons] at room
      obtain ⟨stepped, bounded⟩ := scan.stepChecked_eq arrival (by omega)
      rw [List.foldlM_cons, stepped, List.foldl_cons]
      exact ih _ (by omega)

theorem SeqScan.over_checked {seqs : List UInt64} (first : UInt64) (few : seqs.length < 2 ^ 64) :
    seqs.zipIdx.foldlM SeqScan.stepChecked
        { min := clampWord top, max := 0, reordered := 0, prev := first } =
      some (SeqScan.over first seqs) :=
  SeqScan.foldlM_stepChecked _ _ (by
    rw [List.length_zipIdx]
    exact (Nat.zero_add _).trans_lt few)

section Counts
variable {seqs : List UInt64}

theorem distinct_toNat (few : seqs.length < 2 ^ 64) :
    (UInt64.ofNat seqs.dedup.length).toNat = seqs.dedup.length := by
  have fewer := (List.dedup_sublist seqs).length_le
  rw [UInt64.toNat_ofNat', Nat.mod_eq_of_lt (lt_of_le_of_lt fewer few)]

theorem received_toNat (few : seqs.length < 2 ^ 64) :
    (UInt64.ofNat seqs.length).toNat = seqs.length := by
  rw [UInt64.toNat_ofNat', Nat.mod_eq_of_lt few]

/-- The span of the arrivals is all words only when both ends arrived. -/
theorem fullSpan_iff {lo hi : UInt64} (in_lo : lo ∈ seqs) (in_hi : hi ∈ seqs)
    (between : ∀ s ∈ seqs, lo.toNat ≤ s.toNat ∧ s.toNat ≤ hi.toNat) :
    FullSpan seqs ↔ hi.toNat - lo.toNat + 1 = 2 ^ 64 := by
  have reach := hi.toNat_lt
  constructor
  · rintro ⟨zero, last⟩
    have low := (between 0 zero).1
    have high := (between _ last).2
    change lo.toNat ≤ 0 at low
    change 18446744073709551615 ≤ hi.toNat at high
    omega
  · intro whole
    have zero : lo = 0 := eq_zero_of_toNat (by omega)
    have last : hi = 0xffffffffffffffff := UInt64.toNat_inj.mp (by
      change hi.toNat = 18446744073709551615
      omega)
    exact ⟨zero ▸ in_lo, last ▸ in_hi⟩

/-- The extremes the scan ends with, whatever the order of the arrivals. -/
theorem SeqScan.over_perm {other : List UInt64} (first first' : UInt64) (some_arrival : seqs ≠ [])
    (reordered : seqs.Perm other) :
    (SeqScan.over first seqs).min = (SeqScan.over first' other).min ∧
      (SeqScan.over first seqs).max = (SeqScan.over first' other).max := by
  have some_other : other ≠ [] := by
    rintro rfl
    exact some_arrival (List.perm_nil.mp reordered)
  have bounds := SeqScan.over_bounds first seqs
  have bounds' := SeqScan.over_bounds first' other
  have low := reordered.mem_iff.mp (bounds.min_mem some_arrival)
  have low' := reordered.mem_iff.mpr (bounds'.min_mem some_other)
  have high := reordered.mem_iff.mp (bounds.max_mem some_arrival)
  have high' := reordered.mem_iff.mpr (bounds'.max_mem some_other)
  exact ⟨UInt64.toNat_inj.mp (le_antisymm (bounds.min_le _ low') (bounds'.min_le _ low)),
    UInt64.toNat_inj.mp (le_antisymm (bounds'.le_max _ high) (bounds.le_max _ high'))⟩

/-- All counts but the reordering depend on which numbers arrived, not on their order. -/
theorem integrity_perm {other : List UInt64} (reordered : seqs.Perm other) :
    (integrity seqs).received = (integrity other).received ∧
      (integrity seqs).distinct = (integrity other).distinct ∧
      (integrity seqs).lost = (integrity other).lost ∧
      (integrity seqs).duplicate = (integrity other).duplicate := by
  have lengths := reordered.length_eq
  have distinct := reordered.dedup.length_eq
  cases seqs with
  | nil =>
      rw [List.nil_perm.mp reordered]
      exact ⟨rfl, rfl, rfl, rfl⟩
  | cons first rest =>
      cases other with
      | nil => exact absurd reordered.symm (List.not_perm_nil_cons _ _)
      | cons first' rest' =>
          obtain ⟨low, high⟩ := SeqScan.over_perm first first' (List.cons_ne_nil _ _) reordered
          simp only [integrity]
          rw [lengths, distinct, low, high]
          exact ⟨rfl, rfl, rfl, rfl⟩

/-- What sequence accounting promises of the arrivals of a flow. -/
structure CountsExact (seqs : List UInt64) : Prop where
  checked : integrityChecked seqs = some (integrity seqs)
  received : (integrity seqs).received.toNat = seqs.length
  distinct : (integrity seqs).distinct.toNat = seqs.dedup.length
  duplicate : (integrity seqs).received.toNat =
    (integrity seqs).distinct.toNat + (integrity seqs).duplicate.toNat
  lost : ∃ lo ∈ seqs, ∃ hi ∈ seqs, (∀ s ∈ seqs, lo.toNat ≤ s.toNat ∧ s.toNat ≤ hi.toNat) ∧
    (integrity seqs).lost.toNat + (integrity seqs).distinct.toNat = hi.toNat - lo.toNat + 1
  stable : ∀ other, seqs.Perm other →
    (integrity seqs).received = (integrity other).received ∧
      (integrity seqs).distinct = (integrity other).distinct ∧
      (integrity seqs).lost = (integrity other).lost ∧
      (integrity seqs).duplicate = (integrity other).duplicate

theorem integrity_received (some_arrival : seqs ≠ []) :
    (integrity seqs).received = UInt64.ofNat seqs.length ∧
      (integrity seqs).distinct = UInt64.ofNat seqs.dedup.length ∧
      (integrity seqs).duplicate = UInt64.ofNat seqs.length - UInt64.ofNat seqs.dedup.length := by
  cases seqs with
  | nil => exact absurd rfl some_arrival
  | cons first rest => exact ⟨rfl, rfl, rfl⟩

/-- Only the span and the difference of the counts can fail. -/
theorem integrityChecked_cons {first : UInt64} {rest : List UInt64}
    (few : (first :: rest).length < 2 ^ 64) :
    integrityChecked (first :: rest) =
      let scan := SeqScan.over first (first :: rest)
      let received := UInt64.ofNat (first :: rest).length
      let distinct := UInt64.ofNat (first :: rest).dedup.length
      (checkedSub scan.max scan.min).bind fun width =>
        (checkedAdd width 1).bind fun span =>
          (checkedSub received distinct).map fun duplicate =>
            { received
              distinct
              lost := satSub span distinct
              duplicate
              reordered := scan.reordered } := by
  unfold integrityChecked
  dsimp only
  rw [SeqScan.over_checked first few, Option.bind_eq_bind, Option.bind_some]
  simp only [Option.bind_eq_bind, Option.map_eq_bind]
  rfl

/-- The width of the arrivals fits a word; the span leaves the words for a full one alone. -/
theorem SeqScan.over_width (first : UInt64) (rest : List UInt64) :
    let scan := SeqScan.over first (first :: rest)
    checkedSub scan.max scan.min = some (scan.max - scan.min) ∧
      (FullSpan (first :: rest) ↔ (scan.max - scan.min).toNat + 1 = 2 ^ 64) := by
  intro scan
  have bounds := SeqScan.over_bounds first (first :: rest)
  have low := bounds.min_mem (List.cons_ne_nil first rest)
  have high := bounds.max_mem (List.cons_ne_nil first rest)
  have ordered := bounds.min_le _ high
  refine ⟨checkedSub_of_le ordered, ?_⟩
  rw [UInt64.toNat_sub_of_le _ _ (UInt64.le_iff_toNat_le.mpr ordered)]
  exact fullSpan_iff low high fun s member => ⟨bounds.min_le s member, bounds.le_max s member⟩

theorem integrityChecked_of_narrow (few : seqs.length < 2 ^ 64) (some_arrival : seqs ≠ [])
    (narrow : ¬FullSpan seqs) : integrityChecked seqs = some (integrity seqs) := by
  have received := received_toNat few
  have distinct := distinct_toNat few
  have fewer := (List.dedup_sublist seqs).length_le
  cases seqs with
  | nil => exact absurd rfl some_arrival
  | cons first rest =>
      obtain ⟨width, full⟩ := SeqScan.over_width first rest
      rw [full] at narrow
      have reach := ((SeqScan.over first (first :: rest)).max -
        (SeqScan.over first (first :: rest)).min).toNat_lt
      have span : checkedAdd ((SeqScan.over first (first :: rest)).max -
          (SeqScan.over first (first :: rest)).min) 1 = _ :=
        checkedAdd_of_lt (by rw [UInt64.toNat_one]; omega)
      have duplicate : checkedSub (UInt64.ofNat (first :: rest).length)
          (UInt64.ofNat (first :: rest).dedup.length) = _ :=
        checkedSub_of_le (by rw [received, distinct]; exact fewer)
      rw [integrityChecked_cons few]
      dsimp only
      rw [width, Option.bind_some, span, Option.bind_some, duplicate]
      rfl

theorem integrityChecked_of_full (few : seqs.length < 2 ^ 64) (full : FullSpan seqs) :
    integrityChecked seqs = none := by
  cases seqs with
  | nil => exact absurd full.1 List.not_mem_nil
  | cons first rest =>
      obtain ⟨width, whole⟩ := SeqScan.over_width first rest
      have last := whole.mp full
      have span : checkedAdd ((SeqScan.over first (first :: rest)).max -
          (SeqScan.over first (first :: rest)).min) 1 = none := by
        unfold checkedAdd
        rw [if_neg]
        rw [UInt64.toNat_one]
        omega
      rw [integrityChecked_cons few]
      dsimp only
      rw [width, Option.bind_some, span, Option.bind_none]

end Counts

/-- Sequence accounting is exact for the arrivals that do not reach from the first 64-bit word
to the last: only there the span does not fit its word. -/
theorem counts_exact_iff {seqs : List UInt64} (some_arrival : seqs ≠ [])
    (few : seqs.length < 2 ^ 64) : CountsExact seqs ↔ ¬FullSpan seqs := by
  constructor
  · intro exact full
    have checked := exact.checked
    rw [integrityChecked_of_full few full] at checked
    cases checked
  · intro narrow
    obtain ⟨received, distinct, duplicate⟩ := integrity_received some_arrival
    have fewer := (List.dedup_sublist seqs).length_le
    obtain ⟨lo, in_lo, hi, in_hi, between, lost⟩ := integrity_lost some_arrival few
    have most := distinct_le between
    have wide := (fullSpan_iff in_lo in_hi between).not.mp narrow
    have reach := hi.toNat_lt
    refine ⟨integrityChecked_of_narrow few some_arrival narrow, ?_, ?_, ?_, ?_,
      fun other reordered => integrity_perm reordered⟩
    · rw [received, received_toNat few]
    · rw [distinct, distinct_toNat few]
    · rw [duplicate, received, distinct, UInt64.toNat_sub_of_le, received_toNat few,
        distinct_toNat few]
      · omega
      · rw [UInt64.le_iff_toNat_le, received_toNat few, distinct_toNat few]
        exact fewer
    · refine ⟨lo, in_lo, hi, in_hi, between, ?_⟩
      rw [lost, distinct, distinct_toNat few, Nat.mod_eq_of_lt (by omega)]
      omega

theorem counts_exact_iff_gap : CountsExact [9, 7, 7] :=
  (counts_exact_iff (by decide) (by decide)).mpr (by decide)

/-- The two ends of the sequence space are two arrivals whose span leaves the 64-bit words. -/
theorem not_counts_exact : ¬∀ seqs : List UInt64, seqs ≠ [] → seqs.length < 2 ^ 64 →
    CountsExact seqs := by
  intro exact
  have checked := (exact [0, 0xffffffffffffffff] (by decide) (by decide)).checked
  rw [integrityChecked_of_full (by decide) (by decide)] at checked
  cases checked

end Seshat.Metrics
