import Seshat.Lib.Counting
import Seshat.Metrics.Integrity
import Mathlib.Data.List.GetD
import Mathlib.Data.List.Induction
import Mathlib.Tactic.Common

/-! The reordered count against the definition of a reordering: the scan compares an
arrival with its immediate predecessor only. -/

namespace Seshat.Metrics
open Lib.Counting

/-- Arrival `i` is lower than a previously seen one. -/
def lateAt (seqs : List UInt64) (i : Nat) : Bool :=
  (seqs.take i).any fun seen => seqs.getD i 0 < seen

/-- Arrival `i` is lower than the one right in front of it. -/
def behindAt (seqs : List UInt64) (i : Nat) : Bool :=
  i > 0 && seqs.getD i 0 < seqs.getD (i - 1) 0

/-- The arrivals that are lower than a previously seen one. -/
def outOfOrder (seqs : List UInt64) : Nat := (List.range seqs.length).countP (lateAt seqs)

/-- The arrivals that are lower than their predecessor. -/
def descents (seqs : List UInt64) : Nat := (List.range seqs.length).countP (behindAt seqs)

theorem behindAt_late {seqs : List UInt64} {i : Nat} (inside : i < seqs.length)
    (behind : behindAt seqs i = true) : lateAt seqs i = true := by
  rw [behindAt, Bool.and_eq_true, decide_eq_true_eq] at behind
  have seen : seqs.getD (i - 1) 0 ∈ seqs.take i := by
    rw [List.getD_eq_getElem _ _ (by omega), List.mem_take_iff_getElem]
    exact ⟨i - 1, by omega, rfl⟩
  exact List.any_eq_true.mpr ⟨_, seen, behind.2⟩

theorem behindAt_append {seqs : List UInt64} {i : Nat} (inside : i < seqs.length) (s : UInt64) :
    behindAt (seqs ++ [s]) i = behindAt seqs i := by
  rw [behindAt, behindAt, List.getD_append _ _ _ _ inside,
    List.getD_append _ _ _ _ (show i - 1 < seqs.length by omega)]

theorem behindAt_last {seqs : List UInt64} (some_seen : seqs ≠ []) (s : UInt64) :
    behindAt (seqs ++ [s]) seqs.length = decide (s < seqs.getLastD 0) := by
  have size := List.length_pos_iff.mpr some_seen
  rw [behindAt, List.getD_append_right _ _ _ _ le_rfl, Nat.sub_self,
    List.getD_append _ _ _ _ (by omega), List.getLastD_eq_getLast?, List.getLast?_eq_getElem?,
    ← List.getD_eq_getElem?_getD, decide_eq_true size, Bool.true_and]
  rfl

theorem descents_append {seqs : List UInt64} (some_seen : seqs ≠ []) (s : UInt64) :
    descents (seqs ++ [s]) =
      descents seqs + if s < seqs.getLastD 0 then 1 else 0 := by
  have front : (List.range seqs.length).countP (behindAt (seqs ++ [s])) = descents seqs :=
    List.countP_congr fun i member => by
      rw [behindAt_append (List.mem_range.mp member)]
  rw [descents, List.length_append, List.length_singleton, List.range_succ, List.countP_append,
    front, List.countP_singleton, behindAt_last some_seen]
  simp only [decide_eq_true_eq]

/-- What the scan has counted behind the arrivals `seen`, and the arrival it compares
the next one with. -/
structure SeqScan.Counts (scan : SeqScan) (seen : List UInt64) : Prop where
  prev : seen ≠ [] → scan.prev = seen.getLastD 0
  reordered : scan.reordered = UInt64.ofNat (descents seen)

theorem SeqScan.Counts.step {scan : SeqScan} {seen : List UInt64} (counts : scan.Counts seen)
    (s : UInt64) : (scan.step (s, seen.length)).Counts (seen ++ [s]) := by
  refine ⟨fun _ => by rw [List.getLastD_concat]; rfl, ?_⟩
  change (if seen.length > 0 ∧ s < scan.prev then _ else _) = _
  by_cases empty : seen = []
  · subst empty
    rw [if_neg (by simp), counts.reordered]
    rfl
  · have size := List.length_pos_iff.mpr empty
    rw [descents_append empty, ← counts.prev empty, counts.reordered]
    by_cases behind : s < scan.prev
    · rw [if_pos ⟨size, behind⟩, if_pos behind, UInt64.ofNat_add]
      rfl
    · rw [if_neg fun both => behind both.2, if_neg behind, Nat.add_zero]

theorem SeqScan.over_counts (first : UInt64) (seqs : List UInt64) :
    (SeqScan.over first seqs).Counts seqs := by
  induction seqs using List.reverseRecOn with
  | nil => exact ⟨fun some_seen => absurd rfl some_seen, rfl⟩
  | append_singleton seen s ih =>
    rw [SeqScan.over, List.zipIdx_append, List.foldl_append, Nat.zero_add]
    exact ih.step s

/-- The scan counts the arrivals that are lower than their predecessor. -/
theorem integrity_reordered {seqs : List UInt64} (few : seqs.length < 2 ^ 64) :
    (integrity seqs).reordered.toNat = descents seqs := by
  have counts := (SeqScan.over_counts (seqs.headD 0) seqs).reordered
  have most : descents seqs ≤ seqs.length :=
    List.countP_le_length.trans_eq List.length_range
  have same : (integrity seqs).reordered = UInt64.ofNat (descents seqs) := by
    cases seqs with
    | nil => rfl
    | cons first rest => exact counts
  rw [same, UInt64.toNat_ofNat', Nat.mod_eq_of_lt (by omega)]

/-- The count follows the definition exactly where every arrival that is lower than some
earlier one is lower than the one right in front of it. -/
theorem integrity_reordered_iff {seqs : List UInt64} (few : seqs.length < 2 ^ 64) :
    (integrity seqs).reordered.toNat = outOfOrder seqs ↔
      ∀ i < seqs.length, lateAt seqs i = true → behindAt seqs i = true := by
  rw [integrity_reordered few, descents, outOfOrder, countP_eq_iff_of_imp]
  · simp only [List.mem_range]
  · intro i member
    exact behindAt_late (List.mem_range.mp member)

theorem integrity_reordered_iff_swap :
    (integrity [0, 1, 2, 2, 1, 3]).reordered.toNat = outOfOrder [0, 1, 2, 2, 1, 3] :=
  (integrity_reordered_iff (by decide)).mpr (by decide)

/-- One arrival delayed behind two others: both of them are out of order, one is counted. -/
theorem integrity_reordered_delayed :
    (integrity [2, 0, 1]).reordered.toNat = 1 ∧ outOfOrder [2, 0, 1] = 2 := by
  decide

end Seshat.Metrics
