import Seshat.Metrics.App
import Mathlib.Data.List.Nodup
import Mathlib.Tactic.Common

/-! What the integrity scan computes: the smallest and largest arrival, and from their
span the losses between them. -/

namespace Seshat.Metrics
open Lib.Saturating

/-- The scan's extremes after the arrivals `seen`. -/
structure SeqScan.Bounds (scan : SeqScan) (seen : List UInt64) : Prop where
  fresh : seen = [] → scan.min.toNat = top ∧ scan.max.toNat = 0
  min_le : ∀ s ∈ seen, scan.min.toNat ≤ s.toNat
  le_max : ∀ s ∈ seen, s.toNat ≤ scan.max.toNat
  min_mem : seen ≠ [] → scan.min ∈ seen
  max_mem : seen ≠ [] → scan.max ∈ seen

theorem SeqScan.step_min (scan : SeqScan) (arrival : UInt64 × Nat) :
    (scan.step arrival).min.toNat = Min.min arrival.1.toNat scan.min.toNat ∧
      ((scan.step arrival).min = arrival.1 ∨ (scan.step arrival).min = scan.min) := by
  unfold SeqScan.step
  by_cases below : arrival.1 < scan.min
  · have lt := UInt64.lt_iff_toNat_lt.mp below
    simp only [if_pos below, true_or, and_true]
    omega
  · have ge : ¬arrival.1.toNat < scan.min.toNat := fun lt => below (UInt64.lt_iff_toNat_lt.mpr lt)
    simp only [if_neg below, or_true, and_true]
    omega

theorem SeqScan.step_max (scan : SeqScan) (arrival : UInt64 × Nat) :
    (scan.step arrival).max.toNat = Max.max arrival.1.toNat scan.max.toNat ∧
      ((scan.step arrival).max = arrival.1 ∨ (scan.step arrival).max = scan.max) := by
  unfold SeqScan.step
  by_cases above : arrival.1 > scan.max
  · have lt := UInt64.lt_iff_toNat_lt.mp above
    simp only [if_pos above, true_or, and_true]
    omega
  · have le : ¬scan.max.toNat < arrival.1.toNat :=
      fun lt => above (UInt64.lt_iff_toNat_lt.mpr lt)
    simp only [if_neg above, or_true, and_true]
    omega

theorem SeqScan.Bounds.step {scan : SeqScan} {seen : List UInt64} (bounds : scan.Bounds seen)
    (arrival : UInt64 × Nat) : (scan.step arrival).Bounds (seen ++ [arrival.1]) := by
  obtain ⟨min_value, min_choice⟩ := scan.step_min arrival
  obtain ⟨max_value, max_choice⟩ := scan.step_max arrival
  have reach := toNat_le_top arrival.1
  refine ⟨fun empty => by simp at empty, fun s member => ?_, fun s member => ?_, fun _ => ?_,
    fun _ => ?_⟩
  · rcases List.mem_append.mp member with old | new
    · have := bounds.min_le s old
      omega
    · rw [List.mem_singleton.mp new]
      omega
  · rcases List.mem_append.mp member with old | new
    · have := bounds.le_max s old
      omega
    · rw [List.mem_singleton.mp new]
      omega
  · rcases min_choice with new | old
    · rw [new]
      exact List.mem_append_right _ (List.mem_singleton_self _)
    · by_cases empty : seen = []
      · -- the first arrival is the minimum even when it equals the start value
        have start := (bounds.fresh empty).1
        have same : (scan.step arrival).min = arrival.1 := UInt64.toNat_inj.mp (by omega)
        rw [same]
        exact List.mem_append_right _ (List.mem_singleton_self _)
      · rw [old]
        exact List.mem_append_left _ (bounds.min_mem empty)
  · rcases max_choice with new | old
    · rw [new]
      exact List.mem_append_right _ (List.mem_singleton_self _)
    · by_cases empty : seen = []
      · have start := (bounds.fresh empty).2
        have same : (scan.step arrival).max = arrival.1 := UInt64.toNat_inj.mp (by omega)
        rw [same]
        exact List.mem_append_right _ (List.mem_singleton_self _)
      · rw [old]
        exact List.mem_append_left _ (bounds.max_mem empty)

theorem SeqScan.Bounds.foldl {scan : SeqScan} {seen : List UInt64} (bounds : scan.Bounds seen)
    (arrivals : List (UInt64 × Nat)) :
    (arrivals.foldl SeqScan.step scan).Bounds (seen ++ arrivals.map Prod.fst) := by
  induction arrivals generalizing scan seen with
  | nil => simpa using bounds
  | cons arrival rest ih =>
    have later := ih (bounds.step arrival)
    rwa [List.append_assoc] at later

theorem SeqScan.over_bounds (first : UInt64) (seqs : List UInt64) :
    (SeqScan.over first seqs).Bounds seqs := by
  have start : SeqScan.Bounds ⟨clampWord top, 0, 0, first⟩ [] :=
    ⟨fun _ => ⟨by simp, rfl⟩, by simp, by simp, by simp, by simp⟩
  have all := start.foldl seqs.zipIdx
  rwa [List.nil_append, List.zipIdx_map_fst] at all

/-- Losses are the span of the arrivals less the distinct ones, both as 64-bit words. -/
theorem integrity_span {seqs : List UInt64} (some_arrival : seqs ≠ []) :
    ∃ lo ∈ seqs, ∃ hi ∈ seqs, (∀ s ∈ seqs, lo.toNat ≤ s.toNat ∧ s.toNat ≤ hi.toNat) ∧
      (integrity seqs).lost.toNat =
        (hi.toNat - lo.toNat + 1) % 2 ^ 64 - seqs.dedup.length % 2 ^ 64 := by
  cases seqs with
  | nil => exact absurd rfl some_arrival
  | cons first rest =>
    have bounds := SeqScan.over_bounds first (first :: rest)
    have low := bounds.min_mem some_arrival
    have high := bounds.max_mem some_arrival
    refine ⟨_, low, _, high, fun s member => ⟨bounds.min_le s member, bounds.le_max s member⟩, ?_⟩
    have ordered := bounds.min_le _ high
    simp only [integrity, satSub_toNat, UInt64.toNat_add,
      UInt64.toNat_sub_of_le _ _ (UInt64.le_iff_toNat_le.mpr ordered), UInt64.toNat_one]
    rw [UInt64.toNat_ofNat']

theorem integrity_lost {seqs : List UInt64} (some_arrival : seqs ≠ [])
    (few : seqs.length < 2 ^ 64) :
    ∃ lo ∈ seqs, ∃ hi ∈ seqs, (∀ s ∈ seqs, lo.toNat ≤ s.toNat ∧ s.toNat ≤ hi.toNat) ∧
      (integrity seqs).lost.toNat =
        (hi.toNat - lo.toNat + 1) % 2 ^ 64 - seqs.dedup.length := by
  have distinct := (List.dedup_sublist seqs).length_le
  have span := integrity_span some_arrival
  rwa [Nat.mod_eq_of_lt (lt_of_le_of_lt distinct few)] at span

section Interval

variable {seqs : List UInt64} {lo hi : UInt64}

theorem values_nodup (seqs : List UInt64) : (seqs.dedup.map UInt64.toNat).Nodup :=
  (List.nodup_dedup seqs).map fun _ _ => UInt64.toNat_inj.mp

theorem values_inside (between : ∀ s ∈ seqs, lo.toNat ≤ s.toNat ∧ s.toNat ≤ hi.toNat) :
    seqs.dedup.map UInt64.toNat ⊆ List.range' lo.toNat (hi.toNat - lo.toNat + 1) := by
  intro value member
  obtain ⟨s, inSeqs, rfl⟩ := List.mem_map.mp member
  have := between s (List.mem_dedup.mp inSeqs)
  rw [List.mem_range'_1]
  omega

theorem distinct_le (between : ∀ s ∈ seqs, lo.toNat ≤ s.toNat ∧ s.toNat ≤ hi.toNat) :
    seqs.dedup.length ≤ hi.toNat - lo.toNat + 1 := by
  have size := (List.subperm_of_subset (values_nodup seqs) (values_inside between)).length_le
  rwa [List.length_map, List.length_range'] at size

/-- Numbers of an interval are as many as it has exactly if none of it is missing. -/
theorem distinct_eq_iff (ordered : lo.toNat ≤ hi.toNat)
    (between : ∀ s ∈ seqs, lo.toNat ≤ s.toNat ∧ s.toNat ≤ hi.toNat) :
    seqs.dedup.length = hi.toNat - lo.toNat + 1 ↔
      ∀ v : UInt64, lo.toNat ≤ v.toNat → v.toNat ≤ hi.toNat → v ∈ seqs := by
  have subperm := List.subperm_of_subset (values_nodup seqs) (values_inside between)
  have reach := hi.toNat_lt
  constructor
  · intro full v above below
    have perm := subperm.perm_of_length_le (by rw [List.length_range', List.length_map, full])
    have inRange : v.toNat ∈ List.range' lo.toNat (hi.toNat - lo.toNat + 1) := by
      rw [List.mem_range'_1]
      omega
    obtain ⟨s, inSeqs, same⟩ := List.mem_map.mp (perm.mem_iff.mpr inRange)
    rw [← UInt64.toNat_inj.mp same]
    exact List.mem_dedup.mp inSeqs
  · intro covered
    have all : List.range' lo.toNat (hi.toNat - lo.toNat + 1) ⊆ seqs.dedup.map UInt64.toNat := by
      intro value inRange
      rw [List.mem_range'_1] at inRange
      have word : (UInt64.ofNat value).toNat = value := by
        rw [UInt64.toNat_ofNat', Nat.mod_eq_of_lt (by omega)]
      refine List.mem_map.mpr ⟨UInt64.ofNat value, List.mem_dedup.mpr ?_, word⟩
      exact covered _ (by rw [word]; omega) (by rw [word]; omega)
    have size := (List.subperm_of_subset List.nodup_range' all).length_le
    rw [List.length_range', List.length_map] at size
    exact le_antisymm (distinct_le between) size

end Interval

/-- A number between two arrivals is missing, and the arrivals do not span all words. -/
def GapSeen (seqs : List UInt64) : Prop :=
  (∃ lo ∈ seqs, ∃ hi ∈ seqs, ∃ missing ∉ seqs, lo < missing ∧ missing < hi) ∧
    ¬(0 ∈ seqs ∧ clampWord top ∈ seqs)

/-- Between the smallest and the largest arrival a number is missing exactly if one is
missing between some two arrivals. -/
theorem gap_iff_span {seqs : List UInt64} {lo hi : UInt64} (in_lo : lo ∈ seqs) (in_hi : hi ∈ seqs)
    (between : ∀ s ∈ seqs, lo.toNat ≤ s.toNat ∧ s.toNat ≤ hi.toNat) :
    (∃ low ∈ seqs, ∃ high ∈ seqs, ∃ missing ∉ seqs, low < missing ∧ missing < high) ↔
      seqs.dedup.length ≠ hi.toNat - lo.toNat + 1 := by
  rw [ne_eq, distinct_eq_iff (between lo in_lo).2 between]
  constructor
  · rintro ⟨low, in_low, high, in_high, missing, absent, above, below⟩ covered
    have := (between low in_low).1
    have := (between high in_high).2
    rw [UInt64.lt_iff_toNat_lt] at above below
    exact absent (covered missing (by omega) (by omega))
  · intro uncovered
    simp only [not_forall] at uncovered
    obtain ⟨missing, above, below, absent⟩ := uncovered
    refine ⟨lo, in_lo, hi, in_hi, missing, absent, ?_, ?_⟩
    · refine UInt64.lt_iff_toNat_lt.mpr (lt_of_le_of_ne above fun same => absent ?_)
      rwa [← UInt64.toNat_inj.mp same]
    · refine UInt64.lt_iff_toNat_lt.mpr (lt_of_le_of_ne below fun same => absent ?_)
      rwa [UInt64.toNat_inj.mp same]

/-- The scan reports a loss for exactly the gaps between arrivals: what is missing before
the first or after the last number, or without any arrival, it does not see. -/
theorem integrity_lost_eq_zero (seqs : List UInt64) :
    (integrity seqs).lost = 0 ↔ ¬GapSeen seqs := by
  by_cases empty : seqs = []
  · subst empty
    simp [integrity, GapSeen]
  obtain ⟨lo, in_lo, hi, in_hi, between, lost⟩ := integrity_span empty
  have most := distinct_le between
  have ordered := (between lo in_lo).2
  have reach := hi.toNat_lt
  have last_value : (clampWord top).toNat = 2 ^ 64 - 1 := by simp [top]
  rw [← UInt64.toNat_inj, UInt64.toNat_zero, lost, GapSeen, gap_iff_span in_lo in_hi between]
  by_cases whole : 0 ∈ seqs ∧ clampWord top ∈ seqs
  · -- the span of all words wraps to zero
    have low := (between 0 whole.1).1
    have high := (between _ whole.2).2
    rw [UInt64.toNat_zero] at low
    rw [last_value] at high
    have span : hi.toNat - lo.toNat + 1 = 2 ^ 64 := by omega
    rw [span, Nat.mod_self, Nat.zero_sub]
    exact ⟨fun _ gap => gap.2 whole, fun _ => rfl⟩
  · have narrow : hi.toNat - lo.toNat + 1 < 2 ^ 64 := by
      by_contra wide
      have first : lo = 0 := eq_zero_of_toNat (by omega)
      have last : hi = clampWord top := UInt64.toNat_inj.mp (by rw [last_value]; omega)
      exact whole ⟨first ▸ in_lo, last ▸ in_hi⟩
    rw [Nat.mod_eq_of_lt narrow, Nat.mod_eq_of_lt (lt_of_le_of_lt most narrow)]
    constructor
    · intro none_lost gap
      exact gap.1 (by omega)
    · intro no_gap
      have full : seqs.dedup.length = hi.toNat - lo.toNat + 1 := by
        by_contra less
        exact no_gap ⟨less, whole⟩
      omega

/-- Arrivals that never fall behind are not reordered. -/
theorem SeqScan.foldl_ascending (arrivals : List (UInt64 × Nat)) (scan : SeqScan)
    (ahead : ∀ a ∈ arrivals, scan.prev.toNat ≤ a.1.toNat)
    (ascending : arrivals.Pairwise fun a b => a.1.toNat ≤ b.1.toNat) :
    (arrivals.foldl SeqScan.step scan).reordered = scan.reordered := by
  induction arrivals generalizing scan with
  | nil => rfl
  | cons arrival rest ih =>
    have first := ahead arrival List.mem_cons_self
    have kept : (scan.step arrival).reordered = scan.reordered := by
      unfold SeqScan.step
      simp only
      rw [if_neg]
      rintro ⟨-, behind⟩
      exact absurd (UInt64.lt_iff_toNat_lt.mp behind) (by omega)
    rw [List.foldl_cons, ih (scan.step arrival) (List.pairwise_cons.mp ascending).1
      (List.pairwise_cons.mp ascending).2, kept]

/-- The numbers 0, 1, …, n - 1. -/
def consecutive (n : Nat) : List UInt64 := (List.range n).map UInt64.ofNat

theorem ofNat_toNat_of_lt {k n : Nat} (before : k < n) (few : n ≤ 2 ^ 64) :
    (UInt64.ofNat k).toNat = k := by
  rw [UInt64.toNat_ofNat', Nat.mod_eq_of_lt (by omega)]

theorem consecutive_nodup {n : Nat} (few : n ≤ 2 ^ 64) : (consecutive n).Nodup := by
  refine List.Nodup.map_on (fun a inA b inB same => ?_) List.nodup_range
  have values := congrArg UInt64.toNat same
  rwa [ofNat_toNat_of_lt (List.mem_range.mp inA) few,
    ofNat_toNat_of_lt (List.mem_range.mp inB) few] at values

theorem consecutive_ascending {n : Nat} (few : n ≤ 2 ^ 64) :
    (consecutive n).zipIdx.Pairwise fun a b => a.1.toNat ≤ b.1.toNat := by
  rw [← List.pairwise_map (f := Prod.fst) (R := fun a b : UInt64 => a.toNat ≤ b.toNat),
    List.zipIdx_map_fst]
  refine List.pairwise_map.mpr (List.pairwise_lt_range.imp_of_mem ?_)
  intro a b inA inB below
  rw [ofNat_toNat_of_lt (List.mem_range.mp inA) few,
    ofNat_toNat_of_lt (List.mem_range.mp inB) few]
  exact Nat.le_of_lt below

@[simp] theorem consecutive_length (n : Nat) : (consecutive n).length = n := by
  simp [consecutive]

theorem mem_consecutive {n k : Nat} (before : k < n) : UInt64.ofNat k ∈ consecutive n :=
  List.mem_map.mpr ⟨k, List.mem_range.mpr before, rfl⟩

theorem integrity_consecutive_lost {n : Nat} (few : n < 2 ^ 64) :
    (integrity (consecutive n)).lost = 0 := by
  by_cases empty : n = 0
  · subst empty
    rfl
  have first := mem_consecutive (Nat.pos_of_ne_zero empty)
  obtain ⟨lo, -, hi, in_hi, between, lost⟩ := integrity_lost (List.ne_nil_of_mem first)
    (by rwa [consecutive_length])
  have low := (between _ first).1
  rw [ofNat_toNat_of_lt (Nat.pos_of_ne_zero empty) few.le] at low
  obtain ⟨k, in_range, rfl⟩ := List.mem_map.mp in_hi
  have before := List.mem_range.mp in_range
  rw [(consecutive_nodup few.le).dedup, consecutive_length,
    ofNat_toNat_of_lt before few.le, Nat.mod_eq_of_lt (by omega)] at lost
  exact eq_zero_of_toNat (lost.trans (by omega))

/-- Every message of a sequence received once and in order. -/
theorem integrity_consecutive {n : Nat} (few : n < 2 ^ 64) :
    integrity (consecutive n) =
      { received := UInt64.ofNat n, distinct := UInt64.ofNat n, lost := 0, duplicate := 0,
        reordered := 0 } := by
  have lost := integrity_consecutive_lost few
  have distinct := (consecutive_nodup few.le).dedup
  have size := consecutive_length n
  have ascending := consecutive_ascending few.le
  cases n with
  | zero => rfl
  | succ n =>
    have front : consecutive (n + 1) = UInt64.ofNat 0 :: (consecutive (n + 1)).tail := by
      rw [consecutive, List.range_succ_eq_map]
      rfl
    generalize consecutive (n + 1) = seqs at *
    have ordered : (SeqScan.over (UInt64.ofNat 0) seqs).reordered = 0 :=
      SeqScan.foldl_ascending _ _ (fun _ _ => Nat.zero_le _) ascending
    rw [front] at lost distinct size ordered ⊢
    simp only [integrity] at lost ⊢
    rw [lost, ordered, distinct, size, UInt64.sub_self]

end Seshat.Metrics
