import Seshat.Lib.Checked
import Seshat.Lib.Levelling
import Mathlib.Data.List.Range
import Mathlib.Tactic.Common

/-! The split of the logical cores into one pool for each group. -/

namespace Seshat.Run
open Lib Lib.Saturating Lib.Extremes Lib.Levelling

/-- The last of the largest counts, of those above 1. -/
def largest (counts : List Nat) : Option Nat :=
  (lastMax Prod.fst (counts.zipIdx.filter fun entry => 1 < entry.1)).map Prod.snd

def heaviest (weights : List Nat) : Nat :=
  ((lastMax Prod.fst weights.zipIdx).map Prod.snd).getD 0

def updateAt (op : Nat → Option Nat) (counts : List Nat) (idx : Nat) : Option (List Nat) := do
  let count ← counts[idx]?
  let count ← op count
  return counts.set idx count

/-- The loop `while assigned > usable`; it stops early if no count is above 1. -/
def takeBack (usable : Nat) : (assigned : Nat) → List Nat → Option (Nat × List Nat)
  | 0, counts => some (0, counts)
  | assigned + 1, counts =>
      if usable < assigned + 1 then
        match largest counts with
        | none => some (assigned + 1, counts)
        | some idx => do
            let counts ← updateAt (Checked.sub · 1) counts idx
            takeBack usable assigned counts
      else some (assigned + 1, counts)

/-- The loop `while assigned < usable`, by the cores that are missing. -/
def handOut (weights : List Nat) : (missing : Nat) → List Nat → Option (List Nat)
  | 0, counts => some counts
  | missing + 1, counts => do
      let counts ← updateAt (Checked.add · 1) counts (heaviest weights)
      handOut weights missing counts

def weightSum (weights : List Nat) : Nat := (weights.map (max · 1)).sum

/-- The first count of a group, before rounding is repaired. -/
def share (usable weightSum w : Nat) : Nat := max (usable * max w 1 / weightSum) 1

def checkedShare (usable weightSum w : Nat) : Option Nat := do
  let scaled ← Checked.mul usable (max w 1)
  let part ← Checked.div scaled weightSum
  return max part 1

/-- How many cores every group gets. -/
def coreCounts (usable : Nat) (weights : List Nat) : Option (List Nat) := do
  let weightSum ← Checked.sum (weights.map (max · 1))
  let counts ← weights.mapM (checkedShare usable weightSum)
  let assigned ← Checked.sum counts
  let (assigned, counts) ← takeBack usable assigned counts
  handOut weights (usable - assigned) counts

/-- The sets, filled one core after the other from `next` on. -/
def layOut : (next : Nat) → List Nat → Option (List (List Nat))
  | _, [] => some []
  | next, count :: rest => do
      let after ← Checked.add next count
      let sets ← layOut after rest
      return List.range' next count :: sets

/-- Core 0 is left to the system where there are at least four. -/
def reserve (totalCores : UInt64) : Nat := if 4 ≤ totalCores.toNat then 1 else 0

def usableCores (totalCores : UInt64) : Nat := totalCores.toNat - reserve totalCores

/-- `none` is a panic. -/
def partitionCores (totalCores : UInt64) (weights : List UInt64) : Option (List (List Nat)) :=
  let groups := weights.length
  if groups = 0 then some []
  else if usableCores totalCores < groups then some (List.replicate groups [])
  else do
    let counts ← coreCounts (usableCores totalCores) (weights.map UInt64.toNat)
    layOut (reserve totalCores) counts

/-! The loops. -/

theorem updateAt_split (op : Nat → Option Nat) {before after : List Nat} {count next : Nat}
    (done : op count = some next) :
    updateAt op (before ++ count :: after) before.length = some (before ++ next :: after) := by
  rw [updateAt, List.getElem?_append_right le_rfl, Nat.sub_self, List.getElem?_cons_zero]
  simp [done]

theorem largest_split {before after : List Nat} {most : Nat} (two : 2 ≤ most)
    (below : ∀ c ∈ before, c ≤ most) (under : ∀ c ∈ after, c < most) :
    largest (before ++ most :: after) = some before.length := by
  rw [largest, Option.map_eq_some_iff]
  refine ⟨(most, before.length),
    lastMax_eq_some.mpr ⟨before.zipIdx.filter fun entry => 1 < entry.1,
      (after.zipIdx (before.length + 1)).filter fun entry => 1 < entry.1, ?_, ?_, ?_⟩, rfl⟩
  · have kept : decide (1 < most) = true := decide_eq_true two
    rw [List.zipIdx_append, List.filter_append, List.zipIdx_cons, List.filter_cons, if_pos kept,
      Nat.zero_add]
  · exact fun entry member => below _ (List.fst_mem_of_mem_zipIdx (List.mem_of_mem_filter member))
  · exact fun entry member => under _ (List.fst_mem_of_mem_zipIdx (List.mem_of_mem_filter member))

theorem heaviest_split {weights : List Nat} (some_group : weights ≠ []) :
    ∃ before most after, weights = before ++ most :: after ∧ (∀ w ∈ weights, w ≤ most) ∧
      heaviest weights = before.length := by
  cases chosen : lastMax id weights with
  | none => exact absurd (lastMax_eq_none.mp chosen) some_group
  | some most =>
    have largest := le_lastMax chosen
    obtain ⟨before, after, rfl, below, under⟩ := lastMax_eq_some.mp chosen
    have place : lastMax Prod.fst (before ++ most :: after).zipIdx = some (most, before.length) := by
      refine lastMax_eq_some.mpr ⟨before.zipIdx, after.zipIdx (before.length + 1), ?_, ?_, ?_⟩
      · rw [List.zipIdx_append, List.zipIdx_cons, Nat.zero_add]
      · exact fun entry member => below _ (List.fst_mem_of_mem_zipIdx member)
      · exact fun entry member => under _ (List.fst_mem_of_mem_zipIdx member)
    refine ⟨before, most, after, rfl, largest, ?_⟩
    rw [heaviest, place]
    rfl

theorem handOut_split {weights before after : List Nat} (place : heaviest weights = before.length)
    (missing count : Nat) (fits : count + missing ≤ top) :
    handOut weights missing (before ++ count :: after) =
      some (before ++ (count + missing) :: after) := by
  induction missing generalizing count with
  | zero => rfl
  | succ missing ih =>
    have next : Checked.add count 1 = some (count + 1) :=
      Checked.fit_eq_some.mpr ⟨by omega, rfl⟩
    rw [handOut, place, updateAt_split (Checked.add · 1) next]
    refine (ih (count + 1) (by omega)).trans ?_
    rw [Nat.add_assoc, Nat.add_comm 1 missing]

section TakeBack

variable {amount : Nat → Nat} {usable : Nat}

theorem largest_cut {level top : Nat} (high : 2 ≤ level) (reaches : level ≤ amount top)
    (first rest : List Nat) :
    largest (cut amount level (first ++ [top]) rest) = some (capped amount level first).length := by
  rw [cut_keeps reaches]
  refine largest_split high (fun c member => le_of_mem_capped member) fun c member => ?_
  have lower := le_of_mem_capped member
  omega

/-- The core is taken from the last group that reaches the level. -/
theorem updateAt_cut {level top : Nat} (high : 2 ≤ level) (reaches : level ≤ amount top)
    (first rest : List Nat) :
    updateAt (Checked.sub · 1) (cut amount level (first ++ [top]) rest)
      (capped amount level first).length = some (cut amount level first (top :: rest)) := by
  rw [cut_keeps reaches, cut_lowers reaches]
  exact updateAt_split (Checked.sub · 1) (Checked.sub_eq_some.mpr ⟨by omega, rfl⟩)

theorem cut_sum_lower {level top : Nat} (high : 2 ≤ level) (reaches : level ≤ amount top)
    (first rest : List Nat) :
    (cut amount level first (top :: rest)).sum + 1 =
      (cut amount level (first ++ [top]) rest).sum := by
  rw [cut_keeps reaches, cut_lowers reaches, List.sum_append, List.sum_cons, List.sum_append,
    List.sum_cons]
  omega

/-- Taking cores back cuts the shares to a level. -/
theorem takeBack_cut (assigned level : Nat) (front back : List Nat)
    (enough : (front ++ back).length ≤ usable) (beyond : usable ≤ assigned)
    (sum : (cut amount level front back).sum = assigned) :
    ∃ level' front' back', front' ++ back' = front ++ back ∧
      (cut amount level' front' back').sum = usable ∧
      takeBack usable assigned (cut amount level front back) =
        some (usable, cut amount level' front' back') := by
  induction assigned generalizing level front back with
  | zero =>
    have none : usable = 0 := by omega
    exact ⟨level, front, back, rfl, by omega, by rw [none]; rfl⟩
  | succ assigned ih =>
    by_cases more : usable < assigned + 1
    · obtain ⟨high, first, top, rest, parts, two, reaches, same⟩ :=
        @cut_top _ amount level front back (by omega)
      have one := cut_sum_lower two reaches first rest
      rw [same] at sum ⊢
      rw [← parts] at enough ⊢
      obtain ⟨level', front', back', whole, left, run⟩ :=
        ih high first (top :: rest) enough (by omega) (by omega)
      refine ⟨level', front', back', whole, left, ?_⟩
      rw [takeBack, if_pos more, largest_cut two reaches]
      simp only [updateAt_cut two reaches, Option.bind_eq_bind, Option.bind_some, run]
    · have whole : assigned + 1 = usable := by omega
      refine ⟨level, front, back, rfl, by omega, ?_⟩
      rw [takeBack, if_neg more, whole]

theorem takeBack_enough {assigned : Nat} (enough : assigned ≤ usable) (counts : List Nat) :
    takeBack usable assigned counts = some (assigned, counts) := by
  cases assigned with
  | zero => rfl
  | succ assigned => exact if_neg (by omega)

end TakeBack

/-! The shares. -/

section Shares

variable {usable : Nat} {weights : List Nat}

theorem one_le_share (usable weightSum w : Nat) : 1 ≤ share usable weightSum w := Nat.le_max_right _ 1

theorem share_mono (usable weightSum : Nat) {light heavy : Nat} (lighter : light ≤ heavy) :
    share usable weightSum light ≤ share usable weightSum heavy := by
  have scaled : usable * max light 1 ≤ usable * max heavy 1 := Nat.mul_le_mul_left _ (by omega)
  have parts := @Nat.div_le_div_right _ _ weightSum scaled
  unfold share
  omega

theorem checkedShare_eq_some {weightSum w count : Nat} :
    checkedShare usable weightSum w = some count ↔
      (usable * max w 1 ≤ top ∧ weightSum ≠ 0) ∧ share usable weightSum w = count := by
  simp only [checkedShare, Checked.mul, Option.bind_eq_bind, Option.bind_eq_some_iff,
    Checked.fit_eq_some, Checked.div_eq_some, Option.pure_def, Option.some.injEq, share]
  constructor
  · rintro ⟨_, ⟨fits, rfl⟩, _, ⟨some_weight, rfl⟩, same⟩
    exact ⟨⟨fits, some_weight⟩, same⟩
  · rintro ⟨⟨fits, some_weight⟩, same⟩
    exact ⟨_, ⟨fits, rfl⟩, _, ⟨some_weight, rfl⟩, same⟩

theorem checkedShares_eq_some {weightSum : Nat} {counts : List Nat} :
    weights.mapM (checkedShare usable weightSum) = some counts ↔
      (∀ w ∈ weights, usable * max w 1 ≤ top ∧ weightSum ≠ 0) ∧
        weights.map (share usable weightSum) = counts := by
  rw [Checked.mapM_eq_some fun w _ count found => (checkedShare_eq_some.mp found).2.symm]
  refine and_congr_left' (forall₂_congr fun w _ => ?_)
  rw [Option.isSome_iff_exists]
  exact ⟨fun ⟨count, found⟩ => (checkedShare_eq_some.mp found).1,
    fun fits => ⟨_, checkedShare_eq_some.mpr ⟨fits, rfl⟩⟩⟩

/-- The parts of a whole that are cut off, together. -/
theorem parts_le (usable total : Nat) (weights : List Nat) :
    (weights.map fun w => usable * w / total).sum ≤ usable * weights.sum / total := by
  induction weights with
  | nil => simp
  | cons w rest ih =>
    rw [List.map_cons, List.sum_cons, List.sum_cons, Nat.mul_add]
    exact (Nat.add_le_add_left ih _).trans Nat.div_add_div_le_add_div

theorem length_le_weightSum (weights : List Nat) : weights.length ≤ weightSum weights := by
  have total := List.card_nsmul_le_sum (weights.map (max · 1)) 1 fun n member => by
    obtain ⟨w, -, rfl⟩ := List.mem_map.mp member
    exact Nat.le_max_right w 1
  rwa [List.length_map, Nat.nsmul_eq_mul, Nat.mul_one] at total

/-- The smallest share of one core adds a core for each group at most. -/
theorem shares_le (some_group : weights ≠ []) :
    (weights.map (share usable (weightSum weights))).sum ≤ usable + weights.length := by
  have positive := (List.length_pos_of_ne_nil some_group).trans_le (length_le_weightSum weights)
  have parts := parts_le usable (weightSum weights) (weights.map (max · 1))
  rw [List.map_map, show (weights.map (max · 1)).sum = weightSum weights from rfl,
    Nat.mul_div_cancel _ positive] at parts
  have each : (weights.map (share usable (weightSum weights))).sum ≤
      (weights.map fun w => usable * max w 1 / weightSum weights + 1).sum :=
    List.sum_le_sum fun w _ => max_le (Nat.le_add_right _ 1) (Nat.le_add_left 1 _)
  rw [List.sum_map_add, List.map_const', List.sum_replicate, Nat.nsmul_eq_mul, Nat.mul_one] at each
  exact each.trans (Nat.add_le_add_right parts _)

end Shares

/-! The counts, as long as nothing overflows. -/

/-- The final counts are the shares cut to a level, or with what is missing given to a heaviest
group. -/
inductive Repaired (usable : Nat) (weights : List Nat) : List Nat → Prop
  | cut (level : Nat) (front back : List Nat) (whole : front ++ back = weights)
      (left : (Levelling.cut (share usable (weightSum weights)) level front back).sum = usable) :
      Repaired usable weights (Levelling.cut (share usable (weightSum weights)) level front back)
  | topped (before : List Nat) (most : Nat) (after : List Nat)
      (whole : weights = before ++ most :: after) (heaviest : ∀ w ∈ weights, w ≤ most)
      (less : (weights.map (share usable (weightSum weights))).sum < usable) :
      Repaired usable weights
        (before.map (share usable (weightSum weights)) ++
          (share usable (weightSum weights) most +
            (usable - (weights.map (share usable (weightSum weights))).sum)) ::
          after.map (share usable (weightSum weights)))

/-- Nothing overflows on the way to the shares. -/
structure SharesFit (usable : Nat) (weights : List Nat) : Prop where
  total : weightSum weights ≤ top
  scaled : ∀ w ∈ weights, usable * max w 1 ≤ top
  shares : (weights.map (share usable (weightSum weights))).sum ≤ top

section Counts

variable {usable : Nat} {weights counts : List Nat}

theorem repair_returns (some_group : weights ≠ []) (enough : weights.length ≤ usable)
    (word : usable ≤ top) :
    ∃ assigned taken counts,
      takeBack usable (weights.map (share usable (weightSum weights))).sum
          (weights.map (share usable (weightSum weights))) = some (assigned, taken) ∧
        handOut weights (usable - assigned) taken = some counts ∧
          Repaired usable weights counts := by
  have high : ∀ w ∈ weights, share usable (weightSum weights) w ≤
      share usable (weightSum weights) (weightSum weights) := fun w member =>
    share_mono usable _ ((Nat.le_max_left w 1).trans
      (List.le_sum_of_mem (List.mem_map_of_mem member)))
  have uncut := cut_high high
  by_cases beyond : usable ≤ (weights.map (share usable (weightSum weights))).sum
  · obtain ⟨level, front, back, whole, left, run⟩ := takeBack_cut
      (weights.map (share usable (weightSum weights))).sum
      (share usable (weightSum weights) (weightSum weights)) weights []
      (by rwa [List.append_nil]) beyond (by rw [uncut])
    rw [uncut] at run
    rw [List.append_nil] at whole
    refine ⟨_, _, _, run, ?_, .cut level front back whole left⟩
    rw [Nat.sub_self]
    rfl
  · have less := Nat.lt_of_not_le beyond
    obtain ⟨before, most, after, whole, largest, place⟩ := heaviest_split some_group
    refine ⟨_, _, _, takeBack_enough less.le _, ?_, .topped before most after whole largest less⟩
    have split : weights.map (share usable (weightSum weights)) =
        before.map (share usable (weightSum weights)) ++ share usable (weightSum weights) most ::
          after.map (share usable (weightSum weights)) := by
      rw [congrArg (List.map _) whole, List.map_append, List.map_cons]
    have part : share usable (weightSum weights) most ≤
        (weights.map (share usable (weightSum weights))).sum := by
      rw [split, List.sum_append, List.sum_cons]
      omega
    rw [← List.length_map (share usable (weightSum weights))] at place
    refine (congrArg _ split).trans (handOut_split place _ _ ?_)
    omega

theorem coreCounts_returns (some_group : weights ≠ []) (enough : weights.length ≤ usable)
    (word : usable ≤ top) (fits : SharesFit usable weights) :
    ∃ counts, coreCounts usable weights = some counts ∧ Repaired usable weights counts := by
  obtain ⟨assigned, kept, final, run, last, repaired⟩ := repair_returns some_group enough word
  have positive := (List.length_pos_of_ne_nil some_group).trans_le (length_le_weightSum weights)
  refine ⟨final, ?_, repaired⟩
  simp only [coreCounts, Option.bind_eq_bind, Option.bind_eq_some_iff, Checked.sum_eq_some]
  exact ⟨_, ⟨fits.total, rfl⟩, _,
    checkedShares_eq_some.mpr ⟨fun w member => ⟨fits.scaled w member, positive.ne'⟩, rfl⟩,
    _, ⟨fits.shares, rfl⟩, _, run, last⟩

/-- Every group has a core, and no core is left. -/
theorem Repaired.dealt (enough : weights.length ≤ usable) (repaired : Repaired usable weights counts) :
    counts.length = weights.length ∧ counts.sum = usable ∧ ∀ c ∈ counts, 1 ≤ c := by
  have ones (w : Nat) := one_le_share usable (weightSum weights) w
  cases repaired with
  | cut level front back whole left =>
    refine ⟨by rw [cut_length, whole], left, cut_pos (fun w _ => ones w) ?_⟩
    rwa [left, whole]
  | topped before most after whole heaviest less =>
    have split := congrArg (List.map (share usable (weightSum weights))) whole
    rw [List.map_append, List.map_cons] at split
    have total := congrArg List.sum split
    rw [List.sum_append, List.sum_cons] at total
    refine ⟨?_, ?_, ?_⟩
    · have size := congrArg List.length split
      rw [List.length_map] at size
      rw [size, List.length_append, List.length_append, List.length_cons, List.length_cons]
    · rw [List.sum_append, List.sum_cons]
      omega
    · refine List.forall_mem_append.mpr ⟨?_, List.forall_mem_cons.mpr ⟨?_, ?_⟩⟩
      · exact List.forall_mem_map.mpr fun w _ => ones w
      · exact (ones most).trans (Nat.le_add_right _ _)
      · exact List.forall_mem_map.mpr fun w _ => ones w

end Counts

end Seshat.Run
