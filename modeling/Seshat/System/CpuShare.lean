import Seshat.Lib.Rounding
import Seshat.System.Ticks

/-! The CPU that the processes use from tick to tick, and its mean against its peak. -/

namespace Seshat.System
open Lib.Binary64 Lib.Extremes Lib.Rounding Lib.Series Lib.SortedMap

/-! What is used. -/

/-- What a process used from its first to its last sample. -/
def used (series : List SystemSample) : Nat :=
  match series.head?, series.getLast? with
  | some first, some last => grown first.cpuTicks last.cpuTicks
  | _, _ => 0

/-- What a process used from one tick to the next. -/
def usedBetween (pair : Round × Round) (pid : Int32) : Nat :=
  match pair.1.samplePid pid, pair.2.samplePid pid with
  | some before, some after => grown before.cpuTicks after.cpuTicks
  | _, _ => 0

def totalUsed (pids : List Int32) (all : List Round) : Nat :=
  (pids.map fun pid => used (seriesOf pid all)).sum

def busy (pids : List Int32) (pair : Round × Round) : Nat := (pids.map (usedBetween pair)).sum

def gap (pair : Round × Round) : Nat := pair.2.elapsedMs - pair.1.elapsedMs

/-- The milliseconds from the first to the last tick. -/
def spanMs (all : List Round) : Nat :=
  match all.head?, all.getLast? with
  | some first, some last => last.elapsedMs - first.elapsedMs
  | _, _ => 0

theorem elapsedMs_lt (round : Round) : round.elapsedMs < UInt64.size :=
  Nat.mod_lt _ (by decide)

theorem grown_trans (first second third : UInt64) :
    grown first third ≤ grown first second + grown second third := by
  unfold grown
  omega

theorem used_cons_cons (first second : SystemSample) (rest : List SystemSample) :
    used (first :: second :: rest) ≤
      grown first.cpuTicks second.cpuTicks + used (second :: rest) := by
  rw [used, used, List.getLast?_cons_cons]
  cases (second :: rest).getLast? with
  | none => exact Nat.zero_le _
  | some last => exact grown_trans _ _ _

/-- A process uses nothing but what it uses between ticks. -/
theorem used_le (pid : Int32) {all : List Round} (exits : all.Pairwise fun before after =>
      before.proc pid = none → after.proc pid = none) :
    used (seriesOf pid all) ≤ ((neighbours all).map fun pair => usedBetween pair pid).sum := by
  induction all with
  | nil => exact Nat.zero_le _
  | cons a rest ih =>
    obtain ⟨stays, exits'⟩ := List.pairwise_cons.mp exits
    cases here : a.samplePid pid with
    | none =>
      rw [seriesOf_none here, seriesOf_exited here stays]
      exact Nat.zero_le _
    | some sa =>
      rw [seriesOf_some here]
      cases rest with
      | nil => simp [used, grown]
      | cons b rest =>
        cases there : b.samplePid pid with
        | none =>
          rw [seriesOf_none there, seriesOf_exited there (List.pairwise_cons.mp exits').1]
          simp [used, grown]
        | some sb =>
          have next := ih exits'
          rw [seriesOf_some there] at next ⊢
          rw [neighbours, List.map_cons, List.sum_cons, usedBetween, here, there]
          exact (used_cons_cons sa sb _).trans (Nat.add_le_add_left next _)

theorem totalUsed_le {pids : List Int32} {all : List Round} (exits : Exits pids all) :
    totalUsed pids all ≤ ((neighbours all).map (busy pids)).sum := by
  calc
    totalUsed pids all ≤
        (pids.map fun pid => ((neighbours all).map fun pair => usedBetween pair pid).sum).sum :=
      List.sum_le_sum fun pid member => used_le pid (exits.imp fun stays => stays pid member)
    _ = ((neighbours all).map (busy pids)).sum := sum_comm _ _ _

theorem spanMs_cons (first : Round) (rest : List Round) : spanMs (first :: rest) =
    ((first :: rest).getLast (List.cons_ne_nil first rest)).elapsedMs - first.elapsedMs := by
  rw [spanMs, List.getLast?_eq_some_getLast (List.cons_ne_nil first rest), List.head?_cons]

theorem spanMs_eq_sum {all : List Round} (apart : Apart all) :
    spanMs all = ((neighbours all).map gap).sum := by
  induction all with
  | nil => rfl
  | cons a rest ih =>
    obtain ⟨above, apart'⟩ := List.pairwise_cons.mp apart
    cases rest with
    | nil => simp [spanMs, neighbours]
    | cons b rest =>
      have first := above b List.mem_cons_self
      have last := (List.pairwise_cons.mp apart').1
      have final : b.elapsedMs ≤
          ((b :: rest).getLast (List.cons_ne_nil b rest)).elapsedMs := by
        rcases List.mem_cons.mp (List.getLast_mem (List.cons_ne_nil b rest)) with same | later
        · rw [same]
        · exact (last _ later).le
      rw [neighbours, List.map_cons, List.sum_cons, ← ih apart', spanMs_cons, spanMs_cons,
        List.getLast_cons (List.cons_ne_nil b rest)]
      change _ = b.elapsedMs - a.elapsedMs + _
      omega

/-- Between some two ticks the processes use at least their part of the total. -/
theorem exists_busy {pids : List Int32} {all : List Round} (exits : Exits pids all)
    (apart : Apart all) (ticked : neighbours all ≠ []) :
    ∃ pair ∈ neighbours all, totalUsed pids all * gap pair ≤ busy pids pair * spanMs all := by
  obtain ⟨pair, member, share⟩ := exists_share ticked (busy pids) gap
  refine ⟨pair, member, ?_⟩
  rw [spanMs_eq_sum apart]
  exact (Nat.mul_le_mul_right _ (totalUsed_le exits)).trans share

theorem gap_pos {all : List Round} (apart : Apart all) {pair : Round × Round}
    (member : pair ∈ neighbours all) : 0 < gap pair :=
  Nat.sub_pos_of_lt (neighbours_of_pairwise apart member)

theorem gap_lt (pair : Round × Round) : gap pair < UInt64.size :=
  (Nat.sub_le _ _).trans_lt (elapsedMs_lt pair.2)

theorem gap_le_spanMs {all : List Round} (apart : Apart all) {pair : Round × Round}
    (member : pair ∈ neighbours all) : gap pair ≤ spanMs all := by
  rw [spanMs_eq_sum apart]
  exact List.le_sum_of_mem (List.mem_map_of_mem member)

theorem spanMs_lt (all : List Round) : spanMs all < UInt64.size := by
  cases all with
  | nil => decide
  | cons first rest =>
    rw [spanMs_cons]
    exact (Nat.sub_le _ _).trans_lt (elapsedMs_lt _)

theorem totalUsed_of_short {pids : List Int32} {all : List Round} (apart : Apart all)
    (exits : Exits pids all) (short : spanMs all = 0) : totalUsed pids all = 0 := by
  have none : neighbours all = [] := by
    refine List.eq_nil_iff_forall_not_mem.mpr fun pair member => ?_
    rw [spanMs_eq_sum apart] at short
    have zero := List.sum_eq_zero_iff.mp short _ (List.mem_map_of_mem member)
    exact (gap_pos apart member).ne' zero
  have total := totalUsed_le exits
  rwa [none, List.map_nil, List.sum_nil, Nat.le_zero] at total

/-! Percentages. -/

/-- A percentage that is not rounded. -/
def exactPercent (tck : ℚ) (ticks ms : Nat) : ℚ := ticks / tck / (ms / 1000) * 100

theorem exactPercent_eq (tck : ℚ) (ticks ms : Nat) :
    exactPercent tck ticks ms = 100000 / tck * (ticks / ms) := by
  rw [exactPercent, div_div_eq_mul_div]
  ring

/-- Percentages are compared as fractions are. -/
theorem exactPercent_le {tck c : ℚ} (positive : 0 < tck) {ticks ms ticks' ms' : Nat}
    (some : 0 < ms) (some' : 0 < ms') (less : (ticks * ms' : ℚ) ≤ ticks' * ms * c) :
    exactPercent tck ticks ms ≤ exactPercent tck ticks' ms' * c := by
  have ratio : (ticks / ms : ℚ) ≤ ticks' / ms' * c := by
    rw [div_mul_eq_mul_div, div_le_div_iff₀ (Nat.cast_pos.mpr some) (Nat.cast_pos.mpr some')]
    linarith
  rw [exactPercent_eq, exactPercent_eq, mul_assoc]
  exact mul_le_mul_of_nonneg_left ratio (by positivity)

theorem clkTck_bounds (sysconf : Int64) :
    0 < clkTck sysconf ∧ clkTck sysconf ≤ 2 ^ (63 : ℤ) := by
  rw [clkTck]
  split
  case isTrue positive =>
    rw [Int64.lt_iff_toInt_lt, Int64.toInt_zero] at positive
    have one : (2 : ℚ) ^ (0 : ℤ) ≤ sysconf.toInt := by
      rw [zpow_zero]
      exact_mod_cast positive
    have word : (sysconf.toInt : ℚ) < 2 ^ (63 : ℤ) := by exact_mod_cast Int64.toInt_lt sysconf
    have low : (2 : ℚ) ^ (0 : ℤ) ≤ onGrid sysconf.toInt := le_onGrid (by decide) one
    exact ⟨(two_zpow_pos 0).trans_le low,
      onGrid_le (by decide) ((two_zpow_pos 0).le.trans one) word⟩
  case isFalse => norm_num

/-- The seconds of at least a millisecond. -/
theorem seconds_bounds {ms : Nat} (some : 0 < ms) (short : ms < UInt64.size) :
    Near 2 (ms / 1000) (seconds ms) ∧ 0 < seconds ms ∧ seconds ms ≤ 2 ^ (64 : ℤ) := by
  have above : Above (-10) (onGrid ms / 1000) :=
    ((Above.natCast ms).round (by decide)).div (j := 10) (by norm_num) (by norm_num)
  have near : Near 2 (ms / 1000) (seconds ms) :=
    ((Near.natCast ms).div_right (by norm_num)).round (above.mono (by decide))
  have word : onGrid ms ≤ 2 ^ (64 : ℤ) :=
    onGrid_le (by decide) (Nat.cast_nonneg ms) (by exact_mod_cast short)
  refine ⟨near, ?_, ?_⟩
  · have low := near.low
    have positive : (0 : ℚ) < ms / 1000 * kept ^ 2 :=
      mul_pos (div_pos (Nat.cast_pos.mpr some) (by norm_num)) (pow_pos kept_pos 2)
    exact positive.trans_le low
  · refine onGrid_le (by decide) (div_nonneg (onGrid_nonneg _) (by norm_num)) ?_
    have := div_le_div_of_nonneg_right word (by norm_num : (0 : ℚ) ≤ 1000)
    exact this.trans_lt (by norm_num)

section Percent

variable {tck : ℚ} (positive : 0 < tck) (bounded : tck ≤ 2 ^ (63 : ℤ))
include positive bounded

theorem percent_above (ticks : Nat) {time : ℚ} (later : 0 < time)
    (short : time ≤ 2 ^ (64 : ℤ)) : Above (-127) (percent ticks tck time) := by
  have used := (((Above.natCast ticks).round (by decide)).div positive bounded).round (by decide)
  exact (((used.div later short).round (by decide)).mul (by norm_num)).round (by decide)

theorem percent_near (ticks : Nat) {ms : Nat} (some : 0 < ms) (short : ms < UInt64.size) :
    Near 6 (exactPercent tck ticks ms) (percent ticks tck (seconds ms)) := by
  obtain ⟨time, later, bound⟩ := seconds_bounds some short
  have counted : Above (-63) (onGrid ticks / tck) :=
    ((Above.natCast ticks).round (by decide)).div positive bounded
  have used : Near 2 (ticks / tck) (cpuSeconds ticks tck) :=
    ((Near.natCast ticks).div_right positive.le).round (counted.mono (by decide))
  have share : Above (-127) (cpuSeconds ticks tck / seconds ms) :=
    (counted.round (by decide)).div later bound
  have ratio := (used.div time (onGrid_nonneg _) later).round (share.mono (by decide))
  exact (ratio.mul_right (by norm_num)).round
    (((share.round (by decide)).mul (by norm_num)).mono (by decide))

end Percent

theorem percent_zero (tck time : ℚ) : percent 0 tck time = 0 := by
  simp [percent, cpuSeconds, onGrid_zero]

theorem seconds_mono {ms ms' : Nat} (le : ms ≤ ms') : seconds ms ≤ seconds ms' :=
  onGrid_mono (div_nonneg (onGrid_nonneg _) (by norm_num)) (div_le_div_of_nonneg_right
    (onGrid_mono (Nat.cast_nonneg ms) (Nat.cast_le.mpr le)) (by norm_num))

/-- More ticks in less time are no smaller percentage. -/
theorem percent_mono {tck : ℚ} (positive : 0 < tck) {ticks ticks' : Nat} (more : ticks ≤ ticks')
    {time time' : ℚ} (later : 0 < time') (shorter : time' ≤ time) :
    percent ticks tck time ≤ percent ticks' tck time' := by
  have counted : cpuSeconds ticks tck ≤ cpuSeconds ticks' tck :=
    onGrid_mono (div_nonneg (onGrid_nonneg _) positive.le) (div_le_div_of_nonneg_right
      (onGrid_mono (Nat.cast_nonneg ticks) (Nat.cast_le.mpr more)) positive.le)
  have nonneg : 0 ≤ cpuSeconds ticks tck := onGrid_nonneg _
  have share : onGrid (cpuSeconds ticks tck / time) ≤ onGrid (cpuSeconds ticks' tck / time') :=
    onGrid_mono (div_nonneg nonneg (later.le.trans shorter))
      (div_le_div₀ (nonneg.trans counted) counted later shorter)
  exact onGrid_mono (mul_nonneg (onGrid_nonneg _) (by norm_num))
    (mul_le_mul_of_nonneg_right share (by norm_num))

/-! From one tick to the next. -/

/-- The samples of a tick, each with the one of the tick before. -/
def stepsBetween (pids : List Int32) (before after : Round) :
    List (Option SystemSample × SystemSample) :=
  pids.filterMap fun pid => (after.samplePid pid).map fun s => (before.samplePid pid, s)

theorem steps_between {pids : List Int32} (distinct : pids.Nodup) {front back : List Round}
    {before after : Round} (apart : Apart (front ++ before :: after :: back))
    (exits : Exits pids (front ++ before :: after :: back)) :
    ((stepsOf (samplesOf pids (front ++ before :: after :: back))).filter fun step =>
      step.2.elapsedMs = after.elapsedMs).Perm (stepsBetween pids before after) := by
  rw [List.append_cons] at apart ⊢
  refine (steps_perm distinct apart).trans (.of_eq (List.filterMap_congr fun pid member => ?_))
  have stays := adjacent_of_pairwise exits pid member
  cases there : after.samplePid pid with
  | none => rfl
  | some s =>
    cases here : before.samplePid pid with
    | none =>
      rw [samplePid_none.mpr (stays (samplePid_none.mp here))] at there
      cases there
    | some first =>
      rw [seriesOf_append, seriesOf_some here, List.getLast?_append]
      rfl

theorem mem_stepsBetween {pids : List Int32} {before after : Round}
    (stays : ∀ pid ∈ pids, before.proc pid = none → after.proc pid = none)
    {step : Option SystemSample × SystemSample} :
    step ∈ stepsBetween pids before after ↔ ∃ pid ∈ pids, ∃ prev s,
      before.samplePid pid = some prev ∧ after.samplePid pid = some s ∧ step = (some prev, s) := by
  rw [stepsBetween, List.mem_filterMap]
  constructor
  · rintro ⟨pid, member, sampled⟩
    obtain ⟨s, there, rfl⟩ := Option.map_eq_some_iff.mp sampled
    cases here : before.samplePid pid with
    | none =>
      rw [samplePid_none.mpr (stays pid member (samplePid_none.mp here))] at there
      cases there
    | some prev => exact ⟨pid, member, prev, s, here, there, rfl⟩
  · rintro ⟨pid, member, prev, s, here, there, rfl⟩
    exact ⟨pid, member, by rw [there, here]; rfl⟩

/-- What a process used in a step. -/
def stepTicks (step : Option SystemSample × SystemSample) : Nat :=
  step.1.elim 0 fun prev => grown prev.cpuTicks step.2.cpuTicks

theorem stepsBetween_cons (pid : Int32) (rest : List Int32) (before after : Round) :
    stepsBetween (pid :: rest) before after =
      ((after.samplePid pid).map fun s => (before.samplePid pid, s)).toList ++
        stepsBetween rest before after := by
  rw [stepsBetween, List.filterMap_cons]
  cases after.samplePid pid <;> rfl

theorem busy_eq_sum (pids : List Int32) (before after : Round) :
    busy pids (before, after) = ((stepsBetween pids before after).map stepTicks).sum := by
  induction pids with
  | nil => rfl
  | cons pid rest ih =>
    rw [busy, List.map_cons, List.sum_cons, ← busy, ih, stepsBetween_cons, List.map_append,
      List.sum_append, usedBetween]
    congr 1
    cases after.samplePid pid with
    | none => cases before.samplePid pid <;> rfl
    | some s => cases before.samplePid pid <;> exact (Nat.add_zero _).symm

theorem cpuStep_between (tck : ℚ) {before after : Round}
    (later : before.elapsedMs < after.elapsedMs) {pid : Int32} {prev s : SystemSample} (here : before.samplePid pid = some prev)
    (there : after.samplePid pid = some s) :
    cpuStep tck (some prev, s) =
      percent (stepTicks (some prev, s)) tck (seconds (gap (before, after))) := by
  have some : 0 < gap (before, after) := Nat.sub_pos_of_lt later
  have short : gap (before, after) < UInt64.size := gap_lt _
  have positive := (seconds_bounds some short).2.1
  rw [cpuStep, Option.elim_some, cpuPercent, (samplePid_pid here).2, (samplePid_pid there).2]
  exact if_neg (not_le.mpr positive)

theorem exactPercent_sum (tck : ℚ) (ms : Nat) (ticks : List Nat) :
    (ticks.map fun n => exactPercent tck n ms).sum = exactPercent tck ticks.sum ms := by
  induction ticks with
  | nil => simp [exactPercent]
  | cons n rest ih =>
    rw [List.map_cons, List.sum_cons, ih, List.sum_cons, exactPercent, exactPercent, exactPercent]
    push_cast
    ring

section Between

variable {tck : ℚ} (positive : 0 < tck) (bounded : tck ≤ 2 ^ (63 : ℤ)) {pids : List Int32}
  {before after : Round} (later : before.elapsedMs < after.elapsedMs)
  (stays : ∀ pid ∈ pids, before.proc pid = none → after.proc pid = none)
  {steps : List (Option SystemSample × SystemSample)}
  (same : steps.Perm (stepsBetween pids before after))
include positive bounded later stays same

theorem steps_near : ∀ step ∈ steps,
    Near 6 (exactPercent tck (stepTicks step) (gap (before, after))) (cpuStep tck step) ∧
      Above (-127) (cpuStep tck step) ∧ onGrid (cpuStep tck step) = cpuStep tck step := by
  intro step member
  obtain ⟨pid, -, prev, s, here, there, rfl⟩ :=
    (mem_stepsBetween stays).mp ((same.mem_iff).mp member)
  have some : 0 < gap (before, after) := Nat.sub_pos_of_lt later
  have short : gap (before, after) < UInt64.size := gap_lt _
  obtain ⟨-, time, bound⟩ := seconds_bounds some short
  rw [cpuStep_between tck later here there]
  exact ⟨percent_near positive bounded _ some short,
    percent_above positive bounded _ time bound,
    onGrid_idem (mul_nonneg (onGrid_nonneg _) (by norm_num))⟩

/-- The sum over the processes is near the exact one. -/
theorem steps_sum_near :
    Near (pids.length + 6) (exactPercent tck (busy pids (before, after)) (gap (before, after)))
      (roundedSum (cpuStep tck) steps) := by
  have each := steps_near positive bounded later stays same
  have sum := Near.sum (k := -127) (by decide) (fun step member => (each step member).2.1)
    fun step member => (each step member).1
  have exact_sum : (steps.map fun step =>
      exactPercent tck (stepTicks step) (gap (before, after))).sum =
      exactPercent tck (busy pids (before, after)) (gap (before, after)) := by
    rw [busy_eq_sum, ← exactPercent_sum, List.map_map, (same.map _).sum_eq]
    rfl
  have count : 6 + steps.length ≤ pids.length + 6 := by
    have := same.length_eq.trans_le (List.length_filterMap_le _ pids)
    omega
  rw [exact_sum] at sum
  exact sum.mono count (roundedSum_nonneg _)

theorem process_le_sum {pid : Int32} (member : pid ∈ pids) :
    percent (usedBetween (before, after) pid) tck (seconds (gap (before, after))) ≤
      roundedSum (cpuStep tck) steps := by
  have none : percent 0 tck (seconds (gap (before, after))) ≤ roundedSum (cpuStep tck) steps := by
    rw [percent_zero]
    exact roundedSum_nonneg steps
  have each := steps_near positive bounded later stays same
  rw [usedBetween]
  cases here : before.samplePid pid with
  | none => exact none
  | some prev =>
    cases there : after.samplePid pid with
    | none => exact none
    | some s =>
      have inside : (some prev, s) ∈ steps := same.mem_iff.mpr
        ((mem_stepsBetween stays).mpr ⟨pid, member, prev, s, here, there, rfl⟩)
      have below := le_roundedSum (fun step member => (each step member).2.1.nonneg)
        (fun step member => (each step member).2.2) _ inside
      rwa [cpuStep_between tck later here there] at below

end Between

end Seshat.System
