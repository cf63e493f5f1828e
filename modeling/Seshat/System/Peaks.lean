import Seshat.System.CpuShare
import Mathlib.Algebra.Order.BigOperators.Group.List

/-! The peaks of a rollup against the ticks of the sampler. -/

namespace Seshat.System
open Lib.Binary64 Lib.Extremes Lib.Folds Lib.Rounding Lib.Saturating Lib.Series
open Lib.SortedMap

/-! The peak of the resident sets. -/

def rssOf (tick : Round) (pid : Int32) : Nat :=
  (tick.samplePid pid).elim 0 fun s => s.rssKib.toNat

/-- One value of each process. -/
def rssSum (pids : List Int32) (tick : Round) : Nat := (pids.map (rssOf tick)).sum

theorem rss_value {pids : List Int32} (distinct : pids.Nodup) (tck : ℚ) {all : List Round}
    (apart : Apart all) {tick : Round} (member : tick ∈ all) :
    (valueAt 0 (rollUp tck (samplesOf pids all)).rssByTime tick.elapsedMs).toNat =
      rssSum pids tick % 2 ^ 64 := by
  obtain ⟨front, back, rfl⟩ := List.append_of_mem member
  rw [rollUp_rss, valueAt_collect]
  exact (wrapSum_toNat (fun step : Option SystemSample × SystemSample => step.2.rssKib) _).trans
    (congrArg (· % 2 ^ 64) (steps_at distinct apart fun step => step.2.rssKib.toNat))

theorem foldl_max_toNat (values : List UInt64) (start : UInt64) :
    (values.foldl max start).toNat = (values.map UInt64.toNat).foldl max start.toNat := by
  induction values generalizing start with
  | nil => rfl
  | cons v rest ih => rw [List.foldl_cons, ih, max_toNat, List.map_cons, List.foldl_cons]

theorem rssSum_vacant {pids : List Int32} {tick : Round}
    (vacant : ¬∃ pid ∈ pids, tick.proc pid ≠ none) : rssSum pids tick = 0 := by
  refine List.sum_eq_zero fun n inside => ?_
  obtain ⟨pid, member, rfl⟩ := List.mem_map.mp inside
  rw [rssOf, samplePid_none.mpr (gone_of_vacant vacant member)]
  rfl

theorem rss_peak {pids : List Int32} (distinct : pids.Nodup) (tck : ℚ) {all : List Round}
    (apart : Apart all) (fits : ∀ tick ∈ all, rssSum pids tick < 2 ^ 64) :
    (((rollUp tck (samplesOf pids all)).rssByTime.map Prod.snd).foldl max 0).toNat =
      (all.map (rssSum pids)).foldl max 0 := by
  have value {tick : Round} (member : tick ∈ all) {entry : Nat × UInt64}
      (here : entry ∈ (rollUp tck (samplesOf pids all)).rssByTime)
      (time : entry.1 = tick.elapsedMs) : entry.2.toNat = rssSum pids tick := by
    rw [← (rssByTime_sorted tck (samplesOf pids all)).valueAt_mem here, time]
    exact (rss_value distinct tck apart member).trans (Nat.mod_eq_of_lt (fits tick member))
  rw [foldl_max_toNat]
  -- The entries are the ticks with a process left; any other tick sums to zero.
  refine le_antisymm ((foldl_max_le _ _ _).mpr ⟨Nat.zero_le _, ?_⟩)
    ((foldl_max_le _ _ _).mpr ⟨Nat.zero_le _, ?_⟩)
  · intro n member
    obtain ⟨v, inside, rfl⟩ := List.mem_map.mp member
    obtain ⟨entry, here, rfl⟩ := List.mem_map.mp inside
    obtain ⟨tick, known, time, -⟩ := (mem_rssByTime tck).mp (List.mem_map_of_mem here)
    rw [value known here time.symm]
    exact le_foldl_max 0 (List.mem_map_of_mem known)
  · intro n member
    obtain ⟨tick, known, rfl⟩ := List.mem_map.mp member
    by_cases alive : ∃ pid ∈ pids, tick.proc pid ≠ none
    · obtain ⟨entry, here, time⟩ :=
        List.mem_map.mp ((mem_rssByTime tck).mpr ⟨tick, known, rfl, alive⟩)
      rw [← value known here time]
      exact le_foldl_max _ (List.mem_map_of_mem (List.mem_map_of_mem here))
    · rw [rssSum_vacant alive]
      exact Nat.zero_le _

/-- A peak is at most what the processes reach each for itself. -/
theorem rssSum_le_maxima (pids : List Int32) (all : List Round) :
    (all.map (rssSum pids)).foldl max 0 ≤
      (pids.map fun pid => (all.map fun tick => rssOf tick pid).foldl max 0).sum := by
  refine (foldl_max_le _ _ _).mpr ⟨Nat.zero_le _, fun n member => ?_⟩
  obtain ⟨tick, here, rfl⟩ := List.mem_map.mp member
  exact List.sum_le_sum fun pid _ => le_foldl_max 0
    (List.mem_map_of_mem (f := fun tick => rssOf tick pid) here)

/-! The peak of the CPU. -/

/-- The times whose CPU counts for the peak. -/
def measuredTimes (times : List Nat) : List Nat := if 1 < times.length then times.tail else times

theorem mem_measured {times : List Nat} (sorted : times.Pairwise (· < ·)) {before after : Nat}
    (here : before ∈ times) (there : after ∈ times) (later : before < after) :
    after ∈ measuredTimes times := by
  cases times with
  | nil => cases there
  | cons first rest =>
    obtain ⟨above, -⟩ := List.pairwise_cons.mp sorted
    have inside : after ∈ rest := by
      refine (List.mem_cons.mp there).resolve_left fun same => ?_
      rcases List.mem_cons.mp here with equal | inside
      · omega
      · have := above before inside
        omega
    have long : 1 < (first :: rest).length := Nat.succ_lt_succ (List.length_pos_of_mem inside)
    rw [measuredTimes, if_pos long]
    exact inside

def cpuPeak (map : List (Nat × ℚ)) : ℚ :=
  ((measuredTimes (map.map Prod.fst)).map (valueAt 0 map)).foldl max 0

/-- What the processes use between two ticks is in the peak. -/
theorem sum_le_peak {pids : List Int32} (distinct : pids.Nodup) (tck : ℚ)
    {front back : List Round} {before after : Round}
    (apart : Apart (front ++ before :: after :: back))
    (exits : Exits pids (front ++ before :: after :: back)) :
    roundedSum (cpuStep tck) ((stepsOf (samplesOf pids (front ++ before :: after :: back))).filter
      fun step => step.2.elapsedMs = after.elapsedMs) ≤
      cpuPeak (rollUp tck (samplesOf pids (front ++ before :: after :: back))).cpuByTime := by
  have value : valueAt 0 (rollUp tck (samplesOf pids
      (front ++ before :: after :: back))).cpuByTime after.elapsedMs =
      roundedSum (cpuStep tck) ((stepsOf (samplesOf pids
        (front ++ before :: after :: back))).filter
        fun step => step.2.elapsedMs = after.elapsedMs) := by
    rw [rollUp_cpu, valueAt_collect]
    rfl
  by_cases alive : ∃ pid ∈ pids, after.proc pid ≠ none
  · obtain ⟨pid, member, present⟩ := alive
    have stays := adjacent_of_pairwise exits pid member
    have first : before ∈ front ++ before :: after :: back := by simp
    have second : after ∈ front ++ before :: after :: back := by simp
    have here := (mem_cpuByTime tck).mpr ⟨before, first, rfl, pid, member, mt stays present⟩
    have there := (mem_cpuByTime tck).mpr ⟨after, second, rfl, pid, member, present⟩
    have later := adjacent_of_pairwise apart
    have inside := mem_measured (List.pairwise_map.mpr (cpuByTime_sorted tck _)) here there later
    rw [← value]
    exact le_foldl_max 0 (List.mem_map_of_mem inside)
  · have nothing : stepsBetween pids before after = [] :=
      List.filterMap_eq_nil_iff.mpr fun pid member => by
        rw [samplePid_none.mpr (gone_of_vacant alive member)]
        rfl
    have none := steps_between distinct apart exits
    rw [nothing, List.perm_nil] at none
    rw [none]
    exact start_le_foldl_max _ 0

/-! The mean of the CPU. -/

theorem cpuTicks_le (samples : List SystemSample) (pids : List UInt32) (totals : Totals) :
    (pids.foldl (fun totals pid =>
      totals.process (ofPid samples pid).head? (ofPid samples pid).getLast?)
      totals).cpuTicks.toNat ≤
    totals.cpuTicks.toNat + (pids.map fun pid => used (ofPid samples pid)).sum := by
  induction pids generalizing totals with
  | nil => simp
  | cons pid rest ih =>
    have step : (totals.process (ofPid samples pid).head?
        (ofPid samples pid).getLast?).cpuTicks.toNat ≤
        totals.cpuTicks.toNat + used (ofPid samples pid) := by
      rw [used]
      cases (ofPid samples pid).head? with
      | none => exact Nat.le_add_right _ _
      | some first =>
        cases (ofPid samples pid).getLast? with
        | none => exact Nat.le_add_right _ _
        | some last =>
          simp only [Totals.process, UInt64.toNat_add, UInt64.toNat_ofNat']
          exact (Nat.mod_le _ _).trans (Nat.add_le_add_left (Nat.mod_le _ _) _)
    rw [List.foldl_cons, List.map_cons, List.sum_cons]
    have rest := ih (totals.process (ofPid samples pid).head? (ofPid samples pid).getLast?)
    omega

theorem span_le (samples : List SystemSample) (pids : List UInt32) (totals : Totals) :
    totals.span ≤ (pids.foldl (fun totals pid =>
      totals.process (ofPid samples pid).head? (ofPid samples pid).getLast?) totals).span ∧
    ∀ pid ∈ pids, ∀ first ∈ (ofPid samples pid).head?, ∀ last ∈ (ofPid samples pid).getLast?,
      seconds (last.elapsedMs - first.elapsedMs) ≤
        (pids.foldl (fun totals pid =>
          totals.process (ofPid samples pid).head? (ofPid samples pid).getLast?) totals).span := by
  induction pids generalizing totals with
  | nil => simp
  | cons pid rest ih =>
    obtain ⟨grows, others⟩ := ih (totals.process (ofPid samples pid).head?
      (ofPid samples pid).getLast?)
    have step : totals.span ≤ (totals.process (ofPid samples pid).head?
        (ofPid samples pid).getLast?).span := by
      cases (ofPid samples pid).head? with
      | none => exact le_rfl
      | some first =>
        cases (ofPid samples pid).getLast? with
        | none => exact le_rfl
        | some last => exact le_max_left _ _
    refine ⟨step.trans grows, List.forall_mem_cons.mpr ⟨?_, others⟩⟩
    intro first start last final
    rw [List.foldl_cons]
    refine le_trans ?_ grows
    rw [Option.mem_def.mp start, Option.mem_def.mp final]
    exact le_max_right _ _

/-- A process that is there at the last tick is there at all, so the window is the whole time. -/
theorem window_covers (tck : ℚ) {pids : List Int32} (distinct : pids.Nodup) {first : Round}
    {rest : List Round} (exits : Exits pids (first :: rest))
    (alive : ∀ tick ∈ first :: rest, ∃ pid ∈ pids, tick.proc pid ≠ none) :
    seconds (spanMs (first :: rest)) ≤
      (rollUp tck (samplesOf pids (first :: rest))).spanS := by
  have totals := congrArg Totals.span (rollUp_totals tck (samplesOf pids (first :: rest)))
  obtain ⟨-, covers⟩ := span_le (samplesOf pids (first :: rest))
    (firstSeen (samplesOf pids (first :: rest))) {}
  rw [← totals] at covers
  have ends := List.dropLast_append_getLast (List.cons_ne_nil first rest)
  rw [spanMs_cons]
  generalize (first :: rest).getLast (List.cons_ne_nil first rest) = final at ends ⊢
  have there : final ∈ first :: rest := ends ▸ List.mem_append_right _ List.mem_cons_self
  obtain ⟨pid, member, present⟩ := alive final there
  have present' : first.proc pid ≠ none := by
    rcases List.mem_cons.mp there with rfl | later
    · exact present
    · exact fun gone => present ((List.pairwise_cons.mp exits).1 final later pid member gone)
  obtain ⟨s, sampled⟩ := Option.ne_none_iff_exists'.mp (mt samplePid_none.mp present)
  obtain ⟨s', sampled'⟩ := Option.ne_none_iff_exists'.mp (mt samplePid_none.mp present')
  have series := ofPid_samples distinct (first :: rest) member
  have head : (ofPid (samplesOf pids (first :: rest)) pid.toUInt32).head? = some s' := by
    rw [series, seriesOf_some sampled', List.head?_cons]
  have last : (ofPid (samplesOf pids (first :: rest)) pid.toUInt32).getLast? = some s := by
    rw [series, ← ends, seriesOf_append, seriesOf_some sampled, seriesOf_nil,
      List.getLast?_concat]
  have seen : pid.toUInt32 ∈ firstSeen (samplesOf pids (first :: rest)) :=
    ofPid_ne_nil.mp (by rw [head]; exact Option.some_ne_none s')
  have window := covers pid.toUInt32 seen s' head s last
  rwa [(samplePid_pid sampled).2, (samplePid_pid sampled').2] at window

def cpuMean (tck : ℚ) (rollup : Rollup) : ℚ :=
  if 0 < rollup.spanS then percent rollup.cpuTicksTotal.toNat tck rollup.spanS else 0

theorem cpuTicksTotal_le (tck : ℚ) {pids : List Int32} (distinct : pids.Nodup)
    (all : List Round) :
    (rollUp tck (samplesOf pids all)).cpuTicksTotal.toNat ≤ totalUsed pids all := by
  have totals := congrArg Totals.cpuTicks (rollUp_totals tck (samplesOf pids all))
  have bound := cpuTicks_le (samplesOf pids all) (firstSeen (samplesOf pids all)) {}
  rw [← totals, sum_firstSeen distinct all used rfl] at bound
  exact bound.trans_eq (Nat.zero_add _)

/-- What the roundings of a rollup leave of a number. -/
def margin (pids : List Int32) : ℚ := 1 - (pids.length + 12 : ℕ) / 2 ^ 53

/-- The processes were busier at some time than on the whole, by more than the roundings take
away. -/
inductive Uneven (pids : List Int32) (all : List Round) : Prop
  | idle (none : totalUsed pids all = 0)
  | burst {pair : Round × Round} (member : pair ∈ neighbours all) {pid : Int32}
      (known : pid ∈ pids) (whole : totalUsed pids all ≤ usedBetween pair pid)
  | busier {pair : Round × Round} (member : pair ∈ neighbours all)
      (more : (totalUsed pids all * gap pair : ℚ) ≤ busy pids pair * spanMs all * margin pids)

theorem margin_le (pids : List Int32) : margin pids ≤ kept ^ (6 + (pids.length + 6)) := by
  rw [show 6 + (pids.length + 6) = pids.length + 12 by omega]
  exact one_sub_le_kept_pow _

theorem cpuMean_nonneg (tck : ℚ) (rollup : Rollup) : 0 ≤ cpuMean tck rollup := by
  rw [cpuMean]
  split
  · exact onGrid_nonneg _
  · exact le_rfl

section Runs

variable {tck : ℚ} (positive : 0 < tck) (bounded : tck ≤ 2 ^ (63 : ℤ)) {pids : List Int32}
  (distinct : pids.Nodup) {all : List Round} (apart : Apart all) (exits : Exits pids all)
include positive bounded distinct apart exits

theorem between_le_peak {pair : Round × Round} (member : pair ∈ neighbours all) :
    ∃ sum ≤ cpuPeak (rollUp tck (samplesOf pids all)).cpuByTime,
      Near (pids.length + 6) (exactPercent tck (busy pids pair) (gap pair)) sum ∧
      ∀ pid ∈ pids, percent (usedBetween pair pid) tck (seconds (gap pair)) ≤ sum := by
  obtain ⟨before, after⟩ := pair
  obtain ⟨front, back, rfl⟩ := split_of_neighbours member
  have later := adjacent_of_pairwise apart
  have stays := adjacent_of_pairwise exits
  have same := steps_between distinct apart exits
  exact ⟨_, sum_le_peak distinct tck apart exits,
    steps_sum_near positive bounded later stays same,
    fun pid known => process_le_sum positive bounded later stays same known⟩

omit bounded in
/-- The mean counts no more than what was used, over no less than the whole time. -/
theorem mean_le (alive : ∀ tick ∈ all, ∃ pid ∈ pids, tick.proc pid ≠ none) :
    cpuMean tck (rollUp tck (samplesOf pids all)) ≤
      percent (totalUsed pids all) tck (seconds (spanMs all)) := by
  have total := cpuTicksTotal_le tck distinct all
  have nonneg : 0 ≤ percent (totalUsed pids all) tck (seconds (spanMs all)) :=
    onGrid_nonneg _
  rw [cpuMean]
  split
  case isFalse => exact nonneg
  case isTrue =>
    rcases Nat.eq_zero_or_pos (spanMs all) with none | some
    · rw [totalUsed_of_short apart exits none, Nat.le_zero] at total
      rw [total, percent_zero]
      exact nonneg
    · cases all with
      | nil => exact absurd some (lt_irrefl 0)
      | cons first rest =>
        exact percent_mono positive total (seconds_bounds some (spanMs_lt _)).2.1
          (window_covers tck distinct exits alive)

/-- The mean is above the peak by no more than the roundings. -/
theorem mean_near_peak (alive : ∀ tick ∈ all, ∃ pid ∈ pids, tick.proc pid ≠ none) :
    cpuMean tck (rollUp tck (samplesOf pids all)) * margin pids ≤
      cpuPeak (rollUp tck (samplesOf pids all)).cpuByTime := by
  have mean := mean_le positive distinct apart exits alive
  have nonneg : 0 ≤ cpuMean tck (rollUp tck (samplesOf pids all)) := cpuMean_nonneg _ _
  rcases Nat.eq_zero_or_pos (spanMs all) with none | some
  · rw [totalUsed_of_short apart exits none, percent_zero] at mean
    rw [le_antisymm mean nonneg, zero_mul]
    exact start_le_foldl_max _ 0
  · have ticked : neighbours all ≠ [] := fun nothing => by
      rw [spanMs_eq_sum apart, nothing] at some
      exact lt_irrefl 0 some
    obtain ⟨pair, member, share⟩ := exists_busy exits apart ticked
    obtain ⟨sum, below, near, -⟩ := between_le_peak positive bounded distinct apart exits member
    have exact_le := exactPercent_le (c := 1) positive some (gap_pos apart member)
      (by rw [mul_one]; exact_mod_cast share)
    rw [mul_one] at exact_le
    have total := percent_near positive bounded (totalUsed pids all) some (spanMs_lt all)
    have power := (pow_pos kept_pos (6 + (pids.length + 6))).le
    calc
      cpuMean tck (rollUp tck (samplesOf pids all)) * margin pids ≤
          cpuMean tck (rollUp tck (samplesOf pids all)) * kept ^ (6 + (pids.length + 6)) :=
        mul_le_mul_of_nonneg_left (margin_le pids) nonneg
      _ ≤ percent (totalUsed pids all) tck (seconds (spanMs all)) *
          kept ^ (6 + (pids.length + 6)) := mul_le_mul_of_nonneg_right mean power
      _ ≤ sum := total.le_up_to near exact_le
      _ ≤ _ := below

/-- A mean that is not above the peak before the roundings stays so, if there is a margin. -/
theorem mean_le_peak (alive : ∀ tick ∈ all, ∃ pid ∈ pids, tick.proc pid ≠ none)
    (uneven : Uneven pids all) :
    cpuMean tck (rollUp tck (samplesOf pids all)) ≤
      cpuPeak (rollUp tck (samplesOf pids all)).cpuByTime := by
  refine (mean_le positive distinct apart exits alive).trans ?_
  cases uneven with
  | idle none =>
    rw [none, percent_zero]
    exact start_le_foldl_max _ 0
  | burst member known whole =>
    obtain ⟨sum, below, -, each⟩ := between_le_peak positive bounded distinct apart exits member
    have some := gap_pos apart member
    exact (percent_mono positive whole (seconds_bounds some (gap_lt _)).2.1
      (seconds_mono (gap_le_spanMs apart member))).trans ((each _ known).trans below)
  | busier member more =>
    obtain ⟨sum, below, near, -⟩ := between_le_peak positive bounded distinct apart exits member
    have short := gap_pos apart member
    have some := short.trans_le (gap_le_spanMs apart member)
    have margined := more.trans (mul_le_mul_of_nonneg_left (margin_le pids) (by positivity))
    have total := percent_near positive bounded (totalUsed pids all) some (spanMs_lt all)
    exact (total.le_of_margin near
      (exactPercent_le positive some short margined)).trans below

end Runs

/-- Where no two ticks share a millisecond every sample counts once: the peak of the resident
sets is that of a tick, and the CPU peak is not below the mean by more than the roundings, and
not at all below it unless the load is even. -/
theorem aggregate_peaks (sysconf : Int64) (rateHz : UInt32) {pids : List Int32}
    (distinct : pids.Nodup) {rounds : List Round} (exits : Exits pids (ticks rateHz rounds))
    (apart : Apart (ticks rateHz rounds))
    (fits : ∀ tick ∈ ticks rateHz rounds, rssSum pids tick < 2 ^ 64) :
    ∀ agg ∈ aggregate (clkTck sysconf) (sampleLoop pids rateHz rounds),
      agg.rssPeakKib.toNat = ((ticks rateHz rounds).map (rssSum pids)).foldl max 0 ∧
      agg.rssPeakKib.toNat ≤ (pids.map fun pid =>
        ((ticks rateHz rounds).map fun tick => rssOf tick pid).foldl max 0).sum ∧
      agg.cpuPctMean * margin pids ≤ agg.cpuPctPeak ∧
      (Uneven pids (liveTicks pids (ticks rateHz rounds)) → agg.cpuPctMean ≤ agg.cpuPctPeak) := by
  intro agg some
  rw [sampleLoop_ticks] at some
  have live : (liveTicks pids (ticks rateHz rounds)).Sublist (ticks rateHz rounds) :=
    List.takeWhile_sublist _
  have alive : ∀ tick ∈ liveTicks pids (ticks rateHz rounds),
      ∃ pid ∈ pids, tick.proc pid ≠ none :=
    fun tick member => occupied_iff.mp (List.mem_takeWhile_imp member)
  obtain ⟨positive, bounded⟩ := clkTck_bounds sysconf
  have near := mean_near_peak positive bounded distinct (apart.sublist live)
    (exits.sublist live) alive
  have least := mean_le_peak positive bounded distinct (apart.sublist live)
    (exits.sublist live) alive
  rw [samplesOf_live exits] at near least
  rw [aggregate] at some
  split at some
  · cases some
  obtain rfl := Option.some_inj.mp (Option.mem_def.mp some)
  have peak := rss_peak distinct (clkTck sysconf) apart fits
  exact ⟨peak, peak.trans_le (rssSum_le_maxima pids _), near, least⟩

/-- Every process has the same resident set at every tick. -/
def workRound (now : Nat) (ticks : Int32 → UInt64) : Round where
  now := now
  hostBusy := 0
  hostTotal := 0
  proc pid := some ⟨1000, 0, 1, ticks pid, 0, 0, 0, 0, 0, []⟩

theorem samplingInterval_fifty : samplingInterval 50 = 20000000 := by decide +kernel

/-- Three ticks in time; the processes have more to do before the second one. -/
def promptRounds : List Round :=
  [workRound 0 fun _ => 0, workRound 20000000 fun pid => if pid = 7 then 2 else 1,
    workRound 40000000 fun _ => 2]

/-- After a late tick at 45.5 ms the next one is due at 65.5 ms; it comes at 85.4 ms, and the
one after it at 85.5 ms. -/
def lateRounds : List Round :=
  [workRound 0 fun _ => 0, workRound 45500000 fun _ => 0, workRound 85400000 fun _ => 0,
    workRound 85500000 fun _ => 0]

theorem lateTick_doubles :
    Exits [7] (ticks 50 lateRounds) ∧
      (aggregate (clkTck 100) (sampleLoop [7] 50 lateRounds)).map (fun agg => agg.rssPeakKib) =
        some 2000 ∧
      ((ticks 50 lateRounds).map (rssSum [7])).foldl max 0 = 1000 := by
  have all : ticks 50 lateRounds = lateRounds := by
    simp [ticks, samplingInterval_fifty, lateRounds, ticksFrom, workRound]
  have exits : Exits [7] lateRounds := by simp [Exits, lateRounds, workRound]
  rw [sampleLoop_ticks, all]
  exact ⟨exits, by decide +kernel, by decide +kernel⟩

/-- Ten punctual ticks of a process that uses three of the clock between any two. -/
def evenRounds : List Round :=
  (List.range 10).map fun n => workRound (20000000 * n) fun _ => .ofNat (3 * n)

-- An even load: the mean is rounded to the double above the peak.
example : ((aggregate (clkTck 100) (sampleLoop [7] 50 evenRounds)).map fun agg =>
    decide (agg.cpuPctPeak < agg.cpuPctMean)) = some true := by decide +kernel

theorem aggregate_peaks_prompt :
    ∃ agg ∈ aggregate (clkTck 100) (sampleLoop [7, 8] 50 promptRounds),
      agg.rssPeakKib.toNat = ((ticks 50 promptRounds).map (rssSum [7, 8])).foldl max 0 ∧
      agg.rssPeakKib.toNat ≤ ([7, 8].map fun pid =>
        ((ticks 50 promptRounds).map fun tick => rssOf tick pid).foldl max 0).sum ∧
      agg.cpuPctMean ≤ agg.cpuPctPeak := by
  have all : ticks 50 promptRounds = promptRounds := by
    simp [ticks, samplingInterval_fifty, promptRounds, ticksFrom, workRound]
  have live : liveTicks [7, 8] promptRounds = promptRounds := by
    simp [liveTicks, promptRounds, Round.occupied, workRound]
  have exits : Exits [7, 8] promptRounds := by
    simp [Exits, promptRounds, workRound]
  have apart : Apart promptRounds := by
    simp [Apart, promptRounds, workRound, Round.elapsedMs, UInt64.size]
  have fits : ∀ tick ∈ promptRounds, rssSum [7, 8] tick < 2 ^ 64 := by
    decide +kernel
  have uneven : Uneven [7, 8] promptRounds := by
    have total : totalUsed [7, 8] promptRounds = 4 := by decide +kernel
    have first : busy [7, 8] (promptRounds[0], promptRounds[1]) = 3 := by decide +kernel
    have time : gap (promptRounds[0], promptRounds[1]) = 20 := by decide +kernel
    have window : spanMs promptRounds = 40 := by decide +kernel
    have busiest : (promptRounds[0], promptRounds[1]) ∈ neighbours promptRounds :=
      List.mem_cons_self
    refine .busier busiest ?_
    rw [total, first, time, window]
    norm_num [margin]
  have sampled : (aggregate (clkTck 100) (sampleLoop [7, 8] 50 promptRounds)).isSome := by
    rw [sampleLoop_ticks, all]
    decide +kernel
  obtain ⟨agg, some⟩ := Option.isSome_iff_exists.mp sampled
  rw [← live, ← all] at uneven
  rw [← all] at exits apart fits
  obtain ⟨peak, bound, -, least⟩ :=
    aggregate_peaks 100 50 (by decide) exits apart fits agg some
  exact ⟨agg, some, peak, bound, least uneven⟩

end Seshat.System
