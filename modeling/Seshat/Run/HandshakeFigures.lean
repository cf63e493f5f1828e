import Seshat.Run.Handshakes
import Mathlib.Tactic.Common

/-! When the two handshake figures are those of the first connections and of the measured ones
behind them: what the outcomes and the flag reads have to be, whatever the handshakes take. -/

namespace Seshat.Run
open Transport Metrics

/-! Which of the connections are measured, whatever their times. -/

/-- The connections of every connector, as far as they are measured or not. -/
def ConnRun.windows (run : ConnRun) : List (List Bool) :=
  run.handshakes.map fun handshakes => handshakes.map Handshake.measured

/-- The first connection of every connector is measured, no connector measures more than two,
and where one run has a first or a second one, all runs have. -/
structure AtMostTwo (windows : List (List (List Bool))) : Prop where
  cold : ∀ run ∈ windows, ∀ flags ∈ run, flags.head? ≠ some false
  two : ∀ run ∈ windows, ∀ flags ∈ run, flags.count true ≤ 2
  even : ∀ n, 0 < n → (∃ run ∈ windows, ∃ flags ∈ run, n ≤ flags.count true) →
    ∀ run ∈ windows, ∃ flags ∈ run, n ≤ flags.count true

def Connect.retime (connect : Connect) (ns : UInt64) : Connect :=
  { connect with answer := connect.answer.map fun _ => ns }

/-- The same outcomes at the same instants, with other handshake times. -/
def Retimed (runs others : List ConnRun) : Prop :=
  List.Forall₂ (fun run other => ∃ connectors, other = { run with connectors } ∧
    List.Forall₂ (List.Forall₂ fun connect another => ∃ ns, another = connect.retime ns)
      run.connectors connectors) runs others

theorem measuredNs_length (handshakes : List Handshake) :
    (measuredNs handshakes).length = (handshakes.map Handshake.measured).count true := by
  rw [measuredNs, List.length_map, ← List.countP_eq_length_filter, List.count, List.countP_map]
  exact List.countP_congr fun handshake _ => by simp

theorem handshakesOf_retime (clock : Clock) (connect : Connect) (ns : UInt64)
    (rest : List Connect) :
    handshakesOf clock (connect.retime ns :: rest) =
      if clock.phase connect.times.flagAt = .done then []
      else if connect.answer.isOk then
        { ns, measured := clock.phase connect.times.flagAt = .measure } :: handshakesOf clock rest
      else handshakesOf clock rest := by
  rw [handshakesOf, Connect.retime]
  cases connect.answer <;> rfl

theorem handshakesOf_measured (clock : Clock) (connect : Connect) (rest : List Connect) :
    (handshakesOf clock (connect :: rest)).map Handshake.measured =
      if clock.phase connect.times.flagAt = .done then []
      else if connect.answer.isOk then
        decide (clock.phase connect.times.flagAt = .measure) ::
          (handshakesOf clock rest).map Handshake.measured
      else (handshakesOf clock rest).map Handshake.measured := by
  rw [handshakesOf]
  split
  · rfl
  · cases connect.answer <;> rfl

theorem handshakesOf_retimed (clock : Clock) {connects others : List Connect}
    (retimed : List.Forall₂ (fun connect another => ∃ ns, another = connect.retime ns) connects
      others) :
    (handshakesOf clock others).map Handshake.measured =
      (handshakesOf clock connects).map Handshake.measured := by
  induction retimed with
  | nil => rfl
  | @cons connect another rest behind same _ ih =>
    obtain ⟨ns, rfl⟩ := same
    rw [handshakesOf_retime, handshakesOf_measured, ← ih]
    split_ifs <;> rfl

theorem connectors_retimed (clock : Clock) {connectors others : List (List Connect)}
    (each : List.Forall₂ (List.Forall₂ fun connect another => ∃ ns, another = connect.retime ns)
      connectors others) :
    (others.map (established clock)).map (List.map Handshake.measured) =
      (connectors.map (established clock)).map (List.map Handshake.measured) := by
  induction each with
  | nil => rfl
  | cons alike _ ih =>
    refine congrArg₂ List.cons ?_ ih
    rw [established_eq, established_eq]
    exact handshakesOf_retimed clock alike

theorem windows_retimed {runs others : List ConnRun} (retimed : Retimed runs others) :
    others.map ConnRun.windows = runs.map ConnRun.windows := by
  induction retimed with
  | nil => rfl
  | @cons run other _ _ same _ ih =>
    obtain ⟨connectors, rfl, each⟩ := same
    exact congrArg₂ List.cons (connectors_retimed run.clock each) ih

/-! Where the figures are right. -/

theorem samples_agree {handshakes : List Handshake}
    (cold : (handshakes.map Handshake.measured).head? ≠ some false)
    (two : (handshakes.map Handshake.measured).count true ≤ 2) :
    keptSample 0 handshakes = coldSample handshakes ∧
      keptSample 1 handshakes = resumedSample handshakes := by
  cases handshakes with
  | nil => exact ⟨rfl, rfl⟩
  | cons first rest =>
    have measured : first.measured = true := by
      rw [← Bool.not_eq_false]
      exact fun no => cold (congrArg some no)
    have kept : measuredNs (first :: rest) = first.ns :: measuredNs rest := by
      rw [measuredNs, List.filter_cons, if_pos measured]
      rfl
    rw [← measuredNs_length, kept, List.length_cons] at two
    refine ⟨by rw [keptSample, kept]; rfl, ?_⟩
    rw [keptSample, kept, List.getElem?_cons_succ, resumedSample, List.tail_cons]
    generalize measuredNs rest = times at two ⊢
    rcases times with _ | ⟨ns, _ | ⟨another, more⟩⟩
    · rfl
    · exact (meanOf_single (micros ns)).symm
    · simp only [List.length_cons] at two
      omega

theorem keptSample_isSome (place : Nat) (handshakes : List Handshake) :
    keptSample place handshakes ≠ none ↔
      place + 1 ≤ (handshakes.map Handshake.measured).count true := by
  rw [← measuredNs_length, keptSample, ne_eq, Option.map_eq_none_iff, List.getElem?_eq_none_iff]
  omega

/-- A run has a sample at a place if one of its connectors measures so many connections. -/
theorem kept_some (place : Nat) (handshakes : List (List Handshake)) :
    handshakes.filterMap (keptSample place) ≠ [] ↔
      ∃ flags ∈ handshakes.map (List.map Handshake.measured), place + 1 ≤ flags.count true := by
  rw [ne_eq, List.filterMap_eq_nil_iff, not_forall]
  constructor
  · rintro ⟨one, some⟩
    rw [Classical.not_imp] at some
    exact ⟨_, List.mem_map_of_mem some.1, (keptSample_isSome place one).mp some.2⟩
  · rintro ⟨flags, member, reached⟩
    obtain ⟨one, inRun, rfl⟩ := List.mem_map.mp member
    exact ⟨one, fun none => (keptSample_isSome place one).mpr reached (none inRun)⟩

theorem samplesOf_agree {runs : List ConnRun}
    (cold : ∀ run ∈ runs.map ConnRun.windows, ∀ flags ∈ run, flags.head? ≠ some false)
    (two : ∀ run ∈ runs.map ConnRun.windows, ∀ flags ∈ run, flags.count true ≤ 2) :
    samplesOf (keptSample 0) runs = samplesOf coldSample runs ∧
      samplesOf (keptSample 1) runs = samplesOf resumedSample runs := by
  have agree (run : ConnRun) (member : run ∈ runs) (handshakes : List Handshake)
      (inRun : handshakes ∈ run.handshakes) :=
    samples_agree
      (cold run.windows (List.mem_map_of_mem member) _ (List.mem_map_of_mem inRun))
      (two run.windows (List.mem_map_of_mem member) _ (List.mem_map_of_mem inRun))
  constructor
  · exact List.map_congr_left fun run member =>
      List.filterMap_congr fun handshakes inRun => (agree run member handshakes inRun).1
  · exact List.map_congr_left fun run member =>
      List.filterMap_congr fun handshakes inRun => (agree run member handshakes inRun).2

section Sufficient

variable {runs : List ConnRun} (placed : AtMostTwo (runs.map ConnRun.windows))
include placed

theorem AtMostTwo.all_or_none (place : Nat) :
    meanOfAll (samplesOf (keptSample place) runs) =
      meanOfSome (samplesOf (keptSample place) runs) := by
  have even := placed.even (place + 1) (Nat.succ_pos place)
  have some_iff (run : ConnRun) := kept_some place run.handshakes
  by_cases reached : ∃ run ∈ runs.map ConnRun.windows, ∃ flags ∈ run, place + 1 ≤ flags.count true
  · refine meanOfAll_some (List.forall_mem_map.mpr fun run member => ?_)
    exact (some_iff run).mpr (even reached run.windows (List.mem_map_of_mem member))
  · refine meanOfAll_none (List.forall_mem_map.mpr fun run member => ?_)
    by_contra nonempty
    exact reached ⟨run.windows, List.mem_map_of_mem member, (some_iff run).mp nonempty⟩

theorem AtMostTwo.means (sqrt : ℚ → ℚ) : MeansFirstAndResumed sqrt runs := by
  obtain ⟨cold, resumed⟩ := samplesOf_agree placed.cold placed.two
  refine ⟨?_, ?_⟩
  · rw [firstHandshakeUs_eq, meanSample_eq, placed.all_or_none, cold]
  · rw [resumedHandshakeUs_eq, meanSample_eq, placed.all_or_none, resumed]

end Sufficient

/-! Times that tell the connections apart. -/

/-- The times of the connections by how many measured ones went before, and by whether they
are measured. -/
def stamp (time : Nat → Bool → UInt64) (before : Nat) : List Bool → List Handshake
  | [] => []
  | measured :: rest =>
      { ns := time before measured, measured } ::
        stamp time (if measured then before + 1 else before) rest

def retimeBy (clock : Clock) (time : Nat → Bool → UInt64) (before : Nat) :
    List Connect → List Connect
  | [] => []
  | connect :: rest =>
      let measured : Bool := clock.phase connect.times.flagAt = .measure
      connect.retime (time before measured) ::
        retimeBy clock time (if connect.answer.isOk && measured then before + 1 else before) rest

def ConnRun.retimeBy (time : Nat → Bool → UInt64) (run : ConnRun) : ConnRun :=
  { run with connectors := run.connectors.map (Run.retimeBy run.clock time 0) }

section Retiming

variable (time : Nat → Bool → UInt64)

theorem handshakesOf_retimeBy (clock : Clock) (before : Nat) (connects : List Connect) :
    handshakesOf clock (retimeBy clock time before connects) =
      stamp time before ((handshakesOf clock connects).map Handshake.measured) := by
  induction connects generalizing before with
  | nil => rfl
  | cons connect rest ih =>
    rw [retimeBy, handshakesOf_retime, handshakesOf_measured]
    split
    · rfl
    · split
      · next ok => simp only [ok, Bool.true_and, stamp, ih]
      · next error =>
        rw [Bool.not_eq_true] at error
        simp only [error, Bool.false_and, Bool.false_eq_true, if_false, ih]

theorem retimed_retimeBy (runs : List ConnRun) :
    Retimed runs (runs.map (ConnRun.retimeBy time)) := by
  have connects (clock : Clock) (before : Nat) (list : List Connect) :
      List.Forall₂ (fun connect another => ∃ ns, another = connect.retime ns) list
        (retimeBy clock time before list) := by
    induction list generalizing before with
    | nil => exact .nil
    | cons connect rest ih => exact .cons ⟨_, rfl⟩ (ih _)
  rw [Retimed, List.forall₂_map_right_iff]
  refine List.forall₂_same.mpr fun run _ => ⟨_, rfl, ?_⟩
  rw [List.forall₂_map_right_iff]
  exact List.forall₂_same.mpr fun list _ => connects run.clock 0 list

theorem handshakes_retimeBy (run : ConnRun) :
    (run.retimeBy time).handshakes = run.windows.map (stamp time 0) := by
  change (run.connectors.map _).map _ = ((run.connectors.map _).map _).map _
  rw [List.map_map, List.map_map, List.map_map]
  refine List.map_congr_left fun connects _ => ?_
  simp only [Function.comp_apply, established_eq]
  exact handshakesOf_retimeBy time run.clock 0 connects

theorem samplesOf_retimeBy (sample : List Handshake → Option ℚ) (runs : List ConnRun) :
    samplesOf sample (runs.map (ConnRun.retimeBy time)) =
      (runs.map ConnRun.windows).map fun run =>
        run.filterMap fun flags => sample (stamp time 0 flags) := by
  rw [samplesOf, List.map_map, List.map_map]
  refine List.map_congr_left fun run _ => ?_
  simp only [Function.comp_apply, handshakes_retimeBy, List.filterMap_map]

theorem measuredNs_stamp (before : Nat) (flags : List Bool) :
    measuredNs (stamp time before flags) =
      (List.range' before (flags.count true)).map fun n => time n true := by
  induction flags generalizing before with
  | nil => rfl
  | cons measured rest ih =>
    cases measured with
    | true =>
      have later := ih (before + 1)
      rw [measuredNs] at later
      rw [stamp, measuredNs, List.filter_cons, if_pos rfl, List.map_cons, if_pos rfl, later,
        List.count_cons_self, List.range'_succ, List.map_cons]
    | false =>
      have later := ih before
      rw [measuredNs] at later
      rw [stamp, measuredNs, List.filter_cons, if_neg Bool.false_ne_true,
        if_neg Bool.false_ne_true, later, List.count_cons_of_ne Bool.false_ne_true]

theorem keptSample_stamp {place : Nat} {flags : List Bool} {x : ℚ}
    (kept : keptSample place (stamp time 0 flags) = some x) :
    place < flags.count true ∧ x = micros (time place true) := by
  rw [keptSample, measuredNs_stamp, List.getElem?_map, Option.map_map, Option.map_eq_some_iff]
    at kept
  obtain ⟨n, found, rfl⟩ := kept
  rw [List.getElem?_eq_some_iff] at found
  obtain ⟨inside, rfl⟩ := found
  rw [List.length_range'] at inside
  rw [List.getElem_range', Nat.zero_add, Nat.one_mul]
  exact ⟨inside, rfl⟩

end Retiming

/-! Where they are not. -/

section Necessary

theorem micros_nonneg (ns : UInt64) : 0 ≤ micros ns := div_nonneg (Nat.cast_nonneg _) (by norm_num)

theorem micros_zero : micros 0 = 0 := by simp [micros]

theorem micros_thousand : micros 1000 = 1 := by
  rw [micros, show (1000 : UInt64).toNat = 1000 from rfl]
  norm_num

theorem coldSample_nonneg {handshakes : List Handshake} {x : ℚ}
    (sample : coldSample handshakes = some x) : 0 ≤ x := by
  obtain ⟨first, -, rfl⟩ := Option.map_eq_some_iff.mp sample
  exact micros_nonneg first.ns

theorem resumedSample_nonneg {handshakes : List Handshake} {x : ℚ}
    (sample : resumedSample handshakes = some x) : 0 ≤ x := by
  obtain ⟨-, rfl⟩ := meanOf_eq_some.mp sample
  exact mean_nonneg (List.forall_mem_map.mpr fun ns _ => micros_nonneg ns)

variable {sqrt : ℚ → ℚ} {runs : List ConnRun}

/-- If the connections a figure is made of take no time, no other connection that it is to
cover takes any. -/
theorem unseen {place : Nat} {sample : List Handshake → Option ℚ} {time : Nat → Bool → UInt64}
    (nothing : micros (time place true) = 0)
    (nonneg : ∀ {handshakes x}, sample handshakes = some x → 0 ≤ x)
    (same : meanOfAll (samplesOf (keptSample place) (runs.map (ConnRun.retimeBy time))) =
      meanOfSome (samplesOf sample (runs.map (ConnRun.retimeBy time))))
    {run : List (List Bool)} (in_runs : run ∈ runs.map ConnRun.windows) {flags : List Bool}
    (in_run : flags ∈ run) {x : ℚ} (sampled : sample (stamp time 0 flags) = some x) : ¬0 < x := by
  intro positive
  rw [samplesOf_retimeBy, samplesOf_retimeBy] at same
  have zero : meanOfAll ((runs.map ConnRun.windows).map fun run =>
      run.filterMap fun flags => keptSample place (stamp time 0 flags)) = 0 := by
    refine meanOfAll_zero (List.forall_mem_map.mpr fun other _ y member => ?_)
    obtain ⟨others, -, kept⟩ := List.mem_filterMap.mp member
    rw [(keptSample_stamp time kept).2, nothing]
  rw [zero] at same
  refine (meanOfSome_pos (List.forall_mem_map.mpr fun other _ y member => ?_)
    (List.mem_map_of_mem in_runs) (List.mem_filterMap.mpr ⟨flags, in_run, sampled⟩)
    positive).ne same
  obtain ⟨others, -, other_sampled⟩ := List.mem_filterMap.mp member
  exact nonneg other_sampled

section All

variable (all : ∀ others, Retimed runs others → MeansFirstAndResumed sqrt others)
include all

theorem first_retimed (time : Nat → Bool → UInt64) :
    meanOfAll (samplesOf (keptSample 0) (runs.map (ConnRun.retimeBy time))) =
      meanOfSome (samplesOf coldSample (runs.map (ConnRun.retimeBy time))) := by
  rw [← firstHandshakeUs_eq sqrt, ← meanSample_eq]
  exact (all _ (retimed_retimeBy time runs)).first

theorem resumed_retimed (time : Nat → Bool → UInt64) :
    meanOfAll (samplesOf (keptSample 1) (runs.map (ConnRun.retimeBy time))) =
      meanOfSome (samplesOf resumedSample (runs.map (ConnRun.retimeBy time))) := by
  rw [← resumedHandshakeUs_eq sqrt, ← meanSample_eq]
  exact (all _ (retimed_retimeBy time runs)).resumed

/-- A first connection before the window is not seen. -/
theorem cold_of_means :
    ∀ run ∈ runs.map ConnRun.windows, ∀ flags ∈ run, flags.head? ≠ some false := by
  intro run in_runs flags in_run before
  let time (_ : Nat) (measured : Bool) : UInt64 := if measured then 0 else 1000
  have sampled : coldSample (stamp time 0 flags) = some (micros 1000) := by
    obtain ⟨rest, rfl⟩ := List.head?_eq_some_iff.mp before
    rfl
  have nothing : micros (time 0 true) = 0 := micros_zero
  exact unseen nothing coldSample_nonneg (first_retimed all time) in_runs in_run sampled
    (by rw [micros_thousand]; exact one_pos)

/-- A third measured connection is not seen. -/
theorem two_of_means :
    ∀ run ∈ runs.map ConnRun.windows, ∀ flags ∈ run, flags.count true ≤ 2 := by
  intro run in_runs flags in_run
  by_contra more
  let time (before : Nat) (_ : Bool) : UInt64 := if 2 ≤ before then 1000 else 0
  have measured := cold_of_means all run in_runs flags in_run
  cases flags with
  | nil => simp at more
  | cons first rest =>
    cases first with
    | false => exact measured rfl
    | true =>
      rw [List.count_cons_self] at more
      have times : measuredNs (stamp time 0 (true :: rest)).tail =
          (List.range' 1 (rest.count true)).map fun n => time n true := measuredNs_stamp time 1 rest
      have third : micros 1000 ∈ (measuredNs (stamp time 0 (true :: rest)).tail).map micros := by
        rw [times, List.map_map]
        refine List.mem_map.mpr ⟨2, List.mem_range'_1.mpr (by omega), rfl⟩
      have nothing : micros (time 1 true) = 0 := micros_zero
      have positive : 0 < micros 1000 := by
        rw [micros_thousand]
        exact one_pos
      refine unseen nothing resumedSample_nonneg (resumed_retimed all time) in_runs in_run
        (meanOf_some (List.ne_nil_of_mem third)) (mean_pos ?_ third positive)
      exact List.forall_mem_map.mpr fun ns _ => micros_nonneg ns

/-- Where every handshake takes equally long, a run without a sample pulls the mean down. -/
theorem even_of_means {n : Nat} (positive : 0 < n)
    (reached : ∃ run ∈ runs.map ConnRun.windows, ∃ flags ∈ run, n ≤ flags.count true) :
    ∀ run ∈ runs.map ConnRun.windows, ∃ flags ∈ run, n ≤ flags.count true := by
  let others := runs.map (ConnRun.retimeBy fun _ _ => 1000)
  have windows : others.map ConnRun.windows = runs.map ConnRun.windows :=
    windows_retimed (retimed_retimeBy _ runs)
  have cold := cold_of_means all
  have two := two_of_means all
  rw [← windows] at cold two reached ⊢
  obtain ⟨first, resumed⟩ := samplesOf_agree cold two
  have even {place : Nat} (same : meanOfAll (samplesOf (keptSample place) others) =
        meanOfSome (samplesOf (keptSample place) others))
      (some_run : ∃ run ∈ others.map ConnRun.windows, ∃ flags ∈ run,
        place + 1 ≤ flags.count true) :
      ∀ run ∈ others.map ConnRun.windows, ∃ flags ∈ run, place + 1 ≤ flags.count true := by
    obtain ⟨_, in_runs, sampled⟩ := some_run
    obtain ⟨run, in_others, rfl⟩ := List.mem_map.mp in_runs
    have level : ∀ xs ∈ samplesOf (keptSample place) others, ∀ x ∈ xs, x = micros 1000 := by
      rw [samplesOf_retimeBy]
      refine List.forall_mem_map.mpr fun other _ x member => ?_
      obtain ⟨flags, -, kept⟩ := List.mem_filterMap.mp member
      exact (keptSample_stamp _ kept).2
    have filled := meanOfAll_same (by rw [micros_thousand]; exact one_pos) level same
      (List.mem_map_of_mem in_others) ((kept_some place run.handshakes).mpr sampled)
    refine List.forall_mem_map.mpr fun other member => ?_
    exact (kept_some place other.handshakes).mp (filled _ (List.mem_map_of_mem member))
  obtain _ | _ | _ | n := n
  · exact absurd positive (Nat.lt_irrefl 0)
  · have same := first_retimed all fun _ _ => 1000
    exact even (same.trans (congrArg meanOfSome first.symm)) reached
  · have same := resumed_retimed all fun _ _ => 1000
    exact even (same.trans (congrArg meanOfSome resumed.symm)) reached
  · obtain ⟨run, in_runs, flags, in_run, many⟩ := reached
    exact absurd (two run in_runs flags in_run) (by omega)

end All

end Necessary

/-- Whatever the times of the handshakes, the two figures are the means over the connectors of
their first connection and of the measured ones behind it, exactly where each connector has its
first one in the window and at most two there, and no run lacks what another run has. -/
theorem meansFirstAndResumed_iff (sqrt : ℚ → ℚ) (runs : List ConnRun) :
    (∀ others, Retimed runs others → MeansFirstAndResumed sqrt others) ↔
      AtMostTwo (runs.map ConnRun.windows) := by
  constructor
  · exact fun all => ⟨cold_of_means all, two_of_means all, fun _ => even_of_means all⟩
  · intro placed others retimed
    rw [← windows_retimed retimed] at placed
    exact placed.means sqrt

def connectAt (t : Nat) (answer : Except ErrorKind UInt64) : Connect where
  times := { flagAt := t, establishedAt := t + 1, established := Nat.le_succ t }
  answer

/-- A connector that starts in warm-up, and a second run that is refused throughout. -/
def warmStart : List ConnRun :=
  [{ clock := shortClock
     connectors :=
       [[connectAt 0 (.ok 900000), connectAt 10 (.ok 100000), connectAt 12 (.ok 100000),
         connectAt 14 (.ok 400000)]]
     measureSecs := 1
     removeOutliers := false },
   { clock := shortClock
     connectors := [[connectAt 0 (.error .other), connectAt 10 (.error .other)]]
     measureSecs := 1
     removeOutliers := false }]

/-- The cold handshake is not in the first figure, the last one not in the second, and the
refused run counts as 0 in both. -/
theorem warmStart_misses :
    (runScenarioConnrate id warmStart).firstHandshakeUs = 50 ∧
      meanSample coldSample warmStart = 900 ∧
      (runScenarioConnrate id warmStart).resumedHandshakeUs = 50 ∧
      meanSample resumedSample warmStart = 200 ∧ ¬MeansFirstAndResumed id warmStart := by
  have first : (runScenarioConnrate id warmStart).firstHandshakeUs = 50 := by
    rw [firstHandshakeUs_eq]
    decide +kernel
  have cold : meanSample coldSample warmStart = 900 := by decide +kernel
  refine ⟨first, cold, ?_, by decide +kernel, fun means => ?_⟩
  · rw [resumedHandshakeUs_eq]
    decide +kernel
  · have same := means.first
    rw [first, cold] at same
    norm_num at same

end Seshat.Run
