import Seshat.Commands.GatewayPlan
import Seshat.Lib.Infix
import Seshat.Lib.Memo
import Mathlib.Data.Rat.Defs
import Mathlib.Tactic.Common
import Mathlib.Tactic.Linarith

/-! The headroom gate: what the harness itself can carry, probed over a null loopback under
the conditions of the scenario and kept for the rest of the suite, against what was
measured through the gateway. -/

namespace Seshat.Run
open Commands Config Lib.Infix Lib.Memo

/-! The probe -/

/-- The null loopbacks; a shared-memory ring goes with its capacity. -/
inductive CeilingTransport where
  | tcp
  | udp
  | udsNull
  | shmNull (ringCapacity : Nat)
  deriving DecidableEq, Repr

namespace CeilingTransport

def name : CeilingTransport → String
  | .tcp => "tcp"
  | .udp => "udp"
  | .udsNull => "uds-null"
  | .shmNull _ => "shm-null"

def cacheKey : CeilingTransport → String
  | .shmNull ringCapacity =>
      String.ofList ("shm-null/".toList ++ Nat.toDigits 10 ringCapacity)
  | transport => transport.name

/-- `ShmNullTransport::new` -/
def shmNullOf (ringCapacity : UInt64) : CeilingTransport := .shmNull (max ringCapacity.toNat 4096)

end CeilingTransport

def ceilingTransportFor (isUdpLike isUds isShm : Bool) (scenario : Scenario) : CeilingTransport :=
  if isUdpLike then .udp
  else if isUds then .udsNull
  else if isShm then .shmNullOf (scenario.optimizationFlags.shmRingCapacity.getD (1024 * 1024))
  else .tcp

/-- The parameters of a run, with the cores it is pinned to. -/
structure PinnedParams extends RunParams where
  senderCores : List Nat
  receiverCores : List Nat
  deriving DecidableEq, Repr

/-- Durations are in milliseconds. -/
structure ProbeSpec where
  messageBytes : UInt32
  connections : Nat
  warmup : Nat
  measure : Nat
  probes : Nat
  senderCores : List Nat
  receiverCores : List Nat
  deriving DecidableEq, Repr

def ceilingWarmup : Nat := 500
def ceilingMeasure : Nat := 1000
def ceilingProbes : Nat := 2

def ProbeSpec.forParams (params : PinnedParams) : ProbeSpec where
  messageBytes := params.messageBytes
  connections := params.connections
  warmup := ceilingWarmup
  measure := ceilingMeasure
  probes := ceilingProbes
  senderCores := params.senderCores
  receiverCores := params.receiverCores

def ceilingSender : Sender where
  interface := .tcp
  targetAddr := ""
  pattern := .sustained

/-- The parameters of one probe run. -/
structure ProbeParams where
  messageBytes : UInt32
  connections : Nat
  runs : Nat
  warmup : Nat
  measure : Nat
  cooldown : Nat
  removeOutliers : Bool
  senderCores : List Nat
  receiverCores : List Nat
  sender : Sender
  mode : RunMode
  deriving DecidableEq, Repr

def probeParams (spec : ProbeSpec) : ProbeParams where
  messageBytes := spec.messageBytes
  connections := max spec.connections 1
  runs := 1
  warmup := spec.warmup
  measure := spec.measure
  cooldown := 0
  removeOutliers := false
  senderCores := spec.senderCores
  receiverCores := spec.receiverCores
  sender := ceilingSender
  mode := .throughput

structure FlowFigures where
  throughputGbps : ℚ
  messageRate : ℚ
  deriving DecidableEq, Repr

structure Ceiling where
  transport : String
  messageBytes : UInt32
  connections : Nat
  throughputGbps : ℚ
  messageRate : ℚ
  deriving DecidableEq, Repr

/-- What the `attempt`-th run of a probe measures. -/
abbrev Attempts := (attempt : Nat) → CeilingTransport → ProbeParams → Except String FlowFigures

/-- `count` attempts from the `attempt`-th on; the best so far is kept. -/
def bestOf (run : Nat → Except String FlowFigures) :
    (count attempt : Nat) → FlowFigures → Except String FlowFigures
  | 0, _, best => .ok best
  | count + 1, attempt, best =>
      match run attempt with
      | .error error => .error error
      | .ok fs =>
          bestOf run count (attempt + 1)
            (if best.throughputGbps < fs.throughputGbps then fs else best)

def measureCeiling (runOnce : Attempts) (transport : CeilingTransport) (spec : ProbeSpec) :
    Except String Ceiling :=
  let params := probeParams spec
  match bestOf (fun attempt => runOnce attempt transport params) (max spec.probes 1) 0
      { throughputGbps := 0, messageRate := 0 } with
  | .error error => .error error
  | .ok best =>
      .ok
        { transport := transport.name
          messageBytes := spec.messageBytes
          connections := params.connections
          throughputGbps := best.throughputGbps
          messageRate := best.messageRate }

/-! The verdict -/

def headroomMin : ℚ := 3

/-- `ceiling / measured`; nothing measured leaves it infinite. -/
def headroom (ceilingGbps measuredGbps : ℚ) : Option ℚ :=
  if measuredGbps ≤ 0 then none else some (ceilingGbps / measuredGbps)

structure CpuSignals where
  gwPoolPctP95 : ℚ
  gwPoolCores : Nat
  gwHotThreadPctP95 : ℚ
  hostBusyFracP95 : ℚ
  deriving DecidableEq, Repr

def cpuSaturationRatio : ℚ := 0.85
def hotThreadSaturationPct : ℚ := 90
def hostSaturationFrac : ℚ := 0.9

/-- The gateway's cores, or its hottest thread, are busy. -/
def CpuSignals.saturated (c : CpuSignals) : Bool :=
  cpuSaturationRatio * ((max c.gwPoolCores 1 : Nat) * 100) ≤ c.gwPoolPctP95 ∨
    hotThreadSaturationPct ≤ c.gwHotThreadPctP95

/-- Whether the row is limited by the harness, and by what. -/
def classify (ceilingGbps measuredGbps : ℚ) (cpu : Option CpuSignals) : Bool × String :=
  if cpu.any CpuSignals.saturated then (false, "scg-cpu")
  else if (headroom ceilingGbps measuredGbps).all (headroomMin ≤ ·) then (false, "scg")
  else if cpu.any (hostSaturationFrac ≤ ·.hostBusyFracP95) then (true, "host-saturated")
  else (true, "harness-io")

structure Calibration where
  ceilingGbps : ℚ
  headroom : Option ℚ
  harnessLimited : Bool
  dut : String
  bottleneck : String
  ceilingTransport : String := "tcp"
  deriving DecidableEq, Repr

namespace Calibration

def baseline (ceilingGbps measuredGbps : ℚ) : Calibration where
  ceilingGbps := ceilingGbps
  headroom := Run.headroom ceilingGbps measuredGbps
  harnessLimited := false
  dut := "loopback"
  bottleneck := "n/a"

/-- `for_scg` and `for_scg_with_cpu` -/
def forScg (ceilingGbps measuredGbps : ℚ) (cpu : Option CpuSignals) : Calibration where
  ceilingGbps := ceilingGbps
  headroom := Run.headroom ceilingGbps measuredGbps
  harnessLimited := (classify ceilingGbps measuredGbps cpu).1
  dut := "scg"
  bottleneck := (classify ceilingGbps measuredGbps cpu).2

def withTransport (cal : Calibration) (name : String) : Calibration :=
  { cal with ceilingTransport := name }

end Calibration

/-! The cache -/

structure CeilingKey where
  transport : String
  messageBytes : UInt32
  connections : Nat
  senderCores : List Nat
  receiverCores : List Nat
  deriving DecidableEq, Repr

/-- What a ceiling is asked for. -/
structure Shape where
  transport : CeilingTransport
  params : PinnedParams
  deriving DecidableEq, Repr

def Shape.key (shape : Shape) : CeilingKey where
  transport := shape.transport.cacheKey
  messageBytes := shape.params.messageBytes
  connections := shape.params.connections
  senderCores := shape.params.senderCores
  receiverCores := shape.params.receiverCores

/-- The runs of the `probe`-th probe of the suite. -/
abbrev Probes := (probe : Nat) → Attempts

def probe (runs : Probes) (i : Nat) (shape : Shape) : Except String ℚ :=
  (measureCeiling (runs i) shape.transport (.forParams shape.params)).map Ceiling.throughputGbps

abbrev Ceilings := Store Shape CeilingKey ℚ String

/-- The device under test: none, or the gateways of a plan with their CPU signals. -/
inductive Dut where
  | loopback
  | scg (plan : GatewayPlan) (cpu : Option CpuSignals)
  deriving DecidableEq, Repr

def Dut.calibration (ceilingGbps measuredGbps : ℚ) : Dut → Calibration
  | .loopback => .baseline ceilingGbps measuredGbps
  | .scg _ cpu => .forScg ceilingGbps measuredGbps cpu

def calibrateScenario (runs : Probes) (shape : Shape) (measuredGbps : ℚ) (dut : Dut)
    (ceilings : Ceilings) : Except String Calibration × Ceilings :=
  match request Shape.key (probe runs) ceilings shape with
  | (.error error, ceilings) => (.error error, ceilings)
  | (.ok ceiling, ceilings) =>
      (.ok ((dut.calibration ceiling measuredGbps).withTransport shape.transport.name), ceilings)

/-- A scenario that has been measured. -/
structure Row where
  scenario : Scenario
  params : PinnedParams
  measuredGbps : ℚ
  dut : Dut
  deriving DecidableEq, Repr

/-- Where the ceiling of a row is measured: over the loopback that the scenario itself ran on, or
over the null loopback of the gateway's access interface. -/
def Row.transport (row : Row) : CeilingTransport :=
  match row.dut with
  | .loopback => if row.scenario.sender.any (·.interface = .udp) then .udp else .tcp
  | .scg plan _ =>
      ceilingTransportFor (plan.isUdp || plan.isAleRaw) (plan.transportName = "scg-uds")
        (plan.transportName = "scg-shm") row.scenario

def Row.shape (row : Row) : Shape where
  transport := row.transport
  params := row.params

/-- The calibration of a row: behind a null transport that fails a gateway row falls back to
TCP. -/
def Row.calibrate (runs : Probes) (row : Row) (ceilings : Ceilings) :
    Except String Calibration × Ceilings :=
  match calibrateScenario runs row.shape row.measuredGbps row.dut ceilings with
  | (.ok cal, ceilings) => (.ok cal, ceilings)
  | (.error error, ceilings) =>
      if row.dut = .loopback ∨ row.transport = .tcp ∨ row.transport = .udp then
        (.error error, ceilings)
      else
        calibrateScenario runs { row.shape with transport := .tcp } row.measuredGbps row.dut ceilings

/-- The rows of a suite, which share one cache. -/
def calibrateAll (runs : Probes) : List Row → Ceilings → List (Except String Calibration) × Ceilings
  | [], ceilings => ([], ceilings)
  | row :: rest, ceilings =>
      let (result, ceilings) := row.calibrate runs ceilings
      let (results, ceilings) := calibrateAll runs rest ceilings
      (result :: results, ceilings)

/-! One key, one probe -/

theorem CeilingTransport.cacheKey_shmNull (ringCapacity : Nat) :
    (shmNull ringCapacity).cacheKey.toList =
      "shm-null/".toList ++ Nat.toDigits 10 ringCapacity :=
  String.toList_ofList

theorem CeilingTransport.cacheKey_injective : Function.Injective CeilingTransport.cacheKey := by
  have ringless {other : CeilingTransport} (ringCapacity : Nat)
      (start : other.cacheKey.toList.head? ≠ some 's') :
      (shmNull ringCapacity).cacheKey ≠ other.cacheKey := by
    intro same
    rw [← same, cacheKey_shmNull] at start
    exact start rfl
  intro first second same
  cases first with
  | shmNull n =>
    cases second with
    | shmNull m =>
      have texts := congrArg String.toList same
      rw [cacheKey_shmNull, cacheKey_shmNull, List.append_cancel_left_eq] at texts
      exact congrArg shmNull (toDigits_injective texts)
    | tcp => exact absurd same (ringless n (by decide))
    | udp => exact absurd same (ringless n (by decide))
    | udsNull => exact absurd same (ringless n (by decide))
  | tcp =>
    cases second with
    | shmNull m => exact absurd same.symm (ringless m (by decide))
    | tcp => rfl
    | udp => exact absurd same (by decide)
    | udsNull => exact absurd same (by decide)
  | udp =>
    cases second with
    | shmNull m => exact absurd same.symm (ringless m (by decide))
    | tcp => exact absurd same (by decide)
    | udp => rfl
    | udsNull => exact absurd same (by decide)
  | udsNull =>
    cases second with
    | shmNull m => exact absurd same.symm (ringless m (by decide))
    | tcp => exact absurd same (by decide)
    | udp => exact absurd same (by decide)
    | udsNull => rfl

/-- Requests with one key are for the same probe. -/
theorem Shape.same_probe {first second : Shape} (same : first.key = second.key) :
    first.transport = second.transport ∧
      probeParams (.forParams first.params) = probeParams (.forParams second.params) := by
  simp only [key, CeilingKey.mk.injEq] at same
  obtain ⟨transport, messageBytes, connections, senderCores, receiverCores⟩ := same
  refine ⟨CeilingTransport.cacheKey_injective transport, ?_⟩
  simp only [ProbeSpec.forParams, messageBytes, connections, senderCores, receiverCores]

theorem bestOf_ok {run : Nat → Except String FlowFigures} {count attempt : Nat}
    {init best : FlowFigures} (found : bestOf run count attempt init = .ok best) :
    init.throughputGbps ≤ best.throughputGbps ∧
      (∀ i < count, ∃ fs, run (attempt + i) = .ok fs ∧ fs.throughputGbps ≤ best.throughputGbps) ∧
      (best = init ∨ ∃ i < count, run (attempt + i) = .ok best) := by
  induction count generalizing attempt init with
  | zero =>
    obtain rfl := Except.ok.inj found
    exact ⟨le_refl _, by simp, Or.inl rfl⟩
  | succ count ih =>
    rw [bestOf] at found
    cases first : run attempt with
    | error error => simp [first] at found
    | ok fs =>
      simp only [first] at found
      obtain ⟨above, others, attained⟩ := ih found
      have kept : init.throughputGbps ≤ best.throughputGbps ∧
          fs.throughputGbps ≤ best.throughputGbps := by
        split at above <;> constructor <;> linarith
      refine ⟨kept.1, fun i below => ?_, ?_⟩
      · rcases i with _ | i
        · exact ⟨fs, first, kept.2⟩
        · obtain ⟨other, ran, under⟩ := others i (Nat.lt_of_succ_lt_succ below)
          exact ⟨other, by rw [← ran]; congr 1; omega, under⟩
      · rcases attained with chosen | ⟨i, below, ran⟩
        · split at chosen
          · exact Or.inr ⟨0, Nat.succ_pos _, chosen ▸ first⟩
          · exact Or.inl chosen
        · exact Or.inr ⟨i + 1, Nat.succ_lt_succ below, by rw [← ran]; congr 1; omega⟩

/-- The ceiling a probe reports is the throughput of its best run, if any ran at all. -/
structure BestRun (runs : Probes) (i : Nat) (shape : Shape) (ceilingGbps : ℚ) : Prop where
  above : ∀ attempt < ceilingProbes, ∃ fs,
    runs i attempt shape.transport (probeParams (.forParams shape.params)) = .ok fs ∧
      fs.throughputGbps ≤ ceilingGbps
  attained : ceilingGbps = 0 ∨ ∃ attempt < ceilingProbes, ∃ fs,
    runs i attempt shape.transport (probeParams (.forParams shape.params)) = .ok fs ∧
      fs.throughputGbps = ceilingGbps

theorem probe_best {runs : Probes} {i : Nat} {shape : Shape} {ceilingGbps : ℚ}
    (probed : .ok ceilingGbps = probe runs i shape) : BestRun runs i shape ceilingGbps := by
  unfold probe measureCeiling at probed
  simp only at probed
  generalize found : bestOf _ _ _ _ = result at probed
  cases result with
  | error error => simp [Except.map] at probed
  | ok best =>
    obtain rfl := Except.ok.inj probed
    obtain ⟨-, above, attained⟩ := bestOf_ok found
    refine ⟨fun attempt below => ?_,
      attained.imp (fun same => congrArg FlowFigures.throughputGbps same) ?_⟩
    · simpa using above attempt below
    · rintro ⟨attempt, below, ran⟩
      exact ⟨attempt, below, best, by simpa using ran, rfl⟩

/-! What a row is told -/

/-- The harness may have been the limit: nothing says that the gateway was busy, and the
ceiling is less than three times what was measured. -/
def Row.Limited (row : Row) (ceilingGbps : ℚ) : Prop :=
  ∃ plan cpu, row.dut = .scg plan cpu ∧ (∀ c ∈ cpu, ¬c.saturated) ∧ 0 < row.measuredGbps ∧
    ceilingGbps < headroomMin * row.measuredGbps

/-- What a row blames: nothing without a gateway, the gateway if its CPU is saturated or the
harness has room, and otherwise the host if it is busy. -/
inductive Row.Blames (row : Row) (ceilingGbps : ℚ) : String → Prop
  | loopback (none : row.dut = .loopback) : Blames row ceilingGbps "n/a"
  | scgCpu (plan : GatewayPlan) (cpu : CpuSignals) (scg : row.dut = .scg plan (some cpu))
      (saturated : cpu.saturated) : Blames row ceilingGbps "scg-cpu"
  | scg (plan : GatewayPlan) (cpu : Option CpuSignals) (scg : row.dut = .scg plan cpu)
      (idle : ∀ c ∈ cpu, ¬c.saturated) (room : ¬row.Limited ceilingGbps) :
      Blames row ceilingGbps "scg"
  | hostSaturated (plan : GatewayPlan) (cpu : CpuSignals) (scg : row.dut = .scg plan (some cpu))
      (limited : row.Limited ceilingGbps) (busy : hostSaturationFrac ≤ cpu.hostBusyFracP95) :
      Blames row ceilingGbps "host-saturated"
  | harnessIo (plan : GatewayPlan) (cpu : Option CpuSignals) (scg : row.dut = .scg plan cpu)
      (limited : row.Limited ceilingGbps)
      (idle : ∀ c ∈ cpu, ¬hostSaturationFrac ≤ c.hostBusyFracP95) :
      Blames row ceilingGbps "harness-io"

theorem classify_limited (ceilingGbps measuredGbps : ℚ) (cpu : Option CpuSignals) :
    (classify ceilingGbps measuredGbps cpu).1 = true ↔
      (∀ c ∈ cpu, ¬c.saturated) ∧ 0 < measuredGbps ∧
        ceilingGbps < headroomMin * measuredGbps := by
  have gate : (headroom ceilingGbps measuredGbps).all (headroomMin ≤ ·) = true ↔
      ¬(0 < measuredGbps ∧ ceilingGbps < headroomMin * measuredGbps) := by
    unfold headroom
    split
    · rename_i nothing
      simpa using fun measured => absurd measured (not_lt.mpr nothing)
    · rename_i measured
      rw [Option.all_some, decide_eq_true_iff, le_div_iff₀ (not_le.mp measured)]
      simp [not_le.mp measured]
  have busy : cpu.any CpuSignals.saturated = true ↔ ¬∀ c ∈ cpu, ¬c.saturated := by
    cases cpu <;> simp
  unfold classify
  by_cases saturated : cpu.any CpuSignals.saturated = true
  · rw [if_pos saturated]
    exact iff_of_false (by simp) fun all => busy.mp saturated all.1
  · rw [if_neg saturated]
    by_cases roomy : (headroom ceilingGbps measuredGbps).all (headroomMin ≤ ·) = true
    · rw [if_pos roomy]
      exact iff_of_false (by simp) fun all => gate.mp roomy all.2
    · rw [if_neg roomy]
      refine iff_of_true (by split <;> rfl) ⟨?_, ?_⟩
      · exact not_not.mp fun not_all => saturated (busy.mpr not_all)
      · exact not_not.mp fun not_tight => roomy (gate.mpr not_tight)

theorem Row.calibration (row : Row) (ceilingGbps : ℚ) :
    (row.dut.calibration ceilingGbps row.measuredGbps).ceilingGbps = ceilingGbps ∧
      (row.dut.calibration ceilingGbps row.measuredGbps).headroom =
        headroom ceilingGbps row.measuredGbps ∧
      ((row.dut.calibration ceilingGbps row.measuredGbps).harnessLimited = true ↔
        row.Limited ceilingGbps) := by
  unfold Row.Limited
  cases row.dut with
  | loopback => exact ⟨rfl, rfl, by simp [Dut.calibration, Calibration.baseline]⟩
  | scg plan cpu =>
    refine ⟨rfl, rfl, (classify_limited ceilingGbps row.measuredGbps cpu).trans ?_⟩
    simp

theorem Row.blames (row : Row) (ceilingGbps : ℚ) :
    row.Blames ceilingGbps (row.dut.calibration ceilingGbps row.measuredGbps).bottleneck := by
  have limited := (row.calibration ceilingGbps).2.2
  cases device : row.dut with
  | loopback => exact .loopback device
  | scg plan cpu =>
    rw [device] at limited
    change row.Blames ceilingGbps (classify ceilingGbps row.measuredGbps cpu).2
    change (classify ceilingGbps row.measuredGbps cpu).1 = true ↔ _ at limited
    unfold classify at limited ⊢
    by_cases saturated : cpu.any CpuSignals.saturated = true
    · rw [if_pos saturated]
      obtain ⟨busy, rfl, pegged⟩ := (Option.any_eq_true _ _).mp saturated
      exact .scgCpu plan busy device pegged
    · have idle : ∀ c ∈ cpu, ¬c.saturated := fun c inCpu pegged =>
        saturated ((Option.any_eq_true _ _).mpr ⟨c, inCpu, pegged⟩)
      rw [if_neg saturated] at limited ⊢
      by_cases roomy : (Run.headroom ceilingGbps row.measuredGbps).all (headroomMin ≤ ·) = true
      · rw [if_pos roomy] at limited ⊢
        exact .scg plan cpu device idle fun tight => absurd (limited.mpr tight) (by decide)
      · rw [if_neg roomy] at limited ⊢
        by_cases host : cpu.any (hostSaturationFrac ≤ ·.hostBusyFracP95) = true
        · rw [if_pos host] at limited ⊢
          obtain ⟨busy, rfl, above⟩ := (Option.any_eq_true _ _).mp host
          exact .hostSaturated plan busy device (limited.mp rfl) (of_decide_eq_true above)
        · rw [if_neg host] at limited ⊢
          exact .harnessIo plan cpu device (limited.mp rfl) fun c inCpu above =>
            host ((Option.any_eq_true _ _).mpr ⟨c, inCpu, decide_eq_true above⟩)

/-- What a calibration says of a row and its ceiling. -/
structure Row.Judged (row : Row) (cal : Calibration) : Prop where
  headroom : cal.headroom = Run.headroom cal.ceilingGbps row.measuredGbps
  limited : cal.harnessLimited = true ↔ row.Limited cal.ceilingGbps
  dut : cal.dut = if row.dut = .loopback then "loopback" else "scg"
  bottleneck : row.Blames cal.ceilingGbps cal.bottleneck

theorem Row.judged (row : Row) (ceilingGbps : ℚ) (transport : String) :
    row.Judged ((row.dut.calibration ceilingGbps row.measuredGbps).withTransport transport) := by
  obtain ⟨ceiling, gap, limited⟩ := row.calibration ceilingGbps
  have same : ((row.dut.calibration ceilingGbps row.measuredGbps).withTransport
      transport).ceilingGbps = ceilingGbps := ceiling
  refine ⟨?_, ?_, ?_, ?_⟩
  · rw [same]
    exact gap
  · rw [same]
    exact limited
  · cases row.dut <;> rfl
  · rw [same]
    exact row.blames ceilingGbps

/-- The ceiling of a row is that of a probe under its own conditions, over the transport the
row names: its own, or TCP where a probe over its own has failed. -/
structure Graded (runs : Probes) (probes : List (Shape × Except String ℚ)) (row : Row)
    (cal : Calibration) : Prop where
  probed : ∃ i shape, probes[i]? = some (shape, .ok cal.ceilingGbps) ∧
    BestRun runs i shape cal.ceilingGbps ∧
    probeParams (.forParams shape.params) = probeParams (.forParams row.params) ∧
    shape.transport.name = cal.ceilingTransport ∧
    (shape.transport = row.transport ∨
      shape.transport = .tcp ∧ ∃ error, (row.shape, .error error) ∈ probes)
  verdict : row.Judged cal

theorem Graded.mono {runs : Probes} {probes probes' : List (Shape × Except String ℚ)} {row : Row}
    {cal : Calibration} (graded : Graded runs probes row cal) (later : probes <+: probes') :
    Graded runs probes' row cal where
  probed := by
    obtain ⟨i, shape, known, best, params, named, source⟩ := graded.probed
    have still : probes'[i]? = some (shape, .ok cal.ceilingGbps) := by
      obtain ⟨more, rfl⟩ := later
      rwa [List.getElem?_append_left (List.getElem?_eq_some_iff.mp known).1]
    refine ⟨i, shape, still, best, params, named, source.imp_right ?_⟩
    rintro ⟨tcp, error, failed⟩
    exact ⟨tcp, error, later.subset failed⟩
  verdict := graded.verdict

section Suite

variable (runs : Probes)

/-- The cache holds what its probes have measured. -/
abbrev SoundCache (ceilings : Ceilings) : Prop := Sound Shape.key (probe runs) ceilings

/-- What a row asks the cache, it asks with its shape or behind a failed probe of it. -/
inductive Calibrated (row : Row) (shape : Shape) (before : Ceilings) :
    Except String Calibration × Ceilings → Prop
  | ok (cal : Calibration) (after : Ceilings) (i : Nat) (other : Shape)
      (known : after.probes[i]? = some (other, .ok cal.ceilingGbps))
      (best : BestRun runs i other cal.ceilingGbps)
      (transport : other.transport = shape.transport)
      (params : probeParams (.forParams other.params) = probeParams (.forParams shape.params))
      (named : shape.transport.name = cal.ceilingTransport)
      (verdict : row.Judged cal)
      (sound : SoundCache runs after) (grown : before.probes <+: after.probes) :
      Calibrated row shape before (.ok cal, after)
  | fails (error : String) (after : Ceilings) (failed : (shape, .error error) ∈ after.probes)
      (sound : SoundCache runs after) (grown : before.probes <+: after.probes) :
      Calibrated row shape before (.error error, after)

variable {runs}

theorem calibrateScenario_calibrated {ceilings : Ceilings} (sound : SoundCache runs ceilings)
    (row : Row) (shape : Shape) :
    Calibrated runs row shape ceilings
      (calibrateScenario runs shape row.measuredGbps row.dut ceilings) := by
  have served := sound.served shape
  have after := sound.request shape
  have found {after : Ceilings} (kept : SoundCache runs after)
      (grown : ceilings.probes <+: after.probes) {other : Shape} {ceiling : ℚ}
      (same : other.key = shape.key) (known : (other, .ok ceiling) ∈ after.probes) :
      Calibrated runs row shape ceilings
        (.ok ((row.dut.calibration ceiling row.measuredGbps).withTransport
          shape.transport.name), after) := by
    obtain ⟨i, at_i⟩ := List.getElem?_of_mem known
    obtain ⟨transport, params⟩ := Shape.same_probe same
    obtain ⟨reported, -, -⟩ := Row.calibration row ceiling
    have same_ceiling :
        ((row.dut.calibration ceiling row.measuredGbps).withTransport
          shape.transport.name).ceilingGbps = ceiling := reported
    refine .ok _ after i other ?_ ?_ transport params rfl (row.judged ceiling _) kept grown
    · rw [same_ceiling]
      exact at_i
    · rw [same_ceiling]
      exact probe_best (kept.answered i other _ at_i)
  unfold calibrateScenario
  generalize request Shape.key (probe runs) ceilings shape = result at served after
  cases served with
  | hit other ceiling same known => exact found after List.prefix_rfl same known
  | miss ceiling m' probes =>
    exact found after ⟨_, probes.symm⟩ rfl
      (probes ▸ List.mem_append_right _ (List.mem_singleton_self _))
  | fails error m' probes =>
    exact .fails error m' (probes ▸ List.mem_append_right _ (List.mem_singleton_self _)) after
      ⟨_, probes.symm⟩

theorem Calibrated.graded {row : Row} {before after : Ceilings} {cal : Calibration}
    {shape : Shape} (done : Calibrated runs row shape before (.ok cal, after))
    (same : shape.params = row.params)
    (source : shape.transport = row.transport ∨
      shape.transport = .tcp ∧ ∃ error, (row.shape, .error error) ∈ after.probes) :
    Graded runs after.probes row cal ∧ SoundCache runs after ∧ before.probes <+: after.probes := by
  cases done with
  | ok cal after i other known best transport params named verdict sound grown =>
    refine ⟨⟨⟨i, other, known, best, same ▸ params, transport ▸ named, ?_⟩, verdict⟩, sound, grown⟩
    rw [transport]
    exact source

/-- A row that gets a calibration is graded. -/
def Outcome (runs : Probes) (probes : List (Shape × Except String ℚ)) (row : Row)
    (result : Except String Calibration) : Prop :=
  ∀ cal, result = .ok cal → Graded runs probes row cal

theorem calibrate_outcome {ceilings : Ceilings} (sound : SoundCache runs ceilings) (row : Row) :
    Outcome runs (row.calibrate runs ceilings).2.probes row
        (row.calibrate runs ceilings).1 ∧
      SoundCache runs (row.calibrate runs ceilings).2 ∧
      ceilings.probes <+: (row.calibrate runs ceilings).2.probes := by
  unfold Row.calibrate
  have first := calibrateScenario_calibrated sound row row.shape
  generalize calibrateScenario runs row.shape row.measuredGbps row.dut ceilings = result at first
  obtain ⟨outcome, after⟩ := result
  cases outcome with
  | ok cal =>
    obtain ⟨graded, kept, grown⟩ := first.graded rfl (Or.inl rfl)
    exact ⟨fun _ same => Except.ok.inj same ▸ graded, kept, grown⟩
  | error error =>
    cases first with
    | fails error after failed kept grown =>
      simp only
      split
      · exact ⟨by simp [Outcome], kept, grown⟩
      · have second := calibrateScenario_calibrated kept row { row.shape with transport := .tcp }
        generalize calibrateScenario runs _ row.measuredGbps row.dut after = result at second
        obtain ⟨outcome, last⟩ := result
        cases outcome with
        | error error =>
          cases second with
          | fails error last _ kept' grown' =>
            exact ⟨by simp [Outcome], kept', grown.trans grown'⟩
        | ok cal =>
          have grown' : after.probes <+: last.probes := by
            cases second
            assumption
          obtain ⟨graded, kept', -⟩ := second.graded rfl
            (Or.inr ⟨rfl, error, grown'.subset failed⟩)
          exact ⟨fun _ same => Except.ok.inj same ▸ graded, kept', grown.trans grown'⟩

theorem calibrateAll_outcomes {ceilings : Ceilings} (sound : SoundCache runs ceilings)
    (rows : List Row) :
    List.Forall₂ (Outcome runs (calibrateAll runs rows ceilings).2.probes) rows
        (calibrateAll runs rows ceilings).1 ∧
      SoundCache runs (calibrateAll runs rows ceilings).2 ∧
      ceilings.probes <+: (calibrateAll runs rows ceilings).2.probes := by
  induction rows generalizing ceilings with
  | nil => exact ⟨.nil, sound, List.prefix_rfl⟩
  | cons row rest ih =>
    obtain ⟨outcome, kept, grown⟩ := calibrate_outcome sound row
    obtain ⟨outcomes, kept', grown'⟩ := ih kept
    exact ⟨.cons (fun cal same => (outcome cal same).mono grown') outcomes, kept',
      grown.trans grown'⟩

end Suite

/-- Over a whole suite: every row is graded against the best run of a probe made under its own
conditions, and no two probes that succeeded were made for the same key. -/
theorem calibrateAll_graded (runs : Probes) (rows : List Row) :
    List.Forall₂ (Outcome runs (calibrateAll runs rows {}).2.probes) rows
        (calibrateAll runs rows {}).1 ∧
      (calibrateAll runs rows {}).2.probes.Pairwise fun first second =>
        ∀ ceiling other, first.2 = .ok ceiling → second.2 = .ok other →
          first.1.key ≠ second.1.key := by
  obtain ⟨outcomes, sound, -⟩ := calibrateAll_outcomes (sound_nil Shape.key (probe runs)) rows
  exact ⟨outcomes, sound.once⟩

end Seshat.Run
