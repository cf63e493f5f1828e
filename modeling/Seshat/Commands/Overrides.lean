import Seshat.Cli.ParseDuration
import Seshat.Commands.GatewayPlan
import Seshat.Commands.ReloadTiming
import Mathlib.Tactic.Common

/-! The flags of the command line over the defaults of a suite, and the phase lengths of the
runs they lead to. -/

namespace Seshat.Commands
open Config Lib.Durations

/-- The phase lengths of a command line. -/
structure PhaseFlags where
  duration : Option Duration := none
  warmup : Option Duration := none
  cooldown : Option Duration := none

structure MetricsFlags where
  noSystemMetrics : Bool := false
  metricsBackend : Option MetricsBackend := none

structure RunArgs where
  runs : Option UInt32 := none
  phases : PhaseFlags := {}
  scenario : Option String := none
  metrics : MetricsFlags := {}

structure SuiteArgs where
  quick : Bool := false
  runs : Option UInt32 := none
  phases : PhaseFlags := {}
  metrics : MetricsFlags := {}

/-- The part both commands share: repetitions and phase lengths. -/
def overridePhases (runs : Option UInt32) (phases : PhaseFlags) (d : Defaults) : Defaults :=
  { d with
    runs := runs.getD d.runs
    durationSecs := (phases.duration.map Duration.asSecs).getD d.durationSecs
    warmupSecs := (phases.warmup.map Duration.asSecs).getD d.warmupSecs
    cooldownSecs := (phases.cooldown.map Duration.asSecs).getD d.cooldownSecs }

/-- The part both commands share: the backend of the system metrics. -/
def overrideMetrics (metrics : MetricsFlags) (d : Defaults) : Defaults :=
  let d :=
    match metrics.metricsBackend with
    | some backend =>
        { d with metricsBackend := backend, collectSystemMetrics := backend ≠ .none }
    | none => d
  if metrics.noSystemMetrics then
    { d with collectSystemMetrics := false, metricsBackend := .none }
  else d

def applySuiteOverrides (cfg : Config) (args : SuiteArgs) : Config :=
  let d :=
    if args.quick then { cfg.defaults with durationSecs := 2, warmupSecs := 1, runs := 1 }
    else cfg.defaults
  { cfg with defaults := overrideMetrics args.metrics (overridePhases args.runs args.phases d) }

/-- The scenarios a run is restricted to. -/
def selectScenario (scenario : Option String) (scenarios : List Scenario) :
    Except String (List Scenario) :=
  match scenario with
  | none => .ok scenarios
  | some name =>
      let kept := scenarios.filter (·.name = name)
      if kept.isEmpty then
        .error ("no scenario named '" ++ name ++ "' (config has " ++
          toString scenarios.length ++ " scenario(s))")
      else .ok kept

def applyOverrides (cfg : Config) (args : RunArgs) : Except String Config :=
  match selectScenario args.scenario cfg.scenarios with
  | .error reason => .error reason
  | .ok scenarios =>
      .ok
        { cfg with
          defaults := overrideMetrics args.metrics
            (overridePhases args.runs args.phases cfg.defaults)
          scenarios }

/-- The commands that run scenarios of a document. -/
inductive RunCommand where
  | run (args : RunArgs)
  | suite (args : SuiteArgs)

namespace RunCommand

def phases : RunCommand → PhaseFlags
  | .run args => args.phases
  | .suite args => args.phases

/-- The document with the flags of the command over it. -/
def load (cfg : Config) : RunCommand → Except String Config
  | .run args => applyOverrides cfg args
  | .suite args => .ok (applySuiteOverrides cfg args)

end RunCommand

/-! The phases of a run. -/

/-- What the main thread of a run sleeps through. -/
structure Phases where
  warmup : Duration
  measure : Duration
  cooldown : Duration
  deriving DecidableEq

/-- One run of the engine, in any mode. -/
def RunParams.phases (params : RunParams) : Phases where
  warmup := .ofSecs params.warmup
  measure := .ofSecs params.measure
  cooldown := .ofSecs params.cooldown

/-- `run_multi_stream` stops all streams at the end of the measurement. -/
def multiStreamPhases (s : Scenario) (d : Defaults) : Phases where
  warmup := .ofSecs (s.warmupSecs.getD d.warmupSecs)
  measure := .ofSecs (max (s.durationSecs.getD d.durationSecs) 1)
  cooldown := .ofSecs 0

/-- The measurement of a hot reload is made as long as its windows. -/
def hotReloadPhases (params : RunParams) (event : ReloadEvent) : Option Phases :=
  (reloadTiming event.triggerAtSecs (.ofSecs params.warmup)
    (max event.measureWindowAfterSecs 5) (.ofNat params.connections)).map fun timing =>
      { params.phases with measure := timing.2 }

/-- The transport of a scenario that needs no gateway. -/
def loopbackTransport (s : Scenario) : Option Interface :=
  if s.streams ≠ [] ∨ s.gateway.enabled = true ∨ s.protocol.kind ≠ .none then none
  else
    s.sender.bind fun sender =>
      match sender.interface with
      | .tcp => some .tcp
      | .udp => some .udp
      | _ => none

/-- The ways in which `run_config` drives a scenario. -/
inductive RunPath where
  | single
  | streams
  | reload (event : ReloadEvent)

def runPath (s : Scenario) : Option RunPath :=
  if (loopbackTransport s).isSome then some .single
  else if (gatewayPlan s).isSome then
    if s.streams ≠ [] then some .streams else some (s.reloadEvent.elim .single .reload)
  else none

/-- The phases of each run; `none` is a panic. -/
def RunPath.phases (s : Scenario) (d : Defaults) : RunPath → Option Phases
  | .single => s.sender.map fun sender => (buildRunParams s d sender).phases
  | .streams => some (multiStreamPhases s d)
  | .reload event => s.sender.bind fun sender => hotReloadPhases (buildRunParams s d sender) event

/-- Every phase for which the command line gives a length has that length. -/
structure Honours (flags : PhaseFlags) (phases : Phases) : Prop where
  measure : ∀ d, flags.duration = some d → phases.measure = d
  warmup : ∀ d, flags.warmup = some d → phases.warmup = d
  cooldown : ∀ d, flags.cooldown = some d → phases.cooldown = d

/-- A length that a scenario leaves to the command line and whole seconds hold, or that it gives
itself. -/
def Keeps (own : Option UInt64) (least : UInt64) (d : Duration) : Prop :=
  (own = none ∧ 10 ^ 9 ∣ d.ns ∧ (Duration.ofSecs least).ns ≤ d.ns) ∨
    ∃ secs, own = some secs ∧ Duration.ofSecs (max secs least) = d

theorem phase_iff (own : Option UInt64) (least : UInt64) (d : Duration) :
    Duration.ofSecs (max (own.getD d.asSecs) least) = d ↔ Keeps own least d := by
  unfold Keeps
  cases own with
  | none =>
    rw [Option.getD_none, Duration.ext_iff, Duration.ofSecs_ns, Duration.ofSecs_ns,
      UInt64.toNat_max, d.asSecs_toNat]
    constructor
    · intro same
      exact .inl ⟨rfl, by omega, by omega⟩
    · rintro (⟨-, whole, long⟩ | ⟨secs, absent, -⟩)
      · omega
      · cases absent
  | some secs =>
    constructor
    · exact fun same => .inr ⟨secs, rfl, same⟩
    · rintro (⟨absent, -, -⟩ | ⟨_, same, kept⟩)
      · cases absent
      · rw [Option.getD_some, Option.some_inj.mp same, kept]

/-- The same for a phase whose length is given or not. -/
theorem given_iff {given : Option Duration} {default : UInt64}
    (overridden : ∀ d, given = some d → default = d.asSecs) (own : Option UInt64) (least : UInt64) :
    (∀ d, given = some d → Duration.ofSecs (max (own.getD default) least) = d) ↔
      ∀ d, given = some d → Keeps own least d := by
  refine forall_congr' fun d => imp_congr_right fun same => ?_
  rw [overridden d same, phase_iff]

theorem max_zero (secs : UInt64) : max secs 0 = secs := by
  apply UInt64.toNat_inj.mp
  rw [UInt64.toNat_max]
  exact Nat.max_zero _

theorem overrideMetrics_phases (metrics : MetricsFlags) (d : Defaults) :
    (overrideMetrics metrics d).durationSecs = d.durationSecs ∧
      (overrideMetrics metrics d).warmupSecs = d.warmupSecs ∧
      (overrideMetrics metrics d).cooldownSecs = d.cooldownSecs := by
  unfold overrideMetrics
  cases metrics.metricsBackend <;> cases metrics.noSystemMetrics <;> exact ⟨rfl, rfl, rfl⟩

section Loaded

variable {command : RunCommand} {cfg cfg' : Config}

/-- Behind either command a given length is the default of its phase, in whole seconds. -/
theorem load_defaults (loaded : command.load cfg = .ok cfg') :
    (∀ d, command.phases.duration = some d → cfg'.defaults.durationSecs = d.asSecs) ∧
      (∀ d, command.phases.warmup = some d → cfg'.defaults.warmupSecs = d.asSecs) ∧
      ∀ d, command.phases.cooldown = some d → cfg'.defaults.cooldownSecs = d.asSecs := by
  obtain ⟨runs, base, metrics, same⟩ : ∃ runs base metrics,
      cfg'.defaults = overrideMetrics metrics (overridePhases runs command.phases base) := by
    cases command with
    | run args =>
      unfold RunCommand.load applyOverrides at loaded
      dsimp only at loaded
      split at loaded
      · cases loaded
      · cases loaded
        exact ⟨_, _, _, rfl⟩
    | suite args =>
      cases loaded
      exact ⟨_, _, _, rfl⟩
  obtain ⟨duration, warmup, cooldown⟩ :=
    overrideMetrics_phases metrics (overridePhases runs command.phases base)
  rw [same, duration, warmup, cooldown]
  refine ⟨fun d given => ?_, fun d given => ?_, fun d given => ?_⟩
  · rw [overridePhases, given]
    rfl
  · rw [overridePhases, given]
    rfl
  · rw [overridePhases, given]
    rfl

/-- The measurement of a hot reload is what its event asks for, whatever is given. -/
def RunPath.KeepsMeasure (s : Scenario) (d : Duration) : RunPath → Prop
  | .reload event =>
      d.ns = allowanceNs (.ofNat (max s.connections.toNat 1)) +
        (event.triggerAtSecs.toNat + (max event.measureWindowAfterSecs 5).toNat + 2) * 10 ^ 9
  | _ => Keeps s.durationSecs 1 d

/-- The streams of a scenario have no cool-down. -/
def RunPath.KeepsCooldown (s : Scenario) (d : Duration) : RunPath → Prop
  | .streams => d.ns = 0
  | _ => Keeps s.cooldownSecs 0 d

theorem hotReloadPhases_measure {params : RunParams} {event : ReloadEvent} {phases : Phases}
    (timed : hotReloadPhases params event = some phases) :
    phases.measure.ns = allowanceNs (.ofNat params.connections) +
        (event.triggerAtSecs.toNat + (max event.measureWindowAfterSecs 5).toNat + 2) * 10 ^ 9 ∧
      phases.warmup = .ofSecs params.warmup ∧ phases.cooldown = .ofSecs params.cooldown := by
  obtain ⟨⟨trigger, measure⟩, found, rfl⟩ := Option.map_eq_some_iff.mp timed
  exact ⟨(reloadTiming_eq_some.mp found).2, rfl, rfl⟩

/-- The phases of a run have the given lengths exactly if these are whole seconds, at least one
for the measurement, that the scenario does not replace; a hot reload measures for as long as
its event asks, and there is no cool-down behind streams. -/
theorem phases_honoured_iff (loaded : command.load cfg = .ok cfg') {s : Scenario} {path : RunPath}
    (driven : runPath s = some path) {phases : Phases}
    (played : path.phases s cfg'.defaults = some phases) :
    Honours command.phases phases ↔
      (∀ d, command.phases.duration = some d → path.KeepsMeasure s d) ∧
        (∀ d, command.phases.warmup = some d → Keeps s.warmupSecs 0 d) ∧
        ∀ d, command.phases.cooldown = some d → path.KeepsCooldown s d := by
  obtain ⟨duration, warmup, cooldown⟩ := load_defaults loaded
  have measured := given_iff duration s.durationSecs 1
  have warmed := given_iff warmup s.warmupSecs 0
  have cooled := given_iff cooldown s.cooldownSecs 0
  rw [max_zero] at warmed cooled
  have parts : Honours command.phases phases ↔
      (∀ d, command.phases.duration = some d → phases.measure = d) ∧
        (∀ d, command.phases.warmup = some d → phases.warmup = d) ∧
        ∀ d, command.phases.cooldown = some d → phases.cooldown = d :=
    ⟨fun ⟨m, w, c⟩ => ⟨m, w, c⟩, fun ⟨m, w, c⟩ => ⟨m, w, c⟩⟩
  rw [parts, ← warmed]
  cases path with
  | single =>
    obtain ⟨sender, -, rfl⟩ := Option.map_eq_some_iff.mp played
    exact and_congr measured (and_congr Iff.rfl cooled)
  | streams =>
    obtain rfl := Option.some_inj.mp played
    refine and_congr measured (and_congr Iff.rfl (forall₂_congr fun d _ => ?_))
    rw [Duration.ext_iff]
    exact eq_comm
  | reload event =>
    obtain ⟨sender, -, timed⟩ := Option.bind_eq_some_iff.mp played
    obtain ⟨window, warm, cool⟩ := hotReloadPhases_measure timed
    rw [warm, cool]
    refine and_congr (forall₂_congr fun d _ => ?_) (and_congr Iff.rfl cooled)
    rw [Duration.ext_iff, window]
    exact eq_comm

end Loaded

/-! A scenario without lengths of its own. -/

def briefSender : Sender where
  interface := .tcp
  targetAddr := "127.0.0.1:9000"

def briefScenario : Scenario where
  name := "tcp_loopback"
  sender := some briefSender

def briefSuite : Config where
  suite := { name := "brief", version := "1.0.0" }
  scenarios := [briefScenario]

/-- A certificate is rotated three seconds into the measurement. -/
def reloadedScenario : Scenario where
  name := "tcp_reload"
  sender := some briefSender
  gateway := { enabled := true }
  reloadEvent := some { triggerAtSecs := 3, action := .rotateCert }

def brokenUpFlags : PhaseFlags where
  duration := some (.ofMillis 10020)
  warmup := some (.ofSecs 2)
  cooldown := some (.ofSecs 1)

/-- Whole seconds of warm-up and cool-down are kept, and the one length that the measurement of
the hot reload has. -/
theorem phases_honoured_iff_reload : ∃ cfg phases,
    (RunCommand.run { phases := brokenUpFlags }).load briefSuite = .ok cfg ∧
      (RunPath.reload { triggerAtSecs := 3, action := .rotateCert }).phases reloadedScenario
        cfg.defaults = some phases ∧
      Honours brokenUpFlags phases := by
  refine ⟨_, _, rfl, rfl, ?_⟩
  refine (@phases_honoured_iff (.run { phases := brokenUpFlags }) briefSuite _ rfl
    reloadedScenario (.reload { triggerAtSecs := 3, action := .rotateCert }) rfl _ rfl).mpr
    ⟨fun d given => ?_, fun d given => ?_, fun d given => ?_⟩
  · cases given
    unfold RunPath.KeepsMeasure
    decide
  · cases given
    exact .inl ⟨rfl, by decide, by decide⟩
  · cases given
    exact .inl ⟨rfl, by decide, by decide⟩

/-- A measurement of half a second lasts one, and one of thirty seconds ten behind a hot reload. -/
theorem half_second_lost :
    (∃ half cfg phases, Cli.parseDuration "500ms".toList = some (.ok half) ∧
      (RunCommand.run { phases := { duration := some half } }).load briefSuite = .ok cfg ∧
      runPath briefScenario = some .single ∧
      RunPath.single.phases briefScenario cfg.defaults = some phases ∧
      ¬Honours { duration := some half } phases) ∧
    ∃ cfg path phases,
      (RunCommand.run { phases := { duration := some (.ofSecs 30) } }).load briefSuite = .ok cfg ∧
      runPath reloadedScenario = some path ∧
      path.phases reloadedScenario cfg.defaults = some phases ∧
      phases.measure = .ofMillis 10020 := by
  refine ⟨⟨.ofMillis 500, _, _, by decide +kernel, rfl, rfl, rfl, fun honours => ?_⟩,
    _, _, _, rfl, rfl, rfl, by decide⟩
  have measured := congrArg Duration.ns (honours.measure _ rfl)
  revert measured
  decide

end Seshat.Commands
