import Seshat.Commands.GatewayPlan
import Seshat.Config.Accepted
import Seshat.Lib.Saturating
import Seshat.Transport.Pipelines
import Mathlib.Algebra.Order.Floor.Semiring
import Mathlib.Data.Rat.Floor
import Mathlib.Tactic.Common

/-! How many pipelines the runs of a scenario and its saturation sweep open, against the
number provisioned for them. -/

namespace Seshat.Run
open Commands Config Transport Lib.Steps Lib.Saturating

structure SweepPlan where
  startMbps : ℚ
  stepMbps : ℚ
  maxMbps : ℚ
  deriving DecidableEq, Repr

/-- A rate that is no finite number does not pass validation. -/
def sweepPlan (sat : Saturation) : Option SweepPlan :=
  match sat.startMbps, sat.stepMbps, sat.maxMbps with
  | some startMbps, some stepMbps, some maxMbps => some { startMbps, stepMbps, maxMbps }
  | _, _, _ => none

namespace SweepPlan

def start (plan : SweepPlan) : ℚ := max plan.startMbps 0

/-- The whole steps between the rates; the cast to a word saturates. -/
def steps (plan : SweepPlan) : UInt64 :=
  clampWord (max (plan.maxMbps - plan.start) 0 / plan.stepMbps).floor.toNat

/-- The addition wraps, as in a release build. -/
def points (plan : SweepPlan) : Nat :=
  min (if 0 < plan.stepMbps then plan.steps + 1 else 1).toNat 10000

def rate (plan : SweepPlan) (i : Nat) : ℚ := plan.start + i * plan.stepMbps

end SweepPlan

def sustainedAt (base : Sender) (rateMbps : ℚ) : Sender :=
  { base with pattern := .sustained, rateLimitMbps := some rateMbps }

/-- The budget for the local transports: one pipeline for each connection of each run. -/
def provisionedPipelines (connections runs : Nat) : Nat := max connections 1 * max runs 1

/-- The connections one run opens up front. -/
def openRun (up : String → Bool) (params : RunParams) : Step Pipelines PairError :=
  loop (fun _ => openPair up) 0 (max params.connections 1)

/-- `run_scenario`: the local transports have no connection-rate harness. -/
def openScenario (up : String → Bool) (params : RunParams) : Step Pipelines PairError :=
  match params.mode with
  | .connrate => fun p => (.error .unsupported, p)
  | _ => loop (fun _ => openRun up params) 0 (max params.runs 1)

/-- `sweep_saturation`: one run for each rate of the grid. -/
def openSweep (up : String → Bool) (base : RunParams) (plan : SweepPlan) :
    Step Pipelines PairError :=
  loop
    (fun i =>
      openRun up
        { base with runs := 1, sender := sustainedAt base.sender (plan.rate i) })
    0 plan.points

/-- What a scenario meets: the ids whose endpoints come up, whether its runs measured
anything, and whether a ceiling was found (that needs no pipeline). -/
structure Host where
  appId : String
  up : String → Bool
  measured : Bool
  calibrated : Bool

/-- `run_gateway_scenario` after the start of the transport. -/
def openAll (host : Host) (saturation : Option SweepPlan) (params : RunParams) :
    Step Pipelines PairError :=
  andThen (openScenario host.up params)
    (match params.mode, saturation with
      | .throughput, some plan =>
          if host.measured && host.calibrated then openSweep host.up params plan else done
      | _, _ => done)

def localTransport (plan : GatewayPlan) : Option LocalTransport :=
  if plan.transportName = "scg-uds" then some .uds
  else if plan.transportName = "scg-shm" then some .shm
  else none

/-- The scenarios `run_gateway_scenario` takes, of those with a gateway plan. -/
def singleStream (s : Scenario) : Bool :=
  s.streams.isEmpty && s.reloadEvent.isNone && TopologyMode.supported s.topology.mode

/-- The pipelines a scenario opens, if it has any: streams and reloads run over TCP. -/
def scenarioPipelines (host : Host) (rate : Option ℚ) (s : Scenario) (d : Defaults) :
    Option (Except PairError Unit × Pipelines) :=
  if singleStream s then
    match gatewayPlan s, s.sender with
    | some plan, some sender =>
        (localTransport plan).map fun transport =>
          let params := (buildRunParams s d sender).atRate rate
          openAll host (s.saturation.bind sweepPlan) params
            (Pipelines.start transport host.appId
              (provisionedPipelines params.connections params.runs))
    | _, _ => none
  else none

/-- No more connections are opened than pipelines are provisioned, and none is refused. -/
def Suffices (host : Host) (rate : Option ℚ) (s : Scenario) (d : Defaults) : Prop :=
  ∀ result p, scenarioPipelines host rate s d = some (result, p) →
    p.nextConn ≤ p.connections ∧ ∀ text, result ≠ .error (.exhausted text)

/-! The runs take exactly what was provisioned. How a step may stop is left open: it is
`WithinBudget` on any host, and impossible where every endpoint comes up. -/

section Runs

variable {total taken : Nat} {up : String → Bool} {stopped : PairError → Pipelines → Prop}

theorem openRun_holds (params : RunParams)
    (pair : ∀ k < total, Holds (Taken total k) (openPair up) (Taken total (k + 1)) stopped)
    (free : taken + max params.connections 1 ≤ total) :
    Holds (Taken total taken) (openRun up params)
      (Taken total (taken + max params.connections 1)) stopped :=
  Holds.rounds (fun k => Taken total (taken + k)) fun k below =>
    pair (taken + k) (by omega)

theorem openRuns_holds (params : RunParams)
    (pair : ∀ k < total, Holds (Taken total k) (openPair up) (Taken total (k + 1)) stopped)
    (budget : total = provisionedPipelines params.connections params.runs) :
    Holds (Taken total 0) (loop (fun _ => openRun up params) 0 (max params.runs 1))
      (Taken total total) stopped := by
  subst budget
  apply Holds.rounds fun k => Taken _ (max params.connections 1 * k)
  intro k below
  apply openRun_holds params pair
  calc max params.connections 1 * k + max params.connections 1
      = max params.connections 1 * (k + 1) := (Nat.mul_succ _ _).symm
    _ ≤ max params.connections 1 * max params.runs 1 := Nat.mul_le_mul_left _ below

theorem openRun_exhausted (up : String → Bool) (params : RunParams) {p : Pipelines}
    (all : Taken total total p) :
    ∃ text p', openRun up params p = (.error (.exhausted text), p') ∧
      Taken total (total + 1) p' := by
  obtain ⟨text, p', refused, beyond⟩ := openPair_exhausted up all
  obtain ⟨count, rounds⟩ : ∃ count, max params.connections 1 = count + 1 :=
    ⟨max params.connections 1 - 1, by omega⟩
  refine ⟨text, p', ?_, beyond⟩
  rw [openRun, rounds, loop]
  exact andThen_error refused _

end Runs

theorem openScenario_within (up : String → Bool) (params : RunParams) {total : Nat}
    (budget : total = provisionedPipelines params.connections params.runs) :
    Holds (Taken total 0) (openScenario up params) (Taken total total) (WithinBudget total) := by
  have runs := openRuns_holds params (fun k free => openPair_within up free) budget
  unfold openScenario
  cases params.mode with
  | throughput => exact runs
  | pingPong => exact runs
  | connrate =>
    rintro p ⟨connections, nextConn⟩
    exact Or.inr ⟨.unsupported, p, rfl, connections, by omega, by simp⟩

/-- Without a sweep, or with one of no points, nothing is opened beyond the runs. -/
theorem openAll_within (host : Host) {saturation : Option SweepPlan} {params : RunParams}
    (noSweep : params.mode = .throughput → ∀ plan ∈ saturation, plan.points = 0) {total : Nat}
    (budget : total = provisionedPipelines params.connections params.runs) :
    Holds (Taken total 0) (openAll host saturation params) (Taken total total)
      (WithinBudget total) := by
  apply (openScenario_within host.up params budget).andThen
  cases mode : params.mode with
  | throughput =>
    cases swept : saturation with
    | none => exact Holds.done fun _ holds => holds
    | some plan =>
      have nothing : openSweep host.up params plan = done := by
        rw [openSweep, noSweep mode plan swept]
        rfl
      dsimp only
      rw [nothing, ite_self]
      exact Holds.done fun _ holds => holds
  | pingPong => exact Holds.done fun _ holds => holds
  | connrate => exact Holds.done fun _ holds => holds

/-- A host on which everything works. -/
def Host.working : Host where
  appId := "seshat"
  up _ := true
  measured := true
  calibrated := true

/-- The first connection of a sweep finds every pipeline taken. -/
theorem openAll_exhausted {params : RunParams} (throughput : params.mode = .throughput)
    {plan : SweepPlan} (some_point : plan.points ≠ 0) {total : Nat}
    (budget : total = provisionedPipelines params.connections params.runs) {p : Pipelines}
    (started : Taken total 0 p) :
    ∃ text p', openAll Host.working (some plan) params p = (.error (.exhausted text), p') ∧
      p'.nextConn = p'.connections + 1 := by
  have runs := openRuns_holds params (fun k free => openPair_total free) budget
  obtain ⟨spent, ran, all⟩ := runs.total started
  obtain ⟨count, rounds⟩ : ∃ count, plan.points = count + 1 :=
    ⟨plan.points - 1, by omega⟩
  have first (rate : ℚ) := openRun_exhausted (fun _ => true)
    { params with runs := 1, sender := sustainedAt params.sender rate } all
  obtain ⟨text, p', refused, connections, nextConn⟩ := first (plan.rate 0)
  refine ⟨text, p', ?_, by rw [connections, nextConn]⟩
  have scenario : openScenario Host.working.up params p = (.ok (), spent) := by
    rw [openScenario, throughput]
    exact ran
  have sweep : openAll Host.working (some plan) params p =
      openSweep (fun _ => true) params plan spent := by
    rw [openAll.eq_def, andThen_ok scenario, throughput]
    rfl
  rw [sweep, openSweep, rounds, loop]
  exact andThen_error refused _

/-! The scenarios of the local transports. -/

theorem atRate_mode (params : RunParams) (rate : Option ℚ) :
    (params.atRate rate).mode = params.mode ∧ (params.atRate rate).connections = params.connections ∧
      (params.atRate rate).runs = params.runs := by
  cases rate <;> exact ⟨rfl, rfl, rfl⟩

theorem buildRunParams_throughput (s : Scenario) (d : Defaults) (sender : Sender) :
    (buildRunParams s d sender).mode = .throughput ↔ s.mode = .throughput := by
  unfold buildRunParams
  cases s.mode <;> simp

/-- An accepted scenario with a local interface has the local transport of that name. -/
theorem gatewayPlan_local {s : Scenario} {sender : Sender} (accepted : Accepted s)
    (sent : s.sender = some sender) (noStreams : s.streams = [])
    (endpoint : sender.interface = .unix ∨ sender.interface = .shm) :
    ∃ plan transport, gatewayPlan s = some plan ∧ localTransport plan = some transport := by
  have valid := accepted.sender sender sent
  have notDtls : s.protocol.kind ≠ .dtls := by
    intro dtls
    have udp := valid.dtls dtls
    rcases endpoint with unix | shm <;> simp_all
  have enabled := valid.endpoint endpoint
  rcases endpoint with unix | shm
  · exact ⟨_, .uds, by simp [gatewayPlan, enabled, noStreams, sent, notDtls, unix]; rfl, rfl⟩
  · exact ⟨_, .shm, by simp [gatewayPlan, enabled, noStreams, sent, notDtls, shm]; rfl, rfl⟩

theorem scenarioPipelines_eq (host : Host) (rate : Option ℚ) (d : Defaults) {s : Scenario}
    {sender : Sender} {plan : GatewayPlan} {transport : LocalTransport}
    (single : singleStream s = true) (sent : s.sender = some sender)
    (planned : gatewayPlan s = some plan) (found : localTransport plan = some transport) :
    scenarioPipelines host rate s d =
      some (openAll host (s.saturation.bind sweepPlan) ((buildRunParams s d sender).atRate rate)
        (Pipelines.start transport host.appId
          (provisionedPipelines ((buildRunParams s d sender).atRate rate).connections
            ((buildRunParams s d sender).atRate rate).runs))) := by
  simp [scenarioPipelines, single, sent, planned, found]

theorem start_budget (transport : LocalTransport) (appId : String) (params : RunParams) :
    Taken (provisionedPipelines params.connections params.runs) 0
      (Pipelines.start transport appId (provisionedPipelines params.connections params.runs)) := by
  have positive : 1 ≤ provisionedPipelines params.connections params.runs :=
    Nat.mul_pos (by omega) (by omega)
  have started := start_taken transport appId (provisionedPipelines params.connections params.runs)
  rwa [Nat.max_eq_left positive] at started

/-- A sweep behind the runs finds no pipeline left on a host where everything works. -/
theorem sweep_exhausts {s : Scenario} {sender : Sender} (accepted : Accepted s)
    (sent : s.sender = some sender)
    (endpoint : sender.interface = .unix ∨ sender.interface = .shm) (d : Defaults)
    (single : singleStream s = true) (throughput : s.mode = .throughput) {sweep : SweepPlan}
    (plan : s.saturation.bind sweepPlan = some sweep) (some_point : sweep.points ≠ 0) :
    ¬Suffices Host.working none s d := by
  intro enough
  have noStreams : s.streams = [] := by
    simp only [singleStream, Bool.and_eq_true, List.isEmpty_iff] at single
    exact single.1.1
  obtain ⟨gateway, transport, planned, found⟩ :=
    gatewayPlan_local accepted sent noStreams endpoint
  have opened := scenarioPipelines_eq Host.working none d single sent planned found
  have mode := (buildRunParams_throughput s d sender).mpr throughput
  obtain ⟨text, p, refused, -⟩ := openAll_exhausted mode some_point rfl
    (start_budget transport Host.working.appId (buildRunParams s d sender))
  rw [plan, RunParams.atRate, refused] at opened
  exact (enough _ p opened).2 text rfl

/-- Runs that no sweep with a point follows stay within the budget. -/
theorem unswept_suffices {s : Scenario}
    (noSweep : singleStream s = true → s.mode = .throughput →
      ∀ plan ∈ s.saturation.bind sweepPlan, plan.points = 0) (host : Host)
    (rate : Option ℚ) (d : Defaults) : Suffices host rate s d := by
  intro result p opened
  unfold scenarioPipelines at opened
  split at opened
  · next single =>
    split at opened
    · next gateway sender planned sent =>
      obtain ⟨transport, found, outcome⟩ := Option.map_eq_some_iff.mp opened
      obtain ⟨mode, -, -⟩ := atRate_mode (buildRunParams s d sender) rate
      have noPlan (throughput : ((buildRunParams s d sender).atRate rate).mode = .throughput) :
          ∀ plan ∈ s.saturation.bind sweepPlan, plan.points = 0 := by
        rw [mode, buildRunParams_throughput] at throughput
        exact noSweep single throughput
      rcases openAll_within host noPlan rfl _ (start_budget transport host.appId _) with
        ⟨p', ran, connections, nextConn⟩ | ⟨e, p', failed, connections, nextConn, other⟩
      · rw [ran] at outcome
        obtain ⟨rfl, rfl⟩ := Prod.mk.inj outcome
        exact ⟨by omega, by simp⟩
      · rw [failed] at outcome
        obtain ⟨rfl, rfl⟩ := Prod.mk.inj outcome
        refine ⟨by omega, fun text same => other text ?_⟩
        exact Except.error.inj same
    · simp at opened
  · simp at opened

/-- For an accepted scenario over UDS or SHM the provisioned pipelines suffice on every host
exactly where no sweep with a point follows its runs. -/
theorem provisioned_suffice_iff {config : Config} {s : Scenario} {sender : Sender}
    (accepted : (validate config).ok = true) (member : s ∈ config.scenarios)
    (enabled : s.enabled = true) (sent : s.sender = some sender)
    (endpoint : sender.interface = .unix ∨ sender.interface = .shm) :
    (∀ host rate, Suffices host rate s config.defaults) ↔
      (singleStream s = true → s.mode = .throughput →
        ∀ plan ∈ s.saturation.bind sweepPlan, plan.points = 0) := by
  have valid := validate_accepted accepted member enabled
  constructor
  · intro enough single throughput plan planned
    by_contra some_point
    exact sweep_exhausts valid sent endpoint config.defaults single throughput planned some_point
      (enough Host.working none)
  · intro noSweep host rate
    exact unswept_suffices noSweep host rate config.defaults

/-- A sweep over UDS. -/
def udsSweep : Scenario where
  name := "uds-sweep"
  sender := some { interface := .unix, targetAddr := "/tmp/seshat.sock" }
  gateway := { enabled := true }
  runs := some 1
  saturation := some { startMbps := some 100, stepMbps := some 100, maxMbps := some 300 }

def udsConfig (s : Scenario) : Config where
  suite := { name := "suite", version := "1.0" }
  scenarios := [s]

/-- Three runs of four connections, without a sweep. -/
def busyUds : Scenario :=
  { udsSweep with connections := 4, runs := some 3, saturation := none }

/-- They suffice, and the last connection takes the last of the twelve pipelines. -/
theorem provisioned_suffice_iff_uds :
    (∀ host rate, Suffices host rate busyUds {}) ∧
      scenarioPipelines Host.working none busyUds {} =
        some (.ok (), { transport := .uds, appId := "seshat", connections := 12, nextConn := 12 }) :=
  ⟨(@provisioned_suffice_iff (udsConfig busyUds) busyUds _ (by decide +kernel) List.mem_cons_self
      rfl rfl (Or.inl rfl)).mpr fun _ _ _ planned => absurd planned (by simp [busyUds]),
    by decide +kernel⟩

/-- One run and one connection: the one pipeline is spent when the sweep begins. -/
theorem udsSweep_exhausts :
    (validate (udsConfig udsSweep)).ok = true ∧ udsSweep ∈ (udsConfig udsSweep).scenarios ∧
      udsSweep.enabled = true ∧
      scenarioPipelines Host.working none udsSweep {} =
        some
          (.error (.exhausted "UDS: connection 1 requested but only 1 pipeline(s) provisioned"),
            { transport := .uds, appId := "seshat", connections := 1, nextConn := 2 }) := by
  refine ⟨by decide +kernel, List.mem_cons_self, rfl, ?_⟩
  decide +kernel

end Seshat.Run
