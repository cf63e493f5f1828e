import Seshat.Config.Schema
import Seshat.Workload.Builder
import Mathlib.Tactic.Common

/-! How the run wiring drives a scenario: which gateway path it plans, and the parameters
of its runs. -/

namespace Seshat.Commands
open Config Workload Proto.Wire

inductive GwSecurity where
  | routing
  | routingUdp
  | tls (version : String) (ktls : Bool)
  | mtls (version : String) (ktls : Bool)
  | integrityOnly (version : String)
  | dtls (version : String) (mutualAuth : Bool)
  | custom
  deriving DecidableEq, Repr

def tlsVersion : TlsVersion → String
  | .v1_0 => "tls1.0"
  | .v1_2 => "tls1.2"
  | .v1_3 => "tls1.3"

def dtlsVersion : TlsVersion → String
  | .v1_0 => "dtls1.0"
  | .v1_2 => "dtls1.2"
  | .v1_3 => "dtls1.3"

inductive GatewayTopology where
  | singleGateway
  | scgToScg
  deriving DecidableEq, Repr

structure GatewayPlan where
  security : GwSecurity
  topology : GatewayTopology
  transportName : String
  deriving DecidableEq, Repr

def resolveSecurity (s : Scenario) : GwSecurity :=
  if s.protocol.kind = .none ∨ s.protocol.protectionMode = .routingOnly then .routing
  else
    match s.protocol.kind with
    | .tls =>
        let version := tlsVersion s.protocol.version
        if s.protocol.protectionMode = .integrityOnly then .integrityOnly version
        else if s.protocol.mutualAuth then .mtls version s.protocol.kernel
        else .tls version s.protocol.kernel
    | .dtls => .dtls (dtlsVersion s.protocol.version) s.protocol.mutualAuth
    | .custom => .custom
    | _ => .routing

/-- UDP-over-TLS needs an explicit framing of the datagrams. -/
def tunnelPlan (s : Scenario) (topology : GatewayTopology) : Option GatewayPlan :=
  let version := tlsVersion s.protocol.version
  let security : GwSecurity :=
    if s.protocol.mutualAuth then .mtls version s.protocol.kernel
    else .tls version s.protocol.kernel
  match s.protocol.appProtocol with
  | .none => none
  | .ale => some { security, topology, transportName := "scg-udp-ale" }
  | .raw => some { security, topology, transportName := "scg-udp-raw" }

/-- The plans of a TCP sender. -/
def tcpPlan (s : Scenario) (topology : GatewayTopology) : Option GatewayPlan :=
  if s.protocol.kind = .none ∨ s.protocol.protectionMode = .routingOnly then
    some { security := .routing, topology, transportName := "scg-tcp" }
  else
    match s.protocol.kind with
    | .tls =>
        let version := tlsVersion s.protocol.version
        let ktls := s.protocol.kernel
        if s.protocol.protectionMode = .integrityOnly then
          some { security := .integrityOnly version, topology, transportName := "scg-tls-integrity" }
        else if s.protocol.mutualAuth then
          some
            { security := .mtls version ktls
              topology
              transportName := if ktls then "scg-ktls-mtls" else "scg-mtls" }
        else
          some
            { security := .tls version ktls
              topology
              transportName := if ktls then "scg-ktls" else "scg-tls" }
    | .custom => some { security := .custom, topology, transportName := "scg-custom" }
    | _ => none

def gatewayPlan (s : Scenario) : Option GatewayPlan :=
  if s.gateway.enabled = false then none
  else
    let topology : GatewayTopology :=
      match s.gateway.chain with
      | .scgDirect => .singleGateway
      | .scgScg => .scgToScg
    if s.streams ≠ [] then
      some { security := resolveSecurity s, topology, transportName := "scg-multistream" }
    else
      match s.sender with
      | none => none
      | some sender =>
          if s.protocol.kind = .dtls then
            if sender.interface ≠ .udp then none
            else
              let mutualAuth := s.protocol.mutualAuth
              some
                { security := .dtls (dtlsVersion s.protocol.version) mutualAuth
                  topology
                  transportName := if mutualAuth then "scg-dtls-mtls" else "scg-dtls" }
          else
            match sender.interface with
            | .unix => some { security := resolveSecurity s, topology, transportName := "scg-uds" }
            | .shm => some { security := resolveSecurity s, topology, transportName := "scg-shm" }
            | .tproxy =>
                some { security := resolveSecurity s, topology, transportName := "scg-tproxy" }
            | .udp =>
                if s.protocol.kind = .tls then tunnelPlan s topology
                else if s.protocol.kind = .none ∨ s.protocol.protectionMode = .routingOnly then
                  some { security := .routingUdp, topology, transportName := "scg-udp-routing" }
                else if s.protocol.kind = .custom then
                  some { security := .custom, topology, transportName := "scg-custom-udp" }
                else none
            | .tcp => tcpPlan s topology

namespace GatewayPlan

def isUdp (plan : GatewayPlan) : Bool :=
  (match plan.security with
    | .dtls _ _ => true
    | _ => false) ||
    plan.transportName = "scg-udp-routing" || plan.transportName = "scg-custom-udp"

def isAleRaw (plan : GatewayPlan) : Bool :=
  plan.transportName = "scg-udp-ale" || plan.transportName = "scg-udp-raw"

end GatewayPlan

/-- The hot reloads whose gateway opens endpoints while it runs. -/
def needsManagementEndpoint (action : ReloadAction) : Bool :=
  action = .addConnection ∨ action = .removeConnection

inductive RunMode where
  | throughput
  | pingPong
  | connrate
  deriving DecidableEq, Repr

/-- Durations are in seconds. -/
structure RunParams where
  messageBytes : UInt32
  connections : Nat
  runs : Nat
  warmup : UInt64
  measure : UInt64
  cooldown : UInt64
  removeOutliers : Bool
  sender : Sender
  mode : RunMode
  deriving DecidableEq, Repr

def defaultMessageBytes : UInt32 := 1024

def scenarioRuns (s : Scenario) (d : Defaults) : UInt32 := s.runs.getD d.runs

/-- The parameters of a scenario that has a sender. -/
def buildRunParams (s : Scenario) (d : Defaults) (sender : Sender) : RunParams where
  messageBytes := max (s.messageSizeBytes.getD defaultMessageBytes) (UInt32.ofNat headerLen)
  connections := max s.connections.toNat 1
  runs := max (scenarioRuns s d).toNat 1
  warmup := s.warmupSecs.getD d.warmupSecs
  measure := max (s.durationSecs.getD d.durationSecs) 1
  cooldown := s.cooldownSecs.getD d.cooldownSecs
  removeOutliers := d.outlierRemoval = .iqr
  sender
  mode :=
    match s.mode with
    | .throughput => .throughput
    | .pingpong => .pingPong
    | .connrate => .connrate

/-- A comparison run paces its sender at the rate of its group. -/
def RunParams.atRate (params : RunParams) : Option ℚ → RunParams
  | none => params
  | some rateMbps =>
      { params with
        sender :=
          { params.sender with
            pattern := .sustained, rateLimitMbps := some rateMbps, intervalUs := none } }

/-- The topologies `run_gateway_scenario` does not skip. -/
def TopologyMode.supported : TopologyMode → Bool
  | .loopback => true
  | .veth => true
  | .netns => true
  | _ => false

/-- The parameters of a scenario whose throughput runs `run_config` drives through the
gateway's UDP transport. Other modes need a transport that echoes or reconnects, which
this one does not. -/
def udpGatewayParams (s : Scenario) (d : Defaults) (comparisonRate : Option ℚ) :
    Option RunParams :=
  if s.enabled ∧ s.streams = [] ∧ s.reloadEvent = none ∧ s.mode = .throughput ∧
      TopologyMode.supported s.topology.mode ∧
      (gatewayPlan s).any fun plan => plan.isUdp || plan.isAleRaw then
    s.sender.map fun sender => (buildRunParams s d sender).atRate comparisonRate
  else none

theorem RunParams.atRate_kept (params : RunParams) (rate : Option ℚ) :
    (params.atRate rate).messageBytes = params.messageBytes ∧
      (params.atRate rate).connections = params.connections := by
  cases rate <;> exact ⟨rfl, rfl⟩

/-- Validation and planning leave the number of connections as the document has it. -/
theorem udpGatewayParams_spec {s : Scenario} {d : Defaults} {rate : Option ℚ} {params : RunParams}
    (driven : udpGatewayParams s d rate = some params) :
    24 ≤ params.messageBytes.toNat ∧ params.connections = max s.connections.toNat 1 := by
  unfold udpGatewayParams at driven
  split at driven
  · obtain ⟨sender, -, rfl⟩ := Option.map_eq_some_iff.mp driven
    obtain ⟨bytes, connections⟩ := (buildRunParams s d sender).atRate_kept rate
    rw [bytes, connections]
    refine ⟨?_, rfl⟩
    change 24 ≤ (clampedSize (s.messageSizeBytes.getD defaultMessageBytes)).toNat
    rw [clampedSize_toNat]
    exact Nat.le_max_right _ _
  · simp at driven

end Seshat.Commands
