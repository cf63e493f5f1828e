import Seshat.Commands.GatewayPlan
import Seshat.Gateway.Ports
import Seshat.Gateway.SecuritySpec
import Mathlib.Tactic.Common

/-! The path builders: the rule pairs of a secured path, and the gateway processes that
serve them. -/

namespace Seshat.Gateway
open Config Lib.Objects
open Commands (GatewayTopology)

structure NamedGateway where
  label : String
  config : GatewayConfig

structure PathPlan where
  ingressAddr : String
  backendAddr : String
  gateways : List NamedGateway

def PathPlan.rules (plan : PathPlan) : List RuleConfig :=
  plan.gateways.flatMap fun gateway => gateway.config.rules

/-- The protocols of a rule, where a path has different ones for its directions. -/
def directionProtos (rule : RuleConfig) (listen upstream : Option String) : RuleConfig :=
  (rule.whenSet listen .withListenProto).whenSet upstream .withUpstreamProto

def buildRulePair (spec : SecuritySpec) (encryptName decryptName ingress mid backendAddr : String) :
    RuleConfig × RuleConfig :=
  (directionProtos (spec.applyEncrypt (.new encryptName "encrypt" ingress mid))
      spec.encryptListenProto spec.encryptUpstreamProto,
    directionProtos (spec.applyDecrypt (.new decryptName "decrypt" mid backendAddr))
      spec.decryptListenProto spec.decryptUpstreamProto)

def gatewaysForTopology (topology : GatewayTopology) (encrypts decrypts : List RuleConfig)
    (connections : UInt64) : List NamedGateway :=
  let named (label : String) (rules : List RuleConfig) : NamedGateway :=
    { label
      config :=
        (((GatewayConfig.new rules).withLogLevel "info").allowAll).poolForConnections connections }
  match topology with
  | .singleGateway => [named "scg" (encrypts ++ decrypts)]
  | .scgToScg => [named "scg-a" encrypts, named "scg-b" decrypts]

/-- The plaintext ingress of a path and the address between its two rules. -/
def reserveEnds (host : Host) (family : AddressFamily) (ports : Ports) :
    Except String ((String × String) × Ports) :=
  match reserveLocalPortFor host family ports with
  | .error reason => .error reason
  | .ok (ingress, ports) =>
      match reserveLocalPortFor host family ports with
      | .error reason => .error reason
      | .ok (mid, ports) => .ok ((family.loopbackSocket ingress, family.loopbackSocket mid), ports)

def buildPath (host : Host) (ports : Ports) (spec : SecuritySpec) (topology : GatewayTopology)
    (backendAddr : String) (connections : UInt64) : Except String (PathPlan × Ports) :=
  match reserveEnds host spec.addressFamily ports with
  | .error reason => .error reason
  | .ok ((ingress, mid), ports) =>
      let pair := buildRulePair spec "seshat-encrypt" "seshat-decrypt" ingress mid backendAddr
      let gateways := gatewaysForTopology topology [pair.1] [pair.2] connections
      .ok ({ ingressAddr := ingress, backendAddr, gateways }, ports)

structure ClassPath where
  label : String
  ingressAddr : String
  backendAddr : String

structure MultiClassPathPlan where
  paths : List ClassPath
  gateways : List NamedGateway

/-- The paths of the classes with their rule pairs, one class after another. -/
def classPairs (host : Host) (spec : SecuritySpec) :
    List (String × String) → Ports →
      Except String (List (ClassPath × RuleConfig × RuleConfig) × Ports)
  | [], ports => .ok ([], ports)
  | (label, backendAddr) :: later, ports =>
      match reserveEnds host spec.addressFamily ports with
      | .error reason => .error reason
      | .ok ((ingress, mid), ports) =>
          let pair := buildRulePair (spec.withTrafficClass label) ("seshat-encrypt-" ++ label)
            ("seshat-decrypt-" ++ label) ingress mid backendAddr
          match classPairs host spec later ports with
          | .error reason => .error reason
          | .ok (built, ports) =>
              .ok (({ label, ingressAddr := ingress, backendAddr }, pair) :: built, ports)

def buildMultiClassPath (host : Host) (ports : Ports) (spec : SecuritySpec) (topology : GatewayTopology)
    (classBackends : List (String × String)) (connections : UInt64) :
    Except String (MultiClassPathPlan × Ports) :=
  if classBackends.isEmpty then .error "multi-class path needs at least one traffic class"
  else
    match classPairs host spec classBackends ports with
    | .error reason => .error reason
    | .ok (built, ports) =>
        .ok
          ({ paths := built.map fun entry => entry.1
             gateways := gatewaysForTopology topology (built.map fun entry => entry.2.1)
               (built.map fun entry => entry.2.2) connections },
            ports)

theorem gatewaysForTopology_rules (topology : GatewayTopology) (encrypts decrypts : List RuleConfig)
    (connections : UInt64) :
    ((gatewaysForTopology topology encrypts decrypts connections).flatMap fun gateway =>
      gateway.config.rules) = encrypts ++ decrypts := by
  cases topology with
  | singleGateway => exact List.append_nil _
  | scgToScg =>
      change encrypts ++ (decrypts ++ []) = encrypts ++ decrypts
      rw [List.append_nil]

/-- A path of its class and the rule pair between its two addresses. -/
def ClassPath.Serves (path : ClassPath) (spec : SecuritySpec) (pair : RuleConfig × RuleConfig) :
    Prop :=
  ∃ mid, pair = buildRulePair (spec.withTrafficClass path.label) ("seshat-encrypt-" ++ path.label)
    ("seshat-decrypt-" ++ path.label) path.ingressAddr mid path.backendAddr

theorem classPairs_serve {host : Host} {spec : SecuritySpec} {classes : List (String × String)}
    {ports last : Ports} {built : List (ClassPath × RuleConfig × RuleConfig)}
    (reserved : classPairs host spec classes ports = .ok (built, last)) :
    (built.map fun entry => (entry.1.label, entry.1.backendAddr)) = classes ∧
      ∀ entry ∈ built, entry.1.Serves spec entry.2 := by
  induction classes generalizing ports last built with
  | nil =>
      cases reserved
      exact ⟨rfl, fun entry member => absurd member List.not_mem_nil⟩
  | cons first later ih =>
      unfold classPairs at reserved
      split at reserved
      · cases reserved
      · next ingress mid ports ends =>
          dsimp only at reserved
          split at reserved
          · cases reserved
          · next rest ports' later_reserved =>
              obtain ⟨classes, serve⟩ := ih later_reserved
              cases reserved
              refine ⟨by rw [List.map_cons, classes], fun entry member => ?_⟩
              rcases List.mem_cons.mp member with rfl | member
              · exact ⟨mid, rfl⟩
              · exact serve entry member

theorem directionProtos_endpoint (rule : RuleConfig) (listen upstream : Option String) :
    (directionProtos rule listen upstream).endpoint = rule.endpoint := by
  cases listen <;> cases upstream <;> rfl

/-- A rule that hands the parameters of a custom provider on: some settings are written over
them, and next to the fields every rule of the specification has it has some more. -/
structure PassesOn (spec : SecuritySpec) (settings : List (String × Json)) (more : List String)
    (rule : RuleConfig) : Prop where
  params : ∀ key value, spec.extraParams[key]? = some value →
    ∃ found, rule.providerParams[key]? = some found ∧
      (found = value ↔ ∀ other, (key, other) ∈ settings → other = value)
  own : ∀ key, key ∈ rule.ownKeys ↔ key ∈ spec.ruleKeys ∨ key ∈ more

/-- Whether such a rule carries a parameter is decided by the keys of its fields and the
settings. -/
theorem PassesOn.carries_iff {spec : SecuritySpec} {settings : List (String × Json)}
    {more : List String} {rule : RuleConfig} (passes : PassesOn spec settings more rule)
    {key : String} {value : Json} (mapped : spec.extraParams[key]? = some value) :
    Carries rule.serialize key value ↔
      (key ∉ spec.ruleKeys ∧ key ∉ more) ∧ ∀ other, (key, other) ∈ settings → other = value := by
  obtain ⟨found, present, same⟩ := passes.params key value mapped
  rw [RuleConfig.carries_iff present, same, passes.own, not_or]

section Pair
variable (spec : SecuritySpec) (encryptName decryptName ingress mid backendAddr : String)

end Pair

end Seshat.Gateway
