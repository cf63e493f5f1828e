import Seshat.Gateway.PathBuilder
import Seshat.Lib.Counting
import Seshat.Lib.Infix
import Mathlib.Data.List.Perm.Basic
import Mathlib.Data.List.Flatten
import Mathlib.Tactic.Common

/-! The wiring of a multi-class path: which rules serve a class, where they lead, and on which
gateway they are. -/

namespace Seshat.Config.AddressFamily
open Lib.Infix

/-- What stands in front of the port. -/
def socketHost : AddressFamily → String
  | .ipv4 => "127.0.0.1" ++ ":"
  | .ipv6 => "[" ++ "::1" ++ "]:"

theorem loopbackSocket_eq (family : AddressFamily) (port : UInt16) :
    family.loopbackSocket port = family.socketHost ++ toString port.toNat := by
  unfold loopbackSocket joinHostPort
  cases family with
  | ipv4 =>
      have bare : ¬(loopbackHost .ipv4).toList.contains ':' := by decide +kernel
      rw [if_neg (not_and_of_not_left _ bare)]
      rfl
  | ipv6 =>
      have colons : (loopbackHost .ipv6).toList.contains ':' ∧
          (loopbackHost .ipv6).toList.head? ≠ some '[' := by decide +kernel
      rw [if_pos colons]
      rfl

theorem loopbackSocket_injective (family : AddressFamily) :
    Function.Injective family.loopbackSocket := by
  intro first second same
  rw [loopbackSocket_eq, loopbackSocket_eq] at same
  have chars := congrArg String.toList same
  rw [String.toList_append, String.toList_append, List.append_cancel_left_eq] at chars
  have digits : Nat.toDigits 10 first.toNat = Nat.toDigits 10 second.toNat :=
    Nat.toList_repr.symm.trans (chars.trans Nat.toList_repr)
  exact UInt16.toNat_inj.mp (toDigits_injective digits)

end Seshat.Config.AddressFamily

namespace Seshat.Gateway
open Config
open Commands (GatewayTopology)

def MultiClassPathPlan.rules (plan : MultiClassPathPlan) : List RuleConfig :=
  plan.gateways.flatMap fun gateway => gateway.config.rules

/-- The rules of a direction that carry a class. -/
def rulesOf (direction label : String) (rules : List RuleConfig) : List RuleConfig :=
  rules.filter fun rule => rule.direction = direction ∧ rule.trafficClass = label

/-- A class has one rule of each direction, and they lead from its ingress to its backend. -/
def Tunnel (rules : List RuleConfig) (path : ClassPath) : Prop :=
  ∃ encrypt decrypt, rulesOf "encrypt" path.label rules = [encrypt] ∧
    rulesOf "decrypt" path.label rules = [decrypt] ∧
    encrypt.listenAddr = path.ingressAddr ∧ encrypt.upstreamAddr = decrypt.listenAddr ∧
    decrypt.upstreamAddr = path.backendAddr

/-- How many gateway processes there are. -/
def nodeCount : GatewayTopology → Nat
  | .singleGateway => 1
  | .scgToScg => 2

/-- The wiring of a plan for the given classes. -/
structure MultiClassPathPlan.Wired (plan : MultiClassPathPlan) (topology : GatewayTopology)
    (classBackends : List (String × String)) : Prop where
  classes : (plan.paths.map fun path => (path.label, path.backendAddr)) = classBackends
  tunnels : ∀ path ∈ plan.paths, Tunnel plan.rules path
  only : plan.rules.length = 2 * classBackends.length
  listens : (plan.rules.map fun rule => rule.listenAddr).Nodup
  nodes : plan.gateways.length = nodeCount topology
  first : ∀ node ∈ plan.gateways.tail, ∀ rule ∈ node.config.rules, rule.direction ≠ "encrypt"

/-! The rules of a pair. -/

theorem directionProtos_trafficClass (rule : RuleConfig) (listen upstream : Option String) :
    (directionProtos rule listen upstream).trafficClass = rule.trafficClass := by
  cases listen <;> cases upstream <;> rfl

theorem commonFields_trafficClass (spec : SecuritySpec) (rule : RuleConfig) :
    (spec.commonFields rule).trafficClass = spec.trafficClass := by
  unfold SecuritySpec.commonFields RuleConfig.whenSet
  cases spec.protocolVersion <;> cases spec.appProtocol <;> rfl

section Pair

variable (spec : SecuritySpec) (encryptName decryptName ingress mid backendAddr : String)

theorem pair_trafficClass :
    (buildRulePair spec encryptName decryptName ingress mid backendAddr).1.trafficClass =
      spec.trafficClass ∧
    (buildRulePair spec encryptName decryptName ingress mid backendAddr).2.trafficClass =
      spec.trafficClass := by
  have encrypt := congrArg RuleConfig.trafficClass
    (spec.applyEncrypt_bare (.new encryptName "encrypt" ingress mid))
  have decrypt := congrArg RuleConfig.trafficClass
    (spec.applyDecrypt_bare (.new decryptName "decrypt" mid backendAddr))
  exact ⟨(directionProtos_trafficClass _ _ _).trans
      (encrypt.trans (commonFields_trafficClass spec _)),
    (directionProtos_trafficClass _ _ _).trans
      (decrypt.trans (commonFields_trafficClass spec _))⟩

theorem pair_endpoints :
    (buildRulePair spec encryptName decryptName ingress mid backendAddr).1.endpoint =
      ⟨encryptName, "encrypt", ingress, mid, none, []⟩ ∧
    (buildRulePair spec encryptName decryptName ingress mid backendAddr).2.endpoint =
      ⟨decryptName, "decrypt", mid, backendAddr, none, []⟩ :=
  ⟨(directionProtos_endpoint _ _ _).trans (spec.applyEncrypt_endpoint _),
    (directionProtos_endpoint _ _ _).trans (spec.applyDecrypt_endpoint _)⟩

end Pair

/-! The addresses of a path are those of the ports reserved for it. -/

theorem reservations_cons {host : Host} {family : AddressFamily} {later : List AddressFamily}
    {ports last : Ports} {reserved : List UInt16}
    (run : reservations host (family :: later) ports = .ok (reserved, last)) :
    ∃ port ports' rest, reserveLocalPortFor host family ports = .ok (port, ports') ∧
      reservations host later ports' = .ok (rest, last) ∧ reserved = port :: rest := by
  unfold reservations at run
  split at run
  · cases run
  · next port ports' taken =>
      split at run
      · cases run
      · next rest last' later_run =>
          cases run
          exact ⟨port, ports', rest, taken, later_run, rfl⟩

theorem reservations_ends {host : Host} {family : AddressFamily} {later : List AddressFamily}
    {ports last : Ports} {reserved : List UInt16}
    (run : reservations host (family :: family :: later) ports = .ok (reserved, last)) :
    ∃ ingress mid ports' rest,
      reserveEnds host family ports =
        .ok ((family.loopbackSocket ingress, family.loopbackSocket mid), ports') ∧
      reservations host later ports' = .ok (rest, last) ∧ reserved = ingress :: mid :: rest := by
  obtain ⟨ingress, between, behind, first, behind_run, rfl⟩ := reservations_cons run
  obtain ⟨mid, ports', rest, second, rest_run, rfl⟩ := reservations_cons behind_run
  refine ⟨ingress, mid, ports', rest, ?_, rest_run, rfl⟩
  unfold reserveEnds
  rw [first]
  dsimp only
  rw [second]

/-- The addresses a class listens on. -/
def listenPair (entry : ClassPath × RuleConfig × RuleConfig) : List String :=
  [entry.2.1.listenAddr, entry.2.2.listenAddr]

theorem classPairs_reserved {host : Host} {spec : SecuritySpec} {classes : List (String × String)}
    {ports last : Ports} {reserved : List UInt16}
    (run : reservations host (List.replicate (2 * classes.length) spec.addressFamily) ports =
      .ok (reserved, last)) :
    ∃ pairs, classPairs host spec classes ports = .ok (pairs, last) ∧
      pairs.flatMap listenPair = reserved.map spec.addressFamily.loopbackSocket := by
  induction classes generalizing ports reserved with
  | nil =>
      cases run
      exact ⟨[], rfl, rfl⟩
  | cons first later ih =>
      obtain ⟨ingress, mid, ports', rest, ends, rest_run, rfl⟩ := reservations_ends run
      obtain ⟨pairs, built, listens⟩ := ih rest_run
      unfold classPairs
      rw [ends]
      dsimp only
      rw [built]
      refine ⟨_, rfl, ?_⟩
      obtain ⟨encrypt, decrypt⟩ := pair_endpoints (spec.withTrafficClass first.1)
        ("seshat-encrypt-" ++ first.1) ("seshat-decrypt-" ++ first.1)
        (spec.addressFamily.loopbackSocket ingress) (spec.addressFamily.loopbackSocket mid) first.2
      rw [List.flatMap_cons, listens]
      exact congrArg₂
        (fun ingress mid => [ingress, mid] ++ rest.map spec.addressFamily.loopbackSocket)
        (congrArg RuleConfig.Endpoint.listenAddr encrypt)
        (congrArg RuleConfig.Endpoint.listenAddr decrypt)

/-! One class, one rule. -/

/-- A pair of rules that carries the class of a path from its ingress to its backend. -/
structure ClassPath.Leads (path : ClassPath) (pair : RuleConfig × RuleConfig) : Prop where
  encrypts : pair.1.direction = "encrypt"
  decrypts : pair.2.direction = "decrypt"
  encryptClass : pair.1.trafficClass = path.label
  decryptClass : pair.2.trafficClass = path.label
  ingress : pair.1.listenAddr = path.ingressAddr
  between : pair.1.upstreamAddr = pair.2.listenAddr
  backend : pair.2.upstreamAddr = path.backendAddr

theorem ClassPath.Serves.leads {path : ClassPath} {spec : SecuritySpec}
    {pair : RuleConfig × RuleConfig} (serves : path.Serves spec pair) : path.Leads pair := by
  obtain ⟨mid, rfl⟩ := serves
  obtain ⟨encrypt, decrypt⟩ := pair_endpoints (spec.withTrafficClass path.label)
    ("seshat-encrypt-" ++ path.label) ("seshat-decrypt-" ++ path.label) path.ingressAddr mid
    path.backendAddr
  obtain ⟨encryptClass, decryptClass⟩ := pair_trafficClass (spec.withTrafficClass path.label)
    ("seshat-encrypt-" ++ path.label) ("seshat-decrypt-" ++ path.label) path.ingressAddr mid
    path.backendAddr
  exact
    { encrypts := congrArg RuleConfig.Endpoint.direction encrypt
      decrypts := congrArg RuleConfig.Endpoint.direction decrypt
      encryptClass
      decryptClass
      ingress := congrArg RuleConfig.Endpoint.listenAddr encrypt
      between := (congrArg RuleConfig.Endpoint.upstreamAddr encrypt).trans
        (congrArg RuleConfig.Endpoint.listenAddr decrypt).symm
      backend := congrArg RuleConfig.Endpoint.upstreamAddr decrypt }

theorem rulesOf_append (direction label : String) (first second : List RuleConfig) :
    rulesOf direction label (first ++ second) =
      rulesOf direction label first ++ rulesOf direction label second := List.filter_append _ _

theorem rulesOf_other {direction other : String} (apart : other ≠ direction) (label : String)
    {rules : List RuleConfig} (all : ∀ rule ∈ rules, rule.direction = other) :
    rulesOf direction label rules = [] := by
  refine List.filter_eq_nil_iff.mpr fun rule member found => apart ?_
  rw [← all rule member]
  exact (of_decide_eq_true found).1

section Paths

variable {pairs : List (ClassPath × RuleConfig × RuleConfig)}

/-- The rules of one side of the paths. -/
theorem rulesOf_side {direction : String} (side : RuleConfig × RuleConfig → RuleConfig)
    (distinct : (pairs.map fun entry => entry.1.label).Nodup)
    (all : ∀ entry ∈ pairs, (side entry.2).direction = direction ∧
      (side entry.2).trafficClass = entry.1.label)
    {entry : ClassPath × RuleConfig × RuleConfig} (member : entry ∈ pairs) :
    rulesOf direction entry.1.label (pairs.map fun entry => side entry.2) = [side entry.2] := by
  unfold rulesOf
  rw [List.filter_map]
  have same : pairs.filter ((fun rule : RuleConfig =>
      decide (rule.direction = direction ∧ rule.trafficClass = entry.1.label)) ∘
        fun entry => side entry.2) =
      pairs.filter fun other => other.1.label = entry.1.label := by
    refine List.filter_congr fun other found => ?_
    obtain ⟨directed, labelled⟩ := all other found
    simp only [Function.comp, directed, labelled, true_and]
  rw [same, Lib.Counting.filter_key_eq distinct member]
  rfl

/-- Every path of a list with different classes is a tunnel of their rules. -/
theorem tunnel_of_leads (leads : ∀ entry ∈ pairs, entry.1.Leads entry.2)
    (distinct : (pairs.map fun entry => entry.1.label).Nodup)
    {entry : ClassPath × RuleConfig × RuleConfig} (member : entry ∈ pairs) :
    Tunnel ((pairs.map fun entry => entry.2.1) ++ (pairs.map fun entry => entry.2.2)) entry.1 := by
  have encrypts := rulesOf_side Prod.fst distinct
    (fun other found => ⟨(leads other found).encrypts, (leads other found).encryptClass⟩) member
  have decrypts := rulesOf_side Prod.snd distinct
    (fun other found => ⟨(leads other found).decrypts, (leads other found).decryptClass⟩) member
  have lead := leads entry member
  refine ⟨entry.2.1, entry.2.2, ?_, ?_, lead.ingress, lead.between, lead.backend⟩
  · rw [rulesOf_append, encrypts, rulesOf_other (by decide : "decrypt" ≠ "encrypt"),
      List.append_nil]
    exact List.forall_mem_map.mpr fun other found => (leads other found).decrypts
  · rw [rulesOf_append, decrypts, rulesOf_other (by decide : "encrypt" ≠ "decrypt"),
      List.nil_append]
    exact List.forall_mem_map.mpr fun other found => (leads other found).encrypts

/-- The rules of the paths, direction by direction or path by path. -/
theorem rules_perm : ((pairs.map fun entry => entry.2.1) ++ (pairs.map fun entry => entry.2.2)).Perm
    (pairs.flatMap fun entry => [entry.2.1, entry.2.2]) := by
  have merged := List.map_append_flatMap_perm pairs (fun entry => entry.2.1)
    fun entry => [entry.2.2]
  rwa [← List.map_eq_flatMap] at merged

end Paths

/-! The plan. -/

section Plan

variable {host : Host} {ports last : Ports} {spec : SecuritySpec} {topology : GatewayTopology}
  {classBackends : List (String × String)} {connections : UInt64}
  {pairs : List (ClassPath × RuleConfig × RuleConfig)}

/-- The plan of some paths and their rule pairs. -/
def planOf (topology : GatewayTopology) (connections : UInt64)
    (pairs : List (ClassPath × RuleConfig × RuleConfig)) : MultiClassPathPlan where
  paths := pairs.map fun entry => entry.1
  gateways := gatewaysForTopology topology (pairs.map fun entry => entry.2.1)
    (pairs.map fun entry => entry.2.2) connections

theorem buildMultiClassPath_eq (nonempty : classBackends ≠ [])
    (built : classPairs host spec classBackends ports = .ok (pairs, last)) :
    buildMultiClassPath host ports spec topology classBackends connections =
      .ok (planOf topology connections pairs, last) := by
  unfold buildMultiClassPath
  rw [if_neg (by simpa using nonempty), built]
  rfl

theorem planOf_rules : (planOf topology connections pairs).rules =
    (pairs.map fun entry => entry.2.1) ++ (pairs.map fun entry => entry.2.2) :=
  gatewaysForTopology_rules _ _ _ _

/-- A second gateway has decrypt rules only. -/
theorem planOf_first (leads : ∀ entry ∈ pairs, entry.1.Leads entry.2) :
    ∀ node ∈ (planOf topology connections pairs).gateways.tail,
      ∀ rule ∈ node.config.rules, rule.direction ≠ "encrypt" := by
  intro node behind rule member
  cases topology with
  | singleGateway => cases behind
  | scgToScg =>
      rw [List.mem_singleton.mp behind] at member
      obtain ⟨entry, found, rfl⟩ := List.mem_map.mp member
      rw [(leads entry found).decrypts]
      decide

theorem planOf_wired
    (classes : (pairs.map fun entry => (entry.1.label, entry.1.backendAddr)) = classBackends)
    (leads : ∀ entry ∈ pairs, entry.1.Leads entry.2)
    (distinct : (pairs.map fun entry => entry.1.label).Nodup)
    (listens : (pairs.flatMap listenPair).Nodup) :
    (planOf topology connections pairs).Wired topology classBackends where
  classes := List.map_map.trans classes
  tunnels := by
    rw [planOf_rules]
    exact List.forall_mem_map.mpr fun entry member => tunnel_of_leads leads distinct member
  only := by
    rw [planOf_rules, List.length_append, List.length_map, List.length_map, ← classes,
      List.length_map]
    omega
  listens := by
    rw [planOf_rules]
    refine (rules_perm.map _).nodup_iff.mpr ?_
    rw [List.map_flatMap]
    exact listens
  nodes := by
    cases topology with
    | singleGateway => rfl
    | scgToScg => rfl
  first := planOf_first leads

/-- For classes without duplicates whose paths get ports without duplicates, the plan is wired,
and its gateways have the rules of the pairs between them. -/
theorem buildMultiClassPath_wired {reserved : List UInt16} (nonempty : classBackends ≠ [])
    (distinct : (classBackends.map Prod.fst).Nodup)
    (run : reservations host (List.replicate (2 * classBackends.length) spec.addressFamily) ports =
      .ok (reserved, last))
    (apart : reserved.Nodup) :
    ∃ plan pairs,
      buildMultiClassPath host ports spec topology classBackends connections = .ok (plan, last) ∧
      classPairs host spec classBackends ports = .ok (pairs, last) ∧
      plan.rules.Perm (pairs.flatMap fun entry => [entry.2.1, entry.2.2]) ∧
      plan.Wired topology classBackends := by
  obtain ⟨pairs, built, listens⟩ := classPairs_reserved run
  obtain ⟨classes, serve⟩ := classPairs_serve built
  have labels : (pairs.map fun entry => entry.1.label).Nodup := by
    rw [← classes, List.map_map] at distinct
    exact distinct
  refine ⟨_, pairs, buildMultiClassPath_eq nonempty built, built, planOf_rules ▸ rules_perm,
    planOf_wired classes (fun entry member => (serve entry member).leads) labels ?_⟩
  rw [listens]
  exact apart.map spec.addressFamily.loopbackSocket_injective

end Plan

theorem buildMultiClassPath_wired_two : ∃ plan last,
    buildMultiClassPath idleHost { next := 7 } .routingTcp .scgToScg
      [("safety", "127.0.0.1:65012"), ("normal", "127.0.0.1:65013")] 2 = .ok (plan, last) ∧
    plan.Wired .scgToScg [("safety", "127.0.0.1:65012"), ("normal", "127.0.0.1:65013")] := by
  have free : idleHost.Free := fun _ _ _ => rfl
  obtain ⟨last, run⟩ := reservations_free free (List.replicate 4 .ipv4) { next := 7 }
  have apart : (handedOut 7 4).Nodup := by decide
  obtain ⟨plan, pairs, built, -, -, wired⟩ := @buildMultiClassPath_wired idleHost { next := 7 } last
    .routingTcp .scgToScg [("safety", "127.0.0.1:65012"), ("normal", "127.0.0.1:65013")] 2
    (handedOut 7 4) (by decide) (by decide) run apart
  exact ⟨plan, last, built, wired⟩

end Seshat.Gateway
