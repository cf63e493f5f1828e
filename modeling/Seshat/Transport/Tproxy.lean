import Seshat.Gateway.PathWiring
import Seshat.Lib.Hops
import Seshat.Lib.Steps
import Mathlib.Tactic.Common

/-! The TPROXY path: a target port whose connections the packet rules hand over to the
transparent listener of a gateway, and the plan of the gateways behind it. -/

namespace Seshat.Transport.Tproxy
open Config Gateway
open Commands (GatewayTopology)
open Lib.Objects
open Lib.Steps (bind_ok)

def iptablesBin : AddressFamily → String
  | .ipv4 => "iptables"
  | .ipv6 => "ip6tables"

/-- The `local` route that catches every marked packet. -/
def localRoutePrefix : AddressFamily → String
  | .ipv4 => "0/0"
  | .ipv6 => "::/0"

def ipArgs : AddressFamily → List String
  | .ipv4 => []
  | .ipv6 => ["-6"]

/-- The commands behind the creation of the `DIVERT` chain. -/
def setupCommands (listenPort gatewayPort : UInt16) (family : AddressFamily) :
    List (List String) :=
  let ipt := iptablesBin family
  [["ip"] ++ ipArgs family ++ ["rule", "add", "fwmark", "1", "lookup", "100"],
    ["ip"] ++ ipArgs family ++
      ["route", "add", "local", localRoutePrefix family, "dev", "lo", "table", "100"],
    [ipt, "-t", "mangle", "-F", "DIVERT"],
    [ipt, "-t", "mangle", "-A", "DIVERT", "-j", "MARK", "--set-mark", "0x1"],
    [ipt, "-t", "mangle", "-A", "DIVERT", "-j", "ACCEPT"],
    [ipt, "-t", "mangle", "-A", "PREROUTING", "-p", "tcp", "-m", "socket", "-j", "DIVERT"],
    [ipt, "-t", "mangle", "-A", "PREROUTING", "-p", "tcp", "--dport",
      toString listenPort.toNat, "-j", "TPROXY", "--on-port", toString gatewayPort.toNat,
      "--tproxy-mark", "0x1/0x1"]]

/-- The single transparent hop of plaintext routing over one gateway. -/
def singleTransparentRoutingPlan (gwPort : UInt16) (backendAddr : String)
    (family : AddressFamily) : PathPlan :=
  let gwAddr := family.loopbackSocket gwPort
  let rule := ((RuleConfig.new "tproxy-encrypt" "encrypt" gwAddr backendAddr).security
    "routing").param "transparent" (.bool true)
  { ingressAddr := gwAddr
    backendAddr
    gateways :=
      [{ label := "scg", config := ((GatewayConfig.new [rule]).withLogLevel "info").allowAll }] }

/-- An encrypt rule listens on the transparent address instead of its own. -/
def retarget (gwAddr : String) (rule : RuleConfig) : RuleConfig :=
  if rule.direction = "encrypt" then
    { rule.param "transparent" (.bool true) with listenAddr := gwAddr }
  else rule

def NamedGateway.retarget (gwAddr : String) (node : NamedGateway) : NamedGateway :=
  { node with
    config := { node.config with rules := node.config.rules.map (Tproxy.retarget gwAddr) } }

def buildTransparentPlan (host : Host) (ports : Ports) (spec : SecuritySpec)
    (topology : GatewayTopology) (gwPort : UInt16) (backendAddr : String) (connections : UInt64) :
    Except String (PathPlan × Ports) :=
  match buildPath host ports spec topology backendAddr connections with
  | .error reason => .error reason
  | .ok (plan, ports) =>
      let gwAddr := spec.addressFamily.loopbackSocket gwPort
      if plan.rules.any fun rule => rule.direction = "encrypt" then
        .ok ({ plan with gateways := plan.gateways.map (NamedGateway.retarget gwAddr) }, ports)
      else .error "TPROXY path has no encrypt rule to make transparent"

/-- Plaintext routing over one gateway has one hop. -/
def SingleHop (spec : SecuritySpec) (topology : GatewayTopology) : Prop :=
  spec.provider = "routing" ∧ topology = .singleGateway

instance (spec : SecuritySpec) (topology : GatewayTopology) : Decidable (SingleHop spec topology) :=
  inferInstanceAs (Decidable (_ ∧ _))

/-- What `start` finds before it has a plan. -/
structure Setting where
  capNetAdmin : Bool
  workDir : Except String Unit
  bind : String → Except String Unit
  /-- The answer to the n-th command. -/
  run : Nat → List String → Except String Unit

/-- The ports and the plan of a started path, and the commands that were run for it. -/
structure Started where
  targetPort : UInt16
  gwPort : UInt16
  backendPort : UInt16
  plan : PathPlan
  commands : List (List String)

/-- The commands up to the first that fails. -/
def runCommands (setting : Setting) : Nat → List (List String) → Except String Unit
  | _, [] => .ok ()
  | turn, command :: later =>
      match setting.run turn command with
      | .error reason => .error reason
      | .ok () => runCommands setting (turn + 1) later

def setup (setting : Setting) (listenPort gatewayPort : UInt16) (family : AddressFamily) :
    Except String (List (List String)) :=
  -- the chain may be left over from an earlier run, so its creation may fail
  let create := [iptablesBin family, "-t", "mangle", "-N", "DIVERT"]
  let commands := setupCommands listenPort gatewayPort family
  match runCommands setting 1 commands with
  | .error reason => .error reason
  | .ok () => .ok (create :: commands)

/-- The plan of `start`: plaintext routing over one gateway keeps its single hop. -/
def transparentPlan (host : Host) (ports : Ports) (spec : SecuritySpec)
    (topology : GatewayTopology) (gwPort : UInt16) (backendAddr : String) (connections : UInt64) :
    Except String (PathPlan × Ports) :=
  if SingleHop spec topology then
    .ok (singleTransparentRoutingPlan gwPort backendAddr spec.addressFamily, ports)
  else buildTransparentPlan host ports spec topology gwPort backendAddr connections

/-- `start`, up to the gateways. -/
def start (setting : Setting) (host : Host) (ports : Ports) (spec : SecuritySpec)
    (topology : GatewayTopology) (connections : UInt64) : Except String (Started × Ports) := do
  let family := spec.addressFamily
  if !setting.capNetAdmin then .error "TPROXY requires CAP_NET_ADMIN — skipping"
  setting.workDir
  let (targetPort, ports) ← reserveLocalPortFor host family ports
  let (gwPort, ports) ← reserveLocalPortFor host family ports
  let (backendPort, ports) ← reserveLocalPortFor host family ports
  let backendAddr := family.loopbackSocket backendPort
  setting.bind backendAddr
  let (plan, ports) ← transparentPlan host ports spec topology gwPort backendAddr connections
  let commands ← setup setting targetPort gwPort family
  .ok ({ targetPort, gwPort, backendPort, plan, commands }, ports)

/-! Where a connection goes. -/

/-- The packet rule that hands new connections to a port over to a listener on another. -/
def handOver (family : AddressFamily) (port onPort : String) : List String :=
  [iptablesBin family, "-t", "mangle", "-A", "PREROUTING", "-p", "tcp", "--dport", port, "-j",
    "TPROXY", "--on-port", onPort, "--tproxy-mark", "0x1/0x1"]

/-- What a transparent listener needs: marked packets are routed locally, those of established
connections are marked and accepted, and then the new ones are handed over. -/
structure SetUp (family : AddressFamily) (commands : List (List String)) (port onPort : String) :
    Prop where
  policy : ["ip"] ++ ipArgs family ++ ["rule", "add", "fwmark", "1", "lookup", "100"] ∈ commands
  route : ["ip"] ++ ipArgs family ++ ["route", "add", "local", localRoutePrefix family, "dev", "lo",
    "table", "100"] ∈ commands
  chain : [[iptablesBin family, "-t", "mangle", "-F", "DIVERT"],
    [iptablesBin family, "-t", "mangle", "-A", "DIVERT", "-j", "MARK", "--set-mark", "0x1"],
    [iptablesBin family, "-t", "mangle", "-A", "DIVERT", "-j", "ACCEPT"],
    [iptablesBin family, "-t", "mangle", "-A", "PREROUTING", "-p", "tcp", "-m", "socket", "-j",
      "DIVERT"],
    handOver family port onPort] <:+ commands

/-- Where a host takes a connection to an address, once these commands have succeeded. -/
abbrev Delivery := List (List String) → String → String

/-- The host does with its packet rules what they are for, and has none left over from earlier
paths for the ports at hand. -/
structure Delivery.Transparent (delivery : Delivery) (family : AddressFamily) : Prop where
  handsOver : ∀ commands (port onPort : UInt16),
    SetUp family commands (toString port.toNat) (toString onPort.toNat) →
    delivery commands (family.loopbackSocket port) = family.loopbackSocket onPort
  passes : ∀ commands (port : UInt16),
    (∀ onPort, handOver family (toString port.toNat) onPort ∉ commands) →
    delivery commands (family.loopbackSocket port) = family.loopbackSocket port

/-- The way from an address over the gateways of a started path. -/
abbrev Started.Leads (started : Started) (delivery : Delivery) :
    String → List RuleConfig → String → Prop :=
  Lib.Hops.Leads (delivery started.commands) RuleConfig.listenAddr RuleConfig.upstreamAddr
    started.plan.rules

/-- A connection to the target port passes every rule once, the transparent one first, ends at
the backend, and has no other way; behind the first rule nothing is redirected again. -/
structure Started.Routed (started : Started) (delivery : Delivery) (family : AddressFamily)
    (topology : GatewayTopology) : Prop where
  leads : started.Leads delivery (family.loopbackSocket started.targetPort) started.plan.rules
    (family.loopbackSocket started.backendPort)
  only : ∀ row last, started.Leads delivery (family.loopbackSocket started.targetPort) row last →
    row = started.plan.rules ∧ last = family.loopbackSocket started.backendPort
  onward : ∀ rule ∈ started.plan.rules,
    delivery started.commands rule.upstreamAddr = rule.upstreamAddr
  transparent : ∃ first later, started.plan.rules = first :: later ∧
    first.direction = "encrypt" ∧ Carries first.serialize "transparent" (.bool true) ∧
    ∀ rule ∈ later, rule.direction = "decrypt"
  nodes : started.plan.gateways.length = nodeCount topology

/-- The commands of a path set up its target port and no other. -/
structure Redirects (family : AddressFamily) (commands : List (List String))
    (target gw : UInt16) : Prop where
  setUp : SetUp family commands (toString target.toNat) (toString gw.toNat)
  only : ∀ port onPort, handOver family port onPort ∈ commands → port = toString target.toNat

theorem setup_ok {setting : Setting} {listenPort gatewayPort : UInt16} {family : AddressFamily}
    {commands : List (List String)}
    (ran : setup setting listenPort gatewayPort family = .ok commands) :
    Redirects family commands listenPort gatewayPort := by
  unfold setup at ran
  dsimp only at ran
  split at ran
  · cases ran
  · cases ran
    refine ⟨⟨?_, ?_, ?_⟩, fun port onPort member => ?_⟩
    · simp [setupCommands]
    · simp [setupCommands]
    · exact ⟨[[iptablesBin family, "-t", "mangle", "-N", "DIVERT"],
        ["ip"] ++ ipArgs family ++ ["rule", "add", "fwmark", "1", "lookup", "100"],
        ["ip"] ++ ipArgs family ++
          ["route", "add", "local", localRoutePrefix family, "dev", "lo", "table", "100"]], rfl⟩
    · simp only [setupCommands, handOver, List.mem_cons, List.cons.injEq, List.not_mem_nil] at member
      have both : port = toString listenPort.toNat ∧ onPort = toString gatewayPort.toNat := by
        cases family <;> simpa [ipArgs, iptablesBin] using member
      exact both.1

section Delivered

variable {delivery : Delivery} {family : AddressFamily} {commands : List (List String)}
  {target gw port : UInt16} (host : delivery.Transparent family)
  (redirects : Redirects family commands target gw)
include host redirects

theorem delivered_target :
    delivery commands (family.loopbackSocket target) = family.loopbackSocket gw :=
  host.handsOver commands target gw redirects.setUp

theorem delivered_other (apart : port ≠ target) :
    delivery commands (family.loopbackSocket port) = family.loopbackSocket port := by
  refine host.passes commands port fun onPort member => apart ?_
  refine family.loopbackSocket_injective ?_
  rw [family.loopbackSocket_eq, family.loopbackSocket_eq, redirects.only _ _ member]

end Delivered

theorem not_mem_keyWhen {key other : String} (apart : other ≠ key) (written : Bool) :
    other ∉ RuleConfig.keyWhen key written := by
  cases written with
  | false => exact List.not_mem_nil
  | true => exact fun found => apart (List.mem_singleton.mp found)

theorem transparent_not_own (rule : RuleConfig) : "transparent" ∉ rule.ownKeys := by
  rw [RuleConfig.ownKeys_eq]
  simp [not_mem_keyWhen]

theorem carries_transparent {rule : RuleConfig}
    (mapped : rule.providerParams["transparent"]? = some (.bool true)) :
    Carries rule.serialize "transparent" (.bool true) :=
  (RuleConfig.carries_iff mapped).mpr ⟨transparent_not_own rule, rfl⟩

theorem reserveEnds_ok {host : Host} {family : AddressFamily} {ports last : Ports}
    {ends : String × String} (ran : reserveEnds host family ports = .ok (ends, last)) :
    ∃ ingress mid, ends = (family.loopbackSocket ingress, family.loopbackSocket mid) ∧
      reservations host [family, family] ports = .ok ([ingress, mid], last) := by
  unfold reserveEnds at ran
  split at ran
  · cases ran
  next ingress between first =>
    split at ran
    · cases ran
    next mid behind second =>
      cases ran
      refine ⟨ingress, mid, rfl, ?_⟩
      rw [reservations, first]
      dsimp only
      rw [reservations, second]
      rfl

theorem start_ok {setting : Setting} {host : Host} {ports last : Ports} {spec : SecuritySpec}
    {topology : GatewayTopology} {connections : UInt64} {started : Started}
    (ran : start setting host ports spec topology connections = .ok (started, last)) :
    ∃ between, reservations host (List.replicate 3 spec.addressFamily) ports =
        .ok ([started.targetPort, started.gwPort, started.backendPort], between) ∧
      transparentPlan host between spec topology started.gwPort
        (spec.addressFamily.loopbackSocket started.backendPort) connections =
        .ok (started.plan, last) ∧
      setup setting started.targetPort started.gwPort spec.addressFamily =
        .ok started.commands := by
  unfold start at ran
  dsimp only at ran
  split at ran
  · cases ran
  obtain ⟨-, -, ran⟩ := bind_ok ran
  obtain ⟨⟨target, behindTarget⟩, first, ran⟩ := bind_ok ran
  obtain ⟨⟨gw, behindGw⟩, second, ran⟩ := bind_ok ran
  obtain ⟨⟨backend, behindBackend⟩, third, ran⟩ := bind_ok ran
  obtain ⟨-, -, ran⟩ := bind_ok ran
  obtain ⟨⟨plan, behindPlan⟩, planned, ran⟩ := bind_ok ran
  obtain ⟨commands, installed, ran⟩ := bind_ok ran
  cases ran
  refine ⟨behindBackend, ?_, planned, installed⟩
  simp only [List.replicate, reservations, first, second, third]

/-- The rules of a plan stand in a row from the transparent port to the backend. -/
structure Chained (plan : PathPlan) (family : AddressFamily) (topology : GatewayTopology)
    (gw : UInt16) (between : List UInt16) (backend : UInt16) : Prop where
  listens : plan.rules.map RuleConfig.listenAddr = (gw :: between).map family.loopbackSocket
  upstreams : plan.rules.map RuleConfig.upstreamAddr =
    (between ++ [backend]).map family.loopbackSocket
  transparent : ∃ first later, plan.rules = first :: later ∧
    first.direction = "encrypt" ∧ Carries first.serialize "transparent" (.bool true) ∧
    ∀ rule ∈ later, rule.direction = "decrypt"
  nodes : plan.gateways.length = nodeCount topology

theorem single_chained (gw backend : UInt16) (family : AddressFamily) :
    Chained (singleTransparentRoutingPlan gw (family.loopbackSocket backend) family) family
      .singleGateway gw [] backend where
  listens := rfl
  upstreams := rfl
  transparent := ⟨_, [], rfl, rfl, carries_transparent Std.ExtTreeMap.getElem?_insert_self,
    fun _ none => absurd none List.not_mem_nil⟩
  nodes := rfl

theorem retarget_rules (gwAddr : String) (nodes : List NamedGateway) :
    ((nodes.map (NamedGateway.retarget gwAddr)).flatMap fun node => node.config.rules) =
      (nodes.flatMap fun node => node.config.rules).map (retarget gwAddr) := by
  rw [List.flatMap_map, List.map_flatMap]
  rfl

theorem gatewaysForTopology_length (topology : GatewayTopology) (encrypts decrypts : List RuleConfig)
    (connections : UInt64) :
    (gatewaysForTopology topology encrypts decrypts connections).length = nodeCount topology := by
  cases topology <;> rfl

section Retargeted

variable {family : AddressFamily} {encrypt decrypt : RuleConfig} {encryptName decryptName : String}
  {ingressAddr : String} {gw mid backend : UInt16}

theorem retarget_pair
    (encrypts : encrypt.endpoint = ⟨encryptName, "encrypt", ingressAddr,
      family.loopbackSocket mid, none, []⟩)
    (decrypts : decrypt.endpoint = ⟨decryptName, "decrypt", family.loopbackSocket mid,
      family.loopbackSocket backend, none, []⟩) (gwAddr : String) :
    [encrypt, decrypt].map (retarget gwAddr) =
      [{ encrypt.param "transparent" (.bool true) with listenAddr := gwAddr }, decrypt] := by
  have first : encrypt.direction = "encrypt" := congrArg RuleConfig.Endpoint.direction encrypts
  have second : decrypt.direction = "decrypt" := congrArg RuleConfig.Endpoint.direction decrypts
  rw [List.map_cons, List.map_cons, List.map_nil, retarget, if_pos first, retarget,
    if_neg (by rw [second]; decide)]

/-- The encrypt rule of a built path listens on the transparent port instead of the one
reserved for it. -/
theorem retarget_chained
    (encrypts : encrypt.endpoint = ⟨encryptName, "encrypt", ingressAddr,
      family.loopbackSocket mid, none, []⟩)
    (decrypts : decrypt.endpoint = ⟨decryptName, "decrypt", family.loopbackSocket mid,
      family.loopbackSocket backend, none, []⟩) (topology : GatewayTopology)
    (connections : UInt64) :
    Chained
      { ingressAddr, backendAddr := family.loopbackSocket backend
        gateways := (gatewaysForTopology topology [encrypt] [decrypt] connections).map
          (NamedGateway.retarget (family.loopbackSocket gw)) }
      family topology gw [mid] backend := by
  have rules : PathPlan.rules
      { ingressAddr, backendAddr := family.loopbackSocket backend
        gateways := (gatewaysForTopology topology [encrypt] [decrypt] connections).map
          (NamedGateway.retarget (family.loopbackSocket gw)) } =
      [{ encrypt.param "transparent" (.bool true) with
          listenAddr := family.loopbackSocket gw }, decrypt] := by
    rw [PathPlan.rules, retarget_rules, gatewaysForTopology_rules]
    exact retarget_pair encrypts decrypts _
  have onward : encrypt.upstreamAddr = family.loopbackSocket mid :=
    congrArg RuleConfig.Endpoint.upstreamAddr encrypts
  have listen : decrypt.listenAddr = family.loopbackSocket mid :=
    congrArg RuleConfig.Endpoint.listenAddr decrypts
  have upstream : decrypt.upstreamAddr = family.loopbackSocket backend :=
    congrArg RuleConfig.Endpoint.upstreamAddr decrypts
  have second : decrypt.direction = "decrypt" := congrArg RuleConfig.Endpoint.direction decrypts
  refine ⟨?_, ?_, ⟨_, [decrypt], rules, ?_, ?_, ?_⟩, ?_⟩
  · rw [rules]
    simp only [List.map_cons, List.map_nil, listen]
  · rw [rules]
    change [encrypt.upstreamAddr, decrypt.upstreamAddr] = _
    rw [onward, upstream]
    rfl
  · exact congrArg RuleConfig.Endpoint.direction encrypts
  · exact carries_transparent Std.ExtTreeMap.getElem?_insert_self
  · exact List.forall_mem_singleton.mpr second
  · rw [List.length_map, gatewaysForTopology_length]

end Retargeted

theorem built_chained {host : Host} {ports last : Ports} {spec : SecuritySpec}
    {topology : GatewayTopology} {gw backend : UInt16} {connections : UInt64} {plan : PathPlan}
    (built : buildTransparentPlan host ports spec topology gw
      (spec.addressFamily.loopbackSocket backend) connections = .ok (plan, last)) :
    ∃ ingress mid, reservations host [spec.addressFamily, spec.addressFamily] ports =
        .ok ([ingress, mid], last) ∧
      Chained plan spec.addressFamily topology gw [mid] backend := by
  unfold buildTransparentPlan buildPath at built
  split at built
  · cases built
  next path between built_path =>
    split at built_path
    · cases built_path
    next ends behind reserved =>
      cases built_path
      obtain ⟨ingress, mid, same, run⟩ := reserveEnds_ok reserved
      cases same
      dsimp only at built
      split at built
      · cases built
        obtain ⟨encrypts, decrypts⟩ := pair_endpoints spec "seshat-encrypt" "seshat-decrypt"
          (spec.addressFamily.loopbackSocket ingress) (spec.addressFamily.loopbackSocket mid)
          (spec.addressFamily.loopbackSocket backend)
        exact ⟨ingress, mid, run, retarget_chained encrypts decrypts topology connections⟩
      · cases built

section Rows

variable {delivery : Delivery} {family : AddressFamily} {commands : List (List String)}
  {target gw : UInt16} {rules : List RuleConfig}

/-- Rules in a row pass a connection on from one to the next, up to an address on which none of
the rules listens. -/
theorem leads_row
    (host : delivery.Transparent family) (redirects : Redirects family commands target gw)
    {last : UInt16}
    (silent : ∀ rule ∈ rules, rule.listenAddr ≠ family.loopbackSocket last)
    {row : List RuleConfig} {ports : List UInt16} (inside : ∀ rule ∈ row, rule ∈ rules)
    (listens : row.map RuleConfig.listenAddr = ports.map family.loopbackSocket)
    (upstreams : row.map RuleConfig.upstreamAddr =
      (ports ++ [last]).tail.map family.loopbackSocket)
    (apart : target ∉ (ports ++ [last]).tail) {address : String}
    (arrives : delivery commands address = family.loopbackSocket (ports.headD last)) :
    Lib.Hops.Leads (delivery commands) RuleConfig.listenAddr RuleConfig.upstreamAddr
      rules address row (family.loopbackSocket last) := by
  induction row generalizing ports address with
  | nil =>
    obtain rfl : ports = [] := List.map_eq_nil_iff.mp listens.symm
    have ends := @Lib.Hops.Leads.ends _ _ (delivery commands) RuleConfig.listenAddr
      RuleConfig.upstreamAddr rules address
    rw [arrives] at ends
    exact ends silent
  | cons rule later ih =>
    cases ports with
    | nil => cases listens
    | cons port ports =>
      obtain ⟨listen, listens⟩ := List.cons.inj listens
      rw [List.cons_append, List.tail_cons] at upstreams apart
      have front : ports ++ [last] = ports.headD last :: (ports ++ [last]).tail := by
        cases ports <;> rfl
      rw [front] at upstreams apart
      obtain ⟨upstream, upstreams⟩ := List.cons.inj upstreams
      obtain ⟨next, apart⟩ := not_or.mp (mt List.mem_cons.mpr apart)
      refine .next rule (inside rule List.mem_cons_self) (listen.trans arrives.symm) ?_
      refine ih (fun rule member => inside rule (List.mem_cons_of_mem _ member)) listens upstreams
        apart ?_
      change rule.upstreamAddr = family.loopbackSocket (ports.headD last) at upstream
      rw [upstream]
      exact delivered_other host redirects (Ne.symm next)

end Rows

theorem Chained.routed {started : Started} {delivery : Delivery} {family : AddressFamily}
    {topology : GatewayTopology} {between : List UInt16} (host : delivery.Transparent family)
    (chained : Chained started.plan family topology started.gwPort between started.backendPort)
    (redirects : Redirects family started.commands started.targetPort started.gwPort)
    (apart : (started.targetPort :: started.gwPort :: started.backendPort :: between).Nodup) :
    started.Routed delivery family topology := by
  rw [List.nodup_cons, List.nodup_cons, List.nodup_cons] at apart
  obtain ⟨target, gw, backend, distinct⟩ := apart
  have onward : started.targetPort ∉ between ++ [started.backendPort] := by
    simp only [List.mem_cons, List.mem_append, List.not_mem_nil, or_false, not_or] at target ⊢
    exact ⟨target.2.2, target.2.1⟩
  have unique : (started.gwPort :: between).Nodup :=
    List.nodup_cons.mpr ⟨fun found => gw (List.mem_cons_of_mem _ found), distinct⟩
  have silent : ∀ rule ∈ started.plan.rules,
      rule.listenAddr ≠ family.loopbackSocket started.backendPort := by
    intro rule member same
    have listed : rule.listenAddr ∈ (started.gwPort :: between).map family.loopbackSocket :=
      chained.listens ▸ List.mem_map_of_mem member
    rw [same, List.mem_map_of_injective family.loopbackSocket_injective] at listed
    rcases List.mem_cons.mp listed with equal | found
    · exact gw (equal ▸ List.mem_cons_self)
    · exact backend found
  have leads := leads_row host redirects silent (fun rule member => member) chained.listens
    chained.upstreams onward (delivered_target host redirects)
  refine ⟨leads, fun row last other => ?_, ?_, chained.transparent, chained.nodes⟩
  · refine leads.unique ?_ other
    rw [chained.listens]
    exact unique.map family.loopbackSocket_injective
  · intro rule member
    have listed : rule.upstreamAddr ∈ (between ++ [started.backendPort]).map family.loopbackSocket :=
      chained.upstreams ▸ List.mem_map_of_mem member
    obtain ⟨port, found, same⟩ := List.mem_map.mp listed
    rw [← same]
    exact delivered_other host redirects fun equal => onward (equal ▸ found)

theorem transparentPlan_chained {host : Host} {ports last : Ports} {spec : SecuritySpec}
    {topology : GatewayTopology} {gw backend : UInt16} {connections : UInt64} {plan : PathPlan}
    (planned : transparentPlan host ports spec topology gw
      (spec.addressFamily.loopbackSocket backend) connections = .ok (plan, last)) :
    ∃ reserved between, reservations host
        (List.replicate (if SingleHop spec topology then 0 else 2) spec.addressFamily) ports =
        .ok (reserved, last) ∧ between.Sublist reserved ∧
      Chained plan spec.addressFamily topology gw between backend := by
  unfold transparentPlan at planned
  split at planned
  next single =>
    cases planned
    refine ⟨[], [], by rw [if_pos single]; rfl, List.Sublist.refl _, ?_⟩
    rw [single.2]
    exact single_chained gw backend _
  next crypto =>
    obtain ⟨ingress, mid, run, chained⟩ := built_chained planned
    exact ⟨[ingress, mid], [mid], by rw [if_neg crypto]; exact run, List.sublist_cons_self _ _,
      chained⟩

/-- How many ports a start reserves. -/
def reservedPorts (spec : SecuritySpec) (topology : GatewayTopology) : Nat :=
  3 + if SingleHop spec topology then 0 else 2

/-- On a host that does with the packet rules what they are for, a started path whose ports are
distinct is a way from the target port to the backend. -/
theorem start_routed {setting : Setting} {host : Host} {ports last : Ports} {spec : SecuritySpec}
    {topology : GatewayTopology} {connections : UInt64} {started : Started}
    (ran : start setting host ports spec topology connections = .ok (started, last))
    (distinct : ∀ reserved, reservations host
      (List.replicate (reservedPorts spec topology) spec.addressFamily) ports =
        .ok (reserved, last) → reserved.Nodup)
    {delivery : Delivery} (transparent : delivery.Transparent spec.addressFamily) :
    started.Routed delivery spec.addressFamily topology := by
  obtain ⟨behind, first, planned, installed⟩ := start_ok ran
  obtain ⟨reserved, between, second, inside, chained⟩ := transparentPlan_chained planned
  refine chained.routed transparent (setup_ok installed) ?_
  have run := reservations_append host (List.replicate 3 spec.addressFamily)
    (List.replicate (if SingleHop spec topology then 0 else 2) spec.addressFamily) ports
  rw [first] at run
  dsimp only at run
  rw [second, ← List.replicate_add] at run
  have all := distinct _ run
  exact all.sublist (((inside.cons_cons _).cons_cons _).cons_cons _)

instance (family : AddressFamily) (commands : List (List String)) (port onPort : String) :
    Decidable (SetUp family commands port onPort) :=
  decidable_of_iff (_ ∧ _ ∧ _) ⟨fun ⟨policy, route, chain⟩ => ⟨policy, route, chain⟩,
    fun set => ⟨set.policy, set.route, set.chain⟩⟩

/-- The ports of a packet rule that hands over. -/
def handedOver : List String → Option (String × String)
  | [_, "-t", "mangle", "-A", "PREROUTING", "-p", "tcp", "--dport", port, "-j", "TPROXY",
      "--on-port", onPort, "--tproxy-mark", _] => some (port, onPort)
  | _ => none

/-- A host whose last command hands connections over. -/
def freshHost (family : AddressFamily) : Delivery := fun commands address =>
  match commands.getLast?.bind handedOver with
  | some (port, onPort) =>
      if SetUp family commands port onPort ∧ address = family.socketHost ++ port then
        family.socketHost ++ onPort
      else address
  | none => address

theorem SetUp.getLast {family : AddressFamily} {commands : List (List String)}
    {port onPort : String} (set : SetUp family commands port onPort) :
    commands.getLast? = some (handOver family port onPort) := by
  obtain ⟨front, rfl⟩ := set.chain
  simp

theorem freshHost_transparent (family : AddressFamily) :
    (freshHost family).Transparent family where
  handsOver := by
    intro commands port onPort set
    have last : commands.getLast?.bind handedOver =
        some (toString port.toNat, toString onPort.toNat) := by
      rw [set.getLast]
      rfl
    rw [freshHost, last, family.loopbackSocket_eq port, family.loopbackSocket_eq onPort]
    exact if_pos ⟨set, rfl⟩
  passes := by
    intro commands port none
    rw [freshHost]
    split
    next target onPort last =>
      refine if_neg ?_
      rintro ⟨set, same⟩
      rw [family.loopbackSocket_eq] at same
      obtain rfl : toString port.toNat = target := String.append_right_inj _ |>.mp same
      exact none onPort (List.mem_of_getLast? set.getLast)
    next => rfl

theorem start_routed_tunnel : ∃ started last,
    start ⟨true, .ok (), fun _ => .ok (), fun _ _ => .ok ()⟩ idleHost { next := 7 } .routingTcp
      .scgToScg 2 = .ok (started, last) ∧
      started.Routed (freshHost .ipv4) .ipv4 .scgToScg := by
  have free : idleHost.Free := fun _ _ _ => rfl
  obtain ⟨started, last, ran⟩ : ∃ started last,
      start ⟨true, .ok (), fun _ => .ok (), fun _ _ => .ok ()⟩ idleHost { next := 7 } .routingTcp
        .scgToScg 2 = .ok (started, last) := ⟨_, _, rfl⟩
  refine ⟨started, last, ran,
    start_routed ran (fun reserved run => ?_) (freshHost_transparent .ipv4)⟩
  obtain ⟨after, handed⟩ := reservations_free free (List.replicate 5 .ipv4) { next := 7 }
  cases handed.symm.trans run
  decide

end Seshat.Transport.Tproxy
