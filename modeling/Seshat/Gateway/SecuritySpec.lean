import Seshat.Gateway.RuleConfig
import Mathlib.Tactic.Common

/-! The security parameters of a path, and the two functions that apply them to a rule. -/

namespace Seshat.Gateway
open Config Lib.Objects

structure Identity where
  cert : String
  key : String

structure SecuritySpec where
  provider : String
  proto : String
  protocolVersion : Option String := none
  verify : Option String := none
  serverName : Option String := none
  serverCert : Option String := none
  serverKey : Option String := none
  clientCert : Option String := none
  clientKey : Option String := none
  caCert : Option String := none
  appProtocol : Option String := none
  profile : Option String := none
  trafficClass : String := "normal"
  pskIdentity : Option String := none
  pskHex : Option String := none
  cipherList : Option String := none
  ciphersuites : Option String := none
  groups : Option String := none
  resumption : Bool := false
  encryptListenProto : Option String := none
  encryptUpstreamProto : Option String := none
  decryptListenProto : Option String := none
  decryptUpstreamProto : Option String := none
  zeroCopy : Bool := false
  spinWaitUs : UInt64 := 0
  perfProfile : Option String := none
  sockBufSize : Option UInt64 := none
  pipeSize : Option UInt64 := none
  relayBufSize : Option UInt64 := none
  notsentLowat : Option UInt64 := none
  busyPollUs : Option UInt32 := none
  bdpAdaptive : Bool := false
  bdpQueueBudgetUs : Option UInt64 := none
  simulatedDelayMs : UInt64 := 0
  addressFamily : AddressFamily := .ipv4
  extraParams : ParamMap := ∅

namespace SecuritySpec

def routingTcp : SecuritySpec where
  provider := "routing"
  proto := "tcp"

def routingUdp : SecuritySpec := { routingTcp with proto := "udp" }

def custom (provider proto : String) (params : ParamMap) : SecuritySpec :=
  { routingTcp with provider, proto, extraParams := params }

def withTrafficClass (spec : SecuritySpec) (label : String) : SecuritySpec :=
  { spec with trafficClass := label }

def withAsymmetricAle (spec : SecuritySpec) (appProto : String) : SecuritySpec :=
  { spec with
    appProtocol := some appProto
    encryptListenProto := some "udp"
    encryptUpstreamProto := some "tcp"
    decryptListenProto := some "tcp"
    decryptUpstreamProto := some "udp" }

def defaultSpinWaitUs : UInt64 := 50

/-- A bare `spin_wait` toggle asks for the default budget. -/
def spinWaitBudget (flags : OptimizationFlags) : UInt64 :=
  match flags.spinWaitUs, flags.spinWait with
  | some us, _ => us
  | none, true => defaultSpinWaitUs
  | none, false => 0

def withOptimizations (spec : SecuritySpec) (flags : OptimizationFlags) : SecuritySpec :=
  { spec with
    zeroCopy := flags.zeroCopy
    spinWaitUs := spinWaitBudget flags
    perfProfile := flags.perfProfile
    sockBufSize := flags.sockBufSize
    pipeSize := flags.pipeSize
    relayBufSize := flags.relayBufSize
    notsentLowat := flags.notsentLowat
    busyPollUs := flags.busyPollUs
    bdpAdaptive := flags.bdpAdaptive
    bdpQueueBudgetUs := flags.bdpQueueBudgetUs
    simulatedDelayMs := flags.simulatedDelayMs.getD 0 }

/-- The fields both directions take from the specification. -/
def commonFields (spec : SecuritySpec) (rule : RuleConfig) : RuleConfig :=
  (((((rule.security spec.provider).proto spec.proto).withTrafficClass spec.trafficClass).whenSet
    spec.protocolVersion .withProtocolVersion).whenSet spec.appProtocol .withAppProtocol)

/-- The parameters the harness computes for both directions. -/
def commonParams (spec : SecuritySpec) (rule : RuleConfig) : RuleConfig :=
  let rule := (((((rule.paramWhenSet "profile" spec.profile).paramWhenSet "psk_identity"
    spec.pskIdentity).paramWhenSet "psk_hex" spec.pskHex).paramWhenSet "cipher_list"
    spec.cipherList).paramWhenSet "ciphersuites" spec.ciphersuites).paramWhenSet "groups" spec.groups
  if spec.resumption then rule.param "resumption" (.bool true) else rule

/-- The parameters of a custom provider, over those computed so far. -/
def extraParamsInto (spec : SecuritySpec) (rule : RuleConfig) : RuleConfig :=
  spec.extraParams.toList.foldl (fun rule entry => rule.param entry.1 entry.2) rule

def optimizationFields (spec : SecuritySpec) (rule : RuleConfig) : RuleConfig :=
  { rule with
    zeroCopy := spec.zeroCopy
    spinWaitUs := spec.spinWaitUs
    perfProfile := spec.perfProfile
    sockBufSize := spec.sockBufSize
    pipeSize := spec.pipeSize
    relayBufSize := spec.relayBufSize
    notsentLowat := spec.notsentLowat
    busyPollUs := spec.busyPollUs.getD 0
    bdpAdaptive := spec.bdpAdaptive
    bdpQueueBudgetUs := spec.bdpQueueBudgetUs
    simulatedDelayMs := if 0 < spec.simulatedDelayMs then some spec.simulatedDelayMs else none }

def applyCommon (spec : SecuritySpec) (rule : RuleConfig) : RuleConfig :=
  spec.optimizationFields (spec.extraParamsInto (spec.commonParams (spec.commonFields rule)))

/-- What the connecting side asks of the peer's certificate. -/
def clientVerify (spec : SecuritySpec) : String :=
  if spec.profile = some "subset146-pki" then "mutual"
  else if spec.clientCert.isSome ∧ spec.caCert.isSome then "server"
  else "none"

def applyEncrypt (spec : SecuritySpec) (rule : RuleConfig) : RuleConfig :=
  let rule := spec.applyCommon rule
  let rule :=
    if spec.provider ≠ "routing" then rule.param "verify" (.string spec.clientVerify) else rule
  (((rule.paramWhenSet "server_name" spec.serverName).paramWhenSet "ca_path"
    spec.caCert).paramWhenSet "cert_path" spec.clientCert).paramWhenSet "key_path" spec.clientKey

def applyDecrypt (spec : SecuritySpec) (rule : RuleConfig) : RuleConfig :=
  let rule := spec.applyCommon rule
  let rule := ((rule.paramWhenSet "verify" spec.verify).paramWhenSet "cert_path"
    spec.serverCert).paramWhenSet "key_path" spec.serverKey
  if spec.verify = some "mutual" then rule.paramWhenSet "ca_path" spec.caCert else rule

/-! What the two functions write over the parameters of a custom provider. -/

theorem paramAll_bare (rule : RuleConfig) (entries : List (String × Json)) :
    (entries.foldl (fun rule entry => rule.param entry.1 entry.2) rule).bare = rule.bare := by
  induction entries generalizing rule with
  | nil => rfl
  | cons entry entries ih => exact ih (rule.param entry.1 entry.2)

theorem commonParams_bare (spec : SecuritySpec) (rule : RuleConfig) :
    (spec.commonParams rule).bare = rule.bare := by
  unfold commonParams
  dsimp only
  split <;> simp

theorem applyCommon_bare (spec : SecuritySpec) (rule : RuleConfig) :
    (spec.applyCommon rule).bare = (spec.optimizationFields (spec.commonFields rule)).bare := by
  have kept : (spec.extraParamsInto (spec.commonParams (spec.commonFields rule))).bare =
      (spec.commonFields rule).bare :=
    (paramAll_bare _ _).trans (spec.commonParams_bare _)
  exact congrArg spec.optimizationFields kept

theorem applyEncrypt_bare (spec : SecuritySpec) (rule : RuleConfig) :
    (spec.applyEncrypt rule).bare = (spec.optimizationFields (spec.commonFields rule)).bare := by
  rw [← spec.applyCommon_bare rule]
  unfold applyEncrypt
  split <;> simp

theorem applyDecrypt_bare (spec : SecuritySpec) (rule : RuleConfig) :
    (spec.applyDecrypt rule).bare = (spec.optimizationFields (spec.commonFields rule)).bare := by
  rw [← spec.applyCommon_bare rule]
  unfold applyDecrypt
  dsimp only
  split <;> simp

theorem commonFields_endpoint (spec : SecuritySpec) (rule : RuleConfig) :
    (spec.commonFields rule).endpoint = rule.endpoint := by
  unfold commonFields RuleConfig.whenSet
  cases spec.protocolVersion <;> cases spec.appProtocol <;> rfl

/-- Applying a specification leaves the endpoint of the rule alone. -/
theorem applyEncrypt_endpoint (spec : SecuritySpec) (rule : RuleConfig) :
    (spec.applyEncrypt rule).endpoint = rule.endpoint :=
  (RuleConfig.endpoint_of_bare (spec.applyEncrypt_bare rule)).trans
    (spec.commonFields_endpoint rule)

theorem applyDecrypt_endpoint (spec : SecuritySpec) (rule : RuleConfig) :
    (spec.applyDecrypt rule).endpoint = rule.endpoint :=
  (RuleConfig.endpoint_of_bare (spec.applyDecrypt_bare rule)).trans
    (spec.commonFields_endpoint rule)

/-- The keys of the fields a path rule of the specification has of its own. -/
def ruleKeys (spec : SecuritySpec) : List String :=
  ["name", "direction", "listen_addr", "listen_proto", "upstream_addr", "upstream_proto",
    "security_provider"] ++
  RuleConfig.keyWhen "app_protocol" spec.appProtocol.isSome ++
  RuleConfig.keyWhen "protocol_version" spec.protocolVersion.isSome ++ ["traffic_class"] ++
  (RuleConfig.keyWhen "zero_copy" spec.zeroCopy ++
    RuleConfig.keyWhen "spin_wait_us" (spec.spinWaitUs ≠ 0) ++
    RuleConfig.keyWhen "perf_profile" spec.perfProfile.isSome ++
    RuleConfig.keyWhen "sock_buf_size" spec.sockBufSize.isSome ++
    RuleConfig.keyWhen "pipe_size" spec.pipeSize.isSome ++
    RuleConfig.keyWhen "relay_buf_size" spec.relayBufSize.isSome ++
    RuleConfig.keyWhen "notsent_lowat" spec.notsentLowat.isSome ++
    RuleConfig.keyWhen "busy_poll_us" (spec.busyPollUs.getD 0 ≠ 0) ++
    RuleConfig.keyWhen "bdp_adaptive" spec.bdpAdaptive ++
    RuleConfig.keyWhen "bdp_queue_budget_us" spec.bdpQueueBudgetUs.isSome ++
    RuleConfig.keyWhen "simulated_delay_ms" (0 < spec.simulatedDelayMs))

end SecuritySpec

end Seshat.Gateway
