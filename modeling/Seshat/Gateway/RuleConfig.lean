import Seshat.Config.Schema
import Seshat.Lib.Objects
import Seshat.Lib.Saturating
import Mathlib.Tactic.Common

/-! The gateway configuration document: its rules, how they are built field by field, and
the object a rule is serialized as. -/

namespace Seshat.Gateway
open Lib.Objects Lib.Saturating

/-- The JSON values a rule holds. -/
inductive Json where
  | bool (b : Bool)
  | number (n : Int)
  | string (s : String)
  | numbers (ns : List UInt32)
  deriving DecidableEq, Repr

abbrev ParamMap := Std.ExtTreeMap String Json

structure RuleConfig where
  name : String
  direction : String
  listenAddr : String
  listenProto : String
  upstreamAddr : String
  upstreamProto : String
  securityProvider : String
  appProtocol : Option String
  protocolVersion : Option String
  trafficClass : String
  appId : Option String
  allowedUids : List UInt32
  providerParams : ParamMap
  zeroCopy : Bool
  spinWaitUs : UInt64
  perfProfile : Option String
  sockBufSize : Option UInt64
  pipeSize : Option UInt64
  relayBufSize : Option UInt64
  notsentLowat : Option UInt64
  busyPollUs : UInt32
  bdpAdaptive : Bool
  bdpQueueBudgetUs : Option UInt64
  simulatedDelayMs : Option UInt64

namespace RuleConfig

/-- A plaintext `routing` rule over TCP. -/
def new (name direction listenAddr upstreamAddr : String) : RuleConfig where
  name
  direction
  listenAddr
  listenProto := "tcp"
  upstreamAddr
  upstreamProto := "tcp"
  securityProvider := "routing"
  appProtocol := none
  protocolVersion := none
  trafficClass := "normal"
  appId := none
  allowedUids := []
  providerParams := ∅
  zeroCopy := false
  spinWaitUs := 0
  perfProfile := none
  sockBufSize := none
  pipeSize := none
  relayBufSize := none
  notsentLowat := none
  busyPollUs := 0
  bdpAdaptive := false
  bdpQueueBudgetUs := none
  simulatedDelayMs := none

def security (rule : RuleConfig) (provider : String) : RuleConfig :=
  { rule with securityProvider := provider }

def withListenProto (rule : RuleConfig) (proto : String) : RuleConfig :=
  { rule with listenProto := proto }

def withUpstreamProto (rule : RuleConfig) (proto : String) : RuleConfig :=
  { rule with upstreamProto := proto }

def proto (rule : RuleConfig) (proto : String) : RuleConfig :=
  (rule.withListenProto proto).withUpstreamProto proto

def withProtocolVersion (rule : RuleConfig) (version : String) : RuleConfig :=
  { rule with protocolVersion := some version }

def withAppProtocol (rule : RuleConfig) (proto : String) : RuleConfig :=
  { rule with appProtocol := some proto }

def withTrafficClass (rule : RuleConfig) (label : String) : RuleConfig :=
  { rule with trafficClass := label }

def withAppId (rule : RuleConfig) (appId : String) : RuleConfig :=
  { rule with appId := some appId }

def allowedUid (rule : RuleConfig) (uid : UInt32) : RuleConfig :=
  { rule with allowedUids := rule.allowedUids ++ [uid] }

def param (rule : RuleConfig) (key : String) (value : Json) : RuleConfig :=
  { rule with providerParams := rule.providerParams.insert key value }

/-- An update that is made only for a value that is set. -/
def whenSet {α : Type} (rule : RuleConfig) (value : Option α)
    (update : RuleConfig → α → RuleConfig) : RuleConfig :=
  match value with
  | some found => update rule found
  | none => rule

/-- A parameter that is set only when there is a value for it. -/
def paramWhenSet (rule : RuleConfig) (key : String) (value : Option String) : RuleConfig :=
  rule.whenSet value fun rule found => rule.param key (.string found)

def size (value : UInt64) : Json := .number value.toNat

/-- The fields written before the flattened parameters. -/
def headFields (rule : RuleConfig) : List (String × Json) :=
  [("name", .string rule.name), ("direction", .string rule.direction),
    ("listen_addr", .string rule.listenAddr), ("listen_proto", .string rule.listenProto),
    ("upstream_addr", .string rule.upstreamAddr), ("upstream_proto", .string rule.upstreamProto),
    ("security_provider", .string rule.securityProvider)] ++
  optional "app_protocol" (rule.appProtocol.map .string) ++
  optional "protocol_version" (rule.protocolVersion.map .string) ++
  [("traffic_class", .string rule.trafficClass)] ++
  optional "app_id" (rule.appId.map .string) ++
  optional "allowed_uids"
    (if rule.allowedUids = [] then none else some (.numbers rule.allowedUids))

/-- The fields written after the flattened parameters. -/
def tailFields (rule : RuleConfig) : List (String × Json) :=
  optional "zero_copy" (if rule.zeroCopy then some (.bool true) else none) ++
  optional "spin_wait_us" (if rule.spinWaitUs = 0 then none else some (size rule.spinWaitUs)) ++
  optional "perf_profile" (rule.perfProfile.map .string) ++
  optional "sock_buf_size" (rule.sockBufSize.map size) ++
  optional "pipe_size" (rule.pipeSize.map size) ++
  optional "relay_buf_size" (rule.relayBufSize.map size) ++
  optional "notsent_lowat" (rule.notsentLowat.map size) ++
  optional "busy_poll_us"
    (if rule.busyPollUs = 0 then none else some (.number rule.busyPollUs.toNat)) ++
  optional "bdp_adaptive" (if rule.bdpAdaptive then some (.bool true) else none) ++
  optional "bdp_queue_budget_us" (rule.bdpQueueBudgetUs.map size) ++
  optional "simulated_delay_ms" (rule.simulatedDelayMs.map size)

/-- The object the rule is written as: the parameters stand flattened among its own fields,
and a key that both have is written twice. -/
def serialize (rule : RuleConfig) : List (String × Json) :=
  rule.headFields ++ rule.providerParams.toList ++ rule.tailFields

def ownKeys (rule : RuleConfig) : List String := (rule.headFields ++ rule.tailFields).map Prod.fst

def keyWhen (key : String) (written : Bool) : List String := if written then [key] else []

theorem optional_if_keys (key : String) (present : Prop) [Decidable present] (value : Json) :
    (optional key (if present then some value else none)).map Prod.fst =
      keyWhen key (decide present) := by
  by_cases holds : present <;> simp [holds, keyWhen]

theorem optional_unless_keys (key : String) (absent : Prop) [Decidable absent] (value : Json) :
    (optional key (if absent then none else some value)).map Prod.fst =
      keyWhen key (decide ¬absent) := by
  by_cases holds : absent <;> simp [holds, keyWhen]

theorem optional_map_keys {α : Type} (key : String) (toJson : α → Json) (value : Option α) :
    (optional key (value.map toJson)).map Prod.fst = keyWhen key value.isSome := by
  cases value <;> rfl

theorem ownKeys_eq (rule : RuleConfig) :
    rule.ownKeys =
      ["name", "direction", "listen_addr", "listen_proto", "upstream_addr", "upstream_proto",
        "security_provider"] ++
      keyWhen "app_protocol" rule.appProtocol.isSome ++
      keyWhen "protocol_version" rule.protocolVersion.isSome ++ ["traffic_class"] ++
      keyWhen "app_id" rule.appId.isSome ++ keyWhen "allowed_uids" (rule.allowedUids ≠ []) ++
      (keyWhen "zero_copy" rule.zeroCopy ++ keyWhen "spin_wait_us" (rule.spinWaitUs ≠ 0) ++
        keyWhen "perf_profile" rule.perfProfile.isSome ++
        keyWhen "sock_buf_size" rule.sockBufSize.isSome ++
        keyWhen "pipe_size" rule.pipeSize.isSome ++
        keyWhen "relay_buf_size" rule.relayBufSize.isSome ++
        keyWhen "notsent_lowat" rule.notsentLowat.isSome ++
        keyWhen "busy_poll_us" (rule.busyPollUs ≠ 0) ++ keyWhen "bdp_adaptive" rule.bdpAdaptive ++
        keyWhen "bdp_queue_budget_us" rule.bdpQueueBudgetUs.isSome ++
        keyWhen "simulated_delay_ms" rule.simulatedDelayMs.isSome) := by
  simp only [ownKeys, headFields, tailFields, List.map_append, optional_if_keys,
    optional_unless_keys, optional_map_keys]
  simp

/-- A parameter of the rule is carried unless one of the rule's own fields has its key. -/
theorem carries_iff {rule : RuleConfig} {key : String} {found value : Json}
    (mapped : rule.providerParams[key]? = some found) :
    Carries rule.serialize key value ↔ key ∉ rule.ownKeys ∧ found = value :=
  carries_around_iff (filter_key_of_nodup (toList_keys_nodup _)
    (Std.ExtTreeMap.mem_toList_iff_getElem?_eq_some.mpr mapped))

/-- The rule without its parameters. -/
def bare (rule : RuleConfig) : RuleConfig := { rule with providerParams := ∅ }

@[simp] theorem bare_param (rule : RuleConfig) (key : String) (value : Json) :
    (rule.param key value).bare = rule.bare := rfl

@[simp] theorem bare_paramWhenSet (rule : RuleConfig) (key : String) (value : Option String) :
    (rule.paramWhenSet key value).bare = rule.bare := by
  cases value <;> rfl

end RuleConfig

namespace RuleConfig

/-- The part of a rule that says which endpoint it serves. -/
structure Endpoint where
  name : String
  direction : String
  listenAddr : String
  upstreamAddr : String
  appId : Option String
  allowedUids : List UInt32

def endpoint (rule : RuleConfig) : Endpoint where
  name := rule.name
  direction := rule.direction
  listenAddr := rule.listenAddr
  upstreamAddr := rule.upstreamAddr
  appId := rule.appId
  allowedUids := rule.allowedUids

theorem endpoint_of_bare {rule other : RuleConfig} (same : rule.bare = other.bare) :
    rule.endpoint = other.endpoint := by
  change rule.bare.endpoint = other.bare.endpoint
  rw [same]

end RuleConfig

/-- The rules one gateway process serves, and the size of its connection pool. -/
structure GatewayConfig where
  logLevel : Option String := none
  rules : List RuleConfig
  defaultAction : Option String := none
  connPoolSize : Option UInt64 := none

def connPoolHeadroom : UInt64 := 8
def minPoolSize : Nat := 32
def maxPoolSize : Nat := 4096

namespace GatewayConfig

def new (rules : List RuleConfig) : GatewayConfig := { rules }

def poolForConnections (config : GatewayConfig) (connections : UInt64) : GatewayConfig :=
  let want := (satAdd connections connPoolHeadroom).toNat
  { config with connPoolSize := some (UInt64.ofNat (min (max want minPoolSize) maxPoolSize)) }

def withLogLevel (config : GatewayConfig) (level : String) : GatewayConfig :=
  { config with logLevel := some level }

def allowAll (config : GatewayConfig) : GatewayConfig :=
  { config with defaultAction := some "allow" }

end GatewayConfig

end Seshat.Gateway
