import Seshat.Config.Schema
import Mathlib.Data.Rat.Defs
import Mathlib.Tactic.Common

/-! The matrix document, and the scenario rows it is expanded into. -/

namespace Seshat.Matrix

abbrev Text := List Char

/-- A JSON value. -/
inductive Value where
  | null
  | bool (b : Bool)
  | number (q : ℚ)
  | string (s : String)
  | array (items : List Value)
  | object (fields : List (String × Value))

namespace Value

def get : Value → String → Option Value
  | .object fields, key => fields.lookup key
  | _, _ => none

def asStr : Value → Option String
  | .string s => some s
  | _ => none

def asBool : Value → Option Bool
  | .bool b => some b
  | _ => none

def isObject : Value → Bool
  | .object _ => true
  | _ => false

/-- A field that holds a string. -/
def str (value : Value) (key : String) : Option String := (value.get key).bind asStr

end Value

/-! The document. -/

structure Dimensions where
  streamMessageSizes : List UInt32
  datagramMessageSizes : List UInt32
  canonicalConnections : List UInt32
  nightlyConnections : List UInt32
  scalabilityConnections : List UInt32
  catalogConnections : List UInt32
  canonicalStreamMessageSize : UInt32
  canonicalDatagramMessageSize : UInt32

structure Profile where
  id : String
  protocol : Value
  interfaces : List String
  chains : List String
  messageClass : String := "stream"
  tiers : List String := []
  requirements : List String := []
  /-- The supported connection counts; all of them if there is none. -/
  connections : List UInt32 := []
  scalability : Bool := false
  optimizationFlags : Value := .null
  addressFamily : String := "ipv4"

structure CipherMatrix where
  tls12 : List String := []
  tls13 : List String := []

structure ComparisonPath where
  id : String
  interface : String
  gateway : Bool
  chain : String := "scg-direct"
  requirements : List String := []
  connections : List UInt32 := []

structure InterfaceComparison where
  paths : List ComparisonPath
  throughputMessageSizes : List UInt32
  throughputConnections : List UInt32
  latencyMessageSizes : List UInt32
  latencyConnections : List UInt32
  latencyFraction : ℚ := 1 / 2

structure Limitation where
  name : String
  reason : String
  interface : String
  chain : String := "scg-direct"
  protocol : Value

structure MatrixSpec where
  dimensions : Dimensions
  profiles : List Profile
  cipherMatrix : CipherMatrix := {}
  hotReloadProfiles : List String := []
  interfaceComparison : InterfaceComparison
  limitations : List Limitation := []

def validateSpec (spec : MatrixSpec) : Except Text Unit :=
  let comparison := spec.interfaceComparison
  if spec.profiles.isEmpty ∨ comparison.paths.isEmpty then
    .error "matrix spec needs protocol profiles and interface-comparison paths".toList
  else if ¬(0 ≤ comparison.latencyFraction ∧ comparison.latencyFraction ≤ 1) ∨
      comparison.latencyFraction = 0 then
    .error "interface_comparison.latency_fraction must be in (0, 1]".toList
  else
    match spec.profiles.find? fun profile =>
      Config.isBlank profile.id || profile.interfaces.isEmpty || profile.chains.isEmpty ||
        !profile.protocol.isObject with
    | some profile => .error ("invalid matrix profile '".toList ++ profile.id.toList ++ "'".toList)
    | none => .ok ()

/-! The rows. -/

structure RowGateway where
  enabled : Bool
  chain : String

structure RowSender where
  interface : String
  targetAddr : Text
  pattern : String := "sustained"
  rateLimitMbps : Option ℚ := none

structure RowReload where
  triggerAtSecs : Nat
  action : String
  expectZeroDrops : Bool
  measureWindowBeforeSecs : Nat
  measureWindowAfterSecs : Nat

structure RowComparison where
  group : Text
  reference : Text
  gatewayReference : Text
  calibrationGroup : Option Text
  calibrationFraction : Option ℚ

structure RowStream where
  role : String
  interface : String
  targetAddr : String
  messageSizeBytes : UInt32
  pattern : Option String
  intervalUs : Option Nat
  dscpTag : String
  trafficClass : String
  protocol : Value

/-- A generated scenario. The requirements are the keys set to true, in the order of the profile. -/
structure Row where
  name : Text
  category : String
  messageSizeBytes : UInt32
  connections : UInt32
  gateway : RowGateway
  protocol : Value
  sender : RowSender
  requirements : List String
  comparison : Option RowComparison := none
  description : Text
  mode : Option String := none
  optimizationFlags : Option Value := none
  addressFamily : Option String := none
  enabled : Option Bool := none
  disabledReason : Option String := none
  reloadEvent : Option RowReload := none
  durationSecs : Option Nat := none
  warmupSecs : Option Nat := none
  streams : List RowStream := []

/-! Texts of rows. -/

def decimal (n : UInt32) : Text := Nat.toDigits 10 n.toNat

def sizeLabel (bytes : UInt32) : Text :=
  if bytes = 1024 then "1KB".toList
  else if bytes = 16384 then "16KB".toList
  else if bytes = 32768 then "32KB".toList
  else if bytes = 65536 then "64KB".toList
  else decimal bytes ++ ['B']

def protocolSummary (protocol : Value) : Text :=
  match (protocol.str "type").getD "none" with
  | "none" => "plain".toList
  | "tls" =>
      let kernel := ((protocol.get "kernel").bind Value.asBool).getD false
      (if kernel then "ktls" else "tls").toList ++ ((protocol.str "version").getD "1.3").toList
  | "dtls" => "dtls".toList ++ ((protocol.str "version").getD "1.2").toList
  | other => other.toList

def matrixDescription (category interface : String) (protocol : Value) (gateway : Bool)
    (chain : String) (size connections : UInt32) : Text :=
  let path := if gateway then "SCG ".toList ++ chain.toList else "direct loopback".toList
  category.toList ++ ": ".toList ++ path ++ ", ".toList ++ interface.toList ++ ['/'] ++
    protocolSummary protocol ++ ", ".toList ++ sizeLabel size ++ ", ".toList ++
    decimal connections ++ " conn".toList ++ (if connections = 1 then [] else ['s'])

/-- The port is a 16-bit word that wraps, as in a release build. -/
def sender (interface : String) (ordinal : Nat) : RowSender where
  interface
  targetAddr :=
    let index := Nat.toDigits 10 ordinal
    if interface = "tcp" ∨ interface = "udp" ∨ interface = "tproxy" then
      "127.0.0.1:".toList ++ Nat.toDigits 10 (18000 + UInt16.ofNat ordinal).toNat
    else if interface = "unix" then "/tmp/seshat-matrix-".toList ++ index ++ ".sock".toList
    else if interface = "shm" then "shm:///seshat-matrix-".toList ++ index
    else "unsupported://".toList ++ interface.toList

section Scenario

variable (category interface : String) (protocol : Value) (gateway : Bool) (chain : String)
  (size connections : UInt32) (requirements : List String)

/-- A row before it is named. -/
def scenario (comparison : Option RowComparison) (ordinal : Nat) : Row where
  name := "pending_".toList ++ Nat.toDigits 10 ordinal
  category
  messageSizeBytes := size
  connections
  gateway := { enabled := gateway, chain }
  protocol
  sender := sender interface ordinal
  requirements
  comparison
  description := matrixDescription category interface protocol gateway chain size connections

end Scenario

/-- A profile's flags, if it declares any. -/
def declaredFlags : Value → Option Value
  | .object [] => none
  | .object (field :: rest) => some (.object (field :: rest))
  | _ => none

def stampOptimizationFlags (row : Row) (flags : Value) : Row :=
  match declaredFlags flags with
  | some flags => { row with optimizationFlags := some flags }
  | none => row

def loopbackV4 : Text := "127.0.0.1:".toList

def loopbackV6 : Text := "[::1]:".toList

def stampAddressFamily (row : Row) (family : String) : Row :=
  if family ≠ "ipv6" then row
  else
    let target := row.sender.targetAddr
    let targetAddr :=
      if loopbackV4 <+: target then loopbackV6 ++ target.drop loopbackV4.length else target
    { row with addressFamily := some "ipv6", sender := { row.sender with targetAddr } }

end Seshat.Matrix
