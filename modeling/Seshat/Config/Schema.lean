import Mathlib.Data.Rat.Defs
import Mathlib.Tactic.Common

/-! The scenario document, as far as validation and the run wiring read it. Rates, which
the document holds as `f64`, are exact rationals. -/

namespace Seshat.Config

inductive Interface where
  | tcp
  | udp
  | unix
  | shm
  | tproxy
  deriving DecidableEq, Repr

inductive Pattern where
  | sustained
  | periodic
  | burst
  | ramp
  deriving DecidableEq, Repr

structure Sender where
  interface : Interface
  targetAddr : String
  pattern : Pattern := .sustained
  rateLimitMbps : Option ℚ := none
  intervalUs : Option UInt64 := none
  burstCount : Option UInt64 := none
  burstPauseUs : Option UInt64 := none
  rampStartMbps : Option ℚ := none
  rampStepMbps : Option ℚ := none
  rampStepIntervalSecs : Option UInt64 := none
  deriving DecidableEq, Repr

def Interface.label : Interface → String
  | .tcp => "tcp"
  | .udp => "udp"
  | .unix => "unix"
  | .shm => "shm"
  | .tproxy => "tproxy"

inductive Mode where
  | throughput
  | pingpong
  | connrate
  deriving DecidableEq, Repr

inductive ProtocolType where
  | none
  | tls
  | dtls
  | wireguard
  | ipsec
  | custom
  deriving DecidableEq, Repr

def ProtocolType.label : ProtocolType → String
  | .none => "none"
  | .tls => "tls"
  | .dtls => "dtls"
  | .wireguard => "wireguard"
  | .ipsec => "ipsec"
  | .custom => "custom"

inductive TlsVersion where
  | v1_0
  | v1_2
  | v1_3
  deriving DecidableEq, Repr

inductive ProtectionMode where
  | full
  | integrityOnly
  | routingOnly
  deriving DecidableEq, Repr

inductive AppProtocol where
  | none
  | ale
  | raw
  deriving DecidableEq, Repr

structure CertificateSelection where
  serverCert : Option String := none
  serverKey : Option String := none
  clientCert : Option String := none
  clientKey : Option String := none
  caCert : Option String := none
  serverName : Option String := none
  deriving DecidableEq, Repr

namespace CertificateSelection

def isEmpty (certs : CertificateSelection) : Bool :=
  certs.serverCert.isNone && certs.serverKey.isNone && certs.clientCert.isNone &&
    certs.clientKey.isNone && certs.caCert.isNone && certs.serverName.isNone

def hasServerIdentity (certs : CertificateSelection) : Bool :=
  certs.serverCert.isSome && certs.serverKey.isSome

def hasMutualBundle (certs : CertificateSelection) : Bool :=
  certs.hasServerIdentity && certs.clientCert.isSome && certs.clientKey.isSome &&
    certs.caCert.isSome

end CertificateSelection

/-- A parameter of a custom provider. -/
inductive ProviderParam where
  | bool (b : Bool)
  | int (n : Int64)
  | str (s : String)
  deriving DecidableEq, Repr

structure Protocol where
  kind : ProtocolType := .none
  version : TlsVersion := .v1_3
  kernel : Bool := false
  mutualAuth : Bool := false
  cipherSuite : Option String := none
  kexGroup : Option String := none
  protectionMode : ProtectionMode := .full
  appProtocol : AppProtocol := .none
  profile : Option String := none
  pskIdentity : Option String := none
  pskHex : Option String := none
  resumption : Bool := false
  certificates : CertificateSelection := {}
  securityProvider : Option String := none
  providerParams : Std.ExtTreeMap String ProviderParam := ∅
  deriving DecidableEq, Repr

inductive AddressFamily where
  | ipv4
  | ipv6
  deriving DecidableEq, Repr

inductive TopologyMode where
  | loopback
  | veth
  | netns
  | physical
  | remote
  deriving DecidableEq, Repr

/-- The variant name, as `Debug` prints it. -/
def TopologyMode.debug : TopologyMode → String
  | .loopback => "Loopback"
  | .veth => "Veth"
  | .netns => "Netns"
  | .physical => "Physical"
  | .remote => "Remote"

structure Topology where
  mode : TopologyMode := .loopback
  autoSetup : Bool := false
  deriving DecidableEq, Repr

inductive GatewayChain where
  | scgDirect
  | scgScg
  deriving DecidableEq, Repr

structure Gateway where
  enabled : Bool := false
  chain : GatewayChain := .scgDirect
  deriving DecidableEq, Repr

structure Priority where
  dscpTag : String
  trafficClass : String
  deriving DecidableEq, Repr

inductive StreamRole where
  | safety
  | bulk
  | monitoring
  deriving DecidableEq, Repr

def StreamRole.debug : StreamRole → String
  | .safety => "Safety"
  | .bulk => "Bulk"
  | .monitoring => "Monitoring"

structure Stream where
  role : StreamRole
  interface : Interface
  targetAddr : String
  connections : UInt32 := 1
  messageSizeBytes : UInt32
  pattern : Pattern := .sustained
  intervalUs : Option UInt64 := none
  protocol : Protocol := {}
  priority : Priority
  deriving DecidableEq, Repr

inductive ReloadAction where
  | updateTlsProfile
  | addConnection
  | removeConnection
  | rotateCert
  | invalidConfig
  deriving DecidableEq, Repr

def ReloadAction.debug : ReloadAction → String
  | .updateTlsProfile => "UpdateTlsProfile"
  | .addConnection => "AddConnection"
  | .removeConnection => "RemoveConnection"
  | .rotateCert => "RotateCert"
  | .invalidConfig => "InvalidConfig"

structure ReloadEvent where
  triggerAtSecs : UInt64
  action : ReloadAction
  payloadFile : Option String := none
  measureWindowAfterSecs : UInt64 := 0
  deriving DecidableEq, Repr

/-- The flags a gateway rule takes over. -/
structure OptimizationFlags where
  zeroCopy : Bool := false
  spinWait : Bool := false
  spinWaitUs : Option UInt64 := none
  sockBufSize : Option UInt64 := none
  pipeSize : Option UInt64 := none
  relayBufSize : Option UInt64 := none
  notsentLowat : Option UInt64 := none
  busyPollUs : Option UInt32 := none
  bdpAdaptive : Bool := false
  bdpQueueBudgetUs : Option UInt64 := none
  simulatedDelayMs : Option UInt64 := none
  shmRingCapacity : Option UInt64 := none
  perfProfile : Option String := none
  deriving DecidableEq, Repr

/-- A sweep grid; a rate that is no finite number is `none`. -/
structure Saturation where
  startMbps : Option ℚ
  stepMbps : Option ℚ
  maxMbps : Option ℚ
  deriving DecidableEq, Repr

structure Comparison where
  group : String
  reference : String
  gatewayReference : Option String := none
  calibrationGroup : Option String := none
  calibrationFraction : Option ℚ := none
  deriving DecidableEq, Repr

structure Scenario where
  name : String
  category : Option String := none
  mode : Mode := .throughput
  enabled : Bool := true
  disabledReason : Option String := none
  messageSizeBytes : Option UInt32 := none
  connections : UInt32 := 1
  sender : Option Sender := none
  protocol : Protocol := {}
  topology : Topology := {}
  gateway : Gateway := {}
  addressFamily : AddressFamily := .ipv4
  streams : List Stream := []
  reloadEvent : Option ReloadEvent := none
  optimizationFlags : OptimizationFlags := {}
  runs : Option UInt32 := none
  durationSecs : Option UInt64 := none
  warmupSecs : Option UInt64 := none
  cooldownSecs : Option UInt64 := none
  saturation : Option Saturation := none
  comparison : Option Comparison := none
  deriving DecidableEq, Repr

structure Suite where
  name : String
  version : String
  deriving DecidableEq, Repr

inductive OutlierRemoval where
  | none
  | iqr
  | percentile
  deriving DecidableEq, Repr

inductive MetricsBackend where
  | procfs
  | perf
  | ebpf
  | none
  deriving DecidableEq, Repr

structure Defaults where
  runs : UInt32 := 5
  durationSecs : UInt64 := 30
  warmupSecs : UInt64 := 5
  cooldownSecs : UInt64 := 2
  lossThresholdPct : ℚ := 1
  collectSystemMetrics : Bool := true
  outlierRemoval : OutlierRemoval := .iqr
  confidenceLevel : ℚ := 0.95
  metricsBackend : MetricsBackend := .procfs
  metricsSampleRateHz : UInt32 := 50
  deriving DecidableEq, Repr

set_option linter.dupNamespace false in
structure Config where
  suite : Suite
  defaults : Defaults := {}
  scenarios : List Scenario
  deriving DecidableEq, Repr

/-- Rust's `char::is_whitespace`. -/
def isWhitespace (c : Char) : Bool :=
  let n := c.toNat
  (9 ≤ n && n ≤ 13) || n = 0x20 || n = 0x85 || n = 0xA0 || n = 0x1680 ||
    (0x2000 ≤ n && n ≤ 0x200A) || n = 0x2028 || n = 0x2029 || n = 0x202F || n = 0x205F ||
    n = 0x3000

/-- The characters of `s.trim()`. -/
def trim (s : List Char) : List Char :=
  ((s.dropWhile isWhitespace).reverse.dropWhile isWhitespace).reverse

/-- `s.trim().is_empty()` -/
def isBlank (s : String) : Bool := (trim s.toList).isEmpty

/-- `to_ascii_lowercase` -/
def asciiLower (s : List Char) : List Char := s.map Char.toLower

/-- The gateway's class for a label, by its accepted aliases. -/
def canonicalTrafficClass (raw : String) : Option String :=
  let label := asciiLower (trim raw.toList)
  if label = "safety".toList ∨ label = "safety-critical".toList then some "safety"
  else if label = "normal".toList ∨ label = "non-safety".toList ∨ label = "bulk".toList then
    some "normal"
  else none

end Seshat.Config
