import Seshat.Config.Schema
import Mathlib.Tactic.Common
import Mathlib.Tactic.Ring

/-! `validate`: the semantic checks of a document. A check appends its finding to the
report of the scenario it looks at. -/

namespace Seshat.Config

structure ScenarioReport where
  name : String := ""
  enabled : Bool := false
  errors : List String := []
  warnings : List String := []
  notes : List String := []
  deriving DecidableEq, Repr

namespace ScenarioReport

def ok (r : ScenarioReport) : Bool := r.errors.isEmpty

def errorIf (r : ScenarioReport) (bad : Prop) [Decidable bad] (text : String) : ScenarioReport :=
  if bad then { r with errors := r.errors ++ [text] } else r

def warnIf (r : ScenarioReport) (odd : Prop) [Decidable odd] (text : String) : ScenarioReport :=
  if odd then { r with warnings := r.warnings ++ [text] } else r

def note (r : ScenarioReport) (text : String) : ScenarioReport :=
  { r with notes := r.notes ++ [text] }

end ScenarioReport

/-- `str::parse::<u16>` succeeds. -/
def parsesU16 (s : List Char) : Bool :=
  let digits := if s.head? = some '+' then s.tail else s
  !digits.isEmpty && digits.all Char.isDigit &&
    digits.foldl (fun n c => n * 10 + (c.toNat - '0'.toNat)) 0 < 2 ^ 16

/-- `rsplit_once(':')` -/
def rsplitColon (s : List Char) : Option (List Char × List Char) :=
  match s.reverse.dropWhile (· ≠ ':') with
  | [] => none
  | _ :: host => some (host.reverse, (s.reverse.takeWhile (· ≠ ':')).reverse)

/-- A `SocketAddr` or a name with a port. Every text that parses as the former also splits
into a host and a port. -/
def isHostPort (addr : String) : Bool :=
  match rsplitColon addr.toList with
  | some (host, port) => !host.isEmpty && parsesU16 port
  | none => false

def validateAddr (interface : Interface) (addr ctx : String) (r : ScenarioReport) :
    ScenarioReport :=
  match interface with
  | .tcp => r.errorIf (isHostPort addr = false) s!"{ctx}: '{addr}' is not a valid host:port"
  | .udp => r.errorIf (isHostPort addr = false) s!"{ctx}: '{addr}' is not a valid host:port"
  | .unix =>
      r.errorIf (addr.toList.head? ≠ some '/') s!"{ctx}: unix socket path must be absolute"
  | .shm =>
      let scheme := "shm:///".toList
      r.errorIf (¬scheme <+: addr.toList ∨ addr.toList = scheme)
        s!"{ctx}: shm address must be 'shm:///<name>'"
  | .tproxy =>
      r.errorIf (isHostPort addr = false) s!"{ctx}: tproxy address must be a valid host:port"

def isLatencyCategory (category : Option String) : Bool :=
  category.any fun c => asciiLower c.toList = "latency".toList

def validatePattern (sender : Sender) (r : ScenarioReport) : ScenarioReport :=
  match sender.pattern with
  | .sustained => r
  | .periodic =>
      r.errorIf (sender.intervalUs = none) "sender periodic pattern needs interval_us"
  | .burst => r.errorIf (sender.burstCount = none) "sender burst pattern needs burst_count"
  | .ramp =>
      r.errorIf
        (sender.rampStartMbps = none ∨ sender.rampStepMbps = none ∨
          sender.rampStepIntervalSecs = none)
        "sender ramp pattern needs ramp_start_mbps, ramp_step_mbps, ramp_step_interval_secs"

def validateTransportNeedsGateway (interface : Interface) (gateway : Gateway)
    (r : ScenarioReport) : ScenarioReport :=
  r.errorIf ((interface = .unix ∨ interface = .shm) ∧ gateway.enabled = false)
    s!"interface={interface.label} requires gateway.enabled=true (provisioned via the gRPC management API)"

def validateProtocolTransport (s : Scenario) (interface : Interface) (r : ScenarioReport) :
    ScenarioReport :=
  let r := r.errorIf (s.protocol.kind = .tls ∧ s.protocol.version = .v1_0)
    "protocol.type=tls does not support version=1.0"
  let r := r.errorIf (s.protocol.kind = .dtls ∧ s.protocol.version = .v1_3)
    "protocol.type=dtls supports version=1.0 or version=1.2"
  let r := r.errorIf (s.protocol.kind = .dtls ∧ interface ≠ .udp)
    s!"protocol.type=dtls requires a udp interface (got {interface.label})"
  let r := r.errorIf (s.protocol.appProtocol ≠ .none ∧ interface ≠ .udp)
    "protocol.app_protocol (ale/raw) requires a udp interface"
  let r := r.errorIf (s.protocol.appProtocol ≠ .none ∧ s.protocol.kind ≠ .tls)
    "protocol.app_protocol (ale/raw) requires protocol.type=tls"
  r.errorIf
    (s.comparison.any fun comparison => isBlank comparison.group || isBlank comparison.reference)
    "comparison.group and comparison.reference must be non-empty"

def knownDscp : List String :=
  ["EF", "BE", "AF11", "AF12", "AF13", "AF21", "AF22", "AF23", "AF31", "AF32", "AF33", "AF41",
    "AF42", "AF43", "CS0", "CS1", "CS2", "CS3", "CS4", "CS5", "CS6", "CS7"]

def validateDscp (tag ctx : String) (r : ScenarioReport) : ScenarioReport :=
  r.warnIf (tag ∉ knownDscp) s!"{ctx}: unknown DSCP tag '{tag}'"

def validateCertificateSelection (s : Scenario) (r : ScenarioReport) : ScenarioReport :=
  let certs := s.protocol.certificates
  if certs.isEmpty then r
  else
    let r := r.errorIf (s.protocol.kind ≠ .tls ∧ s.protocol.kind ≠ .dtls)
      "protocol.certificates is only valid for TLS, kTLS, or DTLS scenarios"
    let r := r.errorIf (certs.serverCert.isSome ∧ certs.serverKey.isNone)
      "protocol.certificates.server_cert requires server_key"
    let r := r.errorIf (certs.serverCert.isNone ∧ certs.serverKey.isSome)
      "protocol.certificates.server_key requires server_cert"
    let r := r.errorIf (certs.clientCert.isSome ∧ certs.clientKey.isNone)
      "protocol.certificates.client_cert requires client_key"
    let r := r.errorIf (certs.clientCert.isNone ∧ certs.clientKey.isSome)
      "protocol.certificates.client_key requires client_cert"
    let pkiProfile := s.protocol.profile = some "subset146-pki"
    let hasPathMaterial := certs.serverCert.isSome || certs.serverKey.isSome ||
      certs.clientCert.isSome || certs.clientKey.isSome || certs.caCert.isSome
    if (s.protocol.mutualAuth ∨ pkiProfile) ∧ hasPathMaterial then
      r.errorIf (certs.hasMutualBundle = false)
        "protocol.certificates for mutual TLS/subset146-pki must include server_cert, server_key, client_cert, client_key, and ca_cert"
    else
      r.warnIf (certs.clientCert.isSome ∨ certs.clientKey.isSome)
        "protocol.certificates.client_cert/client_key are ignored unless mutual_auth=true"

/-- The protocol kinds that need more than a protocol: an interface, a provider, or a
gateway that does not exist yet. -/
def validateProtocolKind (s : Scenario) (r : ScenarioReport) : ScenarioReport :=
  match s.protocol.kind with
  | .wireguard =>
      r.errorIf (s.sender.any fun sender => sender.interface ≠ .udp)
        "protocol.type=wireguard requires sender.interface=udp"
  | .ipsec => r.errorIf True "protocol.type=ipsec is an SCG stub; set enabled=false"
  | .custom =>
      r.errorIf (isBlank (s.protocol.securityProvider.getD ""))
        "protocol.type=custom requires a non-empty protocol.security_provider"
  | _ => r

def validateSender (s : Scenario) (sender : Sender) (r : ScenarioReport) : ScenarioReport :=
  let r := validateAddr sender.interface sender.targetAddr "sender.target_addr" r
  let r := validatePattern sender r
  let r := validateTransportNeedsGateway sender.interface s.gateway r
  validateProtocolTransport s sender.interface r

def validateSaturation (sat : Saturation) (r : ScenarioReport) : ScenarioReport :=
  match sat.startMbps, sat.stepMbps, sat.maxMbps with
  | some start, some step, some max =>
      let r := r.errorIf (start ≤ 0) "saturation.start_mbps must be > 0"
      let r := r.errorIf (step ≤ 0) "saturation.step_mbps must be > 0"
      r.errorIf (max < start) "saturation.max_mbps must be >= saturation.start_mbps"
  | _, _, _ => r.errorIf True "saturation rates must be finite numbers"

def validateStream (s : Scenario) (r : ScenarioReport) (stream : Stream) (i : Nat) :
    ScenarioReport :=
  let r := validateAddr stream.interface stream.targetAddr s!"streams[{i}].target_addr" r
  let r := validateTransportNeedsGateway stream.interface s.gateway r
  let r := r.errorIf (stream.messageSizeBytes = 0)
    s!"streams[{i}].message_size_bytes must be > 0"
  let r := r.errorIf (stream.pattern = .periodic ∧ stream.intervalUs = none)
    s!"streams[{i}] periodic pattern needs interval_us"
  let r := validateDscp stream.priority.dscpTag s!"streams[{i}]" r
  let r := r.errorIf (canonicalTrafficClass stream.priority.trafficClass = none)
    s!"streams[{i}].priority.traffic_class '{stream.priority.trafficClass}' is not recognised; use safety|safety-critical or normal|non-safety|bulk"
  let r := r.errorIf (stream.interface ≠ .tcp)
    s!"streams[{i}].interface must be tcp (multi-stream scheduling runs over the gateway's TCP path; got {stream.interface.label})"
  let r := r.errorIf (stream.connections ≠ 1)
    s!"streams[{i}].connections must be 1 (the scheduler opens exactly one connection per stream; add more streams instead)"
  r.warnIf (stream.protocol.kind ≠ .none ∧ stream.protocol.kind ≠ s.protocol.kind)
    s!"streams[{i}].protocol ({stream.protocol.kind.label}) differs from the scenario protocol ({s.protocol.kind.label}); per-stream protocol overrides are not supported — the scenario-level protocol applies to every stream"

def validateStreams (s : Scenario) (r : ScenarioReport) : ScenarioReport :=
  let r := s.streams.zipIdx.foldl (fun r (stream, i) => validateStream s r stream i) r
  if s.streams.isEmpty then r
  else
    let r := r.errorIf (s.gateway.enabled = false)
      "multi-stream scenarios require gateway.enabled=true (streams are scheduled through per-class gateway rules)"
    let r := r.errorIf
      (s.protocol.kind = .dtls ∨ s.protocol.kind = .wireguard ∨ s.protocol.kind = .ipsec)
      s!"multi-stream scenarios support TCP-based protocols only (none/tls/mtls/integrity-only); got {s.protocol.kind.label}"
    r.note s!"streams: {s.streams.length}"

def validateOptimizationFlags (s : Scenario) (r : ScenarioReport) : ScenarioReport :=
  let routing := s.protocol.protectionMode = .routingOnly ∨ s.protocol.kind = .none
  let r := r.errorIf
    (s.optimizationFlags.zeroCopy ∧ ¬routing ∧ s.protocol.kernel = false)
    "optimization_flags.zero_copy requires routing-only or kTLS (userspace TLS cannot be zero-copy)"
  match s.optimizationFlags.perfProfile with
  | none => r
  | some profile =>
      r.errorIf (profile ∉ ["throughput", "latency", "balanced"])
        s!"optimization_flags.perf_profile '{profile}' is invalid (expected throughput, latency, or balanced)"

def validateReload (s : Scenario) (reload : ReloadEvent) (r : ScenarioReport) : ScenarioReport :=
  let r := r.errorIf (s.gateway.enabled = false) "reload_event requires gateway.enabled=true"
  let r := r.warnIf (reload.action = .updateTlsProfile ∧ reload.payloadFile = none)
    s!"reload_event action {reload.action.debug} usually needs a payload_file"
  r.note s!"reload_event: {reload.action.debug}"

def validateScenario (s : Scenario) : ScenarioReport :=
  let r : ScenarioReport := { name := s.name, enabled := s.enabled }
  let r := r.errorIf (isBlank s.name) "name is empty"
  let reason := s.disabledReason.getD "disabled"
  if s.enabled = false then r.note s!"SKIP ({reason})"
  else
    let r := r.errorIf (s.sender = none ∧ s.streams = [])
      "scenario needs a `sender` or at least one `streams` entry"
    let r := validateProtocolKind s r
    let r := r.errorIf (s.protocol.kernel ∧ s.protocol.kind ≠ .tls)
      "protocol.kernel=true (kTLS) requires protocol.type=tls"
    let r := s.sender.elim r fun sender => validateSender s sender r
    let r := r.warnIf
      (isLatencyCategory s.category ∧
        s.sender.any fun sender => sender.pattern = .sustained ∧ sender.rateLimitMbps = none)
      "category=latency with an unthrottled sustained sender measures bufferbloat, not gateway latency; use a periodic pattern (interval_us) or set sender.rate_limit_mbps well below saturation"
    let r := s.saturation.elim r fun sat => validateSaturation sat r
    let r := validateStreams s r
    let r := validateOptimizationFlags s r
    let r := r.errorIf (s.protocol.resumption ∧ s.protocol.kind ≠ .tls)
      "protocol.resumption is only valid for TLS/kTLS scenarios"
    let r := validateCertificateSelection s r
    let r := s.reloadEvent.elim r fun reload => validateReload s reload r
    r.warnIf
      ((s.topology.mode = .veth ∨ s.topology.mode = .netns) ∧ s.topology.autoSetup = false)
      s!"topology.mode={s.topology.mode.debug} but auto_setup=false (run `seshat setup` first)"

structure ValidationReport where
  suiteErrors : List String := []
  scenarios : List ScenarioReport := []
  deriving DecidableEq, Repr

def ValidationReport.ok (r : ValidationReport) : Bool :=
  r.suiteErrors.isEmpty && r.scenarios.all ScenarioReport.ok

/-- One error for each scenario whose name was seen before. -/
def duplicateNames (seen : List String) : List Scenario → List String
  | [] => []
  | s :: rest =>
      if s.name ∈ seen then s!"duplicate scenario name '{s.name}'" :: duplicateNames seen rest
      else duplicateNames (s.name :: seen) rest

def validate (config : Config) : ValidationReport :=
  let d := config.defaults
  let suiteErrors :=
    (if isBlank config.suite.name then ["suite.name is empty"] else []) ++
      (if isBlank config.suite.version then ["suite.version is empty"] else []) ++
      (if d.runs = 0 then ["defaults.runs must be >= 1"] else []) ++
      (if ¬(0 ≤ d.confidenceLevel ∧ d.confidenceLevel < 1) ∨ d.confidenceLevel ≤ 0 then
        ["defaults.confidence_level must be in (0, 1)"] else []) ++
      (if d.metricsSampleRateHz = 0 then ["defaults.metrics_sample_rate_hz must be >= 1"]
        else []) ++
      duplicateNames [] config.scenarios
  { suiteErrors, scenarios := config.scenarios.map validateScenario }

/-! What an accepted document guarantees. -/

theorem duplicateNames_nodup {seen : List String} {scenarios : List Scenario}
    (none_found : duplicateNames seen scenarios = []) :
    (scenarios.map Scenario.name).Nodup ∧ ∀ s ∈ scenarios, s.name ∉ seen := by
  induction scenarios generalizing seen with
  | nil => simp
  | cons s rest ih =>
    rw [duplicateNames] at none_found
    by_cases repeated : s.name ∈ seen
    · simp [repeated] at none_found
    rw [if_neg repeated] at none_found
    obtain ⟨distinct, unseen⟩ := ih none_found
    constructor
    · rw [List.map_cons, List.nodup_cons]
      refine ⟨fun member => ?_, distinct⟩
      obtain ⟨other, inRest, same⟩ := List.mem_map.mp member
      exact unseen other inRest (same ▸ List.mem_cons_self)
    · intro other member
      rcases List.mem_cons.mp member with rfl | inRest
      · exact repeated
      · exact fun inSeen => unseen other inRest (List.mem_cons_of_mem _ inSeen)

/-- The names of an accepted document are distinct. -/
theorem validate_names {config : Config} (accepted : (validate config).ok = true) :
    (config.scenarios.map Scenario.name).Nodup := by
  have noErrors : (validate config).suiteErrors = [] :=
    List.isEmpty_iff.mp ((Bool.and_eq_true _ _).mp accepted).1
  exact (duplicateNames_nodup (List.append_eq_nil_iff.mp noErrors).2).1

end Seshat.Config
