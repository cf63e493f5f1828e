import Seshat.Commands.GatewayPlan
import Seshat.Config.Accepted
import Seshat.Gateway.LogScan
import Mathlib.Tactic.Common

/-! The protocol a scenario is recorded under, and what its gateway plan applies. -/

namespace Seshat.Commands
open Config Gateway
open Report (Text)

def TlsVersion.label : TlsVersion → String
  | .v1_0 => "1.0"
  | .v1_2 => "1.2"
  | .v1_3 => "1.3"

def protocolLabel (s : Scenario) : Text :=
  let p := s.protocol
  match p.kind with
  | .none => "none".toList
  | .tls =>
      let base := if p.kernel then "ktls" else "tls"
      let suffix :=
        if p.protectionMode = .integrityOnly then "+integrity"
        else if p.mutualAuth then "+mtls"
        else ""
      let resume := if p.resumption then "+resume" else ""
      base.toList ++ '/' :: (TlsVersion.label p.version).toList ++ suffix.toList ++ resume.toList
  | .dtls =>
      "dtls".toList ++ '/' :: (TlsVersion.label p.version).toList ++
        (if p.mutualAuth then "+mtls" else "").toList
  | .wireguard => "wireguard".toList
  | .ipsec => "ipsec".toList
  | .custom => (p.securityProvider.getD "custom").toList

/-- The scenarios `loopback_transport` takes: no gateway is between the endpoints. -/
def loopback (s : Scenario) : Bool :=
  s.streams.isEmpty && !s.gateway.enabled && s.protocol.kind = .none &&
    s.sender.any fun sender => sender.interface = .tcp || sender.interface = .udp

/-- Whether the plan asks the gateway for kernel TLS. -/
def kernelRequested (plan : GatewayPlan) : Bool :=
  match plan.security with
  | .tls _ ktls => ktls
  | .mtls _ ktls => ktls
  | _ => false

/-- The effective protocol recorded for a scenario that has run, by its gateway's logs. -/
def recordedProtocol (s : Scenario) (logs : List (Option Text)) : Option Text :=
  if loopback s then some (protocolLabel s)
  else
    (gatewayPlan s).map fun plan =>
      effectiveProtocolLabel (protocolLabel s) (scanEffective logs (kernelRequested plan))

/-! What a label says, and what a plan does. -/

inductive Protection where
  | tls
  | mtls
  | dtls
  | ktls
  deriving DecidableEq, Repr

/-- The word a label names a protection by. Mutual TLS, DTLS and kernel TLS are TLS, and
their words say so. -/
def Protection.word : Protection → Text
  | .tls => "tls".toList
  | .mtls => "mtls".toList
  | .dtls => "dtls".toList
  | .ktls => "ktls".toList

/-- What the label of a run without its kernel offload ends in. -/
def userspaceNote : Text := " (ktls->userspace)".toList

/-- A label without the note that the offload was not delivered. -/
def unannotated (label : Text) : Text :=
  if userspaceNote <:+ label then label.take (label.length - userspaceNote.length) else label

/-- A label names a protection: its word occurs, in any case of its letters. -/
def Names (label : Text) (protection : Protection) : Prop :=
  protection.word <:+: asciiLower (unannotated label)

instance (label : Text) : DecidablePred (Names label) := fun protection =>
  inferInstanceAs (Decidable (protection.word <:+: _))

/-- What a custom plan applies: the gateway's own providers are known by name, one from
elsewhere is not known to apply any protection. -/
def customApplies (p : Protocol) : Protection → Bool
  | .tls => ["tls", "ktls", "dtls"].any (p.securityProvider = some ·)
  | .mtls =>
      ["tls", "ktls", "dtls"].any (p.securityProvider = some ·) &&
        p.providerParams["verify"]? = some (.str "mutual")
  | .dtls => p.securityProvider = some "dtls"
  | .ktls => p.securityProvider = some "ktls"

/-- What a plan applies to the scenario's traffic. -/
def GwSecurity.applies (p : Protocol) : GwSecurity → Protection → Bool
  | .tls _ _, .tls => true
  | .mtls _ _, .tls => true
  | .integrityOnly _, .tls => true
  | .dtls _ _, .tls => true
  | .mtls _ _, .mtls => true
  | .dtls _ mutualAuth, .mtls => mutualAuth
  | .dtls _ _, .dtls => true
  | .tls _ ktls, .ktls => ktls
  | .mtls _ ktls, .ktls => ktls
  | .custom, protection => customApplies p protection
  | _, _ => false

def PlanApplies (s : Scenario) (protection : Protection) : Prop :=
  ∃ plan, gatewayPlan s = some plan ∧ plan.security.applies s.protocol protection = true

/-- The label recorded after a run with these logs claims no more than the plan applies, and
kernel TLS only where no log denies it. -/
def Honest (s : Scenario) (logs : List (Option Text)) : Prop :=
  ∀ label, recordedProtocol s logs = some label →
    (∀ protection, Names label protection → PlanApplies s protection) ∧
      (Names label .ktls → ∀ text, some text ∈ logs → ¬MarkerOccurs text)

/-- What names a kind of TLS names TLS. -/
theorem Names.tls {label : Text} {protection : Protection} (named : Names label protection) :
    Names label .tls := by
  have word : Protection.tls.word <:+: protection.word := by
    cases protection <;> decide
  exact word.trans named

end Seshat.Commands
