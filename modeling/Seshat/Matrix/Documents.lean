import Seshat.Matrix.Expand

/-! The smoke, the interface-comparison and the other documents of a matrix. -/

namespace Seshat.Matrix

/-! Smoke. -/

section Smoke

variable (spec : MatrixSpec)

def smokePush (profile : Profile) (interface chain : String) : Push where
  origin := .profile profile
  name := joined ["smoke".toList, profile.id.toList, interface.toList, chainLabel chain]
  row ordinal :=
    stamp profile
      (profileRow profile "smoke" interface chain (canonicalSize profile spec.dimensions) 1 ordinal)

def smokeProfilePushes (profile : Profile) : List Push :=
  profile.interfaces.flatMap fun interface =>
    profile.chains.map (smokePush spec profile interface)

/-- One closed-loop repetition per plaintext-routing transport. -/
def latencyReps : List String :=
  ["routing_tcp", "routing_udp", "routing_uds", "routing_shm", "routing_shmslot", "routing_tproxy"]

def smokeLatencyPush (id : String) (profile : Profile) (interface : String) : Push where
  origin := .profile profile
  name := "smoke_lat_".toList ++ id.toList
  row ordinal :=
    stamp profile
      { profileRow profile "smoke-latency" interface "scg-direct"
          (canonicalSize profile spec.dimensions) 1 ordinal with
        mode := some "pingpong" }

/-- The first interface of the profile. Validation leaves none without one. -/
def smokeLatencyPushes (id : String) : List Push :=
  (spec.profiles.find? fun profile => profile.id = id).toList.flatMap fun profile =>
    (profile.interfaces.take 1).map (smokeLatencyPush spec id profile)

def smokeCipherPushes : List Push :=
  let stream := spec.dimensions.canonicalStreamMessageSize
  let datagram := spec.dimensions.canonicalDatagramMessageSize
  ((spec.cipherMatrix.tls12.take 1).flatMap fun suite =>
    [cipherPush "smoke_cipher_tls12".toList "tcp" (cipherTls "1.2" suite) ["openssl"] stream stream,
      cipherPush "smoke_cipher_ktls12".toList "tcp" (cipherKtls "1.2" suite) ["openssl", "ktls"]
        stream stream,
      cipherPush "smoke_cipher_dtls12".toList "udp" (cipherDtls suite) ["openssl"] datagram
        datagram]) ++
    (spec.cipherMatrix.tls13.take 1).flatMap fun suite =>
      [cipherPush "smoke_cipher_tls13".toList "tcp" (cipherTls "1.3" suite) ["openssl"] stream
          stream,
        cipherPush "smoke_cipher_ktls13".toList "tcp" (cipherKtls "1.3" suite) ["openssl", "ktls"]
          stream stream]

def smokeHandshakePushes : List Push :=
  [handshakePush "smoke_handshake_ecdsa".toList (authProtocol "ecdsa") 4,
    handshakePush "smoke_handshake_rsa".toList (authProtocol "rsa") 4,
    handshakePush "smoke_handshake_kex_x25519".toList (kexProtocol "X25519") 4,
    handshakePush "smoke_handshake_kex_p256".toList (kexProtocol "P-256") 4]

def smokeResumptionPush : Push where
  origin := .group "resumption"
  name := "smoke_resumption_tls13".toList
  row ordinal :=
    { scenario "smoke-resumption" "tcp"
        (tlsProtocol [("version", .string "1.3"), ("resumption", .bool true)]) true "scg-direct"
        spec.dimensions.canonicalStreamMessageSize 1 ["openssl"] none ordinal with
      mode := some "connrate" }

def smokeReloadActions : List String :=
  ["add_connection", "remove_connection", "invalid_config", "rotate_cert"]

/-- The rows pin a duration that holds the reload timeline. -/
def smokeReloadPush (action : String) : Push where
  origin := .named "tls13_tcp"
  name := "smoke_hotreload_".toList ++ action.toList
  row ordinal :=
    { reloading
        (scenario "smoke-hotreload" "tcp" (tlsProtocol [("version", .string "1.3")]) true
          "scg-direct" spec.dimensions.canonicalStreamMessageSize 1 ["openssl"] none ordinal)
        (some 100) action with
      durationSecs := some 10, warmupSecs := some 1 }

def plainProtocol : Value := .object [("type", .string "none")]

/-- A baseline without a gateway. -/
def smokeLoopbackPush (label interface : String) (size : UInt32) : Push where
  origin := .group "loopback"
  name := "smoke_loopback_".toList ++ label.toList
  row := scenario "smoke-baseline" interface plainProtocol false "scg-direct" size 1 [] none

def smokeMultistreamRow : Row where
  name := "smoke_multistream".toList
  category := "smoke-scheduling"
  messageSizeBytes := 1024
  connections := 1
  gateway := { enabled := true, chain := "scg-direct" }
  protocol := plainProtocol
  streams :=
    [{ role := "safety", interface := "tcp", targetAddr := "127.0.0.1:17990",
        messageSizeBytes := 256, pattern := some "periodic", intervalUs := some 500,
        dscpTag := "EF", trafficClass := "safety", protocol := plainProtocol },
      { role := "bulk", interface := "tcp", targetAddr := "127.0.0.1:17990",
        messageSizeBytes := 4096, pattern := none, intervalUs := none,
        dscpTag := "BE", trafficClass := "normal", protocol := plainProtocol }]
  sender := { interface := "tcp", targetAddr := "127.0.0.1:17990".toList }
  requirements := []
  description := "smoke: multi-stream DSCP scheduling (safety + bulk), tcp/plain".toList

def smokeMultistreamPush : Push where
  origin := .group "multistream"
  name := "smoke_multistream".toList
  row _ := smokeMultistreamRow

/-- The rows that no profile of the document stands behind. -/
def smokeGroupPushes : List Push :=
  smokeCipherPushes spec ++ smokeHandshakePushes ++ [smokeResumptionPush spec]

def smokeTailPushes : List Push :=
  [smokeLoopbackPush "tcp" "tcp" spec.dimensions.canonicalStreamMessageSize,
    smokeLoopbackPush "udp" "udp" spec.dimensions.canonicalDatagramMessageSize,
    smokeMultistreamPush] ++ blockedPushes spec

def smokePushes : List Push :=
  spec.profiles.flatMap (smokeProfilePushes spec) ++ latencyReps.flatMap (smokeLatencyPushes spec) ++
    smokeGroupPushes spec ++ smokeReloadActions.map (smokeReloadPush spec) ++ smokeTailPushes spec

def expandSmoke : Except Text (List Emitted) := pushAll (smokePushes spec)

end Smoke

/-! Interface comparison. -/

def ComparisonPath.SupportsConnections (path : ComparisonPath) (connections : UInt32) : Prop :=
  path.connections = [] ∨ connections ∈ path.connections

instance (path : ComparisonPath) : DecidablePred path.SupportsConnections :=
  fun connections => inferInstanceAs (Decidable (_ ∨ connections ∈ _))

/-- The TCP path of a kind that the rows are compared with. -/
def InterfaceComparison.tcpPath (comparison : InterfaceComparison) (gateway : Bool) :
    Option ComparisonPath :=
  comparison.paths.find? fun path => path.gateway = gateway && path.interface = "tcp"

def ifaceName (id kind : String) (size connections : UInt32) : Text :=
  joined ["iface".toList, id.toList, kind.toList, sizeLabel size, decimal connections ++ ['c']]

def ifaceGroup (kind : String) (size connections : UInt32) : Text :=
  ['-'].intercalate ["iface".toList, kind.toList, sizeLabel size, decimal connections ++ ['c']]

def routingOnly : Value :=
  .object [("type", .string "none"), ("protection_mode", .string "routing-only")]

section Comparison

variable (direct gateway : ComparisonPath) (kind : String) (size connections : UInt32)

def comparisonMeta (calibrationGroup : Option Text) (calibrationFraction : Option ℚ) :
    RowComparison where
  group := ifaceGroup kind size connections
  reference := ifaceName direct.id kind size connections
  gatewayReference := ifaceName gateway.id kind size connections
  calibrationGroup
  calibrationFraction

def comparisonRow (category : String) (path : ComparisonPath) (comparison : RowComparison)
    (ordinal : Nat) : Row :=
  scenario category path.interface routingOnly path.gateway path.chain size connections
    path.requirements (some comparison) ordinal

end Comparison

section Interfaces

variable (comparison : InterfaceComparison) (direct gateway : ComparisonPath)
  (size connections : UInt32)

def throughputComparison (path : ComparisonPath) : Push where
  origin := .group "routing"
  name := ifaceName path.id "throughput" size connections
  row :=
    comparisonRow size connections "interface-comparison-throughput" path
      (comparisonMeta direct gateway "throughput" size connections none none)

/-- Closed-loop latency. It refers to the throughput group of its size and connections. -/
def latencyComparison (path : ComparisonPath) : Push where
  origin := .group "routing"
  name := ifaceName path.id "latency" size connections
  row ordinal :=
    { comparisonRow size connections "interface-comparison-latency" path
        (comparisonMeta direct gateway "latency" size connections
          (some (ifaceGroup "throughput" size connections)) (some comparison.latencyFraction))
        ordinal with
      mode := some "pingpong" }

/-- A push for every size, connection count and path that supports it. -/
def pathPushes (sizes counts : List UInt32) (push : UInt32 → UInt32 → ComparisonPath → Push) :
    List Push :=
  sizes.flatMap fun size => counts.flatMap fun connections =>
    (comparison.paths.filter fun path => path.SupportsConnections connections).map
      (push size connections)

def comparisonPushes : List Push :=
  pathPushes comparison comparison.throughputMessageSizes comparison.throughputConnections
      (throughputComparison direct gateway) ++
    pathPushes comparison comparison.latencyMessageSizes comparison.latencyConnections
      (latencyComparison comparison direct gateway)

end Interfaces

def expandInterfaceComparison (spec : MatrixSpec) : Except Text (List Emitted) :=
  match spec.interfaceComparison.tcpPath false with
  | none => .error "interface comparison needs a direct TCP loopback path".toList
  | some direct =>
      match spec.interfaceComparison.tcpPath true with
      | none => .error "interface comparison needs an SCG TCP routing path".toList
      | some gateway => pushAll (comparisonPushes spec.interfaceComparison direct gateway)

/-! The documents. -/

structure Document where
  file : String
  scenarios : List Emitted

def renderDocuments (spec : MatrixSpec) : Except Text (List Document) := do
  let catalog ← expandProfiles spec .catalog
  let nightly ← expandProfiles spec .nightly
  let canonical ← expandProfiles spec .canonical
  let comparison ← expandInterfaceComparison spec
  let hotreload ← expandHotreload spec
  let smoke ← expandSmoke spec
  let everything ← expandProfiles spec .everything
  return [⟨"matrix_catalog.json", catalog⟩, ⟨"full_matrix.json", nightly⟩,
    ⟨"canonical_matrix.json", canonical⟩, ⟨"interface_comparison.json", comparison⟩,
    ⟨"hotreload_matrix.json", hotreload⟩, ⟨"smoke_matrix.json", smoke⟩,
    ⟨"everything_matrix.json", everything⟩]

def generate (spec : MatrixSpec) : Except Text (List Document) := do
  validateSpec spec
  renderDocuments spec

end Seshat.Matrix
