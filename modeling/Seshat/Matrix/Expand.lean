import Seshat.Matrix.Spec
import Mathlib.Data.List.Dedup
import Mathlib.Tactic.Common

/-! The expansion of a matrix document. Every family is a list of pushes, and the rows of a
document are pushed one by one, each under a name of its own. -/

namespace Seshat.Matrix

/-- What a row is emitted for. -/
inductive Origin where
  /-- A profile at hand. -/
  | profile (profile : Profile)
  /-- The profile of an id that is written out and not looked up. -/
  | named (id : String)
  /-- No profile: a group of rows of its own. -/
  | group (label : String)

/-- A row that waits for its ordinal. -/
structure Push where
  origin : Origin
  name : Text
  row : Nat → Row

structure Emitted where
  origin : Origin
  row : Row

def Push.emit (push : Push) (ordinal : Nat) : Emitted where
  origin := push.origin
  row := { push.row ordinal with name := push.name }

def pushUnique (scenarios : List Emitted) (push : Push) : Except Text (List Emitted) :=
  if (scenarios.map (·.row.name)).contains push.name then
    .error ("matrix expansion generated duplicate name '".toList ++ push.name ++ "'".toList)
  else .ok (scenarios ++ [push.emit scenarios.length])

def pushAll (pushes : List Push) : Except Text (List Emitted) := pushes.foldlM pushUnique []

/-- `"_"`-joined parts. -/
def joined (parts : List Text) : Text := ['_'].intercalate parts

/-- `text.replace(word, "")` behind `skip` characters of a match. -/
def removeFrom (word : Text) : Nat → Text → Text
  | _, [] => []
  | skip + 1, _ :: rest => removeFrom word skip rest
  | 0, c :: rest =>
      if word <+: c :: rest then removeFrom word (word.length - 1) rest
      else c :: removeFrom word 0 rest

/-- A chain as it is named: without `scg-`. -/
def chainLabel (chain : String) : Text := removeFrom "scg-".toList 0 chain.toList

/-! Sizes and connections. -/

inductive Tier where
  | catalog
  | nightly
  | canonical
  | everything
  deriving DecidableEq, Repr

def tierName : Tier → String
  | .catalog => "catalog"
  | .nightly => "nightly"
  | .canonical => "canonical"
  | .everything => "everything"

def udpPayloadMax : UInt32 := 65507

def encryptedDatagramMax : UInt32 := 9000

def datagramSizeCap (protocol : Value) : UInt32 :=
  if protocol.str "type" = some "none" then udpPayloadMax else encryptedDatagramMax

def profileSizes (profile : Profile) (dimensions : Dimensions) : List UInt32 :=
  if profile.messageClass = "datagram" then
    dimensions.datagramMessageSizes.filter fun size => size ≤ datagramSizeCap profile.protocol
  else dimensions.streamMessageSizes

def canonicalSize (profile : Profile) (dimensions : Dimensions) : UInt32 :=
  if profile.messageClass = "datagram" then dimensions.canonicalDatagramMessageSize
  else dimensions.canonicalStreamMessageSize

def unionConnections (left right : List UInt32) : List UInt32 :=
  ((left ++ right).mergeSort fun a b => a ≤ b).dedup

def tierConnections (profile : Profile) (dimensions : Dimensions) : Tier → List UInt32
  | .catalog => dimensions.catalogConnections
  | .everything => dimensions.catalogConnections
  | .nightly =>
      if profile.scalability then
        unionConnections dimensions.nightlyConnections dimensions.scalabilityConnections
      else dimensions.nightlyConnections
  | .canonical => dimensions.canonicalConnections

def tierSizes (profile : Profile) (dimensions : Dimensions) : Tier → List UInt32
  | .canonical => [canonicalSize profile dimensions]
  | _ => profileSizes profile dimensions

/-- An empty list of connection counts allows every one. -/
def Profile.Allows (profile : Profile) (connections : UInt32) : Prop :=
  profile.connections = [] ∨ connections ∈ profile.connections

instance (profile : Profile) : DecidablePred profile.Allows :=
  fun connections => inferInstanceAs (Decidable (_ ∨ connections ∈ _))

/-! Rows of a profile. -/

section Profiles

variable (profile : Profile)

def stamp (row : Row) : Row :=
  stampAddressFamily (stampOptimizationFlags row profile.optimizationFlags) profile.addressFamily

/-- A gateway row of a profile. -/
def profileRow (category interface chain : String) (size connections : UInt32) (ordinal : Nat) :
    Row :=
  scenario category interface profile.protocol true chain size connections profile.requirements
    none ordinal

def throughputPush (interface chain : String) (size connections : UInt32) : Push where
  origin := .profile profile
  name := joined ["matrix".toList, profile.id.toList, interface.toList, sizeLabel size,
    chainLabel chain, decimal connections ++ ['c']]
  row ordinal := stamp profile (profileRow profile "matrix" interface chain size connections ordinal)

def latencyPush (interface : String) (size : UInt32) : Push where
  origin := .profile profile
  name := joined ["matrix".toList, "lat".toList, profile.id.toList, interface.toList,
    sizeLabel size, "direct".toList, "1c".toList]
  row ordinal :=
    stamp profile
      { profileRow profile "matrix-latency" interface "scg-direct" size 1 ordinal with
        mode := some "pingpong" }

/-- The rows of one interface, chain and size. -/
def cellPushes (tier : Tier) (connections : List UInt32) (interface chain : String)
    (size : UInt32) : List Push :=
  ((connections.filter fun count => profile.Allows count).map
    (throughputPush profile interface chain size)) ++
    if tier ≠ .catalog ∧ chain = "scg-direct" ∧ profile.Allows 1 then
      [latencyPush profile interface size]
    else []

def selected (tier : Tier) : Bool :=
  tier = .catalog || tier = .everything || profile.tiers.contains (tierName tier)

def profilePushes (dimensions : Dimensions) (tier : Tier) : List Push :=
  if selected profile tier then
    profile.interfaces.flatMap fun interface =>
      profile.chains.flatMap fun chain =>
        (tierSizes profile dimensions tier).flatMap
          (cellPushes profile tier (tierConnections profile dimensions tier) interface chain)
  else []

end Profiles

/-! Rows of no profile. -/

def tlsProtocol (fields : List (String × Value)) : Value := .object (("type", .string "tls") :: fields)

/-- Lower-case alphanumerics, everything else an underscore, which is trimmed. -/
def sanitizeName (value : String) : Text :=
  let mapped := value.toList.map fun c => if c.isAlphanum then c.toLower else '_'
  ((mapped.dropWhile (· = '_')).reverse.dropWhile (· = '_')).reverse

def cipherSizeGrid (tier : Tier) (canonical : UInt32) (all preferred : List UInt32) : List UInt32 :=
  if tier = .canonical then [canonical]
  else
    let grid := all.filter fun size => size ∈ preferred
    if grid.isEmpty then [canonical] else grid

def cipherPush (base : Text) (interface : String) (protocol : Value) (requirements : List String)
    (size canonical : UInt32) : Push where
  origin := .group "cipher"
  name := if size = canonical then base else base ++ '_' :: decimal size ++ ['B']
  row := scenario "cipher-matrix" interface protocol true "scg-direct" size 1 requirements none

def cipherTls (version suite : String) : Value :=
  tlsProtocol [("version", .string version), ("cipher_suite", .string suite)]

def cipherKtls (version suite : String) : Value :=
  tlsProtocol [("kernel", .bool true), ("version", .string version),
    ("cipher_suite", .string suite)]

def cipherDtls (suite : String) : Value :=
  .object [("type", .string "dtls"), ("version", .string "1.2"), ("cipher_suite", .string suite)]

/-- The canonical tier keeps the first suite. -/
def cipherSuites (tier : Tier) (suites : List String) : List String :=
  if tier = .canonical then suites.take 1 else suites

def cipherPushes (spec : MatrixSpec) (tier : Tier) : List Push :=
  let stream := spec.dimensions.canonicalStreamMessageSize
  let streamSizes :=
    cipherSizeGrid tier stream spec.dimensions.streamMessageSizes [1024, stream, 16384]
  let datagram := spec.dimensions.canonicalDatagramMessageSize
  let datagramSizes :=
    cipherSizeGrid tier datagram spec.dimensions.datagramMessageSizes [256, datagram, 1400]
  ([("1.2", "12", spec.cipherMatrix.tls12), ("1.3", "13", spec.cipherMatrix.tls13)].flatMap
    fun (version, vshort, suites) =>
      (cipherSuites tier suites).flatMap fun suite =>
        streamSizes.flatMap fun size =>
          [cipherPush ("cipher_tls".toList ++ vshort.toList ++ '_' :: sanitizeName suite) "tcp"
              (cipherTls version suite) ["openssl"] size stream,
            cipherPush ("cipher_ktls".toList ++ vshort.toList ++ '_' :: sanitizeName suite) "tcp"
              (cipherKtls version suite) ["openssl", "ktls"] size stream]) ++
    (cipherSuites tier spec.cipherMatrix.tls12).flatMap fun suite =>
      datagramSizes.map fun size =>
        cipherPush ("cipher_dtls12_".toList ++ sanitizeName suite) "udp" (cipherDtls suite)
          ["openssl"] size datagram

/-- The churn width 4 has no suffix. -/
def handshakePush (base : Text) (protocol : Value) (connections : UInt32) : Push where
  origin := .group "handshake"
  name := if connections = 4 then base else base ++ '_' :: decimal connections ++ ['c']
  row ordinal :=
    { scenario "handshake-auth" "tcp" protocol true "scg-direct" 64 connections ["openssl"] none
        ordinal with
      mode := some "connrate" }

def authProtocol (cert : String) : Value :=
  tlsProtocol [("version", .string "1.3"), ("cert_key_type", .string cert)]

def kexProtocol (kexGroup : String) : Value :=
  tlsProtocol [("version", .string "1.3"), ("cert_key_type", .string "ecdsa"),
    ("kex_group", .string kexGroup)]

def handshakePushes (tier : Tier) : List Push :=
  let widths : List UInt32 := if tier = .canonical then [4] else [1, 4]
  (["ecdsa", "rsa"].flatMap fun cert =>
    widths.map (handshakePush ("handshake_tls13_".toList ++ cert.toList) (authProtocol cert))) ++
    [("x25519", "X25519"), ("p256", "P-256")].flatMap fun (label, kexGroup) =>
      widths.map (handshakePush ("handshake_kex_".toList ++ label.toList) (kexProtocol kexGroup))

/-- A limitation is a disabled row. -/
def blockedPush (limitation : Limitation) : Push where
  origin := .group "blocked"
  name := "blocked_".toList ++ limitation.name.toList
  row ordinal :=
    { scenario "unsupported" limitation.interface limitation.protocol true limitation.chain 1024 1
        [] none ordinal with
      enabled := some false, disabledReason := some limitation.reason }

def blockedPushes (spec : MatrixSpec) : List Push := spec.limitations.map blockedPush

def tierPushes (spec : MatrixSpec) (tier : Tier) : List Push :=
  (spec.profiles.flatMap fun profile => profilePushes profile spec.dimensions tier) ++
    cipherPushes spec tier ++ handshakePushes tier ++ blockedPushes spec

def expandProfiles (spec : MatrixSpec) (tier : Tier) : Except Text (List Emitted) :=
  pushAll (tierPushes spec tier)

/-! Hot reload. -/

def reloadEvent (action : String) : RowReload where
  triggerAtSecs := 3
  action
  expectZeroDrops := decide (action ≠ "rotate_cert")
  measureWindowBeforeSecs := 2
  measureWindowAfterSecs := 5

/-- A row that reloads under load. -/
def reloading (row : Row) (rateLimitMbps : Option ℚ) (action : String) : Row :=
  { row with
    sender := { row.sender with rateLimitMbps }, reloadEvent := some (reloadEvent action) }

/-- The hot-reload executor is a TCP gateway path. -/
def Profile.Reloadable (spec : MatrixSpec) (profile : Profile) : Prop :=
  profile.id ∈ spec.hotReloadProfiles ∧ profile.interfaces = ["tcp"] ∧
    "scg-direct" ∈ profile.chains

instance (spec : MatrixSpec) : DecidablePred (Profile.Reloadable spec) :=
  fun _ => inferInstanceAs (Decidable (_ ∧ _ ∧ _))

def reloadActions (profile : Profile) : List String :=
  ["add_connection", "remove_connection", "invalid_config"] ++
    if profile.protocol.str "type" = some "tls" then ["rotate_cert"] else []

def reloadConnections : List UInt32 := [1, 4, 16, 64]

def reloadPush (dimensions : Dimensions) (profile : Profile) (connections : UInt32)
    (load action : String) : Push where
  origin := .profile profile
  name := joined ["hotreload".toList, profile.id.toList, action.toList,
    load.toList.map fun c => if c = '-' then '_' else c, decimal connections ++ ['c']]
  row ordinal :=
    reloading
      (profileRow profile ("hotreload-" ++ load) "tcp" "scg-direct"
        dimensions.canonicalStreamMessageSize connections ordinal)
      (if load = "sub-saturation" then some 100 else none) action

def reloadPushes (spec : MatrixSpec) : List Push :=
  (spec.profiles.filter fun profile => profile.Reloadable spec).flatMap fun profile =>
    reloadConnections.flatMap fun connections =>
      ["sub-saturation", "saturation"].flatMap fun load =>
        (reloadActions profile).map (reloadPush spec.dimensions profile connections load)

def expandHotreload (spec : MatrixSpec) : Except Text (List Emitted) := pushAll (reloadPushes spec)

end Seshat.Matrix
