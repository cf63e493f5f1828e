import Seshat.Matrix.Origins

/-! The datagram cap. The size sweep filters by the cap of the protocol. The canonical sizes do
not pass it: they reach the smoke, the canonical, the cipher and the hot-reload rows as they are. -/

namespace Seshat.Matrix

/-- A row of a datagram-class profile, or of a cipher over UDP. -/
def DatagramRow (spec : MatrixSpec) (emitted : Emitted) : Prop :=
  (∃ profile ∈ spec.profiles, profile.messageClass = "datagram" ∧ EmittedFor emitted profile) ∨
    emitted.origin = .group "cipher" ∧ emitted.row.sender.interface = "udp"

def Row.Capped (row : Row) : Prop := row.messageSizeBytes ≤ datagramSizeCap row.protocol

/-- No enabled datagram row exceeds the cap. -/
def DatagramsCapped (spec : MatrixSpec) (docs : List Document) : Prop :=
  ∀ document ∈ docs, ∀ emitted ∈ document.scenarios, emitted.row.enabled ≠ some false →
    DatagramRow spec emitted → emitted.row.Capped

/-- What the cap asks of the canonical sizes. -/
structure CanonicalFits (spec : MatrixSpec) : Prop where
  profile : ∀ profile ∈ spec.profiles, profile.messageClass = "datagram" →
    spec.dimensions.canonicalDatagramMessageSize ≤ datagramSizeCap profile.protocol
  /-- The hot-reload rows run at the canonical stream size. -/
  reload : ∀ profile ∈ spec.profiles, profile.messageClass = "datagram" →
    profile.Reloadable spec →
      spec.dimensions.canonicalStreamMessageSize ≤ datagramSizeCap profile.protocol
  smokeReload : ∀ profile ∈ spec.profiles, profile.messageClass = "datagram" →
    profile.id = "tls13_tcp" →
      spec.dimensions.canonicalStreamMessageSize ≤ encryptedDatagramMax
  cipher : spec.cipherMatrix.tls12 ≠ [] →
    spec.dimensions.canonicalDatagramMessageSize ≤ encryptedDatagramMax

/-! The rows of each family. -/

section Sizes

variable (profile : Profile) (row : Row)

theorem stamp_size : (stamp profile row).messageSizeBytes = row.messageSizeBytes :=
  stamp_keeps Row.messageSizeBytes (fun _ _ _ _ => rfl) profile row

theorem stamp_protocol : (stamp profile row).protocol = row.protocol :=
  stamp_keeps Row.protocol (fun _ _ _ _ => rfl) profile row

theorem stamp_enabled : (stamp profile row).enabled = row.enabled :=
  stamp_keeps Row.enabled (fun _ _ _ _ => rfl) profile row

theorem stamp_capped : (stamp profile row).Capped ↔ row.Capped := by
  rw [Row.Capped, stamp_size, stamp_protocol, Row.Capped]

end Sizes

section Families

variable {spec : MatrixSpec} {profile : Profile} {interface chain : String}
  {size connections : UInt32} {ordinal : ℕ}

theorem capped_throughput :
    ((throughputPush profile interface chain size connections).emit ordinal).row.Capped ↔
      size ≤ datagramSizeCap profile.protocol :=
  stamp_capped profile (profileRow profile "matrix" interface chain size connections ordinal)

theorem capped_latency :
    ((latencyPush profile interface size).emit ordinal).row.Capped ↔
      size ≤ datagramSizeCap profile.protocol :=
  stamp_capped profile _

theorem capped_smoke :
    ((smokePush spec profile interface chain).emit ordinal).row.Capped ↔
      canonicalSize profile spec.dimensions ≤ datagramSizeCap profile.protocol :=
  stamp_capped profile _

theorem capped_smokeLatency {id : String} :
    ((smokeLatencyPush spec id profile interface).emit ordinal).row.Capped ↔
      canonicalSize profile spec.dimensions ≤ datagramSizeCap profile.protocol :=
  stamp_capped profile _

end Families

/-! What a datagram row is made for. -/

section Origins

variable {spec : MatrixSpec} {emitted : Emitted} (datagram : DatagramRow spec emitted)
include datagram

theorem DatagramRow.of_profile {profile : Profile} (origin : emitted.origin = .profile profile) :
    profile.messageClass = "datagram" := by
  rcases datagram with ⟨owner, -, sent, own⟩ | ⟨cipher, -⟩
  · rw [EmittedFor, origin] at own
    obtain rfl : profile = owner := by simpa using own
    exact sent
  · rw [origin] at cipher
    cases cipher

theorem DatagramRow.of_named {id : String} (origin : emitted.origin = .named id) :
    ∃ profile ∈ spec.profiles, profile.messageClass = "datagram" ∧ profile.id = id := by
  rcases datagram with ⟨owner, listed, sent, own⟩ | ⟨cipher, -⟩
  · rw [EmittedFor, origin] at own
    obtain rfl : id = owner.id := by simpa using own
    exact ⟨owner, listed, sent, rfl⟩
  · rw [origin] at cipher
    cases cipher

theorem DatagramRow.of_group {label : String} (origin : emitted.origin = .group label) :
    label = "cipher" ∧ emitted.row.sender.interface = "udp" := by
  rcases datagram with ⟨owner, -, -, own⟩ | ⟨cipher, udp⟩
  · rw [EmittedFor, origin] at own
    simp at own
  · rw [origin] at cipher
    exact ⟨Origin.group.inj cipher, udp⟩

end Origins

theorem canonicalSize_datagram {profile : Profile} (dimensions : Dimensions)
    (sent : profile.messageClass = "datagram") :
    canonicalSize profile dimensions = dimensions.canonicalDatagramMessageSize := by
  rw [canonicalSize, if_pos sent]

namespace CanonicalFits

variable {spec : MatrixSpec} (fits : CanonicalFits spec)
include fits

theorem canonical {profile : Profile} (listed : profile ∈ spec.profiles)
    (sent : profile.messageClass = "datagram") :
    canonicalSize profile spec.dimensions ≤ datagramSizeCap profile.protocol := by
  rw [canonicalSize_datagram _ sent]
  exact fits.profile profile listed sent

/-- The sweep filters, the canonical selection does not. -/
theorem swept {profile : Profile} {tier : Tier} {size : UInt32} (listed : profile ∈ spec.profiles)
    (sent : profile.messageClass = "datagram")
    (sized : size ∈ tierSizes profile spec.dimensions tier) :
    size ≤ datagramSizeCap profile.protocol := by
  have filtered (kept : size ∈ profileSizes profile spec.dimensions) :
      size ≤ datagramSizeCap profile.protocol := by
    rw [profileSizes, if_pos sent] at kept
    exact of_decide_eq_true (List.mem_filter.mp kept).2
  cases tier with
  | catalog => exact filtered sized
  | nightly => exact filtered sized
  | canonical => exact List.mem_singleton.mp sized ▸ fits.canonical listed sent
  | everything => exact filtered sized

theorem cipherSize {suite : String} {size : UInt32} (listed : suite ∈ spec.cipherMatrix.tls12)
    (sized : size ∈ [256, spec.dimensions.canonicalDatagramMessageSize, 1400]) :
    size ≤ encryptedDatagramMax := by
  simp only [List.mem_cons, List.not_mem_nil, or_false] at sized
  rcases sized with rfl | rfl | rfl
  · decide
  · exact fits.cipher (List.ne_nil_of_mem listed)
  · decide

theorem capped {push : Push} (family : Family spec push) {ordinal : ℕ}
    (datagram : DatagramRow spec (push.emit ordinal)) : (push.emit ordinal).row.Capped := by
  cases family with
  | throughput listed linked chained sized allowed =>
    exact capped_throughput.mpr (fits.swept listed (datagram.of_profile rfl) sized)
  | latency listed linked chained sized allowed =>
    exact capped_latency.mpr (fits.swept listed (datagram.of_profile rfl) sized)
  | smoke listed linked chained =>
    exact capped_smoke.mpr (fits.canonical listed (datagram.of_profile rfl))
  | smokeLatency rep found linked =>
    have listed := List.mem_of_find?_eq_some found
    exact capped_smokeLatency.mpr (fits.canonical listed (datagram.of_profile rfl))
  | reload listed reloadable width =>
    exact fits.reload _ listed (datagram.of_profile rfl) reloadable
  | smokeReload listed =>
    obtain ⟨profile, named, sent, id⟩ := datagram.of_named rfl
    exact fits.smokeReload profile named sent id
  | streamCipher =>
    have tcp : "tcp" = "udp" := (datagram.of_group rfl).2
    exact absurd tcp (by decide)
  | datagramCipher listed sized => exact fits.cipherSize listed sized
  | handshake => exact absurd (datagram.of_group rfl).1 (by decide)
  | resumption => exact absurd (datagram.of_group rfl).1 (by decide)
  | loopback => exact absurd (datagram.of_group rfl).1 (by decide)
  | multistream => exact absurd (datagram.of_group rfl).1 (by decide)
  | blocked => exact absurd (datagram.of_group rfl).1 (by decide)

end CanonicalFits

section Documents

variable {spec : MatrixSpec} {docs : List Document} {direct gateway : ComparisonPath}

theorem smokeCipherPush_listed {suite : String} {rest : List String}
    (suites : spec.cipherMatrix.tls12 = suite :: rest) :
    Listed spec direct gateway
      (cipherPush "smoke_cipher_dtls12".toList "udp" (cipherDtls suite) ["openssl"]
        spec.dimensions.canonicalDatagramMessageSize
        spec.dimensions.canonicalDatagramMessageSize) := by
  apply smoke_listed
  simp only [smokePushes, smokeGroupPushes, List.mem_append]
  refine .inl (.inl (.inr (.inl (.inl ?_))))
  simp [smokeCipherPushes, suites]

theorem comparison_not_datagram {push : Push} {ordinal : ℕ}
    (member : push ∈ comparisonPushes spec.interfaceComparison direct gateway) :
    ¬DatagramRow spec (push.emit ordinal) := by
  rw [comparisonPushes, List.mem_append, mem_pathPushes, mem_pathPushes] at member
  intro datagram
  rcases member with ⟨_, -, _, -, _, -, -, rfl⟩ | ⟨_, -, _, -, _, -, -, rfl⟩ <;>
  exact absurd (datagram.of_group rfl).1 (by decide)

theorem Generated.capped (generated : Generated spec docs direct gateway)
    (fits : CanonicalFits spec) : DatagramsCapped spec docs := by
  intro document inside emitted here enabled datagram
  obtain ⟨pushes, inDocument, push, member, ordinal, rfl⟩ := generated.push_of_emitted inside here
  rcases document_families inDocument with rfl | families
  · exact absurd datagram (comparison_not_datagram member)
  · exact fits.capped (families push member) datagram

/-- The rows that pass no filter are emitted for every spec. -/
theorem Generated.canonicalFits (generated : Generated spec docs direct gateway)
    (capped : DatagramsCapped spec docs) : CanonicalFits spec := by
  have emits {push : Push} (listed : Listed spec direct gateway push)
      (enabled : ∀ ordinal, (push.emit ordinal).row.enabled = none)
      (datagram : ∀ ordinal, DatagramRow spec (push.emit ordinal)) :
      ∃ ordinal, (push.emit ordinal).row.Capped := by
    obtain ⟨pushes, inDocument, member⟩ := listed
    obtain ⟨document, inside, ordinal, here⟩ := generated.emitted_of_push inDocument member
    refine ⟨ordinal, capped document inside _ here ?_ (datagram ordinal)⟩
    rw [enabled ordinal]
    exact (Option.some_ne_none false).symm
  constructor
  · intro profile listed sent
    obtain ⟨linked, chained⟩ := validateSpec_profiles generated.accepted listed
    obtain ⟨interface, linked⟩ := List.exists_mem_of_ne_nil _ linked
    obtain ⟨chain, chained⟩ := List.exists_mem_of_ne_nil _ chained
    obtain ⟨ordinal, fits⟩ := emits (smokePush_listed listed linked chained)
      (fun ordinal => stamp_enabled profile _)
      (fun ordinal => .inl ⟨profile, listed, sent, .inl rfl⟩)
    rw [← canonicalSize_datagram spec.dimensions sent]
    exact capped_smoke.mp fits
  · intro profile listed sent reloadable
    have width : 1 ∈ reloadConnections := List.mem_cons_self
    obtain ⟨ordinal, fits⟩ := emits (reloadPush_listed listed reloadable width)
      (fun ordinal => rfl)
      (fun ordinal => .inl ⟨profile, listed, sent, .inl rfl⟩)
    exact fits
  · intro profile listed sent named
    obtain ⟨ordinal, fits⟩ := emits (smokeReloadPush_listed List.mem_cons_self)
      (fun ordinal => rfl)
      (fun ordinal => .inl ⟨profile, listed, sent, .inr (named ▸ rfl)⟩)
    exact fits
  · intro some_suite
    obtain ⟨suite, rest, suites⟩ := List.exists_cons_of_ne_nil some_suite
    obtain ⟨ordinal, fits⟩ := emits (smokeCipherPush_listed suites)
      (fun ordinal => rfl) (fun ordinal => .inr ⟨rfl, rfl⟩)
    exact fits

/-- No enabled datagram row exceeds the cap of its protocol iff the canonical sizes that the
expansion emits do not. -/
theorem datagrams_capped_iff (expanded : generate spec = .ok docs) :
    DatagramsCapped spec docs ↔ CanonicalFits spec := by
  obtain ⟨direct, gateway, generated⟩ := generate_ok expanded
  exact ⟨generated.canonicalFits, generated.capped⟩

end Documents

/-! A DTLS profile whose canonical datagram is larger than a jumbo frame. -/

def dtlsProfile : Profile where
  id := "dtls12_udp"
  protocol := .object [("type", .string "dtls"), ("version", .string "1.2")]
  interfaces := ["udp"]
  chains := ["scg-direct"]
  messageClass := "datagram"
  tiers := ["canonical"]

def jumboSpec : MatrixSpec where
  dimensions := { oneSize with canonicalDatagramMessageSize := 16384 }
  profiles := [dtlsProfile]
  interfaceComparison := tcpComparison

theorem jumboSpec_expands : ∃ docs, generate jumboSpec = .ok docs :=
  expands_of_isOk (by decide +kernel)

/-- Of a canonical size within the cap no row exceeds it. -/
theorem datagrams_capped_iff_small :
    ∃ docs, generate { jumboSpec with dimensions := oneSize } = .ok docs ∧
      DatagramsCapped { jumboSpec with dimensions := oneSize } docs := by
  have fits : CanonicalFits { jumboSpec with dimensions := oneSize } :=
    { profile := List.forall_mem_singleton.mpr fun _ => by decide +kernel
      reload := fun _ _ _ reloadable => absurd reloadable.1 List.not_mem_nil
      smokeReload := List.forall_mem_singleton.mpr fun _ named => absurd named (by decide)
      cipher := fun some_suite => absurd rfl some_suite }
  obtain ⟨docs, expanded⟩ :
      ∃ docs, generate { jumboSpec with dimensions := oneSize } = .ok docs :=
    expands_of_isOk (by decide +kernel)
  exact ⟨docs, expanded, (datagrams_capped_iff expanded).mpr fits⟩

/-- The canonical size is emitted as it is, above the cap of 9000 bytes. -/
theorem not_datagrams_capped :
    ∃ docs, generate jumboSpec = .ok docs ∧ ¬DatagramsCapped jumboSpec docs := by
  obtain ⟨docs, expanded⟩ := jumboSpec_expands
  obtain ⟨direct, gateway, generated⟩ := generate_ok expanded
  refine ⟨docs, expanded, fun capped => ?_⟩
  have fits : jumboSpec.dimensions.canonicalDatagramMessageSize ≤
      datagramSizeCap dtlsProfile.protocol :=
    (generated.canonicalFits capped).profile dtlsProfile (List.mem_singleton_self _) rfl
  exact absurd fits (by decide +kernel)

end Seshat.Matrix
