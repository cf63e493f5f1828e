import Seshat.Matrix.Generated

/-! The families of an expansion: every push outside the interface comparison, with where its
sizes, interfaces and chains come from. -/

namespace Seshat.Matrix

/-- A push outside the interface comparison. -/
inductive Family (spec : MatrixSpec) : Push → Prop
  | throughput {profile : Profile} {tier : Tier} {interface chain : String}
      {size connections : UInt32} (listed : profile ∈ spec.profiles)
      (linked : interface ∈ profile.interfaces) (chained : chain ∈ profile.chains)
      (sized : size ∈ tierSizes profile spec.dimensions tier)
      (allowed : profile.Allows connections) :
      Family spec (throughputPush profile interface chain size connections)
  | latency {profile : Profile} {tier : Tier} {interface : String} {size : UInt32}
      (listed : profile ∈ spec.profiles) (linked : interface ∈ profile.interfaces)
      (chained : "scg-direct" ∈ profile.chains)
      (sized : size ∈ tierSizes profile spec.dimensions tier) (allowed : profile.Allows 1) :
      Family spec (latencyPush profile interface size)
  | smoke {profile : Profile} {interface chain : String} (listed : profile ∈ spec.profiles)
      (linked : interface ∈ profile.interfaces) (chained : chain ∈ profile.chains) :
      Family spec (smokePush spec profile interface chain)
  | smokeLatency {profile : Profile} {id interface : String} (rep : id ∈ latencyReps)
      (found : spec.profiles.find? (fun profile => profile.id = id) = some profile)
      (linked : interface ∈ profile.interfaces) :
      Family spec (smokeLatencyPush spec id profile interface)
  | reload {profile : Profile} {connections : UInt32} {load action : String}
      (listed : profile ∈ spec.profiles) (reloadable : profile.Reloadable spec)
      (width : connections ∈ reloadConnections) :
      Family spec (reloadPush spec.dimensions profile connections load action)
  | smokeReload {action : String} (listed : action ∈ smokeReloadActions) :
      Family spec (smokeReloadPush spec action)
  | streamCipher {base : Text} {protocol : Value} {requirements : List String} {size : UInt32} :
      Family spec (cipherPush base "tcp" protocol requirements size
        spec.dimensions.canonicalStreamMessageSize)
  | datagramCipher {base : Text} {suite : String} {size : UInt32}
      (listed : suite ∈ spec.cipherMatrix.tls12)
      (sized : size ∈ [256, spec.dimensions.canonicalDatagramMessageSize, 1400]) :
      Family spec (cipherPush base "udp" (cipherDtls suite) ["openssl"] size
        spec.dimensions.canonicalDatagramMessageSize)
  | handshake {base : Text} {protocol : Value} {connections : UInt32} :
      Family spec (handshakePush base protocol connections)
  | resumption : Family spec (smokeResumptionPush spec)
  | loopback {label interface : String} {size : UInt32} :
      Family spec (smokeLoopbackPush label interface size)
  | multistream : Family spec smokeMultistreamPush
  | blocked {limitation : Limitation} (listed : limitation ∈ spec.limitations) :
      Family spec (blockedPush limitation)

section Families

variable {spec : MatrixSpec} {push : Push}

theorem profilePushes_family {profile : Profile} {tier : Tier} (listed : profile ∈ spec.profiles)
    (member : push ∈ profilePushes profile spec.dimensions tier) : Family spec push := by
  unfold profilePushes at member
  split at member
  · simp only [List.mem_flatMap] at member
    obtain ⟨interface, linked, chain, chained, size, sized, member⟩ := member
    rw [cellPushes, List.mem_append] at member
    rcases member with swept | latency
    · obtain ⟨connections, kept, rfl⟩ := List.mem_map.mp swept
      exact .throughput listed linked chained sized (of_decide_eq_true (List.mem_filter.mp kept).2)
    · split at latency
      · next applies =>
        obtain ⟨-, rfl, allowed⟩ := applies
        exact List.mem_singleton.mp latency ▸ .latency listed linked chained sized allowed
      · cases latency
  · cases member

theorem mem_cipherSuites {tier : Tier} {suites : List String} {suite : String}
    (member : suite ∈ cipherSuites tier suites) : suite ∈ suites := by
  unfold cipherSuites at member
  split at member
  · exact List.mem_of_mem_take member
  · exact member

/-- A grid keeps the preferred sizes, of which the canonical one stands alone if need be. -/
theorem mem_cipherSizeGrid {tier : Tier} {canonical size : UInt32} {all preferred : List UInt32}
    (keeps : canonical ∈ preferred) (member : size ∈ cipherSizeGrid tier canonical all preferred) :
    size ∈ preferred := by
  unfold cipherSizeGrid at member
  dsimp only at member
  split at member
  · exact List.mem_singleton.mp member ▸ keeps
  · split at member
    · exact List.mem_singleton.mp member ▸ keeps
    · exact of_decide_eq_true (List.mem_filter.mp member).2

theorem cipherPushes_family {tier : Tier} (member : push ∈ cipherPushes spec tier) :
    Family spec push := by
  simp only [cipherPushes, List.mem_append, List.mem_flatMap, List.mem_map] at member
  rcases member with ⟨_, -, suite, -, size, -, member⟩ | ⟨suite, listed, size, sized, rfl⟩
  · rcases List.mem_pair.mp member with rfl | rfl <;> exact .streamCipher
  · exact .datagramCipher (mem_cipherSuites listed) (mem_cipherSizeGrid (by simp) sized)

theorem handshakePushes_family {tier : Tier} (member : push ∈ handshakePushes tier) :
    Family spec push := by
  simp only [handshakePushes, List.mem_append, List.mem_flatMap, List.mem_map] at member
  rcases member with ⟨cert, -, width, -, rfl⟩ | ⟨group, -, width, -, rfl⟩ <;> exact .handshake

theorem blockedPushes_family (member : push ∈ blockedPushes spec) : Family spec push := by
  obtain ⟨limitation, listed, rfl⟩ := List.mem_map.mp member
  exact .blocked listed

theorem tierPushes_family {tier : Tier} (member : push ∈ tierPushes spec tier) :
    Family spec push := by
  simp only [tierPushes, List.mem_append, List.mem_flatMap] at member
  rcases member with ((⟨profile, listed, made⟩ | cipher) | handshake) | blocked
  · exact profilePushes_family listed made
  · exact cipherPushes_family cipher
  · exact handshakePushes_family handshake
  · exact blockedPushes_family blocked

theorem mem_reloadPushes :
    push ∈ reloadPushes spec ↔ ∃ profile ∈ spec.profiles, profile.Reloadable spec ∧
      ∃ connections ∈ reloadConnections, ∃ load ∈ ["sub-saturation", "saturation"],
        ∃ action ∈ reloadActions profile,
          reloadPush spec.dimensions profile connections load action = push := by
  simp only [reloadPushes, List.mem_flatMap, List.mem_filter, List.mem_map, decide_eq_true_eq,
    and_assoc]

theorem reloadPushes_family (member : push ∈ reloadPushes spec) : Family spec push := by
  obtain ⟨profile, listed, reloadable, connections, width, load, -, action, -, rfl⟩ :=
    mem_reloadPushes.mp member
  exact .reload listed reloadable width

theorem smokeCipherPushes_family (member : push ∈ smokeCipherPushes spec) : Family spec push := by
  simp only [smokeCipherPushes, List.mem_append, List.mem_flatMap, List.mem_cons,
    List.not_mem_nil, or_false] at member
  rcases member with ⟨suite, kept, rfl | rfl | rfl⟩ | ⟨suite, -, rfl | rfl⟩
  · exact .streamCipher
  · exact .streamCipher
  · exact .datagramCipher (List.mem_of_mem_take kept) (by simp)
  · exact .streamCipher
  · exact .streamCipher

theorem smokeHandshakePushes_family (member : push ∈ smokeHandshakePushes) :
    Family spec push := by
  simp only [smokeHandshakePushes, List.mem_cons, List.not_mem_nil, or_false] at member
  rcases member with rfl | rfl | rfl | rfl <;> exact .handshake

theorem smokeGroupPushes_family (member : push ∈ smokeGroupPushes spec) : Family spec push := by
  rw [smokeGroupPushes, List.mem_append, List.mem_append, List.mem_singleton] at member
  rcases member with (cipher | handshake) | rfl
  · exact smokeCipherPushes_family cipher
  · exact smokeHandshakePushes_family handshake
  · exact .resumption

theorem smokeTailPushes_family (member : push ∈ smokeTailPushes spec) : Family spec push := by
  rw [smokeTailPushes, List.mem_append] at member
  rcases member with fixed | blocked
  · simp only [List.mem_cons, List.not_mem_nil, or_false] at fixed
    rcases fixed with rfl | rfl | rfl
    · exact .loopback
    · exact .loopback
    · exact .multistream
  · exact blockedPushes_family blocked

theorem smokeLatencyPushes_family {id : String} (rep : id ∈ latencyReps)
    (member : push ∈ smokeLatencyPushes spec id) : Family spec push := by
  simp only [smokeLatencyPushes, List.mem_flatMap, Option.mem_toList, List.mem_map] at member
  obtain ⟨profile, found, interface, linked, rfl⟩ := member
  exact .smokeLatency rep found (List.mem_of_mem_take linked)

theorem smokePushes_family (member : push ∈ smokePushes spec) : Family spec push := by
  simp only [smokePushes, List.mem_append, List.mem_flatMap] at member
  rcases member with (((⟨profile, listed, swept⟩ | ⟨id, rep, latency⟩) | group) | reload) | tail
  · simp only [smokeProfilePushes, List.mem_flatMap, List.mem_map] at swept
    obtain ⟨interface, linked, chain, chained, rfl⟩ := swept
    exact .smoke listed linked chained
  · exact smokeLatencyPushes_family rep latency
  · exact smokeGroupPushes_family group
  · obtain ⟨action, listed, rfl⟩ := List.mem_map.mp reload
    exact .smokeReload listed
  · exact smokeTailPushes_family tail

theorem mem_pathPushes {comparison : InterfaceComparison} {sizes counts : List UInt32}
    {made : UInt32 → UInt32 → ComparisonPath → Push} :
    push ∈ pathPushes comparison sizes counts made ↔
      ∃ size ∈ sizes, ∃ connections ∈ counts, ∃ path ∈ comparison.paths,
        path.SupportsConnections connections ∧ made size connections path = push := by
  simp only [pathPushes, List.mem_flatMap, List.mem_map, List.mem_filter, decide_eq_true_eq,
    and_assoc]

/-- The pushes of a document are of the families, or those of the interface comparison. -/
theorem document_families {direct gateway : ComparisonPath} {pushes : List Push}
    (inDocument : pushes ∈ documentPushes spec direct gateway) :
    pushes = comparisonPushes spec.interfaceComparison direct gateway ∨
      ∀ push ∈ pushes, Family spec push := by
  simp only [documentPushes, List.mem_cons, List.not_mem_nil, or_false] at inDocument
  rcases inDocument with rfl | rfl | rfl | rfl | rfl | rfl | rfl
  · exact .inr fun push => tierPushes_family
  · exact .inr fun push => tierPushes_family
  · exact .inr fun push => tierPushes_family
  · exact .inl rfl
  · exact .inr fun push => reloadPushes_family
  · exact .inr fun push => smokePushes_family
  · exact .inr fun push => tierPushes_family

end Families

end Seshat.Matrix
