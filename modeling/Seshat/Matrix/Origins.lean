import Seshat.Matrix.Families

/-! What the pushes of the documents are made for: a profile at hand, the profile of an id that is
written out, or no profile. -/

namespace Seshat.Matrix

/-- A push that is made for a profile. -/
inductive ProfilePush (spec : MatrixSpec) (profile : Profile) : Push → Prop
  | throughput {interface chain : String} {size connections : UInt32}
      (linked : interface ∈ profile.interfaces) (chained : chain ∈ profile.chains)
      (allowed : profile.Allows connections) :
      ProfilePush spec profile (throughputPush profile interface chain size connections)
  | latency {interface : String} {size : UInt32} (linked : interface ∈ profile.interfaces)
      (chained : "scg-direct" ∈ profile.chains) (allowed : profile.Allows 1) :
      ProfilePush spec profile (latencyPush profile interface size)
  | smoke {interface chain : String} (linked : interface ∈ profile.interfaces)
      (chained : chain ∈ profile.chains) :
      ProfilePush spec profile (smokePush spec profile interface chain)
  | smokeLatency {id interface : String} (rep : id ∈ latencyReps)
      (found : spec.profiles.find? (fun profile => profile.id = id) = some profile)
      (linked : interface ∈ profile.interfaces) :
      ProfilePush spec profile (smokeLatencyPush spec id profile interface)
  | reload {connections : UInt32} {load action : String} (reloadable : profile.Reloadable spec)
      (width : connections ∈ reloadConnections) :
      ProfilePush spec profile (reloadPush spec.dimensions profile connections load action)

theorem ProfilePush.origin {spec : MatrixSpec} {profile : Profile} {push : Push}
    (made : ProfilePush spec profile push) : push.origin = .profile profile := by
  cases made <;> rfl

/-- A stamp touches the flags, the family and the target, and nothing else. -/
theorem stamp_frame (profile : Profile) (row : Row) :
    ∃ optimizationFlags addressFamily targetAddr, stamp profile row =
      { row with optimizationFlags, addressFamily, sender := { row.sender with targetAddr } } := by
  have flagged : ∃ optimizationFlags, stampOptimizationFlags row profile.optimizationFlags =
      { row with optimizationFlags } := by
    unfold stampOptimizationFlags
    split
    · exact ⟨_, rfl⟩
    · exact ⟨row.optimizationFlags, rfl⟩
  obtain ⟨flags, flagged⟩ := flagged
  unfold stamp stampAddressFamily
  rw [flagged]
  split
  · exact ⟨flags, row.addressFamily, row.sender.targetAddr, rfl⟩
  · exact ⟨flags, _, _, rfl⟩

/-- What a field reads from elsewhere survives stamping. -/
theorem stamp_keeps {α : Type} (field : Row → α)
    (elsewhere : ∀ (row : Row) (optimizationFlags : Option Value) (addressFamily : Option String)
      (targetAddr : Text),
      field { row with
        optimizationFlags, addressFamily, sender := { row.sender with targetAddr } } = field row)
    (profile : Profile) (row : Row) : field (stamp profile row) = field row := by
  obtain ⟨flags, family, target, framed⟩ := stamp_frame profile row
  rw [framed]
  exact elsewhere row flags family target

theorem stamp_comparison (profile : Profile) (row : Row) :
    (stamp profile row).comparison = row.comparison :=
  stamp_keeps Row.comparison (fun _ _ _ _ => rfl) profile row

/-- A row that is emitted for the profile. -/
def EmittedFor (emitted : Emitted) (profile : Profile) : Prop :=
  emitted.origin = .profile profile ∨ emitted.origin = .named profile.id

/-- A push that no profile stands behind. -/
def Push.Grouped (push : Push) : Prop := ∃ label, push.origin = .group label

def Push.Uncompared (push : Push) : Prop := ∀ ordinal, (push.row ordinal).comparison = none

/-- What a push outside the interface comparison is made for. -/
def Push.Classified (spec : MatrixSpec) (push : Push) : Prop :=
  (∃ profile ∈ spec.profiles, ProfilePush spec profile push) ∨
    (∃ action ∈ smokeReloadActions, push = smokeReloadPush spec action) ∨
    push.Grouped ∧ push.Uncompared

theorem ProfilePush.uncompared {spec : MatrixSpec} {profile : Profile} {push : Push}
    (made : ProfilePush spec profile push) : push.Uncompared := by
  intro ordinal
  cases made with
  | throughput => exact stamp_comparison _ _
  | latency => exact stamp_comparison _ _
  | smoke => exact stamp_comparison _ _
  | smokeLatency => exact stamp_comparison _ _
  | reload => rfl

theorem Push.Classified.uncompared {spec : MatrixSpec} {push : Push}
    (classified : push.Classified spec) : push.Uncompared := by
  rcases classified with ⟨profile, -, made⟩ | ⟨action, -, rfl⟩ | ⟨-, uncompared⟩
  · exact made.uncompared
  · exact fun _ => rfl
  · exact uncompared

section Families

variable {spec : MatrixSpec} {push : Push}

theorem Family.classified (family : Family spec push) : push.Classified spec := by
  cases family with
  | throughput listed linked chained sized allowed =>
    exact .inl ⟨_, listed, .throughput linked chained allowed⟩
  | latency listed linked chained sized allowed =>
    exact .inl ⟨_, listed, .latency linked chained allowed⟩
  | smoke listed linked chained => exact .inl ⟨_, listed, .smoke linked chained⟩
  | smokeLatency rep found linked =>
    exact .inl ⟨_, List.mem_of_find?_eq_some found, .smokeLatency rep found linked⟩
  | reload listed reloadable width => exact .inl ⟨_, listed, .reload reloadable width⟩
  | smokeReload listed => exact .inr (.inl ⟨_, listed, rfl⟩)
  | streamCipher => exact .inr (.inr ⟨⟨_, rfl⟩, fun _ => rfl⟩)
  | datagramCipher => exact .inr (.inr ⟨⟨_, rfl⟩, fun _ => rfl⟩)
  | handshake => exact .inr (.inr ⟨⟨_, rfl⟩, fun _ => rfl⟩)
  | resumption => exact .inr (.inr ⟨⟨_, rfl⟩, fun _ => rfl⟩)
  | loopback => exact .inr (.inr ⟨⟨_, rfl⟩, fun _ => rfl⟩)
  | multistream => exact .inr (.inr ⟨⟨_, rfl⟩, fun _ => rfl⟩)
  | blocked => exact .inr (.inr ⟨⟨_, rfl⟩, fun _ => rfl⟩)

theorem comparisonPushes_grouped {comparison : InterfaceComparison}
    {direct gateway : ComparisonPath} (member : push ∈ comparisonPushes comparison direct gateway) :
    push.Grouped := by
  rw [comparisonPushes, List.mem_append, mem_pathPushes, mem_pathPushes] at member
  rcases member with ⟨_, -, _, -, _, -, -, rfl⟩ | ⟨_, -, _, -, _, -, -, rfl⟩ <;> exact ⟨_, rfl⟩

end Families

section Documents

variable {spec : MatrixSpec} {docs : List Document} {direct gateway : ComparisonPath}
  {profile : Profile} {push : Push}

/-- A push of one of the documents. -/
def Listed (spec : MatrixSpec) (direct gateway : ComparisonPath) (push : Push) : Prop :=
  ∃ pushes ∈ documentPushes spec direct gateway, push ∈ pushes

/-- Outside the interface comparison every push is made for a profile of the spec, for
`tls13_tcp` or for none. -/
theorem document_classified {pushes : List Push}
    (inDocument : pushes ∈ documentPushes spec direct gateway) :
    pushes = comparisonPushes spec.interfaceComparison direct gateway ∨
      ∀ push ∈ pushes, push.Classified spec :=
  (document_families inDocument).imp_right fun families push member =>
    (families push member).classified

theorem smoke_listed (member : push ∈ smokePushes spec) : Listed spec direct gateway push :=
  ⟨smokePushes spec, by simp [documentPushes], member⟩

theorem smokePush_listed (listed : profile ∈ spec.profiles) {interface chain : String}
    (linked : interface ∈ profile.interfaces) (chained : chain ∈ profile.chains) :
    Listed spec direct gateway (smokePush spec profile interface chain) := by
  apply smoke_listed
  simp only [smokePushes, List.mem_append, List.mem_flatMap]
  refine .inl (.inl (.inl (.inl ⟨profile, listed, ?_⟩)))
  exact List.mem_flatMap.mpr ⟨interface, linked, List.mem_map_of_mem chained⟩

theorem smokeLatencyPush_listed {id interface : String} {rest : List String}
    (rep : id ∈ latencyReps)
    (found : spec.profiles.find? (fun profile => profile.id = id) = some profile)
    (linked : profile.interfaces = interface :: rest) :
    Listed spec direct gateway (smokeLatencyPush spec id profile interface) := by
  apply smoke_listed
  simp only [smokePushes, List.mem_append, List.mem_flatMap]
  refine .inl (.inl (.inl (.inr ⟨id, rep, ?_⟩)))
  simp [smokeLatencyPushes, found, linked]

theorem smokeReloadPush_listed {action : String} (member : action ∈ smokeReloadActions) :
    Listed spec direct gateway (smokeReloadPush spec action) := by
  apply smoke_listed
  simp only [smokePushes, List.mem_append]
  exact .inl (.inr (List.mem_map_of_mem member))

theorem reloadPush_listed (listed : profile ∈ spec.profiles) (reloadable : profile.Reloadable spec)
    {connections : UInt32} (width : connections ∈ reloadConnections) :
    Listed spec direct gateway
      (reloadPush spec.dimensions profile connections "saturation" "add_connection") := by
  refine ⟨reloadPushes spec, by simp [documentPushes], mem_reloadPushes.mpr ?_⟩
  refine ⟨profile, listed, reloadable, connections, width, _, ?_, _, ?_, rfl⟩
  · simp
  · simp [reloadActions]

namespace Generated

variable (generated : Generated spec docs direct gateway) {P : Profile → Row → Prop}
include generated

/-- A property of the rows of each profile holds of its pushes. -/
theorem emits
    (each : ∀ document ∈ docs, ∀ emitted ∈ document.scenarios, ∀ profile ∈ spec.profiles,
      EmittedFor emitted profile → P profile emitted.row)
    (listed : Listed spec direct gateway push) (member : profile ∈ spec.profiles)
    (made : push.origin = .profile profile ∨ push.origin = .named profile.id) :
    ∃ ordinal, P profile (push.emit ordinal).row := by
  obtain ⟨pushes, inDocument, here⟩ := listed
  obtain ⟨document, inside, ordinal, emitted⟩ := generated.emitted_of_push inDocument here
  exact ⟨ordinal, each document inside _ emitted profile member made⟩

/-- A property of the pushes of each profile, and of the reloads of `tls13_tcp`, holds of the rows
that are emitted for the profile. -/
theorem each
    (made : ∀ profile ∈ spec.profiles, ∀ push, ProfilePush spec profile push → ∀ ordinal,
      P profile (push.emit ordinal).row)
    (named : ∀ profile ∈ spec.profiles, profile.id = "tls13_tcp" → ∀ action ordinal,
      P profile ((smokeReloadPush spec action).emit ordinal).row) :
    ∀ document ∈ docs, ∀ emitted ∈ document.scenarios, ∀ profile ∈ spec.profiles,
      EmittedFor emitted profile → P profile emitted.row := by
  intro document inside emitted here profile listed own
  obtain ⟨pushes, inDocument, push, member, ordinal, rfl⟩ := generated.push_of_emitted inside here
  have foreign (grouped : push.Grouped) : P profile (push.emit ordinal).row := by
    obtain ⟨label, grouped⟩ := grouped
    have origin : (push.emit ordinal).origin = .group label := grouped
    rw [EmittedFor, origin] at own
    simp at own
  rcases document_classified inDocument with rfl | classified
  · exact foreign (comparisonPushes_grouped member)
  · rcases classified push member with ⟨owner, -, owned⟩ | ⟨action, -, rfl⟩ | ⟨grouped, -⟩
    · have origin : (push.emit ordinal).origin = .profile owner := owned.origin
      rw [EmittedFor, origin] at own
      obtain rfl : owner = profile := by simpa using own
      exact made owner listed push owned ordinal
    · rcases own with own | own
      · cases own
      · exact named profile listed (Origin.named.inj own).symm action ordinal
    · exact foreign grouped

end Generated

end Documents

end Seshat.Matrix
