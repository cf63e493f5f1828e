import Seshat.Matrix.Origins

/-! Profile compatibility: a row that is emitted for a profile runs on an interface, a chain and a
connection count that the profile declares. -/

namespace Seshat.Matrix

def Compatible (profile : Profile) (row : Row) : Prop :=
  row.sender.interface ∈ profile.interfaces ∧ row.gateway.chain ∈ profile.chains ∧
    profile.Allows row.connections

/-! What stamping keeps. -/

section Stamps

variable (profile : Profile) (row : Row)

theorem stamp_interface : (stamp profile row).sender.interface = row.sender.interface :=
  stamp_keeps (fun row => row.sender.interface) (fun _ _ _ _ => rfl) profile row

theorem stamp_gateway : (stamp profile row).gateway = row.gateway :=
  stamp_keeps Row.gateway (fun _ _ _ _ => rfl) profile row

theorem stamp_connections : (stamp profile row).connections = row.connections :=
  stamp_keeps Row.connections (fun _ _ _ _ => rfl) profile row

theorem compatible_stamp : Compatible profile (stamp profile row) ↔ Compatible profile row := by
  rw [Compatible, stamp_interface, stamp_gateway, stamp_connections, Compatible]

end Stamps

/-! The rows of each family. -/

section Families

variable {spec : MatrixSpec} {profile : Profile} {interface chain : String}
  {size connections : UInt32} {ordinal : ℕ}

theorem compatible_throughput :
    Compatible profile ((throughputPush profile interface chain size connections).emit ordinal).row ↔
      interface ∈ profile.interfaces ∧ chain ∈ profile.chains ∧ profile.Allows connections :=
  compatible_stamp profile _

theorem compatible_latency :
    Compatible profile ((latencyPush profile interface size).emit ordinal).row ↔
      interface ∈ profile.interfaces ∧ "scg-direct" ∈ profile.chains ∧ profile.Allows 1 :=
  compatible_stamp profile _

theorem compatible_smoke :
    Compatible profile ((smokePush spec profile interface chain).emit ordinal).row ↔
      interface ∈ profile.interfaces ∧ chain ∈ profile.chains ∧ profile.Allows 1 :=
  compatible_stamp profile _

theorem compatible_smokeLatency {id : String} :
    Compatible profile ((smokeLatencyPush spec id profile interface).emit ordinal).row ↔
      interface ∈ profile.interfaces ∧ "scg-direct" ∈ profile.chains ∧ profile.Allows 1 :=
  compatible_stamp profile _

theorem compatible_reload {dimensions : Dimensions} {load action : String} :
    Compatible profile ((reloadPush dimensions profile connections load action).emit ordinal).row ↔
      "tcp" ∈ profile.interfaces ∧ "scg-direct" ∈ profile.chains ∧ profile.Allows connections :=
  Iff.rfl

theorem compatible_smokeReload {action : String} :
    Compatible profile ((smokeReloadPush spec action).emit ordinal).row ↔
      "tcp" ∈ profile.interfaces ∧ "scg-direct" ∈ profile.chains ∧ profile.Allows 1 :=
  Iff.rfl

end Families

/-- What the sweeps that do not filter need of the profiles. -/
structure SweepsSupported (spec : MatrixSpec) : Prop where
  /-- The smoke rows run at one connection. -/
  smoke : ∀ profile ∈ spec.profiles, profile.Allows 1
  smokeLatency : ∀ id ∈ latencyReps, ∀ profile,
    spec.profiles.find? (fun profile => profile.id = id) = some profile →
      "scg-direct" ∈ profile.chains
  smokeReload : ∀ profile ∈ spec.profiles, profile.id = "tls13_tcp" →
    "tcp" ∈ profile.interfaces ∧ "scg-direct" ∈ profile.chains
  reload : ∀ profile ∈ spec.profiles, profile.Reloadable spec →
    ∀ connections ∈ reloadConnections, profile.Allows connections

section Sweeps

variable {spec : MatrixSpec} {docs : List Document} {direct gateway : ComparisonPath}
  {profile : Profile}

theorem SweepsSupported.compatible (supported : SweepsSupported spec)
    (listed : profile ∈ spec.profiles) {push : Push} (made : ProfilePush spec profile push)
    (ordinal : ℕ) : Compatible profile (push.emit ordinal).row := by
  cases made with
  | throughput linked chained allowed => exact compatible_throughput.mpr ⟨linked, chained, allowed⟩
  | latency linked chained allowed => exact compatible_latency.mpr ⟨linked, chained, allowed⟩
  | smoke linked chained =>
    exact compatible_smoke.mpr ⟨linked, chained, supported.smoke profile listed⟩
  | smokeLatency rep found linked =>
    exact compatible_smokeLatency.mpr
      ⟨linked, supported.smokeLatency _ rep profile found, supported.smoke profile listed⟩
  | reload reloadable width =>
    refine compatible_reload.mpr
      ⟨?_, reloadable.2.2, supported.reload profile listed reloadable _ width⟩
    rw [reloadable.2.1]
    exact List.mem_singleton_self _

/-- The rows of a spec that was expanded are compatible only if the sweeps are supported. -/
theorem Generated.supported (generated : Generated spec docs direct gateway)
    (compatible : ∀ document ∈ docs, ∀ emitted ∈ document.scenarios, ∀ profile ∈ spec.profiles,
      EmittedFor emitted profile → Compatible profile emitted.row) : SweepsSupported spec := by
  constructor
  · intro profile listed
    obtain ⟨linked, chained⟩ := validateSpec_profiles generated.accepted listed
    obtain ⟨interface, linked⟩ := List.exists_mem_of_ne_nil _ linked
    obtain ⟨chain, chained⟩ := List.exists_mem_of_ne_nil _ chained
    obtain ⟨ordinal, fits⟩ :=
      generated.emits compatible (smokePush_listed listed linked chained) listed (.inl rfl)
    exact (compatible_smoke.mp fits).2.2
  · intro id rep profile found
    have listed := List.mem_of_find?_eq_some found
    obtain ⟨linked, -⟩ := validateSpec_profiles generated.accepted listed
    obtain ⟨interface, rest, linked⟩ := List.exists_cons_of_ne_nil linked
    obtain ⟨ordinal, fits⟩ :=
      generated.emits compatible (smokeLatencyPush_listed rep found linked) listed (.inl rfl)
    exact (compatible_smokeLatency.mp fits).2.1
  · intro profile listed same
    obtain ⟨ordinal, fits⟩ :=
      generated.emits compatible (smokeReloadPush_listed List.mem_cons_self) listed (.inr (same ▸ rfl))
    obtain ⟨linked, chained, -⟩ := compatible_smokeReload.mp fits
    exact ⟨linked, chained⟩
  · intro profile listed reloadable connections width
    obtain ⟨ordinal, fits⟩ :=
      generated.emits compatible (reloadPush_listed listed reloadable width) listed (.inl rfl)
    exact (compatible_reload.mp fits).2.2

/-- Every row that is emitted for a profile is compatible with it iff the profiles support the
sweeps that do not filter. -/
theorem compatible_iff (expanded : generate spec = .ok docs) :
    (∀ document ∈ docs, ∀ emitted ∈ document.scenarios, ∀ profile ∈ spec.profiles,
      EmittedFor emitted profile → Compatible profile emitted.row) ↔ SweepsSupported spec := by
  obtain ⟨direct, gateway, generated⟩ := generate_ok expanded
  refine ⟨generated.supported, fun supported => generated.each ?_ ?_⟩
  · intro profile listed push made ordinal
    exact supported.compatible listed made ordinal
  · intro profile listed named action ordinal
    obtain ⟨linked, chained⟩ := supported.smokeReload profile listed named
    exact compatible_smokeReload.mpr ⟨linked, chained, supported.smoke profile listed⟩

end Sweeps

/-! A hot-reload profile of two connection counts. -/

def narrowProfile : Profile := { plainProfile with connections := [1, 4] }

def narrowSpec : MatrixSpec where
  dimensions := oneSize
  profiles := [narrowProfile]
  hotReloadProfiles := ["routing_tcp"]
  interfaceComparison := tcpComparison

theorem narrowSpec_expands : ∃ docs, generate narrowSpec = .ok docs :=
  expands_of_isOk (by decide +kernel)

/-- A profile of all the counts that the hot-reload rows sweep. -/
def sweptProfile : Profile := { plainProfile with connections := reloadConnections }

def sweptSpec : MatrixSpec := { narrowSpec with profiles := [sweptProfile] }

theorem compatible_iff_swept :
    ∃ docs, generate sweptSpec = .ok docs ∧ ∀ document ∈ docs, ∀ emitted ∈ document.scenarios,
      ∀ profile ∈ sweptSpec.profiles, EmittedFor emitted profile →
        Compatible profile emitted.row := by
  have supported : SweepsSupported sweptSpec :=
    { smoke := List.forall_mem_singleton.mpr (by decide)
      smokeLatency := fun id rep profile found => by
        obtain rfl := List.mem_singleton.mp (List.mem_of_find?_eq_some found)
        exact List.mem_singleton_self _
      smokeReload := List.forall_mem_singleton.mpr fun named => absurd named (by decide)
      reload := List.forall_mem_singleton.mpr fun _ _ width => .inr width }
  obtain ⟨docs, expanded⟩ : ∃ docs, generate sweptSpec = .ok docs :=
    expands_of_isOk (by decide +kernel)
  exact ⟨docs, expanded, (compatible_iff expanded).mpr supported⟩

/-- The hot-reload rows sweep 16 connections over a profile of one or four. -/
theorem narrow_incompatible :
    ∃ docs, generate narrowSpec = .ok docs ∧ ∃ document ∈ docs, ∃ emitted ∈ document.scenarios,
      ∃ profile ∈ narrowSpec.profiles, EmittedFor emitted profile ∧
        profile.connections = [1, 4] ∧ emitted.row.connections = 16 ∧
        ¬Compatible profile emitted.row := by
  obtain ⟨docs, expanded⟩ := narrowSpec_expands
  obtain ⟨direct, gateway, generated⟩ := generate_ok expanded
  have listed : narrowProfile ∈ narrowSpec.profiles := List.mem_singleton_self _
  have reloadable : narrowProfile.Reloadable narrowSpec := by decide
  have width : 16 ∈ reloadConnections := by simp [reloadConnections]
  have swept : Listed narrowSpec direct gateway
      (reloadPush oneSize narrowProfile 16 "saturation" "add_connection") :=
    reloadPush_listed listed reloadable width
  obtain ⟨pushes, inDocument, member⟩ := swept
  obtain ⟨document, inside, ordinal, here⟩ := generated.emitted_of_push inDocument member
  refine ⟨docs, expanded, document, inside, _, here, narrowProfile, listed, .inl rfl, rfl, rfl,
    fun compatible => ?_⟩
  have allowed : narrowProfile.Allows 16 := (compatible_reload.mp compatible).2.2
  exact absurd allowed (by decide)

end Seshat.Matrix
