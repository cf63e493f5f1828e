import Seshat.Matrix.Origins

/-! Stamping: a row that is emitted for a profile carries its flags and its address family. -/

namespace Seshat.Matrix

/-- The profile's flags, and a bracketed target for IPv6. -/
def Stamped (profile : Profile) (row : Row) : Prop :=
  (∀ flags, declaredFlags profile.optimizationFlags = some flags →
    row.optimizationFlags = some flags) ∧
  (profile.addressFamily = "ipv6" →
    row.addressFamily = some "ipv6" ∧ loopbackV6 <+: row.sender.targetAddr)

/-- Nothing to stamp. -/
def Profile.Unstamped (profile : Profile) : Prop :=
  declaredFlags profile.optimizationFlags = none ∧ profile.addressFamily ≠ "ipv6"

def ipInterfaces : List String := ["tcp", "udp", "tproxy"]

theorem mem_ipInterfaces (interface : String) :
    interface ∈ ipInterfaces ↔ interface = "tcp" ∨ interface = "udp" ∨ interface = "tproxy" := by
  rw [ipInterfaces, List.mem_cons, List.mem_cons, List.mem_singleton]

/-! The targets. -/

section Targets

variable (interface : String) (ordinal : ℕ)

theorem sender_ip (ip : interface ∈ ipInterfaces) :
    loopbackV4 <+: (sender interface ordinal).targetAddr := by
  unfold sender
  dsimp only
  rw [if_pos ((mem_ipInterfaces interface).mp ip)]
  exact List.prefix_append loopbackV4 _

/-- The first character of a target tells an IPv4 loopback from the others. -/
theorem sender_head :
    (sender interface ordinal).targetAddr.head? =
      some (if interface ∈ ipInterfaces then '1' else if interface = "unix" then '/'
        else if interface = "shm" then 's' else 'u') := by
  unfold sender
  dsimp only
  simp only [mem_ipInterfaces]
  split
  · rfl
  · split
    · rfl
    · split <;> rfl

theorem head_of_prefix {word text : Text} {first : Char} (starts : word.head? = some first)
    (found : word <+: text) : text.head? = some first := by
  obtain ⟨rest, rfl⟩ := found
  rw [List.head?_append, starts, Option.some_or]

theorem sender_local (other : interface ∉ ipInterfaces) :
    ¬loopbackV4 <+: (sender interface ordinal).targetAddr := by
  intro found
  have head : (sender interface ordinal).targetAddr.head? = some '1' := head_of_prefix rfl found
  rw [sender_head, if_neg other] at head
  split at head
  · cases head
  · split at head <;> cases head

theorem sender_unbracketed : ¬loopbackV6 <+: (sender interface ordinal).targetAddr := by
  intro found
  have head : (sender interface ordinal).targetAddr.head? = some '[' := head_of_prefix rfl found
  rw [sender_head] at head
  split at head
  · cases head
  · split at head
    · cases head
    · split at head <;> cases head

end Targets

/-! The rows of each family. -/

section Rows

variable {profile : Profile} {row : Row}

theorem stamp_flags (flags : Value)
    (declared : declaredFlags profile.optimizationFlags = some flags) :
    (stamp profile row).optimizationFlags = some flags := by
  have stamped : (stampOptimizationFlags row profile.optimizationFlags).optimizationFlags =
      some flags := by
    unfold stampOptimizationFlags
    rw [declared]
  unfold stamp stampAddressFamily
  split <;> exact stamped

theorem stampOptimizationFlags_target (flags : Value) :
    (stampOptimizationFlags row flags).sender.targetAddr = row.sender.targetAddr := by
  unfold stampOptimizationFlags
  split <;> rfl

theorem stamp_family (family : profile.addressFamily = "ipv6") :
    (stamp profile row).addressFamily = some "ipv6" := by
  unfold stamp stampAddressFamily
  rw [if_neg (not_not.mpr family)]

theorem stamp_target (family : profile.addressFamily = "ipv6") :
    (stamp profile row).sender.targetAddr =
      if loopbackV4 <+: row.sender.targetAddr then
        loopbackV6 ++ row.sender.targetAddr.drop loopbackV4.length
      else row.sender.targetAddr := by
  unfold stamp stampAddressFamily
  rw [if_neg (not_not.mpr family)]
  simp only [stampOptimizationFlags_target]

/-- A stamped row has all of the stamp iff its target is an IP one. -/
theorem stamped_iff {interface : String} {ordinal : ℕ} (sent : row.sender = sender interface ordinal) :
    Stamped profile (stamp profile row) ↔
      (profile.addressFamily = "ipv6" → interface ∈ ipInterfaces) := by
  constructor
  · intro stamped family
    by_contra other
    have bracketed := (stamped.2 family).2
    rw [stamp_target family, sent, if_neg (sender_local interface ordinal other)] at bracketed
    exact sender_unbracketed interface ordinal bracketed
  · intro ip
    refine ⟨stamp_flags, fun family => ⟨stamp_family family, ?_⟩⟩
    rw [stamp_target family, sent, if_pos (sender_ip interface ordinal (ip family))]
    exact List.prefix_append _ _

/-- A row that is not stamped has the stamp of a profile without one. -/
theorem unstamped_iff (flags : row.optimizationFlags = none) (family : row.addressFamily = none) :
    Stamped profile row ↔ profile.Unstamped := by
  unfold Stamped Profile.Unstamped
  rw [flags, family]
  refine and_congr ?_ ?_
  · simp [Option.eq_none_iff_forall_ne_some]
  · simp

end Rows

section Families

variable {spec : MatrixSpec} {profile : Profile} {interface chain : String}
  {size connections : UInt32} {ordinal : ℕ}

theorem stamped_throughput :
    Stamped profile ((throughputPush profile interface chain size connections).emit ordinal).row ↔
      (profile.addressFamily = "ipv6" → interface ∈ ipInterfaces) :=
  stamped_iff rfl

theorem stamped_latency :
    Stamped profile ((latencyPush profile interface size).emit ordinal).row ↔
      (profile.addressFamily = "ipv6" → interface ∈ ipInterfaces) :=
  stamped_iff rfl

theorem stamped_smoke :
    Stamped profile ((smokePush spec profile interface chain).emit ordinal).row ↔
      (profile.addressFamily = "ipv6" → interface ∈ ipInterfaces) :=
  stamped_iff rfl

theorem stamped_smokeLatency {id : String} :
    Stamped profile ((smokeLatencyPush spec id profile interface).emit ordinal).row ↔
      (profile.addressFamily = "ipv6" → interface ∈ ipInterfaces) :=
  stamped_iff rfl

theorem stamped_reload {dimensions : Dimensions} {load action : String} :
    Stamped profile ((reloadPush dimensions profile connections load action).emit ordinal).row ↔
      profile.Unstamped :=
  unstamped_iff rfl rfl

theorem stamped_smokeReload {action : String} :
    Stamped profile ((smokeReloadPush spec action).emit ordinal).row ↔ profile.Unstamped :=
  unstamped_iff rfl rfl

end Families

/-- What the families that do not stamp need of the profiles. -/
structure StampsSupported (spec : MatrixSpec) : Prop where
  /-- The family is only meaningful for IP interfaces. -/
  family : ∀ profile ∈ spec.profiles, profile.addressFamily = "ipv6" →
    ∀ interface ∈ profile.interfaces, interface ∈ ipInterfaces
  reload : ∀ profile ∈ spec.profiles, profile.Reloadable spec → profile.Unstamped
  smokeReload : ∀ profile ∈ spec.profiles, profile.id = "tls13_tcp" → profile.Unstamped

section Documents

variable {spec : MatrixSpec} {docs : List Document} {direct gateway : ComparisonPath}
  {profile : Profile}

theorem StampsSupported.stamped (supported : StampsSupported spec)
    (listed : profile ∈ spec.profiles) {push : Push} (made : ProfilePush spec profile push)
    (ordinal : ℕ) : Stamped profile (push.emit ordinal).row := by
  have ip {interface : String} (linked : interface ∈ profile.interfaces)
      (family : profile.addressFamily = "ipv6") : interface ∈ ipInterfaces :=
    supported.family profile listed family interface linked
  cases made with
  | throughput linked => exact stamped_throughput.mpr (ip linked)
  | latency linked => exact stamped_latency.mpr (ip linked)
  | smoke linked => exact stamped_smoke.mpr (ip linked)
  | smokeLatency rep found linked => exact stamped_smokeLatency.mpr (ip linked)
  | reload reloadable =>
    exact stamped_reload.mpr (supported.reload profile listed reloadable)

theorem Generated.stampsSupported (generated : Generated spec docs direct gateway)
    (stamped : ∀ document ∈ docs, ∀ emitted ∈ document.scenarios, ∀ profile ∈ spec.profiles,
      EmittedFor emitted profile → Stamped profile emitted.row) : StampsSupported spec := by
  constructor
  · intro profile listed family interface linked
    obtain ⟨-, chained⟩ := validateSpec_profiles generated.accepted listed
    obtain ⟨chain, chained⟩ := List.exists_mem_of_ne_nil _ chained
    obtain ⟨ordinal, carries⟩ :=
      generated.emits stamped (smokePush_listed listed linked chained) listed (.inl rfl)
    exact stamped_smoke.mp carries family
  · intro profile listed reloadable
    have width : 1 ∈ reloadConnections := List.mem_cons_self
    obtain ⟨ordinal, carries⟩ :=
      generated.emits stamped (reloadPush_listed listed reloadable width) listed (.inl rfl)
    exact stamped_reload.mp carries
  · intro profile listed same
    obtain ⟨ordinal, carries⟩ :=
      generated.emits stamped (smokeReloadPush_listed List.mem_cons_self) listed
        (.inr (same ▸ rfl))
    exact stamped_smokeReload.mp carries

/-- Every row that is emitted for a profile has its stamp iff the hot-reload profiles have none
and IPv6 is declared for IP interfaces only. -/
theorem stamped_rows_iff (expanded : generate spec = .ok docs) :
    (∀ document ∈ docs, ∀ emitted ∈ document.scenarios, ∀ profile ∈ spec.profiles,
      EmittedFor emitted profile → Stamped profile emitted.row) ↔ StampsSupported spec := by
  obtain ⟨direct, gateway, generated⟩ := generate_ok expanded
  refine ⟨generated.stampsSupported, fun supported => generated.each ?_ ?_⟩
  · intro profile listed push made ordinal
    exact supported.stamped listed made ordinal
  · intro profile listed named action ordinal
    exact stamped_smokeReload.mpr (supported.smokeReload profile listed named)

end Documents

/-! A hot-reload profile on IPv6. -/

def v6Profile : Profile :=
  { plainProfile with
    optimizationFlags := .object [("simulated_delay_ms", .number 50)], addressFamily := "ipv6" }

def v6Spec : MatrixSpec where
  dimensions := oneSize
  profiles := [v6Profile]
  hotReloadProfiles := ["routing_tcp"]
  interfaceComparison := tcpComparison

theorem v6Spec_expands : ∃ docs, generate v6Spec = .ok docs := expands_of_isOk (by decide +kernel)

/-- Without hot-reload rows every row has the flags and the family. -/
theorem stamped_rows_iff_v6 :
    ∃ docs, generate { v6Spec with hotReloadProfiles := [] } = .ok docs ∧
      ∀ document ∈ docs, ∀ emitted ∈ document.scenarios, ∀ profile ∈ v6Spec.profiles,
        EmittedFor emitted profile → Stamped profile emitted.row := by
  have supported : StampsSupported { v6Spec with hotReloadProfiles := [] } :=
    { family := List.forall_mem_singleton.mpr fun _ => by decide
      reload := fun _ _ reloadable => absurd reloadable.1 List.not_mem_nil
      smokeReload := List.forall_mem_singleton.mpr fun named => absurd named (by decide) }
  obtain ⟨docs, expanded⟩ : ∃ docs, generate { v6Spec with hotReloadProfiles := [] } = .ok docs :=
    expands_of_isOk (by decide +kernel)
  exact ⟨docs, expanded, (stamped_rows_iff expanded).mpr supported⟩

/-- The hot-reload rows of an IPv6 profile run on IPv4, without its flags. -/
theorem v6_unstamped :
    ∃ docs, generate v6Spec = .ok docs ∧ ∃ document ∈ docs, ∃ emitted ∈ document.scenarios,
      ∃ profile ∈ v6Spec.profiles, EmittedFor emitted profile ∧
        emitted.row.optimizationFlags = none ∧ emitted.row.addressFamily = none ∧
        ¬Stamped profile emitted.row := by
  obtain ⟨docs, expanded⟩ := v6Spec_expands
  obtain ⟨direct, gateway, generated⟩ := generate_ok expanded
  have listed : v6Profile ∈ v6Spec.profiles := List.mem_singleton_self _
  have reloadable : v6Profile.Reloadable v6Spec := by decide
  have swept : Listed v6Spec direct gateway
      (reloadPush oneSize v6Profile 1 "saturation" "add_connection") :=
    reloadPush_listed listed reloadable List.mem_cons_self
  obtain ⟨pushes, inDocument, member⟩ := swept
  obtain ⟨document, inside, ordinal, here⟩ := generated.emitted_of_push inDocument member
  refine ⟨docs, expanded, document, inside, _, here, v6Profile, listed, .inl rfl, rfl, rfl,
    fun stamped => ?_⟩
  have unstamped : v6Profile.Unstamped := stamped_reload.mp stamped
  exact unstamped.2 rfl

end Seshat.Matrix
