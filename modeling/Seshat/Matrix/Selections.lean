import Seshat.Matrix.Families

/-! Selections: the nightly rows are rows of the full catalogue. Both expand the same families
over the same sizes. Only the connection lists differ, and with them the ordinals, which a row
shows in its target alone. -/

namespace Seshat.Matrix

/-- Rows that differ in their target at most. -/
def SameButTarget (first second : Row) : Prop :=
  second = { first with sender := { first.sender with targetAddr := second.sender.targetAddr } }

/-- A push whose rows show their ordinal in the target alone. -/
def Push.Placed (push : Push) : Prop :=
  ∀ first second, SameButTarget (push.emit first).row (push.emit second).row

section Placed

variable {spec : MatrixSpec} {push : Push} {profile : Profile} {category interface chain : String}
  {size connections : UInt32} {mode : Option String}

theorem stamped_placed (stamped : push.row = fun ordinal =>
    stamp profile { profileRow profile category interface chain size connections ordinal with mode }) :
    push.Placed := by
  intro first second
  unfold SameButTarget Push.emit
  rw [stamped]
  unfold stamp stampAddressFamily stampOptimizationFlags
  cases declaredFlags profile.optimizationFlags <;> dsimp only <;> split <;> rfl

theorem Family.placed (family : Family spec push) : push.Placed := by
  cases family with
  | throughput => exact stamped_placed rfl
  | latency => exact stamped_placed rfl
  | smoke => exact stamped_placed rfl
  | smokeLatency => exact stamped_placed rfl
  | reload => exact fun _ _ => rfl
  | smokeReload => exact fun _ _ => rfl
  | streamCipher => exact fun _ _ => rfl
  | datagramCipher => exact fun _ _ => rfl
  | handshake => exact fun _ _ => rfl
  | resumption => exact fun _ _ => rfl
  | loopback => exact fun _ _ => rfl
  | multistream => exact fun _ _ => rfl
  | blocked => exact fun _ _ => rfl

end Placed

/-! The pushes of a smaller selection. -/

theorem mem_unionConnections {left right : List UInt32} {count : UInt32} :
    count ∈ unionConnections left right ↔ count ∈ left ∨ count ∈ right := by
  rw [unionConnections, List.mem_dedup, List.mem_mergeSort, List.mem_append]

/-- A catalogue that lists every connection count of the nightly selection. -/
structure CoversNightly (dimensions : Dimensions) : Prop where
  nightly : ∀ count ∈ dimensions.nightlyConnections, count ∈ dimensions.catalogConnections
  scalability : ∀ count ∈ dimensions.scalabilityConnections, count ∈ dimensions.catalogConnections

section Subset

variable {spec : MatrixSpec} {profile : Profile} {push : Push}
  (covers : CoversNightly spec.dimensions)
include covers

theorem CoversNightly.tierConnections {count : UInt32}
    (member : count ∈ tierConnections profile spec.dimensions .nightly) :
    count ∈ tierConnections profile spec.dimensions .everything := by
  simp only [Matrix.tierConnections] at member ⊢
  split at member
  · rcases mem_unionConnections.mp member with nightly | scalability
    · exact covers.nightly count nightly
    · exact covers.scalability count scalability
  · exact covers.nightly count member

theorem CoversNightly.cellPushes {interface chain : String} {size : UInt32}
    (member : push ∈ cellPushes profile .nightly
      (Matrix.tierConnections profile spec.dimensions .nightly) interface chain size) :
    push ∈ cellPushes profile .everything
      (Matrix.tierConnections profile spec.dimensions .everything) interface chain size := by
  unfold Matrix.cellPushes at member ⊢
  rw [List.mem_append] at member ⊢
  rcases member with swept | latency
  · obtain ⟨count, kept, rfl⟩ := List.mem_map.mp swept
    obtain ⟨listed, allowed⟩ := List.mem_filter.mp kept
    refine .inl (List.mem_map_of_mem ?_)
    exact List.mem_filter.mpr ⟨covers.tierConnections listed, allowed⟩
  · refine .inr ?_
    simpa using latency

theorem CoversNightly.profilePushes
    (member : push ∈ profilePushes profile spec.dimensions .nightly) :
    push ∈ profilePushes profile spec.dimensions .everything := by
  unfold Matrix.profilePushes at member ⊢
  split at member
  · rw [if_pos (show selected profile .everything = true from rfl)]
    simp only [List.mem_flatMap] at member ⊢
    obtain ⟨interface, linked, chain, chained, size, sized, member⟩ := member
    exact ⟨interface, linked, chain, chained, size, sized, covers.cellPushes member⟩
  · cases member

/-- The other families only tell the canonical selection apart. -/
theorem CoversNightly.tierPushes (member : push ∈ tierPushes spec .nightly) :
    push ∈ tierPushes spec .everything := by
  simp only [Matrix.tierPushes, List.mem_append, List.mem_flatMap] at member ⊢
  rcases member with ((⟨profile, listed, made⟩ | cipher) | handshake) | blocked
  · exact .inl (.inl (.inl ⟨profile, listed, covers.profilePushes made⟩))
  · exact .inl (.inl (.inr cipher))
  · exact .inl (.inr handshake)
  · exact .inr blocked

end Subset

/-- Every nightly row is a row of the full catalogue, under the same name and with the same
fields, its target apart. -/
theorem nightly_in_everything {spec : MatrixSpec} {nightly everything : List Emitted}
    (nightlyOk : expandProfiles spec .nightly = .ok nightly)
    (everythingOk : expandProfiles spec .everything = .ok everything)
    (covers : CoversNightly spec.dimensions) :
    ∀ emitted ∈ nightly, ∃ other ∈ everything, other.row.name = emitted.row.name ∧
      other.origin = emitted.origin ∧ SameButTarget emitted.row other.row := by
  intro emitted member
  obtain ⟨push, listed, ordinal, rfl⟩ := push_of_mem nightlyOk member
  obtain ⟨place, found⟩ := mem_of_push everythingOk (covers.tierPushes listed)
  exact ⟨push.emit place, found, rfl, rfl, (tierPushes_family listed).placed ordinal place⟩

/-! A catalogue with a wider ladder than the nightly one. -/

def ladderSpec : MatrixSpec where
  dimensions := { oneSize with catalogConnections := [1, 4, 16] }
  profiles := [plainProfile]
  interfaceComparison := tcpComparison

theorem nightly_in_everything_ladder :
    ∃ nightly everything, expandProfiles ladderSpec .nightly = .ok nightly ∧
      expandProfiles ladderSpec .everything = .ok everything ∧
      ∀ emitted ∈ nightly, ∃ other ∈ everything, other.row.name = emitted.row.name ∧
        other.origin = emitted.origin ∧ SameButTarget emitted.row other.row := by
  have nightlyOk : expandProfiles ladderSpec .nightly = .ok _ :=
    pushAll_of_nodup (by decide +kernel)
  have everythingOk : expandProfiles ladderSpec .everything = .ok _ :=
    pushAll_of_nodup (by decide +kernel)
  have covers : CoversNightly ladderSpec.dimensions :=
    ⟨by simp [ladderSpec, oneSize], by simp [ladderSpec, oneSize]⟩
  exact ⟨_, _, nightlyOk, everythingOk, nightly_in_everything nightlyOk everythingOk covers⟩

end Seshat.Matrix
