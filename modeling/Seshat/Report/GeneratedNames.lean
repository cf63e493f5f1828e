import Seshat.Matrix.Origins
import Seshat.Report.Overview

/-! The overview of a generated suite: no name that the matrix expansion composes keeps a
closed-loop row off the board. -/

namespace Seshat.Report
open Config Seshat.Matrix

/-! Names. -/

/-- A special name starts with one of three letters. -/
theorem isSpecial_of_start {first : Char} {name : Text} (start : name.head? = some first)
    (other : first ∉ ['l', 'p', 'c']) : isSpecial name = false := by
  refine Bool.eq_false_iff.mpr fun special => other ?_
  obtain ⟨word, member, found⟩ := List.any_eq_true.mp special
  obtain ⟨rest, rfl⟩ := List.isPrefixOf_iff_prefix.mp found
  simp only [List.mem_cons, List.not_mem_nil, or_false] at member
  rcases member with rfl | rfl | rfl <;>
  · obtain rfl := Option.some_inj.mp start
    decide

theorem latencyPush_plain (profile : Profile) (interface : String) (size : UInt32) :
    isSpecial (latencyPush profile interface size).name = false :=
  @isSpecial_of_start 'm' _ rfl (by decide)

theorem smokeLatencyPush_plain (spec : MatrixSpec) (id : String) (profile : Profile)
    (interface : String) : isSpecial (smokeLatencyPush spec id profile interface).name = false :=
  @isSpecial_of_start 's' _ rfl (by decide)

/-- The profile `routing_tcp` has its row of 4096 bytes under such a name. -/
theorem matrixLatency_generated {profile : Profile} (routing : profile.id = "routing_tcp") :
    (latencyPush profile "tcp" 4096).name = matrixLatency.scenario.name.toList := by
  have parts : joined ["matrix".toList, "lat".toList, "routing_tcp".toList, "tcp".toList,
      sizeLabel 4096, "direct".toList, "1c".toList] = matrixLatency.scenario.name.toList := by
    decide +kernel
  rw [← parts, ← routing]
  rfl

theorem ifaceName_plain (id kind : String) (size connections : UInt32) :
    isSpecial (ifaceName id kind size connections) = false :=
  @isSpecial_of_start 'i' _ rfl (by decide)

/-! Modes. -/

section Modes

variable {spec : MatrixSpec} {push : Push} {ordinal : Nat}

theorem stamp_mode (profile : Profile) (row : Row) : (stamp profile row).mode = row.mode :=
  stamp_keeps Row.mode (fun _ _ _ _ => rfl) profile row

theorem family_plain (family : Family spec push)
    (closed : (push.row ordinal).mode = some "pingpong") : isSpecial push.name = false := by
  cases family with
  | throughput => cases (stamp_mode _ _).symm.trans closed
  | latency => exact latencyPush_plain ..
  | smoke => cases (stamp_mode _ _).symm.trans closed
  | smokeLatency => exact smokeLatencyPush_plain ..
  | reload => cases closed
  | smokeReload => cases closed
  | streamCipher => cases closed
  | datagramCipher => cases closed
  | handshake => exact absurd (Option.some_inj.mp closed) (by decide)
  | resumption => exact absurd (Option.some_inj.mp closed) (by decide)
  | loopback => cases closed
  | multistream => cases closed
  | blocked => cases closed

theorem comparisonPushes_plain {comparison : InterfaceComparison} {direct gateway : ComparisonPath}
    (member : push ∈ comparisonPushes comparison direct gateway) :
    isSpecial push.name = false := by
  rw [comparisonPushes, List.mem_append, mem_pathPushes, mem_pathPushes] at member
  rcases member with ⟨_, -, _, -, _, -, -, rfl⟩ | ⟨_, -, _, -, _, -, -, rfl⟩
  · exact ifaceName_plain ..
  · exact ifaceName_plain ..

end Modes

/-! Documents. -/

section Documents

variable {spec : MatrixSpec} {docs : List Document} {document : Document} {emitted : Emitted}

/-- The name of a generated closed-loop row does not tell that it is one. -/
theorem generated_plain (expanded : generate spec = .ok docs) (member : document ∈ docs)
    (inside : emitted ∈ document.scenarios) (closed : emitted.row.mode = some "pingpong") :
    isSpecial emitted.row.name = false := by
  obtain ⟨direct, gateway, generated⟩ := generate_ok expanded
  obtain ⟨pushes, listed, push, here, ordinal, rfl⟩ := generated.push_of_emitted member inside
  rcases document_families listed with rfl | families
  · exact comparisonPushes_plain here
  · exact family_plain (families push here) closed

/-- So the overview ranks it as if it measured bandwidth, as soon as it has some throughput. -/
theorem generated_misranks (expanded : generate spec = .ok docs) (member : document ∈ docs)
    (inside : emitted ∈ document.scenarios) (closed : emitted.row.mode = some "pingpong")
    {tree : List Recorded} (labelled : ∀ r ∈ tree, r.Labelled) {r : Recorded}
    (recorded : r ∈ tree) (whole : r.Whole) (named : r.scenario.name.toList = emitted.row.name) (mode : r.scenario.mode = .pingpong)
    (measured : 0 < r.row.throughputMean) (latency : Scenario → Bool) :
    ¬RanksBandwidth latency tree := by
  intro ranks
  have agree := (ranks.named labelled r recorded).whole whole measured
  rw [named, generated_plain expanded member inside closed, offBandwidth, mode] at agree
  exact Bool.false_ne_true agree

end Documents

end Seshat.Report
