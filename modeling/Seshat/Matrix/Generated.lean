import Seshat.Lib.Emission
import Seshat.Lib.Steps
import Seshat.Matrix.Documents
import Mathlib.Data.List.Forall2

/-! What the documents of an expansion hold: every push, at an ordinal of its own. -/

namespace Seshat.Matrix
open Lib
open Lib.Steps (bind_ok)

section Pushed

variable {pushes : List Push} {rows : List Emitted}

theorem pushUnique_emitOne :
    pushUnique = Emission.emitOne Push.name (fun emitted => emitted.row.name) Push.emit fun push =>
      "matrix expansion generated duplicate name '".toList ++ push.name ++ "'".toList := rfl

theorem pushAll_ok (pushed : pushAll pushes = .ok rows) :
    (pushes.map Push.name).Nodup ∧ rows = pushes.mapIdx fun ordinal push => push.emit ordinal := by
  rw [pushAll, pushUnique_emitOne] at pushed
  refine Emission.emitAll_ok ?_ pushed
  intro push ordinal
  rfl

/-- Rows under different names are all pushed. -/
theorem pushAll_of_nodup (distinct : (pushes.map Push.name).Nodup) :
    pushAll pushes = .ok (pushes.mapIdx fun ordinal push => push.emit ordinal) := by
  rw [pushAll, pushUnique_emitOne]
  refine Emission.emitAll_of_nodup ?_ distinct
  intro push ordinal
  rfl

theorem push_of_mem (pushed : pushAll pushes = .ok rows) {emitted : Emitted}
    (member : emitted ∈ rows) : ∃ push ∈ pushes, ∃ ordinal, push.emit ordinal = emitted := by
  rw [(pushAll_ok pushed).2, List.mem_mapIdx] at member
  obtain ⟨ordinal, inside, same⟩ := member
  exact ⟨pushes[ordinal], List.getElem_mem inside, ordinal, same⟩

theorem mem_of_push (pushed : pushAll pushes = .ok rows) {push : Push} (member : push ∈ pushes) :
    ∃ ordinal, push.emit ordinal ∈ rows := by
  obtain ⟨ordinal, inside, rfl⟩ := List.mem_iff_getElem.mp member
  refine ⟨ordinal, ?_⟩
  rw [(pushAll_ok pushed).2, List.mem_mapIdx]
  exact ⟨ordinal, inside, rfl⟩

/-- The names of a document are the names of its pushes. -/
theorem mem_names (pushed : pushAll pushes = .ok rows) (name : Text) :
    name ∈ rows.map (·.row.name) ↔ name ∈ pushes.map Push.name := by
  rw [List.mem_map, List.mem_map]
  constructor
  · rintro ⟨emitted, member, rfl⟩
    obtain ⟨push, here, ordinal, rfl⟩ := push_of_mem pushed member
    exact ⟨push, here, rfl⟩
  · rintro ⟨push, member, rfl⟩
    obtain ⟨ordinal, here⟩ := mem_of_push pushed member
    exact ⟨_, here, rfl⟩

end Pushed

/-- The pushes of each document. -/
def documentPushes (spec : MatrixSpec) (direct gateway : ComparisonPath) : List (List Push) :=
  [tierPushes spec .catalog, tierPushes spec .nightly, tierPushes spec .canonical,
    comparisonPushes spec.interfaceComparison direct gateway, reloadPushes spec, smokePushes spec,
    tierPushes spec .everything]

/-- The documents of a spec, each with its pushes. -/
structure Generated (spec : MatrixSpec) (docs : List Document) (direct gateway : ComparisonPath) :
    Prop where
  accepted : validateSpec spec = .ok ()
  directPath : spec.interfaceComparison.tcpPath false = some direct
  gatewayPath : spec.interfaceComparison.tcpPath true = some gateway
  pushed : List.Forall₂ (fun document pushes => pushAll pushes = .ok document.scenarios) docs
    (documentPushes spec direct gateway)

theorem expandInterfaceComparison_ok {spec : MatrixSpec} {rows : List Emitted}
    (expanded : expandInterfaceComparison spec = .ok rows) :
    ∃ direct gateway, spec.interfaceComparison.tcpPath false = some direct ∧
      spec.interfaceComparison.tcpPath true = some gateway ∧
      pushAll (comparisonPushes spec.interfaceComparison direct gateway) = .ok rows := by
  unfold expandInterfaceComparison at expanded
  split at expanded
  · cases expanded
  · next direct directPath =>
    split at expanded
    · cases expanded
    · next gateway gatewayPath => exact ⟨direct, gateway, directPath, gatewayPath, expanded⟩

theorem generate_ok {spec : MatrixSpec} {docs : List Document}
    (expanded : generate spec = .ok docs) : ∃ direct gateway, Generated spec docs direct gateway := by
  obtain ⟨_, accepted, rendered⟩ := bind_ok expanded
  obtain ⟨catalog, catalogOk, rendered⟩ := bind_ok rendered
  obtain ⟨nightly, nightlyOk, rendered⟩ := bind_ok rendered
  obtain ⟨canonical, canonicalOk, rendered⟩ := bind_ok rendered
  obtain ⟨comparison, comparisonOk, rendered⟩ := bind_ok rendered
  obtain ⟨hotreload, hotreloadOk, rendered⟩ := bind_ok rendered
  obtain ⟨smoke, smokeOk, rendered⟩ := bind_ok rendered
  obtain ⟨everything, everythingOk, rendered⟩ := bind_ok rendered
  obtain ⟨direct, gateway, directPath, gatewayPath, pushed⟩ :=
    expandInterfaceComparison_ok comparisonOk
  refine ⟨direct, gateway, accepted, directPath, gatewayPath, ?_⟩
  cases rendered
  exact .cons catalogOk (.cons nightlyOk (.cons canonicalOk (.cons pushed (.cons hotreloadOk
    (.cons smokeOk (.cons everythingOk .nil))))))

/-- Documents whose rows all have different names are generated. -/
theorem generate_of_nodup {spec : MatrixSpec} {direct gateway : ComparisonPath}
    (accepted : validateSpec spec = .ok ())
    (directPath : spec.interfaceComparison.tcpPath false = some direct)
    (gatewayPath : spec.interfaceComparison.tcpPath true = some gateway)
    (distinct : ∀ pushes ∈ documentPushes spec direct gateway, (pushes.map Push.name).Nodup) :
    ∃ docs, generate spec = .ok docs := by
  have expanded {pushes : List Push} (listed : pushes ∈ documentPushes spec direct gateway) :=
    pushAll_of_nodup (distinct pushes listed)
  unfold generate renderDocuments expandInterfaceComparison
  rw [accepted, directPath, gatewayPath]
  simp only [expandProfiles, expandHotreload, expandSmoke]
  rw [expanded (by simp [documentPushes]), expanded (by simp [documentPushes]),
    expanded (by simp [documentPushes]), expanded (by simp [documentPushes]),
    expanded (by simp [documentPushes]), expanded (by simp [documentPushes]),
    expanded (by simp [documentPushes])]
  exact ⟨_, rfl⟩

theorem validateSpec_profiles {spec : MatrixSpec} {profile : Profile}
    (accepted : validateSpec spec = .ok ()) (listed : profile ∈ spec.profiles) :
    profile.interfaces ≠ [] ∧ profile.chains ≠ [] := by
  unfold validateSpec at accepted
  dsimp only at accepted
  split at accepted
  · cases accepted
  · split at accepted
    · cases accepted
    · split at accepted
      · cases accepted
      · next valid =>
        have checked := List.find?_eq_none.mp valid profile listed
        simp only [Bool.or_eq_true, List.isEmpty_iff, not_or] at checked
        exact ⟨checked.1.1.2, checked.1.2⟩

namespace Generated

variable {spec : MatrixSpec} {docs : List Document} {direct gateway : ComparisonPath}
  (generated : Generated spec docs direct gateway)
include generated

theorem pushes_of_doc {document : Document} (member : document ∈ docs) :
    ∃ pushes ∈ documentPushes spec direct gateway, pushAll pushes = .ok document.scenarios := by
  obtain ⟨index, inside, rfl⟩ := List.mem_iff_getElem.mp member
  have paired := generated.pushed.length_eq ▸ inside
  exact ⟨_, List.getElem_mem paired, generated.pushed.get inside paired⟩

theorem doc_of_pushes {pushes : List Push} (member : pushes ∈ documentPushes spec direct gateway) :
    ∃ document ∈ docs, pushAll pushes = .ok document.scenarios := by
  obtain ⟨index, inside, rfl⟩ := List.mem_iff_getElem.mp member
  have paired := generated.pushed.length_eq.symm ▸ inside
  exact ⟨_, List.getElem_mem paired, generated.pushed.get paired inside⟩

theorem emitted_of_push {pushes : List Push} {push : Push}
    (listed : pushes ∈ documentPushes spec direct gateway) (member : push ∈ pushes) :
    ∃ document ∈ docs, ∃ ordinal, push.emit ordinal ∈ document.scenarios := by
  obtain ⟨document, inside, pushed⟩ := generated.doc_of_pushes listed
  exact ⟨document, inside, mem_of_push pushed member⟩

theorem push_of_emitted {document : Document} {emitted : Emitted} (member : document ∈ docs)
    (inside : emitted ∈ document.scenarios) :
    ∃ pushes ∈ documentPushes spec direct gateway, ∃ push ∈ pushes, ∃ ordinal,
      push.emit ordinal = emitted := by
  obtain ⟨pushes, listed, pushed⟩ := generated.pushes_of_doc member
  exact ⟨pushes, listed, push_of_mem pushed inside⟩

end Generated

/-! A small spec: one profile, one size, and two TCP paths to compare. -/

def plainProfile : Profile where
  id := "routing_tcp"
  protocol := plainProtocol
  interfaces := ["tcp"]
  chains := ["scg-direct"]
  tiers := ["canonical", "nightly"]

def loopbackPath : ComparisonPath where
  id := "tcp_loopback"
  interface := "tcp"
  gateway := false

def scgPath : ComparisonPath where
  id := "tcp_scg"
  interface := "tcp"
  gateway := true

def tcpComparison : InterfaceComparison where
  paths := [loopbackPath, scgPath]
  throughputMessageSizes := [1024]
  throughputConnections := [1]
  latencyMessageSizes := [1024]
  latencyConnections := [1]

def oneSize : Dimensions where
  streamMessageSizes := [1024]
  datagramMessageSizes := [1200]
  canonicalConnections := [1]
  nightlyConnections := [1, 4]
  scalabilityConnections := [1, 4]
  catalogConnections := [1, 4]
  canonicalStreamMessageSize := 1024
  canonicalDatagramMessageSize := 1200

/-- A spec that expands has documents. -/
theorem expands_of_isOk {spec : MatrixSpec} (fine : (generate spec).isOk = true) :
    ∃ docs, generate spec = .ok docs := by
  cases ran : generate spec with
  | ok docs => exact ⟨docs, rfl⟩
  | error refused =>
    rw [ran] at fine
    cases fine

end Seshat.Matrix
