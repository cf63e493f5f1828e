import Seshat.Matrix.Names
import Seshat.Matrix.Origins

/-! References: what a comparison row refers to is a row of its document. -/

namespace Seshat.Matrix

/-- The rows of a document answer what one of them refers to. -/
def Answered (rows : List Emitted) (comparison : RowComparison) : Prop :=
  comparison.reference ∈ rows.map (·.row.name) ∧
  comparison.gatewayReference ∈ rows.map (·.row.name) ∧
  ∀ group, comparison.calibrationGroup = some group → ∃ emitted ∈ rows,
    emitted.row.category = "interface-comparison-throughput" ∧
      ∃ other, emitted.row.comparison = some other ∧ other.group = group

def ReferencesClosed (rows : List Emitted) : Prop :=
  ∀ emitted ∈ rows, ∀ comparison, emitted.row.comparison = some comparison →
    Answered rows comparison

/-- Some path has a row for the connections. -/
def InterfaceComparison.Compares (comparison : InterfaceComparison) (connections : UInt32) : Prop :=
  ∃ path ∈ comparison.paths, path.SupportsConnections connections

/-- A path of this id has one. -/
def InterfaceComparison.Offers (comparison : InterfaceComparison) (id : String)
    (connections : UInt32) : Prop :=
  ∃ path ∈ comparison.paths, path.id = id ∧ path.SupportsConnections connections

/-- Both reference paths have one. -/
def InterfaceComparison.OffersReferences (comparison : InterfaceComparison)
    (connections : UInt32) : Prop :=
  ∀ gateway path, comparison.tcpPath gateway = some path → comparison.Offers path.id connections

structure ReferencesSupported (comparison : InterfaceComparison) : Prop where
  throughput : ∀ size ∈ comparison.throughputMessageSizes,
    ∀ connections ∈ comparison.throughputConnections, comparison.Compares connections →
      comparison.OffersReferences connections
  latency : ∀ size ∈ comparison.latencyMessageSizes,
    ∀ connections ∈ comparison.latencyConnections, comparison.Compares connections →
      comparison.OffersReferences connections
  calibration : ∀ size ∈ comparison.latencyMessageSizes,
    ∀ connections ∈ comparison.latencyConnections, comparison.Compares connections →
      size ∈ comparison.throughputMessageSizes ∧ connections ∈ comparison.throughputConnections

theorem throughput_plain : '_' ∉ "throughput".toList := by decide +kernel

theorem latency_plain : '_' ∉ "latency".toList := by decide +kernel

section Comparisons

variable {comparison : InterfaceComparison} {direct gateway : ComparisonPath} {rows : List Emitted}
  {size connections : UInt32}

theorem throughput_push {path : ComparisonPath} (sized : size ∈ comparison.throughputMessageSizes)
    (counted : connections ∈ comparison.throughputConnections) (listed : path ∈ comparison.paths)
    (supports : path.SupportsConnections connections) :
    throughputComparison direct gateway size connections path ∈
      comparisonPushes comparison direct gateway := by
  rw [comparisonPushes, List.mem_append, mem_pathPushes]
  exact .inl ⟨size, sized, connections, counted, path, listed, supports, rfl⟩

theorem latency_push {path : ComparisonPath} (sized : size ∈ comparison.latencyMessageSizes)
    (counted : connections ∈ comparison.latencyConnections) (listed : path ∈ comparison.paths)
    (supports : path.SupportsConnections connections) :
    latencyComparison comparison direct gateway size connections path ∈
      comparisonPushes comparison direct gateway := by
  rw [comparisonPushes, List.mem_append, mem_pathPushes, mem_pathPushes]
  exact .inr ⟨size, sized, connections, counted, path, listed, supports, rfl⟩

/-- The connections a push is made for are supported by a path of its id. -/
theorem push_offers {push : Push} (member : push ∈ comparisonPushes comparison direct gateway) :
    ∃ id kind size connections, push.name = ifaceName id kind size connections ∧
      '_' ∉ kind.toList ∧ comparison.Offers id connections := by
  rw [comparisonPushes, List.mem_append, mem_pathPushes, mem_pathPushes] at member
  rcases member with ⟨size, -, connections, -, path, listed, supports, rfl⟩ |
    ⟨size, -, connections, -, path, listed, supports, rfl⟩
  · exact ⟨_, _, _, _, rfl, throughput_plain, path, listed, rfl, supports⟩
  · exact ⟨_, _, _, _, rfl, latency_plain, path, listed, rfl, supports⟩

variable (pushed : pushAll (comparisonPushes comparison direct gateway) = .ok rows)
include pushed

theorem offers_of_named {id kind : String} (plain : '_' ∉ kind.toList)
    (named : ifaceName id kind size connections ∈ rows.map (·.row.name)) :
    comparison.Offers id connections := by
  rw [mem_names pushed, List.mem_map] at named
  obtain ⟨push, member, same⟩ := named
  obtain ⟨own, ownKind, _, _, name, ownPlain, offers⟩ := push_offers member
  rw [name, ifaceName_inj ownPlain plain] at same
  obtain ⟨rfl, -, -, rfl⟩ := same
  exact offers

theorem throughput_named {id : String} (sized : size ∈ comparison.throughputMessageSizes)
    (counted : connections ∈ comparison.throughputConnections)
    (offers : comparison.Offers id connections) :
    ifaceName id "throughput" size connections ∈ rows.map (·.row.name) := by
  obtain ⟨path, listed, rfl, supports⟩ := offers
  rw [mem_names pushed]
  exact List.mem_map_of_mem (throughput_push sized counted listed supports)

theorem latency_named {id : String} (sized : size ∈ comparison.latencyMessageSizes)
    (counted : connections ∈ comparison.latencyConnections)
    (offers : comparison.Offers id connections) :
    ifaceName id "latency" size connections ∈ rows.map (·.row.name) := by
  obtain ⟨path, listed, rfl, supports⟩ := offers
  rw [mem_names pushed]
  exact List.mem_map_of_mem (latency_push sized counted listed supports)

/-- The throughput rows define the groups of their sizes and connections. -/
theorem group_defined :
    (∃ emitted ∈ rows, emitted.row.category = "interface-comparison-throughput" ∧
      ∃ other, emitted.row.comparison = some other ∧
        other.group = ifaceGroup "throughput" size connections) ↔
      size ∈ comparison.throughputMessageSizes ∧ connections ∈ comparison.throughputConnections ∧
        comparison.Compares connections := by
  constructor
  · rintro ⟨emitted, here, category, other, compared, group⟩
    obtain ⟨push, member, ordinal, rfl⟩ := push_of_mem pushed here
    rw [comparisonPushes, List.mem_append, mem_pathPushes, mem_pathPushes] at member
    rcases member with ⟨own, sized, count, counted, path, listed, supports, rfl⟩ |
      ⟨own, -, count, -, path, -, -, rfl⟩
    · cases compared
      obtain ⟨rfl, rfl⟩ := ifaceGroup_inj.mp group
      exact ⟨sized, counted, path, listed, supports⟩
    · have other : "interface-comparison-latency" ≠ "interface-comparison-throughput" := by decide
      exact absurd category other
  · rintro ⟨sized, counted, path, listed, supports⟩
    obtain ⟨ordinal, here⟩ :=
      mem_of_push pushed (throughput_push sized counted listed supports)
    exact ⟨_, here, rfl, _, rfl, rfl⟩

variable (directPath : comparison.tcpPath false = some direct)
  (gatewayPath : comparison.tcpPath true = some gateway)
include directPath gatewayPath

omit pushed in
theorem offersReferences_iff :
    comparison.OffersReferences connections ↔
      comparison.Offers direct.id connections ∧ comparison.Offers gateway.id connections := by
  constructor
  · intro offers
    exact ⟨offers false direct directPath, offers true gateway gatewayPath⟩
  · rintro ⟨offersDirect, offersGateway⟩ (_ | _) path found
    · obtain rfl : direct = path := Option.some.inj (directPath.symm.trans found)
      exact offersDirect
    · obtain rfl : gateway = path := Option.some.inj (gatewayPath.symm.trans found)
      exact offersGateway

/-- What a throughput row refers to is there iff the reference paths have rows. -/
theorem throughput_answered (sized : size ∈ comparison.throughputMessageSizes)
    (counted : connections ∈ comparison.throughputConnections) :
    Answered rows (comparisonMeta direct gateway "throughput" size connections none none) ↔
      comparison.OffersReferences connections := by
  rw [offersReferences_iff directPath gatewayPath]
  constructor
  · rintro ⟨reference, gatewayReference, -⟩
    exact ⟨offers_of_named pushed throughput_plain reference,
      offers_of_named pushed throughput_plain gatewayReference⟩
  · rintro ⟨offersDirect, offersGateway⟩
    refine ⟨throughput_named pushed sized counted offersDirect,
      throughput_named pushed sized counted offersGateway, ?_⟩
    rintro group ⟨⟩

/-- What a latency row refers to is there iff the reference paths have rows, and its size and
connections are swept for throughput too. -/
theorem latency_answered (sized : size ∈ comparison.latencyMessageSizes)
    (counted : connections ∈ comparison.latencyConnections)
    (compares : comparison.Compares connections) (fraction : Option ℚ) :
    Answered rows (comparisonMeta direct gateway "latency" size connections
        (some (ifaceGroup "throughput" size connections)) fraction) ↔
      comparison.OffersReferences connections ∧ size ∈ comparison.throughputMessageSizes ∧
        connections ∈ comparison.throughputConnections := by
  rw [offersReferences_iff directPath gatewayPath]
  constructor
  · rintro ⟨reference, gatewayReference, calibrated⟩
    obtain ⟨swept, counts, -⟩ := (group_defined pushed).mp (calibrated _ rfl)
    exact ⟨⟨offers_of_named pushed latency_plain reference,
      offers_of_named pushed latency_plain gatewayReference⟩, swept, counts⟩
  · rintro ⟨⟨offersDirect, offersGateway⟩, swept, counts⟩
    refine ⟨latency_named pushed sized counted offersDirect,
      latency_named pushed sized counted offersGateway, ?_⟩
    rintro group ⟨⟩
    exact (group_defined pushed).mpr ⟨swept, counts, compares⟩

theorem comparison_closed_iff : ReferencesClosed rows ↔ ReferencesSupported comparison := by
  constructor
  · intro closed
    have latency {size connections : UInt32} (sized : size ∈ comparison.latencyMessageSizes)
        (counted : connections ∈ comparison.latencyConnections)
        (compares : comparison.Compares connections) :
        comparison.OffersReferences connections ∧ size ∈ comparison.throughputMessageSizes ∧
          connections ∈ comparison.throughputConnections := by
      obtain ⟨path, listed, supports⟩ := compares
      obtain ⟨ordinal, here⟩ := mem_of_push pushed (latency_push sized counted listed supports)
      exact (latency_answered pushed directPath gatewayPath sized counted
        ⟨path, listed, supports⟩ _).mp (closed _ here _ rfl)
    constructor
    · rintro size sized connections counted ⟨path, listed, supports⟩
      obtain ⟨ordinal, here⟩ := mem_of_push pushed (throughput_push sized counted listed supports)
      exact (throughput_answered pushed directPath gatewayPath sized counted).mp
        (closed _ here _ rfl)
    · intro size sized connections counted compares
      exact (latency sized counted compares).1
    · intro size sized connections counted compares
      exact (latency sized counted compares).2
  · intro supported emitted here refers compared
    obtain ⟨push, member, ordinal, rfl⟩ := push_of_mem pushed here
    rw [comparisonPushes, List.mem_append, mem_pathPushes, mem_pathPushes] at member
    rcases member with ⟨size, sized, connections, counted, path, listed, supports, rfl⟩ |
      ⟨size, sized, connections, counted, path, listed, supports, rfl⟩
    · cases compared
      exact (throughput_answered pushed directPath gatewayPath sized counted).mpr
        (supported.throughput size sized connections counted ⟨path, listed, supports⟩)
    · cases compared
      have compares : comparison.Compares connections := ⟨path, listed, supports⟩
      exact (latency_answered pushed directPath gatewayPath sized counted compares _).mpr
        ⟨supported.latency size sized connections counted compares,
          supported.calibration size sized connections counted compares⟩

end Comparisons

/-- In every document the references are closed iff the reference paths have a row wherever some
path does, and the latency sweep stays within the throughput sweep. -/
theorem references_closed_iff {spec : MatrixSpec} {docs : List Document}
    (expanded : generate spec = .ok docs) :
    (∀ document ∈ docs, ReferencesClosed document.scenarios) ↔
      ReferencesSupported spec.interfaceComparison := by
  obtain ⟨direct, gateway, generated⟩ := generate_ok expanded
  constructor
  · intro closed
    have inDocument : comparisonPushes spec.interfaceComparison direct gateway ∈
        documentPushes spec direct gateway := by simp [documentPushes]
    obtain ⟨document, inside, pushed⟩ := generated.doc_of_pushes inDocument
    exact (comparison_closed_iff pushed generated.directPath generated.gatewayPath).mp
      (closed document inside)
  · intro supported document inside
    obtain ⟨pushes, inDocument, pushed⟩ := generated.pushes_of_doc inside
    rcases document_classified inDocument with rfl | classified
    · exact (comparison_closed_iff pushed generated.directPath generated.gatewayPath).mpr supported
    · intro emitted here refers compared
      obtain ⟨push, member, ordinal, rfl⟩ := push_of_mem pushed here
      have uncompared : (push.emit ordinal).row.comparison = none :=
        (classified push member).uncompared ordinal
      rw [uncompared] at compared
      cases compared

/-! A loopback path of one connection count, and a sweep of two. -/

def pinnedPath : ComparisonPath := { loopbackPath with connections := [1] }

def pinnedSpec : MatrixSpec where
  dimensions := oneSize
  profiles := [plainProfile]
  interfaceComparison :=
    { tcpComparison with paths := [pinnedPath, scgPath], throughputConnections := [1, 4] }

theorem pinnedSpec_expands : ∃ docs, generate pinnedSpec = .ok docs :=
  expands_of_isOk (by decide +kernel)

/-- Paths that are not pinned answer every reference of the sweep. -/
def openSpec : MatrixSpec :=
  { pinnedSpec with
    interfaceComparison := { tcpComparison with throughputConnections := [1, 4] } }

theorem references_closed_iff_open :
    ∃ docs, generate openSpec = .ok docs ∧
      ∀ document ∈ docs, ReferencesClosed document.scenarios := by
  have offers (connections : UInt32) :
      openSpec.interfaceComparison.OffersReferences connections := by
    rw [offersReferences_iff (show _ = some loopbackPath from rfl)
      (show _ = some scgPath from rfl)]
    exact ⟨⟨_, List.mem_cons_self, rfl, .inl rfl⟩,
      ⟨_, List.mem_cons_of_mem _ List.mem_cons_self, rfl, .inl rfl⟩⟩
  have supported : ReferencesSupported openSpec.interfaceComparison :=
    { throughput := fun _ _ connections _ _ => offers connections
      latency := fun _ _ connections _ _ => offers connections
      calibration := by
        refine List.forall_mem_singleton.mpr (List.forall_mem_singleton.mpr fun _ => ?_)
        exact ⟨List.mem_singleton_self _, List.mem_cons_self⟩ }
  obtain ⟨docs, expanded⟩ : ∃ docs, generate openSpec = .ok docs :=
    expands_of_isOk (by decide +kernel)
  exact ⟨docs, expanded, (references_closed_iff expanded).mpr supported⟩

/-- The gateway row of four connections refers to a loopback row that there is not. -/
theorem pinned_dangles :
    ∃ docs, generate pinnedSpec = .ok docs ∧ ∃ document ∈ docs, ∃ emitted ∈ document.scenarios,
      ∃ comparison, emitted.row.comparison = some comparison ∧
        comparison.reference = "iface_tcp_loopback_throughput_1KB_4c".toList ∧
        comparison.reference ∉ document.scenarios.map (·.row.name) := by
  obtain ⟨docs, expanded⟩ := pinnedSpec_expands
  obtain ⟨direct, gateway, generated⟩ := generate_ok expanded
  obtain rfl : pinnedPath = direct := Option.some.inj generated.directPath
  have inDocument : comparisonPushes pinnedSpec.interfaceComparison pinnedPath gateway ∈
      documentPushes pinnedSpec pinnedPath gateway := by simp [documentPushes]
  obtain ⟨document, inside, pushed⟩ := generated.doc_of_pushes inDocument
  have swept : throughputComparison pinnedPath gateway 1024 4 scgPath ∈
      comparisonPushes pinnedSpec.interfaceComparison pinnedPath gateway := by
    apply throughput_push
    · simp [pinnedSpec, tcpComparison]
    · simp [pinnedSpec]
    · simp [pinnedSpec]
    · exact .inl rfl
  obtain ⟨ordinal, here⟩ := mem_of_push pushed swept
  have reference : ifaceName "tcp_loopback" "throughput" 1024 4 =
      "iface_tcp_loopback_throughput_1KB_4c".toList := by decide +kernel
  refine ⟨docs, expanded, document, inside, _, here, _, rfl, reference, fun named => ?_⟩
  obtain ⟨path, listed, same, supports⟩ := offers_of_named pushed throughput_plain named
  have paths : path = pinnedPath ∨ path = scgPath := by simpa [pinnedSpec] using listed
  rcases paths with rfl | rfl
  · exact absurd supports (by decide)
  · exact absurd same (by decide)

end Seshat.Matrix
