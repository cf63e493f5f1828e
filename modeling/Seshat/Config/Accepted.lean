import Seshat.Config.Validate

/-! What validation guarantees about a scenario it accepts. -/

namespace Seshat.Config

namespace ScenarioReport

@[simp] theorem ok_errorIf (r : ScenarioReport) (bad : Prop) [Decidable bad] (text : String) :
    (r.errorIf bad text).ok = true ↔ r.ok = true ∧ ¬bad := by
  unfold errorIf ok
  split <;> simp [*]

@[simp] theorem ok_warnIf (r : ScenarioReport) (odd : Prop) [Decidable odd] (text : String) :
    (r.warnIf odd text).ok = r.ok := by
  unfold warnIf ok
  split <;> rfl

@[simp] theorem ok_note (r : ScenarioReport) (text : String) : (r.note text).ok = r.ok := rfl

end ScenarioReport

/-- A pattern has the parameters it is paced by. -/
structure AcceptedPattern (sender : Sender) : Prop where
  periodic : sender.pattern = .periodic → sender.intervalUs ≠ none
  burst : sender.pattern = .burst → sender.burstCount ≠ none
  ramp : sender.pattern = .ramp →
    sender.rampStartMbps ≠ none ∧ sender.rampStepMbps ≠ none ∧ sender.rampStepIntervalSecs ≠ none

structure AcceptedSender (s : Scenario) (sender : Sender) : Prop where
  pattern : AcceptedPattern sender
  endpoint : sender.interface = .unix ∨ sender.interface = .shm → s.gateway.enabled = true
  dtls : s.protocol.kind = .dtls → sender.interface = .udp

structure AcceptedStream (stream : Stream) : Prop where
  messageSize : stream.messageSizeBytes ≠ 0
  periodic : stream.pattern = .periodic → stream.intervalUs ≠ none
  trafficClass : canonicalTrafficClass stream.priority.trafficClass ≠ none
  interface : stream.interface = .tcp
  single : stream.connections = 1

structure AcceptedSaturation (sat : Saturation) (start step max : ℚ) : Prop where
  rates : sat = { startMbps := some start, stepMbps := some step, maxMbps := some max }
  start_pos : 0 < start
  step_pos : 0 < step
  ordered : start ≤ max

structure Accepted (s : Scenario) : Prop where
  driven : s.sender ≠ none ∨ s.streams ≠ []
  kernel : s.protocol.kernel = true → s.protocol.kind = .tls
  provider : s.protocol.kind = .custom → isBlank (s.protocol.securityProvider.getD "") = false
  sender : ∀ sender ∈ s.sender, AcceptedSender s sender
  saturation : ∀ sat ∈ s.saturation, ∃ start step max, AcceptedSaturation sat start step max
  streams : ∀ stream ∈ s.streams, AcceptedStream stream
  streamProtocol : s.streams ≠ [] → s.gateway.enabled = true ∧ s.protocol.kind ≠ .dtls
  reload : s.reloadEvent ≠ none → s.gateway.enabled = true

theorem validateAddr_keeps {interface : Interface} {addr ctx : String} {r : ScenarioReport}
    (accepted : (validateAddr interface addr ctx r).ok = true) : r.ok = true := by
  cases interface <;> exact ((r.ok_errorIf _ _).mp accepted).1

theorem validatePattern_ok {sender : Sender} {r : ScenarioReport}
    (accepted : (validatePattern sender r).ok = true) :
    r.ok = true ∧ AcceptedPattern sender := by
  unfold validatePattern at accepted
  cases pattern : sender.pattern with
  | sustained =>
    simp only [pattern] at accepted
    exact ⟨accepted, ⟨by simp [pattern], by simp [pattern], by simp [pattern]⟩⟩
  | periodic =>
    simp only [pattern, ScenarioReport.ok_errorIf] at accepted
    exact ⟨accepted.1, ⟨fun _ => accepted.2, by simp [pattern], by simp [pattern]⟩⟩
  | burst =>
    simp only [pattern, ScenarioReport.ok_errorIf] at accepted
    exact ⟨accepted.1, ⟨by simp [pattern], fun _ => accepted.2, by simp [pattern]⟩⟩
  | ramp =>
    simp only [pattern, ScenarioReport.ok_errorIf, not_or] at accepted
    exact ⟨accepted.1, ⟨by simp [pattern], by simp [pattern], fun _ => accepted.2⟩⟩

theorem validateSender_ok {s : Scenario} {sender : Sender} {r : ScenarioReport}
    (accepted : (validateSender s sender r).ok = true) :
    r.ok = true ∧ AcceptedSender s sender := by
  simp only [validateSender, validateProtocolTransport, validateTransportNeedsGateway,
    ScenarioReport.ok_errorIf] at accepted
  obtain ⟨⟨⟨⟨⟨⟨⟨paced, endpoint⟩, -⟩, -⟩, dtls⟩, -⟩, -⟩, -⟩ := accepted
  obtain ⟨kept, pattern⟩ := validatePattern_ok paced
  refine ⟨validateAddr_keeps kept, pattern, fun isEndpoint => ?_, fun isDtls => ?_⟩
  · by_contra disabled
    exact endpoint ⟨isEndpoint, Bool.eq_false_iff.mpr disabled⟩
  · by_contra other
    exact dtls ⟨isDtls, other⟩

theorem validateProtocolKind_ok {s : Scenario} {r : ScenarioReport}
    (accepted : (validateProtocolKind s r).ok = true) :
    r.ok = true ∧
      (s.protocol.kind = .custom → isBlank (s.protocol.securityProvider.getD "") = false) := by
  unfold validateProtocolKind at accepted
  cases kind : s.protocol.kind with
  | custom =>
    simp only [kind, ScenarioReport.ok_errorIf, Bool.not_eq_true] at accepted
    exact ⟨accepted.1, fun _ => accepted.2⟩
  | wireguard =>
    simp only [kind, ScenarioReport.ok_errorIf] at accepted
    exact ⟨accepted.1, by simp⟩
  | ipsec =>
    simp only [kind, ScenarioReport.ok_errorIf] at accepted
    exact ⟨accepted.1, by simp⟩
  | none => exact ⟨by simpa only [kind] using accepted, by simp⟩
  | tls => exact ⟨by simpa only [kind] using accepted, by simp⟩
  | dtls => exact ⟨by simpa only [kind] using accepted, by simp⟩

theorem validateSaturation_ok {sat : Saturation} {r : ScenarioReport}
    (accepted : (validateSaturation sat r).ok = true) :
    r.ok = true ∧ ∃ start step max, AcceptedSaturation sat start step max := by
  obtain ⟨startMbps, stepMbps, maxMbps⟩ := sat
  match startMbps, stepMbps, maxMbps, accepted with
  | some start, some step, some max, accepted =>
    simp only [validateSaturation, ScenarioReport.ok_errorIf, not_le, not_lt] at accepted
    obtain ⟨⟨⟨kept, start_pos⟩, step_pos⟩, ordered⟩ := accepted
    exact ⟨kept, start, step, max, rfl, start_pos, step_pos, ordered⟩
  | none, _, _, accepted => simp [validateSaturation] at accepted
  | some _, none, _, accepted => simp [validateSaturation] at accepted
  | some _, some _, none, accepted => simp [validateSaturation] at accepted

theorem validateStream_ok {s : Scenario} {stream : Stream} {i : Nat} {r : ScenarioReport}
    (accepted : (validateStream s r stream i).ok = true) :
    r.ok = true ∧ AcceptedStream stream := by
  simp only [validateStream, validateTransportNeedsGateway, validateDscp,
    ScenarioReport.ok_errorIf, ScenarioReport.ok_warnIf, not_and, not_not] at accepted
  obtain ⟨⟨⟨⟨⟨⟨addr, -⟩, messageSize⟩, periodic⟩, trafficClass⟩, interface⟩, single⟩ := accepted
  exact ⟨validateAddr_keeps addr, messageSize, periodic, trafficClass, interface, single⟩

/-- Induction over the streams still to be checked: a finding is never withdrawn. -/
theorem validateStreamFold_ok {s : Scenario} {streams : List (Stream × Nat)} {r : ScenarioReport}
    (accepted : (streams.foldl (fun r (stream, i) => validateStream s r stream i) r).ok = true) :
    r.ok = true ∧ ∀ entry ∈ streams, AcceptedStream entry.1 := by
  induction streams generalizing r with
  | nil => exact ⟨accepted, by simp⟩
  | cons entry rest ih =>
    obtain ⟨checked, later⟩ := ih accepted
    obtain ⟨kept, this⟩ := validateStream_ok checked
    exact ⟨kept, List.forall_mem_cons.mpr ⟨this, later⟩⟩

theorem validateStreams_ok {s : Scenario} {r : ScenarioReport}
    (accepted : (validateStreams s r).ok = true) :
    r.ok = true ∧ (∀ stream ∈ s.streams, AcceptedStream stream) ∧
      (s.streams ≠ [] → s.gateway.enabled = true ∧ s.protocol.kind ≠ .dtls) := by
  unfold validateStreams at accepted
  have fold (checked : (s.streams.zipIdx.foldl
      (fun r (stream, i) => validateStream s r stream i) r).ok = true) :
      r.ok = true ∧ ∀ stream ∈ s.streams, AcceptedStream stream := by
    obtain ⟨kept, each⟩ := validateStreamFold_ok checked
    refine ⟨kept, fun stream member => ?_⟩
    obtain ⟨i, inRange, rfl⟩ := List.getElem_of_mem member
    exact each (s.streams[i], i) (by simp [List.mem_zipIdx_iff_getElem?, inRange])
  by_cases empty : s.streams.isEmpty
  · simp only [empty, if_true] at accepted
    obtain ⟨kept, each⟩ := fold accepted
    exact ⟨kept, each, fun some => absurd (List.isEmpty_iff.mp empty) some⟩
  · rw [if_neg empty] at accepted
    simp only [ScenarioReport.ok_note, ScenarioReport.ok_errorIf, Bool.not_eq_false,
      not_or] at accepted
    obtain ⟨⟨checked, enabled⟩, kind, -⟩ := accepted
    obtain ⟨kept, each⟩ := fold checked
    exact ⟨kept, each, fun _ => ⟨enabled, kind⟩⟩

theorem validateOptimizationFlags_keeps {s : Scenario} {r : ScenarioReport}
    (accepted : (validateOptimizationFlags s r).ok = true) : r.ok = true := by
  unfold validateOptimizationFlags at accepted
  cases profile : s.optimizationFlags.perfProfile with
  | none =>
    simp only [profile, ScenarioReport.ok_errorIf] at accepted
    exact accepted.1
  | some name =>
    simp only [profile, ScenarioReport.ok_errorIf] at accepted
    exact accepted.1.1

theorem validateCertificateSelection_keeps {s : Scenario} {r : ScenarioReport}
    (accepted : (validateCertificateSelection s r).ok = true) : r.ok = true := by
  unfold validateCertificateSelection at accepted
  by_cases empty : s.protocol.certificates.isEmpty
  · simpa only [empty, if_true] using accepted
  · rw [if_neg empty] at accepted
    dsimp only at accepted
    split at accepted
    · simp only [ScenarioReport.ok_errorIf] at accepted
      exact accepted.1.1.1.1.1.1
    · simp only [ScenarioReport.ok_errorIf, ScenarioReport.ok_warnIf] at accepted
      exact accepted.1.1.1.1.1

theorem validateReload_ok {s : Scenario} {reload : ReloadEvent} {r : ScenarioReport}
    (accepted : (validateReload s reload r).ok = true) :
    r.ok = true ∧ s.gateway.enabled = true := by
  simpa [validateReload] using accepted

/-- A check of an optional part. -/
theorem optionCheck_ok {α : Type} {part : Option α} {r : ScenarioReport}
    {check : α → ScenarioReport} {found : α → Prop}
    (each : ∀ a ∈ part, (check a).ok = true → r.ok = true ∧ found a)
    (accepted : (part.elim r check).ok = true) : r.ok = true ∧ ∀ a ∈ part, found a := by
  cases part with
  | none => exact ⟨accepted, by simp⟩
  | some a =>
    obtain ⟨kept, this⟩ := each a rfl accepted
    exact ⟨kept, fun other same => (Option.mem_some_iff.mp same) ▸ this⟩

/-- Everything validation guarantees about a scenario that is run. The checks are undone
from the last one back. -/
theorem validateScenario_accepted {s : Scenario} (enabled : s.enabled = true)
    (accepted : (validateScenario s).ok = true) : Accepted s := by
  unfold validateScenario at accepted
  rw [if_neg (by simp [enabled])] at accepted
  simp only [ScenarioReport.ok_warnIf] at accepted
  obtain ⟨accepted, reload⟩ := optionCheck_ok (fun _ _ => validateReload_ok) accepted
  have accepted := validateCertificateSelection_keeps accepted
  rw [ScenarioReport.ok_errorIf] at accepted
  have accepted := validateOptimizationFlags_keeps accepted.1
  obtain ⟨accepted, streams, streamProtocol⟩ := validateStreams_ok accepted
  obtain ⟨accepted, saturation⟩ := optionCheck_ok (fun _ _ => validateSaturation_ok) accepted
  rw [ScenarioReport.ok_warnIf] at accepted
  obtain ⟨accepted, sender⟩ := optionCheck_ok (fun _ _ => validateSender_ok) accepted
  rw [ScenarioReport.ok_errorIf, not_and, not_not] at accepted
  obtain ⟨accepted, kernel⟩ := accepted
  obtain ⟨accepted, provider⟩ := validateProtocolKind_ok accepted
  rw [ScenarioReport.ok_errorIf, not_and_or] at accepted
  refine ⟨accepted.2, kernel, provider, sender, saturation, streams, streamProtocol, ?_⟩
  intro reloaded
  obtain ⟨event, some⟩ := Option.ne_none_iff_exists'.mp reloaded
  exact reload event some

theorem validate_accepted {config : Config} {s : Scenario} (accepted : (validate config).ok = true)
    (member : s ∈ config.scenarios) (enabled : s.enabled = true) : Accepted s := by
  have each := List.all_eq_true.mp ((Bool.and_eq_true _ _).mp accepted).2
  exact validateScenario_accepted enabled (each _ (List.mem_map_of_mem member))

end Seshat.Config
