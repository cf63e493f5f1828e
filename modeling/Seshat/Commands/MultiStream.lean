import Seshat.Config.Accepted
import Seshat.Workload.Streams
import Mathlib.Tactic.Common

/-! How the wiring turns the streams of a scenario into threads, and what each stream
declares: its pattern, the outlier removal of its suite, and its label. -/

namespace Seshat.Commands
open Config Workload Metrics Proto.Wire Lib.Rounds Lib.Saturating

/-- The label and the value of a DSCP tag, as `to_uppercase` and `parse_dscp_tag` read it. -/
structure DscpMark where
  label : String
  value : Option UInt8
  deriving DecidableEq, Repr

section Dscp

variable (dscp : String → DscpMark)

def streamConfig (trafficClass : String) (i : Nat) (stream : Stream) : StreamConfig where
  name := s!"{stream.role.debug}-{i}"
  trafficClass
  dscpLabel := (dscp stream.priority.dscpTag).label
  dscpTag := (dscp stream.priority.dscpTag).value
  messageBytes := max stream.messageSizeBytes (UInt32.ofNat headerLen)
  intervalUs :=
    match stream.pattern with
    | .periodic => stream.intervalUs
    | _ => none

/-- The streams from number `i` on, each with its thread's configuration. -/
def streamConfigsFrom (i : Nat) : List Stream → Except String (List (Stream × StreamConfig))
  | [] => .ok []
  | stream :: rest =>
      match canonicalTrafficClass stream.priority.trafficClass with
      | none =>
          .error
            s!"stream traffic_class '{stream.priority.trafficClass}' is not recognised (validation should have rejected this scenario)"
      | some trafficClass =>
          match streamConfigsFrom (i + 1) rest with
          | .ok later => .ok ((stream, streamConfig dscp trafficClass i stream) :: later)
          | .error wrong => .error wrong

def streamConfigs (s : Scenario) : Except String (List (Stream × StreamConfig)) :=
  streamConfigsFrom dscp 0 s.streams

end Dscp

/-! What a stream declares. -/

/-- The pattern of a stream, as a sender of the run engine would declare it. -/
def declaredSender (stream : Stream) : Sender where
  interface := stream.interface
  targetAddr := stream.targetAddr
  pattern := stream.pattern
  intervalUs := stream.intervalUs

def declaredPacer (stream : Stream) (cfg : StreamConfig) : Pacer :=
  Pacer.fromSender (declaredSender stream) cfg.messageBytes

/-- In every run message `k` is stamped with the `k`-th deadline the stream declares. -/
def StampsDeadlines (stream : Stream) (cfg : StreamConfig) : Prop :=
  ∀ (trace : StreamTrace) (k : Nat) (sent : Sent), (trace.sent cfg)[k]? = some sent →
    ∃ hdr, WireHeader.decode sent.msg = .ok hdr ∧
      hdr.tsNs = satAdd trace.startNs ((declaredPacer stream cfg).deadline k)

structure RunsAsDeclared (sqrt : ℚ → ℚ) (d : Defaults) (stream : Stream) (cfg : StreamConfig) :
    Prop where
  /-- A pattern with a schedule is sent by its deadlines. -/
  pattern : (declaredPacer stream cfg).isBlast = false → StampsDeadlines stream cfg
  /-- Outliers are removed as the suite asks. -/
  outliers : ∀ measureSecs (trace : StreamTrace),
    (streamResult sqrt measureSecs cfg trace).summary =
      { (streamReceiver cfg trace).state.metrics with durationS := measureSecs }.finish sqrt
        (decide (d.outlierRemoval = OutlierRemoval.iqr))
  label : ∀ measureSecs (trace : StreamTrace),
    (streamResult sqrt measureSecs cfg trace).paced = true ↔ StampsDeadlines stream cfg

/-- The patterns the stream threads know: an unscheduled one, and an interval above 0. -/
def KnownPattern (stream : Stream) : Prop :=
  stream.pattern = .sustained ∨ stream.pattern = .periodic ∧ stream.intervalUs ≠ some 0

theorem streamConfigsFrom_spec {dscp : String → DscpMark} {i : Nat} {streams : List Stream}
    {configs : List (Stream × StreamConfig)}
    (built : streamConfigsFrom dscp i streams = .ok configs) :
    configs.map Prod.fst = streams ∧
      ∀ entry ∈ configs, ∃ trafficClass j,
        entry.2 = streamConfig dscp trafficClass j entry.1 := by
  induction streams generalizing i configs with
  | nil =>
    rw [streamConfigsFrom, Except.ok.injEq] at built
    rw [← built]
    exact ⟨rfl, List.forall_mem_nil _⟩
  | cons stream rest ih =>
    rw [streamConfigsFrom] at built
    split at built
    · simp at built
    · next trafficClass _ =>
      split at built
      · next later found =>
        rw [Except.ok.injEq] at built
        subst built
        obtain ⟨same, each⟩ := ih found
        refine ⟨by rw [List.map_cons, same], ?_⟩
        exact List.forall_mem_cons.mpr ⟨⟨trafficClass, i, rfl⟩, each⟩
      · simp at built

theorem streamConfigsFrom_accepted (dscp : String → DscpMark) {streams : List Stream}
    (accepted : ∀ stream ∈ streams, AcceptedStream stream) (i : Nat) :
    ∃ configs, streamConfigsFrom dscp i streams = .ok configs := by
  induction streams generalizing i with
  | nil => exact ⟨[], rfl⟩
  | cons stream rest ih =>
    obtain ⟨first, others⟩ := List.forall_mem_cons.mp accepted
    obtain ⟨trafficClass, known⟩ := Option.ne_none_iff_exists'.mp first.trafficClass
    obtain ⟨later, built⟩ := ih others (i + 1)
    exact ⟨_, by rw [streamConfigsFrom, known, built]⟩

/-! The schedule of a paced thread. -/

theorem satAdd_assoc (a b c : UInt64) : satAdd (satAdd a b) c = satAdd a (satAdd b c) := by
  rw [← UInt64.toNat_inj]
  simp only [satAdd_toNat]
  omega

theorem satAdd_zero (a : UInt64) : satAdd a 0 = a := by
  rw [← UInt64.toNat_inj, satAdd_toNat]
  have := toNat_le_top a
  simpa using this

/-- The deadlines of a fixed gap, counted from the start of a run. -/
theorem fixed_deadline (startNs gapNs : UInt64) (k : Nat) :
    (satAdd · gapNs)^[k] startNs =
      satAdd startNs (Pacer.deadline { kind := .fixed gapNs, nextNs := 0 } k) := by
  have kind (k : Nat) : (Pacer.after { kind := .fixed gapNs, nextNs := 0 } k).kind =
      .fixed gapNs := by
    induction k with
    | zero => rfl
    | succ k ih => simp only [Pacer.after, Pacer.nextDeadlineNs, ih]
  have succ (k : Nat) : Pacer.deadline { kind := .fixed gapNs, nextNs := 0 } (k + 1) =
      satAdd (Pacer.deadline { kind := .fixed gapNs, nextNs := 0 } k) gapNs := by
    simp only [Pacer.deadline, Pacer.after, Pacer.nextDeadlineNs, kind k]
  induction k with
  | zero => exact (satAdd_zero startNs).symm
  | succ k ih => rw [Function.iterate_succ_apply', ih, succ, satAdd_assoc]

theorem sent_stamp {messageBytes : UInt32} (builder : MessageBuilder messageBytes)
    (seq tsNs : UInt64) :
    WireHeader.decode (builder.buildAt seq tsNs).1 = .ok (stamped messageBytes seq tsNs) := by
  rw [builder.buildAt_message, message, decode_bytes]

/-- A message is stamped with this time. -/
def StampedAt (tsNs : UInt64) (sent : Sent) : Prop :=
  ∃ hdr, WireHeader.decode sent.msg = .ok hdr ∧ hdr.tsNs = tsNs

/-- A paced thread counts its stamps up by the gap. -/
theorem pacedStream_stamps {messageBytes : UInt32} (gapNs : UInt64)
    (start : StreamSender messageBytes) (turns : List SendTurn) :
    Numbered StampedAt (satAdd · gapNs) start.nextNs
      (rounds (pacedStreamRound gapNs) start turns).emitted := by
  refine rounds_numbered (pacedStreamRound gapNs) StreamSender.nextNs ?_ ?_ start turns
  · intro state turn
    unfold pacedStreamRound
    split
    · trivial
    · dsimp only
      split
      · trivial
      · exact ⟨⟨_, sent_stamp state.builder state.seq state.nextNs, rfl⟩, trivial⟩
  · intro state turn again
    unfold pacedStreamRound at again ⊢
    split at again
    · simp at again
    · next running =>
      rw [if_neg running]
      dsimp only at again ⊢
      split at again
      · simp at again
      · simp only [List.length_singleton, Function.iterate_one]

theorem interval_pos {us : UInt64} (nonzero : us ≠ 0) : satMul us 1000 > 0 := by
  have positive := toNat_pos nonzero
  rw [gt_iff_lt, UInt64.lt_iff_toNat_lt, satMul_toNat]
  simp only [UInt64.toNat_ofNat, top]
  omega

/-! The three halves of the label: which thread runs, which schedule it has, what it says. -/

variable {dscp : String → DscpMark} {trafficClass : String} {i : Nat} {stream : Stream}

theorem streamConfig_paced {us : UInt64} (periodic : stream.pattern = .periodic)
    (interval : stream.intervalUs = some us) (nonzero : us ≠ 0) :
    StampsDeadlines stream (streamConfig dscp trafficClass i stream) := by
  intro trace k sent at_k
  have paced : (streamConfig dscp trafficClass i stream).intervalUs = some us := by
    simp only [streamConfig, periodic, interval]
  have schedule : declaredPacer stream (streamConfig dscp trafficClass i stream) =
      { kind := .fixed (satMul us 1000), nextNs := 0 } := by
    simp only [declaredPacer, Pacer.fromSender, declaredSender, periodic, Pacer.intervalGap, interval]
    rfl
  rw [schedule, ← fixed_deadline]
  unfold StreamTrace.sent streamSender at at_k
  simp only [paced, Option.map_some, if_pos (interval_pos nonzero)] at at_k
  exact (pacedStream_stamps _ _ _).get at_k

/-- A blast stamps the time of the send. -/
def earlyTrace : StreamTrace where
  startNs := 0
  sends :=
    [{ head := .measure, wokeNs := 0, awake := .measure, stampNs := 1, sending := .measure
       answer := .ok (), sent := .measure }]
  receives := []
  unread := []

theorem streamConfig_blast (cfg : StreamConfig)
    (blasts : ∀ us, cfg.intervalUs = some us → us = 0) : ¬StampsDeadlines stream cfg := by
  intro stamps
  have sent : (earlyTrace.sent cfg)[0]? = some
      { msg := ((MessageBuilder.new cfg.messageBytes).buildAt 0 1).1, stage := .measure } := by
    unfold StreamTrace.sent streamSender
    cases interval : cfg.intervalUs with
    | none => rfl
    | some us =>
      rw [blasts us interval]
      rfl
  obtain ⟨hdr, decoded, stamp⟩ := stamps earlyTrace 0 _ sent
  rw [sent_stamp, Except.ok.injEq] at decoded
  have first : (declaredPacer stream cfg).deadline 0 = 0 := rfl
  rw [← decoded, first] at stamp
  have one : (1 : UInt64) = satAdd 0 0 := stamp
  exact absurd one (by decide)

/-! Outlier removal: a stream with one straggler tells the two settings apart. -/

/-- A header-only message that arrives after the given time. -/
def latencyTurn (latencyNs : UInt64) : ReceiveTurn where
  head := .measure
  answer := .ok (.message
    { origin := 0, msg := message { seq := 0, tsNs := 0, payloadLen := 0 }, tos := none })
  recvNs := latencyNs
  counted := .measure

theorem receive_latency (stride : Nat) (m : FlowMetrics) (hdr : WireHeader) (recvNs : UInt64) :
    (receive stride m (message hdr) recvNs).latenciesUs =
      m.latenciesUs ++ [((satSub recvNs hdr.tsNs).toNat : ℚ) / 1000] := by
  unfold receive ingest
  rw [decodeMessage_exact]
  dsimp only
  split <;> rfl

theorem receiver_latencies (cfg : StreamConfig) (latencies : List UInt64) (state : StreamReceiver) :
    (rounds (receiveRound cfg) state (latencies.map latencyTurn)).state.metrics.latenciesUs =
      state.metrics.latenciesUs ++ latencies.map fun ns => (ns.toNat : ℚ) / 1000 := by
  induction latencies generalizing state with
  | nil => simp [rounds]
  | cons ns rest ih =>
    have again : (receiveRound cfg state (latencyTurn ns)).again = true := rfl
    rw [List.map_cons, rounds_again again]
    have first : (receiveRound cfg state (latencyTurn ns)).state.metrics.latenciesUs =
        state.metrics.latenciesUs ++ [(ns.toNat : ℚ) / 1000] := by
      have received := receive_latency cfg.messageBytes.toNat state.metrics
        { seq := 0, tsNs := 0, payloadLen := 0 } ns
      rw [satSub_toNat] at received
      exact received
    rw [ih, first, List.map_cons, List.append_assoc, List.singleton_append]

def stragglerTrace : StreamTrace where
  startNs := 0
  sends := []
  receives := [0, 0, 0, 1000].map latencyTurn
  unread := []

theorem straggler_outlier : (removeOutliersIqr [0, 0, 0, 1]).2 = 1 := by
  have sorted : sortSamples [0, 0, 0, 1] = [0, 0, 0, 1] :=
    List.mergeSort_of_pairwise (by decide +kernel)
  unfold removeOutliersIqr
  rw [sorted]
  decide +kernel

theorem straggler_removed (sqrt : ℚ → ℚ) (cfg : StreamConfig) (removeOutliers : Bool)
    (same : (streamResult sqrt 1 cfg stragglerTrace).summary =
      { (streamReceiver cfg stragglerTrace).state.metrics with durationS := 1 }.finish sqrt
        removeOutliers) : removeOutliers = true := by
  by_contra keeps
  rw [Bool.not_eq_true] at keeps
  have latencies : (streamReceiver cfg stragglerTrace).state.metrics.latenciesUs = [0, 0, 0, 1] := by
    have got := receiver_latencies cfg [0, 0, 0, 1000] {}
    rw [show streamReceiver cfg stragglerTrace =
      rounds (receiveRound cfg) {} ([0, 0, 0, 1000].map latencyTurn) from rfl, got]
    decide +kernel
  have removed := congrArg FlowSummary.outliersRemoved same
  rw [keeps] at removed
  have one : (removeOutliersIqr (streamReceiver cfg stragglerTrace).state.metrics.latenciesUs).2 = 0 :=
    removed
  rw [latencies, straggler_outlier] at one
  exact absurd one (by decide)

/-! Every combination that validation lets through. -/

theorem blasts_of_pattern {stream : Stream} (known : ¬(stream.pattern = .periodic ∧
    stream.intervalUs ≠ some 0)) (us : UInt64)
    (interval : (streamConfig dscp trafficClass i stream).intervalUs = some us) : us = 0 := by
  simp only [streamConfig] at interval
  cases pattern : stream.pattern with
  | periodic =>
    rw [pattern] at interval
    by_contra nonzero
    refine known ⟨pattern, ?_⟩
    rw [show stream.intervalUs = some us from interval]
    exact fun same => nonzero (Option.some.inj same)
  | sustained => simp [pattern] at interval
  | burst => simp [pattern] at interval
  | ramp => simp [pattern] at interval

/-- A burst or a ramp has a schedule, and is blasted. -/
theorem unscheduled_declared {cfg : StreamConfig} (isBlast : (declaredPacer stream cfg).isBlast = true) :
    stream.pattern = .sustained ∨ stream.pattern = .periodic := by
  cases pattern : stream.pattern with
  | sustained => exact Or.inl rfl
  | periodic => exact Or.inr rfl
  | burst => simp [declaredPacer, declaredSender, Pacer.fromSender, pattern, Pacer.isBlast] at isBlast
  | ramp => simp [declaredPacer, declaredSender, Pacer.fromSender, pattern, Pacer.isBlast] at isBlast

theorem known_of_declared {sqrt : ℚ → ℚ} {d : Defaults}
    (declared : RunsAsDeclared sqrt d stream (streamConfig dscp trafficClass i stream)) :
    KnownPattern stream := by
  by_contra unknown
  obtain ⟨notSustained, interval⟩ := not_or.mp unknown
  have blasted : ¬StampsDeadlines stream (streamConfig dscp trafficClass i stream) :=
    streamConfig_blast _ (blasts_of_pattern interval)
  have isBlast : (declaredPacer stream (streamConfig dscp trafficClass i stream)).isBlast = true := by
    by_contra scheduled
    exact blasted (declared.pattern (Bool.eq_false_iff.mpr scheduled))
  have periodic := (unscheduled_declared isBlast).resolve_left notSustained
  have zero : stream.intervalUs = some 0 := by
    by_contra other
    exact interval ⟨periodic, other⟩
  -- The label follows the configured interval, the thread the gap it makes.
  have labelled : (streamResult sqrt 1 (streamConfig dscp trafficClass i stream)
      stragglerTrace).paced = true := by
    simp only [streamResult, streamConfig, periodic, zero, Option.isSome_some]
  exact blasted ((declared.label 1 stragglerTrace).mp labelled)

theorem declared_of_known {sqrt : ℚ → ℚ} {d : Defaults} (accepted : AcceptedStream stream)
    (asked : d.outlierRemoval = .iqr) (known : KnownPattern stream) :
    RunsAsDeclared sqrt d stream (streamConfig dscp trafficClass i stream) := by
  have outliers (measureSecs : ℚ) (trace : StreamTrace) :
      (streamResult sqrt measureSecs (streamConfig dscp trafficClass i stream) trace).summary =
        { (streamReceiver (streamConfig dscp trafficClass i stream) trace).state.metrics with
          durationS := measureSecs }.finish sqrt
          (decide (d.outlierRemoval = OutlierRemoval.iqr)) := by
    rw [asked]
    rfl
  rcases known with sustained | ⟨periodic, interval⟩
  · have unpaced : (streamConfig dscp trafficClass i stream).intervalUs = none := by
      simp only [streamConfig, sustained]
    refine ⟨fun scheduled => ?_, outliers, fun measureSecs trace => ?_⟩
    · simp [declaredPacer, declaredSender, Pacer.fromSender, sustained, Pacer.isBlast] at scheduled
    · rw [streamResult, unpaced]
      refine iff_of_false (by simp) (streamConfig_blast _ fun us same => ?_)
      simp [unpaced] at same
  · obtain ⟨us, some⟩ := Option.ne_none_iff_exists'.mp (accepted.periodic periodic)
    have stamps : StampsDeadlines stream (streamConfig dscp trafficClass i stream) :=
      streamConfig_paced periodic some fun zero => interval (zero ▸ some)
    refine ⟨fun _ => stamps, outliers, fun measureSecs trace => iff_of_true ?_ stamps⟩
    simp only [streamResult, streamConfig, periodic, some, Option.isSome_some]

/-- The streams of an accepted scenario all run as they declare exactly where the suite asks
for IQR outlier removal and every stream has a pattern the threads know. -/
theorem streams_declared_iff (sqrt : ℚ → ℚ) (dscp : String → DscpMark) {config : Config}
    {s : Scenario} (accepted : (validate config).ok = true) (member : s ∈ config.scenarios)
    (enabled : s.enabled = true) (multiStream : s.streams ≠ []) :
    (∀ configs, streamConfigs dscp s = .ok configs →
      ∀ entry ∈ configs, RunsAsDeclared sqrt config.defaults entry.1 entry.2) ↔
      config.defaults.outlierRemoval = .iqr ∧ ∀ stream ∈ s.streams, KnownPattern stream := by
  have streams := (validate_accepted accepted member enabled).streams
  obtain ⟨configs, built⟩ := streamConfigsFrom_accepted dscp streams 0
  obtain ⟨same, each⟩ := streamConfigsFrom_spec built
  have known (entry : Stream × StreamConfig) (present : entry ∈ configs) : entry.1 ∈ s.streams :=
    same ▸ List.mem_map_of_mem present
  constructor
  · intro declared
    have all := declared configs built
    constructor
    · obtain ⟨stream, first⟩ := List.exists_mem_of_ne_nil _ multiStream
      rw [← same] at first
      obtain ⟨entry, present, rfl⟩ := List.mem_map.mp first
      exact of_decide_eq_true
        (straggler_removed sqrt entry.2 _ ((all entry present).outliers 1 stragglerTrace))
    · intro stream present
      rw [← same] at present
      obtain ⟨entry, inConfigs, rfl⟩ := List.mem_map.mp present
      obtain ⟨trafficClass, i, cfg⟩ := each entry inConfigs
      have this := all entry inConfigs
      rw [cfg] at this
      exact known_of_declared this
  · rintro ⟨asked, patterns⟩ configs' built' entry present
    rw [streamConfigs, built, Except.ok.injEq] at built'
    subst built'
    obtain ⟨trafficClass, i, cfg⟩ := each entry present
    rw [cfg]
    exact declared_of_known (streams entry.1 (known entry present)) asked
      (patterns entry.1 (known entry present))

def oneStream (pattern : Pattern) (intervalUs : Option UInt64) : Stream where
  role := .safety
  interface := .tcp
  targetAddr := "127.0.0.1:9000"
  messageSizeBytes := 64
  pattern
  intervalUs
  priority := { dscpTag := "EF", trafficClass := "safety" }

/-- One stream behind a gateway. -/
def streamScenario (stream : Stream) : Scenario where
  name := "stream"
  gateway := { enabled := true }
  streams := [stream]

def streamSuite (outlierRemoval : OutlierRemoval) (stream : Stream) : Config where
  suite := { name := "suite", version := "1.0" }
  defaults := { outlierRemoval }
  scenarios := [streamScenario stream]

def unmarked (tag : String) : DscpMark := { label := tag, value := none }

theorem streams_declared_iff_periodic :
    (∀ configs, streamConfigs unmarked (streamScenario (oneStream .periodic (some 100))) =
        .ok configs →
      ∀ entry ∈ configs, RunsAsDeclared id {} entry.1 entry.2) ↔
      ({} : Defaults).outlierRemoval = .iqr ∧
        ∀ stream ∈ (streamScenario (oneStream .periodic (some 100))).streams,
          KnownPattern stream :=
  @streams_declared_iff id unmarked (streamSuite .iqr (oneStream .periodic (some 100))) _
    (by decide +kernel) List.mem_cons_self rfl (by decide)

def configOf (stream : Stream) : StreamConfig := streamConfig unmarked "safety" 0 stream

/-- A ramp has deadlines and is blasted; an interval of 0 is blasted under the label of a paced
stream; and a suite that asks for no outlier removal loses a sample to it. -/
theorem streams_undeclared :
    (validate (streamSuite .none (oneStream .ramp none))).ok = true ∧
      (validate (streamSuite .none (oneStream .periodic (some 0)))).ok = true ∧
      (declaredPacer (oneStream .ramp none) (configOf (oneStream .ramp none))).isBlast = false ∧
      ¬StampsDeadlines (oneStream .ramp none) (configOf (oneStream .ramp none)) ∧
      (streamResult id 1 (configOf (oneStream .periodic (some 0))) stragglerTrace).paced = true ∧
      ¬StampsDeadlines (oneStream .periodic (some 0)) (configOf (oneStream .periodic (some 0))) ∧
      (streamResult id 1 (configOf (oneStream .ramp none)) stragglerTrace).summary ≠
        { (streamReceiver (configOf (oneStream .ramp none)) stragglerTrace).state.metrics with
          durationS := 1 }.finish id false := by
  refine ⟨by decide +kernel, by decide +kernel, rfl, ?_, rfl, ?_, fun same => ?_⟩
  · exact streamConfig_blast _ fun us interval => by simp [configOf, streamConfig, oneStream] at interval
  · exact streamConfig_blast _ fun us interval => (Option.some.inj interval).symm
  · exact Bool.false_ne_true (straggler_removed id (configOf (oneStream .ramp none)) false same)

end Seshat.Commands
