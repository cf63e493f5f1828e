import Seshat.Metrics.Integrity
import Seshat.Workload.Streams
import Mathlib.Tactic.Common

/-! The safety verdict against the path: what `safety_loss_free` says about the messages
of the safety streams. -/

namespace Seshat.Workload
open Metrics Transport Proto.Wire Lib.Rounds Lib.Saturating

/-! A sender numbers its messages, a receiver records their numbers. -/

section Senders

variable {messageBytes : UInt32}

/-- A message of a stream with its sequence number. -/
def Sent.Numbered (messageBytes : UInt32) (seq : UInt64) (sent : Sent) : Prop :=
  Carries messageBytes seq sent.msg

/-- A round sends the message of its counter and advances it, or sends nothing. -/
structure NumbersRound (state : StreamSender messageBytes)
    (round : Round (StreamSender messageBytes) Sent) : Prop where
  numbers : Lib.Rounds.Numbered (Sent.Numbered messageBytes) (· + 1) state.seq round.emitted
  advances : round.again = true → round.state.seq = (· + 1)^[round.emitted.length] state.seq

theorem pacedStreamRound_numbers (gapNs : UInt64) (state : StreamSender messageBytes)
    (turn : SendTurn) : NumbersRound state (pacedStreamRound gapNs state turn) := by
  unfold pacedStreamRound
  split
  · exact ⟨trivial, nofun⟩
  · dsimp only
    split
    · exact ⟨trivial, nofun⟩
    · exact ⟨⟨⟨_, state.builder.buildAt_message _ _⟩, trivial⟩, fun _ => rfl⟩

theorem blastStreamRound_numbers (state : StreamSender messageBytes) (turn : SendTurn) :
    NumbersRound state (blastStreamRound state turn) := by
  unfold blastStreamRound
  split
  · exact ⟨trivial, nofun⟩
  · dsimp only
    split
    · exact ⟨trivial, nofun⟩
    · exact ⟨⟨⟨_, state.builder.buildAt_message _ _⟩, trivial⟩, fun _ => rfl⟩

end Senders

/-- The `k`-th message of a stream carries the number `k`. -/
theorem StreamTrace.sent_numbered {cfg : StreamConfig} {trace : StreamTrace} {k : Nat}
    {sent : Sent} (at_k : (trace.sent cfg)[k]? = some sent) :
    Carries cfg.messageBytes (UInt64.ofNat k) sent.msg := by
  have paced (gapNs : UInt64) :=
    rounds_numbered (pacedStreamRound gapNs) StreamSender.seq
      (fun s turn => (pacedStreamRound_numbers gapNs s turn).numbers)
      (fun s turn => (pacedStreamRound_numbers gapNs s turn).advances)
      (.new cfg.messageBytes trace.startNs) trace.sends
  have blast :=
    rounds_numbered blastStreamRound StreamSender.seq
      (fun s turn => (blastStreamRound_numbers s turn).numbers)
      (fun s turn => (blastStreamRound_numbers s turn).advances)
      (.new cfg.messageBytes trace.startNs) trace.sends
  have numbered : Lib.Rounds.Numbered (Sent.Numbered cfg.messageBytes) (· + 1) 0
      (trace.sent cfg) := by
    unfold StreamTrace.sent streamSender
    dsimp only
    split
    · split
      · exact paced _
      · exact blast
    · exact blast
  have carries := numbered.get at_k
  rwa [succ_iterate, UInt64.zero_add] at carries

/-- The numbers of the messages that were admitted to the metrics. -/
def recordedSeqs (received : List Received) : List UInt64 :=
  (received.filter fun r => r.stage.measuring).map fun r => UInt64.ofNat r.arrival.origin

/-- A received message is whole and carries the number of the send it comes from. -/
def Received.Authentic (cfg : StreamConfig) (received : Received) : Prop :=
  Carries cfg.messageBytes (UInt64.ofNat received.arrival.origin) received.arrival.msg

theorem receiveRound_seqs (cfg : StreamConfig) (state : StreamReceiver) (turn : ReceiveTurn)
    (authentic : ∀ r ∈ (receiveRound cfg state turn).emitted, r.Authentic cfg) :
    (receiveRound cfg state turn).state.metrics.seqs =
      state.metrics.seqs ++ recordedSeqs (receiveRound cfg state turn).emitted := by
  unfold receiveRound at authentic ⊢
  split
  · simp [recordedSeqs]
  · next running =>
    rw [if_neg running] at authentic
    split
    · next arrival answered =>
      rw [answered] at authentic
      obtain ⟨tsNs, whole⟩ := authentic _ (List.mem_singleton_self _)
      by_cases admitted : turn.counted.measuring = true
      · simp only [recordedSeqs, admitted, if_true, List.filter_cons, List.filter_nil, List.map_cons,
          List.map_nil]
        rw [whole, receive_seqs]
        rfl
      · simp [recordedSeqs, admitted]
    · simp [recordedSeqs]
    · simp [recordedSeqs]
    · simp [recordedSeqs]

/-- The metrics hold the numbers of what was admitted, as far as it was whole. -/
def RecordsAdmitted (cfg : StreamConfig) (state : StreamReceiver) (received : List Received) :
    Prop :=
  (∀ r ∈ received, r.Authentic cfg) → state.metrics.seqs = recordedSeqs received

/-- A receiver records the numbers of what it admits, in the order of arrival. -/
theorem StreamTrace.received_seqs {cfg : StreamConfig} {trace : StreamTrace}
    (authentic : ∀ r ∈ trace.received cfg, r.Authentic cfg) :
    (streamReceiver cfg trace).state.metrics.seqs = recordedSeqs (trace.received cfg) := by
  refine rounds_keeps (RecordsAdmitted cfg) (fun state out turn _ kept whole => ?_)
    (fun _ => rfl) authentic
  obtain ⟨before, now⟩ := List.forall_mem_append.mp whole
  rw [receiveRound_seqs cfg state turn now, kept before]
  simp only [recordedSeqs, List.filter_append, List.map_append]

/-! What the verdict says. -/

section Path

variable (cfg : StreamConfig) (trace : StreamTrace)

/-- The path hands over only what the stream sent, whole, in any order; what was sent in the
window arrives no earlier than that. -/
def Carried : Prop :=
  ∀ r ∈ trace.received cfg, ∃ sent, (trace.sent cfg)[r.arrival.origin]? = some sent ∧
    r.arrival.msg = sent.msg ∧ (sent.stage = .measure → r.stage.measuring = true)

def InWindow (k : Nat) : Prop :=
  ∃ sent, (trace.sent cfg)[k]? = some sent ∧ sent.stage = .measure

/-- A send that was neither received nor still on its way at the end. -/
def Dropped (k : Nat) : Prop :=
  k ∉ trace.unread ∧ ∀ r ∈ trace.received cfg, r.arrival.origin ≠ k

def Recorded (k : Nat) : Prop :=
  ∃ r ∈ trace.received cfg, r.stage.measuring = true ∧ r.arrival.origin = k

/-- A send that lies between two recorded ones. For a stream that sends so much that its
64-bit numbers repeat, a send that is recorded itself. -/
def Enclosed (k : Nat) : Prop :=
  (∃ first last, Recorded cfg trace first ∧ Recorded cfg trace last ∧ first ≤ k ∧ k ≤ last) ∧
    (2 ^ 64 ≤ (trace.sent cfg).length → Recorded cfg trace k)

end Path

section Stream

variable {cfg : StreamConfig} {trace : StreamTrace}

theorem Carried.authentic (carried : Carried cfg trace) :
    ∀ r ∈ trace.received cfg, r.Authentic cfg := by
  intro r member
  obtain ⟨sent, at_origin, whole, -⟩ := carried r member
  rw [Received.Authentic, whole]
  exact StreamTrace.sent_numbered at_origin

theorem Recorded.mem {k : Nat} (recorded : Recorded cfg trace k) :
    UInt64.ofNat k ∈ recordedSeqs (trace.received cfg) := by
  obtain ⟨r, member, admitted, rfl⟩ := recorded
  exact List.mem_map.mpr ⟨r, List.mem_filter.mpr ⟨member, admitted⟩, rfl⟩

theorem mem_recordedSeqs {seq : UInt64} (member : seq ∈ recordedSeqs (trace.received cfg)) :
    ∃ k, Recorded cfg trace k ∧ UInt64.ofNat k = seq := by
  obtain ⟨r, admitted, rfl⟩ := List.mem_map.mp member
  obtain ⟨received, measuring⟩ := List.mem_filter.mp admitted
  exact ⟨_, ⟨r, received, measuring, rfl⟩, rfl⟩

theorem Recorded.sent (carried : Carried cfg trace) {k : Nat} (recorded : Recorded cfg trace k) :
    k < (trace.sent cfg).length := by
  obtain ⟨r, member, -, rfl⟩ := recorded
  obtain ⟨sent, at_origin, -⟩ := carried r member
  exact (List.getElem?_eq_some_iff.mp at_origin).1

/-- What the path delivered from the window was recorded. -/
theorem Carried.recorded (carried : Carried cfg trace) {k : Nat} (window : InWindow cfg trace k)
    (kept : ¬Dropped cfg trace k) : k ∈ trace.unread ∨ Recorded cfg trace k := by
  by_contra neither
  rw [not_or] at neither
  refine kept ⟨neither.1, fun r member origin => neither.2 ⟨r, member, ?_, origin⟩⟩
  obtain ⟨sent, at_origin, -, causal⟩ := carried r member
  obtain ⟨measured, at_k, stage⟩ := window
  rw [origin, at_k, Option.some.injEq] at at_origin
  exact causal (at_origin ▸ stage)

/-- Without a gap, a send between two recorded ones was recorded. -/
theorem Enclosed.recorded (carried : Carried cfg trace) {k : Nat}
    (enclosed : Enclosed cfg trace k) (whole : ¬GapSeen (recordedSeqs (trace.received cfg))) :
    Recorded cfg trace k := by
  obtain ⟨⟨first, last, firstRec, lastRec, above, below⟩, wrapped⟩ := enclosed
  by_cases few : 2 ^ 64 ≤ (trace.sent cfg).length
  · exact wrapped few
  by_contra missing
  have value {i : Nat} (sent : i < (trace.sent cfg).length) : (UInt64.ofNat i).toNat = i := by
    rw [UInt64.toNat_ofNat', Nat.mod_eq_of_lt (by omega)]
  have lastSent := lastRec.sent carried
  have firstValue := value (firstRec.sent carried)
  have lastValue := value lastSent
  have ownValue := value (lt_of_le_of_lt below lastSent)
  have absent : UInt64.ofNat k ∉ recordedSeqs (trace.received cfg) := by
    intro member
    obtain ⟨i, recorded, same⟩ := mem_recordedSeqs member
    have values := congrArg UInt64.toNat same
    rw [value (recorded.sent carried), ownValue] at values
    exact missing (values ▸ recorded)
  refine whole ⟨⟨_, firstRec.mem, _, lastRec.mem, _, absent, ?_, ?_⟩, ?_⟩
  · rw [UInt64.lt_iff_toNat_lt, firstValue, ownValue]
    exact lt_of_le_of_ne above fun same => missing (same ▸ firstRec)
  · rw [UInt64.lt_iff_toNat_lt, ownValue, lastValue]
    exact lt_of_le_of_ne below fun same => missing (same ▸ lastRec)
  · -- fewer than 2^64 sends never reach the largest number
    rintro ⟨-, reached⟩
    obtain ⟨i, recorded, same⟩ := mem_recordedSeqs reached
    have sent := recorded.sent carried
    have values := congrArg UInt64.toNat same
    rw [value sent, clampWord_toNat, Nat.min_self] at values
    unfold top at values
    omega

end Stream

section Verdict

variable (sqrt : ℚ → ℚ)

/-- The verdict is loss free exactly when no safety stream recorded a gap. -/
theorem runMultiStream_lossFree {configs : List StreamConfig} {pairs : List StreamTrace}
    {measureSecs : ℚ} {result : MultiStreamResult}
    (ran : runMultiStream sqrt configs pairs measureSecs = .ok result)
    (carried : ∀ stream ∈ configs.zip pairs, Carried stream.1 stream.2) :
    result.safetyLossFree = true ↔
      ∀ stream ∈ configs.zip pairs, stream.1.trafficClass = safetyClass →
        ¬GapSeen (recordedSeqs (stream.2.received stream.1)) := by
  unfold runMultiStream at ran
  split at ran
  · simp at ran
  rw [Except.ok.injEq] at ran
  subst ran
  have scanned (stream : StreamConfig × StreamTrace) (member : stream ∈ configs.zip pairs) :
      (streamResult sqrt measureSecs stream.1 stream.2).summary.integrity.lost = 0 ↔
        ¬GapSeen (recordedSeqs (stream.2.received stream.1)) := by
    have seqs := StreamTrace.received_seqs (carried stream member).authentic
    rw [← integrity_lost_eq_zero, ← seqs]
    rfl
  simp only [MultiStreamResult.fromStreams, ← List.map_uncurry_zip_eq_zipWith, List.all_filter,
    List.all_map, List.all_eq_true]
  refine forall₂_congr fun stream member => ?_
  rw [← scanned stream member, Function.comp_apply, Bool.or_eq_true, Bool.not_eq_true',
    decide_eq_false_iff_not, decide_eq_true_eq, imp_iff_not_or]
  rfl

/-- The verdict is sound exactly when a gap shows or nothing from the window lies outside
the recorded messages. -/
theorem safetyLossFree_sound_iff {configs : List StreamConfig} {pairs : List StreamTrace}
    {measureSecs : ℚ} {result : MultiStreamResult}
    (ran : runMultiStream sqrt configs pairs measureSecs = .ok result)
    (carried : ∀ stream ∈ configs.zip pairs, Carried stream.1 stream.2) :
    (result.safetyLossFree = true →
        ∀ stream ∈ configs.zip pairs, stream.1.trafficClass = safetyClass →
          ∀ k, InWindow stream.1 stream.2 k → ¬Dropped stream.1 stream.2 k) ↔
      (∃ stream ∈ configs.zip pairs, stream.1.trafficClass = safetyClass ∧
          GapSeen (recordedSeqs (stream.2.received stream.1))) ∨
        ∀ stream ∈ configs.zip pairs, stream.1.trafficClass = safetyClass →
          ∀ k, InWindow stream.1 stream.2 k →
            k ∈ stream.2.unread ∨ Enclosed stream.1 stream.2 k := by
  rw [runMultiStream_lossFree sqrt ran carried]
  constructor
  · intro sound
    by_cases gap : ∃ stream ∈ configs.zip pairs, stream.1.trafficClass = safetyClass ∧
        GapSeen (recordedSeqs (stream.2.received stream.1))
    · exact .inl gap
    have whole : ∀ stream ∈ configs.zip pairs, stream.1.trafficClass = safetyClass →
        ¬GapSeen (recordedSeqs (stream.2.received stream.1)) :=
      fun stream member safety seen => gap ⟨stream, member, safety, seen⟩
    refine .inr fun stream member safety k window => ?_
    have kept := sound whole stream member safety k window
    refine ((carried stream member).recorded window kept).imp_right fun recorded => ?_
    exact ⟨⟨k, k, recorded, recorded, le_refl k, le_refl k⟩, fun _ => recorded⟩
  · rintro (⟨stream, member, safety, seen⟩ | covered) whole
    · exact absurd seen (whole stream member safety)
    intro stream member safety k window dropped
    rcases covered stream member safety k window with unread | enclosed
    · exact dropped.1 unread
    · obtain ⟨r, received, -, origin⟩ :=
        enclosed.recorded (carried stream member) (whole stream member safety)
      exact dropped.2 r received origin

end Verdict

/-- A safety stream of 24-byte messages. -/
def safetyConfig : StreamConfig where
  name := "safety-1"
  trafficClass := safetyClass
  dscpLabel := "EF"
  dscpTag := none
  messageBytes := 24
  intervalUs := none

/-- So many sends in the window, and what the path hands over of them, in the order of arrival. -/
def windowSends (sends : Nat) (arrived : List Nat) : StreamTrace where
  startNs := 0
  sends := List.replicate sends
    { head := .measure, wokeNs := 0, awake := .measure, stampNs := 7, sending := .measure,
      answer := .ok (), sent := .measure }
  receives := arrived.map fun k =>
    { head := .measure, recvNs := 9, counted := .measure
      answer := .ok (.message
        { origin := k, msg := message (stamped 24 (UInt64.ofNat k) 7), tos := none }) }
  unread := []

/-- Of three sends the path hands over the third and the first: the one between is dropped, and
the run is not loss free. -/
theorem safetyLossFree_sound_iff_received :
    ∃ result, runMultiStream (fun x => x) [safetyConfig] [windowSends 3 [2, 0]] 1 = .ok result ∧
      Dropped safetyConfig (windowSends 3 [2, 0]) 1 ∧ result.safetyLossFree = false := by
  have sent : (windowSends 3 [2, 0]).sent safetyConfig =
      [0, 1, 2].map fun k => { msg := message (stamped 24 k 7), stage := .measure } := by
    decide +kernel
  have received : (windowSends 3 [2, 0]).received safetyConfig =
      [2, 0].map fun k =>
        { arrival := { origin := k, msg := message (stamped 24 (UInt64.ofNat k) 7), tos := none }
          stage := .measure } := rfl
  have carried : Carried safetyConfig (windowSends 3 [2, 0]) := by
    rw [Carried, received, sent]
    intro r member
    obtain ⟨k, arrived, rfl⟩ := List.mem_map.mp member
    have either : k = 2 ∨ k = 0 := by simpa using arrived
    rcases either with rfl | rfl <;> exact ⟨_, rfl, rfl, fun _ => rfl⟩
  have dropped : Dropped safetyConfig (windowSends 3 [2, 0]) 1 := by
    rw [Dropped, received]
    exact ⟨List.not_mem_nil, by decide⟩
  have gap : GapSeen (recordedSeqs ((windowSends 3 [2, 0]).received safetyConfig)) := by
    rw [received, show recordedSeqs _ = [2, 0] from rfl]
    exact ⟨⟨0, by decide, 2, by decide, 1, by decide, by decide, by decide⟩, by decide⟩
  obtain ⟨result, ran⟩ : ∃ result,
      runMultiStream (fun x => x) [safetyConfig] [windowSends 3 [2, 0]] 1 = .ok result := ⟨_, rfl⟩
  have sound := (safetyLossFree_sound_iff (fun x => x) ran fun stream member => by
      rw [List.mem_singleton.mp member]
      exact carried).mpr
    (.inl ⟨_, List.mem_singleton_self _, rfl, gap⟩)
  refine ⟨result, ran, dropped, Bool.eq_false_of_not_eq_true fun lossFree => ?_⟩
  exact sound lossFree _ (List.mem_singleton_self _) rfl 1 ⟨_, by rw [sent]; rfl, rfl⟩ dropped

/-- The only message of a safety stream is lost, and the run is loss free. -/
theorem safetyLossFree_starved :
    ¬∀ (configs : List StreamConfig) (pairs : List StreamTrace) (result : MultiStreamResult),
      runMultiStream (fun x => x) configs pairs 1 = .ok result →
      (∀ stream ∈ configs.zip pairs, Carried stream.1 stream.2) →
      result.safetyLossFree = true →
      ∀ stream ∈ configs.zip pairs, stream.1.trafficClass = safetyClass →
        ∀ k, InWindow stream.1 stream.2 k → ¬Dropped stream.1 stream.2 k := by
  intro sound
  have sent : (windowSends 1 []).sent safetyConfig =
      [{ msg := message (stamped 24 0 7), stage := .measure }] := by decide +kernel
  have unreceived : (windowSends 1 []).received safetyConfig = [] := rfl
  have carried : ∀ stream ∈ [safetyConfig].zip [windowSends 1 []], Carried stream.1 stream.2 := by
    intro stream member r received
    rw [List.mem_singleton.mp member, unreceived] at received
    simp at received
  have ran : runMultiStream (fun x => x) [safetyConfig] [windowSends 1 []] 1 = .ok _ := rfl
  have lossFree := (runMultiStream_lossFree _ ran carried).mpr fun stream member _ seen => by
    rw [List.mem_singleton.mp member, unreceived] at seen
    simp [GapSeen, recordedSeqs] at seen
  refine sound _ _ _ ran carried lossFree (safetyConfig, windowSends 1 [])
    (List.mem_singleton_self _) rfl 0 ⟨_, by rw [sent]; rfl, rfl⟩
    ⟨List.not_mem_nil, ?_⟩
  rw [unreceived]
  exact fun _ none => absurd none List.not_mem_nil

end Seshat.Workload
