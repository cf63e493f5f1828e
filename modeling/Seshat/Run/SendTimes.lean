import Seshat.Config.Validate
import Seshat.Run.CleanPath
import Seshat.Workload.Schedule
import Mathlib.Tactic.Common

/-! The absolute send times of the paced branch, which adds the clock's start to the pacer's
deadline without saturation. -/

namespace Seshat.Run
open Config Workload Transport Proto.Wire Lib.Rounds Lib.Saturating

section Rounds

variable {messageBytes : UInt32} {batch : Nat}

theorem pacedRound_moves {start : UInt64} {state : PacedState messageBytes}
    {turn : SenderTurn messageBytes batch} (again : (pacedRound start state turn).again = true) :
    (pacedRound start state turn).state.pacer = state.pacer.nextDeadlineNs.2 := by
  have step := pacedRound_step start state turn
  generalize pacedRound start state turn = result at step again
  generalize turn.attempt = attempt at step
  cases step with
  | breaks next => cases again
  | refused next seq pacer => exact pacer
  | accepted next seq pacer => exact pacer

theorem pacedRound_accepted {start : UInt64} {state : PacedState messageBytes}
    {turn : SenderTurn messageBytes batch} (accepts : turn.attempt = .accepted) :
    (pacedRound start state turn).again = true := by
  have step := pacedRound_step start state turn
  rw [accepts] at step
  generalize pacedRound start state turn = result at step
  cases step
  rfl

theorem played_pacer {start : UInt64} {pacer : Pacer} {state : PacedState messageBytes}
    (fresh : state.pacer = pacer) {turns : List (SenderTurn messageBytes batch)} {k : Nat}
    {round : PacedState messageBytes × SenderTurn messageBytes batch}
    (at_k : (played (pacedRound start) state turns)[k]? = some round) :
    round.1.pacer = pacer.after k := by
  have moved := played_holds (fun k state => state.pacer = pacer.after k)
    (fun k state turn before again => (pacedRound_moves again).trans (by rw [before]; rfl))
    (show state.pacer = pacer.after 0 from fresh) at_k
  rwa [Nat.zero_add] at moved

/-- The sum of a round that does not end at its first look at the phase. -/
def sendTime (start : UInt64) (round : PacedState messageBytes × SenderTurn messageBytes batch) :
    Option Nat :=
  if round.2.phase = .done then none
  else some (start.toNat + round.1.pacer.nextDeadlineNs.1.toNat)

end Rounds

/-- The sums a sender's rounds take, as numbers. -/
def sendTimes (sink : SinkTraits) (spec : Sender) (messageBytes : UInt32) (start : UInt64)
    (turns : List (SenderTurn messageBytes (clampBatch sink.preferredBatch))) : List Nat :=
  let pacer := Pacer.fromSender spec messageBytes
  if pacer.isBlast then []
  else
    let builder := MessageBuilder.new messageBytes
    (played (pacedRound start) { pacer, seq := 0, builder, lag := {} } turns).filterMap
      (sendTime start)

theorem sendTimes_schedule {sink : SinkTraits} {spec : Sender} {messageBytes : UInt32}
    {start : UInt64} {turns : List (SenderTurn messageBytes (clampBatch sink.preferredBatch))}
    {total : Nat} (taken : total ∈ sendTimes sink spec messageBytes start turns) :
    ∃ n, total = start.toNat + ((Pacer.fromSender spec messageBytes).deadline n).toNat := by
  simp only [sendTimes] at taken
  split at taken
  · cases taken
  · obtain ⟨round, inside, sum⟩ := List.mem_filterMap.mp taken
    obtain ⟨n, at_n⟩ := List.mem_iff_getElem?.mp inside
    unfold sendTime at sum
    split at sum
    · cases sum
    · rw [Pacer.nextDeadlineNs_fst, played_pacer rfl at_n] at sum
      exact ⟨n, (Option.some.inj sum).symm⟩

/-- A sink that accepts everything takes the schedule as far as one likes. -/
theorem sendTimes_accepting (spec : Sender) (messageBytes : UInt32) (start : UInt64)
    (paced : (Pacer.fromSender spec messageBytes).isBlast = false) (n : Nat) :
    start.toNat + ((Pacer.fromSender spec messageBytes).deadline n).toNat ∈
      sendTimes ⟨32, false⟩ spec messageBytes start
        (List.replicate (n + 1) (acceptingTurn messageBytes)) := by
  simp only [sendTimes, paced]
  rw [if_neg (by decide)]
  obtain ⟨state, fresh⟩ : ∃ state : PacedState messageBytes, state =
      ⟨Pacer.fromSender spec messageBytes, 0, MessageBuilder.new messageBytes, {}⟩ := ⟨_, rfl⟩
  have all := @played_all _ _ _ (pacedRound start) state
    (List.replicate (n + 1) (acceptingTurn messageBytes)) fun state turn member =>
      pacedRound_accepted (by rw [List.eq_of_mem_replicate member]; rfl)
  rw [← fresh]
  have count := congrArg List.length all
  rw [List.length_map, List.length_replicate] at count
  obtain ⟨round, at_n⟩ : ∃ round, (played (pacedRound start) state
      (List.replicate (n + 1) (acceptingTurn messageBytes)))[n]? = some round :=
    ⟨_, List.getElem?_eq_getElem (by omega)⟩
  have moved := played_pacer (congrArg PacedState.pacer fresh) at_n
  have inside := List.mem_of_getElem? at_n
  have turn : round.2 = acceptingTurn messageBytes :=
    List.eq_of_mem_replicate (all ▸ List.mem_map_of_mem inside)
  have awake : (acceptingTurn messageBytes).phase ≠ .done := fun ended =>
    absurd (show Phase.measure = .done from ended) (by decide)
  refine List.mem_filterMap.mpr ⟨round, inside, ?_⟩
  rw [sendTime, turn, if_neg awake, Pacer.nextDeadlineNs_fst, moved]
  rfl

/-- No sum leaves the word exactly if the clock starts at 0, or the schedule comes to stand
still at a deadline that leaves room for the start. -/
theorem send_times_fit_iff (spec : Sender) (messageBytes : UInt32) (start : UInt64) :
    (∀ (sink : SinkTraits)
        (turns : List (SenderTurn messageBytes (clampBatch sink.preferredBatch))),
      ∀ total ∈ sendTimes sink spec messageBytes start turns, total ≤ top) ↔
      start = 0 ∨ ∃ n, ((Pacer.fromSender spec messageBytes).after n).standsStill = true ∧
        start.toNat + ((Pacer.fromSender spec messageBytes).deadline n).toNat ≤ top := by
  constructor
  · intro fits
    cases paced : (Pacer.fromSender spec messageBytes).isBlast with
    | true =>
      exact .inr ⟨0, Pacer.isBlast_standsStill paced, toNat_le_top start⟩
    | false =>
      have each (n : Nat) := fits _ _ _ (sendTimes_accepting spec messageBytes start paced n)
      by_cases zero : start = 0
      · exact .inl zero
      · have later := toNat_pos zero
        have below (n : Nat) : ((Pacer.fromSender spec messageBytes).deadline n).toNat < top := by
          have sum := each n
          omega
        obtain ⟨n, still⟩ := (Pacer.fromSender_fresh spec messageBytes).stalls below
        exact .inr ⟨n, still, each n⟩
  · rintro condition sink turns total taken
    obtain ⟨m, rfl⟩ := sendTimes_schedule taken
    rcases condition with rfl | ⟨n, still, room⟩
    · rw [UInt64.toNat_zero, Nat.zero_add]
      exact toNat_le_top _
    · exact (Nat.add_le_add_left (Pacer.standsStill_last still m) _).trans room

/-- One message each 2^64 - 1 µs. -/
def hugeInterval : Sender where
  interface := .tcp
  targetAddr := "127.0.0.1:9000"
  pattern := .periodic
  intervalUs := some 0xffffffffffffffff

def hugeConfig : Config where
  suite := { name := "suite", version := "1.0" }
  scenarios := [{ name := "periodic", sender := some hugeInterval }]

/-- Validation accepts it; started at 1 ns, the second message is due behind the last word, and
goes out stamped with 0 ns. -/
theorem hugeInterval_wraps :
    (validate hugeConfig).ok = true ∧
      (∃ s ∈ hugeConfig.scenarios, s.enabled = true ∧ s.sender = some hugeInterval) ∧
      (∃ total ∈ sendTimes ⟨32, false⟩ hugeInterval 32 1 (List.replicate 2 (acceptingTurn 32)),
        ¬total ≤ top) ∧
      (senderLoop ⟨32, false⟩ hugeInterval 32 1 (List.replicate 2 (acceptingTurn 32))).accepted[1]? =
        some (message (stamped 32 1 0)) := by
  have paced : (Pacer.fromSender hugeInterval 32).isBlast = false := by decide
  refine ⟨by decide +kernel, ⟨_, List.mem_cons_self, rfl, rfl⟩,
    ⟨_, sendTimes_accepting hugeInterval 32 1 paced 1, by decide⟩, ?_⟩
  rw [senderLoop_paced _ _ _ _ _ paced]
  rfl

end Seshat.Run
