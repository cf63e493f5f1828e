import Seshat.Run.StreamPath
import Seshat.Transport.DatagramSource
import Mathlib.Tactic.Common

/-! The message-size check of `receiver_loop`, over streams and over datagrams. Both
receive paths cut a message to its slot before the loop compares its length. -/

namespace Seshat.Run
open Workload Transport Metrics Proto.Wire Lib.Rounds Lib.Framing

/-- `UdpSource`, with the default batch of a datagram transport. -/
def udpSource : DataSource DatagramSource where
  recvBatch := DatagramSource.recvBatch
  preferredBatch := 32

section Datagrams

variable {stride batch : Nat}

/-- What a round over a steady datagram socket may do. -/
inductive DatagramStep (stride batch : Nat) (state : ReceiverState DatagramSource)
    (turn : ReceiverTurn) : Round (ReceiverState DatagramSource) Delivery → Prop
  | delivers (grams : List (List UInt8)) (next : ReceiverState DatagramSource)
      (some_found : grams ≠ []) (kept : next.slots.Usable stride batch)
      (pauses : next.source.pauses = state.source.pauses)
      (taken : state.source.datagrams = grams ++ next.source.datagrams)
      (steady : next.source.Steady) :
      DatagramStep stride batch state turn
        { state := next
          emitted := (grams.map (List.take stride)).map fun msg =>
            { phase := turn.phase, recvNs := turn.recvNs, msg }
          again := true }
  | idle (next : ReceiverState DatagramSource) (kept : next.slots.Usable stride batch)
      (pauses : next.source.pauses = state.source.pauses - 1)
      (drained : state.source.pauses = 0 → state.source.datagrams = [])
      (taken : state.source.datagrams = next.source.datagrams) (steady : next.source.Steady) :
      DatagramStep stride batch state turn
        { state := next, emitted := [], again := turn.phase ≠ .done }

theorem receiverRound_datagram (state : ReceiverState DatagramSource) (turn : ReceiverTurn)
    (usable : state.slots.Usable stride batch) (steady : state.source.Steady) :
    DatagramStep stride batch state turn (receiverRound udpSource stride batch state turn) := by
  obtain ⟨src, slots, metrics⟩ := state
  obtain ⟨someMax, positive, room, someLens⟩ := id usable
  have fits := Nat.div_pos room positive
  have open_slots : ¬min (min batch (slots.buf.length / stride)) slots.lens.length = 0 := by
    simp only at someLens fits
    omega
  simp only [receiverRound, udpSource, DatagramSource.recvBatch, if_neg (Nat.ne_of_gt positive),
    if_neg open_slots]
  rcases src with _ | ⟨⟨grams, nonempty⟩ | kind, rest⟩
  · exact .idle _ usable rfl (fun _ => rfl) rfl steady
  · -- the first group fills as many slots as there are, the rest of it stays
    generalize bound : min (min batch (slots.buf.length / stride)) slots.lens.length = vlen at *
    have some_taken : grams.take vlen ≠ [] := by
      rw [ne_eq, List.take_eq_nil_iff]
      exact not_or.mpr ⟨open_slots, nonempty⟩
    have short : (grams.take vlen).length ≤ vlen := List.length_take_le _ _
    have lensRoom : 0 + (grams.take vlen).length ≤ slots.lens.length := by omega
    have bufRoom : (0 + (grams.take vlen).length) * stride ≤ slots.buf.length :=
      le_trans (Nat.mul_le_mul_right stride (by omega)) (Nat.div_mul_le_self _ _)
    obtain ⟨shape, carved⟩ := Slots.putAll_carved lensRoom bufRoom
      fun i before => absurd before (Nat.not_lt_zero i)
    rw [Nat.zero_add] at carved
    have seen : (slots.putAll stride 0 (grams.take vlen)).carved stride (grams.take vlen).length =
        (grams.take vlen).map (List.take stride) := carved.trans (by simp [Slots.carved])
    simp only [seen]
    refine .delivers (grams.take vlen) _ some_taken (usable.congr shape)
      (DatagramSource.leave_pauses _ _ _) ?_ (DatagramSource.leave_steady steady.tail)
    rw [DatagramSource.leave_datagrams, ← List.append_assoc, List.take_append_drop]
    rfl
  · rcases steady kind List.mem_cons_self with rfl | rfl | rfl <;>
      exact .idle _ usable rfl (by simp [DatagramSource.pauses]) rfl steady.tail

/-- A run that is not told to stop hands over every datagram, each cut to its slot. -/
theorem receiverRounds_datagrams {turns : List ReceiverTurn}
    {state : ReceiverState DatagramSource} (usable : state.slots.Usable stride batch)
    (steady : state.source.Steady) (awake : ∀ turn ∈ turns, turn.phase ≠ .done)
    (enough : state.source.datagrams.length + state.source.pauses ≤ turns.length) :
    (rounds (receiverRound udpSource stride batch) state turns).emitted.map Delivery.msg =
      state.source.datagrams.map (List.take stride) := by
  induction turns generalizing state with
  | nil =>
    have none : state.source.datagrams = [] :=
      List.eq_nil_of_length_eq_zero (by simp only [List.length_nil] at enough; omega)
    rw [none]
    rfl
  | cons turn rest ih =>
    have step := receiverRound_datagram state turn usable steady
    have stays_awake : ∀ other ∈ rest, other.phase ≠ .done :=
      fun other member => awake other (List.mem_cons_of_mem _ member)
    rw [List.length_cons] at enough
    generalize played : receiverRound udpSource stride batch state turn = result at step
    cases step with
    | delivers grams next some_found kept pauses taken still_steady =>
      have some_taken := List.length_pos_iff.mpr some_found
      have left := congrArg List.length taken
      rw [List.length_append] at left
      have later := ih kept still_steady stays_awake (by omega)
      rw [rounds_again (by rw [played]), played, List.map_append, later, taken, List.map_append,
        List.map_map]
      simp
    | idle next kept pauses drained taken still_steady =>
      have later := ih kept still_steady stays_awake (by
        by_cases none : state.source.pauses = 0
        · have empty := drained none
          rw [taken] at empty
          rw [empty, List.length_nil]
          omega
        · have left := congrArg List.length taken
          omega)
      have runs_on : decide (turn.phase ≠ .done) = true :=
        decide_eq_true (awake turn List.mem_cons_self)
      rw [rounds_again (by rw [played]; exact runs_on), played, List.map_append, later, taken]
      rfl

/-- Whatever its rounds, a receiver hands over a front of the datagrams, each cut to its
slot. -/
theorem receiverRounds_front {turns : List ReceiverTurn}
    {state : ReceiverState DatagramSource} (usable : state.slots.Usable stride batch)
    (steady : state.source.Steady) :
    (rounds (receiverRound udpSource stride batch) state turns).emitted.map Delivery.msg <+:
      state.source.datagrams.map (List.take stride) := by
  induction turns generalizing state with
  | nil => exact List.nil_prefix
  | cons turn rest ih =>
    have step := receiverRound_datagram state turn usable steady
    generalize played : receiverRound udpSource stride batch state turn = result at step
    cases step with
    | delivers grams next some_found kept pauses taken still_steady =>
      have whole : ((grams.map (List.take stride)).map fun msg =>
          ({ phase := turn.phase, recvNs := turn.recvNs, msg } : Delivery)).map Delivery.msg =
          grams.map (List.take stride) := by
        simp
      rw [rounds_again (by rw [played]), played, List.map_append, taken, List.map_append, whole]
      exact (List.prefix_append_right_inj _).mpr (ih kept still_steady)
    | idle next kept pauses drained taken still_steady =>
      cases again : decide (turn.phase ≠ .done) with
      | true =>
        rw [rounds_again (by rw [played]; exact again), played, taken]
        exact ih kept still_steady
      | false =>
        rw [rounds_break (by rw [played]; exact again), played]
        exact List.nil_prefix

end Datagrams

/-- A delivery the loop counts as a boundary violation. -/
def Delivery.violates (messageBytes : UInt32) (delivery : Delivery) : Bool :=
  delivery.phase = .measure ∧ delivery.msg.length ≠ messageBytes.toNat

theorem account_boundary (messageBytes : UInt32) (m : FlowMetrics) (delivery : Delivery) :
    (delivery.account messageBytes.toNat m).boundaryViolations =
      if delivery.violates messageBytes then m.boundaryViolations + 1
      else m.boundaryViolations := by
  unfold Delivery.account Delivery.violates
  by_cases measured : delivery.phase = .measure
  · rw [if_pos measured, receive_boundary]
    simp only [measured, true_and, decide_eq_true_eq]
  · rw [if_neg measured, if_neg (by simp [measured])]

/-- The counter of a run is the number of deliveries that violate the size. -/
theorem foldl_account_boundary (messageBytes : UInt32) (deliveries : List Delivery)
    (m : FlowMetrics) :
    (deliveries.foldl (Delivery.account messageBytes.toNat) m).boundaryViolations =
      m.boundaryViolations +
        UInt64.ofNat (deliveries.countP (Delivery.violates messageBytes)) := by
  induction deliveries generalizing m with
  | nil => simp
  | cons delivery rest ih =>
    rw [List.foldl_cons, ih, account_boundary, List.countP_cons]
    by_cases violates : delivery.violates messageBytes = true
    · rw [if_pos violates, if_pos violates, Nat.add_comm, UInt64.ofNat_add, ← UInt64.add_assoc]
      rfl
    · rw [if_neg violates, if_neg violates, Nat.add_zero]

theorem receiverLoop_counted {σ : Type} (source : DataSource σ) (start : σ)
    (messageBytes : UInt32) (turns : List ReceiverTurn) :
    (receiverLoop source start messageBytes turns).state.metrics.boundaryViolations =
      UInt64.ofNat ((receiverLoop source start messageBytes turns).emitted.countP
        (Delivery.violates messageBytes)) := by
  rw [receiverLoop, receiverRounds_metrics, foldl_account_boundary]
  exact UInt64.zero_add _

/-! Messages and the rounds that receive them. -/

/-- Each message, with the units of the channel behind it. -/
def placed (size : List UInt8 → Nat) : List (List UInt8) → List (List UInt8 × Nat)
  | [] => []
  | msg :: rest => (msg, (rest.map size).sum) :: placed size rest

/-- How many units a source still holds, and the messages that its next deliveries stand for. -/
structure Intake (σ : Type) where
  left : σ → Nat
  marks : σ → List (List UInt8 × Nat)

section Intake

variable {σ : Type} (source : DataSource σ) (intake : Intake σ) (messageBytes : UInt32)
  (start : σ) (items : List (List UInt8 × Nat)) (turns : List ReceiverTurn)

def bodyOf (state : ReceiverState σ) (turn : ReceiverTurn) : Round (ReceiverState σ) Delivery :=
  receiverRound source messageBytes.toNat (clampBatch source.preferredBatch) state turn

def receiverStart : ReceiverState σ where
  source := start
  slots := freshSlots messageBytes.toNat (clampBatch source.preferredBatch)
  metrics := {}

/-- The rounds that `receiver_loop` plays. -/
def receiverPlayed : List (ReceiverState σ × ReceiverTurn) :=
  played (bodyOf source messageBytes) (receiverStart source messageBytes start) turns

variable {source messageBytes start turns} in
theorem receiverPlayed_phase {phase : Phase} (same : ∀ turn ∈ turns, turn.phase = phase) :
    ∀ round ∈ receiverPlayed source messageBytes start turns, round.2.phase = phase :=
  fun _ member => same _ (turn_of_played member)

/-- The last of a message is taken off the source in this round. -/
def Receives (round : ReceiverState σ × ReceiverTurn) (item : List UInt8 × Nat) : Prop :=
  intake.left (bodyOf source messageBytes round.1 round.2).state.source ≤ item.2 ∧
    item.2 < intake.left round.1.source

instance (round : ReceiverState σ × ReceiverTurn) :
    DecidablePred (Receives source intake messageBytes round) :=
  fun _ => inferInstanceAs (Decidable (_ ∧ _))

/-- The check is sound for a run: a message of another true size that is received while
measuring has a delivery of its own that is a violation, and the counter counts these. -/
structure BoundaryChecked : Prop where
  checked : ∀ round ∈ receiverPlayed source messageBytes start turns, round.2.phase = .measure →
    ∀ item ∈ items, Receives source intake messageBytes round item →
      item.1.length ≠ messageBytes.toNat →
        ∃ delivery, (item, delivery) ∈ (intake.marks round.1.source).zip
            (bodyOf source messageBytes round.1 round.2).emitted ∧
          delivery.violates messageBytes = true
  counted : (receiverLoop source start messageBytes turns).state.metrics.boundaryViolations =
    UInt64.ofNat ((receiverLoop source start messageBytes turns).emitted.countP
      (Delivery.violates messageBytes))

/-- What is received while measuring fits its slot, and is not hidden from the receiver if it
is short. -/
def MeasuredFits : Prop :=
  ∀ round ∈ receiverPlayed source messageBytes start turns, round.2.phase = .measure →
    ∀ item ∈ items, Receives source intake messageBytes round item →
      item.1.length ≤ messageBytes.toNat ∧
        (item.1.length ≠ messageBytes.toNat → item ∈ intake.marks start)

variable {source intake messageBytes start items turns}

/-- What the rounds of a receiver take off its source. -/
structure Follows (source : DataSource σ) (intake : Intake σ) (messageBytes : UInt32)
    (good : ReceiverState σ → Prop) : Prop where
  inside : ∀ held : σ, ∀ mark ∈ intake.marks held, mark.2 < intake.left held
  takes : ∀ {state} turn, good state →
    let next := bodyOf source messageBytes state turn
    (next.again = true → good next.state) ∧
      intake.left next.state.source ≤ intake.left state.source ∧
      ∃ list, intake.marks state.source = list ++ intake.marks next.state.source ∧
        (∀ mark ∈ list, intake.left next.state.source ≤ mark.2) ∧
        next.emitted.map Delivery.msg = list.map fun mark => mark.1.take messageBytes.toNat

variable {good : ReceiverState σ → Prop}

/-- What is in front of a round has been received before it. -/
theorem Follows.ahead (follows : Follows source intake messageBytes good)
    {state : ReceiverState σ} (ready : good state) {round : ReceiverState σ × ReceiverTurn}
    (member : round ∈ played (bodyOf source messageBytes) state turns) :
    good round.1 ∧ ∃ earlier, intake.marks state.source =
      earlier ++ intake.marks round.1.source ∧
        ∀ mark ∈ earlier, intake.left round.1.source ≤ mark.2 := by
  obtain ⟨k, at_k⟩ := List.mem_iff_getElem?.mp member
  refine played_holds (fun _ (reached : ReceiverState σ) => good reached ∧ ∃ earlier,
    intake.marks state.source = earlier ++ intake.marks reached.source ∧
      ∀ mark ∈ earlier, intake.left reached.source ≤ mark.2) (n := 0) ?_
    ⟨ready, [], rfl, nofun⟩ at_k
  rintro - reached turn ⟨fine, earlier, split, above⟩ again
  obtain ⟨stays, less, list, taken, higher, -⟩ := follows.takes turn fine
  refine ⟨stays again, earlier ++ list, ?_, ?_⟩
  · rw [split, taken, List.append_assoc]
  · exact List.forall_mem_append.mpr ⟨fun mark member => less.trans (above mark member), higher⟩

/-- A delivery beside a mark is the message of the mark, as far as its slot reaches. -/
theorem delivery_of_zip {list after : List (List UInt8 × Nat)} {deliveries : List Delivery}
    {cut : List UInt8 × Nat → List UInt8} (handed : deliveries.map Delivery.msg = list.map cut)
    {item : List UInt8 × Nat} {delivery : Delivery}
    (paired : (item, delivery) ∈ (list ++ after).zip deliveries) : delivery.msg = cut item := by
  obtain ⟨k, at_k⟩ := List.mem_iff_getElem?.mp paired
  obtain ⟨marked, delivered⟩ := List.getElem?_zip_eq_some.mp at_k
  have same := congrArg (·[k]?) handed
  simp only [List.getElem?_map, delivered, Option.map_some] at same
  obtain ⟨mark, at_mark, cuts⟩ := Option.map_eq_some_iff.mp same.symm
  have short := (List.getElem?_eq_some_iff.mp at_mark).1
  rw [List.getElem?_append_left short, at_mark, Option.some.injEq] at marked
  rw [← cuts, marked]

/-- Each mark of a round has a delivery beside it. -/
theorem zip_of_mem {list after : List (List UInt8 × Nat)} {deliveries : List Delivery}
    {cut : List UInt8 × Nat → List UInt8} (handed : deliveries.map Delivery.msg = list.map cut)
    {item : List UInt8 × Nat} (member : item ∈ list) :
    ∃ delivery ∈ deliveries, (item, delivery) ∈ (list ++ after).zip deliveries ∧
      delivery.msg = cut item := by
  obtain ⟨k, at_k⟩ := List.mem_iff_getElem?.mp member
  have short := (List.getElem?_eq_some_iff.mp at_k).1
  have same := congrArg (·[k]?) handed
  simp only [List.getElem?_map, at_k, Option.map_some] at same
  obtain ⟨delivery, delivered, cuts⟩ := Option.map_eq_some_iff.mp same
  have marked : (list ++ after)[k]? = some item := by
    rw [List.getElem?_append_left short, at_k]
  exact ⟨delivery, List.mem_of_getElem? delivered,
    List.mem_of_getElem? (List.getElem?_zip_eq_some.mpr ⟨marked, delivered⟩), cuts⟩

/-- A run is checked exactly if the messages it receives while measuring fit. -/
theorem boundaryChecked_iff (follows : Follows source intake messageBytes good)
    (ready : good (receiverStart source messageBytes start)) :
    BoundaryChecked source intake messageBytes start items turns ↔
      MeasuredFits source intake messageBytes start items turns := by
  constructor
  · intro sound round member measured item listed received
    by_cases same : item.1.length = messageBytes.toNat
    · exact ⟨same.le, fun other => absurd same other⟩
    obtain ⟨fine, earlier, split, -⟩ := follows.ahead ready member
    obtain ⟨-, -, list, taken, -, handed⟩ := follows.takes round.2 fine
    obtain ⟨delivery, paired, violates⟩ := sound.checked round member measured item listed
      received same
    have marked := (List.of_mem_zip paired).1
    rw [taken] at paired
    have size := congrArg List.length (delivery_of_zip handed paired)
    have other := (of_decide_eq_true violates).2
    rw [List.length_take] at size
    exact ⟨by omega, fun _ => split ▸ List.mem_append_right earlier marked⟩
  · intro fits
    refine ⟨fun round member measured item listed received other => ?_, receiverLoop_counted ..⟩
    obtain ⟨short, seen⟩ := fits round member measured item listed received
    obtain ⟨fine, earlier, split, above⟩ := follows.ahead ready member
    obtain ⟨-, -, list, taken, -, handed⟩ := follows.takes round.2 fine
    have inside : item ∈ list := by
      have marked := split ▸ seen other
      rw [taken] at marked
      rcases List.mem_append.mp marked with before | now
      · have := above item before
        have := received.2
        omega
      · rcases List.mem_append.mp now with here | later
        · exact here
        · have := follows.inside _ item later
          have := received.1
          omega
    obtain ⟨delivery, emitted, paired, cut⟩ := @zip_of_mem _
      (intake.marks (bodyOf source messageBytes round.1 round.2).state.source) _ _ handed _ inside
    rw [← taken] at paired
    refine ⟨delivery, paired, decide_eq_true ⟨?_, ?_⟩⟩
    · rw [(receiverRound_turn _ _ _ _ _ delivery emitted).1, measured]
    · rw [cut, List.length_take]
      omega

/-- A run that hands over as much as its source has receives every message of it. -/
theorem Follows.rounds_received (follows : Follows source intake messageBytes good)
    {state : ReceiverState σ} (ready : good state)
    (whole : (rounds (bodyOf source messageBytes) state turns).emitted.length =
      (intake.marks state.source).length) :
    ∀ item ∈ intake.marks state.source, ∃ round ∈ played (bodyOf source messageBytes) state turns,
      Receives source intake messageBytes round item := by
  induction turns generalizing state with
  | nil =>
    intro item member
    rw [rounds, List.length_nil, eq_comm, List.length_eq_zero_iff] at whole
    simp [whole] at member
  | cons turn rest ih =>
    intro item member
    obtain ⟨stays, less, list, taken, above, handed⟩ := follows.takes turn ready
    have size := congrArg List.length handed
    rw [List.length_map, List.length_map] at size
    rw [played]
    have bound := follows.inside state.source item member
    rw [taken] at member
    rcases List.mem_append.mp member with here | later
    · exact ⟨(state, turn), List.mem_cons_self, above item here, bound⟩
    · cases again : (bodyOf source messageBytes state turn).again with
      | true =>
        rw [rounds_again again, taken, List.length_append, List.length_append] at whole
        obtain ⟨round, found, received⟩ := ih (stays again) (by omega) item later
        exact ⟨round, List.mem_cons_of_mem _ (by rwa [if_pos rfl]), received⟩
      | false =>
        rw [rounds_break again, taken, List.length_append, size, Nat.left_eq_add,
          List.length_eq_zero_iff] at whole
        simp [whole] at later

theorem Follows.received (follows : Follows source intake messageBytes good)
    (ready : good (receiverStart source messageBytes start))
    (whole : (receiverLoop source start messageBytes turns).emitted.length =
      (intake.marks start).length) :
    ∀ item ∈ intake.marks start, ∃ round ∈ receiverPlayed source messageBytes start turns,
      Receives source intake messageBytes round item :=
  follows.rounds_received ready whole

end Intake

/-! The two receive paths. -/

/-- The bytes of a stream, and the frames in it. -/
def streamIntake : Intake (FramedReader × ByteSource) where
  left held := (held.1.pending ++ held.2.bytes).length
  marks held := marked (FramedReader.wireFormat held.1.buf.length) (held.1.pending ++ held.2.bytes)

/-- The datagrams of a socket. -/
def datagramIntake : Intake DatagramSource where
  left held := held.datagrams.length
  marks held := placed (fun _ => 1) held.datagrams

/-- A round that takes frames off a stream takes the marks of these frames. -/
theorem streamIntake_takes {held next : FramedReader × ByteSource} {list : List (List UInt8)}
    (progress : FramedReader.Progress held.1 held.2 list next.1 next.2) (stride : Nat) :
    streamIntake.left next ≤ streamIntake.left held ∧
      ∃ marks, streamIntake.marks held = marks ++ streamIntake.marks next ∧
        (∀ mark ∈ marks, streamIntake.left next ≤ mark.2) ∧
        list.map (List.take stride) = marks.map fun mark => mark.1.take stride := by
  obtain ⟨marks, taken, above, same⟩ := progress.consumed.marks
  refine ⟨progress.consumed.shorter, marks, ?_, above, ?_⟩
  · simp only [streamIntake, same, progress.sameRoom]
  · rw [← taken, List.map_map]
    rfl

theorem stream_follows (messageBytes : UInt32) :
    Follows (tcpSource messageBytes) streamIntake messageBytes fun state =>
      state.slots.Usable messageBytes.toNat (clampBatch (streamBatchSize messageBytes)) ∧
        headerLen ≤ state.source.1.buf.length ∧ state.source.2.Steady where
  inside held mark member := lt_of_mem_marked _ member
  takes {state} turn := by
    rintro ⟨usable, holds, steady⟩ next
    have step := receiverRound_stream messageBytes state turn usable holds steady
    change StreamStep _ _ state turn next at step
    generalize next = result at step
    cases step with
    | delivers list next some_found kept pauses progress =>
      obtain ⟨less, marks, split, above, same⟩ :=
        streamIntake_takes progress messageBytes.toNat
      refine ⟨fun _ => ⟨kept, by rwa [progress.sameRoom], progress.steady steady⟩, less, marks,
        split, above, ?_⟩
      rw [← same, List.map_map]
      exact List.map_id _
    | idle next kept pauses progress =>
      obtain ⟨less, marks, split, above, same⟩ :=
        streamIntake_takes progress messageBytes.toNat
      exact ⟨fun _ => ⟨kept, by rwa [progress.sameRoom], progress.steady steady⟩, less, marks,
        split, above, same⟩
    | ended next progress nothing =>
      obtain ⟨less, marks, split, above, same⟩ :=
        streamIntake_takes progress messageBytes.toNat
      exact ⟨fun again => absurd again Bool.false_ne_true, less, marks, split, above, same⟩

theorem placed_append (size : List UInt8 → Nat) (front back : List (List UInt8)) :
    ∃ marks, placed size (front ++ back) = marks ++ placed size back ∧
      marks.map Prod.fst = front ∧ ∀ mark ∈ marks, (back.map size).sum ≤ mark.2 := by
  induction front with
  | nil => exact ⟨[], rfl, rfl, nofun⟩
  | cons msg rest ih =>
    obtain ⟨marks, split, firsts, above⟩ := ih
    refine ⟨(msg, ((rest ++ back).map size).sum) :: marks, ?_, ?_, ?_⟩
    · rw [List.cons_append, placed, split, List.cons_append]
    · rw [List.map_cons, firsts]
    · refine List.forall_mem_cons.mpr ⟨?_, above⟩
      rw [List.map_append, List.sum_append]
      exact Nat.le_add_left _ _

theorem placed_inside {size : List UInt8 → Nat} {msgs : List (List UInt8)}
    (positive : ∀ msg ∈ msgs, 0 < size msg) :
    ∀ mark ∈ placed size msgs, mark.2 < (msgs.map size).sum := by
  induction msgs with
  | nil => nofun
  | cons msg rest ih =>
    obtain ⟨first, others⟩ := List.forall_mem_cons.mp positive
    rw [List.map_cons, List.sum_cons]
    refine List.forall_mem_cons.mpr ⟨Nat.lt_add_of_pos_left first, fun mark member => ?_⟩
    have := ih others mark member
    omega

theorem sum_ones (grams : List (List UInt8)) : (grams.map fun _ => 1).sum = grams.length := by
  induction grams with
  | nil => rfl
  | cons gram rest ih => rw [List.map_cons, List.sum_cons, ih, List.length_cons, Nat.add_comm]

theorem datagram_follows (messageBytes : UInt32) :
    Follows udpSource datagramIntake messageBytes fun state =>
      state.slots.Usable messageBytes.toNat (clampBatch 32) ∧ state.source.Steady where
  inside held mark member := by
    have inside := placed_inside (fun _ _ => Nat.one_pos) mark member
    rwa [sum_ones] at inside
  takes {state} turn := by
    rintro ⟨usable, steady⟩ next
    have step := receiverRound_datagram state turn usable steady
    change DatagramStep _ _ state turn next at step
    generalize next = result at step
    cases step with
    | delivers grams next some_found kept pauses taken still_steady =>
      obtain ⟨marks, split, firsts, above⟩ := placed_append (fun _ => 1) grams next.source.datagrams
      refine ⟨fun _ => ⟨kept, still_steady⟩, ?_, marks, ?_, ?_, ?_⟩
      · simp only [datagramIntake, taken, List.length_append]
        omega
      · simp only [datagramIntake, taken, split]
      · rwa [sum_ones] at above
      · rw [← firsts, List.map_map, List.map_map, List.map_map]
        rfl
    | idle next kept pauses drained taken still_steady =>
      exact ⟨fun _ => ⟨kept, still_steady⟩, by simp only [datagramIntake, taken, le_refl], [],
        by simp only [datagramIntake, taken, List.nil_append], nofun, rfl⟩

/-- Messages that the reader has room for are all found where they are. -/
theorem marked_messages {cap : Nat} {msgs : List (List UInt8)}
    (fits : ∀ msg ∈ msgs, WellFormed msg ∧ msg.length ≤ cap) :
    marked (FramedReader.wireFormat cap) msgs.flatten = placed List.length msgs := by
  induction msgs with
  | nil => exact marked_none _ (pull_short _ (FramedReader.wireFormat cap).headerLen_pos)
  | cons msg rest ih =>
    obtain ⟨⟨wellFormed, room⟩, others⟩ := List.forall_mem_cons.mp fits
    rw [List.flatten_cons, marked_some _ (pull_frame _
      (FramedReader.wellFormed_isFrame wellFormed room) _), ih others, placed,
      List.length_flatten]

section Runs

variable {messageBytes : UInt32} (positive : 0 < messageBytes.toNat)
include positive

theorem stream_boundaries {src : ByteSource} (steady : src.Steady)
    (items : List (List UInt8 × Nat)) (turns : List ReceiverTurn) :
    BoundaryChecked (tcpSource messageBytes) streamIntake messageBytes (.new messageBytes, src)
        items turns ↔
      MeasuredFits (tcpSource messageBytes) streamIntake messageBytes (.new messageBytes, src)
        items turns :=
  boundaryChecked_iff (stream_follows messageBytes)
    ⟨freshSlots_usable positive (clampBatch_pos _), FramedReader.new_holds messageBytes, steady⟩

theorem datagram_boundaries {src : DatagramSource} (steady : src.Steady)
    (items : List (List UInt8 × Nat)) (turns : List ReceiverTurn) :
    BoundaryChecked udpSource datagramIntake messageBytes src items turns ↔
      MeasuredFits udpSource datagramIntake messageBytes src items turns :=
  boundaryChecked_iff (datagram_follows messageBytes)
    ⟨freshSlots_usable positive (clampBatch_pos _), steady⟩

/-- A receiver that stays awake long enough receives every message it can find. -/
theorem stream_received {src : ByteSource} (steady : src.Steady) {turns : List ReceiverTurn}
    (awake : ∀ turn ∈ turns, turn.phase ≠ .done)
    (enough : src.bytes.length + src.pauses < turns.length) :
    ∀ item ∈ streamIntake.marks (.new messageBytes, src),
      ∃ round ∈ receiverPlayed (tcpSource messageBytes) messageBytes (.new messageBytes, src) turns,
        Receives (tcpSource messageBytes) streamIntake messageBytes round item := by
  have few := frames_length_le (FramedReader.wireFormat (FramedReader.new messageBytes).buf.length)
    ((FramedReader.new messageBytes).pending ++ src.bytes)
  rw [FramedReader.new_pending, List.nil_append] at few
  have handed := congrArg List.length (receiverLoop_stream positive steady awake (by
    rw [FramedReader.remaining, FramedReader.new_pending, List.nil_append]
    omega))
  refine (stream_follows messageBytes).received
    ⟨freshSlots_usable positive (clampBatch_pos _), FramedReader.new_holds messageBytes, steady⟩ ?_
  rw [List.length_map, List.length_map] at handed
  rw [streamIntake, ← List.length_map (f := Prod.fst), map_fst_marked]
  exact handed

theorem receiverLoop_datagrams {src : DatagramSource} (steady : src.Steady)
    {turns : List ReceiverTurn} (awake : ∀ turn ∈ turns, turn.phase ≠ .done)
    (enough : src.datagrams.length + src.pauses ≤ turns.length) :
    (receiverLoop udpSource src messageBytes turns).emitted.map Delivery.msg =
      src.datagrams.map (List.take messageBytes.toNat) :=
  receiverRounds_datagrams (freshSlots_usable positive (clampBatch_pos _)) steady awake enough

theorem datagram_received {src : DatagramSource} (steady : src.Steady)
    {turns : List ReceiverTurn} (awake : ∀ turn ∈ turns, turn.phase ≠ .done)
    (enough : src.datagrams.length + src.pauses ≤ turns.length) :
    ∀ item ∈ placed (fun _ => 1) src.datagrams,
      ∃ round ∈ receiverPlayed udpSource messageBytes src turns,
        Receives udpSource datagramIntake messageBytes round item := by
  have handed := congrArg List.length (receiverLoop_datagrams positive steady awake enough)
  refine (datagram_follows messageBytes).received
    ⟨freshSlots_usable positive (clampBatch_pos _), steady⟩ ?_
  have count : (placed (fun _ => 1) src.datagrams).length = src.datagrams.length := by
    induction src.datagrams with
    | nil => rfl
    | cons gram rest ih => rw [placed, List.length_cons, List.length_cons, ih]
  rw [List.length_map, List.length_map] at handed
  exact handed.trans count.symm

end Runs

/-! The check. -/

/-- On either receive path, and in every run, the size check is sound exactly if the messages
received in the measure window are not larger than the configured size, and no short one of them
is hidden from the framer behind a message that its buffer has no room for. Where the buffer has
room for all of them nothing is hidden; a run that lasts long enough receives all of them. -/
theorem receiverLoop_boundaries {messageBytes : UInt32} (sized : 24 ≤ messageBytes.toNat) :
    (∀ (msgs : List (List UInt8)) (src : ByteSource) (turns : List ReceiverTurn),
      src.bytes = msgs.flatten → src.Steady →
        (BoundaryChecked (tcpSource messageBytes) streamIntake messageBytes
            (.new messageBytes, src) (placed List.length msgs) turns ↔
          MeasuredFits (tcpSource messageBytes) streamIntake messageBytes
            (.new messageBytes, src) (placed List.length msgs) turns) ∧
        ((∀ msg ∈ msgs,
            WellFormed msg ∧ msg.length ≤ (FramedReader.new messageBytes).buf.length) →
          streamIntake.marks (.new messageBytes, src) = placed List.length msgs ∧
            ((∀ turn ∈ turns, turn.phase ≠ .done) → src.bytes.length + src.pauses < turns.length →
              ∀ item ∈ placed List.length msgs, ∃ round ∈
                receiverPlayed (tcpSource messageBytes) messageBytes (.new messageBytes, src) turns,
                  Receives (tcpSource messageBytes) streamIntake messageBytes round item))) ∧
      ∀ (src : DatagramSource) (turns : List ReceiverTurn), src.Steady →
        (BoundaryChecked udpSource datagramIntake messageBytes src
            (placed (fun _ => 1) src.datagrams) turns ↔
          ∀ round ∈ receiverPlayed udpSource messageBytes src turns, round.2.phase = .measure →
            ∀ item ∈ placed (fun _ => 1) src.datagrams,
              Receives udpSource datagramIntake messageBytes round item →
                item.1.length ≤ messageBytes.toNat) ∧
        ((∀ turn ∈ turns, turn.phase ≠ .done) → src.datagrams.length + src.pauses ≤ turns.length →
          ∀ item ∈ placed (fun _ => 1) src.datagrams,
            ∃ round ∈ receiverPlayed udpSource messageBytes src turns,
              Receives udpSource datagramIntake messageBytes round item) := by
  have positive : 0 < messageBytes.toNat := by omega
  refine ⟨fun msgs src turns carried steady =>
      ⟨stream_boundaries positive steady _ turns, fun fits => ?_⟩,
    fun src turns steady => ⟨?_, datagram_received positive steady⟩⟩
  · have found : streamIntake.marks (.new messageBytes, src) = placed List.length msgs := by
      rw [← marked_messages fits, ← carried]
      rfl
    exact ⟨found, fun awake enough => found ▸ stream_received positive steady awake enough⟩
  · rw [datagram_boundaries positive steady]
    exact ⟨fun fits round member measured item listed received =>
        (fits round member measured item listed received).1,
      fun fits round member measured item listed received =>
        ⟨fits round member measured item listed received, fun _ => listed⟩⟩

/-- A message that only consists of its header. -/
def bareMessage : List UInt8 := message { seq := 0, tsNs := 0, payloadLen := 0 }

/-- Forty bytes of a message. -/
def longMessage : List UInt8 := message { seq := 0, tsNs := 0, payloadLen := 16 }

/-- A receiver of 32-byte messages that gets an oversize datagram in the warm-up and a short one
while measuring, and a stream of two short messages. -/
theorem receiverLoop_boundaries_warmup :
    (∃ src : DatagramSource, src.datagrams = [longMessage, bareMessage] ∧
      BoundaryChecked udpSource datagramIntake 32 src (placed (fun _ => 1) src.datagrams)
        [⟨.warmup, 0⟩, ⟨.measure, 1⟩] ∧
      (receiverLoop udpSource src 32
        [⟨.warmup, 0⟩, ⟨.measure, 1⟩]).state.metrics.boundaryViolations = 1) ∧
      BoundaryChecked (tcpSource 32) streamIntake 32
        (.new 32, .ofBytes (bareMessage ++ bareMessage)) [(bareMessage, 24), (bareMessage, 0)]
        (measuringTurns 60) := by
  have size : bareMessage.length = 24 := message_length _
  constructor
  · refine ⟨[.ready [longMessage] (by decide), .ready [bareMessage] (by decide)], rfl, ?_,
      by decide +kernel⟩
    refine ((receiverLoop_boundaries (by decide)).2 _ _ (by simp [DatagramSource.Steady])).1.mpr ?_
    decide +kernel
  · have wellFormed : ∀ msg ∈ [bareMessage, bareMessage], WellFormed msg ∧
        msg.length ≤ (FramedReader.new 32).buf.length := by
      intro msg member
      obtain rfl : msg = bareMessage := by simpa using member
      exact ⟨message_wellFormed _, message_fits 32 (size.trans_le (by decide))⟩
    have carried : (ByteSource.ofBytes (bareMessage ++ bareMessage)).bytes =
        [bareMessage, bareMessage].flatten := by
      rw [ByteSource.ofBytes_bytes, List.flatten_cons, List.flatten_singleton]
    obtain ⟨checked, found⟩ := (@receiverLoop_boundaries 32 (by decide)).1
      [bareMessage, bareMessage] _ (measuringTurns 60) carried (ByteSource.ofBytes_steady _)
    have places : placed List.length [bareMessage, bareMessage] =
        [(bareMessage, 24), (bareMessage, 0)] := by
      simp [placed, size]
    rw [← places]
    refine checked.mpr fun round _ _ item listed _ => ⟨?_, fun _ => (found wellFormed).1 ▸ listed⟩
    rw [places] at listed
    rcases List.mem_pair.mp listed with rfl | rfl <;> exact size.trans_le (by decide)

/-- A 40-byte message to a receiver of 32-byte messages, on a stream and as a datagram. -/
theorem receiverLoop_boundaries_oversize :
    ¬BoundaryChecked (tcpSource 32) streamIntake 32 (.new 32, .ofBytes longMessage)
        [(longMessage, 0)] (measuringTurns 50) ∧
      ¬BoundaryChecked udpSource datagramIntake 32 [.ready [longMessage] (by decide)]
        [(longMessage, 0)] (measuringTurns 1) := by
  have size : longMessage.length = 40 := message_length _
  have positive : 0 < (32 : UInt32).toNat := by decide
  constructor
  · rw [stream_boundaries positive (ByteSource.ofBytes_steady _)]
    intro fits
    have carried : (ByteSource.ofBytes longMessage).bytes = [longMessage].flatten := by
      rw [ByteSource.ofBytes_bytes, List.flatten_singleton]
    have found : streamIntake.marks (.new 32, .ofBytes longMessage) = [(longMessage, 0)] := by
      have fits : ∀ msg ∈ [longMessage],
          WellFormed msg ∧ msg.length ≤ (FramedReader.new 32).buf.length := by
        intro msg member
        rw [List.mem_singleton.mp member]
        refine ⟨message_wellFormed _, size.trans_le ?_⟩
        rw [FramedReader.new, List.length_replicate]
        decide
      have marks := marked_messages fits
      rw [← carried] at marks
      exact marks
    obtain ⟨round, played, received⟩ := stream_received positive (ByteSource.ofBytes_steady _)
      (measuringTurns_awake 50) (by
        rw [ByteSource.ofBytes_bytes, ByteSource.ofBytes_pauses, size, measuringTurns,
          List.length_replicate]
        decide)
      (longMessage, 0) (found ▸ List.mem_cons_self)
    have long := (fits round played (receiverPlayed_phase (measuringTurns_phase 50) round played) _
      List.mem_cons_self received).1
    rw [size] at long
    exact absurd long (by decide)
  · rw [datagram_boundaries positive (by simp [DatagramSource.Steady])]
    intro fits
    obtain ⟨round, played, received⟩ := @datagram_received 32 positive
      [.ready [longMessage] (by decide)] (by simp [DatagramSource.Steady]) _
      (measuringTurns_awake 1) (by decide) (longMessage, 0) List.mem_cons_self
    have long := (fits round played (receiverPlayed_phase (measuringTurns_phase 1) round played) _
      List.mem_cons_self received).1
    rw [size] at long
    exact absurd long (by decide)

end Seshat.Run
