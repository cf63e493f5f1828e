import Seshat.Transport.FramedRun
import Mathlib.Tactic.Common

/-! The framer step by step: between two reads every step delivers a message or moves
`start` on, and every read finds free space, whatever the bytes are. -/

namespace Seshat.Transport
open Lib.Framing Lib.Window Proto.Wire

namespace FramedReader

theorem header_inside {r : FramedReader} (full : ¬r.endPos - r.start < headerLen) :
    r.start + 1 ≤ r.endPos := by
  unfold headerLen at full
  omega

theorem message_inside {r : FramedReader} {total : Nat} (full : ¬r.endPos - r.start < total) :
    r.start + total ≤ r.endPos := by
  have ordered := r.start_le
  omega

/-- One turn of the loop of `take_one`. -/
inductive TakeTurn where
  | waits
  | skips (next : FramedReader)
  | delivers (n : Nat) (out : List UInt8) (next : FramedReader)

def takeTurn (r : FramedReader) (out : List UInt8) : TakeTurn :=
  if short : r.endPos - r.start < headerLen then .waits
  else
    have inside := header_inside short
    match WireHeader.decode (window r.buf r.start (r.endPos - r.start)) with
    | .error _ => .skips (r.advance 1 inside)
    | .ok hdr =>
        let total := headerLen + hdr.payloadLen.toNat
        if total > r.buf.length then .skips (r.advance 1 inside)
        else if waiting : r.endPos - r.start < total then .waits
        else
          let n := min total out.length
          .delivers n (overwrite out 0 (window r.buf r.start n))
            (r.advance total (message_inside waiting))

/-- What `take_one` makes of its first turn. -/
def TakeTurn.run (turn : TakeTurn) (r : FramedReader) (out : List UInt8) :
    Option Nat × List UInt8 × FramedReader :=
  match turn with
  | waits => (none, out, r)
  | skips next => next.takeOne out
  | delivers n given next => (some n, given, next)

theorem takeOne_turn (r : FramedReader) (out : List UInt8) :
    r.takeOne out = (r.takeTurn out).run r out := by
  rw [takeOne, takeTurn]
  split
  · rfl
  · cases decoded : WireHeader.decode (window r.buf r.start (r.endPos - r.start)) with
    | error e => rfl
    | ok hdr =>
      dsimp only
      split
      · rfl
      · split <;> rfl

/-- `fill_once` finds no room although no message is complete. -/
def BufferFull (r : FramedReader) : Prop := r.makeRoom.endPos = r.makeRoom.buf.length

inductive Move where
  | skip
  | deliver
  | read
  deriving DecidableEq, Repr

/-- The steps of one call between two reads: each is the step `take_one` takes there, and
moves `start` on. -/
inductive Takes : FramedReader → List Move → FramedReader → Prop
  | rests (r : FramedReader) : Takes r [] r
  | skips {r next last : FramedReader} {moves : List Move} {out : List UInt8}
      (turn : r.takeTurn out = .skips next) (ahead : r.start < next.start)
      (later : Takes next moves last) : Takes r (.skip :: moves) last
  | delivers {r next last : FramedReader} {moves : List Move} {n : Nat} {out given : List UInt8}
      (turn : r.takeTurn out = .delivers n given next) (ahead : r.start < next.start)
      (later : Takes next moves last) : Takes r (.deliver :: moves) last

/-- The steps of one call: a read finds free space, and only one that reports `Filled` is
followed by another step. -/
inductive Path : FramedReader → ByteSource → List Move → FramedReader → ByteSource → Prop
  | returns {r last : FramedReader} {moves : List Move} (src : ByteSource)
      (takes : Takes r moves last) : Path r src moves last src
  | reads {r middle next last : FramedReader} {src tail rest : ByteSource}
      {before after : List Move} (takes : Takes r before middle)
      (waits : ∀ out, middle.takeTurn out = .waits) (free : ¬middle.BufferFull)
      (filled : middle.fillOnce src = (.ok .filled, next, tail))
      (later : Path next tail after last rest) :
      Path r src (before ++ .read :: after) last rest
  | ends {r middle next : FramedReader} {src rest : ByteSource} {before : List Move}
      {outcome : Except ErrorKind FillOutcome} (takes : Takes r before middle)
      (waits : ∀ out, middle.takeTurn out = .waits) (free : ¬middle.BufferFull)
      (step : middle.fillOnce src = (outcome, next, rest)) :
      Path r src (before ++ [.read]) next rest

theorem Takes.trans {r middle last : FramedReader} {first second : List Move}
    (left : Takes r first middle) (right : Takes middle second last) :
    Takes r (first ++ second) last := by
  induction left with
  | rests r => exact right
  | skips turn ahead later ih => exact .skips turn ahead (ih right)
  | delivers turn ahead later ih => exact .delivers turn ahead (ih right)

/-- A turn that does not wait cuts some of the pending bytes off the front. -/
inductive Turned (r : FramedReader) : TakeTurn → Prop
  | waits : Turned r .waits
  | skips (inside : r.start + 1 ≤ r.endPos) : Turned r (.skips (r.advance 1 inside))
  | delivers (n : Nat) (given : List UInt8) (total : Nat) (some_cut : 0 < total)
      (inside : r.start + total ≤ r.endPos) : Turned r (.delivers n given (r.advance total inside))

theorem takeTurn_turned (r : FramedReader) (out : List UInt8) : Turned r (r.takeTurn out) := by
  unfold takeTurn
  split
  · exact .waits
  · next long =>
    have inside := header_inside long
    cases WireHeader.decode (window r.buf r.start (r.endPos - r.start)) with
    | error e => exact .skips inside
    | ok hdr =>
      dsimp only
      split
      · exact .skips inside
      · split
        · exact .waits
        · exact .delivers _ _ _ (by unfold headerLen; omega) _

theorem takeTurn_waits {r : FramedReader} (stuck : Stuck (wireFormat r.buf.length) r.pending)
    (out : List UInt8) : r.takeTurn out = .waits := by
  unfold takeTurn
  rcases stuck with short | ⟨total, long, header, waiting⟩
  · rw [pending_length] at short
    exact dif_pos short
  · rw [pending_length] at long waiting
    have long : ¬r.endPos - r.start < headerLen := Nat.not_lt.mpr long
    rw [dif_neg long]
    simp only [wireFormat, announcedTotal, pending] at header
    cases decoded : WireHeader.decode (window r.buf r.start (r.endPos - r.start)) with
    | error e => simp [decoded] at header
    | ok hdr =>
      simp only [decoded] at header
      split at header
      · simp at header
      · next fits =>
        have same : hdr.total = total := Option.some.inj header
        have fits : ¬headerLen + hdr.payloadLen.toNat > r.buf.length := fits
        have waiting : r.endPos - r.start < headerLen + hdr.payloadLen.toNat := by
          rw [← same] at waiting
          exact waiting
        dsimp only
        rw [if_neg fits, dif_pos waiting]

/-- Between two reads no step leaves more bytes pending, and each uses some up. -/
theorem Takes.pending_le {r last : FramedReader} {moves : List Move} (takes : Takes r moves last) :
    moves.length + last.pending.length ≤ r.pending.length := by
  induction takes with
  | rests r => exact (Nat.zero_add _).le
  | @skips r next last moves out turn ahead later ih =>
    have turned := takeTurn_turned r out
    rw [turn] at turned
    cases turned with
    | skips inside =>
      have size := pending_length r
      rw [advance_pending, List.length_drop] at ih
      rw [List.length_cons]
      omega
  | @delivers r next last moves n out given turn ahead later ih =>
    have turned := takeTurn_turned r out
    rw [turn] at turned
    cases turned with
    | delivers _ _ total some_cut inside =>
      have size := pending_length r
      rw [advance_pending, List.length_drop] at ih
      rw [List.length_cons]
      omega

theorem takeOne_takes (r : FramedReader) (out : List UInt8) :
    ∃ moves, Takes r moves (r.takeOne out).2.2 := by
  induction left : r.endPos - r.start using Nat.strong_induction_on generalizing r with
  | _ size ih =>
    have turned := takeTurn_turned r out
    rw [takeOne_turn]
    generalize found : r.takeTurn out = turn at turned
    cases turned with
    | waits => exact ⟨[], .rests r⟩
    | skips inside =>
      have start : (r.advance 1 inside).start = r.start + 1 := rfl
      have stop : (r.advance 1 inside).endPos = r.endPos := rfl
      obtain ⟨moves, later⟩ := ih _ (by rw [start, stop]; omega) (r.advance 1 inside) rfl
      exact ⟨_, .skips found (Nat.lt_succ_self r.start) later⟩
    | delivers n given total some_cut inside =>
      exact ⟨_, .delivers found (Nat.lt_add_of_pos_right some_cut) (.rests _)⟩

theorem takeFrom_takes {stride cap count : Nat} (r : FramedReader) (slots : Slots) :
    ∃ moves, Takes r moves (takeFrom stride cap count r slots).2.2 := by
  fun_induction takeFrom stride cap count r slots with
  | case1 count r slots more n slot next taken ih =>
    obtain ⟨first, takes⟩ := takeOne_takes r (window slots.buf (count * stride) stride)
    obtain ⟨second, later⟩ := ih
    rw [taken] at takes
    exact ⟨_, takes.trans later⟩
  | case2 count r slots more slot next taken =>
    obtain ⟨moves, takes⟩ := takeOne_takes r (window slots.buf (count * stride) stride)
    rw [taken] at takes
    exact ⟨moves, takes⟩
  | case3 count r slots full => exact ⟨[], .rests r⟩

theorem takeMessages_takes (r : FramedReader) (slots : Slots) (stride max : Nat) :
    ∃ moves, Takes r moves (r.takeMessages slots stride max).2.2 := by
  unfold takeMessages
  split
  · exact ⟨[], .rests r⟩
  · exact takeFrom_takes r slots

theorem batchTake_takes (r : FramedReader) (slots : Slots) (stride max : Nat) :
    ∃ moves, Takes r moves (batchTake stride max r slots).2.2 := by
  obtain ⟨moves, takes⟩ := takeMessages_takes r slots stride max
  refine ⟨moves, ?_⟩
  unfold batchTake
  split <;> next taken => rwa [taken] at takes

/-- A buffer with a header's room is never full without a complete message in it. -/
theorem not_bufferFull {r : FramedReader} (holds : headerLen ≤ r.buf.length)
    (stuck : Stuck (wireFormat r.buf.length) r.pending) : ¬r.BufferFull :=
  Nat.ne_of_lt (makeRoom_room r (stuck_room holds stuck))

section TakeFill

variable {σ ω : Type} {take : FramedReader → σ → Option Nat × σ × FramedReader}
  {good : σ → Prop} {view : σ → Nat → List (List UInt8)} {cut : List UInt8 → List UInt8}
  {delivers : Nat → ω} {timeout closed : ω}

/-- A take that finds nothing has used up what it can, and the read behind it finds space. -/
theorem TakeSpec.starved (spec : TakeSpec take good view cut)
    (takes : ∀ r out, ∃ moves, Takes r moves (take r out).2.2) {r middle : FramedReader}
    {out given : σ} (kept : good out) (holds : headerLen ≤ r.buf.length)
    (waiting : take r out = (none, given, middle)) :
    ∃ moves, Takes r moves middle ∧ (∀ out, middle.takeTurn out = .waits) ∧ ¬middle.BufferFull := by
  obtain ⟨kept, holds, drained, stuck, step⟩ := spec.missed [] kept holds waiting
  obtain ⟨moves, front⟩ := takes r out
  rw [waiting] at front
  exact ⟨moves, front, takeTurn_waits stuck, not_bufferFull holds stuck⟩

/-- A take→fill loop over any source follows a path, and fails only as its source does. -/
theorem takeFill_path (spec : TakeSpec take good view cut)
    (takes : ∀ r out, ∃ moves, Takes r moves (take r out).2.2) (r : FramedReader) (out : σ)
    (src : ByteSource) (kept : good out) (holds : headerLen ≤ r.buf.length) :
    (∃ moves, Path r src moves (takeFill take delivers timeout closed r out src).2.2.1
        (takeFill take delivers timeout closed r out src).2.2.2) ∧
      ∀ kind, (takeFill take delivers timeout closed r out src).1 = .error kind →
        .fails kind ∈ src := by
  fun_induction takeFill take delivers timeout closed r out src with
  | case1 r out src n given next taken =>
    obtain ⟨moves, front⟩ := takes r out
    rw [taken] at front
    exact ⟨⟨moves, .returns src front⟩, fun _ same => by cases same⟩
  | case2 r out src given middle waiting next rest filled ih =>
    obtain ⟨before, front, waits, free⟩ := spec.starved takes kept holds waiting
    obtain ⟨kept, holds, drained, stuck, step⟩ := spec.missed src kept holds waiting
    obtain ⟨⟨after, later⟩, failures⟩ := ih kept (by
      rw [filled] at step
      cases step with
      | filled _ _ sameRoom joined pauses => rwa [sameRoom])
    exact ⟨⟨_, .reads front waits free filled later⟩,
      fun kind failed => fillOnce_fails filled (failures kind failed)⟩
  | case3 r out src given middle waiting next rest timeout =>
    obtain ⟨before, front, waits, free⟩ := spec.starved takes kept holds waiting
    exact ⟨⟨_, .ends front waits free timeout⟩, fun _ same => by cases same⟩
  | case4 r out src given middle waiting next rest closed =>
    obtain ⟨before, front, waits, free⟩ := spec.starved takes kept holds waiting
    exact ⟨⟨_, .ends front waits free closed⟩, fun _ same => by cases same⟩
  | case5 r out src given middle waiting kind next rest failed =>
    obtain ⟨before, front, waits, free⟩ := spec.starved takes kept holds waiting
    obtain ⟨kept, holds, drained, stuck, step⟩ := spec.missed src kept holds waiting
    refine ⟨⟨_, .ends front waits free failed⟩, ?_⟩
    intro reported same
    rw [failed] at step
    cases step with
    | failed _ _ _ event fatal =>
      rw [← Except.error.inj same, event]
      exact List.mem_cons_self

end TakeFill

theorem pending_room {r : FramedReader} (free : ¬r.BufferFull) :
    r.pending.length < r.buf.length := by
  have size := congrArg List.length (makeRoom_pending r)
  have stop := r.makeRoom.end_le
  have room := makeRoom_length r
  rw [pending_length] at size
  unfold BufferFull at free
  omega

theorem fillOnce_room {r next : FramedReader} {src rest : ByteSource}
    {outcome : Except ErrorKind FillOutcome} (step : r.fillOnce src = (outcome, next, rest)) :
    next.buf.length = r.buf.length := by
  have kept := makeRoom_length r
  simp only [fillOnce] at step
  split at step
  · simp only [Prod.mk.injEq] at step
    rw [← step.2.1, kept]
  · split at step
    · split at step
      · simp only [Prod.mk.injEq] at step
        rw [← step.2.1, kept]
      · simp only [Prod.mk.injEq] at step
        rw [← step.2.1, append_length, kept]
    all_goals
      simp only [Prod.mk.injEq] at step
      rw [← step.2.1, kept]

theorem Takes.room {r last : FramedReader} {moves : List Move} (takes : Takes r moves last) :
    last.buf.length = r.buf.length := by
  induction takes with
  | rests r => rfl
  | @skips r next last moves out turn ahead later ih =>
    have turned := takeTurn_turned r out
    rw [turn] at turned
    cases turned with
    | skips inside => exact ih
  | @delivers r next last moves n out given turn ahead later ih =>
    have turned := takeTurn_turned r out
    rw [turn] at turned
    cases turned with
    | delivers _ _ total some_cut inside => exact ih

theorem Path.room {r last : FramedReader} {src rest : ByteSource} {moves : List Move}
    (path : Path r src moves last rest) : last.buf.length = r.buf.length := by
  induction path with
  | returns src takes => exact takes.room
  | reads takes waits free filled later ih => rw [ih, fillOnce_room filled, takes.room]
  | ends takes waits free step => rw [fillOnce_room step, takes.room]

/-- A call takes no more steps than bytes are pending and bytes and reads are to come. -/
theorem Path.length_le {r last : FramedReader} {src rest : ByteSource} {moves : List Move}
    (path : Path r src moves last rest) :
    moves.length ≤ r.pending.length + src.bytes.length + src.size + 1 := by
  induction path with
  | returns src takes =>
    have used := takes.pending_le
    omega
  | @reads r middle next last src tail rest before after takes waits free filled later ih =>
    have used := takes.pending_le
    have fewer := fillOnce_size filled
    have step := fillOnce_filled middle src (pending_room free)
    rw [filled] at step
    cases step with
    | filled _ _ sameRoom joined pauses =>
      have same := congrArg List.length joined
      rw [List.length_append, List.length_append] at same
      rw [List.length_append, List.length_cons]
      omega
  | ends takes waits free step =>
    have used := takes.pending_le
    rw [List.length_append, List.length_singleton]
    omega

/-- A call follows a path, and fails only as its source does. -/
theorem answer_path {call : ReadCall} {r : FramedReader} (src : ByteSource)
    (slot : call.HasSlot) (holds : headerLen ≤ r.buf.length) :
    (∃ moves, Path r src moves (call.answer r src).2.1 (call.answer r src).2.2) ∧
      ∀ kind, (call.answer r src).1 = .failed kind → .fails kind ∈ src := by
  cases call with
  | nextMessage out =>
    have path := @takeFill_path _ _ _ _ _ _ RecvOutcome.message .timeout .closed
      (takeOne_spec out.length) takeOne_takes r out src rfl holds
    rw [ReadCall.answer, nextMessage]
    generalize takeFill takeOne _ _ _ r out src = result at path
    obtain ⟨outcome, given, next, rest⟩ := result
    cases outcome with
    | error kind => exact ⟨path.1, fun k same => path.2 k (congrArg _ (Reply.failed.inj same))⟩
    | ok outcome => cases outcome <;> exact ⟨path.1, fun _ same => by cases same⟩
  | takeMessages slots stride max =>
    obtain ⟨moves, takes⟩ := takeMessages_takes r slots stride max
    exact ⟨⟨moves, .returns src takes⟩, fun _ same => by cases same⟩
  | recvBatch slots stride max =>
    have path := @takeFill_path _ _ _ _ _ _ BatchOutcome.messages .timeout .closed
      (batchTake_spec stride max) (fun r slots => batchTake_takes r slots stride max) r slots src
      slot holds
    rw [ReadCall.answer, recvBatch, if_neg (Slots.Usable.open_slots slot)]
    generalize takeFill (batchTake stride max) _ _ _ r slots src = result at path
    obtain ⟨outcome, given, next, rest⟩ := result
    cases outcome with
    | error kind => exact ⟨path.1, fun k same => path.2 k (congrArg _ (Reply.failed.inj same))⟩
    | ok outcome => cases outcome <;> exact ⟨path.1, fun _ same => by cases same⟩

end FramedReader

/-- The readers and sources that calls with a slot lead to from a fresh reader. -/
inductive Reached (messageBytes : UInt32) (src : ByteSource) : FramedReader → ByteSource → Prop
  | fresh : Reached messageBytes src (.new messageBytes) src
  | call {r : FramedReader} {rest : ByteSource} (before : Reached messageBytes src r rest)
      (call : ReadCall) (slot : call.HasSlot) :
      Reached messageBytes src (call.answer r rest).2.1 (call.answer r rest).2.2

theorem Reached.room {messageBytes : UInt32} {src rest : ByteSource} {r : FramedReader}
    (reached : Reached messageBytes src r rest) :
    r.buf.length = (FramedReader.new messageBytes).buf.length := by
  induction reached with
  | fresh => rfl
  | @call r rest before call slot ih =>
    obtain ⟨⟨moves, path⟩, -⟩ := FramedReader.answer_path rest slot
      (ih ▸ FramedReader.new_holds messageBytes)
    rw [path.room, ih]

end Seshat.Transport
