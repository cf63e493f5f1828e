import Seshat.Lib.Framing
import Seshat.Proto.Wire
import Seshat.Transport.ByteSource
import Mathlib.Tactic.Common

/-! `FramedReader`: re-frames a byte stream into messages. Buffered bytes live
between `start` and `endPos` of one fixed allocation; what they stand for is the
`pending` stream, and every operation is specified by what it cuts off it. -/

namespace Seshat.Transport
open Lib.Framing Lib.Window Proto.Wire

structure FramedReader where
  buf : List UInt8
  start : Nat
  endPos : Nat
  start_le : start ≤ endPos
  end_le : endPos ≤ buf.length

inductive FillOutcome where
  | filled
  | timeout
  | closed
  deriving DecidableEq, Repr

inductive RecvOutcome where
  | message (n : Nat)
  | timeout
  | closed
  deriving DecidableEq, Repr

inductive BatchOutcome where
  | messages (n : Nat)
  | timeout
  | closed
  deriving DecidableEq, Repr

/-- The receive buffers of a batch: message `i` goes to `buf[i * stride ..]` with
its length in `lens[i]`. -/
structure Slots where
  buf : List UInt8
  lens : List Nat
  deriving DecidableEq, Repr

/-- The messages a receiver reads back from the first `count` slots. -/
def Slots.carved (slots : Slots) (stride count : Nat) : List (List UInt8) :=
  (List.range count).map fun i => window slots.buf (i * stride) (slots.lens.getD i 0)

/-- Every length of the first `count` slots fits its slot. -/
def Slots.Bounded (slots : Slots) (stride count : Nat) : Prop :=
  ∀ i < count, slots.lens.getD i 0 ≤ stride

/-- Slots of the same shape: contents may differ, room does not. -/
def Slots.SameShape (first second : Slots) : Prop :=
  first.buf.length = second.buf.length ∧ first.lens.length = second.lens.length

/-- Message `count` copied into its slot, as `take_one` leaves it. -/
def Slots.put (slots : Slots) (stride count : Nat) (cells : List UInt8) : Slots where
  buf := overwrite slots.buf (count * stride)
    (overwrite (window slots.buf (count * stride) stride) 0 cells)
  lens := slots.lens.set count cells.length

section Put

variable {slots : Slots} {stride count : Nat} {cells : List UInt8}

private theorem slot_length (inside : count * stride + stride ≤ slots.buf.length)
    (fits : cells.length ≤ stride) :
    (overwrite (window slots.buf (count * stride) stride) 0 cells).length = stride := by
  rw [overwrite_length, window_length]
  · omega
  · rw [window_length]
    omega

theorem Slots.put_sameShape (inside : count * stride + stride ≤ slots.buf.length)
    (fits : cells.length ≤ stride) : (slots.put stride count cells).SameShape slots := by
  have size := slot_length inside fits
  exact ⟨overwrite_length (by omega), List.length_set⟩

theorem Slots.put_bounded (room : count < slots.lens.length) (fits : cells.length ≤ stride)
    (bounded : slots.Bounded stride count) :
    (slots.put stride count cells).Bounded stride (count + 1) := by
  intro i before
  rw [Slots.put, List.getD_eq_getElem?_getD, List.getElem?_set]
  by_cases last : count = i
  · rw [if_pos last, if_pos room]
    exact fits
  · rw [if_neg last, ← List.getD_eq_getElem?_getD]
    exact bounded i (by omega)

/-- Filling slot `count` appends its message and keeps the ones in front. -/
theorem Slots.put_carved (room : count < slots.lens.length)
    (inside : count * stride + stride ≤ slots.buf.length) (fits : cells.length ≤ stride)
    (bounded : slots.Bounded stride count) :
    (slots.put stride count cells).carved stride (count + 1) =
      slots.carved stride count ++ [cells] := by
  have size := slot_length inside fits
  have front : (List.range count).map (fun i => window (slots.put stride count cells).buf
      (i * stride) ((slots.put stride count cells).lens.getD i 0)) =
      slots.carved stride count := by
    apply List.map_congr_left
    intro i member
    have before := List.mem_range.mp member
    have gap : i * stride + stride ≤ count * stride := by
      rw [← Nat.succ_mul]
      exact Nat.mul_le_mul_right stride before
    have short := bounded i before
    have kept : (slots.put stride count cells).lens.getD i 0 = slots.lens.getD i 0 := by
      rw [Slots.put, List.getD_eq_getElem?_getD, List.getElem?_set_ne (by omega),
        List.getD_eq_getElem?_getD]
    rw [kept]
    exact window_overwrite_before (by omega) (by omega)
  have last : window (slots.put stride count cells).buf (count * stride)
      ((slots.put stride count cells).lens.getD count 0) = cells := by
    have len : (slots.put stride count cells).lens.getD count 0 = cells.length := by
      rw [Slots.put, List.getD_eq_getElem?_getD, List.getElem?_set_self room, Option.getD_some]
    have slot := take_window (slots.put stride count cells).buf (count * stride) stride
      cells.length
    rw [Nat.min_eq_left fits] at slot
    rw [len, ← slot]
    have whole := window_overwrite_self (show count * stride +
      (overwrite (window slots.buf (count * stride) stride) 0 cells).length ≤
        slots.buf.length by omega)
    rw [size] at whole
    rw [Slots.put, whole, overwrite_zero, List.take_left']
    rfl
  rw [Slots.carved, List.range_succ, List.map_append, front, List.map_singleton, last]

end Put

namespace FramedReader

def new (messageBytes : UInt32) : FramedReader where
  buf := List.replicate (max (messageBytes.toNat + headerLen) (64 * 1024) * 2) 0
  start := 0
  endPos := 0
  start_le := le_refl 0
  end_le := Nat.zero_le _

/-- `start += count`. -/
def advance (r : FramedReader) (count : Nat) (inside : r.start + count ≤ r.endPos) :
    FramedReader :=
  { r with start := r.start + count, start_le := inside }

def takeOne (r : FramedReader) (out : List UInt8) : Option Nat × List UInt8 × FramedReader :=
  if short : r.endPos - r.start < headerLen then (none, out, r)
  else
    have inside : r.start + 1 ≤ r.endPos := by unfold headerLen at short; omega
    match WireHeader.decode (window r.buf r.start (r.endPos - r.start)) with
    | .error _ => takeOne (r.advance 1 inside) out
    | .ok hdr =>
        let total := headerLen + hdr.payloadLen.toNat
        if total > r.buf.length then takeOne (r.advance 1 inside) out
        else if waiting : r.endPos - r.start < total then (none, out, r)
        else
          let n := min total out.length
          (some n, overwrite out 0 (window r.buf r.start n),
            r.advance total (by have := r.start_le; omega))
termination_by r.endPos - r.start
decreasing_by all_goals simp only [advance]; omega

/-- The carving loop of `take_messages`, from slot `count` on. -/
def takeFrom (stride cap count : Nat) (r : FramedReader) (slots : Slots) :
    Nat × Slots × FramedReader :=
  if count < cap then
    match r.takeOne (window slots.buf (count * stride) stride) with
    | (some n, slot, r) =>
        takeFrom stride cap (count + 1) r
          { buf := overwrite slots.buf (count * stride) slot, lens := slots.lens.set count n }
    | (none, slot, r) =>
        (count, { slots with buf := overwrite slots.buf (count * stride) slot }, r)
  else (count, slots, r)
termination_by cap - count

def takeMessages (r : FramedReader) (slots : Slots) (stride max : Nat) :
    Nat × Slots × FramedReader :=
  if stride = 0 then (0, slots, r)
  else
    let cap := min (min max slots.lens.length) (slots.buf.length / stride)
    takeFrom stride cap 0 r slots

/-- The head of `fill_once`: reset an empty buffer, compact an exhausted one. -/
def makeRoom (r : FramedReader) : FramedReader :=
  if r.start = r.endPos then
    { buf := r.buf, start := 0, endPos := 0, start_le := le_refl 0, end_le := Nat.zero_le _ }
  else if r.endPos = r.buf.length then
    { buf := overwrite r.buf 0 (window r.buf r.start (r.endPos - r.start))
      start := 0
      endPos := r.endPos - r.start
      start_le := Nat.zero_le _
      end_le := by
        rw [overwrite_length]
        · have := r.end_le
          omega
        · rw [window_length]
          omega }
  else r

/-- The bytes of one read, copied behind `end`. -/
def append (r : FramedReader) (got : { bytes : List UInt8 // bytes.length ≤ r.buf.length - r.endPos }) :
    FramedReader where
  buf := overwrite r.buf r.endPos got.1
  start := r.start
  endPos := r.endPos + got.1.length
  start_le := Nat.le_add_right_of_le r.start_le
  end_le := by
    have room := got.2
    have inside := r.end_le
    rw [overwrite_length (by omega)]
    omega

def fillOnce (r : FramedReader) (src : ByteSource) :
    Except ErrorKind FillOutcome × FramedReader × ByteSource :=
  let r := r.makeRoom
  if r.endPos = r.buf.length then (.error .invalidData, r, src)
  else
    match src.read (r.buf.length - r.endPos) with
    | (.ok got, src) =>
        if got.1.length = 0 then (.ok .closed, r, src) else (.ok .filled, r.append got, src)
    | (.error .wouldBlock, src) => (.ok .timeout, r, src)
    | (.error .timedOut, src) => (.ok .timeout, r, src)
    | (.error .interrupted, src) => (.ok .filled, r, src)
    | (.error kind, src) => (.error kind, r, src)

theorem fillOnce_size {r next : FramedReader} {src rest : ByteSource}
    (step : r.fillOnce src = (.ok .filled, next, rest)) : rest.size < src.size := by
  simp only [fillOnce] at step
  split at step
  · simp at step
  · next room =>
    have inside := r.makeRoom.end_le
    split at step
    · next got tail found =>
      split at step
      · simp at step
      · next some_read =>
        simp only [Prod.mk.injEq] at step
        rw [← step.2.2]
        exact (ByteSource.read_ok (by omega) found).2.2.2
          (fun empty => some_read (by rw [empty]; rfl))
    · simp at step
    · simp at step
    · next tail found =>
      simp only [Prod.mk.injEq] at step
      rw [← step.2.2, ByteSource.read_error found, ByteSource.size]
      omega
    · simp at step

/-- The take→fill loop shared by `next_message` and `recv_batch`: `take` is retried
after every read until it delivers, the source idles or the stream ends. -/
def takeFill {σ ω : Type} (take : FramedReader → σ → Option Nat × σ × FramedReader)
    (delivers : Nat → ω) (timeout closed : ω) (r : FramedReader) (out : σ) (src : ByteSource) :
    Except ErrorKind ω × σ × FramedReader × ByteSource :=
  match take r out with
  | (some n, out, r) => (.ok (delivers n), out, r, src)
  | (none, out, r) =>
      match _filled : r.fillOnce src with
      | (.ok .filled, r, src) => takeFill take delivers timeout closed r out src
      | (.ok .timeout, r, src) => (.ok timeout, out, r, src)
      | (.ok .closed, r, src) => (.ok closed, out, r, src)
      | (.error kind, r, src) => (.error kind, out, r, src)
termination_by src.size
decreasing_by exact fillOnce_size (by assumption)

def nextMessage (r : FramedReader) (out : List UInt8) (src : ByteSource) :
    Except ErrorKind RecvOutcome × List UInt8 × FramedReader × ByteSource :=
  takeFill takeOne RecvOutcome.message .timeout .closed r out src

/-- `take_messages` as the loop of `recv_batch` reads it: no message is a miss. -/
def batchTake (stride max : Nat) (r : FramedReader) (slots : Slots) :
    Option Nat × Slots × FramedReader :=
  match r.takeMessages slots stride max with
  | (0, slots, r) => (none, slots, r)
  | (n + 1, slots, r) => (some (n + 1), slots, r)

/-- `TcpSource::recv_batch`. -/
def recvBatch (r : FramedReader) (slots : Slots) (stride max : Nat) (src : ByteSource) :
    Except ErrorKind BatchOutcome × Slots × FramedReader × ByteSource :=
  if max = 0 ∨ stride = 0 ∨ slots.buf.length < stride ∨ slots.lens = [] then
    (.ok .timeout, slots, r, src)
  else takeFill (batchTake stride max) BatchOutcome.messages .timeout .closed r slots src

/-! What the buffer stands for. -/

/-- The unconsumed bytes of the buffer. -/
def pending (r : FramedReader) : List UInt8 := window r.buf r.start (r.endPos - r.start)

@[simp] theorem pending_length (r : FramedReader) :
    r.pending.length = r.endPos - r.start := by
  have := r.end_le
  rw [pending, window_length]
  omega

@[simp] theorem advance_buf (r : FramedReader) (count : Nat)
    (inside : r.start + count ≤ r.endPos) : (r.advance count inside).buf = r.buf := rfl

theorem advance_pending (r : FramedReader) (count : Nat)
    (inside : r.start + count ≤ r.endPos) :
    (r.advance count inside).pending = r.pending.drop count := by
  show window r.buf (r.start + count) (r.endPos - (r.start + count)) = _
  rw [pending, drop_window, Nat.sub_sub]

@[simp] theorem makeRoom_length (r : FramedReader) :
    r.makeRoom.buf.length = r.buf.length := by
  unfold makeRoom
  split
  · rfl
  split
  · rw [overwrite_length]
    have := r.end_le
    rw [window_length]
    omega
  · rfl

theorem makeRoom_pending (r : FramedReader) : r.makeRoom.pending = r.pending := by
  have low := r.start_le
  have high := r.end_le
  unfold makeRoom
  split
  · next empty => simp [pending, empty]
  split
  · have size : (window r.buf r.start (r.endPos - r.start)).length = r.endPos - r.start := by
      rw [window_length]
      omega
    have copied : window (overwrite r.buf 0 (window r.buf r.start (r.endPos - r.start))) 0
        (window r.buf r.start (r.endPos - r.start)).length = _ :=
      window_overwrite_self (by omega)
    rw [size] at copied
    rw [pending, pending, Nat.sub_zero, copied]
  · rfl

/-- The free tail is exhausted only by a pending stream that fills the buffer. -/
theorem makeRoom_room (r : FramedReader) (waits : r.pending.length < r.buf.length) :
    r.makeRoom.endPos < r.makeRoom.buf.length := by
  have low := r.start_le
  have high := r.end_le
  rw [pending_length] at waits
  rw [makeRoom_length]
  unfold makeRoom
  split
  · show 0 < r.buf.length
    omega
  split
  · show r.endPos - r.start < r.buf.length
    omega
  · next open_tail => exact lt_of_le_of_ne high open_tail

theorem append_length (r : FramedReader)
    (got : { bytes : List UInt8 // bytes.length ≤ r.buf.length - r.endPos }) :
    (r.append got).buf.length = r.buf.length := by
  have := r.end_le
  have := got.2
  exact overwrite_length (by omega)

theorem append_pending (r : FramedReader)
    (got : { bytes : List UInt8 // bytes.length ≤ r.buf.length - r.endPos }) :
    (r.append got).pending = r.pending ++ got.1 := by
  have low := r.start_le
  have high := r.end_le
  have room := got.2
  have split_at : r.endPos + got.1.length - r.start = (r.endPos - r.start) + got.1.length := by
    omega
  have meets : r.start + (r.endPos - r.start) = r.endPos := by omega
  simp only [pending, append, split_at, window_add, meets]
  rw [window_overwrite_before (by omega) (by omega), window_overwrite_self (by omega)]

/-! The format the reader cuts: a decodable header whose total fits the buffer. -/

def announcedTotal (cap : Nat) (front : List UInt8) : Option Nat :=
  match WireHeader.decode front with
  | .error _ => none
  | .ok hdr => if hdr.total > cap then none else some hdr.total

def wireFormat (cap : Nat) : Format UInt8 where
  headerLen := headerLen
  announced := announcedTotal cap
  headerLen_pos := by decide
  announced_append front more long := by rw [announcedTotal, decode_append more long]; rfl
  announced_ge front total header := by
    rw [announcedTotal] at header
    split at header
    · simp at header
    · next hdr decoded =>
      split at header
      · simp at header
      · rw [Option.some.injEq] at header
        rw [← header]
        exact Nat.le_add_right _ _

theorem announced_le {cap : Nat} {front : List UInt8} {total : Nat}
    (header : (wireFormat cap).announced front = some total) : total ≤ cap := by
  simp only [wireFormat, announcedTotal] at header
  split at header
  · simp at header
  · split at header
    · simp at header
    · rw [Option.some.injEq] at header
      omega

theorem wellFormed_isFrame {cap : Nat} {msg : List UInt8} (wellFormed : WellFormed msg)
    (fits : msg.length ≤ cap) : IsFrame (wireFormat cap) msg := by
  obtain ⟨hdr, decoded, size⟩ := wellFormed
  rw [IsFrame, size]
  rw [size] at fits
  simp only [wireFormat, announcedTotal, decoded, if_neg (Nat.not_lt.mpr fits)]

theorem new_holds (messageBytes : UInt32) : headerLen ≤ (new messageBytes).buf.length := by
  simp only [new, List.length_replicate, headerLen]
  omega

@[simp] theorem new_pending (messageBytes : UInt32) : (new messageBytes).pending = [] := rfl

/-- A stuck pending stream leaves room in a buffer that holds a header. -/
theorem stuck_room {cap : Nat} {stream : List UInt8} (holds : headerLen ≤ cap)
    (stuck : Stuck (wireFormat cap) stream) : stream.length < cap := by
  rcases stuck with short | ⟨total, long, header, waiting⟩
  · exact Nat.lt_of_lt_of_le short holds
  · exact Nat.lt_of_lt_of_le waiting (announced_le header)

/-- What `take_one` may do: one pull of the pending stream, the frame it finds copied
as far as the slot reaches. -/
inductive Taken (r : FramedReader) (out : List UInt8) :
    Option Nat × List UInt8 × FramedReader → Prop
  | waits (next : FramedReader) (sameRoom : next.buf.length = r.buf.length)
      (waits : pull (wireFormat r.buf.length) r.pending = (none, next.pending)) :
      Taken r out (none, out, next)
  | found (next : FramedReader) (frame : List UInt8) (sameRoom : next.buf.length = r.buf.length)
      (found : pull (wireFormat r.buf.length) r.pending = (some frame, next.pending)) :
      Taken r out (some (min frame.length out.length), overwrite out 0 (frame.take out.length), next)

/-- Dropping an undecodable first byte changes nothing a take finds. -/
theorem Taken.skip {r : FramedReader} {out : List UInt8}
    {result : Option Nat × List UInt8 × FramedReader} (inside : r.start + 1 ≤ r.endPos)
    (long : headerLen ≤ r.pending.length)
    (garbage : (wireFormat r.buf.length).announced r.pending = none)
    (later : Taken (r.advance 1 inside) out result) : Taken r out result := by
  have dropped := advance_pending r 1 inside
  cases pending : r.pending with
  | nil =>
    have := pending_length r
    rw [pending, List.length_nil] at this
    omega
  | cons cell rest =>
    rw [pending] at dropped long garbage
    have same := pull_garbage (wireFormat r.buf.length) long garbage
    rw [List.drop_one, List.tail_cons] at dropped
    cases later with
    | waits next sameRoom waits =>
      refine .waits next sameRoom ?_
      rw [advance_buf, dropped] at waits
      rw [pending, same, waits]
    | found next frame sameRoom found =>
      refine .found next frame sameRoom ?_
      rw [advance_buf, dropped] at found
      rw [pending, same, found]

theorem takeOne_taken (r : FramedReader) (out : List UInt8) : Taken r out (r.takeOne out) := by
  fun_induction takeOne r out with
  | case1 r short =>
    refine .waits r rfl (pull_short _ ?_)
    rw [pending_length]
    exact short
  | case2 r short inside error failed ih =>
    refine ih.skip inside (by rw [pending_length]; omega) ?_
    simp only [wireFormat, announcedTotal, pending, failed]
  | case3 r short inside hdr decoded total big ih =>
    refine ih.skip inside (by rw [pending_length]; omega) ?_
    have big : hdr.total > r.buf.length := big
    simp only [wireFormat, announcedTotal, pending, decoded, if_pos big]
  | case4 r short inside hdr decoded total fits waiting =>
    have fits : ¬hdr.total > r.buf.length := fits
    refine .waits r rfl (pull_waiting _ (by rw [pending_length]; exact Nat.not_lt.mp short) ?_
      (by rw [pending_length]; exact waiting))
    simp only [wireFormat, announcedTotal, pending, decoded, if_neg fits]
    rfl
  | case5 r short inside hdr decoded total fits complete n =>
    have fits : ¬hdr.total > r.buf.length := fits
    have complete := Nat.not_lt.mp complete
    have header : (wireFormat r.buf.length).announced r.pending = some total := by
      simp only [wireFormat, announcedTotal, pending, decoded, if_neg fits]
      rfl
    have cut := pull_complete _ (by rw [pending_length]; exact Nat.not_lt.mp short) header
      (by rw [pending_length]; exact complete)
    have inside : r.start + total ≤ r.endPos := by
      have := r.start_le
      omega
    have size : (r.pending.take total).length = total := by
      rw [List.length_take, pending_length]
      omega
    have copied : window r.buf r.start n = (r.pending.take total).take out.length := by
      rw [pending, take_window, take_window]
      congr 1
      omega
    have cut : pull (wireFormat r.buf.length) r.pending =
        (some (r.pending.take total), (r.advance total inside).pending) := by
      rw [cut, advance_pending]
    have taken : Taken r out _ := .found (r.advance total inside) _ rfl cut
    rw [size] at taken
    rw [copied]
    exact taken

/-- What carving does from slot `count` on: `list` are the frames cut off, each cut
again to its slot. -/
structure Carves (cap stride count : Nat) (r : FramedReader) (slots : Slots)
    (list : List (List UInt8)) (result : Nat × Slots × FramedReader) : Prop where
  count_eq : result.1 = count + list.length
  sameRoom : result.2.2.buf.length = r.buf.length
  sameShape : result.2.1.SameShape slots
  carved : result.2.1.carved stride result.1 =
    slots.carved stride count ++ list.map (List.take stride)
  cuts : Cuts (wireFormat r.buf.length) r.pending list result.2.2.pending
  stuck : result.1 < cap → Stuck (wireFormat r.buf.length) result.2.2.pending

theorem Carves.nil {cap stride count : Nat} {r next : FramedReader} {slots : Slots}
    (sameRoom : next.buf.length = r.buf.length)
    (cuts : Cuts (wireFormat r.buf.length) r.pending [] next.pending)
    (stuck : count < cap → Stuck (wireFormat r.buf.length) next.pending) :
    Carves cap stride count r slots [] (count, slots, next) where
  count_eq := rfl
  sameRoom := sameRoom
  sameShape := ⟨rfl, rfl⟩
  carved := by rw [List.map_nil, List.append_nil]
  cuts := cuts
  stuck := stuck

/-- A frame put into slot `count`, and what is carved behind it. -/
theorem Carves.cons {cap stride count : Nat} {r next : FramedReader} {slots : Slots}
    {frame : List UInt8} {list : List (List UInt8)} {result : Nat × Slots × FramedReader}
    (room : count < slots.lens.length) (inside : count * stride + stride ≤ slots.buf.length)
    (bounded : slots.Bounded stride count) (sameRoom : next.buf.length = r.buf.length)
    (found : pull (wireFormat r.buf.length) r.pending = (some frame, next.pending))
    (later : Carves cap stride (count + 1) next (slots.put stride count (frame.take stride)) list
      result) : Carves cap stride count r slots (frame :: list) result where
  count_eq := by
    rw [later.count_eq, List.length_cons]
    omega
  sameRoom := later.sameRoom.trans sameRoom
  sameShape := by
    have shape := Slots.put_sameShape inside (List.length_take_le stride frame)
    exact ⟨later.sameShape.1.trans shape.1, later.sameShape.2.trans shape.2⟩
  carved := by
    rw [later.carved, Slots.put_carved room inside (List.length_take_le _ _) bounded,
      List.append_assoc]
    rfl
  cuts := by
    have rest := later.cuts
    rw [sameRoom] at rest
    exact (cuts_some _ found).trans _ rest
  stuck short := by
    have rest := later.stuck short
    rwa [sameRoom] at rest

theorem takeFrom_carves {stride cap count : Nat} (r : FramedReader) {slots : Slots}
    (lensRoom : cap ≤ slots.lens.length) (bufRoom : cap * stride ≤ slots.buf.length)
    (bounded : slots.Bounded stride count) :
    ∃ list, Carves cap stride count r slots list (takeFrom stride cap count r slots) := by
  rw [takeFrom]
  by_cases more : count < cap
  · have inside : count * stride + stride ≤ slots.buf.length := by
      rw [← Nat.succ_mul]
      exact le_trans (Nat.mul_le_mul_right stride more) bufRoom
    have size : (window slots.buf (count * stride) stride).length = stride :=
      window_length_of_le inside
    rw [if_pos more]
    have taken := takeOne_taken r (window slots.buf (count * stride) stride)
    generalize r.takeOne (window slots.buf (count * stride) stride) = result at taken ⊢
    cases taken with
    | waits next sameRoom waits =>
      simp only [overwrite_window]
      exact ⟨[], .nil sameRoom (cuts_none _ waits) fun _ => pull_none_stuck _ waits⟩
    | found next frame sameRoom found =>
      have fits : (frame.take stride).length ≤ stride := List.length_take_le _ _
      have room : count < slots.lens.length := by omega
      have shape := Slots.put_sameShape inside fits
      obtain ⟨list, later⟩ := takeFrom_carves next (shape.2 ▸ lensRoom) (shape.1 ▸ bufRoom)
        (Slots.put_bounded room fits bounded)
      have placed : slots.put stride count (frame.take stride) =
          { buf := overwrite slots.buf (count * stride)
              (overwrite (window slots.buf (count * stride) stride) 0 (frame.take stride)),
            lens := slots.lens.set count (min frame.length stride) } := by
        rw [Slots.put, List.length_take, Nat.min_comm]
      simp only [size]
      rw [← placed]
      exact ⟨frame :: list, later.cons room inside bounded sameRoom found⟩
  · rw [if_neg more]
    exact ⟨[], .nil rfl (Cuts.refl _ _) fun inside => absurd inside more⟩
termination_by cap - count

/-- `cap` of `take_messages`: the slots it may fill. -/
def slotCap (slots : Slots) (stride max : Nat) : Nat :=
  min (min max slots.lens.length) (slots.buf.length / stride)

theorem takeMessages_carves (r : FramedReader) (slots : Slots) {stride : Nat} (max : Nat)
    (positive : 0 < stride) :
    ∃ list, Carves (slotCap slots stride max) stride 0 r slots list
      (r.takeMessages slots stride max) := by
  rw [takeMessages, if_neg (Nat.ne_of_gt positive)]
  refine takeFrom_carves r ?_ ?_ fun i before => absurd before (Nat.not_lt_zero i)
  · exact (Nat.min_le_left _ _).trans (Nat.min_le_right _ _)
  · exact le_trans (Nat.mul_le_mul_right stride (Nat.min_le_right _ _))
      (Nat.div_mul_le_self _ _)

end FramedReader

end Seshat.Transport
