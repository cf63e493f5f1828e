import Seshat.Transport.FramedReader
import Mathlib.Tactic.Common

/-! Runs of a framed reader over a byte source: any mixture of single and batched
receive calls delivers the frames of the concatenated bytes, however they were cut
into reads. -/

namespace Seshat.Transport
open Lib.Framing Lib.Window Proto.Wire

/-- Slots that hold at least one message of `stride` bytes. -/
def Slots.Usable (slots : Slots) (stride max : Nat) : Prop :=
  0 < max ∧ 0 < stride ∧ stride ≤ slots.buf.length ∧ 0 < slots.lens.length

theorem Slots.Usable.congr {first second : Slots} {stride max : Nat}
    (same : first.SameShape second) (usable : second.Usable stride max) :
    first.Usable stride max := by
  unfold Slots.Usable
  rw [same.1, same.2]
  exact usable

/-- The guard in front of `recv_batch` lets usable slots pass. -/
theorem Slots.Usable.open_slots {slots : Slots} {stride max : Nat}
    (usable : slots.Usable stride max) :
    ¬(max = 0 ∨ stride = 0 ∨ slots.buf.length < stride ∨ slots.lens = []) := by
  obtain ⟨someMax, positive, room, someLens⟩ := usable
  rw [← List.length_eq_zero_iff]
  omega

namespace FramedReader

theorem slotCap_pos {slots : Slots} {stride max : Nat} (usable : slots.Usable stride max) :
    0 < slotCap slots stride max := by
  obtain ⟨someMax, positive, room, someLens⟩ := usable
  have fits := Nat.div_pos room positive
  unfold slotCap
  omega

/-- The frames a reader and its source still hold. -/
def remaining (r : FramedReader) (src : ByteSource) : List (List UInt8) :=
  frames (wireFormat r.buf.length) (r.pending ++ src.bytes)

/-- What `fill_once` may do to a reader whose pending bytes are stuck. -/
inductive Filled (r : FramedReader) (src : ByteSource) :
    Except ErrorKind FillOutcome × FramedReader × ByteSource → Prop
  | filled (next : FramedReader) (rest : ByteSource) (sameRoom : next.buf.length = r.buf.length)
      (joined : next.pending ++ rest.bytes = r.pending ++ src.bytes)
      (pauses : rest.pauses = src.pauses) : Filled r src (.ok .filled, next, rest)
  | idle (next : FramedReader) (rest : ByteSource) (sameRoom : next.buf.length = r.buf.length)
      (joined : next.pending ++ rest.bytes = r.pending ++ src.bytes)
      (pauses : rest.pauses + 1 = src.pauses) : Filled r src (.ok .timeout, next, rest)
  | ended (next : FramedReader) (sameRoom : next.buf.length = r.buf.length)
      (joined : next.pending = r.pending) (empty : src = []) : Filled r src (.ok .closed, next, [])
  | failed (next : FramedReader) (rest : ByteSource) (kind : ErrorKind)
      (event : src = .fails kind :: rest) (fatal : kind = .invalidData ∨ kind = .other) :
      Filled r src (.error kind, next, rest)

theorem fillOnce_filled (r : FramedReader) (src : ByteSource)
    (room : r.pending.length < r.buf.length) : Filled r src (r.fillOnce src) := by
  have open_tail := makeRoom_room r room
  have kept := makeRoom_pending r
  have size := makeRoom_length r
  have positive : 0 < r.makeRoom.buf.length - r.makeRoom.endPos := by omega
  simp only [fillOnce, if_neg (Nat.ne_of_lt open_tail)]
  cases found : src.read (r.makeRoom.buf.length - r.makeRoom.endPos) with
  | mk got rest =>
    cases got with
    | ok got =>
      obtain ⟨bytes, pauses, ended, -⟩ := ByteSource.read_ok positive found
      by_cases zero : got.1.length = 0
      · obtain ⟨rfl, rfl⟩ := ended (List.eq_nil_of_length_eq_zero zero)
        simp only [if_pos zero]
        exact .ended _ size kept rfl
      · simp only [if_neg zero]
        refine .filled _ _ ((append_length _ got).trans size) ?_ pauses
        rw [append_pending, List.append_assoc, bytes, kept]
    | error kind =>
      have event := ByteSource.read_error found
      subst event
      cases kind with
      | wouldBlock => exact .idle _ _ size (by rw [kept]; rfl) rfl
      | timedOut => exact .idle _ _ size (by rw [kept]; rfl) rfl
      | interrupted => exact .filled _ _ size (by rw [kept]; rfl) rfl
      | invalidData => exact .failed _ _ _ rfl (Or.inl rfl)
      | other => exact .failed _ _ _ rfl (Or.inr rfl)

theorem fillOnce_fails {r next : FramedReader} {src rest : ByteSource} {kind : ErrorKind}
    {outcome : Except ErrorKind FillOutcome} (step : r.fillOnce src = (outcome, next, rest))
    (member : .fails kind ∈ rest) : .fails kind ∈ src := by
  simp only [fillOnce] at step
  split at step
  · simp only [Prod.mk.injEq] at step
    exact step.2.2 ▸ member
  · have later {got : Except ErrorKind _} {tail : ByteSource}
        (found : src.read (r.makeRoom.buf.length - r.makeRoom.endPos) = (got, tail))
        (same : tail = rest) := ByteSource.read_fails found (same ▸ member)
    split at step
    · split at step
      all_goals
        simp only [Prod.mk.injEq] at step
        exact later (by assumption) step.2.2
    all_goals
      simp only [Prod.mk.injEq] at step
      exact later (by assumption) step.2.2

theorem fillOnce_steady {r next : FramedReader} {src rest : ByteSource}
    {outcome : Except ErrorKind FillOutcome} (steady : src.Steady)
    (step : r.fillOnce src = (outcome, next, rest)) : rest.Steady :=
  fun kind member => steady kind (fillOnce_fails step member)

/-- The step from one reader and source to the next, `list` being the frames delivered. -/
structure Progress (r : FramedReader) (src : ByteSource) (list : List (List UInt8))
    (next : FramedReader) (rest : ByteSource) : Prop where
  sameRoom : next.buf.length = r.buf.length
  consumed : Consumes (wireFormat r.buf.length) (r.pending ++ src.bytes) list
    (next.pending ++ rest.bytes)
  steady : src.Steady → rest.Steady

theorem Progress.remaining {r next : FramedReader} {src rest : ByteSource}
    {list : List (List UInt8)} (progress : Progress r src list next rest) :
    r.remaining src = list ++ next.remaining rest := by
  rw [FramedReader.remaining, FramedReader.remaining, progress.consumed.frames,
    progress.sameRoom]

theorem Progress.trans {r middle next : FramedReader} {src between rest : ByteSource}
    {first second : List (List UInt8)} (left : Progress r src first middle between)
    (right : Progress middle between second next rest) :
    Progress r src (first ++ second) next rest where
  sameRoom := right.sameRoom.trans left.sameRoom
  consumed := left.consumed.trans _ (left.sameRoom ▸ right.consumed)
  steady steady := right.steady (left.steady steady)

theorem Progress.of_cuts {r next : FramedReader} {list : List (List UInt8)} (src : ByteSource)
    (sameRoom : next.buf.length = r.buf.length)
    (cuts : Cuts (wireFormat r.buf.length) r.pending list next.pending) :
    Progress r src list next src where
  sameRoom := sameRoom
  consumed := cuts src.bytes
  steady := id

theorem Progress.of_joined {r next : FramedReader} {src rest : ByteSource}
    (sameRoom : next.buf.length = r.buf.length)
    (joined : next.pending ++ rest.bytes = r.pending ++ src.bytes)
    (steady : src.Steady → rest.Steady) : Progress r src [] next rest where
  sameRoom := sameRoom
  consumed := joined ▸ .refl _ _
  steady := steady

/-- What a take function must do: `view` reads the messages of a delivery back, each
frame shortened by `cut`. -/
structure TakeSpec {σ : Type} (take : FramedReader → σ → Option Nat × σ × FramedReader)
    (good : σ → Prop) (view : σ → Nat → List (List UInt8)) (cut : List UInt8 → List UInt8) :
    Prop where
  took : ∀ {r next out given n}, good out → take r out = (some n, given, next) →
    good given ∧ next.buf.length = r.buf.length ∧ ∃ list, list ≠ [] ∧
      view given n = list.map cut ∧ Cuts (wireFormat r.buf.length) r.pending list next.pending
  waits : ∀ {r next out given}, good out → take r out = (none, given, next) →
    good given ∧ next.buf.length = r.buf.length ∧
      Cuts (wireFormat r.buf.length) r.pending [] next.pending ∧
      Stuck (wireFormat r.buf.length) next.pending

section TakeFill

variable {σ ω : Type} {take : FramedReader → σ → Option Nat × σ × FramedReader}
  {good : σ → Prop} {view : σ → Nat → List (List UInt8)} {cut : List UInt8 → List UInt8}
  {delivers : Nat → ω} {timeout closed : ω}

/-- How a take→fill loop over a steady source may end. -/
inductive Polled (good : σ → Prop) (view : σ → Nat → List (List UInt8))
    (cut : List UInt8 → List UInt8) (delivers : Nat → ω) (timeout closed : ω)
    (r : FramedReader) (src : ByteSource) :
    Except ErrorKind ω × σ × FramedReader × ByteSource → Prop
  | delivers (n : Nat) (given : σ) (next : FramedReader) (rest : ByteSource)
      (list : List (List UInt8)) (some_found : list ≠ []) (seen : view given n = list.map cut)
      (kept : good given) (pauses : rest.pauses = src.pauses)
      (progress : Progress r src list next rest) :
      Polled good view cut delivers timeout closed r src (.ok (delivers n), given, next, rest)
  | idle (given : σ) (next : FramedReader) (rest : ByteSource) (kept : good given)
      (pauses : rest.pauses + 1 = src.pauses) (progress : Progress r src [] next rest) :
      Polled good view cut delivers timeout closed r src (.ok timeout, given, next, rest)
  | ended (given : σ) (next : FramedReader) (kept : good given) (pauses : src.pauses = 0)
      (progress : Progress r src [] next []) (nothing : next.remaining [] = []) :
      Polled good view cut delivers timeout closed r src (.ok closed, given, next, [])

theorem Polled.after {r middle : FramedReader} {src between : ByteSource}
    {result : Except ErrorKind ω × σ × FramedReader × ByteSource}
    (first : Progress r src [] middle between) (same : between.pauses = src.pauses)
    (later : Polled good view cut delivers timeout closed middle between result) :
    Polled good view cut delivers timeout closed r src result := by
  cases later with
  | delivers n given next rest list some_found seen kept pauses progress =>
    exact .delivers n given next rest list some_found seen kept (pauses.trans same)
      (first.trans progress)
  | idle given next rest kept pauses progress =>
    exact .idle given next rest kept (pauses.trans same) (first.trans progress)
  | ended given next kept pauses progress nothing =>
    exact .ended given next kept (same ▸ pauses) (first.trans progress) nothing

/-- A take that finds nothing drains the reader to a stuck front, and the next read fits. -/
theorem TakeSpec.missed (spec : TakeSpec take good view cut) {r middle : FramedReader}
    {out given : σ} (src : ByteSource) (kept : good out) (holds : headerLen ≤ r.buf.length)
    (waiting : take r out = (none, given, middle)) :
    good given ∧ headerLen ≤ middle.buf.length ∧ Progress r src [] middle src ∧
      Stuck (wireFormat middle.buf.length) middle.pending ∧
      Filled middle src (middle.fillOnce src) := by
  obtain ⟨kept, sameRoom, cuts, stuck⟩ := spec.waits kept waiting
  have room : middle.pending.length < middle.buf.length := by
    rw [sameRoom]
    exact stuck_room holds stuck
  refine ⟨kept, sameRoom.symm ▸ holds, .of_cuts src sameRoom cuts, ?_, ?_⟩
  · rw [sameRoom]
    exact stuck
  · exact fillOnce_filled middle src room

theorem takeFill_polled (spec : TakeSpec take good view cut) (r : FramedReader) (out : σ)
    (src : ByteSource) (kept : good out) (holds : headerLen ≤ r.buf.length)
    (steady : src.Steady) :
    Polled good view cut delivers timeout closed r src
      (takeFill take delivers timeout closed r out src) := by
  fun_induction takeFill take delivers timeout closed r out src with
  | case1 r out src n given next taken =>
    obtain ⟨kept, sameRoom, list, some_found, seen, cuts⟩ := spec.took kept taken
    exact .delivers n given next src list some_found seen kept rfl (.of_cuts src sameRoom cuts)
  | case2 r out src given middle waiting next rest filled ih =>
    obtain ⟨kept, holds, drained, stuck, step⟩ := spec.missed src kept holds waiting
    rw [filled] at step
    cases step with
    | filled _ _ sameSize joined pauses =>
      have grown := Progress.of_joined sameSize joined fun steady =>
        fillOnce_steady steady filled
      exact (ih kept (by omega) (grown.steady steady)).after (drained.trans grown) pauses
  | case3 r out src given middle waiting next rest timeout =>
    obtain ⟨kept, holds, drained, stuck, step⟩ := spec.missed src kept holds waiting
    rw [timeout] at step
    cases step with
    | idle _ _ sameSize joined pauses =>
      have same := Progress.of_joined sameSize joined fun steady =>
        fillOnce_steady steady timeout
      exact .idle given next rest kept pauses (drained.trans same)
  | case4 r out src given middle waiting next rest closed =>
    obtain ⟨kept, holds, drained, stuck, step⟩ := spec.missed src kept holds waiting
    rw [closed] at step
    cases step with
    | ended _ sameSize joined empty =>
      subst empty
      have same := Progress.of_joined sameSize (congrArg (· ++ ByteSource.bytes []) joined) id
      refine .ended given next kept rfl (drained.trans same) ?_
      rw [remaining, joined, sameSize, ByteSource.bytes, List.append_nil]
      exact frames_stuck _ stuck
  | case5 r out src given middle waiting kind next rest failed =>
    obtain ⟨kept, holds, drained, stuck, step⟩ := spec.missed src kept holds waiting
    rw [failed] at step
    cases step with
    | failed _ _ _ event fatal =>
      have mild := steady kind (event ▸ List.mem_cons_self)
      rcases fatal with rfl | rfl <;> simp at mild

theorem takeOne_spec (size : Nat) :
    TakeSpec takeOne (fun out => out.length = size) (fun out n => [out.take n])
      (List.take size) where
  took {r next out given n} kept taken := by
    have step := takeOne_taken r out
    rw [taken] at step
    cases step with
    | found _ frame sameRoom found =>
      have fits : (frame.take out.length).length ≤ out.length := List.length_take_le _ _
      refine ⟨?_, sameRoom, [frame], List.cons_ne_nil _ _, ?_, cuts_some _ found⟩
      · rw [overwrite_length (by omega), kept]
      · rw [overwrite_zero, Nat.min_comm, ← List.length_take, List.take_left', kept]
        · rfl
        · rfl
  waits {r next out given} kept taken := by
    have step := takeOne_taken r out
    rw [taken] at step
    cases step with
    | waits _ sameRoom waits =>
      exact ⟨kept, sameRoom, cuts_none _ waits, pull_none_stuck _ waits⟩

end TakeFill

/-- A batched take carves some frames, or reports that there was none. -/
theorem batchTake_carves (r : FramedReader) {slots : Slots} {stride max : Nat}
    (usable : slots.Usable stride max) :
    ∃ list given next,
      Carves (slotCap slots stride max) stride 0 r slots list (list.length, given, next) ∧
        batchTake stride max r slots =
          (if list = [] then none else some list.length, given, next) := by
  obtain ⟨list, carves⟩ := takeMessages_carves r slots max usable.2.1
  rw [batchTake]
  generalize r.takeMessages slots stride max = result at carves
  obtain ⟨count, given, next⟩ := result
  obtain rfl : count = list.length := carves.count_eq.trans (Nat.zero_add _)
  refine ⟨list, given, next, carves, ?_⟩
  cases list with
  | nil => rfl
  | cons frame rest => rfl

theorem batchTake_spec (stride max : Nat) :
    TakeSpec (batchTake stride max) (fun slots => slots.Usable stride max)
      (fun slots n => slots.carved stride n) (List.take stride) where
  took {r next slots given n} usable taken := by
    obtain ⟨list, filled, reader, carves, result⟩ := batchTake_carves r usable
    by_cases none : list = []
    · rw [result, if_pos none, Prod.mk.injEq] at taken
      exact absurd taken.1.symm (Option.some_ne_none _)
    · rw [result, if_neg none, Prod.mk.injEq, Prod.mk.injEq, Option.some.injEq] at taken
      obtain ⟨rfl, rfl, rfl⟩ := taken
      exact ⟨usable.congr carves.sameShape, carves.sameRoom, list, none, carves.carved, carves.cuts⟩
  waits {r next slots given} usable taken := by
    obtain ⟨list, filled, reader, carves, result⟩ := batchTake_carves r usable
    by_cases none : list = []
    · rw [result, if_pos none, Prod.mk.injEq, Prod.mk.injEq] at taken
      obtain ⟨-, rfl, rfl⟩ := taken
      subst none
      exact ⟨usable.congr carves.sameShape, carves.sameRoom, carves.cuts,
        carves.stuck (slotCap_pos usable)⟩
    · rw [result, if_neg none, Prod.mk.injEq] at taken
      exact absurd taken.1 (Option.some_ne_none _)

theorem nextMessage_polled (r : FramedReader) (out : List UInt8) (src : ByteSource)
    (holds : headerLen ≤ r.buf.length) (steady : src.Steady) :
    Polled (fun given => given.length = out.length) (fun given n => [given.take n])
      (List.take out.length) RecvOutcome.message .timeout .closed r src
      (r.nextMessage out src) :=
  takeFill_polled (takeOne_spec out.length) r out src rfl holds steady

theorem recvBatch_polled (r : FramedReader) {slots : Slots} {stride max : Nat}
    (src : ByteSource) (usable : slots.Usable stride max) (holds : headerLen ≤ r.buf.length)
    (steady : src.Steady) :
    Polled (fun given => given.Usable stride max) (fun given n => given.carved stride n)
      (List.take stride) BatchOutcome.messages .timeout .closed r src
      (r.recvBatch slots stride max src) := by
  rw [recvBatch, if_neg usable.open_slots]
  exact takeFill_polled (batchTake_spec stride max) r slots src usable holds steady

end FramedReader

/-! A run of receive calls, each with buffers of its own. -/

inductive ReadCall where
  | nextMessage (out : List UInt8)
  | takeMessages (slots : Slots) (stride max : Nat)
  | recvBatch (slots : Slots) (stride max : Nat)

namespace ReadCall

/-- The room one message gets. -/
def slotSize : ReadCall → Nat
  | nextMessage out => out.length
  | takeMessages _ stride _ => stride
  | recvBatch _ stride _ => stride

/-- At least one slot to deliver into. -/
def HasSlot : ReadCall → Prop
  | nextMessage _ => True
  | takeMessages slots stride max => slots.Usable stride max
  | recvBatch slots stride max => slots.Usable stride max

/-- Calls that read the source when no message is buffered. -/
def blocking : ReadCall → Bool
  | nextMessage _ => true
  | takeMessages _ _ _ => false
  | recvBatch _ _ _ => true

end ReadCall

inductive Reply where
  | messages (list : List (List UInt8))
  | timeout
  | closed
  | failed (kind : ErrorKind)
  deriving DecidableEq

def Reply.delivered : Reply → List (List UInt8)
  | messages list => list
  | _ => []

def ReadCall.answer (r : FramedReader) (src : ByteSource) :
    ReadCall → Reply × FramedReader × ByteSource
  | nextMessage out =>
      match r.nextMessage out src with
      | (.ok (.message n), given, r, src) => (.messages [given.take n], r, src)
      | (.ok .timeout, _, r, src) => (.timeout, r, src)
      | (.ok .closed, _, r, src) => (.closed, r, src)
      | (.error kind, _, r, src) => (.failed kind, r, src)
  | takeMessages slots stride max =>
      match r.takeMessages slots stride max with
      | (n, given, r) => (.messages (given.carved stride n), r, src)
  | recvBatch slots stride max =>
      match r.recvBatch slots stride max src with
      | (.ok (.messages n), given, r, src) => (.messages (given.carved stride n), r, src)
      | (.ok .timeout, _, r, src) => (.timeout, r, src)
      | (.ok .closed, _, r, src) => (.closed, r, src)
      | (.error kind, _, r, src) => (.failed kind, r, src)

/-- The replies to a list of calls, in order. -/
def readRun (r : FramedReader) (src : ByteSource) : List ReadCall → List Reply
  | [] => []
  | call :: rest =>
      let (reply, r, src) := call.answer r src
      reply :: readRun r src rest

def delivered (replies : List Reply) : List (List UInt8) := replies.flatMap Reply.delivered

namespace FramedReader

/-- What one call may do. -/
inductive Answered (blocking : Bool) (r : FramedReader) (src : ByteSource) :
    Reply × FramedReader × ByteSource → Prop
  | messages (list : List (List UInt8)) (next : FramedReader) (rest : ByteSource)
      (some_found : blocking = true → list ≠ []) (pauses : rest.pauses = src.pauses)
      (progress : Progress r src list next rest) :
      Answered blocking r src (.messages list, next, rest)
  | timeout (next : FramedReader) (rest : ByteSource) (pauses : rest.pauses + 1 = src.pauses)
      (progress : Progress r src [] next rest) : Answered blocking r src (.timeout, next, rest)
  | closed (next : FramedReader) (progress : Progress r src [] next [])
      (nothing : next.remaining [] = []) : Answered blocking r src (.closed, next, [])

/-- Frames that fit a slot are not shortened by it. -/
theorem map_take_fits {size : Nat} {list : List (List UInt8)}
    (fits : ∀ frame ∈ list, frame.length ≤ size) : list.map (List.take size) = list := by
  conv_rhs => rw [← List.map_id list]
  exact List.map_congr_left fun frame member => List.take_of_length_le (fits frame member)

theorem Progress.fits {r next : FramedReader} {src rest : ByteSource} {size : Nat}
    {list : List (List UInt8)} (progress : Progress r src list next rest)
    (fits : ∀ frame ∈ r.remaining src, frame.length ≤ size) :
    (∀ frame ∈ list, frame.length ≤ size) ∧
      ∀ frame ∈ next.remaining rest, frame.length ≤ size := by
  rw [progress.remaining] at fits
  exact ⟨fun frame member => fits frame (List.mem_append_left _ member),
    fun frame member => fits frame (List.mem_append_right _ member)⟩

theorem answer_answered {call : ReadCall} {r : FramedReader} {src : ByteSource}
    (slot : call.HasSlot) (fits : ∀ frame ∈ r.remaining src, frame.length ≤ call.slotSize)
    (holds : headerLen ≤ r.buf.length) (steady : src.Steady) :
    Answered call.blocking r src (call.answer r src) := by
  cases call with
  | nextMessage out =>
    simp only [ReadCall.slotSize] at fits
    have polled := nextMessage_polled r out src holds steady
    rw [ReadCall.answer]
    generalize r.nextMessage out src = result at polled
    cases polled with
    | delivers n given next rest list some_found seen kept pauses progress =>
      rw [map_take_fits (progress.fits fits).1] at seen
      simp only [seen]
      exact .messages list next rest (fun _ => some_found) pauses progress
    | idle given next rest kept pauses progress => exact .timeout next rest pauses progress
    | ended given next kept pauses progress nothing => exact .closed next progress nothing
  | takeMessages slots stride max =>
    simp only [ReadCall.slotSize] at fits
    obtain ⟨list, carves⟩ := takeMessages_carves r slots max slot.2.1
    rw [ReadCall.answer]
    generalize r.takeMessages slots stride max = result at carves
    obtain ⟨n, given, next⟩ := result
    have progress := Progress.of_cuts src carves.sameRoom carves.cuts
    have seen : given.carved stride n = list := by
      rw [carves.carved, map_take_fits (progress.fits fits).1]
      rfl
    simp only [seen]
    exact .messages list next src (by simp [ReadCall.blocking]) rfl progress
  | recvBatch slots stride max =>
    simp only [ReadCall.slotSize] at fits
    have polled := recvBatch_polled r src slot holds steady
    rw [ReadCall.answer]
    generalize r.recvBatch slots stride max src = result at polled
    cases polled with
    | delivers n given next rest list some_found seen kept pauses progress =>
      rw [map_take_fits (progress.fits fits).1] at seen
      simp only [seen]
      exact .messages list next rest (fun _ => some_found) pauses progress
    | idle given next rest kept pauses progress => exact .timeout next rest pauses progress
    | ended given next kept pauses progress nothing => exact .closed next progress nothing

/-- A run whose every reply is one a single call may give in the state reached. -/
inductive AnsweredRun : FramedReader → ByteSource → List ReadCall → List Reply → Prop
  | nil (r : FramedReader) (src : ByteSource) : AnsweredRun r src [] []
  | cons {r next : FramedReader} {src tail : ByteSource} {call : ReadCall} {reply : Reply}
      {rest : List ReadCall} {replies : List Reply}
      (step : Answered call.blocking r src (reply, next, tail))
      (later : AnsweredRun next tail rest replies) :
      AnsweredRun r src (call :: rest) (reply :: replies)

theorem Answered.progress {blocking : Bool} {r next : FramedReader} {src tail : ByteSource}
    {reply : Reply} (step : Answered blocking r src (reply, next, tail)) :
    Progress r src reply.delivered next tail := by
  cases step with
  | messages list _ _ some_found pauses progress => exact progress
  | timeout _ _ pauses progress => exact progress
  | closed _ progress nothing => exact progress

theorem readRun_answered {calls : List ReadCall} {r : FramedReader} {src : ByteSource}
    (slots : ∀ call ∈ calls, call.HasSlot)
    (fits : ∀ call ∈ calls, ∀ frame ∈ r.remaining src, frame.length ≤ call.slotSize)
    (holds : headerLen ≤ r.buf.length) (steady : src.Steady) :
    AnsweredRun r src calls (readRun r src calls) := by
  induction calls generalizing r src with
  | nil => exact .nil r src
  | cons call rest ih =>
    have step := answer_answered (slots call List.mem_cons_self) (fits call List.mem_cons_self)
      holds steady
    rw [readRun]
    generalize call.answer r src = result at step
    obtain ⟨reply, next, tail⟩ := result
    have progress := step.progress
    refine .cons step (ih ?_ ?_ (by rw [progress.sameRoom]; exact holds)
      (progress.steady steady))
    · exact fun other member => slots other (List.mem_cons_of_mem _ member)
    · exact fun other member =>
        (progress.fits (fits other (List.mem_cons_of_mem _ member))).2

theorem AnsweredRun.no_failure {r : FramedReader} {src : ByteSource} {calls : List ReadCall}
    {replies : List Reply} (run : AnsweredRun r src calls replies) (kind : ErrorKind) :
    .failed kind ∉ replies := by
  induction run with
  | nil => exact List.not_mem_nil
  | cons step later ih =>
    rw [List.mem_cons, not_or]
    refine ⟨?_, ih⟩
    cases step <;> exact Reply.noConfusion

/-- Whatever has been delivered is the front of what the run started with. -/
theorem AnsweredRun.front {r : FramedReader} {src : ByteSource} {calls : List ReadCall}
    {replies : List Reply} (run : AnsweredRun r src calls replies) :
    delivered replies <+: r.remaining src := by
  induction run with
  | nil => exact List.nil_prefix
  | cons step later ih =>
    rw [delivered, List.flatMap_cons, step.progress.remaining]
    exact (List.prefix_append_right_inj _).mpr ih

/-- `Closed` is only replied behind the last message. -/
theorem AnsweredRun.closed_complete {r : FramedReader} {src : ByteSource}
    {calls : List ReadCall} {replies before after : List Reply}
    (run : AnsweredRun r src calls replies) (ends : replies = before ++ .closed :: after) :
    delivered before = r.remaining src := by
  induction run generalizing before with
  | nil => simp at ends
  | @cons r next src tail call reply rest replies step later ih =>
    cases before with
    | nil =>
      rw [List.nil_append, List.cons.injEq] at ends
      rw [ends.1] at step
      cases step with
      | closed _ progress nothing => rw [progress.remaining, nothing]; rfl
    | cons first before =>
      rw [List.cons_append, List.cons.injEq] at ends
      rw [delivered, List.flatMap_cons, ← ends.1, step.progress.remaining]
      exact congrArg _ (ih ends.2)

/-- Nothing is delivered behind `Closed`. -/
theorem AnsweredRun.closed_last {r : FramedReader} {src : ByteSource} {calls : List ReadCall}
    {replies before after : List Reply} (run : AnsweredRun r src calls replies)
    (ends : replies = before ++ .closed :: after) :
    delivered before = r.remaining src ∧ delivered after = [] := by
  have complete := run.closed_complete ends
  have tail := run.front.length_le
  rw [ends, delivered, List.flatMap_append, List.flatMap_cons, List.length_append,
    List.length_append, ← delivered, complete] at tail
  exact ⟨complete, List.eq_nil_of_length_eq_zero (by rw [delivered]; omega)⟩

/-- What a run still has to report: its messages and its idle reads. -/
def owed (r : FramedReader) (src : ByteSource) : Nat := (r.remaining src).length + src.pauses

/-- Every blocking call uses up a message or an idle read, until `Closed`. -/
theorem Answered.owed_le {blocking : Bool} {r next : FramedReader} {src tail : ByteSource}
    {reply : Reply} (step : Answered blocking r src (reply, next, tail))
    (open_run : reply ≠ .closed) :
    next.owed tail + (if blocking = true then 1 else 0) ≤ r.owed src := by
  have left := congrArg List.length step.progress.remaining
  rw [List.length_append] at left
  unfold owed
  cases step with
  | messages list _ _ some_found pauses progress =>
    simp only [Reply.delivered] at left
    split
    · next blocks =>
      have := List.length_pos_iff.mpr (some_found blocks)
      omega
    · omega
  | timeout _ _ pauses progress =>
    simp only [Reply.delivered, List.length_nil] at left
    split <;> omega
  | closed _ progress nothing => exact absurd rfl open_run

theorem AnsweredRun.closes {r : FramedReader} {src : ByteSource} {calls : List ReadCall}
    {replies : List Reply} (run : AnsweredRun r src calls replies)
    (enough : r.owed src < calls.countP ReadCall.blocking) : .closed ∈ replies := by
  induction run with
  | nil => simp at enough
  | @cons r next src tail call reply rest replies step later ih =>
    by_cases ended : reply = .closed
    · exact ended ▸ List.mem_cons_self
    · have used := step.owed_le ended
      rw [List.countP_cons] at enough
      exact List.mem_cons_of_mem _ (ih (by omega))

/-- As many blocking calls as there are messages and idle reads deliver everything. -/
theorem AnsweredRun.delivers_all {r : FramedReader} {src : ByteSource} {calls : List ReadCall}
    {replies : List Reply} (run : AnsweredRun r src calls replies)
    (enough : r.owed src ≤ calls.countP ReadCall.blocking) :
    delivered replies = r.remaining src := by
  induction run with
  | nil r src =>
    rw [List.countP_nil, owed] at enough
    exact (List.eq_nil_of_length_eq_zero (by omega)).symm
  | @cons r next src tail call reply rest replies step later ih =>
    rw [delivered, List.flatMap_cons, step.progress.remaining]
    refine congrArg _ ?_
    by_cases ended : reply = .closed
    · subst ended
      cases step with
      | closed _ progress nothing =>
        have front := later.front
        rw [nothing] at front ⊢
        exact List.prefix_nil.mp front
    · have used := step.owed_le ended
      rw [List.countP_cons] at enough
      exact ih (by omega)

/-- A fresh reader in front of a source holds exactly the messages the source carries. -/
theorem new_remaining (messageBytes : UInt32) {msgs : List (List UInt8)} {src : ByteSource}
    (wellFormed : ∀ msg ∈ msgs, WellFormed msg)
    (fits : ∀ msg ∈ msgs, msg.length ≤ (new messageBytes).buf.length)
    (carried : src.bytes = msgs.flatten) : (new messageBytes).remaining src = msgs := by
  have whole : ∀ msg ∈ msgs, IsFrame (wireFormat (new messageBytes).buf.length) msg :=
    fun msg member => wellFormed_isFrame (wellFormed msg member) (fits msg member)
  have cut := frames_flatten _ whole []
  rw [List.append_nil, frames_nil, List.append_nil] at cut
  rw [remaining, new_pending, carried]
  exact cut

end FramedReader

/-- However the concatenated messages are cut into reads, and however single and batched
calls are mixed, the calls deliver exactly the messages, and then `Closed`. -/
theorem readRun_lossless (messageBytes : UInt32) (msgs : List (List UInt8)) (src : ByteSource)
    (calls : List ReadCall) (wellFormed : ∀ msg ∈ msgs, WellFormed msg)
    (fits : ∀ msg ∈ msgs, msg.length ≤ (FramedReader.new messageBytes).buf.length)
    (carried : src.bytes = msgs.flatten) (steady : src.Steady)
    (slots : ∀ call ∈ calls, call.HasSlot)
    (room : ∀ call ∈ calls, ∀ msg ∈ msgs, msg.length ≤ call.slotSize) :
    let replies := readRun (.new messageBytes) src calls
    delivered replies <+: msgs ∧ (∀ kind, .failed kind ∉ replies) ∧
      (∀ before after, replies = before ++ .closed :: after →
        delivered before = msgs ∧ delivered after = []) ∧
      (msgs.length + src.pauses < calls.countP ReadCall.blocking → .closed ∈ replies) := by
  intro replies
  have holds := FramedReader.new_remaining messageBytes wellFormed fits carried
  have run : FramedReader.AnsweredRun (.new messageBytes) src calls replies :=
    FramedReader.readRun_answered slots (by rw [holds]; exact room)
      (FramedReader.new_holds messageBytes) steady
  refine ⟨holds ▸ run.front, run.no_failure, fun before after ends => ?_, fun enough => ?_⟩
  · rw [← holds]
    exact run.closed_last ends
  · exact run.closes (by rw [FramedReader.owed, holds]; exact enough)

/-- One 27-byte message cut inside its header, with an idle read in the gap. -/
theorem readRun_lossless_split :
    let msg := message { seq := 7, tsNs := 5, payloadLen := 3 }
    let src : ByteSource :=
      [.chunk (msg.take 10) (by decide), .fails .wouldBlock, .chunk (msg.drop 10) (by decide)]
    let slots : Slots := { buf := List.replicate 64 0, lens := [0, 0] }
    let calls := [.nextMessage (List.replicate 32 0), .recvBatch slots 32 2,
      .recvBatch slots 32 2]
    .closed ∈ readRun (.new 27) src calls ∧ delivered (readRun (.new 27) src calls) <+: [msg] := by
  intro msg src slots calls
  have capacity : msg.length ≤ (FramedReader.new 27).buf.length := by
    rw [FramedReader.new, List.length_replicate]
    decide
  have all := readRun_lossless 27 [msg] src calls
    (by simpa using message_wellFormed _)
    (by simpa using capacity)
    (by decide)
    (by simp [src, ByteSource.Steady])
    (by simp [calls, slots, ReadCall.HasSlot, Slots.Usable])
    (by simp [calls, ReadCall.slotSize, msg, WireHeader.total, headerLen])
  exact ⟨all.2.2.2 (by decide), all.1⟩

end Seshat.Transport
