import Seshat.Lib.ClosingChannel
import Mathlib.Algebra.GroupWithZero.Nat
import Mathlib.Tactic.Common

/-! The null loopback over a shared-memory ring, which calibrates the harness: one sink
pushes, one source pops, and a flag says that the sink has closed. The two threads take
their steps in any order. The ring comes from another crate and is a parameter; what it may
answer late is left to a choice at every look. -/

namespace Seshat.Transport
open Lib.Machine Lib.ClosingChannel

abbrev Frame := List UInt8

/-- What the ring answers to a `try_push`. -/
inductive Push where
  | taken
  | full
  | refused (error : String)
  deriving DecidableEq, Repr

/-- The calls of the ring that the two handles make. A `choice` stands for what the other
handle's stores have reached this one; `acquire` is a load of the flag that sees it set. -/
structure Ring (σ : Type) where
  fresh : σ
  tryPush : σ → (choice : Nat) → Frame → Push × σ
  tryPop : σ → (choice room : Nat) → Option Frame × σ
  isEmpty : σ → (choice : Nat) → Bool × σ
  acquire : σ → σ

/-- With one producer and one consumer the ring is a queue. While every frame fits the slices
it is popped into, a pop gives the first one whole or nothing; it may give nothing and the
ring may seem empty for want of the latest index, but no more so once the flag has been seen. -/
structure Ring.Fifo {σ : Type} (ring : Ring σ) (unread : σ → List Frame) : Prop where
  fresh : unread ring.fresh = []
  push : ∀ r choice frame, unread (ring.tryPush r choice frame).2 =
    if (ring.tryPush r choice frame).1 = .taken then unread r ++ [frame] else unread r
  pop : ∀ r choice room, (∀ frame ∈ unread r, frame.length ≤ room) →
    (ring.tryPop r choice room).1.toList ++ unread (ring.tryPop r choice room).2 = unread r
  isEmpty : ∀ r choice, unread (ring.isEmpty r choice).2 = unread r
  acquire : ∀ r, unread (ring.acquire r) = unread r
  settled : ∀ r choice, (ring.isEmpty (ring.acquire r) choice).1 = true → unread r = []

inductive SinkCall where
  | msg (frame : Frame)
  | batch (msgs : List Frame)
  deriving DecidableEq, Repr

def SinkCall.frames : SinkCall → List Frame
  | .msg frame => [frame]
  | .batch msgs => msgs

inductive SinkOutcome where
  | sent
  | wouldBlock
  | count (n : Nat)
  | failed (error : String)
  deriving DecidableEq, Repr

/-- The ring is full with `i` frames of the call pushed. -/
def SinkCall.full (i : Nat) : SinkCall → SinkOutcome
  | .msg _ => .wouldBlock
  | .batch _ => .count i

/-- Every frame of the call is pushed. -/
def SinkCall.done : SinkCall → SinkOutcome
  | .msg _ => .sent
  | .batch msgs => .count msgs.length

def pushError (error : String) : String := "shm-null push: " ++ error

/-- A send that has returned, with the number of frames it has pushed. -/
structure SinkReturn where
  call : SinkCall
  pushed : Nat
  outcome : SinkOutcome
  deriving DecidableEq, Repr

def SinkReturn.frames (r : SinkReturn) : List Frame := r.call.frames.take r.pushed

/-- The number of frames the caller is told it has sent; an error tells none. -/
def SinkReturn.reported (r : SinkReturn) : Option Nat :=
  match r.outcome with
  | .sent => some 1
  | .wouldBlock => some 0
  | .count n => some n
  | .failed _ => none

/-- What the caller is told of the frames is what was pushed. -/
def SinkReturn.Honest (r : SinkReturn) : Prop := ∀ n, r.reported = some n → n = r.pushed

theorem SinkCall.full_honest {call : SinkCall} {i : Nat} {frame : Frame}
    (front : call.frames[i]? = some frame) :
    SinkReturn.Honest { call, pushed := i, outcome := call.full i } := by
  intro n told
  cases call with
  | msg only =>
    have inside := (List.getElem?_eq_some_iff.mp front).1
    rw [← Option.some.inj told]
    exact (Nat.lt_one_iff.mp inside).symm
  | batch msgs => exact (Option.some.inj told).symm

theorem SinkCall.done_honest {call : SinkCall} {pushed : Nat}
    (all : pushed = call.frames.length) :
    SinkReturn.Honest { call, pushed, outcome := call.done } := by
  intro n told
  cases call <;> exact (Option.some.inj told).symm.trans all.symm

theorem SinkReturn.failed_honest (call : SinkCall) (pushed : Nat) (error : String) :
    SinkReturn.Honest { call, pushed, outcome := .failed error } :=
  fun _ told => absurd told (by simp [SinkReturn.reported])

/-- Where the sink's thread stands: `pushing call i` is about to push frame `i`. -/
inductive SinkAt where
  | idle
  | pushing (call : SinkCall) (i : Nat)
  | closed
  deriving DecidableEq, Repr

def SinkAt.frames : SinkAt → List Frame
  | .pushing call i => call.frames.take i
  | _ => []

def SinkAt.call? : SinkAt → Option SinkCall
  | .pushing call _ => some call
  | _ => none

inductive SourceCall where
  | msg (room : Nat)
  | batch (bufLen stride max lens : Nat)
  deriving DecidableEq, Repr

/-- The slice a frame is popped into. -/
def SourceCall.room : SourceCall → Nat
  | .msg room => room
  | .batch _ stride _ _ => stride

/-- The most frames one call hands over. -/
def SourceCall.cap : SourceCall → Nat
  | .msg _ => 1
  | .batch bufLen stride max lens => min (min max (bufLen / stride)) lens

/-- A batch that has no slot to fill is told `Timeout` at once. -/
def SourceCall.unusable : SourceCall → Bool
  | .msg _ => false
  | .batch bufLen stride max lens => max = 0 ∨ stride = 0 ∨ bufLen < stride ∨ lens = 0

inductive SourceOutcome where
  | messages (frames : List Frame)
  | timeout
  | closed
  deriving DecidableEq, Repr

structure SourceReturn where
  call : SourceCall
  outcome : SourceOutcome
  deriving DecidableEq, Repr

def SourceReturn.frames (r : SourceReturn) : List Frame :=
  match r.outcome with
  | .messages frames => frames
  | _ => []

/-- Where the source's thread stands: in the loop of `pop_one`, or behind its first frame
with `got` in hand. -/
inductive SourceAt where
  | idle
  | popping (call : SourceCall)
  | loading (call : SourceCall)
  | checking (call : SourceCall)
  | timing (call : SourceCall)
  | draining (call : SourceCall) (got : List Frame)
  | closed
  deriving DecidableEq, Repr

def SourceAt.frames : SourceAt → List Frame
  | .draining _ got => got
  | _ => []

def SourceAt.call? : SourceAt → Option SourceCall
  | .popping call => some call
  | .loading call => some call
  | .checking call => some call
  | .timing call => some call
  | .draining call _ => some call
  | _ => none

/-- The ring, the flag, both threads and what their calls have returned; `history` is what has
been done to the channel between the two ends. -/
structure ShmNull (σ : Type) where
  ring : σ
  flag : Bool := false
  sink : SinkAt := .idle
  source : SourceAt := .idle
  sinkReturns : List SinkReturn := []
  sourceReturns : List SourceReturn := []
  history : List (Op Frame) := []
  deriving DecidableEq, Repr

namespace ShmNull

variable {σ : Type} (ring : Ring σ)

/-- `loopback_pair` -/
def opened : ShmNull σ where
  ring := ring.fresh

section Steps

variable (s : ShmNull σ)

/-- The frames the ring has taken, call by call: also those of a batch before a push that
failed. -/
def pushed : List Frame := s.sinkReturns.flatMap SinkReturn.frames ++ s.sink.frames

/-- The frames handed over, call by call. -/
def handed : List Frame := s.sourceReturns.flatMap SourceReturn.frames ++ s.source.frames

def sinkReturn (call : SinkCall) (pushed : Nat) (outcome : SinkOutcome) : ShmNull σ :=
  { s with sink := .idle, sinkReturns := s.sinkReturns ++ [{ call, pushed, outcome }] }

def sourceReturn (call : SourceCall) (outcome : SourceOutcome) : ShmNull σ :=
  { s with source := .idle, sourceReturns := s.sourceReturns ++ [{ call, outcome }] }

/-- `send_msg` and `send_batch` up to the first push. -/
def send (call : SinkCall) : Option (ShmNull σ) :=
  match s.sink with
  | .idle =>
      if call.frames = [] then some (s.sinkReturn call 0 call.done)
      else some { s with sink := .pushing call 0 }
  | _ => none

/-- One `try_push`, and what the call makes of its answer. -/
def push (choice : Nat) : Option (ShmNull σ) :=
  match s.sink with
  | .pushing call i =>
      call.frames[i]?.map fun frame =>
        let (answer, after) := ring.tryPush s.ring choice frame
        let s := { s with ring := after }
        match answer with
        | .taken =>
            let s := { s with history := s.history ++ [Op.send frame] }
            if i + 1 < call.frames.length then { s with sink := .pushing call (i + 1) }
            else s.sinkReturn call (i + 1) call.done
        | .full => s.sinkReturn call i (call.full i)
        | .refused error => s.sinkReturn call i (.failed (pushError error))
  | _ => none

/-- `ShmNullSink::close`, the last call on the sink. -/
def sinkClose : Option (ShmNull σ) :=
  if s.sink = .idle then
    some { s with sink := .closed, flag := true, history := s.history ++ [Op.close] }
  else none

/-- `recv_msg` and `recv_batch` up to the first look at the ring. -/
def recv (call : SourceCall) : Option (ShmNull σ) :=
  if s.source = .idle then
    if call.unusable then some (s.sourceReturn call .timeout)
    else some { s with source := .popping call }
  else none

/-- The first frames of a call are popped. -/
def got (call : SourceCall) (frames : List Frame) : ShmNull σ :=
  if frames.length < call.cap then { s with source := .draining call frames }
  else s.sourceReturn call (.messages frames)

/-- A frame is out of the ring. -/
def taken (after : σ) (frame : Frame) : ShmNull σ :=
  { s with ring := after, history := s.history ++ [Op.receive frame] }

/-- One `try_pop_into_slice`, in `pop_one` or in the drain behind it. -/
def pop (choice : Nat) : Option (ShmNull σ) :=
  match s.source with
  | .popping call =>
      match ring.tryPop s.ring choice call.room with
      | (some frame, after) => some ((s.taken after frame).got call [frame])
      | (none, after) => some { s with ring := after, source := .loading call }
  | .draining call frames =>
      match ring.tryPop s.ring choice call.room with
      | (some frame, after) => some ((s.taken after frame).got call (frames ++ [frame]))
      | (none, after) => some ({ s with ring := after }.sourceReturn call (.messages frames))
  | _ => none

/-- The load of the flag; it may miss that the flag is set. -/
def load (sees : Bool) : Option (ShmNull σ) :=
  match s.source with
  | .loading call =>
      if sees then
        if s.flag then some { s with ring := ring.acquire s.ring, source := .checking call }
        else none
      else some { s with source := .timing call }
  | _ => none

/-- `is_empty`, asked with the flag seen set. -/
def check (choice : Nat) : Option (ShmNull σ) :=
  match s.source with
  | .checking call =>
      match ring.isEmpty s.ring choice with
      | (true, after) =>
          some ({ s with ring := after, history := s.history ++ [Op.ended] }.sourceReturn
            call .closed)
      | (false, after) => some { s with ring := after, source := .timing call }
  | _ => none

/-- The deadline at the end of a turn of `pop_one`. -/
def clock (expired : Bool) : Option (ShmNull σ) :=
  match s.source with
  | .timing call =>
      if expired then some (s.sourceReturn call .timeout)
      else some { s with source := .popping call }
  | _ => none

/-- `ShmNullSource::close`, the last call on the source. -/
def sourceClose : Option (ShmNull σ) :=
  if s.source = .idle then some { s with source := .closed, flag := true } else none

end Steps

inductive Act where
  | send (call : SinkCall)
  | push (choice : Nat)
  | sinkClose
  | recv (call : SourceCall)
  | pop (choice : Nat)
  | load (sees : Bool)
  | check (choice : Nat)
  | clock (expired : Bool)
  | sourceClose
  deriving DecidableEq, Repr

/-- No frame is longer than the slices frames are popped into. -/
def Act.Fits (size : Nat) : Act → Prop
  | .send call => ∀ frame ∈ call.frames, frame.length ≤ size
  | .recv call => size ≤ call.room
  | _ => True

def step (s : ShmNull σ) : Act → Option (ShmNull σ)
  | .send call => s.send call
  | .push choice => s.push ring choice
  | .sinkClose => s.sinkClose
  | .recv call => s.recv call
  | .pop choice => s.pop ring choice
  | .load sees => s.load ring sees
  | .check choice => s.check ring choice
  | .clock expired => s.clock expired
  | .sourceClose => s.sourceClose

/-- The channel between the two ends. -/
def channel (unread : σ → List Frame) (s : ShmNull σ) : Channel Frame :=
  { queue := unread s.ring, closed := s.sink = .closed }

/-- What holds between any two steps. The calls add up to what went through the channel and
report it, and whoever has seen the flag looks at a ring that is settled. -/
structure Inv (unread : σ → List Frame) (size : Nat) (s : ShmNull σ) : Prop where
  ran : run Channel.step {} s.history = some (s.channel unread)
  pushed_eq : sends s.history = s.pushed
  handed_eq : receives s.history = s.handed
  small : ∀ frame ∈ unread s.ring, frame.length ≤ size
  sending : ∀ call ∈ s.sink.call?, ∀ frame ∈ call.frames, frame.length ≤ size
  receiving : ∀ call ∈ s.source.call?, size ≤ call.room
  flag : s.source ≠ .closed → s.flag = true → s.sink = .closed
  checking : ∀ call, s.source = .checking call →
    s.sink = .closed ∧ ∃ before, s.ring = ring.acquire before
  told : ∀ r ∈ s.sourceReturns, r.outcome = .closed → .ended ∈ s.history
  honest : ∀ r ∈ s.sinkReturns, r.Honest

section Runs

variable {ring} {unread : σ → List Frame} (fifo : ring.Fifo unread) {size : Nat}

theorem Inv.opened (fifo : ring.Fifo unread) : Inv ring unread size (opened ring) where
  ran := by rw [channel, ShmNull.opened, fifo.fresh]; rfl
  pushed_eq := rfl
  handed_eq := rfl
  small := by simp [ShmNull.opened, fifo.fresh]
  sending := by simp [ShmNull.opened, SinkAt.call?]
  receiving := by simp [ShmNull.opened, SourceAt.call?]
  flag := fun _ set => absurd set (by simp [ShmNull.opened])
  checking := fun _ at_check => absurd at_check (by simp [ShmNull.opened])
  told := fun _ member => absurd member (by simp [ShmNull.opened])
  honest := fun _ member => absurd member (by simp [ShmNull.opened])

variable {s s' : ShmNull σ}

/-! The sink's steps -/

/-- A step of the sink that pushes nothing. -/
theorem Inv.sinkMoves (inv : Inv ring unread size s) {after : σ}
    (still : unread after = unread s.ring) (sink : SinkAt) (returns : List SinkReturn)
    (open_before : s.sink ≠ .closed) (open_after : sink ≠ .closed)
    (same : returns.flatMap SinkReturn.frames ++ sink.frames = s.pushed)
    (sending : ∀ call ∈ sink.call?, ∀ frame ∈ call.frames, frame.length ≤ size)
    (honest : ∀ r ∈ returns, r.Honest) :
    Inv ring unread size { s with ring := after, sink, sinkReturns := returns } where
  ran := by
    rw [inv.ran]
    simp [channel, open_before, open_after, still]
  pushed_eq := inv.pushed_eq.trans same.symm
  handed_eq := inv.handed_eq
  small := still ▸ inv.small
  sending := sending
  receiving := inv.receiving
  flag := fun awake set => absurd (inv.flag awake set) open_before
  checking := fun call at_check => absurd (inv.checking call at_check).1 open_before
  told := inv.told
  honest := honest

theorem Inv.returns_honest (inv : Inv ring unread size s) {r : SinkReturn} (honest : r.Honest) :
    ∀ other ∈ s.sinkReturns ++ [r], other.Honest := by
  intro other member
  rcases List.mem_append.mp member with old | new
  · exact inv.honest other old
  · exact List.mem_singleton.mp new ▸ honest

theorem Inv.send {call : SinkCall} (inv : Inv ring unread size s)
    (fits : ∀ frame ∈ call.frames, frame.length ≤ size) (moved : s.send call = some s') :
    Inv ring unread size s' := by
  unfold ShmNull.send at moved
  cases at_sink : s.sink with
  | idle =>
    simp only [at_sink] at moved
    have nothing : s.pushed = s.sinkReturns.flatMap SinkReturn.frames := by
      simp [pushed, at_sink, SinkAt.frames]
    split at moved
    · rename_i empty
      rw [← Option.some.inj moved]
      refine inv.sinkMoves rfl .idle _ (by simp [at_sink]) (by simp) ?_ (by simp [SinkAt.call?])
        (inv.returns_honest (SinkCall.done_honest (by rw [empty, List.length_nil])))
      simp [nothing, SinkReturn.frames, SinkAt.frames]
    · rw [← Option.some.inj moved]
      exact inv.sinkMoves rfl (.pushing call 0) s.sinkReturns (by simp [at_sink]) (by simp)
        (by simp [nothing, SinkAt.frames]) (by simpa [SinkAt.call?] using fits) inv.honest
  | pushing call i => simp [at_sink] at moved
  | closed => simp [at_sink] at moved

/-- A frame goes into the ring, and the sink moves on. -/
theorem Inv.takes (inv : Inv ring unread size s) {after : σ} {frame : Frame}
    (grown : unread after = unread s.ring ++ [frame]) (short : frame.length ≤ size)
    (sink : SinkAt) (returns : List SinkReturn) (open_before : s.sink ≠ .closed)
    (open_after : sink ≠ .closed)
    (more : returns.flatMap SinkReturn.frames ++ sink.frames = s.pushed ++ [frame])
    (sending : ∀ call ∈ sink.call?, ∀ frame ∈ call.frames, frame.length ≤ size)
    (honest : ∀ r ∈ returns, r.Honest) :
    Inv ring unread size { s with
      ring := after, sink, sinkReturns := returns, history := s.history ++ [Op.send frame] } where
  ran := run_snoc _ inv.ran (by simp [channel, Channel.step, open_before, open_after, grown])
  pushed_eq := by
    rw [sends_append, inv.pushed_eq]
    exact more.symm
  handed_eq := by
    rw [receives_append, inv.handed_eq]
    exact List.append_nil _
  small := by
    rw [grown]
    exact List.forall_mem_append.mpr ⟨inv.small, List.forall_mem_singleton.mpr short⟩
  sending := sending
  receiving := inv.receiving
  flag := fun awake set => absurd (inv.flag awake set) open_before
  checking := fun call at_check => absurd (inv.checking call at_check).1 open_before
  told := fun r member closed => List.mem_append_left _ (inv.told r member closed)
  honest := honest

include fifo

theorem Inv.push {choice : Nat} (inv : Inv ring unread size s)
    (moved : s.push ring choice = some s') : Inv ring unread size s' := by
  unfold ShmNull.push at moved
  cases at_sink : s.sink with
  | idle => simp [at_sink] at moved
  | closed => simp [at_sink] at moved
  | pushing call i =>
    have opened : s.sink ≠ .closed := by simp [at_sink]
    have so_far : s.pushed = s.sinkReturns.flatMap SinkReturn.frames ++ call.frames.take i := by
      rw [pushed, at_sink, SinkAt.frames]
    simp only [at_sink, Option.map_eq_some_iff] at moved
    obtain ⟨frame, found, moved⟩ := moved
    have inside := (List.getElem?_eq_some_iff.mp found).1
    have one_more : call.frames.take (i + 1) = call.frames.take i ++ [frame] := by
      rw [List.take_add_one, found, Option.toList_some]
    have fits := inv.sending call (by rw [at_sink]; exact rfl)
    have short := fits frame (List.mem_of_getElem? found)
    have queue := fifo.push s.ring choice frame
    cases answer : (ring.tryPush s.ring choice frame).1 with
    | taken =>
      rw [answer, if_pos rfl] at queue
      simp only [answer] at moved
      split at moved
      · rw [← moved]
        refine inv.takes queue short (.pushing call (i + 1)) s.sinkReturns opened (by simp) ?_
          (by simpa [SinkAt.call?] using fits) inv.honest
        rw [SinkAt.frames, one_more, so_far, List.append_assoc]
      · rename_i last
        rw [← moved]
        refine inv.takes queue short .idle _ opened (by simp) ?_ (by simp [SinkAt.call?])
          (inv.returns_honest (SinkCall.done_honest (by omega)))
        simp [SinkAt.frames, SinkReturn.frames, one_more, so_far]
    | full =>
      rw [answer, if_neg (by simp)] at queue
      simp only [answer] at moved
      rw [← moved]
      refine inv.sinkMoves queue .idle _ opened (by simp) ?_ (by simp [SinkAt.call?])
        (inv.returns_honest (SinkCall.full_honest found))
      simp [SinkAt.frames, SinkReturn.frames, so_far]
    | refused error =>
      rw [answer, if_neg (by simp)] at queue
      simp only [answer] at moved
      rw [← moved]
      refine inv.sinkMoves queue .idle _ opened (by simp) ?_ (by simp [SinkAt.call?])
        (inv.returns_honest (SinkReturn.failed_honest call i (pushError error)))
      simp [SinkAt.frames, SinkReturn.frames, so_far]

omit fifo

theorem Inv.sinkClose (inv : Inv ring unread size s) (moved : s.sinkClose = some s') :
    Inv ring unread size s' := by
  simp only [ShmNull.sinkClose, Option.ite_none_right_eq_some, Option.some.injEq] at moved
  obtain ⟨at_idle, rfl⟩ := moved
  exact {
    ran := run_snoc _ inv.ran (by simp [channel, Channel.step])
    pushed_eq := by
      rw [sends_append, inv.pushed_eq, pushed, pushed, at_idle]
      exact List.append_nil _
    handed_eq := by
      rw [receives_append, inv.handed_eq]
      exact List.append_nil _
    small := inv.small
    sending := by simp [SinkAt.call?]
    receiving := inv.receiving
    flag := fun _ _ => rfl
    checking := fun call at_check => by
      have earlier := (inv.checking call at_check).1
      rw [at_idle] at earlier
      exact absurd earlier (by simp)
    told := fun r member closed => List.mem_append_left _ (inv.told r member closed)
    honest := inv.honest }

/-! The source's steps -/

/-- A step of the source that pops nothing and does not begin to check. -/
theorem Inv.sourceMoves (inv : Inv ring unread size s) {after : σ}
    (still : unread after = unread s.ring) (source : SourceAt) (returns : List SourceReturn)
    (awake : s.source ≠ .closed)
    (same : returns.flatMap SourceReturn.frames ++ source.frames = s.handed)
    (receiving : ∀ call ∈ source.call?, size ≤ call.room)
    (checks : ∀ call, source = .checking call →
      s.sink = .closed ∧ ∃ before, after = ring.acquire before)
    (told : ∀ r ∈ returns, r.outcome = .closed → .ended ∈ s.history) :
    Inv ring unread size { s with ring := after, source, sourceReturns := returns } where
  ran := by
    rw [inv.ran, channel, channel, still]
  pushed_eq := inv.pushed_eq
  handed_eq := inv.handed_eq.trans same.symm
  small := still ▸ inv.small
  sending := inv.sending
  receiving := receiving
  flag := fun _ set => inv.flag awake set
  checking := checks
  told := told
  honest := inv.honest

theorem mem_returns (inv : Inv ring unread size s) {call : SourceCall} {outcome : SourceOutcome}
    (other : outcome ≠ .closed) :
    ∀ r ∈ s.sourceReturns ++ [SourceReturn.mk call outcome],
      r.outcome = .closed → .ended ∈ s.history := by
  intro r member closed
  rcases List.mem_append.mp member with old | new
  · exact inv.told r old closed
  · rw [List.mem_singleton] at new
    rw [new] at closed
    exact absurd closed other

/-- A call returns without a frame, or with the frames it had in hand. -/
theorem Inv.sourceReturns (inv : Inv ring unread size s) {after : σ}
    (still : unread after = unread s.ring) (call : SourceCall) (outcome : SourceOutcome)
    (awake : s.source ≠ .closed) (other : outcome ≠ .closed)
    (same : SourceReturn.frames { call, outcome } = s.source.frames) :
    Inv ring unread size ({ s with ring := after }.sourceReturn call outcome) := by
  refine inv.sourceMoves still .idle _ awake ?_ (by simp [SourceAt.call?]) (by simp)
    (mem_returns inv other)
  simp [handed, SourceAt.frames, same]

theorem Inv.recv {call : SourceCall} (inv : Inv ring unread size s) (fits : size ≤ call.room)
    (moved : s.recv call = some s') : Inv ring unread size s' := by
  simp only [ShmNull.recv, Option.ite_none_right_eq_some] at moved
  obtain ⟨at_idle, moved⟩ := moved
  have awake : s.source ≠ .closed := by simp [at_idle]
  split at moved
  · rw [← Option.some.inj moved]
    exact inv.sourceReturns rfl call .timeout awake (by simp)
      (by simp [SourceReturn.frames, at_idle, SourceAt.frames])
  · rw [← Option.some.inj moved]
    refine inv.sourceMoves rfl (.popping call) _ awake ?_ (by simpa [SourceAt.call?] using fits)
      (by simp) inv.told
    rw [handed, at_idle]
    rfl

/-- A frame comes out of the ring, and the call goes on or returns. -/
theorem Inv.popped (inv : Inv ring unread size s) (call : SourceCall) (frames : List Frame)
    {after : σ} {frame : Frame} (room : size ≤ call.room) (awake : s.source ≠ .closed)
    (hand : s.source.frames = frames) (front : unread s.ring = frame :: unread after) :
    Inv ring unread size ((s.taken after frame).got call (frames ++ [frame])) := by
  have ran : run Channel.step {} (s.history ++ [Op.receive frame]) =
      some { queue := unread after, closed := s.sink = .closed } :=
    run_snoc _ inv.ran (by simp [channel, Channel.step, front])
  have pushes : sends (s.history ++ [Op.receive frame]) = s.pushed := by
    rw [sends_append, inv.pushed_eq]
    exact List.append_nil _
  have all : receives (s.history ++ [Op.receive frame]) =
      s.sourceReturns.flatMap SourceReturn.frames ++ (frames ++ [frame]) := by
    rw [receives_append, inv.handed_eq, handed, hand, List.append_assoc]
    rfl
  have small : ∀ other ∈ unread after, other.length ≤ size := fun other member =>
    inv.small other (front ▸ List.mem_cons_of_mem _ member)
  unfold got taken
  split
  · exact {
      ran := ran
      pushed_eq := pushes
      handed_eq := all
      small := small
      sending := inv.sending
      receiving := by simpa [SourceAt.call?] using room
      flag := fun _ set => inv.flag awake set
      checking := fun _ at_check => absurd at_check (by simp)
      told := fun r member closed => List.mem_append_left _ (inv.told r member closed)
      honest := inv.honest }
  · exact {
      ran := ran
      pushed_eq := pushes
      handed_eq := by
        refine all.trans ?_
        simp [handed, sourceReturn, SourceReturn.frames, SourceAt.frames]
      small := small
      sending := inv.sending
      receiving := by simp [sourceReturn, SourceAt.call?]
      flag := fun _ set => inv.flag awake set
      checking := fun _ at_check => absurd at_check (by simp [sourceReturn])
      told := fun r member closed =>
        List.mem_append_left _ (mem_returns inv (by simp) r member closed)
      honest := inv.honest }

include fifo

theorem Inv.pop {choice : Nat} (inv : Inv ring unread size s)
    (moved : s.pop ring choice = some s') : Inv ring unread size s' := by
  have queue (call : SourceCall) (room : size ≤ call.room) :=
    fifo.pop s.ring choice call.room fun frame member =>
      Nat.le_trans (inv.small frame member) room
  unfold ShmNull.pop at moved
  cases at_source : s.source with
  | popping call =>
    have awake : s.source ≠ .closed := by simp [at_source]
    have hand : s.source.frames = [] := by rw [at_source, SourceAt.frames]; simp
    have room := inv.receiving call (by rw [at_source]; exact rfl)
    have unread_before := queue call room
    simp only [at_source] at moved
    generalize ring.tryPop s.ring choice call.room = answer at moved unread_before
    obtain ⟨found, after⟩ := answer
    cases found with
    | some frame =>
      rw [← Option.some.inj moved, ← List.nil_append [frame]]
      exact inv.popped call [] room awake hand unread_before.symm
    | none =>
      rw [← Option.some.inj moved]
      refine inv.sourceMoves unread_before (.loading call) _ awake ?_
        (by simpa [SourceAt.call?] using room) (by simp) inv.told
      rw [handed, hand, SourceAt.frames]
      simp
  | draining call frames =>
    have awake : s.source ≠ .closed := by simp [at_source]
    have hand : s.source.frames = frames := by rw [at_source, SourceAt.frames]
    have room := inv.receiving call (by rw [at_source]; exact rfl)
    have unread_before := queue call room
    simp only [at_source] at moved
    generalize ring.tryPop s.ring choice call.room = answer at moved unread_before
    obtain ⟨found, after⟩ := answer
    cases found with
    | some frame =>
      rw [← Option.some.inj moved]
      exact inv.popped call frames room awake hand unread_before.symm
    | none =>
      rw [← Option.some.inj moved]
      exact inv.sourceReturns unread_before call (.messages frames) awake (by simp)
        (by rw [hand, SourceReturn.frames])
  | idle => simp [at_source] at moved
  | loading call => simp [at_source] at moved
  | checking call => simp [at_source] at moved
  | timing call => simp [at_source] at moved
  | closed => simp [at_source] at moved

theorem Inv.load {sees : Bool} (inv : Inv ring unread size s)
    (moved : s.load ring sees = some s') : Inv ring unread size s' := by
  unfold ShmNull.load at moved
  split at moved
  · rename_i call at_source
    have awake : s.source ≠ .closed := by simp [at_source]
    have room := inv.receiving call (by rw [at_source]; exact rfl)
    have hand : s.sourceReturns.flatMap SourceReturn.frames = s.handed := by
      simp [handed, at_source, SourceAt.frames]
    split at moved
    · obtain ⟨set, moved⟩ := Option.ite_none_right_eq_some.mp moved
      rw [← Option.some.inj moved]
      refine inv.sourceMoves (fifo.acquire s.ring) (.checking call) _ awake
        (by simp [hand, SourceAt.frames]) (by simpa [SourceAt.call?] using room)
        (fun _ _ => ⟨inv.flag awake set, s.ring, rfl⟩) inv.told
    · rw [← Option.some.inj moved]
      exact inv.sourceMoves rfl (.timing call) _ awake (by simp [hand, SourceAt.frames])
        (by simpa [SourceAt.call?] using room) (by simp) inv.told
  · exact absurd moved (by simp)

theorem Inv.check {choice : Nat} (inv : Inv ring unread size s)
    (moved : s.check ring choice = some s') : Inv ring unread size s' := by
  unfold ShmNull.check at moved
  split at moved
  · rename_i call at_source
    have awake : s.source ≠ .closed := by simp [at_source]
    have room := inv.receiving call (by rw [at_source]; exact rfl)
    have hand : s.sourceReturns.flatMap SourceReturn.frames = s.handed := by
      simp [handed, at_source, SourceAt.frames]
    -- nothing has been pushed since the flag was seen, so the ring is as the load left it
    obtain ⟨closed, before, settled⟩ := inv.checking call at_source
    have still := fifo.isEmpty s.ring choice
    have nothing := fifo.settled before choice
    rw [← settled] at nothing
    generalize ring.isEmpty s.ring choice = answer at moved still nothing
    obtain ⟨empty, after⟩ := answer
    cases empty with
    | true =>
      have left : unread after = [] := by
        rw [still, settled, fifo.acquire]
        exact nothing rfl
      rw [← Option.some.inj moved]
      exact {
        ran := run_snoc _ inv.ran (by
          simp [channel, sourceReturn, Channel.step, closed, left, ← still])
        pushed_eq := by
          rw [sourceReturn, sends_append, inv.pushed_eq]
          exact List.append_nil _
        handed_eq := by
          rw [sourceReturn, receives_append, inv.handed_eq, ← hand]
          simp [handed, SourceReturn.frames, SourceAt.frames, receives]
        small := by simp [sourceReturn, left]
        sending := inv.sending
        receiving := by simp [sourceReturn, SourceAt.call?]
        flag := fun _ set => inv.flag awake set
        checking := fun _ at_check => absurd at_check (by simp [sourceReturn])
        told := fun _ _ _ => List.mem_append_right _ (List.mem_singleton_self _)
        honest := inv.honest }
    | false =>
      rw [← Option.some.inj moved]
      exact inv.sourceMoves still (.timing call) _ awake (by simp [hand, SourceAt.frames])
        (by simpa [SourceAt.call?] using room) (by simp) inv.told
  · exact absurd moved (by simp)

omit fifo

theorem Inv.clock {expired : Bool} (inv : Inv ring unread size s)
    (moved : s.clock expired = some s') : Inv ring unread size s' := by
  unfold ShmNull.clock at moved
  split at moved
  · rename_i call at_source
    have awake : s.source ≠ .closed := by simp [at_source]
    have room := inv.receiving call (by rw [at_source]; exact rfl)
    split at moved
    · rw [← Option.some.inj moved]
      exact inv.sourceReturns rfl call .timeout awake (by simp)
        (by simp [SourceReturn.frames, at_source, SourceAt.frames])
    · rw [← Option.some.inj moved]
      exact inv.sourceMoves rfl (.popping call) _ awake
        (by simp [handed, at_source, SourceAt.frames]) (by simpa [SourceAt.call?] using room)
        (by simp) inv.told
  · exact absurd moved (by simp)

theorem Inv.sourceClose (inv : Inv ring unread size s) (moved : s.sourceClose = some s') :
    Inv ring unread size s' := by
  simp only [ShmNull.sourceClose, Option.ite_none_right_eq_some, Option.some.injEq] at moved
  obtain ⟨at_idle, rfl⟩ := moved
  exact { inv with
    handed_eq := by
      rw [inv.handed_eq, handed, handed, at_idle]
      rfl
    receiving := by simp [SourceAt.call?]
    flag := fun asleep => absurd rfl asleep
    checking := fun _ at_check => absurd at_check (by simp) }

include fifo

theorem Inv.step (s : ShmNull σ) (act : Act) (s' : ShmNull σ) (inv : Inv ring unread size s)
    (fits : act.Fits size) (moved : s.step ring act = some s') : Inv ring unread size s' := by
  cases act with
  | send call => exact inv.send fits moved
  | push choice => exact inv.push fifo moved
  | sinkClose => exact inv.sinkClose moved
  | recv call => exact inv.recv fits moved
  | pop choice => exact inv.pop fifo moved
  | load sees => exact inv.load fifo moved
  | check choice => exact inv.check fifo moved
  | clock expired => exact inv.clock moved
  | sourceClose => exact inv.sourceClose moved

/-- Every run keeps the invariant. -/
theorem run_inv {acts : List Act} (inv : Inv ring unread size s)
    (fits : ∀ act ∈ acts, act.Fits size) (ran : run (ShmNull.step ring) s acts = some s') :
    Inv ring unread size s' :=
  run_guarded _ (Inv.step fifo) ran inv (along_of_forall _ s fits)

/-- Whatever the two threads do and however late they look, what they have done is a run of
a channel that takes what the sends push, gives what the receives hand over, and has told
its end by the time a receive reports `Closed`. -/
theorem run_refines_channel {acts : List Act} (fits : ∀ act ∈ acts, act.Fits size)
    (ran : run (ShmNull.step ring) (opened ring) acts = some s) :
    run Channel.step {} s.history = some (s.channel unread) ∧
      Lib.ClosingChannel.sends s.history = s.pushed ∧
      Lib.ClosingChannel.receives s.history = s.handed ∧
      ∀ r ∈ s.sourceReturns, r.outcome = .closed → .ended ∈ s.history := by
  have inv := run_inv fifo (Inv.opened fifo) fits ran
  exact ⟨inv.ran, inv.pushed_eq, inv.handed_eq, inv.told⟩

omit fifo

theorem step_history {act : Act} (moved : s.step ring act = some s') :
    s.history <+: s'.history := by
  cases act with
  | send call => simp only [step, ShmNull.send] at moved; grind [sinkReturn]
  | push choice => simp only [step, ShmNull.push] at moved; grind [sinkReturn, List.prefix_append]
  | sinkClose => simp only [step, ShmNull.sinkClose] at moved; grind [List.prefix_append]
  | recv call => simp only [step, ShmNull.recv] at moved; grind [sourceReturn]
  | pop choice =>
    simp only [step, ShmNull.pop] at moved
    grind [sourceReturn, got, taken, List.prefix_append]
  | load sees => simp only [step, ShmNull.load] at moved; grind
  | check choice =>
    simp only [step, ShmNull.check] at moved
    grind [sourceReturn, List.prefix_append]
  | clock expired => simp only [step, ShmNull.clock] at moved; grind [sourceReturn]
  | sourceClose => simp only [step, ShmNull.sourceClose] at moved; grind

/-- What has been done to the channel stays done. -/
theorem run_history {acts : List Act} (ran : run (ShmNull.step ring) s acts = some s') :
    s.history <+: s'.history :=
  @run_invariant _ _ _ (fun other => s.history <+: other.history)
    (fun _ _ _ so_far moved => so_far.trans (step_history moved)) _ _ _ ran List.prefix_rfl

/-- The end has been told: everything pushed has been handed over, and neither changes. -/
theorem Inv.closed_final (inv : Inv ring unread size s) (inv' : Inv ring unread size s')
    (told : .ended ∈ s.history) (later : s.history <+: s'.history) :
    s.handed = s.pushed ∧ s'.handed = s.handed ∧ s'.pushed = s.pushed := by
  obtain ⟨shut, -, complete⟩ := run_ended inv.ran told
  obtain ⟨-, -, complete'⟩ := run_ended inv'.ran (later.subset told)
  obtain ⟨ops, grown⟩ := later
  have after : run Channel.step (s.channel unread) ops = some (s'.channel unread) := by
    have whole := inv'.ran
    rw [← grown, run_append, inv.ran] at whole
    exact whole
  have nothing := (run_closed shut after).2
  rw [inv.handed_eq, inv.pushed_eq] at complete
  rw [inv'.handed_eq, inv'.pushed_eq] at complete'
  have same : s'.pushed = s.pushed := by
    rw [← inv'.pushed_eq, ← inv.pushed_eq, ← grown, sends_append, nothing, List.append_nil]
  exact ⟨complete, by rw [complete', same, complete], same⟩

/-- The loopback as its two callers see it: frames arrive in the order they were pushed, every
send that returns without an error reports the frames it has pushed, and `Closed` is
reported only when everything that will ever be pushed has been handed over. -/
theorem run_delivers (fifo : ring.Fifo unread) {acts : List Act}
    (fits : ∀ act ∈ acts, act.Fits size)
    (ran : run (ShmNull.step ring) (opened ring) acts = some s) :
    s.handed <+: s.pushed ∧ (∀ r ∈ s.sinkReturns, r.Honest) ∧
      ∀ r ∈ s.sourceReturns, r.outcome = .closed →
        s.handed = s.pushed ∧ ∀ later s', (∀ act ∈ later, act.Fits size) →
          run (ShmNull.step ring) s later = some s' →
          s'.handed = s.handed ∧ s'.pushed = s.pushed := by
  have inv := run_inv fifo (Inv.opened fifo) fits ran
  refine ⟨?_, inv.honest, fun r member closed => ?_⟩
  · have order := run_fifo inv.ran
    rw [inv.pushed_eq, inv.handed_eq, List.nil_append] at order
    exact ⟨_, order.symm⟩
  · have told := inv.told r member closed
    refine ⟨(inv.closed_final inv told List.prefix_rfl).1, fun later s' fits' ran' => ?_⟩
    exact (inv.closed_final (run_inv fifo inv fits' ran') told (run_history ran')).2

end Runs

/-- A ring with room for so many bytes of frames, which the consumer sees late at a choice of
zero. -/
def byteRing (capacity : Nat) : Ring (List Frame) where
  fresh := []
  tryPush r _ frame :=
    if (r.map List.length).sum + frame.length ≤ capacity then (.taken, r ++ [frame])
    else (.full, r)
  tryPop r choice room :=
    match r with
    | frame :: rest =>
        if choice = 0 ∨ room < frame.length then (none, frame :: rest) else (some frame, rest)
    | [] => (none, [])
  isEmpty r _ := (r.isEmpty, r)
  acquire r := r

theorem byteRing_fifo (capacity : Nat) : (byteRing capacity).Fifo id where
  fresh := rfl
  push := by
    intro r choice frame
    simp only [byteRing, id]
    split <;> simp
  pop := by
    intro r choice room fits
    cases r with
    | nil => rfl
    | cons frame rest =>
      simp only [byteRing, id]
      split <;> rfl
  isEmpty := fun _ _ => rfl
  acquire := fun _ => rfl
  settled := fun _ _ => List.isEmpty_iff.mp

def frameOf (byte : UInt8) : Frame := List.replicate 1500 byte

theorem frameOf_length (byte : UInt8) : (frameOf byte).length = 1500 := List.length_replicate

/-- Two frames of a batch of three fit; the source misses the first look, the sink closes
between the two pops, and a second receive is told. -/
def closingRun : List Act :=
  [.send (.batch [frameOf 1, frameOf 2, frameOf 3]), .push 0, .recv (.batch 3000 1500 2 2),
    .pop 0, .load false, .clock false, .push 0, .push 0, .pop 1, .sinkClose, .pop 1,
    .recv (.msg 1500), .pop 1, .load true, .check 0]

def closingEnd : ShmNull (List Frame) where
  ring := []
  flag := true
  sink := .closed
  sinkReturns := [⟨.batch [frameOf 1, frameOf 2, frameOf 3], 2, .count 2⟩]
  sourceReturns :=
    [⟨.batch 3000 1500 2 2, .messages [frameOf 1, frameOf 2]⟩, ⟨.msg 1500, .closed⟩]
  history :=
    [.send (frameOf 1), .send (frameOf 2), .receive (frameOf 1), .close, .receive (frameOf 2),
      .ended]

theorem closingRun_delivers :
    closingEnd.handed <+: closingEnd.pushed ∧ (∀ r ∈ closingEnd.sinkReturns, r.Honest) ∧
      ∀ r ∈ closingEnd.sourceReturns, r.outcome = .closed →
        closingEnd.handed = closingEnd.pushed ∧
        ∀ later s', (∀ act ∈ later, act.Fits 1500) →
          run (ShmNull.step (byteRing 4096)) closingEnd later = some s' →
          s'.handed = closingEnd.handed ∧ s'.pushed = closingEnd.pushed :=
  @run_delivers _ (byteRing 4096) id 1500 closingEnd (byteRing_fifo 4096) closingRun
    (by simp [closingRun, Act.Fits, SinkCall.frames, SourceCall.room, frameOf_length])
    (by decide +kernel)

end ShmNull

end Seshat.Transport
