import Seshat.Lib.Cursor
import Seshat.Run.SenderLoop
import Mathlib.Data.Nat.PSub
import Mathlib.Tactic.Common

/-! `writev_full`: a batch of messages over vectored writes that the kernel may cut
anywhere. Indices and lengths are checked as in a debug build; `none` is a panic. -/

namespace Seshat.Transport
open Lib Lib.Rounds Run

inductive WriteError where
  | os (kind : ErrorKind)
  | writeZero (text : String)
  deriving DecidableEq, Repr

/-- What one `writev` of `offered` bytes reports. -/
inductive WriteResult (offered : Nat) where
  | accepts (count : Nat) (some_taken : 0 < count) (within : count ≤ offered)
  | zero
  | fails (kind : ErrorKind)

/-- The kernel's answer to one `writev`. -/
abbrev Kernel := (offered : Nat) → WriteResult offered

inductive Sending where
  | going (pos : Cursor)
  | returned (result : Except WriteError Nat)
  | panicked

section Loop

variable (msgs : List (List UInt8))

/-- The iovecs `i`, `i + 1`, … of one call, `count` of them. -/
def gather (pos : Cursor) (i : Nat) : (count : Nat) → Option (List (List UInt8))
  | 0 => some []
  | count + 1 => do
      let m ← msgs[pos.idx + i]?
      let skip := if i = 0 then min pos.off m.length else 0
      let len ← Nat.psub m.length skip
      let rest ← gather pos (i + 1) count
      return (m.drop skip).take len :: rest

def iovecs (iovCap : Nat) (pos : Cursor) : Option (List (List UInt8)) := do
  let left ← Nat.psub msgs.length pos.idx
  gather msgs pos 0 (min left iovCap)

theorem idx_inside {msgs : List (List UInt8)} {pos : Cursor} {written : Nat}
    (more : 0 < written ∧ pos.idx < msgs.length) : pos.idx < msgs.length :=
  more.2

/-- Advances the position across the messages a write consumed. -/
def consume (pos : Cursor) (written : Nat) : Option Cursor :=
  if more : 0 < written ∧ pos.idx < msgs.length then
    have inside := idx_inside more
    match Nat.psub msgs[pos.idx].length pos.off with
    | none => none
    | some rem =>
        if written ≥ rem then
          match Nat.psub written rem with
          | none => none
          | some written => consume ⟨pos.idx + 1, 0⟩ written
        else some ⟨pos.idx, pos.off + written⟩
  else some pos
termination_by msgs.length - pos.idx

/-- `while idx < msgs.len()`, and what is returned behind it. -/
def loopHead (pos : Cursor) : Sending :=
  if pos.idx < msgs.length then .going pos else .returned (.ok msgs.length)

/-- One turn of the loop; it emits what it put on the wire. -/
def writevTurn (iovCap : Nat) (state : Sending) (kernel : Kernel) : Round Sending UInt8 :=
  match state with
  | .going pos =>
      match iovecs msgs iovCap pos with
      | none => { state := .panicked, emitted := [], again := false }
      | some iov =>
          match kernel iov.flatten.length with
          | .fails .interrupted => { state := .going pos, emitted := [], again := true }
          | .fails .wouldBlock =>
              if pos.off = 0 then
                { state := .returned (.ok pos.idx), emitted := [], again := false }
              else { state := .going pos, emitted := [], again := true }
          | .fails kind => { state := .returned (.error (.os kind)), emitted := [], again := false }
          | .zero =>
              { state := .returned (.error (.writeZero "writev accepted zero bytes"))
                emitted := []
                again := false }
          | .accepts written _ _ =>
              match consume msgs pos written with
              | none => { state := .panicked, emitted := iov.flatten.take written, again := false }
              | some pos =>
                  { state := loopHead msgs pos, emitted := iov.flatten.take written, again := true }
  | ended => { state := ended, emitted := [], again := false }

def writevFull (iovCap : Nat) (kernels : List Kernel) : Round Sending UInt8 :=
  rounds (writevTurn msgs (min (max iovCap 1) batchAbsMax)) (loopHead msgs {}) kernels

/-- The bytes a call still has to send. -/
def Sending.left : Sending → Nat
  | .going pos => (pos.ahead msgs).length
  | .returned (.ok k) => (msgs.drop k).flatten.length
  | .returned (.error _) => 0
  | .panicked => 0

/-- The bytes on the wire are exactly those in front of the position. -/
def Sending.Sound (wire : List UInt8) : Sending → Prop
  | .going pos => pos.idx < msgs.length ∧ pos.Within msgs ∧ wire = pos.behind msgs
  | .returned (.ok k) => k ≤ msgs.length ∧ wire = (msgs.take k).flatten
  | .returned (.error _) => True
  | .panicked => False

end Loop

section Turn

variable {msgs : List (List UInt8)} {pos : Cursor}

theorem gather_views {i count : Nat} (within : pos.Within msgs)
    (inside : pos.idx + i + count ≤ msgs.length) :
    gather msgs pos i count = some ((List.range' i count).map (pos.view msgs)) := by
  induction count generalizing i with
  | zero => rfl
  | succ count ih =>
    have here : pos.idx + i < msgs.length := by omega
    have first : msgs[pos.idx + i].drop (if i = 0 then min pos.off msgs[pos.idx + i].length else 0) =
        pos.view msgs i := by
      rw [Cursor.view, List.getD_eq_getElem _ _ here]
      by_cases front : i = 0
      · subst front
        have off_le : pos.off ≤ msgs[pos.idx + 0].length :=
          List.getD_eq_getElem msgs [] here ▸ within.off_le
        rw [if_pos rfl, if_pos rfl, Nat.min_eq_left off_le]
      · rw [if_neg front, if_neg front]
    have skip_le : (if i = 0 then min pos.off msgs[pos.idx + i].length else 0) ≤
        msgs[pos.idx + i].length := by
      split <;> omega
    rw [gather, List.getElem?_eq_getElem here, List.range'_succ, List.map_cons]
    simp only [Option.bind_eq_bind, Option.bind_some]
    rw [Nat.psub_eq_sub skip_le, ih (by omega), ← first]
    simp only [Option.bind_some, Option.pure_def, ← List.length_drop, List.take_length]

/-- The iovecs of a call are the front of what lies ahead. -/
theorem iovecs_front {iovCap : Nat} (positive : 0 < iovCap) (inside : pos.idx < msgs.length)
    (within : pos.Within msgs) :
    ∃ iov, iovecs msgs iovCap pos = some iov ∧ iov.flatten <+: pos.ahead msgs := by
  obtain ⟨count, some_room⟩ : ∃ count, min (msgs.length - pos.idx) iovCap = count + 1 :=
    ⟨min (msgs.length - pos.idx) iovCap - 1, by omega⟩
  refine ⟨(List.range (count + 1)).map (pos.view msgs), ?_,
    _, Cursor.views_append_ahead msgs pos count⟩
  rw [iovecs, Nat.psub_eq_sub inside.le, List.range_eq_range', Option.bind_eq_bind,
    Option.bind_some, some_room]
  exact gather_views within (by omega)

theorem consume_moved (within : pos.Within msgs) (written : Nat) :
    ∃ next, consume msgs pos written = some next ∧ pos.Moved msgs written next := by
  fun_induction consume msgs pos written with
  | case1 pos written more inside underflow =>
    have off_le := within.off_le
    rw [List.getD_eq_getElem _ _ inside] at off_le
    rw [Nat.psub_eq_sub off_le] at underflow
    exact absurd underflow (Option.some_ne_none _)
  | case2 pos written more inside rem found long underflow =>
    rw [Nat.psub_eq_sub long] at underflow
    exact absurd underflow (Option.some_ne_none _)
  | case3 pos written more inside rem found long left found_left ih =>
    have rem_eq := Nat.psub_eq_some.mp found
    have left_eq := Nat.psub_eq_some.mp found_left
    have size : (msgs.getD pos.idx []).length - pos.off = rem := by
      rw [List.getD_eq_getElem _ _ inside]
      omega
    obtain ⟨next, consumed, moved⟩ := ih (Or.inl rfl)
    refine ⟨next, consumed, .next inside (by omega) ?_⟩
    rwa [size, show written - rem = left by omega]
  | case4 pos written more inside rem found short =>
    have rem_eq := Nat.psub_eq_some.mp found
    refine ⟨_, rfl, .into ?_⟩
    rw [List.getD_eq_getElem _ _ inside]
    omega
  | case5 pos written ended =>
    refine ⟨pos, rfl, ?_⟩
    by_cases zero : written = 0
    · exact zero ▸ .stays within
    · exact .at_end within (by omega) written

theorem loopHead_sound (within : pos.Within msgs) :
    (loopHead msgs pos).Sound msgs (pos.behind msgs) := by
  unfold loopHead
  split
  · next inside => exact ⟨inside, within, rfl⟩
  · next ended =>
    refine ⟨le_rfl, ?_⟩
    have all := Cursor.behind_append_ahead msgs pos
    rw [Cursor.ahead_end (Nat.not_lt.mp ended), List.append_nil] at all
    rw [all, List.take_length]

theorem loopHead_left (pos : Cursor) :
    (loopHead msgs pos).left msgs ≤ (pos.ahead msgs).length := by
  unfold loopHead
  split
  · exact le_rfl
  · rw [Sending.left, List.drop_length]
    exact Nat.zero_le _

/-- A turn keeps the wire and the position together, and a turn that transfers bytes has
fewer of them left. -/
theorem writevTurn_sound {iovCap : Nat} (positive : 0 < iovCap) {state : Sending}
    {wire : List UInt8} (sound : state.Sound msgs wire) (kernel : Kernel) :
    (writevTurn msgs iovCap state kernel).state.Sound msgs
        (wire ++ (writevTurn msgs iovCap state kernel).emitted) ∧
      ((writevTurn msgs iovCap state kernel).emitted ≠ [] →
        (writevTurn msgs iovCap state kernel).state.left msgs < state.left msgs) := by
  cases state with
  | returned result =>
    rw [writevTurn.eq_def]
    exact ⟨by rwa [List.append_nil], fun some_sent => absurd rfl some_sent⟩
  | panicked => exact sound.elim
  | going pos =>
    obtain ⟨inside, within, rfl⟩ := sound
    obtain ⟨iov, gathered, front⟩ := iovecs_front positive inside within
    rw [writevTurn.eq_def]
    simp only [gathered]
    cases kernel iov.flatten.length with
    | zero => exact ⟨trivial, fun some_sent => absurd rfl some_sent⟩
    | fails kind =>
      cases kind with
      | interrupted =>
        exact ⟨⟨inside, within, List.append_nil _⟩, fun some_sent => absurd rfl some_sent⟩
      | wouldBlock =>
        by_cases boundary : pos.off = 0
        · simp only [if_pos boundary]
          refine ⟨⟨inside.le, ?_⟩, fun some_sent => absurd rfl some_sent⟩
          rw [Cursor.behind, boundary, List.take_zero, List.append_nil, List.append_nil]
        · simp only [if_neg boundary]
          exact ⟨⟨inside, within, List.append_nil _⟩, fun some_sent => absurd rfl some_sent⟩
      | timedOut => exact ⟨trivial, fun some_sent => absurd rfl some_sent⟩
      | invalidData => exact ⟨trivial, fun some_sent => absurd rfl some_sent⟩
      | other => exact ⟨trivial, fun some_sent => absurd rfl some_sent⟩
    | accepts written some_taken offered =>
      obtain ⟨next, consumed, moved⟩ := consume_moved within written
      have sent : iov.flatten.take written = (pos.ahead msgs).take written := by
        obtain ⟨rest, whole⟩ := front
        rw [← whole, List.take_append_of_le_length offered]
      have reach := offered.trans front.length_le
      have fewer := moved.ahead_length
      have bound : (loopHead msgs next).left msgs ≤ (next.ahead msgs).length := loopHead_left next
      simp only [consumed, sent]
      refine ⟨moved.behind ▸ loopHead_sound moved.within, fun _ => ?_⟩
      rw [Sending.left]
      omega

theorem writevFull_sound (msgs : List (List UInt8)) (iovCap : Nat) (kernels : List Kernel) :
    (writevFull msgs iovCap kernels).state.Sound msgs (writevFull msgs iovCap kernels).emitted := by
  have positive : 0 < min (max iovCap 1) batchAbsMax := by
    unfold batchAbsMax
    omega
  have start : (loopHead msgs {}).Sound msgs [] := loopHead_sound (Or.inl rfl)
  exact rounds_keeps (fun (state : Sending) wire => state.Sound msgs wire)
    (fun state wire kernel _ sound => (writevTurn_sound positive sound kernel).1) start

end Turn

/-- Whatever the kernel answers, no index or length leaves its range; what is returned is a
number of whole messages, and exactly these are on the wire; and every turn that transfers
bytes has fewer of them left. -/
theorem writevFull_whole (msgs : List (List UInt8)) (iovCap : Nat) (kernels : List Kernel) :
    (writevFull msgs iovCap kernels).state ≠ .panicked ∧
      (∀ k, (writevFull msgs iovCap kernels).state = .returned (.ok k) →
        k ≤ msgs.length ∧ (writevFull msgs iovCap kernels).emitted = (msgs.take k).flatten) ∧
      ∀ kernel,
        (writevTurn msgs (min (max iovCap 1) batchAbsMax)
          (writevFull msgs iovCap kernels).state kernel).emitted ≠ [] →
        (writevTurn msgs (min (max iovCap 1) batchAbsMax)
            (writevFull msgs iovCap kernels).state kernel).state.left msgs <
          (writevFull msgs iovCap kernels).state.left msgs := by
  have sound := writevFull_sound msgs iovCap kernels
  have positive : 0 < min (max iovCap 1) batchAbsMax := by
    unfold batchAbsMax
    omega
  refine ⟨fun panicked => ?_, fun k returned => ?_, fun kernel => ?_⟩
  · rw [panicked] at sound
    exact sound
  · rw [returned] at sound
    exact sound
  · exact (writevTurn_sound positive sound kernel).2

/-- A write that ends inside the second message, a call that would block there, and the rest. -/
example :
    (writevFull [[1, 2], [3, 4, 5], [6]] 2
      [fun offered => if room : 3 ≤ offered then .accepts 3 (by decide) room else .zero,
        fun _ => .fails .wouldBlock,
        fun offered => if room : 0 < offered then .accepts offered room le_rfl else .zero]).emitted =
      [1, 2, 3, 4, 5, 6] := by
  simp [writevFull, rounds, writevTurn, loopHead, iovecs, gather, consume, batchAbsMax]

/-- A batch over a stream socket: the messages the loop counts as accepted are the bytes the
call put on the wire. -/
theorem batchRound_wire {messageBytes : UInt32} {batch : Nat}
    (state : BatchState messageBytes batch) (turn : SenderTurn messageBytes batch)
    (iovCap : Nat) (kernels : List Kernel) {n : Fin (batch + 1)} (awake : turn.phase ≠ .done)
    (answered : turn.sendBatch = .ok n)
    (returned : (writevFull (state.builder.build state.seq batch turn.nowNs).1 iovCap kernels).state =
      .returned (.ok n.val)) :
    (writevFull (state.builder.build state.seq batch turn.nowNs).1 iovCap kernels).emitted =
      (batchRound state turn).emitted.flatten := by
  have sound := writevFull_sound (state.builder.build state.seq batch turn.nowNs).1 iovCap kernels
  rw [returned] at sound
  rw [sound.2, batchRound, if_neg awake]
  simp only [answered]

end Seshat.Transport
