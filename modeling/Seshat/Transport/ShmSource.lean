import Seshat.Gateway.LogScan
import Seshat.Transport.FramedRun
import Mathlib.Tactic.Common

/-! The receiving end of a shared-memory ring, with the outcomes its client will report in
a fixed order. A receive that reports a message removes it from the ring, any other
removes none; a message is copied as far as its slot reaches. -/

namespace Seshat.Transport

/-- One `recv_into` or `try_recv_into` of the client. -/
inductive ClientEvent where
  | message (bytes : List UInt8)
  | empty
  | fails (error : String)
  deriving DecidableEq, Repr

/-- The outcomes still to come; behind them the ring is empty. -/
abbrev ShmRing := List ClientEvent

namespace ShmRing

/-- The messages still in the ring, in order. -/
def messages : ShmRing → List (List UInt8)
  | [] => []
  | .message bytes :: rest => bytes :: messages rest
  | .empty :: rest => messages rest
  | .fails _ :: rest => messages rest

def recvError (error : String) : String := "SHM recv: " ++ error

def isClosed (error : String) : Bool :=
  Gateway.contains error.toList "closed" || Gateway.contains error.toList "EOF"

/-- The drain loop behind the first message, with `count` slots filled. -/
def drain (stride cap count : Nat) (slots : Slots) :
    ShmRing → Except String Nat × Slots × ShmRing
  | [] => (.ok count, slots, [])
  | event :: rest =>
      if count < cap then
        match event with
        | .message bytes => drain stride cap (count + 1) (slots.put stride count (bytes.take stride)) rest
        | .empty => (.ok count, slots, rest)
        | .fails error => (.error (recvError error), slots, rest)
      else (.ok count, slots, event :: rest)

/-- `ShmSource::recv_batch`. -/
def recvBatch (ring : ShmRing) (slots : Slots) (stride max : Nat) :
    Except String BatchOutcome × Slots × ShmRing :=
  if max = 0 ∨ stride = 0 ∨ slots.buf.length < stride ∨ slots.lens = [] then
    (.ok .timeout, slots, ring)
  else
    let cap := min (min max (slots.buf.length / stride)) slots.lens.length
    match ring with
    | [] => (.ok .timeout, slots, [])
    | .empty :: rest => (.ok .timeout, slots, rest)
    | .fails error :: rest =>
        if isClosed error then (.ok .closed, slots, rest)
        else (.error (recvError error), slots, rest)
    | .message bytes :: rest =>
        match drain stride cap 1 (slots.put stride 0 (bytes.take stride)) rest with
        | (.ok count, slots, rest) => (.ok (.messages count), slots, rest)
        | (.error error, slots, rest) => (.error error, slots, rest)

/-- An error comes up while a batch has room for `room` more messages. -/
def failsWithin : (room : Nat) → ShmRing → Bool
  | room + 1, .message _ :: rest => failsWithin room rest
  | _ + 1, .fails _ :: _ => true
  | _, _ => false

/-- Behind the first message of a batch of at most `cap`, and before the batch is full or
the ring empty, an error comes up. -/
def failsMidBatch (cap : Nat) : ShmRing → Bool
  | .message _ :: rest => failsWithin (cap - 1) rest
  | _ => false

/-- What the drain loop does: an error that comes up in it leaves no count behind. -/
inductive Drained (stride count : Nat) (slots : Slots) (ring : ShmRing) :
    Bool → Except String Nat × Slots × ShmRing → Prop
  | full (taken : List (List UInt8)) (given : Slots) (rest : ShmRing)
      (shape : given.SameShape slots)
      (carved : given.carved stride (count + taken.length) =
        slots.carved stride count ++ taken.map (List.take stride))
      (messages : ring.messages = taken ++ rest.messages) :
      Drained stride count slots ring false (.ok (count + taken.length), given, rest)
  | fails (error : String) (taken : List (List UInt8)) (given : Slots) (rest : ShmRing)
      (shape : given.SameShape slots) (messages : ring.messages = taken ++ rest.messages) :
      Drained stride count slots ring true (.error error, given, rest)

theorem Drained.stops {stride count : Nat} {slots : Slots} {ring : ShmRing} (rest : ShmRing)
    (same : ring.messages = rest.messages) :
    Drained stride count slots ring false (.ok count, slots, rest) := by
  refine .full [] slots rest ⟨rfl, rfl⟩ ?_ same
  rw [List.map_nil, List.append_nil, List.length_nil, Nat.add_zero]

/-- A message drained into slot `count` in front of the others. -/
theorem Drained.put {stride count : Nat} {slots : Slots} {rest : ShmRing} {bytes : List UInt8}
    {cut : Bool} {result : Except String Nat × Slots × ShmRing}
    (room : count < slots.lens.length) (inside : count * stride + stride ≤ slots.buf.length)
    (bounded : slots.Bounded stride count)
    (later : Drained stride (count + 1) (slots.put stride count (bytes.take stride)) rest cut
      result) : Drained stride count slots (.message bytes :: rest) cut result := by
  have fits : (bytes.take stride).length ≤ stride := List.length_take_le _ _
  have shape := Slots.put_sameShape inside fits
  cases later with
  | full taken given left same carved messages =>
    have total : count + 1 + taken.length = count + (bytes :: taken).length := by
      rw [List.length_cons]
      omega
    rw [total] at carved ⊢
    refine .full _ given left ⟨same.1.trans shape.1, same.2.trans shape.2⟩ ?_ ?_
    · rw [carved, Slots.put_carved room inside fits bounded, List.append_assoc]
      rfl
    · rw [ShmRing.messages, messages]
      rfl
  | fails error taken given left same messages =>
    refine .fails error (bytes :: taken) given left
      ⟨same.1.trans shape.1, same.2.trans shape.2⟩ ?_
    rw [ShmRing.messages, messages]
    rfl

theorem drain_drained {stride cap count : Nat} {slots : Slots} (ring : ShmRing)
    (lensRoom : cap ≤ slots.lens.length) (bufRoom : cap * stride ≤ slots.buf.length)
    (bounded : slots.Bounded stride count) :
    Drained stride count slots ring (failsWithin (cap - count) ring)
      (drain stride cap count slots ring) := by
  induction ring generalizing count slots with
  | nil =>
    unfold drain
    cases cap - count <;> exact .stops [] rfl
  | cons event rest ih =>
    unfold drain
    by_cases more : count < cap
    · obtain ⟨left, room⟩ : ∃ left, cap - count = left + 1 := ⟨cap - count - 1, by omega⟩
      rw [if_pos more, room]
      cases event with
      | empty => exact .stops rest rfl
      | fails error => exact .fails _ [] slots rest ⟨rfl, rfl⟩ rfl
      | message bytes =>
        have fits : (bytes.take stride).length ≤ stride := List.length_take_le _ _
        have inside : count * stride + stride ≤ slots.buf.length := by
          rw [← Nat.succ_mul]
          exact le_trans (Nat.mul_le_mul_right stride more) bufRoom
        have shape := Slots.put_sameShape inside fits
        have later := ih (shape.2 ▸ lensRoom) (shape.1 ▸ bufRoom)
          (Slots.put_bounded (by omega) fits bounded)
        rw [show cap - (count + 1) = left by omega] at later
        exact later.put (by omega) inside bounded
    · rw [if_neg more, Nat.sub_eq_zero_of_le (Nat.not_lt.mp more)]
      exact .stops _ rfl

/-- What a receive into usable slots does: `dropped` are messages it has taken and does not
hand over. -/
inductive Received (stride : Nat) (slots : Slots) (ring : ShmRing) :
    (dropped : Bool) → Except String BatchOutcome × Slots × ShmRing → Prop
  | messages (taken : List (List UInt8)) (given : Slots) (rest : ShmRing)
      (shape : given.SameShape slots)
      (carved : given.carved stride taken.length = taken.map (List.take stride))
      (messages : ring.messages = taken ++ rest.messages) :
      Received stride slots ring false (.ok (.messages taken.length), given, rest)
  | reports (outcome : Except String BatchOutcome) (rest : ShmRing)
      (nothing : ∀ n, outcome ≠ .ok (.messages n)) (messages : ring.messages = rest.messages) :
      Received stride slots ring false (outcome, slots, rest)
  | drops (error : String) (taken : List (List UInt8)) (some_taken : taken ≠ []) (given : Slots)
      (rest : ShmRing) (shape : given.SameShape slots)
      (messages : ring.messages = taken ++ rest.messages) :
      Received stride slots ring true (.error error, given, rest)

theorem recvBatch_received (ring : ShmRing) {slots : Slots} {stride max : Nat}
    (usable : slots.Usable stride max) :
    Received stride slots ring
      (ring.failsMidBatch (min (min max (slots.buf.length / stride)) slots.lens.length))
      (ring.recvBatch slots stride max) := by
  obtain ⟨some_max, positive, room, some_lens⟩ := usable
  rw [recvBatch, if_neg (Slots.Usable.open_slots ⟨some_max, positive, room, some_lens⟩)]
  dsimp only
  have some_fit := Nat.div_pos room positive
  have bufRoom := Nat.div_mul_le_self slots.buf.length stride
  obtain ⟨cap, capped⟩ :
    ∃ cap, min (min max (slots.buf.length / stride)) slots.lens.length = cap := ⟨_, rfl⟩
  rw [capped]
  cases ring with
  | nil => exact .reports _ [] nofun rfl
  | cons event rest =>
    cases event with
    | empty => exact .reports _ rest nofun rfl
    | fails error =>
      dsimp only
      split <;> exact .reports _ rest nofun rfl
    | message bytes =>
      have fits : (bytes.take stride).length ≤ stride := List.length_take_le _ _
      have first : 0 * stride + stride ≤ slots.buf.length := by omega
      have shape := Slots.put_sameShape first fits
      have none_filled : slots.Bounded stride 0 := fun i before => absurd before (Nat.not_lt_zero i)
      have alone := Slots.put_carved some_lens first fits none_filled
      have drained := @drain_drained stride cap 1 _ rest (by rw [shape.2]; omega)
        (by rw [shape.1]; exact (Nat.mul_le_mul_right stride (by omega)).trans bufRoom)
        (Slots.put_bounded some_lens fits none_filled)
      dsimp only [failsMidBatch]
      generalize drain stride cap 1 _ rest = result at drained ⊢
      generalize failsWithin (cap - 1) rest = cut at drained ⊢
      cases drained with
      | full taken given left same carved messages =>
        rw [alone, Nat.add_comm] at carved
        rw [Nat.add_comm]
        refine .messages (bytes :: taken) given left ⟨same.1.trans shape.1, same.2.trans shape.2⟩
          carved ?_
        rw [ShmRing.messages, messages]
        rfl
      | fails error taken given left same messages =>
        refine .drops error (bytes :: taken) (List.cons_ne_nil _ _) given left
          ⟨same.1.trans shape.1, same.2.trans shape.2⟩ ?_
        rw [ShmRing.messages, messages]
        rfl

end ShmRing

end Seshat.Transport
