import Seshat.Transport.FramedReader
import Mathlib.Tactic.Common

/-! A datagram socket as its receiver sees it: groups of datagrams that are ready
together, and failed receives, in a fixed order. Each datagram is copied as far as its
slot reaches; the rest of it is gone. -/

namespace Seshat.Transport

inductive DatagramEvent where
  | ready (grams : List (List UInt8)) (nonempty : grams ≠ [])
  | fails (kind : ErrorKind)
  deriving DecidableEq

abbrev DatagramSource := List DatagramEvent

/-- The slots after the kernel filled them from slot `i` on. -/
def Slots.putAll (stride : Nat) : Nat → List (List UInt8) → Slots → Slots
  | _, [], slots => slots
  | i, gram :: rest, slots => putAll stride (i + 1) rest (slots.put stride i (gram.take stride))

namespace DatagramSource

/-- The datagrams still to come, in order. -/
def datagrams : DatagramSource → List (List UInt8)
  | [] => []
  | .ready grams _ :: rest => grams ++ datagrams rest
  | .fails _ :: rest => datagrams rest

def pauses : DatagramSource → Nat
  | [] => 0
  | .ready _ _ :: rest => pauses rest
  | .fails _ :: rest => pauses rest + 1

/-- The only failed receives are the ones reported as an idle socket. -/
def Steady (src : DatagramSource) : Prop :=
  ∀ kind, .fails kind ∈ src → kind = .wouldBlock ∨ kind = .timedOut ∨ kind = .interrupted

/-- What is left of a group when its first `count` datagrams are taken. -/
def leave (count : Nat) (grams : List (List UInt8)) (rest : DatagramSource) : DatagramSource :=
  if empty : grams.drop count = [] then rest else .ready (grams.drop count) empty :: rest

/-- `UdpSource::recv_batch`: one `recvmmsg`. -/
def recvBatch (src : DatagramSource) (slots : Slots) (stride max : Nat) :
    Except ErrorKind BatchOutcome × Slots × DatagramSource :=
  if stride = 0 then (.ok .timeout, slots, src)
  else
    let vlen := min (min max (slots.buf.length / stride)) slots.lens.length
    if vlen = 0 then (.ok .timeout, slots, src)
    else
      match src with
      | [] => (.ok .timeout, slots, [])
      | .fails .wouldBlock :: rest => (.ok .timeout, slots, rest)
      | .fails .timedOut :: rest => (.ok .timeout, slots, rest)
      | .fails .interrupted :: rest => (.ok .timeout, slots, rest)
      | .fails kind :: rest => (.error kind, slots, rest)
      | .ready grams _ :: rest =>
          (.ok (.messages (grams.take vlen).length), slots.putAll stride 0 (grams.take vlen),
            leave vlen grams rest)

theorem leave_datagrams (count : Nat) (grams : List (List UInt8)) (rest : DatagramSource) :
    (leave count grams rest).datagrams = grams.drop count ++ datagrams rest := by
  unfold leave
  split
  · next empty => rw [empty]; rfl
  · rfl

theorem leave_pauses (count : Nat) (grams : List (List UInt8)) (rest : DatagramSource) :
    (leave count grams rest).pauses = pauses rest := by
  unfold leave
  split <;> rfl

theorem leave_steady {count : Nat} {grams : List (List UInt8)} {rest : DatagramSource}
    (steady : Steady rest) : Steady (leave count grams rest) := by
  intro kind member
  unfold leave at member
  split at member
  · exact steady kind member
  · exact steady kind (by simpa using member)

theorem Steady.tail {event : DatagramEvent} {rest : DatagramSource}
    (steady : Steady (event :: rest)) : Steady rest :=
  fun kind member => steady kind (List.mem_cons_of_mem _ member)

end DatagramSource

section PutAll

variable {stride : Nat}

/-- Filling slots one after the other appends the datagrams, each cut to its slot. -/
theorem Slots.putAll_carved {i : Nat} {grams : List (List UInt8)} {slots : Slots}
    (lensRoom : i + grams.length ≤ slots.lens.length)
    (bufRoom : (i + grams.length) * stride ≤ slots.buf.length)
    (bounded : slots.Bounded stride i) :
    (slots.putAll stride i grams).SameShape slots ∧
      (slots.putAll stride i grams).carved stride (i + grams.length) =
        slots.carved stride i ++ grams.map (List.take stride) := by
  induction grams generalizing i slots with
  | nil => exact ⟨⟨rfl, rfl⟩, by simp [Slots.putAll]⟩
  | cons gram rest ih =>
    rw [List.length_cons] at lensRoom bufRoom
    have fits : (gram.take stride).length ≤ stride := List.length_take_le _ _
    have room : i < slots.lens.length := by omega
    have inside : i * stride + stride ≤ slots.buf.length := by
      rw [← Nat.succ_mul]
      exact le_trans (Nat.mul_le_mul_right stride (by omega)) bufRoom
    have shape := Slots.put_sameShape inside fits
    have next : i + 1 + rest.length = i + (rest.length + 1) := by omega
    obtain ⟨later, carved⟩ := ih (by rw [shape.2, next]; exact lensRoom)
      (by rw [shape.1, next]; exact bufRoom) (Slots.put_bounded room fits bounded)
    refine ⟨⟨later.1.trans shape.1, later.2.trans shape.2⟩, ?_⟩
    rw [Slots.putAll, List.length_cons, ← next, carved,
      Slots.put_carved room inside fits bounded, List.append_assoc]
    rfl

end PutAll

end Seshat.Transport
