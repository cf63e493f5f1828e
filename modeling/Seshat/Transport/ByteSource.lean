import Mathlib.Tactic.Common

/-! A stream socket as its reader sees it: chunks of bytes and failed reads in a
fixed order, then end of stream. A chunk longer than the slice it is read into is
handed over in pieces. -/

namespace Seshat.Transport

/-- The `io::ErrorKind`s the transports tell apart. -/
inductive ErrorKind where
  | wouldBlock
  | timedOut
  | interrupted
  | invalidData
  | other
  deriving DecidableEq, Repr

inductive ReadEvent where
  | chunk (bytes : List UInt8) (nonempty : bytes ≠ [])
  | fails (kind : ErrorKind)
  deriving DecidableEq

/-- The reads still to come; none left is end of stream. -/
abbrev ByteSource := List ReadEvent

namespace ByteSource

/-- The bytes still to come, in order. -/
def bytes : ByteSource → List UInt8
  | [] => []
  | .chunk bytes _ :: rest => bytes ++ ByteSource.bytes rest
  | .fails _ :: rest => ByteSource.bytes rest

/-- Reads and bytes still to come. -/
def size : ByteSource → Nat
  | [] => 0
  | .chunk bytes _ :: rest => bytes.length + 1 + size rest
  | .fails _ :: rest => 1 + size rest

/-- Reads that will report an idle socket. -/
def pauses : ByteSource → Nat
  | [] => 0
  | .fails .wouldBlock :: rest => pauses rest + 1
  | .fails .timedOut :: rest => pauses rest + 1
  | _ :: rest => pauses rest

/-- The only failed reads are the ones a reader retries or reports as idle. -/
def Steady (src : ByteSource) : Prop :=
  ∀ kind, .fails kind ∈ src → kind = .wouldBlock ∨ kind = .timedOut ∨ kind = .interrupted

/-- One `read` into a slice of `room` bytes. -/
def read (room : Nat) :
    ByteSource → Except ErrorKind { bytes : List UInt8 // bytes.length ≤ room } × ByteSource
  | [] => (.ok ⟨[], Nat.zero_le _⟩, [])
  | .fails kind :: rest => (.error kind, rest)
  | .chunk bytes nonempty :: rest =>
      if fits : bytes.length ≤ room then (.ok ⟨bytes, fits⟩, rest)
      else
        (.ok ⟨bytes.take room, List.length_take_le _ _⟩,
          .chunk (bytes.drop room) (by rw [ne_eq, List.drop_eq_nil_iff]; exact fits) :: rest)

/-- A successful read hands over the next bytes, and some of them unless the
stream has ended. -/
theorem read_ok {room : Nat} (positive : 0 < room) {src rest : ByteSource}
    {got : { bytes : List UInt8 // bytes.length ≤ room }}
    (step : read room src = (.ok got, rest)) :
    got.1 ++ bytes rest = bytes src ∧ pauses rest = pauses src ∧
      (got.1 = [] → src = [] ∧ rest = []) ∧ (got.1 ≠ [] → size rest < size src) := by
  cases src with
  | nil =>
    simp only [read, Prod.mk.injEq, Except.ok.injEq] at step
    obtain ⟨rfl, rfl⟩ := step
    simp
  | cons event tail =>
    cases event with
    | fails kind => simp [read] at step
    | chunk data nonempty =>
      by_cases fits : data.length ≤ room
      · simp only [read, dif_pos fits, Prod.mk.injEq, Except.ok.injEq] at step
        obtain ⟨rfl, rfl⟩ := step
        refine ⟨rfl, rfl, fun empty => absurd empty nonempty, fun _ => ?_⟩
        simp only [size]
        omega
      · simp only [read, dif_neg fits, Prod.mk.injEq, Except.ok.injEq] at step
        obtain ⟨rfl, rfl⟩ := step
        have some_taken : data.take room ≠ [] := by
          rw [ne_eq, List.take_eq_nil_iff]
          rintro (zero | empty)
          · omega
          · exact nonempty empty
        refine ⟨?_, rfl, fun empty => absurd empty some_taken, fun _ => ?_⟩
        · rw [bytes, ← List.append_assoc, List.take_append_drop, bytes]
        · simp only [size, List.length_drop]
          omega

theorem read_error {room : Nat} {src rest : ByteSource} {kind : ErrorKind}
    (step : read room src = (.error kind, rest)) : src = .fails kind :: rest := by
  cases src with
  | nil => simp [read] at step
  | cons event tail =>
    cases event with
    | fails kind =>
      simp only [read, Prod.mk.injEq, Except.error.injEq] at step
      rw [step.1, step.2]
    | chunk data nonempty =>
      simp only [read] at step
      split at step <;> simp at step

theorem Steady.tail {event : ReadEvent} {rest : ByteSource} (steady : Steady (event :: rest)) :
    Steady rest := fun kind member => steady kind (List.mem_cons_of_mem _ member)

/-- A read leaves no failure behind that was not to come before. -/
theorem read_fails {room : Nat} {src rest : ByteSource} {kind : ErrorKind}
    {got : Except ErrorKind { bytes : List UInt8 // bytes.length ≤ room }}
    (step : read room src = (got, rest)) (member : .fails kind ∈ rest) : .fails kind ∈ src := by
  cases src with
  | nil =>
    simp only [read, Prod.mk.injEq] at step
    exact step.2 ▸ member
  | cons event tail =>
    refine List.mem_cons_of_mem event ?_
    cases event with
    | fails kind =>
      simp only [read, Prod.mk.injEq] at step
      exact step.2 ▸ member
    | chunk data nonempty =>
      simp only [read] at step
      split at step
      · rw [Prod.mk.injEq] at step
        exact step.2 ▸ member
      · rw [Prod.mk.injEq] at step
        rw [← step.2] at member
        simpa using member

/-- Everything in one chunk. -/
def ofBytes (bytes : List UInt8) : ByteSource :=
  if empty : bytes = [] then [] else [.chunk bytes empty]

@[simp] theorem ofBytes_bytes (data : List UInt8) : (ofBytes data).bytes = data := by
  unfold ofBytes
  split
  · next empty => rw [empty]; rfl
  · simp [bytes]

@[simp] theorem ofBytes_pauses (data : List UInt8) : (ofBytes data).pauses = 0 := by
  unfold ofBytes
  split <;> rfl

theorem ofBytes_steady (data : List UInt8) : (ofBytes data).Steady := by
  intro kind member
  unfold ofBytes at member
  split at member <;> simp at member

end ByteSource

end Seshat.Transport
