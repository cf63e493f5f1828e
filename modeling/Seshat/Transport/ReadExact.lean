import Seshat.Transport.ByteSource
import Mathlib.Tactic.Common

/-! `Read::read_exact` on a stream socket: it retries interrupted reads only, and what it has
taken off the stream is gone when another read fails. -/

namespace Seshat.Transport.ByteSource

/-- `need` bytes, and what is left to read; the end of the stream in front of them is an error. -/
def readExact : ByteSource → (need : Nat) → Except ErrorKind (List UInt8) × ByteSource
  | src, 0 => (.ok [], src)
  | [], _ + 1 => (.error .other, [])
  | .fails .interrupted :: rest, need + 1 => readExact rest (need + 1)
  | .fails kind :: rest, _ + 1 => (.error kind, rest)
  | .chunk bytes _ :: rest, need + 1 =>
      if fits : bytes.length ≤ need + 1 then
        let (later, left) := readExact rest (need + 1 - bytes.length)
        (later.map (bytes ++ ·), left)
      else
        (.ok (bytes.take (need + 1)),
          .chunk (bytes.drop (need + 1)) (by rwa [ne_eq, List.drop_eq_nil_iff]) :: rest)

/-- No read of the stream fails but by interruption. -/
def Quiet (src : ByteSource) : Prop := ∀ kind, .fails kind ∈ src → kind = .interrupted

theorem Quiet.tail {event : ReadEvent} {rest : ByteSource} (quiet : Quiet (event :: rest)) :
    Quiet rest := fun kind member => quiet kind (List.mem_cons_of_mem _ member)

theorem ofBytes_quiet (data : List UInt8) : (ofBytes data).Quiet := by
  intro kind member
  unfold ofBytes at member
  split at member <;> simp at member

/-- How a `read_exact` ends. -/
inductive ReadExactly (src : ByteSource) (need : Nat) :
    Except ErrorKind (List UInt8) × ByteSource → Prop
  | whole (buf : List UInt8) (rest : ByteSource) (size : buf.length = need)
      (split : src.bytes = buf ++ rest.bytes) (quiet : src.Quiet → rest.Quiet) :
      ReadExactly src need (.ok buf, rest)
  | fails (kind : ErrorKind) (rest : ByteSource)
      (short : src.Quiet → src.bytes.length < need) : ReadExactly src need (.error kind, rest)

theorem readExact_exactly (src : ByteSource) (need : Nat) :
    ReadExactly src need (readExact src need) := by
  fun_induction readExact src need with
  | case1 src => exact .whole [] src rfl rfl id
  | case2 need => exact .fails .other [] fun _ => Nat.succ_pos need
  | case3 rest need ih =>
    generalize readExact rest (need + 1) = result at ih
    cases ih with
    | whole buf left size split quiet => exact .whole buf left size split fun q => quiet q.tail
    | fails kind left short => exact .fails kind left fun q => short q.tail
  | case4 kind rest need other =>
    exact .fails kind rest fun quiet => absurd (quiet kind List.mem_cons_self) other
  | case5 bytes nonempty rest need fits later left read ih =>
    rw [read] at ih
    cases ih with
    | whole buf left size split quiet =>
      refine .whole (bytes ++ buf) left ?_ ?_ fun q => quiet q.tail
      · rw [List.length_append, size]
        omega
      · rw [ByteSource.bytes, split, List.append_assoc]
    | fails kind left short =>
      refine .fails kind left fun q => ?_
      have less := short q.tail
      rw [ByteSource.bytes, List.length_append]
      omega
  | case6 bytes nonempty rest need fits =>
    refine .whole _ _ ?_ ?_ fun quiet kind member => ?_
    · rw [List.length_take]
      omega
    · rw [ByteSource.bytes, ByteSource.bytes, ← List.append_assoc, List.take_append_drop]
    · rcases List.mem_cons.mp member with same | old
      · cases same
      · exact quiet.tail kind old

end Seshat.Transport.ByteSource
