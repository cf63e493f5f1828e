import Seshat.Proto.Wire
import Mathlib.Tactic.Common

/-! What to send: builders that stamp a header and the payload of a sequence number
into reusable buffers of the configured size. -/

namespace Seshat.Workload
open Proto.Wire Lib.Window

/-- `MIN_MESSAGE_SIZE`: a header and no payload. -/
def minMessageSize : UInt32 := 24

/-- The configured size, clamped up to a header-only message. -/
def clampedSize (messageBytes : UInt32) : UInt32 := max messageBytes minMessageSize

/-- The message a builder of this size stamps for a sequence number. -/
def stamped (messageBytes : UInt32) (seq tsNs : UInt64) : WireHeader :=
  { seq, tsNs, payloadLen := clampedSize messageBytes - minMessageSize }

theorem clampedSize_toNat (messageBytes : UInt32) :
    (clampedSize messageBytes).toNat = max messageBytes.toNat 24 := by
  have unfolded : clampedSize messageBytes =
      if messageBytes ≤ minMessageSize then minMessageSize else messageBytes := rfl
  have header : minMessageSize.toNat = 24 := rfl
  rw [unfolded]
  by_cases small : messageBytes ≤ minMessageSize
  · have below := UInt32.le_iff_toNat_le.mp small
    rw [if_pos small]
    omega
  · have above : ¬messageBytes.toNat ≤ minMessageSize.toNat :=
      fun le => small (UInt32.le_iff_toNat_le.mpr le)
    rw [if_neg small]
    omega

/-- A stamped message has exactly the clamped size. -/
theorem stamped_total (messageBytes : UInt32) (seq tsNs : UInt64) :
    (stamped messageBytes seq tsNs).total = (clampedSize messageBytes).toNat := by
  have size := clampedSize_toNat messageBytes
  have header : minMessageSize.toNat = 24 := rfl
  have covers : minMessageSize ≤ clampedSize messageBytes := by
    rw [UInt32.le_iff_toNat_le]
    omega
  rw [WireHeader.total, stamped, UInt32.toNat_sub_of_le _ _ covers, headerLen, header]
  omega

/-- A message of the configured size with this sequence number, whenever it was stamped. -/
def Carries (messageBytes : UInt32) (seq : UInt64) (msg : List UInt8) : Prop :=
  ∃ tsNs, msg = message (stamped messageBytes seq tsNs)

/-- A builder of messages of one size, with its reusable buffer. -/
structure MessageBuilder (messageBytes : UInt32) where
  buf : List UInt8
  room : buf.length = (clampedSize messageBytes).toNat

namespace MessageBuilder

variable {messageBytes : UInt32}

def new (messageBytes : UInt32) : MessageBuilder messageBytes where
  buf := List.replicate (clampedSize messageBytes).toNat 0
  room := List.length_replicate

def messageLen (_ : MessageBuilder messageBytes) : Nat := (clampedSize messageBytes).toNat

def payloadLen (_ : MessageBuilder messageBytes) : UInt32 :=
  clampedSize messageBytes - minMessageSize

/-- The buffer `dst` after `build_into`. -/
def buildInto (b : MessageBuilder messageBytes) (seq tsNs : UInt64) (dst : List UInt8) :
    List UInt8 :=
  (encodeMessageAt seq b.payloadLen tsNs dst).1

theorem buildInto_message (b : MessageBuilder messageBytes) (seq tsNs : UInt64)
    {dst : List UInt8} (room : dst.length = b.messageLen) :
    b.buildInto seq tsNs dst = message (stamped messageBytes seq tsNs) := by
  have size : (stamped messageBytes seq tsNs).total = dst.length :=
    (stamped_total _ _ _).trans room.symm
  have encoded := encodeMessageAt_message (stamped messageBytes seq tsNs) (le_of_eq size)
  rw [List.drop_of_length_le (le_of_eq size.symm), List.append_nil] at encoded
  exact congrArg Prod.fst encoded

/-- The message `build_at` hands out, and the builder with its buffer overwritten. -/
def buildAt (b : MessageBuilder messageBytes) (seq tsNs : UInt64) :
    List UInt8 × MessageBuilder messageBytes :=
  let encoded := encodeMessageAt seq b.payloadLen tsNs b.buf
  (encoded.1.take encoded.2,
    { buf := encoded.1
      room := by
        have built : encoded.1 = _ := b.buildInto_message seq tsNs b.room
        rw [built, message_length, stamped_total] })

theorem buildAt_message (b : MessageBuilder messageBytes) (seq tsNs : UInt64) :
    (b.buildAt seq tsNs).1 = message (stamped messageBytes seq tsNs) := by
  have size : (stamped messageBytes seq tsNs).total = b.buf.length :=
    (stamped_total _ _ _).trans b.room.symm
  have encoded := encodeMessageAt_message (stamped messageBytes seq tsNs) (le_of_eq size)
  rw [List.drop_of_length_le (le_of_eq size.symm), List.append_nil] at encoded
  show (encodeMessageAt seq b.payloadLen tsNs b.buf).1.take _ = _
  have same : encodeMessageAt seq b.payloadLen tsNs b.buf = _ := encoded
  rw [same, List.take_of_length_le]
  rw [message_length]

end MessageBuilder

/-- A builder of whole batches, one reusable buffer for each message. -/
structure BatchBuilder (messageBytes : UInt32) where
  bufs : List (List UInt8)
  rooms : ∀ buf ∈ bufs, buf.length = (clampedSize messageBytes).toNat

namespace BatchBuilder

variable {messageBytes : UInt32}

def new (messageBytes : UInt32) (batch : Nat) : BatchBuilder messageBytes where
  bufs := List.replicate (max batch 1) (List.replicate (clampedSize messageBytes).toNat 0)
  rooms := by
    intro buf member
    rw [List.eq_of_mem_replicate member, List.length_replicate]

def payloadLen (_ : BatchBuilder messageBytes) : UInt32 :=
  clampedSize messageBytes - minMessageSize

/-- The encoding loop over the first `count` buffers; `clock i` is the time read for
message `i`. -/
def encodeInto (payloadLen : UInt32) (seqStart : UInt64) (clock : Nat → UInt64) :
    Nat → List (List UInt8) → List (List UInt8)
  | _, [] => []
  | i, buf :: rest =>
      (encodeMessageAt (seqStart + UInt64.ofNat i) payloadLen (clock i) buf).1 ::
        encodeInto payloadLen seqStart clock (i + 1) rest

theorem encodeInto_messages (messageBytes : UInt32) (seqStart : UInt64) (clock : Nat → UInt64)
    (i : Nat) {bufs : List (List UInt8)}
    (rooms : ∀ buf ∈ bufs, buf.length = (clampedSize messageBytes).toNat) :
    encodeInto (clampedSize messageBytes - minMessageSize) seqStart clock i bufs =
      (List.range' i bufs.length).map fun k =>
        message (stamped messageBytes (seqStart + UInt64.ofNat k) (clock k)) := by
  induction bufs generalizing i with
  | nil => rfl
  | cons buf rest ih =>
    have first : (encodeMessageAt (seqStart + UInt64.ofNat i) _ (clock i) buf).1 = _ :=
      MessageBuilder.buildInto_message ⟨buf, rooms buf List.mem_cons_self⟩
        (seqStart + UInt64.ofNat i) (clock i) (rooms buf List.mem_cons_self)
    rw [encodeInto, ih (i + 1) fun other member => rooms other (List.mem_cons_of_mem _ member),
      List.length_cons, List.range'_succ, List.map_cons]
    exact congrArg (· :: _) first

/-- The messages `build` stages, and the builder with their buffers overwritten. -/
def build (b : BatchBuilder messageBytes) (seqStart : UInt64) (count : Nat)
    (clock : Nat → UInt64) : List (List UInt8) × BatchBuilder messageBytes :=
  let count := min count b.bufs.length
  let built := encodeInto b.payloadLen seqStart clock 0 (b.bufs.take count)
  (built,
    { bufs := built ++ b.bufs.drop count
      rooms := by
        intro buf member
        rcases List.mem_append.mp member with fresh | old
        · have messages : built = _ := encodeInto_messages messageBytes seqStart clock 0
            fun buf taken => b.rooms buf (List.mem_of_mem_take taken)
          rw [messages] at fresh
          obtain ⟨k, -, rfl⟩ := List.mem_map.mp fresh
          rw [message_length, stamped_total]
        · exact b.rooms buf (List.mem_of_mem_drop old) })

theorem build_messages (b : BatchBuilder messageBytes) (seqStart : UInt64) (count : Nat)
    (clock : Nat → UInt64) :
    (b.build seqStart count clock).1 = (List.range' 0 (min count b.bufs.length)).map fun k =>
      message (stamped messageBytes (seqStart + UInt64.ofNat k) (clock k)) := by
  have messages : (b.build seqStart count clock).1 = _ :=
    encodeInto_messages messageBytes seqStart clock 0
      fun buf taken => b.rooms buf (List.mem_of_mem_take taken)
  rw [List.length_take, Nat.min_assoc, Nat.min_self] at messages
  exact messages

/-- Building reuses the buffers: there are as many as before. -/
theorem build_bufs (b : BatchBuilder messageBytes) (seqStart : UInt64) (count : Nat)
    (clock : Nat → UInt64) : (b.build seqStart count clock).2.bufs.length = b.bufs.length := by
  have built := congrArg List.length (b.build_messages seqStart count clock)
  rw [List.length_map, List.length_range'] at built
  show ((b.build seqStart count clock).1 ++ b.bufs.drop _).length = _
  rw [List.length_append, built, List.length_drop]
  omega

end BatchBuilder

end Seshat.Workload
