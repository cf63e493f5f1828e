import Seshat.Lib.LittleEndian
import Seshat.Lib.Window
import Mathlib.Tactic.Common

/-! The on-wire message: a 24-byte header (magic, sequence number, send time,
payload length, all little-endian) and a payload filled from the sequence number.
Buffers are lists of bytes; a write into a slice replaces a window of the list. -/

namespace Seshat.Proto.Wire
open Lib.LittleEndian Lib.Window

/-- `b"SESH"`. -/
def magic : List UInt8 := [0x53, 0x45, 0x53, 0x48]

def headerLen : Nat := 24

inductive WireError where
  | shortHeader (got : Nat)
  | badMagic (found : List UInt8)
  | truncatedPayload (need got : Nat)
  | corruptPayload (offset : Nat)
  deriving DecidableEq, Repr

structure WireHeader where
  seq : UInt64
  tsNs : UInt64
  payloadLen : UInt32
  deriving DecidableEq, Repr

/-- `HEADER_LEN + payload_len as usize`, the whole message on the wire. -/
def WireHeader.total (hdr : WireHeader) : Nat := headerLen + hdr.payloadLen.toNat

def WireHeader.encode (hdr : WireHeader) (buf : List UInt8) : List UInt8 :=
  let buf := overwrite buf 0 magic
  let buf := overwrite buf 4 (toBytes 8 hdr.seq.toNat)
  let buf := overwrite buf 12 (toBytes 8 hdr.tsNs.toNat)
  overwrite buf 20 (toBytes 4 hdr.payloadLen.toNat)

def WireHeader.decode (buf : List UInt8) : Except WireError WireHeader :=
  if buf.length < headerLen then .error (.shortHeader buf.length)
  else if window buf 0 4 ≠ magic then .error (.badMagic (window buf 0 4))
  else .ok
    { seq := UInt64.ofNat (fromBytes (window buf 4 8)),
      tsNs := UInt64.ofNat (fromBytes (window buf 12 8)),
      payloadLen := UInt32.ofNat (fromBytes (window buf 20 4)) }

/-- The payload byte of message `seq` at index `i`. -/
def fillByte (seq : UInt64) (i : Nat) : UInt8 := ((seq + UInt64.ofNat i) &&& 0xff).toUInt8

/-- The doubled ramp table: `RAMP[k] = k & 0xff` for `k < 512`. -/
def ramp : List UInt8 := (List.range 512).map fun k => UInt8.ofNat (k % 256)

/-- The block loop of `fill_payload`, from `pos` on. -/
def fillBlocks (off len pos : Nat) (payload : List UInt8) : List UInt8 :=
  if pos < len then
    let n := min (len - pos) 256
    fillBlocks off len (pos + n) (overwrite payload pos (window ramp off n))
  else payload
termination_by len - pos

def fillPayload (seq : UInt64) (payload : List UInt8) : List UInt8 :=
  fillBlocks (seq &&& 0xff).toNat payload.length 0 payload

/-- The block loop of `verify_payload`: a differing block is searched for its byte. -/
def verifyBlocks (off pos : Nat) (payload : List UInt8) : Except WireError Unit :=
  if pos < payload.length then
    let n := min (payload.length - pos) 256
    if window payload pos n ≠ window ramp off n then
      match (List.range n).find? fun i => payload[pos + i]? != ramp[off + i]? with
      | some i => .error (.corruptPayload (pos + i))
      | none => verifyBlocks off (pos + n) payload
    else verifyBlocks off (pos + n) payload
  else .ok ()
termination_by payload.length - pos

def verifyPayload (seq : UInt64) (payload : List UInt8) : Except WireError Unit :=
  verifyBlocks (seq &&& 0xff).toNat 0 payload

/-- The buffer after `encode_message_at`, and the message length it returns. -/
def encodeMessageAt (seq : UInt64) (payloadLen : UInt32) (tsNs : UInt64) (buf : List UInt8) :
    List UInt8 × Nat :=
  let total := headerLen + payloadLen.toNat
  let hdr : WireHeader := { seq, tsNs, payloadLen }
  let buf := hdr.encode buf
  (overwrite buf headerLen (fillPayload seq (window buf headerLen payloadLen.toNat)), total)

def decodeMessage (buf : List UInt8) : Except WireError WireHeader := do
  let hdr ← WireHeader.decode buf
  let need := headerLen + hdr.payloadLen.toNat
  if buf.length < need then .error (.truncatedPayload need buf.length)
  else
    verifyPayload hdr.seq (window buf headerLen hdr.payloadLen.toNat)
    .ok hdr

/-! The header as a byte string, and its round trip. -/

def WireHeader.bytes (hdr : WireHeader) : List UInt8 :=
  magic ++ toBytes 8 hdr.seq.toNat ++ toBytes 8 hdr.tsNs.toNat ++ toBytes 4 hdr.payloadLen.toNat

@[simp] theorem magic_length : magic.length = 4 := rfl

@[simp] theorem header_bytes_length (hdr : WireHeader) : hdr.bytes.length = headerLen := by
  simp [WireHeader.bytes, headerLen]

theorem encode_bytes (hdr : WireHeader) (buf : List UInt8) :
    hdr.encode buf = hdr.bytes ++ buf.drop headerLen := by
  unfold headerLen
  simp only [WireHeader.encode, WireHeader.bytes]
  rw [overwrite_zero, overwrite_append _ _ _ magic_length, ← List.append_assoc,
    overwrite_append _ _ _ (by simp), ← List.append_assoc,
    overwrite_append _ _ _ (by simp)]
  simp [List.drop_drop]

private theorem window_front (front cells rest : List UInt8) {off len : Nat}
    (placed : front.length = off) (size : cells.length = len) :
    window (front ++ cells ++ rest) off len = cells := by
  subst placed size
  simp [window]

theorem decode_bytes (hdr : WireHeader) (rest : List UInt8) :
    WireHeader.decode (hdr.bytes ++ rest) = .ok hdr := by
  have long : ¬(hdr.bytes ++ rest).length < headerLen := by simp
  have front : window (hdr.bytes ++ rest) 0 4 = magic := by
    simp only [WireHeader.bytes, List.append_assoc]
    exact window_front [] magic _ rfl rfl
  have seq : window (hdr.bytes ++ rest) 4 8 = toBytes 8 hdr.seq.toNat := by
    simp only [WireHeader.bytes, List.append_assoc]
    rw [← List.append_assoc]
    exact window_front magic _ _ rfl (by simp)
  have ts : window (hdr.bytes ++ rest) 12 8 = toBytes 8 hdr.tsNs.toNat := by
    simp only [WireHeader.bytes, List.append_assoc]
    rw [← List.append_assoc, ← List.append_assoc]
    exact window_front _ _ _ (by simp) (by simp)
  have len : window (hdr.bytes ++ rest) 20 4 = toBytes 4 hdr.payloadLen.toNat :=
    window_front _ _ _ (by simp) (by simp)
  have seqSmall : hdr.seq.toNat < 256 ^ 8 := hdr.seq.toNat_lt
  have tsSmall : hdr.tsNs.toNat < 256 ^ 8 := hdr.tsNs.toNat_lt
  have lenSmall : hdr.payloadLen.toNat < 256 ^ 4 := hdr.payloadLen.toNat_lt
  simp only [WireHeader.decode, if_neg long, front, seq, ts, len, ne_eq, not_true_eq_false,
    if_false, fromBytes_toBytes_of_lt seqSmall, fromBytes_toBytes_of_lt tsSmall,
    fromBytes_toBytes_of_lt lenSmall, UInt64.ofNat_toNat, UInt32.ofNat_toNat]

/-- Only the first 24 bytes of a long enough buffer are looked at. -/
theorem decode_append {front : List UInt8} (rest : List UInt8)
    (long : headerLen ≤ front.length) :
    WireHeader.decode (front ++ rest) = WireHeader.decode front := by
  have longer : headerLen ≤ (front ++ rest).length := by
    rw [List.length_append]
    omega
  have enough : 24 ≤ front.length := long
  simp only [WireHeader.decode, if_neg (Nat.not_lt.mpr longer), if_neg (Nat.not_lt.mpr long),
    window_append_left (show 0 + 4 ≤ front.length by omega),
    window_append_left (show 4 + 8 ≤ front.length by omega),
    window_append_left (show 12 + 8 ≤ front.length by omega),
    window_append_left (show 20 + 4 ≤ front.length by omega)]

/-! The payload: the block loops against the ramp table are the per-byte pattern. -/

def pattern (seq : UInt64) (len : Nat) : List UInt8 := (List.range len).map (fillByte seq)

@[simp] theorem pattern_length (seq : UInt64) (len : Nat) : (pattern seq len).length = len := by
  simp [pattern]

theorem fillByte_toNat (seq : UInt64) (i : Nat) :
    (fillByte seq i).toNat = (seq.toNat + i) % 256 := by
  have mask : (seq.toNat + i) % 2 ^ 64 &&& 255 = (seq.toNat + i) % 2 ^ 64 % 256 :=
    Nat.and_two_pow_sub_one_eq_mod _ 8
  simp only [fillByte, UInt64.toNat_toUInt8, UInt64.toNat_and, UInt64.toNat_add,
    UInt64.toNat_ofNat', Nat.add_mod_mod, UInt64.toNat_ofNat, Nat.reducePow, Nat.reduceMod]
  simp only [Nat.reducePow] at mask
  rw [mask]
  omega

theorem seq_low (seq : UInt64) : (seq &&& 0xff).toNat = seq.toNat % 256 :=
  Nat.and_two_pow_sub_one_eq_mod _ 8

/-- A 256-byte block of the pattern is one window of the ramp. -/
theorem window_ramp (seq : UInt64) {pos len : Nat} (aligned : 256 ∣ pos) (block : len ≤ 256) :
    window ramp (seq &&& 0xff).toNat len = window (pattern seq (pos + len)) pos len := by
  obtain ⟨blocks, rfl⟩ := aligned
  apply List.ext_getElem
  · have low := Nat.mod_lt seq.toNat (show 0 < 256 by decide)
    simp only [window_length, ramp, List.length_map, List.length_range, pattern_length, seq_low]
    omega
  · intro i inLeft inRight
    simp only [window, ramp, pattern, List.getElem_take, List.getElem_drop, List.getElem_map,
      List.getElem_range, seq_low]
    apply UInt8.toNat_inj.mp
    rw [fillByte_toNat, UInt8.toNat_ofNat']
    omega

theorem pattern_add (seq : UInt64) (first second : Nat) :
    pattern seq (first + second) =
      pattern seq first ++ window (pattern seq (first + second)) first second := by
  have whole := window_all (pattern seq (first + second))
  rw [pattern_length, window_add, Nat.zero_add] at whole
  have front : window (pattern seq (first + second)) 0 first = pattern seq first := by
    simp [window, pattern, ← List.map_take, List.take_range]
  rw [front] at whole
  exact whole.symm

/-- A longer pattern starts with the shorter one. -/
theorem window_pattern (seq : UInt64) {short long off len : Nat} (longer : short ≤ long)
    (inside : off + len ≤ short) :
    window (pattern seq long) off len = window (pattern seq short) off len := by
  obtain ⟨beyond, rfl⟩ := Nat.exists_eq_add_of_le longer
  rw [pattern_add seq short beyond]
  exact window_append_left (by rwa [pattern_length])

theorem fillBlocks_pattern (seq : UInt64) {len pos : Nat} (rest : List UInt8)
    (aligned : pos < len → 256 ∣ pos) (inside : pos ≤ len) (size : rest.length = len - pos) :
    fillBlocks (seq &&& 0xff).toNat len pos (pattern seq pos ++ rest) = pattern seq len := by
  rw [fillBlocks]
  by_cases more : pos < len
  · have block : min (len - pos) 256 ≤ 256 := Nat.min_le_right _ _
    rw [if_pos more]
    simp only [window_ramp seq (aligned more) block]
    have width : (window (pattern seq (pos + min (len - pos) 256)) pos
        (min (len - pos) 256)).length = min (len - pos) 256 := by simp
    rw [overwrite_append _ _ _ (pattern_length seq pos), ← List.append_assoc, ← pattern_add, width]
    apply fillBlocks_pattern
    · intro unfinished
      have full : min (len - pos) 256 = 256 := by omega
      rw [full]
      exact Nat.dvd_add (aligned more) (dvd_refl 256)
    · omega
    · rw [List.length_drop]
      omega
  · have done : pos = len := by omega
    have none : rest = [] := List.eq_nil_of_length_eq_zero (by omega)
    rw [if_neg more, none, List.append_nil, done]
termination_by len - pos

theorem fillPayload_pattern (seq : UInt64) (payload : List UInt8) :
    fillPayload seq payload = pattern seq payload.length :=
  fillBlocks_pattern seq payload (fun _ => dvd_zero 256) (Nat.zero_le _) rfl

theorem verifyBlocks_pattern (seq : UInt64) {len pos : Nat} (aligned : pos < len → 256 ∣ pos) :
    verifyBlocks (seq &&& 0xff).toNat pos (pattern seq len) = .ok () := by
  rw [verifyBlocks, pattern_length]
  by_cases more : pos < len
  · have block : min (len - pos) 256 ≤ 256 := Nat.min_le_right _ _
    have inside : pos + min (len - pos) 256 ≤ len := by omega
    have same : window (pattern seq len) pos (min (len - pos) 256) =
        window ramp (seq &&& 0xff).toNat (min (len - pos) 256) := by
      rw [window_ramp seq (aligned more) block]
      exact window_pattern seq inside (le_refl _)
    simp only [if_pos more, same, ne_eq, not_true_eq_false, if_false]
    apply verifyBlocks_pattern
    intro unfinished
    have full : min (len - pos) 256 = 256 := by omega
    rw [full]
    exact Nat.dvd_add (aligned more) (dvd_refl 256)
  · rw [if_neg more]
termination_by len - pos

theorem verifyPayload_pattern (seq : UInt64) (len : Nat) :
    verifyPayload seq (pattern seq len) = .ok () :=
  verifyBlocks_pattern seq fun _ => dvd_zero 256

/-! A whole message. -/

/-- The bytes `encode_message_at` puts on the wire. -/
def message (hdr : WireHeader) : List UInt8 := hdr.bytes ++ pattern hdr.seq hdr.payloadLen.toNat

@[simp] theorem message_length (hdr : WireHeader) : (message hdr).length = hdr.total := by
  simp [message, WireHeader.total]

/-- One header and as many payload bytes as it says. -/
def WellFormed (msg : List UInt8) : Prop :=
  ∃ hdr, WireHeader.decode msg = .ok hdr ∧ msg.length = hdr.total

theorem message_wellFormed (hdr : WireHeader) : WellFormed (message hdr) :=
  ⟨hdr, decode_bytes hdr _, message_length hdr⟩

theorem encodeMessageAt_message (hdr : WireHeader) {buf : List UInt8}
    (room : hdr.total ≤ buf.length) :
    encodeMessageAt hdr.seq hdr.payloadLen hdr.tsNs buf =
      (message hdr ++ buf.drop hdr.total, hdr.total) := by
  unfold WireHeader.total at room
  have size : (window (buf.drop headerLen) 0 hdr.payloadLen.toNat).length =
      hdr.payloadLen.toNat := by
    rw [window_length, List.length_drop]
    omega
  have shifted : window (hdr.bytes ++ buf.drop headerLen) headerLen hdr.payloadLen.toNat =
      window (buf.drop headerLen) 0 hdr.payloadLen.toNat := by
    simp [window]
  simp only [encodeMessageAt, encode_bytes, Prod.mk.injEq]
  refine ⟨?_, rfl⟩
  rw [shifted, fillPayload_pattern, size, overwrite_append _ _ _ (header_bytes_length hdr),
    pattern_length, List.drop_drop, message, List.append_assoc]
  rfl

theorem decodeMessage_message (hdr : WireHeader) (rest : List UInt8) :
    decodeMessage (message hdr ++ rest) = .ok hdr := by
  have long : ¬(message hdr ++ rest).length < headerLen + hdr.payloadLen.toNat := by
    rw [List.length_append, message_length, WireHeader.total]
    omega
  have payload : window (message hdr ++ rest) headerLen hdr.payloadLen.toNat =
      pattern hdr.seq hdr.payloadLen.toNat := by
    simp [window, message, List.append_assoc]
  have header : WireHeader.decode (message hdr ++ rest) = .ok hdr := by
    rw [message, List.append_assoc, decode_bytes]
  simp only [decodeMessage, header, bind, Except.bind, if_neg long, payload,
    verifyPayload_pattern]

theorem decodeMessage_exact (hdr : WireHeader) : decodeMessage (message hdr) = .ok hdr := by
  simpa using decodeMessage_message hdr []

end Seshat.Proto.Wire
