import Seshat.Proto.Payload
import Mathlib.Tactic.Common

/-! The wire codec in both directions: what is encoded decodes to itself, what decodes is an
encoding, and a rejected buffer is classified by the first condition it fails. -/

namespace Seshat.Proto.Wire
open Lib.LittleEndian Lib.Window

/-- The fields at their offsets in a buffer. -/
def headerOf (buf : List UInt8) : WireHeader where
  seq := UInt64.ofNat (fromBytes (window buf 4 8))
  tsNs := UInt64.ofNat (fromBytes (window buf 12 8))
  payloadLen := UInt32.ofNat (fromBytes (window buf 20 4))

theorem word64 {n : Nat} (small : n < 256 ^ 8) : (UInt64.ofNat n).toNat = n := by
  rw [UInt64.toNat_ofNat']
  exact Nat.mod_eq_of_lt small

theorem word32 {n : Nat} (small : n < 256 ^ 4) : (UInt32.ofNat n).toNat = n := by
  rw [UInt32.toNat_ofNat']
  exact Nat.mod_eq_of_lt small

theorem window_front_eq (buf : List UInt8) (len : Nat) : window buf 0 len = buf.take len := by
  rw [window, List.drop_zero]

/-- The header of a buffer that starts with the magic is its first 24 bytes. -/
theorem headerOf_bytes {buf : List UInt8} (long : headerLen ≤ buf.length)
    (marked : buf.take 4 = magic) : (headerOf buf).bytes = buf.take headerLen := by
  have enough : 24 ≤ buf.length := long
  have field : ∀ off len, off + len ≤ 24 →
      toBytes len (fromBytes (window buf off len)) = window buf off len ∧
        fromBytes (window buf off len) < 256 ^ len := by
    intro off len inside
    have width : (window buf off len).length = len := window_length_of_le (by omega)
    have bytes := toBytes_fromBytes (window buf off len)
    have small := fromBytes_lt (window buf off len)
    rw [width] at bytes small
    exact ⟨bytes, small⟩
  obtain ⟨seq, seqSmall⟩ := field 4 8 (by decide)
  obtain ⟨ts, tsSmall⟩ := field 12 8 (by decide)
  obtain ⟨len, lenSmall⟩ := field 20 4 (by decide)
  have seqWord : (headerOf buf).seq.toNat = fromBytes (window buf 4 8) := word64 seqSmall
  have tsWord : (headerOf buf).tsNs.toNat = fromBytes (window buf 12 8) := word64 tsSmall
  have lenWord : (headerOf buf).payloadLen.toNat = fromBytes (window buf 20 4) := word32 lenSmall
  rw [WireHeader.bytes, seqWord, tsWord, lenWord, seq, ts, len, ← marked,
    ← window_front_eq buf 4, ← window_add buf 0 4 8, ← window_add buf 0 12 8,
    ← window_add buf 0 20 4, window_front_eq]
  rfl

theorem decode_eq (buf : List UInt8) :
    WireHeader.decode buf =
      if buf.length < headerLen then .error (.shortHeader buf.length)
      else if buf.take 4 ≠ magic then .error (.badMagic (buf.take 4))
      else .ok (headerOf buf) := by
  rw [← window_front_eq]
  rfl

/-- The checks of `decode_message`, one after another. -/
theorem decodeMessage_eq (buf : List UInt8) :
    decodeMessage buf =
      if buf.length < headerLen then .error (.shortHeader buf.length)
      else if buf.take 4 ≠ magic then .error (.badMagic (buf.take 4))
      else if buf.length < (headerOf buf).total then
        .error (.truncatedPayload (headerOf buf).total buf.length)
      else (verifyPayload (headerOf buf).seq
        (window buf headerLen (headerOf buf).payloadLen.toNat)).map fun _ => headerOf buf := by
  rw [decodeMessage, decode_eq]
  split
  · rfl
  · split
    · rfl
    · change (if buf.length < (headerOf buf).total then _ else _) = _
      split
      · rfl
      · cases verifyPayload (headerOf buf).seq
          (window buf headerLen (headerOf buf).payloadLen.toNat) <;> rfl

/-- The first condition that a rejected buffer fails, with what the error reports of it. -/
def Rejected (buf : List UInt8) : WireError → Prop
  | .shortHeader got => buf.length < headerLen ∧ got = buf.length
  | .badMagic found => headerLen ≤ buf.length ∧ found ≠ magic ∧ found = buf.take 4
  | .truncatedPayload need got =>
      headerLen ≤ buf.length ∧ buf.take 4 = magic ∧ buf.length < need ∧
        need = (headerOf buf).total ∧ got = buf.length
  | .corruptPayload offset =>
      headerLen ≤ buf.length ∧ buf.take 4 = magic ∧ (headerOf buf).total ≤ buf.length ∧
        FirstMismatch (headerOf buf).seq
          (window buf headerLen (headerOf buf).payloadLen.toNat) offset

theorem rejected_of_error {buf : List UInt8} {reason : WireError}
    (failed : decodeMessage buf = .error reason) : Rejected buf reason := by
  rw [decodeMessage_eq] at failed
  split at failed
  · next short =>
      cases failed
      exact ⟨short, rfl⟩
  · next long =>
      have long := Nat.not_lt.mp long
      split at failed
      · next unmarked =>
          cases failed
          exact ⟨long, unmarked, rfl⟩
      · next marked =>
          have marked := not_not.mp marked
          split at failed
          · next truncated =>
              cases failed
              exact ⟨long, marked, truncated, rfl, rfl⟩
          · next whole =>
              cases verified : verifyPayload (headerOf buf).seq
                  (window buf headerLen (headerOf buf).payloadLen.toNat) with
              | ok _ =>
                  rw [verified] at failed
                  cases failed
              | error reason =>
                  rw [verified] at failed
                  cases failed
                  obtain ⟨offset, rfl, first⟩ := (verifyPayload_error_iff _ _ _).mp verified
                  exact ⟨long, marked, Nat.not_lt.mp whole, first⟩

theorem error_of_rejected {buf : List UInt8} {reason : WireError}
    (rejected : Rejected buf reason) : decodeMessage buf = .error reason := by
  rw [decodeMessage_eq]
  cases reason with
  | shortHeader got =>
      obtain ⟨short, rfl⟩ := rejected
      rw [if_pos short]
  | badMagic found =>
      obtain ⟨long, unmarked, rfl⟩ := rejected
      rw [if_neg (Nat.not_lt.mpr long), if_pos unmarked]
  | truncatedPayload need got =>
      obtain ⟨long, marked, truncated, rfl, rfl⟩ := rejected
      rw [if_neg (Nat.not_lt.mpr long), if_neg (not_not.mpr marked), if_pos truncated]
  | corruptPayload offset =>
      obtain ⟨long, marked, whole, first⟩ := rejected
      have verified := (verifyPayload_error_iff _ _ _).mpr ⟨offset, rfl, first⟩
      rw [if_neg (Nat.not_lt.mpr long), if_neg (not_not.mpr marked), if_neg (Nat.not_lt.mpr whole),
        verified]
      rfl

/-- An accepted buffer starts with the encoding of the header it decodes to. -/
theorem message_of_ok {buf : List UInt8} {hdr : WireHeader}
    (accepted : decodeMessage buf = .ok hdr) :
    hdr.total ≤ buf.length ∧ buf.take hdr.total = message hdr := by
  rw [decodeMessage_eq] at accepted
  split at accepted
  · cases accepted
  · next long =>
      have long := Nat.not_lt.mp long
      split at accepted
      · cases accepted
      · next marked =>
          split at accepted
          · cases accepted
          · next whole =>
              have whole := Nat.not_lt.mp whole
              cases verified : verifyPayload (headerOf buf).seq
                  (window buf headerLen (headerOf buf).payloadLen.toNat) with
              | error _ =>
                  rw [verified] at accepted
                  cases accepted
              | ok _ =>
                  rw [verified] at accepted
                  cases accepted
                  have same := (verifyPayload_ok_iff _ _).mp verified
                  have width : (window buf headerLen (headerOf buf).payloadLen.toNat).length =
                      (headerOf buf).payloadLen.toNat := window_length_of_le whole
                  have payload : window buf headerLen (headerOf buf).payloadLen.toNat =
                      pattern (headerOf buf).seq (headerOf buf).payloadLen.toNat := by
                    apply List.ext_getElem?
                    intro i
                    by_cases inside : i < (headerOf buf).payloadLen.toNat
                    · rw [pattern_getElem? _ inside, same i (width.symm ▸ inside)]
                    · rw [List.getElem?_eq_none (by omega), List.getElem?_eq_none (by simpa using inside)]
                  refine ⟨whole, ?_⟩
                  rw [message, ← payload, headerOf_bytes long (not_not.mp marked),
                    WireHeader.total, ← window_front_eq, window_add, window_front_eq, Nat.zero_add]

/-- The codec in both directions, and the classification of what it rejects. -/
theorem codec_exact :
    (∀ (hdr : WireHeader) (buf rest : List UInt8), hdr.total ≤ buf.length →
      let sent := encodeMessageAt hdr.seq hdr.payloadLen hdr.tsNs buf
      sent.2 = hdr.total ∧ decodeMessage (sent.1.take sent.2 ++ rest) = .ok hdr) ∧
    (∀ (buf : List UInt8) (hdr : WireHeader), decodeMessage buf = .ok hdr →
      hdr.total ≤ buf.length ∧ ∀ scratch : List UInt8, scratch.length = hdr.total →
        buf.take hdr.total = (encodeMessageAt hdr.seq hdr.payloadLen hdr.tsNs scratch).1) ∧
    ∀ (buf : List UInt8) (reason : WireError),
      decodeMessage buf = .error reason ↔ Rejected buf reason := by
  refine ⟨?_, ?_, fun buf reason => ⟨rejected_of_error, error_of_rejected⟩⟩
  · intro hdr buf rest room
    rw [encodeMessageAt_message hdr room]
    refine ⟨rfl, ?_⟩
    change decodeMessage ((message hdr ++ buf.drop hdr.total).take hdr.total ++ rest) = .ok hdr
    rw [List.take_append_of_le_length (message_length hdr).ge,
      List.take_of_length_le (message_length hdr).le, decodeMessage_message]
  · intro buf hdr accepted
    obtain ⟨whole, front⟩ := message_of_ok accepted
    refine ⟨whole, fun scratch size => ?_⟩
    rw [encodeMessageAt_message hdr size.ge, front, ← size, List.drop_length, List.append_nil]

theorem codec_exact_three_bytes :
    let sent := encodeMessageAt 7 3 9 (List.replicate 27 0)
    decodeMessage (sent.1.take sent.2 ++ [1, 2]) = .ok { seq := 7, tsNs := 9, payloadLen := 3 } :=
  (codec_exact.1 { seq := 7, tsNs := 9, payloadLen := 3 } (List.replicate 27 0) [1, 2]
    (by decide)).2

end Seshat.Proto.Wire
