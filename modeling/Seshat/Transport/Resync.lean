import Seshat.Lib.Infix
import Seshat.Transport.FramedRun
import Mathlib.Tactic.Common

/-! Resynchronisation: a byte stream with garbage around its messages. The rescan drops
one byte at a time while no header decodes. The magic has no border, so behind garbage
without it the first place where a header can decode is the next message. -/

namespace Seshat.Transport
open Lib.Framing Lib.Infix Proto.Wire
open FramedReader (announcedTotal wireFormat wellFormed_isFrame)

theorem magic_borderless : Borderless magic := by
  unfold Borderless
  decide

/-- A header decodes only where the magic stands. -/
theorem magic_of_decode {front : List UInt8} {hdr : WireHeader}
    (decoded : WireHeader.decode front = .ok hdr) : magic <+: front := by
  simp only [WireHeader.decode] at decoded
  split at decoded
  · simp at decoded
  split at decoded
  · simp at decoded
  · next stands =>
    rw [← not_not.mp stands]
    exact List.take_prefix 4 front

theorem announced_none {cap : Nat} {front : List UInt8} (absent : ¬magic <+: front) :
    (wireFormat cap).announced front = none := by
  cases decoded : WireHeader.decode front with
  | error failed => simp only [wireFormat, announcedTotal, decoded]
  | ok hdr => exact absurd (magic_of_decode decoded) absent

theorem magic_of_wellFormed {msg : List UInt8} (wellFormed : WellFormed msg) : magic <+: msg := by
  obtain ⟨hdr, decoded, size⟩ := wellFormed
  exact magic_of_decode decoded

/-- Bytes that belong to no message. -/
structure Garbage where
  bytes : List UInt8
  clean : ¬magic <:+: bytes

/-- A message a reader of capacity `cap` can hold, and the garbage behind it. -/
structure Piece (cap : Nat) where
  msg : List UInt8
  wellFormed : WellFormed msg
  fits : msg.length ≤ cap
  behind : Garbage

def Piece.bytes {cap : Nat} (piece : Piece cap) : List UInt8 := piece.msg ++ piece.behind.bytes

/-- What is on the wire: garbage, then every message with the garbage behind it. -/
def noisy {cap : Nat} (lead : Garbage) (pieces : List (Piece cap)) : List UInt8 :=
  lead.bytes ++ pieces.flatMap Piece.bytes

namespace Garbage

theorem absent_at_end (garbage : Garbage) {cell : UInt8} {tail : List UInt8}
    (ends : cell :: tail <:+ garbage.bytes) : ¬magic <:+: cell :: tail :=
  fun found => garbage.clean (found.trans ends.isInfix)

/-- Garbage at the end of a stream is dropped or left waiting. -/
theorem frames_trailing {cap : Nat} (garbage : Garbage) :
    frames (wireFormat cap) garbage.bytes = [] := by
  rw [← List.append_nil garbage.bytes, frames_skip, frames_nil]
  intro cell tail ends
  rw [List.append_nil]
  exact announced_none fun found => garbage.absent_at_end ends found.isInfix

/-- Garbage in front of a message is dropped, and nothing of the message with it. -/
theorem frames_before {cap : Nat} (garbage : Garbage) {rest : List UInt8}
    (next : magic <+: rest) :
    frames (wireFormat cap) (garbage.bytes ++ rest) = frames (wireFormat cap) rest := by
  apply frames_skip
  intro cell tail ends
  apply announced_none
  exact magic_borderless.not_prefix_append (garbage.absent_at_end ends)
    (List.cons_ne_nil cell tail) next

end Garbage

/-- The frames of a noisy stream are its messages. -/
theorem frames_noisy {cap : Nat} (lead : Garbage) (pieces : List (Piece cap)) :
    frames (wireFormat cap) (noisy lead pieces) = pieces.map Piece.msg := by
  induction pieces generalizing lead with
  | nil =>
    rw [noisy, List.flatMap_nil, List.append_nil]
    exact lead.frames_trailing
  | cons piece pieces ih =>
    have starts : magic <+: piece.msg ++ noisy piece.behind pieces :=
      (magic_of_wellFormed piece.wellFormed).trans (List.prefix_append _ _)
    have whole := wellFormed_isFrame piece.wellFormed piece.fits
    have joined : noisy lead (piece :: pieces) =
        lead.bytes ++ (piece.msg ++ noisy piece.behind pieces) := by
      rw [noisy, List.flatMap_cons, Piece.bytes, List.append_assoc, noisy]
    rw [joined, lead.frames_before starts, frames_some _ (pull_frame _ whole _), ih,
      List.map_cons]

namespace FramedReader

theorem new_remaining_noisy (messageBytes : UInt32) (lead : Garbage)
    (pieces : List (Piece (new messageBytes).buf.length)) {src : ByteSource}
    (carried : src.bytes = noisy lead pieces) :
    (new messageBytes).remaining src = pieces.map Piece.msg := by
  rw [remaining, new_pending, List.nil_append, carried]
  exact frames_noisy lead pieces

end FramedReader

/-- However a noisy stream is cut into reads, and however single and batched calls are
mixed, the calls deliver exactly its messages, and then `Closed`. -/
theorem readRun_resyncs (messageBytes : UInt32) (lead : Garbage)
    (pieces : List (Piece (FramedReader.new messageBytes).buf.length)) (src : ByteSource)
    (calls : List ReadCall) (carried : src.bytes = noisy lead pieces) (steady : src.Steady)
    (slots : ∀ call ∈ calls, call.HasSlot)
    (room : ∀ call ∈ calls, ∀ piece ∈ pieces, piece.msg.length ≤ call.slotSize) :
    let replies := readRun (.new messageBytes) src calls
    let msgs := pieces.map Piece.msg
    delivered replies <+: msgs ∧ (∀ kind, .failed kind ∉ replies) ∧
      (msgs.length + src.pauses ≤ calls.countP ReadCall.blocking → delivered replies = msgs) ∧
      (msgs.length + src.pauses < calls.countP ReadCall.blocking → .closed ∈ replies) ∧
      ∀ before after, replies = before ++ .closed :: after →
        delivered before = msgs ∧ delivered after = [] := by
  intro replies msgs
  have holds : (FramedReader.new messageBytes).remaining src = msgs :=
    FramedReader.new_remaining_noisy messageBytes lead pieces carried
  have fits : ∀ call ∈ calls, ∀ frame ∈ (FramedReader.new messageBytes).remaining src,
      frame.length ≤ call.slotSize := by
    intro call inCalls frame member
    rw [holds, List.mem_map] at member
    obtain ⟨piece, inPieces, rfl⟩ := member
    exact room call inCalls piece inPieces
  have run : FramedReader.AnsweredRun (.new messageBytes) src calls replies :=
    FramedReader.readRun_answered slots fits (FramedReader.new_holds messageBytes) steady
  rw [← holds]
  refine ⟨run.front, run.no_failure, fun enough => ?_, fun enough => ?_,
    fun before after ends => ?_⟩
  · exact run.delivers_all enough
  · exact run.closes enough
  · exact run.closed_last ends

/-- Half a magic in front of one message, cut inside its header, and garbage behind it. -/
theorem readRun_resyncs_torn :
    let msg := message { seq := 7, tsNs := 5, payloadLen := 3 }
    let src : ByteSource :=
      [.chunk (0xAA :: magic.take 3 ++ msg.take 2) (by decide), .fails .wouldBlock,
        .chunk (msg.drop 2 ++ [0x53, 0x45]) (by decide)]
    let calls := [.nextMessage (List.replicate 32 0), .nextMessage (List.replicate 32 0)]
    delivered (readRun (.new 27) src calls) = [msg] := by
  intro msg src calls
  have capacity : msg.length ≤ (FramedReader.new 27).buf.length := by
    rw [FramedReader.new, List.length_replicate]
    decide
  let lead : Garbage := ⟨0xAA :: magic.take 3, by decide⟩
  let piece : Piece (FramedReader.new 27).buf.length :=
    ⟨msg, message_wellFormed _, capacity, ⟨[0x53, 0x45], by decide⟩⟩
  have all := readRun_resyncs 27 lead [piece] src calls rfl
    (by simp [src, ByteSource.Steady])
    (by simp [calls, ReadCall.HasSlot])
    (by simp [calls, ReadCall.slotSize, piece, msg, WireHeader.total, headerLen])
  exact all.2.2.1 (Nat.le_refl 2)

end Seshat.Transport
