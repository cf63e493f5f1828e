import Seshat.Proto.Wire
import Mathlib.Tactic.Common

/-! The block-wise payload path against the per-byte pattern, with every slice of the table
and of the payload checked against its bounds. -/

namespace Seshat.Proto.Wire
open Lib.Window

/-- `fill_payload` with the bounds checks of its slice expressions; `none` is a panic. -/
def fillBlocksChecked (off len pos : Nat) (payload : List UInt8) : Option (List UInt8) :=
  if pos < len then
    let n := min (len - pos) 256
    match slice? payload pos n, slice? ramp off n with
    | some _, some block => fillBlocksChecked off len (pos + n) (overwrite payload pos block)
    | _, _ => none
  else some payload
termination_by len - pos

def fillPayloadChecked (seq : UInt64) (payload : List UInt8) : Option (List UInt8) :=
  fillBlocksChecked (seq &&& 0xff).toNat payload.length 0 payload

/-- The search of a differing block, from index `i` of it on, with the table read checked. -/
def searchBlockChecked (table : List UInt8) (off i : Nat) : List UInt8 → Option (Option Nat)
  | [] => some none
  | byte :: rest =>
      match table[off + i]? with
      | none => none
      | some expected =>
          if byte ≠ expected then some (some i) else searchBlockChecked table off (i + 1) rest

/-- `verify_payload` with the bounds checks of its slices and table reads. -/
def verifyBlocksChecked (off pos : Nat) (payload : List UInt8) :
    Option (Except WireError Unit) :=
  if pos < payload.length then
    let n := min (payload.length - pos) 256
    match slice? payload pos n, slice? ramp off n with
    | some part, some block =>
        if part ≠ block then
          match searchBlockChecked ramp off 0 part with
          | none => none
          | some (some i) => some (.error (.corruptPayload (pos + i)))
          | some none => verifyBlocksChecked off (pos + n) payload
        else verifyBlocksChecked off (pos + n) payload
    | _, _ => none
  else some (.ok ())
termination_by payload.length - pos

def verifyPayloadChecked (seq : UInt64) (payload : List UInt8) : Option (Except WireError Unit) :=
  verifyBlocksChecked (seq &&& 0xff).toNat 0 payload

/-! No slice and no table read is out of range. -/

@[simp] theorem ramp_length : ramp.length = 512 := by
  rw [ramp, List.length_map, List.length_range]

theorem off_lt (seq : UInt64) : (seq &&& 0xff).toNat < 256 := by
  rw [seq_low]
  exact Nat.mod_lt _ (by decide)

theorem fillBlocksChecked_eq {off len pos : Nat} {payload : List UInt8} (low : off < 256)
    (size : payload.length = len) :
    fillBlocksChecked off len pos payload = some (fillBlocks off len pos payload) := by
  rw [fillBlocksChecked, fillBlocks]
  by_cases more : pos < len
  · have table : off + min (len - pos) 256 ≤ ramp.length := by rw [ramp_length]; omega
    have part : pos + min (len - pos) 256 ≤ payload.length := by omega
    simp only [if_pos more, slice?_of_le part, slice?_of_le table]
    apply fillBlocksChecked_eq low
    rw [overwrite_length]
    · exact size
    · rw [window_length_of_le table]
      exact part
  · rw [if_neg more, if_neg more]
termination_by len - pos

theorem find?_congr {α : Type} {xs : List α} {p q : α → Bool} (same : ∀ x ∈ xs, p x = q x) :
    xs.find? p = xs.find? q := by
  induction xs with
  | nil => rfl
  | cons x xs ih =>
      rw [List.find?_cons, List.find?_cons, same x List.mem_cons_self,
        ih fun y member => same y (List.mem_cons_of_mem x member)]

/-- The checked search finds what the index search over the block finds. -/
theorem searchBlockChecked_eq {table part : List UInt8} {off i : Nat}
    (inside : off + i + part.length ≤ table.length) :
    searchBlockChecked table off i part =
      some (((List.range part.length).find? fun j => part[j]? != table[off + i + j]?).map
        fun j => i + j) := by
  induction part generalizing i with
  | nil => rfl
  | cons byte rest ih =>
      rw [List.length_cons] at inside
      have read : table[off + i]? = some table[off + i] := List.getElem?_eq_getElem (by omega)
      have later : (List.range rest.length).find? (fun j => rest[j]? != table[off + (i + 1) + j]?) =
          (List.range rest.length).find?
            ((fun j => (byte :: rest)[j]? != table[off + i + j]?) ∘ Nat.succ) := by
        congr 1
        funext j
        rw [Function.comp_apply, List.getElem?_cons_succ]
        congr 2
        omega
      have first : table[off + i + 0]? = some table[off + i] := read
      rw [searchBlockChecked, read, List.length_cons, List.range_succ_eq_map, List.find?_cons,
        List.find?_map, List.getElem?_cons_zero, first]
      by_cases same : byte = table[off + i]
      · have equal : (some byte != some table[off + i]) = false := by simp [same]
        have shift : (fun j => i + 1 + j) = (fun j => i + j) ∘ Nat.succ := by
          funext j
          exact Nat.succ_add_eq_add_succ i j
        rw [equal]
        dsimp only
        rw [if_neg (not_not.mpr same), ih (by omega), later, Option.map_map, shift]
      · have differ : (some byte != some table[off + i]) = true := by simpa using same
        rw [differ]
        dsimp only
        rw [if_pos same]
        rfl

theorem verifyBlocksChecked_eq {off pos : Nat} {payload : List UInt8} (low : off < 256) :
    verifyBlocksChecked off pos payload = some (verifyBlocks off pos payload) := by
  rw [verifyBlocksChecked, verifyBlocks]
  by_cases more : pos < payload.length
  · have table : off + min (payload.length - pos) 256 ≤ ramp.length := by rw [ramp_length]; omega
    have part : pos + min (payload.length - pos) 256 ≤ payload.length := by omega
    have width := window_length_of_le part
    have search := @searchBlockChecked_eq ramp
      (window payload pos (min (payload.length - pos) 256)) off 0 (by rw [width]; omega)
    have found : ((List.range (min (payload.length - pos) 256)).find? fun j =>
        (window payload pos (min (payload.length - pos) 256))[j]? != ramp[off + 0 + j]?) =
        (List.range (min (payload.length - pos) 256)).find? fun i =>
          payload[pos + i]? != ramp[off + i]? := by
      refine find?_congr fun j member => ?_
      rw [window_getElem? (List.mem_range.mp member)]
      rfl
    have rest := @verifyBlocksChecked_eq off (pos + min (payload.length - pos) 256) payload low
    rw [width, found] at search
    simp only [if_pos more, slice?_of_le part, slice?_of_le table, search, rest]
    by_cases differ : window payload pos (min (payload.length - pos) 256) ≠
        window ramp off (min (payload.length - pos) 256)
    · rw [if_pos differ, if_pos differ]
      cases ((List.range (min (payload.length - pos) 256)).find? fun i =>
          payload[pos + i]? != ramp[off + i]?) with
      | none => rfl
      | some i => simp
    · rw [if_neg differ, if_neg differ]
  · rw [if_neg more, if_neg more]
termination_by payload.length - pos

/-! What the verifier reports. -/

/-- The outcome of verifying the payload from a position on: either every byte is the
pattern's, or the first one that is not is reported. -/
inductive VerifiedFrom (seq : UInt64) (payload : List UInt8) (pos : Nat) :
    Except WireError Unit → Prop where
  | clean (same : ∀ i, pos ≤ i → i < payload.length → payload[i]? = some (fillByte seq i)) :
      VerifiedFrom seq payload pos (.ok ())
  | corrupt (offset : Nat) (behind : pos ≤ offset) (inside : offset < payload.length)
      (differs : payload[offset]? ≠ some (fillByte seq offset))
      (first : ∀ i, pos ≤ i → i < offset → payload[i]? = some (fillByte seq i)) :
      VerifiedFrom seq payload pos (.error (.corruptPayload offset))

theorem pattern_getElem? (seq : UInt64) {len i : Nat} (inside : i < len) :
    (pattern seq len)[i]? = some (fillByte seq i) := by
  rw [pattern, List.getElem?_map, List.getElem?_range inside]
  rfl

/-- The table read for an index of a block is the pattern's byte. -/
theorem ramp_getElem? (seq : UInt64) {pos i : Nat} (aligned : 256 ∣ pos) (block : i < 256) :
    ramp[(seq &&& 0xff).toNat + i]? = some (fillByte seq (pos + i)) := by
  have read := congrArg (fun cells => cells[i]?) (window_ramp seq aligned (le_refl 256))
  rw [window_getElem? block, window_getElem? block, pattern_getElem? seq (by omega)] at read
  exact read

theorem VerifiedFrom.extend {seq : UInt64} {payload : List UInt8} {pos next : Nat}
    {outcome : Except WireError Unit} (ahead : pos ≤ next)
    (same : ∀ i, pos ≤ i → i < next → payload[i]? = some (fillByte seq i))
    (rest : VerifiedFrom seq payload next outcome) : VerifiedFrom seq payload pos outcome := by
  cases rest with
  | clean clean =>
      refine .clean fun i behind inside => ?_
      by_cases early : i < next
      · exact same i behind early
      · exact clean i (Nat.not_lt.mp early) inside
  | corrupt offset behind inside differs first =>
      refine .corrupt offset (le_trans ahead behind) inside differs fun i from_pos before => ?_
      by_cases early : i < next
      · exact same i from_pos early
      · exact first i (Nat.not_lt.mp early) before

theorem verifyBlocks_verified (seq : UInt64) {payload : List UInt8} {pos : Nat}
    (aligned : pos < payload.length → 256 ∣ pos) :
    VerifiedFrom seq payload pos (verifyBlocks (seq &&& 0xff).toNat pos payload) := by
  rw [verifyBlocks]
  by_cases more : pos < payload.length
  · have part : pos + min (payload.length - pos) 256 ≤ payload.length := by omega
    have read : ∀ i < min (payload.length - pos) 256,
        ramp[(seq &&& 0xff).toNat + i]? = some (fillByte seq (pos + i)) :=
      fun i inside => ramp_getElem? seq (aligned more) (by omega)
    have rest : VerifiedFrom seq payload (pos + min (payload.length - pos) 256)
        (verifyBlocks (seq &&& 0xff).toNat (pos + min (payload.length - pos) 256) payload) := by
      apply verifyBlocks_verified
      intro unfinished
      have full : min (payload.length - pos) 256 = 256 := by omega
      rw [full]
      exact Nat.dvd_add (aligned more) (dvd_refl 256)
    simp only [if_pos more]
    split
    · split
      · next i found =>
          obtain ⟨differs, inside, earlier⟩ := List.find?_range_eq_some.mp found
          rw [List.mem_range] at inside
          rw [read i inside] at differs
          refine .corrupt (pos + i) (Nat.le_add_right _ _) (by omega) (by simpa using differs) ?_
          intro j behind before
          have equal := earlier (j - pos) (by omega)
          rw [read (j - pos) (by omega), Nat.add_sub_cancel' behind] at equal
          simpa using equal
      · next none =>
          refine rest.extend (Nat.le_add_right _ _) fun j behind before => ?_
          have equal := List.find?_range_eq_none.mp none (j - pos) (by omega)
          rw [read (j - pos) (by omega), Nat.add_sub_cancel' behind] at equal
          simpa using equal
    · next same =>
        refine rest.extend (Nat.le_add_right _ _) fun j behind before => ?_
        have cell := congrArg (fun cells => cells[j - pos]?) (not_not.mp same)
        rw [window_getElem? (by omega), window_getElem? (by omega), read (j - pos) (by omega),
          Nat.add_sub_cancel' behind] at cell
        exact cell
  · rw [if_neg more]
    exact .clean fun i behind inside => by omega
termination_by payload.length - pos

theorem verifyPayload_verified (seq : UInt64) (payload : List UInt8) :
    VerifiedFrom seq payload 0 (verifyPayload seq payload) :=
  verifyBlocks_verified seq fun _ => dvd_zero 256

/-- The smallest offset at which the payload differs from the pattern. -/
def FirstMismatch (seq : UInt64) (payload : List UInt8) (offset : Nat) : Prop :=
  offset < payload.length ∧ payload[offset]? ≠ some (fillByte seq offset) ∧
    ∀ i < offset, payload[i]? = some (fillByte seq i)

theorem verifyPayload_ok_iff (seq : UInt64) (payload : List UInt8) :
    verifyPayload seq payload = .ok () ↔
      ∀ i < payload.length, payload[i]? = some (fillByte seq i) := by
  have verified := verifyPayload_verified seq payload
  constructor
  · intro accepted
    rw [accepted] at verified
    cases verified with
    | clean same => exact fun i inside => same i (Nat.zero_le i) inside
  · intro same
    generalize verifyPayload seq payload = outcome at verified
    cases verified with
    | clean _ => rfl
    | corrupt offset _ inside differs _ => exact absurd (same offset inside) differs

theorem verifyPayload_error_iff (seq : UInt64) (payload : List UInt8) (reason : WireError) :
    verifyPayload seq payload = .error reason ↔
      ∃ offset, reason = .corruptPayload offset ∧ FirstMismatch seq payload offset := by
  have verified := verifyPayload_verified seq payload
  constructor
  · intro rejected
    rw [rejected] at verified
    cases verified with
    | corrupt offset _ inside differs first =>
        exact ⟨offset, rfl, inside, differs, fun i before => first i (Nat.zero_le i) before⟩
  · rintro ⟨offset, rfl, inside, differs, first⟩
    generalize verifyPayload seq payload = outcome at verified
    cases verified with
    | clean same => exact absurd (same offset (Nat.zero_le _) inside) differs
    | corrupt other _ inside' differs' first' =>
        -- two smallest mismatches are the same one
        rcases lt_trichotomy offset other with before | rfl | after
        · exact absurd (first' offset (Nat.zero_le _) before) differs
        · rfl
        · exact absurd (first other after) differs'

/-- The block-wise payload path does what the per-byte definition says, and no slice or table
read of it is out of range. -/
theorem payload_blocks_exact (seq : UInt64) (payload : List UInt8) :
    fillPayloadChecked seq payload = some (fillPayload seq payload) ∧
      (fillPayload seq payload).length = payload.length ∧
      (∀ i < payload.length, (fillPayload seq payload)[i]? = some (fillByte seq i)) ∧
      verifyPayloadChecked seq payload = some (verifyPayload seq payload) ∧
      (verifyPayload seq payload = .ok () ↔
        ∀ i < payload.length, payload[i]? = some (fillByte seq i)) ∧
      ∀ reason, verifyPayload seq payload = .error reason ↔
        ∃ offset, reason = .corruptPayload offset ∧ FirstMismatch seq payload offset := by
  refine ⟨fillBlocksChecked_eq (off_lt seq) rfl, ?_, ?_, verifyBlocksChecked_eq (off_lt seq),
    verifyPayload_ok_iff seq payload, verifyPayload_error_iff seq payload⟩
  · rw [fillPayload_pattern, pattern_length]
  · intro i inside
    rw [fillPayload_pattern, pattern_getElem? seq inside]

end Seshat.Proto.Wire
