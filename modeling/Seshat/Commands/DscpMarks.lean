import Seshat.Commands.MultiStream
import Seshat.System.PerfStat
import Mathlib.Tactic.Common

/-! The DSCP tag of a stream, from its name in the configuration to the verdict on the packets
that reached the receiver. -/

namespace Seshat.Commands
open Config (trim)
open Lib.Rounds Lib.Saturating Workload

/-- The names `parse_dscp_tag` knows. -/
def dscpNames : List (String × UInt8) :=
  [("EF", 46), ("BE", 0), ("CS0", 0), ("DF", 0), ("CS1", 8), ("CS2", 16), ("CS3", 24), ("CS4", 32),
    ("CS5", 40), ("CS6", 48), ("CS7", 56), ("AF11", 10), ("AF12", 12), ("AF13", 14), ("AF21", 18),
    ("AF22", 20), ("AF23", 22), ("AF31", 26), ("AF32", 28), ("AF33", 30), ("AF41", 34),
    ("AF42", 36), ("AF43", 38)]

/-- `str::parse::<u8>`, where the number fits six bits. -/
def parseSixBits (text : List Char) : Option UInt8 :=
  (System.parseU64 text).bind fun n => if n.toNat < 64 then some n.toUInt8 else none

def dscpToTos (dscp : UInt8) : UInt8 := dscp <<< 2

section Upper

variable (upper : List Char → List Char)

/-- `upper` is `str::to_uppercase`. -/
def parseDscpTag (tag : String) : Option UInt8 :=
  let tag := upper (trim tag.toList)
  match dscpNames.lookup (.ofList tag) with
  | some value => some value
  | none => parseSixBits tag

def dscpMark (tag : String) : DscpMark where
  label := .ofList (upper tag.toList)
  value := parseDscpTag upper tag

end Upper

/-! The mark. -/

theorem dscpNames_small : ∀ entry ∈ dscpNames, entry.2 < 64 := by decide

theorem lookup_mem {α β : Type*} [DecidableEq α] {list : List (α × β)} {key : α} {value : β}
    (found : list.lookup key = some value) : (key, value) ∈ list := by
  induction list with
  | nil => cases found
  | cons entry rest ih =>
    rw [List.lookup_cons] at found
    split at found
    · next same =>
      obtain rfl := Option.some.inj found
      rw [eq_of_beq same]
      exact List.mem_cons_self
    · exact List.mem_cons_of_mem _ (ih found)

/-- A tag that is known has six bits. -/
theorem parseDscpTag_lt {upper : List Char → List Char} {tag : String} {dscp : UInt8}
    (known : parseDscpTag upper tag = some dscp) : dscp < 64 := by
  unfold parseDscpTag at known
  simp only at known
  split at known
  · next value found =>
    obtain rfl := Option.some.inj known
    exact dscpNames_small _ (lookup_mem found)
  · obtain ⟨n, -, small⟩ := Option.bind_eq_some_iff.mp known
    split at small
    · next fits =>
      obtain rfl := Option.some.inj small
      refine UInt8.lt_iff_toNat_lt.mpr ?_
      rw [UInt64.toNat_toUInt8]
      exact lt_of_le_of_lt (Nat.mod_le _ _) fits
    · cases small

/-- The byte a socket with this tag sends, whatever its two ECN bits. -/
def Marked (dscp tos : UInt8) : Prop := ∃ ecn : UInt8, ecn < 4 ∧ tos = dscpToTos dscp + ecn

theorem tosToDscp_marked {dscp : UInt8} (small : dscp < 64) (tos : UInt8) :
    tosToDscp tos = dscp ↔ Marked dscp tos := by
  have six : dscp.toNat < 64 := UInt8.lt_iff_toNat_lt.mp small
  have read : (tosToDscp tos).toNat = tos.toNat / 4 := by
    rw [tosToDscp, UInt8.toNat_shiftRight]
    exact Nat.shiftRight_eq_div_pow _ 2
  have sent : (dscpToTos dscp).toNat = dscp.toNat * 4 := by
    rw [dscpToTos, UInt8.toNat_shiftLeft]
    change dscp.toNat <<< 2 % 2 ^ 8 = _
    rw [Nat.shiftLeft_eq, Nat.mod_eq_of_lt (by omega)]
  have byte := tos.toNat_lt
  constructor
  · intro same
    have quotient : tos.toNat / 4 = dscp.toNat := read ▸ congrArg UInt8.toNat same
    refine ⟨UInt8.ofNat (tos.toNat % 4), UInt8.lt_iff_toNat_lt.mpr ?_, UInt8.toNat_inj.mp ?_⟩
    · rw [UInt8.toNat_ofNat', Nat.mod_eq_of_lt (by omega)]
      exact Nat.mod_lt _ (by decide)
    · rw [UInt8.toNat_add, sent, UInt8.toNat_ofNat']
      omega
  · rintro ⟨ecn, low, rfl⟩
    have two : ecn.toNat < 4 := UInt8.lt_iff_toNat_lt.mp low
    refine UInt8.toNat_inj.mp ?_
    rw [read, UInt8.toNat_add, sent]
    omega

/-! The tally. -/

/-- What a receiver that expects a mark has seen of these bytes. -/
def tally (expected : Option UInt8) (shown : List UInt8) : DscpObservation :=
  expected.elim {} fun dscp => shown.foldl (fun seen tos => seen.record tos dscp) {}

/-- The bytes shown with the messages admitted to the metrics. -/
def shownMarks (received : List Received) : List UInt8 :=
  (received.filter fun r => r.stage.measuring).filterMap fun r => r.arrival.tos

theorem observeDscp_tally (expected : Option UInt8) (shown : List UInt8) (tos : Option UInt8) :
    observeDscp expected (tally expected shown) tos = tally expected (shown ++ tos.toList) := by
  cases expected with
  | none => cases tos <;> rfl
  | some dscp =>
    cases tos with
    | none => exact congrArg (tally (some dscp)) (List.append_nil shown).symm
    | some tos =>
      simp only [tally, Option.elim_some, Option.toList_some, List.foldl_append]
      rfl

theorem receiveRound_tally (cfg : StreamConfig) {state : StreamReceiver} {shown : List UInt8}
    (seen : state.dscpSeen = tally cfg.dscpTag shown) (turn : ReceiveTurn) :
    (receiveRound cfg state turn).state.dscpSeen =
      tally cfg.dscpTag (shown ++ shownMarks (receiveRound cfg state turn).emitted) := by
  have kept : state.dscpSeen = tally cfg.dscpTag (shown ++ shownMarks []) := by
    rw [seen, shownMarks, List.filter_nil, List.filterMap_nil, List.append_nil]
  unfold receiveRound
  split
  · exact kept
  · split
    · next arrival answered =>
      by_cases admitted : turn.counted.measuring = true
      · have marks : shownMarks [{ arrival, stage := turn.counted : Received }] =
            arrival.tos.toList := by
          cases shown : arrival.tos <;> simp [shownMarks, admitted, shown]
        simp only [admitted, if_true, marks]
        rw [seen, observeDscp_tally]
      · have marks : shownMarks [{ arrival, stage := turn.counted : Received }] = [] := by
          simp [shownMarks, admitted]
        simp only [admitted, Bool.false_eq_true, if_false, marks, List.append_nil]
        exact seen
    · exact kept
    · exact kept
    · exact kept

/-- A receiver has tallied the marks of all it has admitted. -/
theorem received_tally (cfg : StreamConfig) (trace : StreamTrace) :
    (streamReceiver cfg trace).state.dscpSeen =
      tally cfg.dscpTag (shownMarks (trace.received cfg)) := by
  refine @rounds_keeps _ _ _ (receiveRound cfg) {}
    (fun state out => state.dscpSeen = tally cfg.dscpTag (shownMarks out)) trace.receives
    (fun state out turn _ seen => ?_) ?_
  · rw [receiveRound_tally cfg seen turn, shownMarks, shownMarks, shownMarks, List.filter_append,
      List.filterMap_append]
  · cases cfg.dscpTag <;> rfl

theorem foldl_record (dscp : UInt8) (shown : List UInt8) (seen : DscpObservation) :
    (shown.foldl (fun seen tos => seen.record tos dscp) seen).observed.toNat =
        min (seen.observed.toNat + shown.length) top ∧
      (shown.foldl (fun seen tos => seen.record tos dscp) seen).matched.toNat =
        min (seen.matched.toNat + shown.countP fun tos => tosToDscp tos = dscp) top := by
  induction shown generalizing seen with
  | nil =>
    exact ⟨(min_eq_left (toNat_le_top _)).symm, (min_eq_left (toNat_le_top _)).symm⟩
  | cons tos rest ih =>
    obtain ⟨observed, matched⟩ := ih (seen.record tos dscp)
    have one : (1 : UInt64).toNat = 1 := rfl
    have capped (a b most : Nat) : min (min (a + 1) most + b) most = min (a + (b + 1)) most := by
      omega
    rw [List.foldl_cons]
    refine ⟨?_, ?_⟩
    · rw [observed, DscpObservation.record, satAdd_toNat, List.length_cons, one]
      exact capped _ _ _
    · rw [matched, DscpObservation.record, List.countP_cons]
      by_cases same : tosToDscp tos = dscp
      · simp only [same, decide_true, if_true]
        rw [satAdd_toNat, one]
        exact capped _ _ _
      · simp only [same, decide_false, Bool.false_eq_true, if_false, Nat.add_zero]

/-- The verdict on fewer bytes than a word counts. -/
theorem tally_verdict (dscp : UInt8) {shown : List UInt8} (few : shown.length ≤ top) :
    (tally (some dscp) shown).verdict =
      if shown = [] then none else some (shown.all fun tos => tosToDscp tos = dscp) := by
  obtain ⟨observed, matched⟩ := foldl_record dscp shown {}
  have part := @List.countP_le_length _ (fun tos => decide (tosToDscp tos = dscp)) shown
  rw [show (({} : DscpObservation).observed).toNat = 0 from rfl, Nat.zero_add,
    min_eq_left few] at observed
  rw [show (({} : DscpObservation).matched).toNat = 0 from rfl, Nat.zero_add,
    min_eq_left (part.trans few)] at matched
  rw [DscpObservation.verdict, tally, Option.elim_some]
  rcases eq_or_ne shown [] with rfl | some_
  · rfl
  · have positive : 0 < (shown.foldl (fun seen tos => DscpObservation.record seen tos dscp)
        {}).observed := by
      refine UInt64.lt_iff_toNat_lt.mpr ?_
      rw [observed]
      exact List.length_pos_iff.mpr some_
    rw [if_pos positive, if_neg some_]
    refine congrArg some (Bool.eq_iff_iff.mpr ?_)
    rw [decide_eq_true_iff, ← UInt64.toNat_inj, matched, observed, List.countP_eq_length,
      List.all_eq_true]

/-- Whatever the path does, the verdict on a stream tells of its marks just what was seen: none
of a stream without a tag or without a byte shown in the window, and of any other whether
each byte shown is one that the tagged socket of its sender puts out. A tag that is read has six
bits. -/
theorem dscpPreserved_exact (sqrt : ℚ → ℚ) (upper : List Char → List Char) (measureSecs : ℚ)
    (trafficClass : String) (i : Nat) (stream : Config.Stream) (trace : StreamTrace) :
    let cfg := streamConfig (dscpMark upper) trafficClass i stream
    let tag := parseDscpTag upper stream.priority.dscpTag
    let shown := shownMarks (trace.received cfg)
    let verdict := (streamResult sqrt measureSecs cfg trace).dscpPreserved
    shown.length < 2 ^ 64 →
      (verdict = none ↔ tag = none ∨ shown = []) ∧
      (verdict = some true ↔
        shown ≠ [] ∧ ∃ dscp, tag = some dscp ∧ ∀ tos ∈ shown, Marked dscp tos) ∧
      (verdict = some false ↔
        ∃ dscp, tag = some dscp ∧ ∃ tos ∈ shown, ¬Marked dscp tos) ∧
      ∀ dscp, tag = some dscp → dscp < 64 := by
  intro cfg tag shown verdict few
  have judged : verdict = (tally tag shown).verdict :=
    congrArg DscpObservation.verdict (received_tally cfg trace)
  cases known : tag with
  | none =>
    have unknown : verdict = none := by
      rw [judged, known]
      rfl
    simp [unknown]
  | some dscp =>
    have bits := parseDscpTag_lt known
    have read := tally_verdict dscp (Nat.le_of_lt_succ few : shown.length ≤ top)
    rw [known, read] at judged
    have marked (tos : UInt8) : tosToDscp tos = dscp ↔ Marked dscp tos :=
      tosToDscp_marked bits tos
    rw [judged]
    rcases eq_or_ne shown [] with empty | some_
    · simp [empty, bits]
    · simp [some_, marked, bits]

def markedTurn (tos : UInt8) : ReceiveTurn where
  head := .measure
  answer := .ok (.message { origin := 0, msg := [], tos := some tos })
  recvNs := 0
  counted := .measure

/-- Two packets of a stream tagged `EF`, one of which has met congestion. -/
def expeditedTrace : StreamTrace where
  startNs := 0
  sends := []
  receives := [markedTurn 184, markedTurn 187]
  unread := []

theorem dscpPreserved_exact_expedited :
    (streamResult id 1 (streamConfig (dscpMark (List.map Char.toUpper)) "safety" 0
      (oneStream .periodic (some 100))) expeditedTrace).dscpPreserved = some true := by
  have shown : shownMarks (expeditedTrace.received (streamConfig
      (dscpMark (List.map Char.toUpper)) "safety" 0 (oneStream .periodic (some 100)))) =
        [184, 187] := rfl
  have exactly := dscpPreserved_exact id (List.map Char.toUpper) 1 "safety" 0
    (oneStream .periodic (some 100)) expeditedTrace (by rw [shown]; decide)
  refine exactly.2.1.mpr ⟨by rw [shown]; decide, 46, by decide +kernel, ?_⟩
  rw [shown]
  simp only [List.forall_mem_cons, List.not_mem_nil, false_imp_iff, implies_true, and_true]
  exact ⟨⟨0, by decide, rfl⟩, 3, by decide, rfl⟩

end Seshat.Commands
