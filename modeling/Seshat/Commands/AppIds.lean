import Seshat.Lib.Ascii
import Seshat.Report.Results
import Seshat.Transport.LocalRules
import Mathlib.Tactic.Common

/-! The application ids of a scenario and of its connections, which stand in the paths of
sockets and are to be short. -/

namespace Seshat.Commands
open Lib.Ascii
open Report (sanitize sanitizeChar)
open Transport (connAppId connAppId_injective connAppId_toList toString_toList)

/-- The id in full. -/
def fullAppId (scenarioName : String) : String :=
  "seshat-" ++ String.ofList (sanitize scenarioName)

/-- `digest` is the hash of the name. -/
def scenarioAppId (scenarioName : String) (digest : UInt64) : String :=
  let full := fullAppId scenarioName
  if full.utf8ByteSize ≤ 40 then full
  else
    let head := (sanitize scenarioName).take (40 - 16)
    "seshat-" ++ String.ofList head ++ "-" ++ String.ofList (hexPadded 8 digest.toNat)

/-- The name fits and stands in the id as it is. -/
def Verbatim (scenarioName : String) : Prop := (fullAppId scenarioName).utf8ByteSize ≤ 40

/-! Lengths. -/

theorem sanitize_singleByte (name : String) : SingleByte (sanitize name) := by
  refine List.forall_mem_map.mpr fun c _ => ?_
  rw [sanitizeChar]
  split
  case isTrue kept =>
    rcases kept with plain | rfl | rfl | rfl
    · exact alphanum_utf8Size plain
    · decide
    · decide
    · decide
  case isFalse => decide

theorem seshat_singleByte : SingleByte "seshat-".toList := by
  have all : ("seshat-".toList.all fun c => c.utf8Size = 1) = true := by decide +kernel
  exact fun c member => of_decide_eq_true (List.all_eq_true.mp all c member)

theorem fullAppId_toList (name : String) :
    (fullAppId name).toList = "seshat-".toList ++ sanitize name :=
  String.toList_append.trans (congrArg ("seshat-".toList ++ ·) String.toList_ofList)

theorem fullAppId_singleByte (name : String) : SingleByte (fullAppId name).toList := by
  rw [fullAppId_toList]
  exact seshat_singleByte.append (sanitize_singleByte name)

theorem fullAppId_bytes (name : String) :
    (fullAppId name).utf8ByteSize = 7 + (sanitize name).length := by
  rw [utf8ByteSize_eq (fullAppId_singleByte name), fullAppId_toList, List.length_append]
  rfl

theorem scenarioAppId_verbatim {name : String} (verbatim : Verbatim name) (digest : UInt64) :
    scenarioAppId name digest = fullAppId name := if_pos verbatim

section Hashed

variable {name : String} (long : ¬Verbatim name) (digest : UInt64)
include long

theorem hashed_toList : (scenarioAppId name digest).toList =
    ("seshat-".toList ++ (sanitize name).take 24 ++ ['-']) ++ hexPadded 8 digest.toNat := by
  have hashed : scenarioAppId name digest = "seshat-" ++ String.ofList ((sanitize name).take 24) ++
      "-" ++ String.ofList (hexPadded 8 digest.toNat) := if_neg long
  rw [hashed, String.toList_append, String.toList_append, String.toList_append]
  simp only [String.toList_ofList]
  rfl

theorem hashed_singleByte : SingleByte (scenarioAppId name digest).toList := by
  rw [hashed_toList long]
  have head := (sanitize_singleByte name).subset (List.take_subset 24 _)
  have dash : SingleByte ['-'] := List.forall_mem_singleton.mpr (by decide)
  exact ((seshat_singleByte.append head).append dash).append (hexPadded_singleByte 8 _)

/-- 32 bytes and the hash. -/
theorem hashed_bytes :
    (scenarioAppId name digest).utf8ByteSize = 32 + (hexPadded 8 digest.toNat).length := by
  have beyond := Nat.not_le.mp long
  rw [fullAppId_bytes] at beyond
  have head : ((sanitize name).take 24).length = 24 := by
    rw [List.length_take]
    omega
  rw [utf8ByteSize_eq (hashed_singleByte long digest), hashed_toList long, List.length_append,
    List.length_append, List.length_append, head]
  rfl

end Hashed

theorem scenarioAppId_singleByte (name : String) (digest : UInt64) :
    SingleByte (scenarioAppId name digest).toList := by
  by_cases verbatim : Verbatim name
  · rw [scenarioAppId_verbatim verbatim]
    exact fullAppId_singleByte name
  · exact hashed_singleByte verbatim digest

/-- A longer id fits only where the hash has no more than its 8 digits. -/
theorem scenarioAppId_bytes_iff (name : String) (digest : UInt64) :
    (scenarioAppId name digest).utf8ByteSize ≤ 40 ↔ Verbatim name ∨ digest.toNat < 2 ^ 32 := by
  by_cases verbatim : Verbatim name
  · rw [scenarioAppId_verbatim verbatim]
    exact ⟨fun _ => .inl verbatim, fun _ => verbatim⟩
  · rw [hashed_bytes verbatim, or_iff_right verbatim]
    have digits := @hexPadded_length_le_iff 8 digest.toNat (by decide)
    rw [show 16 ^ 8 = 2 ^ 32 by decide] at digits
    rw [← digits]
    omega

/-! Connections. -/

theorem connSuffix_length (index : Nat) :
    s!"-c{index}".length = 2 + (Nat.toDigits 10 index).length := by
  have text : s!"-c{index}".toList = ['-', 'c'] ++ Nat.toDigits 10 index := by
    change ("-c" ++ toString index).toList = _
    rw [String.toList_append, toString_toList]
    rfl
  rw [← String.length_toList, text, List.length_append]
  rfl

theorem connAppId_singleByte {base : String} (plain : SingleByte base.toList) (index : Nat) :
    SingleByte (connAppId base index).toList := by
  have head := plain.subset (List.take_subset (40 - s!"-c{index}".length) base.toList)
  have dash : SingleByte ['-'] := List.forall_mem_singleton.mpr (by decide)
  have digits : SingleByte (Nat.toDigits 10 index) := fun c member =>
    alphanum_utf8Size (by
      rw [Char.isAlphanum, Nat.isDigit_of_mem_toDigits (by decide) (by decide) member, Bool.or_true])
  rw [connAppId_toList]
  exact (head.append dash).append (List.forall_mem_cons.mpr ⟨by decide, digits⟩)

/-- The head is trimmed to make room for the suffix. -/
theorem connAppId_bytes {base : String} (plain : SingleByte base.toList) (index : UInt64) :
    (connAppId base index.toNat).utf8ByteSize ≤ 40 := by
  have digits : (Nat.toDigits 10 index.toNat).length ≤ 20 :=
    (Nat.length_toDigits_le_iff (by decide) (by decide)).mpr
      (lt_of_lt_of_le index.toNat_lt (by decide))
  rw [utf8ByteSize_eq (connAppId_singleByte plain index.toNat), connAppId_toList,
    connSuffix_length]
  simp only [List.length_append, List.length_cons, List.length_take, List.length_nil]
  omega

/-- The ids of a scenario and of its connections are at most 40 bytes long; a name that does
not stand in them as it is has its whole hash there; and no two connections share an id. -/
structure AppIdsFit (scenarioName : String) (digest : UInt64) : Prop where
  short : (scenarioAppId scenarioName digest).utf8ByteSize ≤ 40
  hashed : ¬Verbatim scenarioName →
    hexPadded 8 digest.toNat <:+ (scenarioAppId scenarioName digest).toList
  connShort : ∀ index : UInt64,
    (connAppId (scenarioAppId scenarioName digest) index.toNat).utf8ByteSize ≤ 40
  connDistinct : Function.Injective fun index : UInt64 =>
    connAppId (scenarioAppId scenarioName digest) index.toNat

theorem appIdsFit_iff (scenarioName : String) (digest : UInt64) :
    AppIdsFit scenarioName digest ↔ Verbatim scenarioName ∨ digest.toNat < 2 ^ 32 := by
  rw [← scenarioAppId_bytes_iff]
  refine ⟨AppIdsFit.short, fun short => ?_⟩
  exact
    { short
      hashed := fun long => by
        rw [hashed_toList long]
        exact List.suffix_append _ _
      connShort := connAppId_bytes (scenarioAppId_singleByte scenarioName digest)
      connDistinct := fun i j same => UInt64.toNat_inj.mp (connAppId_injective _ same) }

/-- The hash of a name of the latency matrix has 16 digits. -/
theorem latencyAppId_overflows :
    scenarioAppId "matrix_lat_integrity_tls13_shm_shm_1KB_direct_1c" 0xe655cef222037df0 =
        "seshat-matrix_lat_integrity_tls-e655cef222037df0" ∧
      ¬AppIdsFit "matrix_lat_integrity_tls13_shm_shm_1KB_direct_1c" 0xe655cef222037df0 := by
  have id : scenarioAppId "matrix_lat_integrity_tls13_shm_shm_1KB_direct_1c" 0xe655cef222037df0 =
      "seshat-matrix_lat_integrity_tls-e655cef222037df0" := by decide +kernel
  refine ⟨id, fun fit => ?_⟩
  have short := fit.short
  rw [id] at short
  revert short
  decide +kernel

end Seshat.Commands
