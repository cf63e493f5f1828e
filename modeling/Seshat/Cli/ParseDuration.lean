import Seshat.Lib.Binary64
import Seshat.Lib.Durations
import Seshat.System.PerfStat
import Mathlib.Tactic.NormNum

/-! The durations of the command line. -/

namespace Seshat.Cli
open Config (trim asciiLower)
open Report (Text)
open Lib.Binary64 Lib.Durations

/-! Numbers. -/

/-- The names of the infinities and NaNs. -/
def parseSpecial (text : Text) : Option F64 :=
  let (negative, body) := System.signed text
  let name := asciiLower body
  if name = "inf".toList ∨ name = "infinity".toList then some (.infinite negative)
  else if name = "nan".toList then some .nan
  else none

/-- `str::parse::<f64>` -/
def parseFloat (text : Text) : Option F64 :=
  match System.parseF64 text with
  | some q => some (.round q)
  | none => parseSpecial text

/-- `Duration::from_secs_f64`; `none` is a panic. -/
def fromSecsF64 : F64 → Option Duration
  | .finite secs => if secs < 0 then none else ofNanos? (roundHalfEven (secs * 10 ^ 9))
  | _ => none

/-! Units. -/

inductive TimeUnit where
  | ms
  | s
  | m
  | h
  deriving DecidableEq

namespace TimeUnit

def label : TimeUnit → Text
  | .ms => "ms".toList
  | .s => "s".toList
  | .m => "m".toList
  | .h => "h".toList

/-- The double the number is multiplied with. -/
def toSecs : TimeUnit → ℚ
  | .ms => 1152921504606847 / 2 ^ 60
  | .s => 1
  | .m => 60
  | .h => 3600

end TimeUnit

example : F64.round (1 / 1000) = .finite TimeUnit.ms.toSecs := by decide +kernel

/-- The number's text and the unit; seconds, if there is none. -/
def splitUnit (s : Text) : Text × TimeUnit :=
  match s.dropSuffix? TimeUnit.ms.label with
  | some value => (value, .ms)
  | none =>
      match s.dropSuffix? TimeUnit.s.label with
      | some value => (value, .s)
      | none =>
          match s.dropSuffix? TimeUnit.m.label with
          | some value => (value, .m)
          | none =>
              match s.dropSuffix? TimeUnit.h.label with
              | some value => (value, .h)
              | none => (s, .s)

def outOfRange (input : Text) : Text :=
  "duration '".toList ++ input ++ "' must be non-negative and finite".toList

/-- The duration of a parsed value; `none` is a panic. -/
def toDuration (input : Text) (unit : TimeUnit) : F64 → Option (Except Text Duration)
  | .finite value =>
      if value < 0 then some (.error (outOfRange input))
      else (fromSecsF64 (.round (value * unit.toSecs))).map .ok
  | _ => some (.error (outOfRange input))

def parseDuration (input : Text) : Option (Except Text Duration) :=
  let s := trim input
  if s = [] then some (.error "empty duration".toList)
  else
    let (valueStr, unit) := splitUnit s
    match parseFloat (trim valueStr) with
    | none =>
        some (.error ("invalid duration '".toList ++ input ++ "' (unit '".toList ++ unit.label ++
          "')".toList))
    | some value => toDuration input unit value

/-! Seconds that fit. -/

/-- The numbers whose product with the unit is rounded to less than 2^64 seconds. -/
def TimeUnit.Below : TimeUnit → ℚ → Prop
  | .ms, q => q < 18446744073709550567424
  | .s, q => q < 18446744073709550592
  | .m, q => q ≤ 307445734561825824
  | .h, q => q ≤ 10248191152060861 / 2

theorem toSecs_pos (unit : TimeUnit) : 0 < unit.toSecs := by
  cases unit <;> norm_num [TimeUnit.toSecs]

/-- The last double before 2^64 is 2048 away from it. -/
theorem onGrid_lt_limit {q : ℚ} (nonneg : 0 ≤ q) :
    onGrid q < 2 ^ 64 - 1 / (2 * 10 ^ 9) ↔ q < 2 ^ 64 - 1024 := by
  rw [onGrid_lt_iff (k := 63) (n := 2 ^ 53) (by decide) (by norm_num) (by norm_num) (by norm_num)
    (by norm_num) nonneg]
  norm_num

theorem onGrid_lt_unit (unit : TimeUnit) {q : ℚ} (nonneg : 0 ≤ q) :
    onGrid q < (2 ^ 64 - 1024) / unit.toSecs ↔ unit.Below q := by
  cases unit with
  | ms =>
    rw [onGrid_lt_iff (k := 73) (n := 8796093022208000) (by decide) (by norm_num) (by norm_num)
      (by norm_num [TimeUnit.toSecs]) (by norm_num [TimeUnit.toSecs]) nonneg]
    norm_num [TimeUnit.Below]
  | s =>
    rw [onGrid_lt_iff (k := 63) (n := 2 ^ 53) (by decide) (by norm_num) (by norm_num)
      (by norm_num [TimeUnit.toSecs]) (by norm_num [TimeUnit.toSecs]) nonneg]
    norm_num [TimeUnit.Below]
  | m =>
    rw [onGrid_lt_iff (k := 58) (n := 4803839602528529) (by decide) (by norm_num) (by norm_num)
      (by norm_num [TimeUnit.toSecs]) (by norm_num [TimeUnit.toSecs]) nonneg]
    norm_num [TimeUnit.Below, le_iff_lt_or_eq]
  | h =>
    rw [onGrid_lt_iff (k := 52) (n := 5124095576030431) (by decide) (by norm_num) (by norm_num)
      (by norm_num [TimeUnit.toSecs]) (by norm_num [TimeUnit.toSecs]) nonneg]
    norm_num [TimeUnit.Below, le_iff_lt_or_eq]

theorem onGrid_finite_iff {q : ℚ} (nonneg : 0 ≤ q) :
    onGrid q < 2 ^ 1024 ↔ q < 2 ^ 1024 - 2 ^ 970 := by
  have step : (2 : ℚ) ^ ((1023 : ℤ) - 52) = 2 * 2 ^ 970 := by
    rw [show (1023 : ℤ) - 52 = (971 : ℕ) by norm_num, zpow_natCast, pow_succ, mul_comm]
  have whole : (2 : ℚ) ^ 1024 = 2 ^ 54 * 2 ^ 970 := pow_add 2 54 970
  have positive : (0 : ℚ) < 2 ^ 970 := pow_pos (by norm_num) _
  have above : (((2 ^ 53 : ℕ) : ℚ) - 1) * 2 ^ ((1023 : ℤ) - 52) < 2 ^ 1024 := by
    rw [step, whole]
    generalize (2 : ℚ) ^ 970 = room at positive
    norm_num
    linarith
  have below : (2 : ℚ) ^ 1024 ≤ ((2 ^ 53 : ℕ) : ℚ) * 2 ^ ((1023 : ℤ) - 52) := by
    rw [step, whole]
    generalize (2 : ℚ) ^ 970 = room at positive
    norm_num
    linarith
  rw [onGrid_lt_iff (by decide) (by norm_num) (by norm_num) above below nonneg, step, whole]
  generalize (2 : ℚ) ^ 970 = room
  norm_num
  constructor <;> intro less <;> linarith

/-- What is computed of the number fits exactly below that bound. -/
theorem product_fits_iff (unit : TimeUnit) {q : ℚ} (nonneg : 0 ≤ q) :
    roundHalfEven (onGrid (onGrid q * unit.toSecs) * 10 ^ 9) < limit ↔ unit.Below q := by
  have product : 0 ≤ onGrid q * unit.toSecs := mul_nonneg (onGrid_nonneg q) (toSecs_pos unit).le
  have scaled : 0 ≤ onGrid (onGrid q * unit.toSecs) * 10 ^ 9 :=
    mul_nonneg (onGrid_nonneg _) (by norm_num)
  rw [roundHalfEven_lt_iff scaled, ← onGrid_lt_unit unit nonneg, lt_div_iff₀ (toSecs_pos unit),
    ← onGrid_lt_limit product]
  have even : limit % 2 = 0 := by decide
  rw [even]
  unfold limit
  push_cast
  constructor
  · rintro (below | ⟨-, odd⟩)
    · linarith
    · cases odd
  · intro below
    exact .inl (by linarith)

/-! What a text stands for. -/

/-- The number and the unit of a duration text. -/
def Denotes (input : Text) (q : ℚ) (unit : TimeUnit) : Prop :=
  trim input ≠ [] ∧ (splitUnit (trim input)).2 = unit ∧
    System.parseF64 (trim (splitUnit (trim input)).1) = some q

def TimeUnit.seconds : TimeUnit → ℚ
  | .ms => 1 / 1000
  | .s => 1
  | .m => 60
  | .h => 3600

/-- The number times its unit, in the doubles of the program and then in nanoseconds. -/
structure Amount (q : ℚ) (unit : TimeUnit) (d : Duration) : Prop where
  rounded : ∃ value secs, F64.round q = .finite value ∧
    F64.round (value * unit.toSecs) = .finite secs ∧ d.ns = roundHalfEven (secs * 10 ^ 9)
  near : |(d.ns : ℚ) - q * unit.seconds * 10 ^ 9| ≤
    1 / 2 + |q| * unit.seconds * 10 ^ 9 * 2 ^ (-51 : ℤ) + 2 ^ (-1000 : ℤ)

/-- The text is turned down, or leads to the duration it stands for. -/
def ParsesRight (input : Text) : Prop :=
  ∃ result, parseDuration input = some result ∧
    ∀ d, result = .ok d → ∃ q unit, Denotes input q unit ∧ Amount q unit d

theorem round_finite {q : ℚ} (nonneg : 0 ≤ q) (finite : onGrid q < 2 ^ 1024) :
    F64.round q = .finite (onGrid q) := by
  rw [F64.round, abs_of_nonneg nonneg, if_neg (not_le.mpr finite), if_neg (not_lt.mpr nonneg)]

theorem round_infinite {q : ℚ} (large : 2 ^ 1024 ≤ onGrid |q|) : ∃ negative,
    F64.round q = .infinite negative := ⟨_, if_pos large⟩

theorem round_negative {q : ℚ} (negative : q < 0) (finite : onGrid |q| < 2 ^ 1024) :
    F64.round q = .finite (-onGrid |q|) := by
  rw [F64.round, if_neg (not_le.mpr finite), if_pos negative]

theorem toSecs_near (unit : TimeUnit) :
    |unit.toSecs - unit.seconds| ≤ unit.seconds * 2 ^ (-53 : ℤ) := by
  cases unit <;> norm_num [TimeUnit.toSecs, TimeUnit.seconds, abs_le]

theorem seconds_bound (unit : TimeUnit) : 0 < unit.seconds ∧ unit.seconds ≤ 3600 := by
  cases unit <;> norm_num [TimeUnit.seconds]

/-- Three roundings of doubles and one of nanoseconds. -/
theorem product_near (unit : TimeUnit) {q : ℚ} (nonneg : 0 ≤ q) :
    |(roundHalfEven (onGrid (onGrid q * unit.toSecs) * 10 ^ 9) : ℚ) - q * unit.seconds * 10 ^ 9| ≤
      1 / 2 + q * unit.seconds * 10 ^ 9 * 2 ^ (-51 : ℤ) + 2 ^ (-1000 : ℤ) := by
  have product : 0 ≤ onGrid q * unit.toSecs := mul_nonneg (onGrid_nonneg q) (toSecs_pos unit).le
  obtain ⟨positive, most⟩ := seconds_bound unit
  have amount : 0 ≤ q * unit.seconds := mul_nonneg nonneg positive.le
  have secs := product_error (toSecs_pos unit).le (two_zpow_pos (-53)).le nonneg
    (onGrid_near nonneg) (toSecs_near unit) (onGrid_near product)
  have last := abs_le.mp (roundHalfEven_error
    (mul_nonneg (onGrid_nonneg (onGrid q * unit.toSecs)) (by norm_num : (0 : ℚ) ≤ 10 ^ 9)))
  have tiny : (2 : ℚ) ^ (-1000 : ℤ) = 2 ^ (-1075 : ℤ) * 2 ^ 75 := by
    rw [← zpow_natCast, ← zpow_add₀ (by norm_num)]
    norm_num
  have relative : (2 : ℚ) ^ (-53 : ℤ) = 1 / 9007199254740992 := by norm_num
  have allowed : (2 : ℚ) ^ (-51 : ℤ) = 1 / 2251799813685248 := by norm_num
  have smallest := two_zpow_pos (-1075)
  rw [relative] at secs
  rw [tiny, allowed]
  generalize (2 : ℚ) ^ (-1075 : ℤ) = η at secs smallest ⊢
  have rest := mul_le_mul_of_nonneg_right most smallest.le
  have within := abs_le.mp secs
  rw [abs_le]
  constructor <;> linarith

section Texts

variable {input : Text} {q : ℚ} {unit : TimeUnit}

theorem parseDuration_number (denotes : Denotes input q unit) :
    parseDuration input = toDuration input unit (.round q) := by
  obtain ⟨text, rfl, number⟩ := denotes
  unfold parseDuration parseFloat
  rw [if_neg text]
  dsimp only
  rw [number]

/-- A text without a number is turned down. -/
theorem parseDuration_other (other : ¬∃ q unit, Denotes input q unit) :
    ∃ reason, parseDuration input = some (.error reason) := by
  unfold parseDuration
  by_cases empty : trim input = []
  · exact ⟨_, if_pos empty⟩
  · have number : System.parseF64 (trim (splitUnit (trim input)).1) = none := by
      cases found : System.parseF64 (trim (splitUnit (trim input)).1) with
      | none => rfl
      | some q => exact absurd ⟨q, _, empty, rfl, found⟩ other
    rw [if_neg empty]
    dsimp only
    unfold parseFloat
    rw [number]
    dsimp only
    unfold parseSpecial
    dsimp only
    split_ifs
    · exact ⟨_, rfl⟩
    · exact ⟨_, rfl⟩
    · exact ⟨_, rfl⟩

theorem toDuration_infinite (large : 2 ^ 1024 ≤ onGrid |q|) :
    toDuration input unit (.round q) = some (.error (outOfRange input)) := by
  obtain ⟨negative, rounded⟩ := round_infinite large
  rw [rounded]
  rfl

/-- A negative number is turned down, unless it is too small to be one. -/
theorem toDuration_negative (negative : q < 0) (finite : onGrid |q| < 2 ^ 1024)
    (visible : 0 < onGrid |q|) :
    toDuration input unit (.round q) = some (.error (outOfRange input)) := by
  rw [round_negative negative finite]
  exact if_pos (neg_lt_zero.mpr visible)

theorem infinite_limit {v : ℚ} (large : 2 ^ 1024 ≤ onGrid v) :
    limit ≤ roundHalfEven (onGrid v * 10 ^ 9) := by
  have size : (2 : ℚ) ^ 64 ≤ onGrid v :=
    le_trans (pow_le_pow_right₀ (by norm_num) (by norm_num)) large
  clear large
  refine le_roundHalfEven ?_
  unfold limit
  push_cast
  linarith

/-- Whether or not the seconds are infinite, they fit or panic. -/
theorem fromSecs_round {v : ℚ} (nonneg : 0 ≤ v) :
    fromSecsF64 (.round v) = ofNanos? (roundHalfEven (onGrid v * 10 ^ 9)) := by
  by_cases finite : onGrid v < 2 ^ 1024
  · rw [round_finite nonneg finite, fromSecsF64, if_neg (not_lt.mpr (onGrid_nonneg v))]
  · have large := not_lt.mp finite
    obtain ⟨negative, rounded⟩ := @round_infinite v ((abs_of_nonneg nonneg).symm ▸ large)
    rw [rounded, ofNanos?, dif_neg (not_lt.mpr (infinite_limit large))]
    rfl

theorem toDuration_finite (nonneg : 0 ≤ q) (finite : onGrid q < 2 ^ 1024) :
    toDuration input unit (.round q) =
      (ofNanos? (roundHalfEven (onGrid (onGrid q * unit.toSecs) * 10 ^ 9))).map .ok := by
  have product : 0 ≤ onGrid q * unit.toSecs := mul_nonneg (onGrid_nonneg q) (toSecs_pos unit).le
  rw [round_finite nonneg finite, toDuration, if_neg (not_lt.mpr (onGrid_nonneg q)),
    fromSecs_round product]

theorem amount_finite (nonneg : 0 ≤ q) (finite : onGrid q < 2 ^ 1024) {d : Duration}
    (ns : d.ns = roundHalfEven (onGrid (onGrid q * unit.toSecs) * 10 ^ 9)) : Amount q unit d := by
  have product : 0 ≤ onGrid q * unit.toSecs := mul_nonneg (onGrid_nonneg q) (toSecs_pos unit).le
  have fits : onGrid (onGrid q * unit.toSecs) < 2 ^ 1024 :=
    not_le.mp fun large => absurd (ns ▸ d.fits) (not_lt.mpr (infinite_limit large))
  refine ⟨⟨_, _, round_finite nonneg finite, round_finite product fits, ns⟩, ?_⟩
  rw [ns, abs_of_nonneg nonneg]
  exact product_near unit nonneg

/-- A negative number too small for a double is zero. -/
theorem toDuration_invisible (negative : q < 0) (invisible : onGrid |q| = 0) : ∃ d,
    toDuration input unit (.round q) = some (.ok d) ∧ Amount q unit d := by
  have zero : F64.round q = .finite 0 := by
    rw [round_negative negative (invisible ▸ by norm_num), invisible, neg_zero]
  have still : F64.round 0 = .finite 0 := by
    rw [round_finite le_rfl (by rw [onGrid_zero]; norm_num), onGrid_zero]
  have none : roundHalfEven (0 * 10 ^ 9) = 0 := by
    rw [zero_mul]
    exact roundHalfEven_natCast 0
  refine ⟨⟨0, by decide⟩, ?_, ⟨0, 0, zero, by rw [zero_mul, still], none.symm⟩, ?_⟩
  · rw [zero, toDuration, if_neg (lt_irrefl _), zero_mul, still, fromSecsF64, if_neg (lt_irrefl _),
      none]
    rfl
  · have near := product_near unit (abs_nonneg q)
    rw [invisible, zero_mul, onGrid_zero, none, abs_of_neg negative] at near
    rw [abs_of_neg negative]
    refine le_trans (le_of_eq ?_) near
    rw [← abs_neg]
    congr 1
    ring

theorem below_of_negative (unit : TimeUnit) (negative : q < 0) : unit.Below q := by
  cases unit <;> unfold TimeUnit.Below <;> linarith

theorem toDuration_right (inside : unit.Below q ∨ 2 ^ 1024 - 2 ^ 970 ≤ q) : ∃ result,
    toDuration input unit (.round q) = some result ∧ ∀ d, result = .ok d → Amount q unit d := by
  by_cases finite : onGrid |q| < 2 ^ 1024
  · rcases lt_or_ge q 0 with negative | nonneg
    · rcases (onGrid_nonneg |q|).eq_or_lt with invisible | visible
      · obtain ⟨d, read, amount⟩ := toDuration_invisible negative invisible.symm
        exact ⟨_, read, fun d' same => Except.ok.inj same ▸ amount⟩
      · exact ⟨_, toDuration_negative negative finite visible, fun d same => by cases same⟩
    · rw [abs_of_nonneg nonneg] at finite
      have below : unit.Below q :=
        inside.resolve_right (not_le.mpr ((onGrid_finite_iff nonneg).mp finite))
      have fits := (product_fits_iff unit nonneg).mpr below
      obtain ⟨d, made⟩ := Option.isSome_iff_exists.mp (ofNanos?_isSome.mpr fits)
      rw [toDuration_finite nonneg finite, made]
      have amount := amount_finite nonneg finite (ofNanos?_eq_some.mp made)
      exact ⟨_, rfl, fun d' same => Except.ok.inj same ▸ amount⟩
  · exact ⟨_, toDuration_infinite (not_lt.mp finite), fun d same => by cases same⟩

/-- Past the bound a finite number panics. -/
theorem toDuration_panics (nonneg : 0 ≤ q) (past : ¬unit.Below q)
    (finite : q < 2 ^ 1024 - 2 ^ 970) : toDuration input unit (.round q) = none := by
  rw [toDuration_finite nonneg ((onGrid_finite_iff nonneg).mpr finite), Option.map_eq_none_iff,
    ofNanos?, dif_neg ((product_fits_iff unit nonneg).not.mpr past)]

end Texts

/-- A duration text is read right exactly if its number, times its unit, stays below the seconds
of a word, or is infinite for a double. -/
theorem parseDuration_right_iff (input : Text) : ParsesRight input ↔
    ∀ q unit, Denotes input q unit → unit.Below q ∨ 2 ^ 1024 - 2 ^ 970 ≤ q := by
  constructor
  · rintro ⟨result, parsed, -⟩ q unit denotes
    rcases lt_or_ge q 0 with negative | nonneg
    · exact .inl (below_of_negative unit negative)
    · by_contra outside
      rw [not_or, not_le] at outside
      rw [parseDuration_number denotes, toDuration_panics nonneg outside.1 outside.2] at parsed
      cases parsed
  · intro bounded
    by_cases number : ∃ q unit, Denotes input q unit
    · obtain ⟨q, unit, denotes⟩ := number
      obtain ⟨result, read, amount⟩ := @toDuration_right input q unit (bounded q unit denotes)
      exact ⟨result, (parseDuration_number denotes).trans read, fun d same =>
        ⟨q, unit, denotes, amount d same⟩⟩
    · obtain ⟨reason, rejected⟩ := parseDuration_other number
      exact ⟨_, rejected, fun d same => by cases same⟩

/-- 10^20 seconds are finite, and more than a duration holds. -/
theorem parseDuration_panics : ¬ParsesRight "1e20s".toList := by
  rintro ⟨result, parsed, -⟩
  have denotes : Denotes "1e20s".toList (10 ^ 20) .s := by
    refine ⟨by decide +kernel, by decide +kernel, by decide +kernel⟩
  rw [parseDuration_number denotes, toDuration_panics (by norm_num)
    (by norm_num [TimeUnit.Below]) (by decide +kernel)] at parsed
  cases parsed

end Seshat.Cli
