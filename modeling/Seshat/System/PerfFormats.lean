import Seshat.System.PerfStat

/-! The two formats `perf stat` prints its counters in, and when the parser reads both alike. -/

namespace Seshat.System
open Config (isWhitespace trim)
open Gateway (contains)
open Report (Text PerfResult lines linesFrom stripCr)
open Lib.Binary64 (roundHalfEven)
open Lib.Decimals Lib.Words

/-- A number with a fixed number of decimals. -/
structure Decimal where
  scaled : Nat
  places : Nat
  deriving DecidableEq, Repr

namespace Decimal

def whole (d : Decimal) : Nat := d.scaled / 10 ^ d.places

def value (d : Decimal) : ℚ := d.scaled / 10 ^ d.places

def fraction (d : Decimal) : Text :=
  if d.places = 0 then [] else '.' :: padded d.places (d.scaled % 10 ^ d.places)

def plain (d : Decimal) : Text := Nat.toDigits 10 d.whole ++ d.fraction

/-- With thousands separators. -/
def separated (d : Decimal) : Text := grouped d.whole ++ d.fraction

def ofCount (n : UInt64) : Decimal := ⟨n.toNat, 0⟩

end Decimal

/-- The counters of one run; those `perf` could not count are `none`. -/
structure PerfCounters where
  cycles : Option UInt64
  instructions : Option UInt64
  cacheReferences : Option UInt64
  cacheMisses : Option UInt64
  contextSwitches : Option UInt64
  syscalls : Option UInt64
  taskClockMs : Option Decimal
  durationS : Option Decimal
  deriving DecidableEq, Repr

def PerfCounters.printed (counters : PerfCounters) : PerfEvent → Option Decimal
  | .cycles => counters.cycles.map .ofCount
  | .instructions => counters.instructions.map .ofCount
  | .cacheReferences => counters.cacheReferences.map .ofCount
  | .cacheMisses => counters.cacheMisses.map .ofCount
  | .contextSwitches => counters.contextSwitches.map .ofCount
  | .syscalls => counters.syscalls.map .ofCount
  | .taskClock => counters.taskClockMs
  | .elapsed => counters.durationS

/-- Instructions a cycle. -/
def PerfCounters.ipc (counters : PerfCounters) : Option ℚ :=
  match counters.instructions, counters.cycles with
  | some instructions, some cycles =>
      if 0 < cycles then some (instructions.toNat / cycles.toNat) else none
  | _, _ => none

/-- The original values. -/
def PerfCounters.result (counters : PerfCounters) : PerfResult where
  cycles := counters.cycles
  instructions := counters.instructions
  ipc := counters.ipc
  cacheReferences := counters.cacheReferences
  cacheMisses := counters.cacheMisses
  contextSwitches := counters.contextSwitches
  syscalls := counters.syscalls
  taskClockMs := counters.taskClockMs.map Decimal.value
  durationS := counters.durationS.map Decimal.value

/-! What is printed. -/

def PerfEvent.label : PerfEvent → String
  | .cycles => "cycles"
  | .instructions => "instructions"
  | .cacheReferences => "cache-references"
  | .cacheMisses => "cache-misses"
  | .contextSwitches => "context-switches"
  | .syscalls => "raw_syscalls:sys_enter"
  | .taskClock => "task-clock"
  | .elapsed => "seconds time elapsed"

def perfEvents : List PerfEvent :=
  [.cycles, .instructions, .cacheReferences, .cacheMisses, .contextSwitches, .syscalls,
    .taskClock, .elapsed]

def notCounted : Text := "<not counted>".toList

def unlines (texts : List Text) : Text := texts.flatMap (· ++ ['\n'])

/-- `value,unit,event,percentage,`; the elapsed time has neither unit nor percentage. -/
def csvLine (event : PerfEvent) (value : Text) : Text :=
  value ++ ',' :: ((if event = .taskClock then "msec".toList else []) ++
    ',' :: (event.label.toList ++
      ',' :: (if event = .elapsed then ",,,".toList else "100.00,".toList)))

/-- Whether an event that was not counted is listed is up to `perf`. -/
def csvLines (listed : Bool) (counters : PerfCounters) (event : PerfEvent) : List Text :=
  match counters.printed event with
  | some d => [csvLine event d.plain]
  | none => if listed then [csvLine event notCounted] else []

def csvText (listed : Bool) (counters : PerfCounters) : Text :=
  unlines (perfEvents.flatMap (csvLines listed counters))

/-- The choices of the human formatter: the columns of each line, whether the task clock has
its unit, whether an event that was not counted is listed and whether the ratio is noted. -/
structure HumanLayout where
  indent : PerfEvent → Nat
  gap : PerfEvent → Nat
  noteGap : Nat
  ratioGap : Nat
  units : Bool
  listed : Bool
  annotated : Bool

/-- The ratio to two decimals. -/
def printedRatio (ratio : ℚ) : Decimal := ⟨roundHalfEven (ratio * 100), 2⟩

section Human

variable (layout : HumanLayout) (counters : PerfCounters)

/-- The ratio as it is noted, if it is. -/
def noted : Option Decimal :=
  if layout.annotated then counters.ipc.map printedRatio else none

def ratioText (ratio : Decimal) : Text :=
  List.replicate layout.ratioGap ' ' ++ (ratio.plain ++ ' ' :: "insn per cycle".toList)

def noteText (ratio : Decimal) : Text :=
  ' ' :: (List.replicate layout.noteGap ' ' ++ '#' :: ' ' :: ratioText layout ratio)

def humanName (event : PerfEvent) : Text :=
  (if layout.units ∧ event = .taskClock then "msec ".toList else []) ++ event.label.toList ++
    if event = .instructions then (noted layout counters).elim [] (noteText layout) else []

def humanBody (event : PerfEvent) (value : Text) : Text :=
  value ++ ' ' :: (List.replicate (layout.gap event) ' ' ++ humanName layout counters event)

def humanLine (event : PerfEvent) (value : Text) : Text :=
  List.replicate (layout.indent event) ' ' ++ humanBody layout counters event value

/-- The elapsed time has no thousands separators. -/
def humanValue (event : PerfEvent) (d : Decimal) : Text :=
  if event = .elapsed then d.plain else d.separated

def humanLines (event : PerfEvent) : List Text :=
  match counters.printed event with
  | some d => [humanLine layout counters event (humanValue event d)]
  | none => if layout.listed then [humanLine layout counters event notCounted] else []

def humanText : Text := unlines (perfEvents.flatMap (humanLines layout counters))

end Human

/-! Lines of text. -/

theorem linesFrom_newline {line : Text} (begun rest : Text) (one : '\n' ∉ line)
    (bare : ∀ c ∈ (begun ++ line).getLast?, c ≠ '\r') :
    linesFrom begun (line ++ '\n' :: rest) = (begun ++ line) :: linesFrom [] rest := by
  induction line generalizing begun with
  | nil =>
    rw [List.append_nil] at bare
    rw [List.nil_append, linesFrom, if_pos rfl, List.append_nil, stripCr,
      if_neg (show ¬begun.getLast? = some '\r' from fun last => bare '\r' last rfl)]
  | cons c tail ih =>
    rw [List.mem_cons, not_or] at one
    rw [List.append_cons] at bare
    rw [List.cons_append, linesFrom, if_neg (Ne.symm one.1), ih (begun ++ [c]) one.2 bare,
      List.append_cons begun c tail]

/-- A line that `str::lines` gives back as it is. -/
structure Whole (line : Text) : Prop where
  one : '\n' ∉ line
  bare : ∀ c ∈ line.getLast?, c ≠ '\r'

theorem lines_unlines {texts : List Text} (whole : ∀ line ∈ texts, Whole line) :
    lines (unlines texts) = texts := by
  induction texts with
  | nil => rfl
  | cons line rest ih =>
    obtain ⟨first, others⟩ := List.forall_mem_cons.mp whole
    have next := linesFrom_newline [] (unlines rest) first.one first.bare
    rw [lines, unlines, List.flatMap_cons, List.append_assoc]
    exact next.trans (congrArg _ (ih others))

/-! Numbers as they are printed. -/

theorem digit_plain {c : Char} (digit : c.isDigit = true) : isWhitespace c = false := by
  rw [Char.isDigit, Bool.and_eq_true, decide_eq_true_eq, decide_eq_true_eq] at digit
  have low : 48 ≤ c.toNat := UInt32.le_iff_toNat_le.mp digit.1
  have high : c.toNat ≤ 57 := UInt32.le_iff_toNat_le.mp digit.2
  simp only [isWhitespace, Bool.or_eq_false_iff, Bool.and_eq_false_iff, decide_eq_false_iff_not]
  omega

/-- What numbers are made of. -/
def Numeric (c : Char) : Prop := c.isDigit = true ∨ c = ',' ∨ c = '.'

theorem Numeric.plain {c : Char} (numeric : Numeric c) : isWhitespace c = false := by
  rcases numeric with digit | rfl | rfl
  · exact digit_plain digit
  · decide
  · decide

namespace Decimal

variable (d : Decimal)

theorem whole_lt : d.scaled % 10 ^ d.places < 10 ^ d.places := Nat.mod_lt _ (by positivity)

theorem fraction_numeric : ∀ c ∈ d.fraction, c.isDigit = true ∨ c = '.' := by
  intro c member
  rw [fraction] at member
  split at member
  · cases member
  · rcases List.mem_cons.mp member with rfl | digit
    · exact .inr rfl
    · exact .inl ((digits_padded _ _).digits c digit)

theorem fraction_no_comma : ',' ∉ d.fraction := fun member =>
  (d.fraction_numeric ',' member).elim (fun digit => absurd digit (by decide))
    fun point => absurd point (by decide)

theorem plain_no_comma : ',' ∉ d.plain := fun member =>
  (List.mem_append.mp member).elim (digits_toDigits _).no_comma d.fraction_no_comma

theorem separated_numeric : ∀ c ∈ d.separated, Numeric c := by
  intro c member
  rcases List.mem_append.mp member with group | rest
  · exact (grouped_digit _ c group).imp id .inl
  · exact (d.fraction_numeric c rest).imp id .inr

theorem plain_numeric : ∀ c ∈ d.plain, Numeric c := by
  intro c member
  rcases List.mem_append.mp member with digit | rest
  · exact .inl ((digits_toDigits _).digits c digit)
  · exact (d.fraction_numeric c rest).imp id .inr

theorem dropCommas_separated : ∃ text, Digits text d.whole ∧
    dropCommas d.separated = text ++ d.fraction :=
  ⟨_, digits_grouped _, by
    rw [separated, dropCommas_append, dropCommas_self d.fraction_no_comma]⟩

/-- Digits and the fraction behind them. -/
theorem parseF64_fraction {text : Text} (digits : Digits text d.whole) :
    parseF64 (text ++ d.fraction) = some d.value := by
  rw [fraction]
  split
  case isTrue integer =>
    rw [List.append_nil, parseF64_whole digits, value, whole, integer]
    simp
  case isFalse decimal =>
    rw [parseF64_point digits (digits_padded _ _), padded_length (by omega) d.whole_lt, whole,
      Nat.div_add_mod, value]

end Decimal

theorem trim_blanks (count : Nat) {text : Text} (first : ∀ c ∈ text.head?, isWhitespace c = false)
    (last : ∀ c ∈ text.getLast?, isWhitespace c = false) :
    trim (List.replicate count ' ' ++ text) = text := strip_blanks rfl count first last

theorem trim_plain {text : Text} (plain : ∀ c ∈ text, isWhitespace c = false) :
    trim text = text :=
  trim_blanks 0 (fun c first => plain c (List.mem_of_mem_head? first))
    fun c last => plain c (List.mem_of_mem_getLast? last)

theorem trim_numeric {text : Text} (numeric : ∀ c ∈ text, Numeric c) : trim text = text :=
  trim_plain fun c member => (numeric c member).plain

namespace Decimal

variable (d : Decimal)

theorem parsePerfF64_separated : parsePerfF64 d.separated = some d.value := by
  obtain ⟨text, digits, drop⟩ := d.dropCommas_separated
  rw [parsePerfF64, trim_numeric d.separated_numeric, drop, d.parseF64_fraction digits]

theorem parsePerfF64_plain : parsePerfF64 d.plain = some d.value := by
  rw [parsePerfF64, trim_numeric d.plain_numeric, dropCommas_self d.plain_no_comma]
  exact d.parseF64_fraction (digits_toDigits d.whole)

theorem ofCount_whole (n : UInt64) : (ofCount n).whole = n.toNat := Nat.div_one _

theorem parsePerfU64_separated (n : UInt64) : parsePerfU64 (ofCount n).separated = some n := by
  obtain ⟨text, digits, drop⟩ := (ofCount n).dropCommas_separated
  have bare : (ofCount n).fraction = [] := rfl
  rw [ofCount_whole] at digits
  rw [parsePerfU64, trim_numeric (separated_numeric _), drop, bare, List.append_nil,
    parseU64_digits digits n.toNat_lt, UInt64.ofNat_toNat]

theorem parsePerfU64_plain (n : UInt64) : parsePerfU64 (ofCount n).plain = some n := by
  have bare : (ofCount n).plain = Nat.toDigits 10 n.toNat := by
    rw [plain, ofCount_whole]
    exact List.append_nil _
  rw [parsePerfU64, trim_numeric (plain_numeric _), dropCommas_self (plain_no_comma _), bare,
    parseU64_digits (digits_toDigits _) n.toNat_lt, UInt64.ofNat_toNat]

end Decimal

/-! A line of comma-separated values. -/

theorem trim_label (event : PerfEvent) : trim event.label.toList = event.label.toList := by
  cases event <;> rfl

theorem eventOf_label (event : PerfEvent) : eventOf event.label.toList = some event := by
  cases event <;> decide

theorem label_nonempty (event : PerfEvent) : event.label.toList.isEmpty = false := by
  cases event <;> rfl

theorem label_no_comma (event : PerfEvent) : ',' ∉ event.label.toList := by
  cases event <;> decide

theorem label_no_hash (event : PerfEvent) : '#' ∉ event.label.toList := by
  cases event <;> decide

/-- A line without a note sets one field. -/
theorem record_bare (event : PerfEvent) (integer : Option UInt64) (decimal : Option ℚ)
    {line : Text} (bare : '#' ∉ line) (result : PerfResult) :
    event.record integer decimal line result = event.record integer decimal [] result := by
  have skip : line.dropWhile (fun c => decide (c ≠ '#')) = [] :=
    List.dropWhile_eq_nil_iff.mpr fun c member =>
      decide_eq_true fun same => bare (same ▸ member)
  cases event
  case instructions => simp only [PerfEvent.record, skip, List.dropWhile_nil]
  all_goals rfl

/-- A value whose line the parser takes apart as it was put together. -/
structure Legible (value : Text) : Prop where
  nonempty : value ≠ []
  trimmed : trim value = value
  first : ∀ c ∈ value.head?, isWhitespace c = false
  hash : '#' ∉ value
  one : '\n' ∉ value

theorem Legible.numeric {value : Text} (nonempty : value ≠ [])
    (numeric : ∀ c ∈ value, Numeric c) : Legible value where
  nonempty := nonempty
  trimmed := trim_numeric numeric
  first c member := (numeric c (List.mem_of_mem_head? member)).plain
  hash member := absurd (numeric '#' member) (by simp [Numeric])
  one member := absurd (numeric '\n' member) (by simp [Numeric])

theorem notCounted_legible : Legible notCounted where
  nonempty := by decide
  trimmed := rfl
  first c member := by
    rw [Option.mem_some_iff.mp (show c ∈ some '<' from member).symm]
    rfl
  hash := by decide
  one := by decide

theorem csvLine_last (event : PerfEvent) (value : Text) :
    (csvLine event value).getLast? = some ',' := by
  simp only [csvLine, List.getLast?_append, List.getLast?_cons]
  split <;> rfl

theorem csvLine_head (event : PerfEvent) {value : Text} (nonempty : value ≠ []) :
    (csvLine event value).head? = value.head? := by
  obtain ⟨c, rest, rfl⟩ := List.exists_cons_of_ne_nil nonempty
  rfl

theorem csvLine_trim (event : PerfEvent) {value : Text} (legible : Legible value) :
    trim (csvLine event value) = csvLine event value := by
  have first : ∀ c ∈ (csvLine event value).head?, isWhitespace c = false := by
    rw [csvLine_head event legible.nonempty]
    exact legible.first
  have last : ∀ c ∈ (csvLine event value).getLast?, isWhitespace c = false := by
    rw [csvLine_last]
    rintro c ⟨⟩
    rfl
  exact trim_blanks 0 first last

theorem parsePerfLine_csvLine (event : PerfEvent) {value : Text} (result : PerfResult)
    (comma : ',' ∉ value) (legible : Legible value) :
    parsePerfLine result (csvLine event value) =
      event.record (parsePerfU64 value) (parsePerfF64 value) [] result := by
  have unit_comma : ',' ∉ (if event = .taskClock then "msec".toList else []) := by
    split <;> decide
  have fields : (csvLine event value).splitOn ',' = value ::
      (if event = .taskClock then "msec".toList else []) :: event.label.toList ::
      (if event = .elapsed then ",,,".toList else "100.00,".toList).splitOn ',' := by
    rw [csvLine, splitOn_comma comma, splitOn_comma unit_comma,
      splitOn_comma (label_no_comma event)]
  have pair : perfCsvFields (csvLine event value) = some (value, event.label.toList) := by
    rw [perfCsvFields_fields _ _ fields, trim_label, legible.trimmed,
      if_neg (by rw [label_nonempty]; decide)]
  have hash : '#' ∉ csvLine event value := by
    simp only [csvLine, List.mem_append, List.mem_cons, not_or]
    refine ⟨legible.hash, by decide, ?_, by decide, label_no_hash event, by decide, ?_⟩ <;>
      split <;> decide
  rw [parsePerfLine_csv result (csvLine_trim event legible) pair, recordPerfCounter_eq,
    eventOf_label, Option.elim_some, record_bare event _ _ hash]

/-! The comma-separated format. -/

theorem parsePerf_notCounted :
    parsePerfU64 notCounted = none ∧ parsePerfF64 notCounted = none := ⟨rfl, rfl⟩

/-- A field that was not set stays as it is when its event was not counted. -/
def Fresh (event : PerfEvent) (result : PerfResult) : Prop :=
  event.record none none [] result = result

section Counters

variable (counters : PerfCounters)

/-- What an event's counter reads as. -/
def integerRead (read : PerfEvent → Decimal → Option Text) (event : PerfEvent) : Option UInt64 :=
  ((counters.printed event).bind (read event)).bind parsePerfU64

def decimalRead (read : PerfEvent → Decimal → Option Text) (event : PerfEvent) : Option ℚ :=
  ((counters.printed event).bind (read event)).bind parsePerfF64

theorem fold_csvLines (listed : Bool) (event : PerfEvent) {result : PerfResult}
    (fresh : Fresh event result) :
    (csvLines listed counters event).foldl parsePerfLine result =
      event.record (integerRead counters (fun _ d => some d.plain) event)
        (decimalRead counters (fun _ d => some d.plain) event) [] result := by
  rw [csvLines, integerRead, decimalRead]
  cases counters.printed event with
  | none =>
    obtain ⟨integer, decimal⟩ := parsePerf_notCounted
    have line := parsePerfLine_csvLine event result (by decide) notCounted_legible
    rw [integer, decimal] at line
    cases listed with
    | false => exact fresh.symm
    | true => exact line
  | some d =>
    have shown : d.plain ≠ [] := List.append_ne_nil_of_left_ne_nil Nat.toDigits_ne_nil _
    exact parsePerfLine_csvLine event result d.plain_no_comma (.numeric shown d.plain_numeric)

/-- All eight events, each on the field it sets. -/
def readAll (read : PerfEvent → Decimal → Option Text) (ipc : Option ℚ) : PerfResult where
  cycles := integerRead counters read .cycles
  instructions := integerRead counters read .instructions
  ipc := ipc
  cacheReferences := integerRead counters read .cacheReferences
  cacheMisses := integerRead counters read .cacheMisses
  contextSwitches := integerRead counters read .contextSwitches
  syscalls := integerRead counters read .syscalls
  taskClockMs := decimalRead counters read .taskClock
  durationS := decimalRead counters read .elapsed

/-- The ratio in a line's note. -/
def lineIpc (line : Text) : Option ℚ :=
  match line.dropWhile (· ≠ '#') with
  | [] => none
  | _ :: rest => annotatedIpc rest

theorem fold_events {read : PerfEvent → Decimal → Option Text} {line : Text}
    {linesOf : PerfEvent → List Text}
    (step : ∀ event result, Fresh event result → (linesOf event).foldl parsePerfLine result =
      event.record (integerRead counters read event) (decimalRead counters read event)
        (if event = .instructions then line else []) result) :
    (perfEvents.flatMap linesOf).foldl parsePerfLine noCounters =
      readAll counters read (lineIpc line) := by
  simp only [perfEvents, List.flatMap_cons, List.flatMap_nil, List.append_nil,
    List.foldl_append]
  rw [step .cycles, step .instructions, step .cacheReferences, step .cacheMisses,
    step .contextSwitches, step .syscalls, step .taskClock, step .elapsed]
  all_goals rfl

theorem lines_events {linesOf : PerfEvent → List Text}
    (whole : ∀ event, ∀ line ∈ linesOf event, Whole line) :
    lines (unlines (perfEvents.flatMap linesOf)) = perfEvents.flatMap linesOf :=
  lines_unlines fun line member => by
    obtain ⟨event, -, inside⟩ := List.mem_flatMap.mp member
    exact whole event line inside

theorem csvLine_whole (event : PerfEvent) {value : Text} (legible : Legible value) :
    Whole (csvLine event value) where
  one := by
    simp only [csvLine, List.mem_append, List.mem_cons, not_or]
    refine ⟨legible.one, by decide, ?_, by decide, ?_, by decide, ?_⟩
    · split <;> decide
    · cases event <;> decide
    · split <;> decide
  bare := by
    rw [csvLine_last]
    rintro c ⟨⟩
    decide

theorem csvLines_whole (listed : Bool) (event : PerfEvent) :
    ∀ line ∈ csvLines listed counters event, Whole line := by
  intro line member
  rw [csvLines] at member
  split at member
  · rename_i d _
    have shown : d.plain ≠ [] := List.append_ne_nil_of_left_ne_nil Nat.toDigits_ne_nil _
    rw [List.mem_singleton.mp member]
    exact csvLine_whole event (.numeric shown d.plain_numeric)
  · split at member
    · rw [List.mem_singleton.mp member]
      exact csvLine_whole event notCounted_legible
    · cases member

/-- A ratio that no line notes is derived. -/
theorem deriveIpc_result {ipc : Option ℚ} (same : ipc = none ∨ ipc = counters.ipc) :
    deriveIpc { counters.result with ipc := ipc } = counters.result := by
  have derived : deriveIpc { counters.result with ipc := none } = counters.result := by
    obtain ⟨cycles, instructions⟩ := counters
    cases cycles with
    | none => cases instructions <;> rfl
    | some cycles =>
      cases instructions with
      | none => rfl
      | some instructions =>
        simp only [deriveIpc, PerfCounters.result, PerfCounters.ipc]
        split <;> rfl
  rcases same with rfl | rfl
  · exact derived
  · cases stated : counters.ipc with
    | none => exact derived
    | some ratio => exact congrArg (fun ipc => { counters.result with ipc }) stated.symm

/-- A reading that keeps every printed value. -/
structure Exact (read : PerfEvent → Decimal → Option Text) : Prop where
  integer : ∀ event n, counters.printed event = some (.ofCount n) →
    (read event (.ofCount n)).bind parsePerfU64 = some n
  decimal : ∀ event d, counters.printed event = some d →
    (read event d).bind parsePerfF64 = some d.value

theorem readAll_exact {read : PerfEvent → Decimal → Option Text} (exact : Exact counters read)
    (ipc : Option ℚ) : readAll counters read ipc = { counters.result with ipc := ipc } := by
  have count (event : PerfEvent) {field : Option UInt64}
      (printed : counters.printed event = field.map .ofCount) :
      integerRead counters read event = field := by
    rw [integerRead, printed]
    cases field with
    | none => rfl
    | some n => exact exact.integer event n printed
  have time (event : PerfEvent) {field : Option Decimal}
      (printed : counters.printed event = field) :
      decimalRead counters read event = field.map Decimal.value := by
    rw [decimalRead, printed]
    cases field with
    | none => rfl
    | some d => exact exact.decimal event d printed
  rw [readAll, count .cycles rfl, count .instructions rfl, count .cacheReferences rfl,
    count .cacheMisses rfl, count .contextSwitches rfl, count .syscalls rfl, time .taskClock rfl,
    time .elapsed rfl]
  rfl

/-- The comma-separated format gives the original values back. -/
theorem parsePerfOutput_csv (listed : Bool) :
    parsePerfOutput (some (csvText listed counters)) = counters.result := by
  have exact : Exact counters fun _ d => some d.plain :=
    ⟨fun _ n _ => Decimal.parsePerfU64_plain n, fun _ d _ => d.parsePerfF64_plain⟩
  have folded := @fold_events counters _ [] _ fun event result fresh => by
    rw [ite_self]
    exact fold_csvLines counters listed event fresh
  rw [parsePerfOutput, csvText, lines_events (csvLines_whole counters listed)]
  change deriveIpc (List.foldl parsePerfLine noCounters _) = _
  rw [folded, readAll_exact counters exact]
  exact deriveIpc_result counters (.inl rfl)

end Counters

end Seshat.System
