import Seshat.Gateway.LogScan
import Seshat.Lib.Decimals
import Seshat.Lib.Words
import Seshat.Report.Cells
import Mathlib.Data.List.TakeWhile

/-! The counters of a `perf stat` run, read back from what it printed. Times and ratios, which
the program holds as `f64`, are rationals. -/

namespace Seshat.System
open Config (isWhitespace trim)
open Gateway (contains)
open Report (Text PerfResult lines)
open Lib.Decimals Lib.Infix Lib.Words

/-! Numbers. -/

/-- `str::parse::<u64>` -/
def parseU64 (text : Text) : Option UInt64 :=
  let digits := if text.head? = some '+' then text.tail else text
  let n := Nat.ofDigitChars 10 digits 0
  if digits ≠ [] ∧ digits.all Char.isDigit ∧ n < 2 ^ 64 then some (.ofNat n) else none

/-- Whether a number is negative, and the number without its sign. -/
def signed : Text → Bool × Text
  | '-' :: rest => (true, rest)
  | '+' :: rest => (false, rest)
  | text => (false, text)

/-- What follows the mantissa. -/
def parseExponent : Text → Option Int
  | [] => some 0
  | _ :: text =>
      let (negative, digits) := signed text
      let n : Int := Nat.ofDigitChars 10 digits 0
      if digits ≠ [] ∧ digits.all Char.isDigit then some (if negative then -n else n) else none

/-- `str::parse::<f64>` without its rounding. The infinities and NaNs, which it also reads, are
no rational numbers. -/
def parseF64 (text : Text) : Option ℚ := do
  let (negative, body) := signed text
  let mantissa := body.takeWhile fun c => c ≠ 'e' ∧ c ≠ 'E'
  let power ← parseExponent (body.dropWhile fun c => c ≠ 'e' ∧ c ≠ 'E')
  let whole := mantissa.takeWhile (· ≠ '.')
  let fraction := (mantissa.dropWhile (· ≠ '.')).tail
  if whole ++ fraction ≠ [] ∧ (whole ++ fraction).all Char.isDigit then
    let value : ℚ := Nat.ofDigitChars 10 (whole ++ fraction) 0 / 10 ^ fraction.length
    some ((if negative then -value else value) * 10 ^ power)
  else none

def parsePerfU64 (value : Text) : Option UInt64 := parseU64 (dropCommas (trim value))

def parsePerfF64 (value : Text) : Option ℚ := parseF64 (dropCommas (trim value))

/-! Lines. -/

def splitWhitespace (line : Text) : List Text := words isWhitespace line

/-- The value and the event of one `perf stat -x,` line. -/
def perfCsvFields (line : Text) : Option (Text × Text) :=
  let fields := line.splitOn ','
  if fields.length < 3 then none
  else
    let event := trim (fields.getD 2 [])
    if event.isEmpty then none else some (trim (fields.getD 0 []), event)

/-- The ratio behind the first `#` of a line. -/
def annotatedIpc (rest : Text) : Option ℚ := (splitWhitespace rest).head?.bind parsePerfF64

def recordPerfCounter (result : PerfResult) (rawValue label line : Text) : PerfResult :=
  let integer := parsePerfU64 rawValue
  let decimal := parsePerfF64 rawValue
  if contains label "cycles" && !contains label "instructions" then
    { result with cycles := integer }
  else if contains label "instructions" then
    let result := { result with instructions := integer }
    match line.dropWhile (· ≠ '#') with
    | [] => result
    | _ :: rest => { result with ipc := annotatedIpc rest }
  else if contains label "cache-references" then { result with cacheReferences := integer }
  else if contains label "cache-misses" then { result with cacheMisses := integer }
  else if contains label "context-switches" || label = "cs".toList then
    { result with contextSwitches := integer }
  else if contains label "raw_syscalls:sys_enter" || contains label "syscalls" then
    { result with syscalls := integer }
  else if contains label "task-clock" then { result with taskClockMs := decimal }
  else if contains label "seconds time elapsed" then { result with durationS := decimal }
  else result

def parsePerfLine (result : PerfResult) (rawLine : Text) : PerfResult :=
  let line := trim rawLine
  if line.isEmpty then result
  else
    match perfCsvFields line with
    | some (value, label) => recordPerfCounter result value label line
    | none =>
        match splitWhitespace line with
        | [] => result
        | value :: fields =>
            let label := [' '].intercalate fields
            if label.isEmpty then result else recordPerfCounter result value label line

/-- The instructions a cycle, where no line has stated them. -/
def deriveIpc (result : PerfResult) : PerfResult :=
  match result.ipc, result.instructions, result.cycles with
  | none, some instructions, some cycles =>
      if 0 < cycles then
        { result with ipc := some (instructions.toNat / cycles.toNat) }
      else result
  | _, _, _ => result

def noCounters : PerfResult :=
  ⟨none, none, none, none, none, none, none, none, none⟩

/-- Output that cannot be read is `none`. -/
def parsePerfOutput (content : Option Text) : PerfResult :=
  match content with
  | none => noCounters
  | some content => deriveIpc ((lines content).foldl parsePerfLine noCounters)

/-! What the number readers make of printed numbers. -/

theorem parseU64_digits {text : Text} {n : Nat} (digits : Digits text n) (fits : n < 2 ^ 64) :
    parseU64 text = some (.ofNat n) := by
  have unsigned : text.head? ≠ some '+' := fun sign =>
    absurd (digits.digits '+' (List.mem_of_mem_head? sign)) (by decide)
  have all : text.all Char.isDigit = true := List.all_eq_true.mpr digits.digits
  rw [parseU64, if_neg unsigned, digits.value]
  exact if_pos ⟨digits.nonempty, all, fits⟩

theorem signed_digit {c : Char} (digit : c.isDigit = true) (rest : Text) :
    signed (c :: rest) = (false, c :: rest) := by
  unfold signed
  split
  · rename_i same
    rw [(List.cons.inj same).1] at digit
    exact absurd digit (by decide)
  · rename_i same
    rw [(List.cons.inj same).1] at digit
    exact absurd digit (by decide)
  · rfl

theorem signed_digits {text : Text} {n : Nat} (digits : Digits text n) (rest : Text) :
    signed (text ++ rest) = (false, text ++ rest) := by
  obtain ⟨c, tail, same⟩ := List.exists_cons_of_ne_nil digits.nonempty
  rw [same]
  exact signed_digit (digits.digits c (same ▸ List.mem_cons_self)) _

theorem takeWhile_all {p : Char → Bool} {text : Text} (all : ∀ c ∈ text, p c = true) :
    text.takeWhile p = text ∧ text.dropWhile p = [] :=
  ⟨List.takeWhile_eq_self_iff.mpr all, List.dropWhile_eq_nil_iff.mpr all⟩

theorem takeWhile_stop {p : Char → Bool} {text : Text} {stop : Char} (rest : Text)
    (all : ∀ c ∈ text, p c = true) (stops : p stop = false) :
    (text ++ stop :: rest).takeWhile p = text ∧
      (text ++ stop :: rest).dropWhile p = stop :: rest := by
  have stays : ¬p stop = true := by rw [stops]; decide
  constructor
  · rw [List.takeWhile_append_of_pos all, List.takeWhile_cons_of_neg stays, List.append_nil]
  · rw [List.dropWhile_append_of_pos all, List.dropWhile_cons_of_neg stays]

theorem mantissa_digit {c : Char} (digit : c.isDigit = true) :
    decide (c ≠ 'e' ∧ c ≠ 'E') = true ∧ decide (c ≠ '.') = true := by
  refine ⟨decide_eq_true ⟨?_, ?_⟩, decide_eq_true ?_⟩ <;> rintro rfl <;> cases digit

theorem parseF64_whole {whole : Text} {n : Nat} (digits : Digits whole n) :
    parseF64 whole = some (n : ℚ) := by
  have sign := signed_digits digits []
  rw [List.append_nil] at sign
  obtain ⟨mantissa, rest⟩ := takeWhile_all fun c member =>
    (mantissa_digit (digits.digits c member)).1
  obtain ⟨integer, point⟩ := takeWhile_all fun c member =>
    (mantissa_digit (digits.digits c member)).2
  have all : whole.all Char.isDigit = true := List.all_eq_true.mpr digits.digits
  simp only [parseF64, sign, mantissa, rest, integer, point, parseExponent, List.tail_nil,
    List.append_nil, digits.value, Option.bind_eq_bind, Option.bind_some]
  rw [if_pos ⟨digits.nonempty, all⟩]
  simp

theorem parseF64_point {whole fraction : Text} {n m : Nat} (left : Digits whole n)
    (right : Digits fraction m) :
    parseF64 (whole ++ '.' :: fraction) =
      some (((10 ^ fraction.length * n + m : Nat) : ℚ) / 10 ^ fraction.length) := by
  have sign := signed_digits left ('.' :: fraction)
  have plain : ∀ c ∈ whole ++ '.' :: fraction, decide (c ≠ 'e' ∧ c ≠ 'E') = true := by
    intro c member
    rcases List.mem_append.mp member with digit | point
    · exact (mantissa_digit (left.digits c digit)).1
    · rcases List.mem_cons.mp point with rfl | digit
      · rfl
      · exact (mantissa_digit (right.digits c digit)).1
  obtain ⟨mantissa, rest⟩ := takeWhile_all plain
  obtain ⟨integer, point⟩ := takeWhile_stop fraction (fun c member =>
    (mantissa_digit (left.digits c member)).2) (by decide : decide ('.' ≠ '.') = false)
  have joined := left.append right
  have all : (whole ++ fraction).all Char.isDigit = true := List.all_eq_true.mpr joined.digits
  simp only [parseF64, sign, mantissa, rest, integer, point, parseExponent, List.tail_cons,
    joined.value, Option.bind_eq_bind, Option.bind_some]
  rw [if_pos ⟨joined.nonempty, all⟩]
  simp

/-! Which counter a line is about. -/

inductive PerfEvent where
  | cycles | instructions | cacheReferences | cacheMisses | contextSwitches | syscalls | taskClock
  | elapsed
  deriving DecidableEq, Repr

/-- The event whose name occurs in a label. -/
def eventOf (label : Text) : Option PerfEvent :=
  if contains label "cycles" && !contains label "instructions" then some .cycles
  else if contains label "instructions" then some .instructions
  else if contains label "cache-references" then some .cacheReferences
  else if contains label "cache-misses" then some .cacheMisses
  else if contains label "context-switches" || label = "cs".toList then some .contextSwitches
  else if contains label "raw_syscalls:sys_enter" || contains label "syscalls" then some .syscalls
  else if contains label "task-clock" then some .taskClock
  else if contains label "seconds time elapsed" then some .elapsed
  else none

/-- The field of an event is set. -/
def PerfEvent.record (event : PerfEvent) (integer : Option UInt64) (decimal : Option ℚ)
    (line : Text) (result : PerfResult) : PerfResult :=
  match event with
  | .cycles => { result with cycles := integer }
  | .instructions =>
      { result with
        instructions := integer
        ipc := match line.dropWhile (· ≠ '#') with
          | [] => result.ipc
          | _ :: rest => annotatedIpc rest }
  | .cacheReferences => { result with cacheReferences := integer }
  | .cacheMisses => { result with cacheMisses := integer }
  | .contextSwitches => { result with contextSwitches := integer }
  | .syscalls => { result with syscalls := integer }
  | .taskClock => { result with taskClockMs := decimal }
  | .elapsed => { result with durationS := decimal }

theorem recordPerfCounter_eq (result : PerfResult) (rawValue label line : Text) :
    recordPerfCounter result rawValue label line = (eventOf label).elim result fun event =>
      event.record (parsePerfU64 rawValue) (parsePerfF64 rawValue) line result := by
  unfold recordPerfCounter eventOf
  split_ifs
  · rfl
  · simp only [Option.elim_some, PerfEvent.record]
    cases line.dropWhile fun c => decide (c ≠ '#') <;> rfl
  all_goals rfl

/-- A character that no event's name begins with. -/
def inert (c : Char) : Bool := c.isDigit || c = '.' || c = ' '

theorem contains_inert {front : Text} (all : ∀ c ∈ front, inert c = true) (rest : Text)
    (word : String) (letter : word.toList.head?.any (fun c => !inert c) = true) :
    contains (front ++ rest) word = contains rest word := by
  rw [contains, contains, decide_eq_decide]
  cases shape : word.toList with
  | nil => simp [shape] at letter
  | cons first tail =>
    refine infix_skip fun member => ?_
    rw [shape, List.head?_cons, Option.any_some, all first member] at letter
    cases letter

/-- What stands before a label does not hide it. -/
theorem eventOf_inert {front : Text} (all : ∀ c ∈ front, inert c = true) {rest : Text}
    (long : rest ≠ "cs".toList) : eventOf (front ++ rest) = eventOf rest := by
  have skip := contains_inert all rest
  have whole : front ++ rest ≠ "cs".toList := by
    cases front with
    | nil => exact long
    | cons c front =>
      intro same
      have letter := all c List.mem_cons_self
      rw [(List.cons.inj same).1] at letter
      cases letter
  unfold eventOf
  rw [skip "cycles" (by decide), skip "instructions" (by decide),
    skip "cache-references" (by decide), skip "cache-misses" (by decide),
    skip "context-switches" (by decide), skip "raw_syscalls:sys_enter" (by decide),
    skip "syscalls" (by decide), skip "task-clock" (by decide),
    skip "seconds time elapsed" (by decide), decide_eq_false whole, decide_eq_false long]

theorem eventOf_instructions {label : Text} (named : "instructions".toList <:+: label) :
    eventOf label = some .instructions := by
  have found : contains label "instructions" = true := decide_eq_true named
  rw [eventOf, found, Bool.not_true, Bool.and_false, if_neg Bool.false_ne_true, if_pos rfl]

/-! How a line is taken apart. -/

/-- With three fields or more the value and the event come from the first and the third. -/
theorem perfCsvFields_fields {value unit event : Text} (rest : List Text)
    (line : Text) (cut : line.splitOn ',' = value :: unit :: event :: rest) :
    perfCsvFields line =
      if (trim event).isEmpty then none else some (trim value, trim event) := by
  rw [perfCsvFields, cut]
  exact if_neg (by simp)

theorem perfCsvFields_none {line : Text} (few : (line.splitOn ',').length < 3) :
    perfCsvFields line = none := if_pos few

theorem splitOn_comma {field : Text} (plain : ',' ∉ field) (rest : Text) :
    (field ++ ',' :: rest).splitOn ',' = field :: rest.splitOn ',' :=
  List.splitOn_append_cons_self_of_not_mem plain rest

theorem splitOn_last {field : Text} (plain : ',' ∉ field) : field.splitOn ',' = [field] :=
  List.splitOn_eq_singleton plain

/-- A line of comma-separated fields. -/
theorem parsePerfLine_csv {rawLine line value event : Text} (result : PerfResult)
    (trimmed : trim rawLine = line) (fields : perfCsvFields line = some (value, event)) :
    parsePerfLine result rawLine = recordPerfCounter result value event line := by
  have nonempty : line.isEmpty = false := by
    cases line with
    | nil => cases fields
    | cons c rest => rfl
  rw [parsePerfLine, trimmed, if_neg (by rw [nonempty]; decide), fields]

/-- A line of words. -/
theorem parsePerfLine_words {rawLine line value first : Text} {fields : List Text}
    (result : PerfResult) (trimmed : trim rawLine = line) (few : perfCsvFields line = none)
    (cut : splitWhitespace line = value :: first :: fields) (nonempty : first ≠ []) :
    parsePerfLine result rawLine =
      recordPerfCounter result value ([' '].intercalate (first :: fields)) line := by
  have shown : line.isEmpty = false := by
    cases line with
    | nil => cases cut
    | cons c rest => rfl
  have labelled : ([' '].intercalate (first :: fields)).isEmpty = false := by
    obtain ⟨c, tail, rfl⟩ := List.exists_cons_of_ne_nil nonempty
    cases fields <;> rfl
  rw [parsePerfLine, trimmed, if_neg (by rw [shown]; decide), few, cut]
  exact if_neg (by rw [labelled]; decide)

end Seshat.System
