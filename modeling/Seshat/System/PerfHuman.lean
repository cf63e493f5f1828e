import Seshat.System.PerfFormats
import Mathlib.Data.Nat.Cast.Order.Field

/-! What the parser makes of the human format, whose thousands separators look like those of
the comma-separated one. -/

namespace Seshat.System
open Config (isWhitespace trim)
open Report (Text PerfResult)
open Lib.Binary64 (roundHalfEven roundHalfEven_natCast)
open Lib.Decimals Lib.Words

/-- The value the parser takes a line for: from a million on what stands before the first
separator, and from a billion on none, as the third field is then not the event. -/
def seenText (event : PerfEvent) (d : Decimal) : Option Text :=
  if event = .elapsed ∨ d.whole < 1000000 then some (humanValue event d)
  else if d.whole < 1000000000 then some (Nat.toDigits 10 (d.whole / 1000000))
  else none

/-! The name at the end of a line. -/

/-- A text by whose words, or behind a number, the parser knows an event. -/
structure Names (event : PerfEvent) (named : Text) : Prop where
  last : ∀ c ∈ named.getLast?, isWhitespace c = false
  comma : ',' ∉ named
  spoken : ∃ first more, splitWhitespace named = first :: more ∧ first ≠ [] ∧
    eventOf ([' '].intercalate (first :: more)) = some event
  hidden : ∀ front, (∀ c ∈ front, inert c = true) → eventOf (front ++ named) = some event

theorem Names.nonempty {event : PerfEvent} {named : Text} (names : Names event named) :
    named ≠ [] := by
  rintro rfl
  obtain ⟨first, more, cut, -⟩ := names.spoken
  cases cut

/-- The name alone, with or without its unit. -/
theorem names_label (units : Bool) (event : PerfEvent) : Names event
    ((if units ∧ event = .taskClock then "msec ".toList else []) ++ event.label.toList) where
  last := by
    rintro c member
    cases event <;> cases units <;> cases member <;> rfl
  comma := by cases event <;> cases units <;> decide
  spoken := by
    cases event <;> cases units <;> exact ⟨_, _, rfl, by decide, by decide⟩
  hidden front all := by
    rw [eventOf_inert all (by cases event <;> cases units <;> decide)]
    cases event <;> cases units <;> decide

theorem prefix_intercalate (first : Text) (more : List Text) :
    first <+: [' '].intercalate (first :: more) := by
  cases more with
  | nil => simp [List.intercalate]
  | cons second more =>
    rw [List.intercalate_cons_cons, List.append_assoc]
    exact List.prefix_append _ _

section Human

variable (layout : HumanLayout) (counters : PerfCounters)

theorem ratio_no_comma (ratio : Decimal) : ',' ∉ noteText layout ratio := by
  simp only [noteText, ratioText, List.mem_cons, List.mem_append, List.mem_replicate, not_or]
  refine ⟨by decide, by simp, by decide, by decide, by simp, ratio.plain_no_comma, by decide,
    by decide⟩

theorem noteText_last (ratio : Decimal) : (noteText layout ratio).getLast? = some 'e' := by
  simp [noteText, ratioText, List.getLast?_cons, List.getLast?_append]

/-- The name with the ratio behind it. -/
theorem names_note (ratio : Decimal) :
    Names .instructions ("instructions".toList ++ noteText layout ratio) where
  last := by
    rw [List.getLast?_append, noteText_last]
    rintro c ⟨⟩
    rfl
  comma member := (List.mem_append.mp member).elim (by decide) (ratio_no_comma layout ratio)
  spoken := by
    have cut : splitWhitespace ("instructions".toList ++ noteText layout ratio) = _ :: _ :=
      words_cons (by decide) (by simp; decide) rfl _
    refine ⟨_, _, cut, by decide, eventOf_instructions (List.IsPrefix.isInfix ?_)⟩
    exact prefix_intercalate _ _
  hidden front _ := eventOf_instructions ⟨front, noteText layout ratio, by simp⟩

theorem names_human (event : PerfEvent) : Names event (humanName layout counters event) := by
  have label := names_label layout.units event
  rw [humanName]
  by_cases same : event = .instructions
  · subst same
    rw [if_neg (show ¬(layout.units = true ∧ PerfEvent.instructions = .taskClock) by simp),
      if_pos rfl]
    cases noted layout counters with
    | none => exact names_label false .instructions
    | some ratio => exact names_note layout ratio
  · rwa [if_neg same, List.append_nil]

/-! A line in words. -/

theorem humanBody_trim (event : PerfEvent) {value : Text} (legible : Legible value) :
    trim (humanLine layout counters event value) = humanBody layout counters event value := by
  have names := names_human layout counters event
  have first : ∀ c ∈ (humanBody layout counters event value).head?, isWhitespace c = false := by
    obtain ⟨c, rest, shape⟩ := List.exists_cons_of_ne_nil legible.nonempty
    have head : (humanBody layout counters event value).head? = value.head? := by
      rw [humanBody, shape]
      rfl
    rw [head]
    exact legible.first
  have last : ∀ c ∈ (humanBody layout counters event value).getLast?,
      isWhitespace c = false := by
    have tail : (humanBody layout counters event value).getLast? =
        (humanName layout counters event).getLast? := by
      rw [humanBody, List.append_cons, ← List.append_assoc,
        List.getLast?_append_of_ne_nil _ names.nonempty]
    rw [tail]
    exact names.last
  exact trim_blanks _ first last

/-- With one separator at most the line is taken for words. -/
theorem parsePerfLine_few (event : PerfEvent) {value : Text} (result : PerfResult)
    (legible : Legible value) (plain : ∀ c ∈ value, isWhitespace c = false)
    (few : ',' ∉ value ∨ ∃ left right, value = left ++ ',' :: right ∧ ',' ∉ left ∧ ',' ∉ right) :
    parsePerfLine result (humanLine layout counters event value) =
      event.record (parsePerfU64 value) (parsePerfF64 value)
        (humanBody layout counters event value) result := by
  have names := names_human layout counters event
  obtain ⟨first, more, spoken, shown, known⟩ := names.spoken
  have tail : ',' ∉ ' ' :: (List.replicate (layout.gap event) ' ' ++
      humanName layout counters event) := by
    simp [names.comma]
  have fields : ((humanBody layout counters event value).splitOn ',').length < 3 := by
    rcases few with none | ⟨left, right, rfl, noLeft, noRight⟩
    · rw [humanBody, splitOn_last fun member => (List.mem_append.mp member).elim none tail]
      exact (by decide : 1 < 3)
    · rw [humanBody, List.append_assoc, List.cons_append, splitOn_comma noLeft,
        splitOn_last fun member => (List.mem_append.mp member).elim noRight tail]
      exact (by decide : 2 < 3)
  have cut : splitWhitespace (humanBody layout counters event value) = value :: first :: more := by
    rw [splitWhitespace, humanBody, words_cons legible.nonempty plain rfl, words_blanks rfl]
    exact congrArg _ spoken
  rw [parsePerfLine_words result (humanBody_trim layout counters event legible)
    (perfCsvFields_none fields) cut shown, recordPerfCounter_eq, known, Option.elim_some]

theorem trim_digits {text : Text} {n : Nat} (digits : Digits text n) : trim text = text :=
  trim_plain fun c member => digit_plain (digits.digits c member)

theorem separated_legible (d : Decimal) : Legible d.separated := by
  refine .numeric ?_ d.separated_numeric
  obtain ⟨c, rest, shape, -⟩ := grouped_cons d.whole
  rw [Decimal.separated, shape]
  exact List.cons_ne_nil _ _

theorem inert_digits {text : Text} {n : Nat} (digits : Digits text n) :
    ∀ c ∈ text, inert c = true := fun c member => by
  rw [inert, digits.digits c member]
  rfl

/-- What stands between the last separator of a line and its name. -/
def lastGroup (event : PerfEvent) (d : Decimal) : Text :=
  padded 3 (d.whole % 1000) ++ d.fraction ++ ' ' :: List.replicate (layout.gap event) ' '

theorem lastGroup_inert (event : PerfEvent) (d : Decimal) :
    ∀ c ∈ lastGroup layout event d, inert c = true := by
  intro c member
  rw [lastGroup, List.mem_append, List.mem_append, List.mem_cons, List.mem_replicate] at member
  rcases member with (digit | fraction) | rfl | blank
  · exact inert_digits (digits_padded _ _) c digit
  · rcases d.fraction_numeric c fraction with digit | rfl
    · rw [inert, digit]
      rfl
    · decide
  · decide
  · rw [blank.2]
    decide

/-- From a million on a line is taken for comma-separated fields, with the first group as the
value. -/
theorem parsePerfLine_millions {event : PerfEvent} {d : Decimal} (result : PerfResult)
    (large : 1000000 ≤ d.whole) (small : d.whole < 1000000000) :
    parsePerfLine result (humanLine layout counters event d.separated) =
      event.record (parsePerfU64 (Nat.toDigits 10 (d.whole / 1000000)))
        (parsePerfF64 (Nat.toDigits 10 (d.whole / 1000000)))
        (humanBody layout counters event d.separated) result := by
  have names := names_human layout counters event
  have shape : humanBody layout counters event d.separated =
      Nat.toDigits 10 (d.whole / 1000000) ++ ',' :: (padded 3 (d.whole / 1000 % 1000) ++
        ',' :: (lastGroup layout event d ++ humanName layout counters event)) := by
    rw [humanBody, Decimal.separated, grouped_millions large small, lastGroup]
    simp only [List.append_assoc, List.cons_append]
  have comma : ',' ∉ lastGroup layout event d := fun member =>
    absurd (lastGroup_inert layout event d ',' member) (by decide)
  have fields : (humanBody layout counters event d.separated).splitOn ',' =
      Nat.toDigits 10 (d.whole / 1000000) :: padded 3 (d.whole / 1000 % 1000) ::
        (lastGroup layout event d ++ humanName layout counters event) :: [] := by
    rw [shape, splitOn_comma (digits_toDigits _).no_comma,
      splitOn_comma (digits_padded _ _).no_comma,
      splitOn_last fun member => (List.mem_append.mp member).elim comma names.comma]
  have trimmed : trim (lastGroup layout event d ++ humanName layout counters event) =
      lastGroup layout event d ++ humanName layout counters event := by
    have first : ∀ c ∈ (lastGroup layout event d ++ humanName layout counters event).head?,
        isWhitespace c = false := by
      have digits := digits_padded 3 (d.whole % 1000)
      obtain ⟨c, rest, shape⟩ := List.exists_cons_of_ne_nil digits.nonempty
      rw [lastGroup, shape]
      rintro _ ⟨⟩
      exact digit_plain (digits.digits c (shape ▸ List.mem_cons_self))
    have last : ∀ c ∈ (lastGroup layout event d ++ humanName layout counters event).getLast?,
        isWhitespace c = false := by
      rw [List.getLast?_append_of_ne_nil _ names.nonempty]
      exact names.last
    exact trim_blanks 0 first last
  have shown : (lastGroup layout event d ++ humanName layout counters event).isEmpty = false :=
    List.isEmpty_eq_false_iff.mpr (List.append_ne_nil_of_right_ne_nil _ names.nonempty)
  have pair := perfCsvFields_fields _ _ fields
  rw [trimmed, shown, if_neg Bool.false_ne_true, trim_digits (digits_toDigits _)] at pair
  rw [parsePerfLine_csv result (humanBody_trim layout counters event (separated_legible d)) pair,
    recordPerfCounter_eq, names.hidden _ (lastGroup_inert layout event d), Option.elim_some]

/-- From a billion on the third field is a number, and nothing is recorded. -/
theorem parsePerfLine_billions {event : PerfEvent} {d : Decimal} (result : PerfResult)
    (large : 1000000000 ≤ d.whole) :
    parsePerfLine result (humanLine layout counters event d.separated) = result := by
  obtain ⟨first, second, third, rest, shape⟩ := grouped_billions large
  have digits := digits_padded 3 third
  have fields : (humanBody layout counters event d.separated).splitOn ',' =
      Nat.toDigits 10 first :: padded 3 second :: padded 3 third ::
        (rest ++ (d.fraction ++ ' ' :: (List.replicate (layout.gap event) ' ' ++
          humanName layout counters event))).splitOn ',' := by
    rw [humanBody, Decimal.separated, shape]
    simp only [List.append_assoc, List.cons_append]
    rw [splitOn_comma (digits_toDigits _).no_comma, splitOn_comma (digits_padded _ _).no_comma,
      splitOn_comma digits.no_comma]
  have unknown : eventOf (padded 3 third) = none := by
    have hidden := eventOf_inert (inert_digits digits) (show [] ≠ "cs".toList by decide)
    rw [List.append_nil] at hidden
    rw [hidden]
    decide
  have shown : (trim (padded 3 third)).isEmpty = false := by
    rw [trim_digits digits]
    exact List.isEmpty_eq_false_iff.mpr digits.nonempty
  have pair := perfCsvFields_fields _ _ fields
  rw [shown, if_neg Bool.false_ne_true, trim_digits digits] at pair
  rw [parsePerfLine_csv result (humanBody_trim layout counters event (separated_legible d)) pair,
    recordPerfCounter_eq, unknown, Option.elim_none]

/-- Behind a value that is missing stands the bare name. -/
theorem humanName_absent {event : PerfEvent} (absent : counters.printed event = none) :
    humanName layout counters event =
      (if layout.units ∧ event = .taskClock then "msec ".toList else []) ++
        event.label.toList := by
  rw [humanName]
  by_cases same : event = .instructions
  · subst same
    have none : counters.instructions = none := Option.map_eq_none_iff.mp absent
    simp [noted, PerfCounters.ipc, none]
  · rw [if_neg same, List.append_nil]

theorem splitWhitespace_notCounted (event : PerfEvent) :
    splitWhitespace (humanBody layout counters event notCounted) =
      "<not".toList :: "counted>".toList :: splitWhitespace (humanName layout counters event) := by
  have body : humanBody layout counters event notCounted = "<not".toList ++ ' ' ::
      ("counted>".toList ++ ' ' :: (List.replicate (layout.gap event) ' ' ++
        humanName layout counters event)) := rfl
  rw [body, splitWhitespace, words_cons (by decide) (by simp; decide) rfl,
    words_cons (by decide) (by simp; decide) rfl, words_blanks rfl]
  rfl

/-- An event that was not counted leaves its field as it was. -/
theorem parsePerfLine_notCounted {event : PerfEvent} {result : PerfResult}
    (fresh : Fresh event result) (absent : counters.printed event = none) :
    parsePerfLine result (humanLine layout counters event notCounted) = result := by
  have name := humanName_absent layout counters absent
  have hash : '#' ∉ humanBody layout counters event notCounted := by
    rw [humanBody, name]
    simp only [List.mem_append, List.mem_cons, List.mem_replicate, not_or]
    refine ⟨by decide, by decide, by simp, ?_, label_no_hash event⟩
    split <;> decide
  have comma : ',' ∉ humanBody layout counters event notCounted := by
    simp only [humanBody, List.mem_append, List.mem_cons, List.mem_replicate, not_or]
    exact ⟨by decide, by decide, by simp, (names_human layout counters event).comma⟩
  have fields : ((humanBody layout counters event notCounted).splitOn ',').length < 3 := by
    rw [splitOn_last comma]
    exact (by decide : 1 < 3)
  have known : eventOf ([' '].intercalate
      ("counted>".toList :: splitWhitespace (humanName layout counters event))) = some event := by
    rw [name]
    cases event <;> cases layout.units <;> rfl
  have unread : parsePerfU64 "<not".toList = none ∧ parsePerfF64 "<not".toList = none :=
    ⟨rfl, rfl⟩
  rw [parsePerfLine_words result (humanBody_trim layout counters event notCounted_legible)
    (perfCsvFields_none fields) (splitWhitespace_notCounted layout counters event) (by decide),
    recordPerfCounter_eq, known, Option.elim_some, unread.1, unread.2,
    record_bare event none none hash]
  exact fresh

/-- One line, whatever the size of its value. -/
theorem parsePerfLine_seen (event : PerfEvent) (d : Decimal) {result : PerfResult}
    (fresh : Fresh event result) :
    parsePerfLine result (humanLine layout counters event (humanValue event d)) =
      event.record ((seenText event d).bind parsePerfU64) ((seenText event d).bind parsePerfF64)
        (if (seenText event d).isSome then humanBody layout counters event (humanValue event d)
          else []) result := by
  unfold seenText humanValue
  by_cases time : event = .elapsed
  · have shown : d.plain ≠ [] := List.append_ne_nil_of_left_ne_nil Nat.toDigits_ne_nil _
    simp only [time, if_true, true_or, Option.isSome_some, Option.bind_some]
    exact parsePerfLine_few layout counters _ result (.numeric shown d.plain_numeric)
      (fun c member => (d.plain_numeric c member).plain) (.inl d.plain_no_comma)
  simp only [time, if_false, false_or]
  by_cases small : d.whole < 1000000
  · simp only [small, if_true, Option.isSome_some, Option.bind_some]
    refine parsePerfLine_few layout counters _ result (separated_legible d)
      (fun c member => (d.separated_numeric c member).plain) ?_
    by_cases tiny : d.whole < 1000
    · left
      rw [Decimal.separated, grouped_small tiny]
      exact d.plain_no_comma
    · right
      refine ⟨Nat.toDigits 10 (d.whole / 1000), padded 3 (d.whole % 1000) ++ d.fraction, ?_,
        (digits_toDigits _).no_comma, ?_⟩
      · rw [Decimal.separated, grouped_thousands (by omega) small, List.append_assoc,
          List.cons_append]
      · exact fun member => (List.mem_append.mp member).elim (digits_padded _ _).no_comma
          d.fraction_no_comma
  by_cases medium : d.whole < 1000000000
  · simp only [small, medium, if_true, if_false, Option.isSome_some, Option.bind_some]
    exact parsePerfLine_millions layout counters result (Nat.le_of_not_lt small) medium
  · simp only [small, medium, if_false, Option.isSome_none, Option.bind_none]
    rw [parsePerfLine_billions layout counters result (Nat.le_of_not_lt medium)]
    exact fresh.symm

/-! The whole text. -/

theorem humanName_one (event : PerfEvent) : '\n' ∉ humanName layout counters event := by
  have note (ratio : Decimal) : '\n' ∉ noteText layout ratio := by
    have number : '\n' ∉ ratio.plain := fun member =>
      absurd (ratio.plain_numeric _ member) (by simp [Numeric])
    simp only [noteText, ratioText, List.mem_cons, List.mem_append, List.mem_replicate, not_or]
    exact ⟨by decide, by simp, by decide, by decide, by simp, number, by decide, by decide⟩
  simp only [humanName, List.mem_append, not_or]
  refine ⟨⟨?_, by cases event <;> decide⟩, ?_⟩
  · split <;> decide
  · split
    · cases noted layout counters with
      | none => exact List.not_mem_nil
      | some ratio => exact note ratio
    · exact List.not_mem_nil

theorem humanLine_whole (event : PerfEvent) {value : Text} (legible : Legible value) :
    Whole (humanLine layout counters event value) where
  one := by
    simp only [humanLine, humanBody, List.mem_append, List.mem_cons, List.mem_replicate, not_or]
    exact ⟨by simp, legible.one, by decide, by simp, humanName_one layout counters event⟩
  bare := by
    have names := names_human layout counters event
    rw [humanLine, humanBody, List.append_cons, ← List.append_assoc, ← List.append_assoc,
      List.getLast?_append_of_ne_nil _ names.nonempty]
    rintro c member rfl
    exact absurd (names.last _ member) (by decide)

theorem humanValue_legible (event : PerfEvent) (d : Decimal) : Legible (humanValue event d) := by
  rw [humanValue]
  split
  · exact .numeric (List.append_ne_nil_of_left_ne_nil Nat.toDigits_ne_nil _) d.plain_numeric
  · exact separated_legible d

theorem humanLines_whole (event : PerfEvent) :
    ∀ line ∈ humanLines layout counters event, Whole line := by
  intro line member
  rw [humanLines] at member
  split at member
  · rw [List.mem_singleton.mp member]
    exact humanLine_whole layout counters event (humanValue_legible event _)
  · split at member
    · rw [List.mem_singleton.mp member]
      exact humanLine_whole layout counters event notCounted_legible
    · cases member

/-- The line of the instructions, if the parser reads a value from it. -/
def seenLine : Text :=
  match counters.printed .instructions with
  | some d =>
      if (seenText .instructions d).isSome then
        humanBody layout counters .instructions (humanValue .instructions d)
      else []
  | none => []

theorem fold_humanLines (event : PerfEvent) (result : PerfResult) (fresh : Fresh event result) :
    (humanLines layout counters event).foldl parsePerfLine result =
      event.record (integerRead counters seenText event) (decimalRead counters seenText event)
        (if event = .instructions then seenLine layout counters else []) result := by
  rw [humanLines, integerRead, decimalRead]
  cases printed : counters.printed event with
  | none =>
    have line := parsePerfLine_notCounted layout counters fresh printed
    have kept : event.record none none (if event = .instructions then seenLine layout counters
        else []) result = result := by
      split
      · rename_i same
        subst same
        rw [seenLine, printed]
        exact fresh
      · exact fresh
    cases layout.listed with
    | false => exact kept.symm
    | true => exact line.trans kept.symm
  | some d =>
    have line := parsePerfLine_seen layout counters event d fresh
    refine line.trans ?_
    by_cases same : event = .instructions
    · subst same
      rw [if_pos rfl, seenLine, printed]
      rfl
    · rw [if_neg same]
      cases event <;> first | rfl | exact absurd rfl same

theorem parsePerfOutput_human : parsePerfOutput (some (humanText layout counters)) =
    deriveIpc (readAll counters seenText (lineIpc (seenLine layout counters))) := by
  have folded := fold_events counters (fold_humanLines layout counters)
  rw [parsePerfOutput, humanText, lines_events (humanLines_whole layout counters)]
  exact congrArg deriveIpc folded

/-! Where the human format reads as it was written. -/

theorem lineIpc_body {value : Text} (legible : Legible value) :
    lineIpc (humanBody layout counters .instructions value) =
      (noted layout counters).map Decimal.value := by
  have front : ∀ c ∈ value ++ ' ' :: List.replicate (layout.gap .instructions) ' ' ++
      "instructions".toList, decide (c ≠ '#') = true := by
    intro c member
    refine decide_eq_true ?_
    rintro rfl
    simp only [List.mem_append, List.mem_cons, List.mem_replicate] at member
    rcases member with (inValue | blank | blank) | inName
    · exact legible.hash inValue
    · exact absurd blank (by decide)
    · exact absurd blank.2 (by decide)
    · exact absurd inName (by decide)
  have shape : humanBody layout counters .instructions value =
      (value ++ ' ' :: List.replicate (layout.gap .instructions) ' ' ++ "instructions".toList) ++
        (noted layout counters).elim [] (noteText layout) := by
    rw [humanBody, humanName, if_neg (by simp), if_pos rfl, List.nil_append]
    simp only [List.append_assoc, List.cons_append]
    rfl
  rw [lineIpc, shape]
  cases noted layout counters with
  | none =>
    rw [Option.elim_none, List.append_nil, List.dropWhile_eq_nil_iff.mpr front]
    rfl
  | some ratio =>
    have skip : (noteText layout ratio).dropWhile (fun c => decide (c ≠ '#')) =
        '#' :: ' ' :: ratioText layout ratio := by
      rw [noteText, List.dropWhile_cons_of_pos (by decide)]
      exact (takeWhile_stop (' ' :: ratioText layout ratio)
        (fun c member => by rw [List.eq_of_mem_replicate member]; decide) (by decide)).2
    have shown : ratio.plain ≠ [] := List.append_ne_nil_of_left_ne_nil Nat.toDigits_ne_nil _
    have cut : splitWhitespace (' ' :: ratioText layout ratio) =
        ratio.plain :: splitWhitespace "insn per cycle".toList := by
      rw [splitWhitespace, words_blank rfl, ratioText, words_blanks rfl,
        words_cons shown (fun c member => (ratio.plain_numeric c member).plain) rfl]
      rfl
    rw [Option.elim_some, List.dropWhile_append_of_pos front, skip]
    simp only [annotatedIpc, cut, List.head?_cons, Option.bind_some, Option.map_some,
      ratio.parsePerfF64_plain]

/-- No number has two thousands separators, and a ratio that is noted has two decimals. -/
structure PerfCounters.Modest (annotated : Bool) : Prop where
  small : ∀ event d, counters.printed event = some d → event ≠ .elapsed → d.whole < 1000000
  ratio : annotated = true → ∀ ratio, counters.ipc = some ratio → ∃ n : Nat, ratio = n / 100

theorem printedRatio_value (ratio : ℚ) :
    (printedRatio ratio).value = ratio ↔ ∃ n : Nat, ratio = n / 100 := by
  have shown : (printedRatio ratio).value = roundHalfEven (ratio * 100) / 100 := by
    rw [printedRatio, Decimal.value]
    norm_num
  rw [shown]
  constructor
  · exact fun same => ⟨_, same.symm⟩
  · rintro ⟨n, rfl⟩
    rw [div_mul_cancel₀ _ (by norm_num), roundHalfEven_natCast]

theorem exact_human {counters : PerfCounters}
    (small : ∀ event d, counters.printed event = some d → event ≠ .elapsed →
      d.whole < 1000000) : Exact counters seenText := by
  have seen (event : PerfEvent) (d : Decimal) (printed : counters.printed event = some d) :
      seenText event d = some (humanValue event d) := by
    refine if_pos ?_
    by_cases time : event = .elapsed
    · exact .inl time
    · exact .inr (small event d printed time)
  constructor
  · intro event n printed
    rw [seen event _ printed, Option.bind_some, humanValue]
    split
    · exact Decimal.parsePerfU64_plain n
    · exact Decimal.parsePerfU64_separated n
  · intro event d printed
    rw [seen event _ printed, Option.bind_some, humanValue]
    split
    · exact d.parsePerfF64_plain
    · exact d.parsePerfF64_separated

theorem parsePerf_digits (n : Nat) : dropCommas (trim (Nat.toDigits 10 n)) = Nat.toDigits 10 n := by
  rw [trim_digits (digits_toDigits n), dropCommas_self (digits_toDigits n).no_comma]

/-- From a million on a count does not read as what it is. -/
theorem integerRead_small {counters : PerfCounters} {event : PerfEvent} {field : Option UInt64}
    (printed : counters.printed event = field.map .ofCount) (counted : event ≠ .elapsed)
    (same : integerRead counters seenText event = field) :
    ∀ d, counters.printed event = some d → d.whole < 1000000 := by
  intro d shown
  rw [integerRead, shown, Option.bind_some] at same
  obtain ⟨n, rfl, rfl⟩ := Option.map_eq_some_iff.mp (printed.symm.trans shown)
  by_contra large
  rw [seenText, if_neg (not_or.mpr ⟨counted, large⟩)] at same
  rw [Decimal.ofCount_whole] at same large
  split at same
  · have fits : n.toNat / 1000000 < 2 ^ 64 := (Nat.div_le_self _ _).trans_lt n.toNat_lt
    rw [Option.bind_some, parsePerfU64, parsePerf_digits,
      parseU64_digits (digits_toDigits _) fits, Option.some_inj] at same
    have value := congrArg UInt64.toNat same
    rw [UInt64.toNat_ofNat_of_lt' fits] at value
    omega
  · cases same

/-- Nor does a time. -/
theorem decimalRead_small {counters : PerfCounters} {event : PerfEvent} {d : Decimal}
    (printed : counters.printed event = some d) (counted : event ≠ .elapsed)
    (same : decimalRead counters seenText event = some d.value) : d.whole < 1000000 := by
  rw [decimalRead, printed, Option.bind_some] at same
  by_contra large
  rw [seenText, if_neg (not_or.mpr ⟨counted, large⟩)] at same
  split at same
  · rw [Option.bind_some, parsePerfF64, parsePerf_digits, parseF64_whole (digits_toDigits _),
      Option.some_inj] at same
    have whole : (d.whole : ℚ) ≤ d.value := by
      rw [Decimal.whole, Decimal.value]
      exact_mod_cast @Nat.cast_div_le ℚ _ _ _ d.scaled (10 ^ d.places)
    have less : d.whole / 1000000 < d.whole := Nat.div_lt_self (by omega) (by decide)
    have cast : ((d.whole / 1000000 : Nat) : ℚ) < d.whole := Nat.cast_lt.mpr less
    exact absurd (same ▸ cast.trans_le whole) (lt_irrefl _)
  · cases same

theorem deriveIpc_fields (result : PerfResult) :
    ∃ ipc, deriveIpc result = { result with ipc := ipc } := by
  unfold deriveIpc
  split
  · split
    · exact ⟨_, rfl⟩
    · exact ⟨result.ipc, rfl⟩
  · exact ⟨result.ipc, rfl⟩

/-- The original values only come out of lines with one separator at most. -/
theorem small_of_human {layout : HumanLayout} {counters : PerfCounters}
    (same : parsePerfOutput (some (humanText layout counters)) = counters.result) :
    ∀ event d, counters.printed event = some d → event ≠ .elapsed → d.whole < 1000000 := by
  rw [parsePerfOutput_human] at same
  obtain ⟨ipc, fields⟩ := deriveIpc_fields
    (readAll counters seenText (lineIpc (seenLine layout counters)))
  rw [fields] at same
  intro event d printed counted
  cases event
  case elapsed => exact absurd rfl counted
  case taskClock =>
    have clock := congrArg PerfResult.taskClockMs same
    have value : counters.result.taskClockMs = some d.value :=
      congrArg (Option.map Decimal.value) printed
    exact decimalRead_small printed counted (clock.trans value)
  case cycles => exact integerRead_small rfl counted (congrArg PerfResult.cycles same) d printed
  case instructions =>
    exact integerRead_small rfl counted (congrArg PerfResult.instructions same) d printed
  case cacheReferences =>
    exact integerRead_small rfl counted (congrArg PerfResult.cacheReferences same) d printed
  case cacheMisses =>
    exact integerRead_small rfl counted (congrArg PerfResult.cacheMisses same) d printed
  case contextSwitches =>
    exact integerRead_small rfl counted (congrArg PerfResult.contextSwitches same) d printed
  case syscalls => exact integerRead_small rfl counted (congrArg PerfResult.syscalls same) d printed

/-- Where no number has two separators, the ratio is the noted one, or else derived. -/
theorem human_small (small : ∀ event d, counters.printed event = some d → event ≠ .elapsed →
      d.whole < 1000000) : parsePerfOutput (some (humanText layout counters)) =
    deriveIpc { counters.result with ipc := (noted layout counters).map Decimal.value } := by
  have line : lineIpc (seenLine layout counters) = (noted layout counters).map Decimal.value := by
    rw [seenLine]
    cases printed : counters.printed .instructions with
    | none =>
      have absent : counters.instructions = none := Option.map_eq_none_iff.mp printed
      simp [lineIpc, noted, PerfCounters.ipc, absent]
    | some d =>
      have seen : seenText .instructions d = some (humanValue .instructions d) :=
        if_pos (.inr (small _ d printed (by decide)))
      simp only [seen, Option.isSome_some, if_true]
      exact lineIpc_body layout counters (humanValue_legible _ d)
  rw [parsePerfOutput_human, readAll_exact counters (exact_human small), line]

/-- Both formats give the original values back exactly where no number is printed with two
separators and the noted ratio is not rounded. -/
theorem parsePerfOutput_alike_iff :
    (parsePerfOutput (some (humanText layout counters)) = counters.result ∧
      parsePerfOutput (some (csvText layout.listed counters)) = counters.result) ↔
    counters.Modest layout.annotated := by
  rw [and_iff_left (parsePerfOutput_csv counters layout.listed)]
  constructor
  · intro same
    have small := small_of_human same
    refine ⟨small, fun annotated ratio stated => (printedRatio_value ratio).mp ?_⟩
    rw [human_small layout counters small, noted, if_pos annotated, stated] at same
    have ipc : some (printedRatio ratio).value = counters.ipc := congrArg PerfResult.ipc same
    rw [stated] at ipc
    exact Option.some_inj.mp ipc
  · intro modest
    rw [human_small layout counters modest.small]
    refine deriveIpc_result counters ?_
    rw [noted]
    split
    · rename_i annotated
      right
      cases stated : counters.ipc with
      | none => rfl
      | some ratio =>
        exact congrArg some ((printedRatio_value ratio).mpr (modest.ratio annotated ratio stated))
    · exact .inl rfl

end Human

/-- Two blanks in front of each line and six before the event, as the parser's own test has it. -/
def testLayout : HumanLayout where
  indent _ := 2
  gap _ := 5
  noteGap := 13
  ratioGap := 0
  units := false
  listed := false
  annotated := true

def millionCycles : PerfCounters := ⟨some 1000000, none, none, none, none, none, none, none⟩

/-- `1,000,000      cycles` is read as one cycle. -/
theorem millionCycles_misread :
    (parsePerfOutput (some (humanText testLayout millionCycles))).cycles = some 1 ∧
      (parsePerfOutput (some (csvText false millionCycles))).cycles = some 1000000 ∧
      parsePerfOutput (some (humanText testLayout millionCycles)) ≠
        parsePerfOutput (some (csvText false millionCycles)) := by
  have human : (parsePerfOutput (some (humanText testLayout millionCycles))).cycles = some 1 := by
    rw [parsePerfOutput_human]
    rfl
  have csv : (parsePerfOutput (some (csvText false millionCycles))).cycles = some 1000000 := by
    rw [parsePerfOutput_csv]
    rfl
  refine ⟨human, csv, fun same => ?_⟩
  rw [same, csv] at human
  exact absurd human (by decide)

end Seshat.System
