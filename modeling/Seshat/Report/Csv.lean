import Mathlib.Tactic.Common

/-! The CSV tables of a result tree: rendering, and the line-oriented reader of
`key,value` tables. Texts are lists of characters. -/

namespace Seshat.Report

abbrev Text := List Char

/-- `escape`: a field with a delimiter, a quote or a line break is quoted, its quotes doubled. -/
def escape (field : Text) : Text :=
  if field.any fun c => c = ',' ∨ c = '"' ∨ c = '\n' ∨ c = '\r' then
    '"' :: (field.flatMap fun c => if c = '"' then ['"', c] else [c]) ++ ['"']
  else field

def writeRow (cells : List Text) : Text := [','].intercalate (cells.map escape) ++ ['\r', '\n']

structure Csv where
  headers : List Text
  rows : List (List Text) := []
  deriving DecidableEq, Repr

namespace Csv

def render (csv : Csv) : Text := writeRow csv.headers ++ csv.rows.flatMap writeRow

def renderBody (csv : Csv) : Text := csv.rows.flatMap writeRow

/-- A `key,value` table. -/
def keyValue (pairs : List (Text × Text)) : Csv where
  headers := ["key".toList, "value".toList]
  rows := pairs.map fun pair => [pair.1, pair.2]

end Csv

/-- A line without its carriage return. -/
def stripCr (line : Text) : Text := if line.getLast? = some '\r' then line.dropLast else line

/-- `str::lines`, from a line already begun. -/
def linesFrom (line : Text) : Text → List Text
  | [] => if line.isEmpty then [] else [line]
  | c :: rest =>
      if c = '\n' then stripCr line :: linesFrom [] rest else linesFrom (line ++ [c]) rest

def lines (text : Text) : List Text := linesFrom [] text

/-- The reader's state inside a record. -/
structure Splitting where
  fields : List Text := []
  field : Text := []
  inQuotes : Bool := false

/-- `split_csv_line` from the given state on. -/
def splitFrom (state : Splitting) : Text → List Text
  | [] => state.fields ++ [state.field]
  | c :: rest =>
      if state.inQuotes then
        if c = '"' then
          match rest with
          | '"' :: rest => splitFrom { state with field := state.field ++ ['"'] } rest
          | rest => splitFrom { state with inQuotes := false } rest
        else splitFrom { state with field := state.field ++ [c] } rest
      else if c = '"' then splitFrom { state with inQuotes := true } rest
      else if c = ',' then
        splitFrom { fields := state.fields ++ [state.field], field := [], inQuotes := false } rest
      else splitFrom { state with field := state.field ++ [c] } rest

def splitCsvLine (line : Text) : List Text := splitFrom {} line

/-- The pairs of a `key,value` text, in the order of their lines. -/
def readKeyValueCsv (text : Text) : List (Text × Text) :=
  ((lines text).drop 1).filterMap fun line =>
    match splitCsvLine line with
    | key :: value :: _ => if line.isEmpty then none else some (key, value)
    | _ => none

/-- The value of a key: the last one inserted. -/
def lookupKey (pairs : List (Text × Text)) (key : Text) : Option Text := pairs.reverse.lookup key

/-! Reading back what was rendered. -/

section Fields

variable (fields : List Text) (begun : Text)

theorem splitFrom_plain {field : Text} (rest : Text)
    (plain : field.any (fun c => c = ',' ∨ c = '"' ∨ c = '\n' ∨ c = '\r') = false) :
    splitFrom { fields, field := begun } (field ++ rest) =
      splitFrom { fields, field := begun ++ field } rest := by
  induction field generalizing begun with
  | nil => rw [List.nil_append, List.append_nil]
  | cons c tail ih =>
    rw [List.any_cons, Bool.or_eq_false_iff, decide_eq_false_iff_not] at plain
    obtain ⟨ordinary, plain⟩ := plain
    simp only [not_or] at ordinary
    rw [List.cons_append, splitFrom.eq_def]
    simp only [Bool.false_eq_true, if_false, if_neg ordinary.1, if_neg ordinary.2.1]
    rw [ih (begun ++ [c]) plain, List.append_assoc, List.singleton_append]

/-- The body of a quoted field, up to its closing quote. -/
theorem splitFrom_quoted (field rest : Text) (closed : rest.head? ≠ some '"') :
    splitFrom { fields, field := begun, inQuotes := true }
        ((field.flatMap fun c => if c = '"' then ['"', c] else [c]) ++ '"' :: rest) =
      splitFrom { fields, field := begun ++ field } rest := by
  induction field generalizing begun with
  | nil =>
    rw [List.flatMap_nil, List.nil_append, splitFrom.eq_def, List.append_nil]
    simp only [if_true]
    match rest, closed with
    | [], _ => rfl
    | c :: rest, closed =>
      split
      · next found =>
        rw [List.cons.injEq] at found
        rw [found.1] at closed
        exact absurd rfl closed
      · rfl
  | cons c tail ih =>
    rw [List.flatMap_cons, List.append_assoc]
    have later := ih (begun ++ [c])
    rw [List.append_assoc, List.singleton_append] at later
    by_cases quote : c = '"'
    · rw [if_pos quote, List.cons_append, List.cons_append, List.nil_append, splitFrom.eq_def]
      subst quote
      simpa using later
    · rw [if_neg quote, List.cons_append, List.nil_append, splitFrom.eq_def]
      simpa [quote] using later

/-- An escaped field is read back as it was. -/
theorem splitFrom_escape (field rest : Text) (closed : rest.head? ≠ some '"') :
    splitFrom { fields, field := begun } (escape field ++ rest) =
      splitFrom { fields, field := begun ++ field } rest := by
  unfold escape
  split
  · rw [List.cons_append, List.cons_append, List.append_assoc, List.singleton_append,
      splitFrom.eq_def]
    simp only [Bool.false_eq_true, if_false, if_true]
    exact splitFrom_quoted fields begun field rest closed
  · next plain => exact splitFrom_plain fields begun rest (Bool.eq_false_iff.mpr plain)

end Fields

theorem splitCsvLine_pair (key value : Text) :
    splitCsvLine (escape key ++ ',' :: escape value) = [key, value] := by
  have first := splitFrom_escape [] [] key (',' :: escape value) (by simp)
  have last := splitFrom_escape [key] [] value [] (by simp)
  rw [List.append_nil, List.nil_append] at last
  rw [splitCsvLine, first, splitFrom.eq_def, List.nil_append]
  simp only [Bool.false_eq_true, if_false]
  rw [if_neg (by decide), if_pos trivial]
  exact last.trans rfl

/-- A cell the line-oriented reader does not cut. -/
def OneLine (cell : Text) : Prop := '\n' ∉ cell

theorem escape_oneLine {cell : Text} (oneLine : OneLine cell) : OneLine (escape cell) := by
  unfold escape
  split
  · intro member
    rw [List.mem_append, List.mem_cons, List.mem_flatMap] at member
    rcases member with (quote | ⟨c, inCell, doubled⟩) | quote
    · exact absurd quote (by decide)
    · by_cases isQuote : c = '"'
      · simp [isQuote] at doubled
      · rw [if_neg isQuote, List.mem_singleton] at doubled
        exact oneLine (doubled ▸ inCell)
    · simp at quote
  · exact oneLine

theorem linesFrom_line {line : Text} (begun rest : Text) (oneLine : OneLine line) :
    linesFrom begun (line ++ '\r' :: '\n' :: rest) = (begun ++ line) :: linesFrom [] rest := by
  induction line generalizing begun with
  | nil => simp [linesFrom, stripCr]
  | cons c tail ih =>
    have first : c ≠ '\n' := fun same => oneLine (same ▸ List.mem_cons_self)
    rw [List.cons_append, linesFrom, if_neg first,
      ih (begun ++ [c]) fun member => oneLine (List.mem_cons_of_mem _ member)]
    simp

theorem writeRow_pair (key value : Text) :
    writeRow [key, value] = (escape key ++ ',' :: escape value) ++ ['\r', '\n'] := by
  simp [writeRow, List.intercalate]

theorem lines_pairs (pairs : List (Text × Text))
    (oneLine : ∀ pair ∈ pairs, OneLine pair.1 ∧ OneLine pair.2) :
    lines ((pairs.map fun pair => [pair.1, pair.2]).flatMap writeRow) =
      pairs.map fun pair => escape pair.1 ++ ',' :: escape pair.2 := by
  induction pairs with
  | nil => rfl
  | cons pair rest ih =>
    obtain ⟨key, value⟩ := oneLine pair List.mem_cons_self
    have whole : OneLine (escape pair.1 ++ ',' :: escape pair.2) := by
      intro member
      rw [List.mem_append, List.mem_cons] at member
      rcases member with inKey | comma | inValue
      · exact escape_oneLine key inKey
      · exact absurd comma (by decide)
      · exact escape_oneLine value inValue
    rw [List.map_cons, List.flatMap_cons, writeRow_pair, lines, List.append_assoc,
      List.cons_append, List.cons_append, List.nil_append, linesFrom_line _ _ whole,
      List.nil_append, List.map_cons]
    exact congrArg _ (ih fun other member => oneLine other (List.mem_cons_of_mem _ member))

/-- A table without line breaks in its cells is read back as it was written. -/
theorem readKeyValueCsv_render {pairs : List (Text × Text)}
    (oneLine : ∀ pair ∈ pairs, OneLine pair.1 ∧ OneLine pair.2) :
    readKeyValueCsv (Csv.keyValue pairs).render = pairs := by
  have header : OneLine "key".toList ∧ OneLine "value".toList := by
    constructor <;> simp [OneLine]
  have all := lines_pairs (("key".toList, "value".toList) :: pairs) fun pair member => by
    rcases List.mem_cons.mp member with rfl | later
    · exact header
    · exact oneLine pair later
  have text : (Csv.keyValue pairs).render = ((("key".toList, "value".toList) :: pairs).map
      fun pair => [pair.1, pair.2]).flatMap writeRow := by
    rw [List.map_cons, List.flatMap_cons]
    rfl
  rw [readKeyValueCsv, text, all, List.map_cons, List.drop_one, List.tail_cons,
    List.filterMap_map]
  have each (pair : Text × Text) : ((fun line : Text => match splitCsvLine line with
      | key :: value :: _ => if line.isEmpty then none else some (key, value)
      | _ => none) ∘ fun pair : Text × Text => escape pair.1 ++ ',' :: escape pair.2) pair =
      some pair := by
    simp [splitCsvLine_pair]
  rw [funext each]
  exact List.filterMap_some

end Seshat.Report
