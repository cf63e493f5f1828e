import Mathlib.Tactic.Common

/-! Self-delimiting frames in a stream of cells. A format says how long a header is
and which total length a stream front announces. `pull` takes the first complete
frame off a stream, dropping one cell at a time while the front announces none;
`frames` is every frame of a stream. Both commute with appending more cells, so
a reader that only ever sees prefixes delivers what the whole stream contains. -/

namespace Seshat.Lib.Framing

structure Format (α : Type*) where
  headerLen : Nat
  /-- The total length the front of a stream announces, header included. -/
  announced : List α → Option Nat
  headerLen_pos : 0 < headerLen
  announced_append : ∀ front more, headerLen ≤ front.length →
    announced (front ++ more) = announced front
  announced_ge : ∀ front total, announced front = some total → headerLen ≤ total

variable {α : Type*} (fmt : Format α)

/-- The first complete frame and the cells behind it; without one, the cells that
still wait for more. -/
def pull : List α → Option (List α) × List α
  | [] => (none, [])
  | cell :: rest =>
      if (cell :: rest).length < fmt.headerLen then (none, cell :: rest)
      else match fmt.announced (cell :: rest) with
        | none => pull rest
        | some total =>
            if (cell :: rest).length < total then (none, cell :: rest)
            else (some ((cell :: rest).take total), (cell :: rest).drop total)

def IsFrame (cells : List α) : Prop := fmt.announced cells = some cells.length

theorem pull_short {stream : List α} (short : stream.length < fmt.headerLen) :
    pull fmt stream = (none, stream) := by
  cases stream with
  | nil => rfl
  | cons cell rest => simp only [pull, if_pos short]

theorem pull_garbage {cell : α} {rest : List α} (long : fmt.headerLen ≤ (cell :: rest).length)
    (garbage : fmt.announced (cell :: rest) = none) :
    pull fmt (cell :: rest) = pull fmt rest := by
  simp only [pull, if_neg (Nat.not_lt.mpr long), garbage]

theorem pull_garbage_append {cell : α} {rest : List α} (more : List α)
    (long : fmt.headerLen ≤ (cell :: rest).length)
    (garbage : fmt.announced (cell :: rest) = none) :
    pull fmt (cell :: rest ++ more) = pull fmt (rest ++ more) := by
  have longer : fmt.headerLen ≤ (cell :: (rest ++ more)).length := by
    simp only [List.length_cons, List.length_append] at long ⊢
    omega
  exact pull_garbage fmt longer ((fmt.announced_append _ more long).trans garbage)

theorem pull_waiting {stream : List α} {total : Nat} (long : fmt.headerLen ≤ stream.length)
    (header : fmt.announced stream = some total) (short : stream.length < total) :
    pull fmt stream = (none, stream) := by
  cases stream with
  | nil => rfl
  | cons cell rest =>
    simp only [pull, if_neg (Nat.not_lt.mpr long), header, if_pos short]

theorem pull_complete {stream : List α} {total : Nat} (long : fmt.headerLen ≤ stream.length)
    (header : fmt.announced stream = some total) (complete : total ≤ stream.length) :
    pull fmt stream = (some (stream.take total), stream.drop total) := by
  cases stream with
  | nil =>
    have := fmt.headerLen_pos
    simp only [List.length_nil] at long
    omega
  | cons cell rest =>
    simp only [pull, if_neg (Nat.not_lt.mpr long), header, if_neg (Nat.not_lt.mpr complete)]

/-- A stream front that cannot be cut without more cells. -/
def Stuck (stream : List α) : Prop :=
  stream.length < fmt.headerLen ∨
    ∃ total, fmt.headerLen ≤ stream.length ∧ fmt.announced stream = some total ∧
      stream.length < total

theorem pull_stuck {stream : List α} (stuck : Stuck fmt stream) :
    pull fmt stream = (none, stream) := by
  rcases stuck with short | ⟨total, long, header, waiting⟩
  · exact pull_short fmt short
  · exact pull_waiting fmt long header waiting

/-- Induction along the scan: stuck, one garbage cell dropped, or a complete frame. -/
@[elab_as_elim]
theorem pull_induction {motive : List α → Prop}
    (stuck : ∀ stream, Stuck fmt stream → motive stream)
    (garbage : ∀ cell rest, fmt.headerLen ≤ (cell :: rest).length →
      fmt.announced (cell :: rest) = none → motive rest → motive (cell :: rest))
    (complete : ∀ stream total, fmt.headerLen ≤ stream.length →
      fmt.announced stream = some total → total ≤ stream.length → motive stream)
    (stream : List α) : motive stream := by
  induction stream with
  | nil => exact stuck [] (Or.inl fmt.headerLen_pos)
  | cons cell rest ih =>
    by_cases short : (cell :: rest).length < fmt.headerLen
    · exact stuck _ (Or.inl short)
    · have long := Nat.not_lt.mp short
      cases header : fmt.announced (cell :: rest) with
      | none => exact garbage cell rest long header ih
      | some total =>
        by_cases waiting : (cell :: rest).length < total
        · exact stuck _ (Or.inr ⟨total, long, header, waiting⟩)
        · exact complete _ total long header (Nat.not_lt.mp waiting)

theorem pull_none_stuck {stream rest : List α} (waits : pull fmt stream = (none, rest)) :
    Stuck fmt rest := by
  induction stream using pull_induction fmt with
  | stuck stream stuck =>
    rw [pull_stuck fmt stuck, Prod.mk.injEq] at waits
    exact waits.2 ▸ stuck
  | garbage cell tail long header ih => exact ih (pull_garbage fmt long header ▸ waits)
  | complete stream total long header complete =>
    rw [pull_complete fmt long header complete, Prod.mk.injEq] at waits
    exact absurd waits.1 (Option.some_ne_none _)

theorem pull_append_none {stream rest : List α} (more : List α)
    (waits : pull fmt stream = (none, rest)) :
    pull fmt (stream ++ more) = pull fmt (rest ++ more) := by
  induction stream using pull_induction fmt with
  | stuck stream stuck =>
    rw [pull_stuck fmt stuck, Prod.mk.injEq] at waits
    rw [waits.2]
  | garbage cell tail long header ih =>
    rw [pull_garbage fmt long header] at waits
    rw [← ih waits]
    exact pull_garbage_append fmt more long header
  | complete stream total long header complete =>
    rw [pull_complete fmt long header complete, Prod.mk.injEq] at waits
    exact absurd waits.1 (Option.some_ne_none _)

theorem pull_append_some {stream frame rest : List α} (more : List α)
    (found : pull fmt stream = (some frame, rest)) :
    pull fmt (stream ++ more) = (some frame, rest ++ more) := by
  induction stream using pull_induction fmt with
  | stuck stream stuck =>
    rw [pull_stuck fmt stuck, Prod.mk.injEq] at found
    exact absurd found.1.symm (Option.some_ne_none _)
  | garbage cell tail long header ih =>
    rw [pull_garbage fmt long header] at found
    rw [← ih found]
    exact pull_garbage_append fmt more long header
  | complete stream total long header complete =>
    have same := (fmt.announced_append stream more long).trans header
    rw [pull_complete fmt long header complete, Prod.mk.injEq, Option.some.injEq] at found
    rw [pull_complete fmt (by rw [List.length_append]; omega) same
        (by rw [List.length_append]; omega),
      List.take_append_of_le_length complete, List.drop_append_of_le_length complete,
      found.1, found.2]

/-- A pulled frame announces its own length, and leaves a shorter stream. -/
theorem pull_some_spec {stream frame rest : List α}
    (found : pull fmt stream = (some frame, rest)) :
    IsFrame fmt frame ∧ frame.length + rest.length ≤ stream.length := by
  induction stream using pull_induction fmt with
  | stuck stream stuck =>
    rw [pull_stuck fmt stuck, Prod.mk.injEq] at found
    exact absurd found.1.symm (Option.some_ne_none _)
  | garbage cell tail long header ih =>
    obtain ⟨whole, shorter⟩ := ih (pull_garbage fmt long header ▸ found)
    exact ⟨whole, by simp only [List.length_cons]; omega⟩
  | complete stream total long header complete =>
    have big := fmt.announced_ge _ _ header
    rw [pull_complete fmt long header complete, Prod.mk.injEq, Option.some.injEq] at found
    have size : frame.length = total := by
      rw [← found.1, List.length_take]
      omega
    have front := fmt.announced_append frame (stream.drop total) (by omega)
    rw [← found.1, List.take_append_drop, header, found.1] at front
    refine ⟨by rw [IsFrame, size, ← front], ?_⟩
    rw [size, ← found.2, List.length_drop]
    omega

theorem frame_length {frame : List α} (whole : IsFrame fmt frame) :
    fmt.headerLen ≤ frame.length :=
  fmt.announced_ge _ _ whole

theorem pull_frame {frame : List α} (whole : IsFrame fmt frame) (rest : List α) :
    pull fmt (frame ++ rest) = (some frame, rest) := by
  have long := frame_length fmt whole
  have header := (fmt.announced_append frame rest long).trans whole
  rw [pull_complete fmt (by rw [List.length_append]; omega) header
    (by rw [List.length_append]; omega), List.take_left', List.drop_left'] <;> rfl

/-- Every frame of a stream, in order. -/
def frames (stream : List α) : List (List α) :=
  match _found : pull fmt stream with
  | (none, _) => []
  | (some frame, rest) => frame :: frames rest
termination_by stream.length
decreasing_by
  obtain ⟨whole, shorter⟩ := pull_some_spec fmt (by assumption)
  have long := frame_length fmt whole
  have := fmt.headerLen_pos
  omega

theorem frames_none {stream rest : List α} (waits : pull fmt stream = (none, rest)) :
    frames fmt stream = [] := by
  rw [frames]
  split
  · rfl
  · next found => simp [waits] at found

theorem frames_some {stream frame rest : List α} (found : pull fmt stream = (some frame, rest)) :
    frames fmt stream = frame :: frames fmt rest := by
  rw [frames]
  split
  · next waits => simp [found] at waits
  · next again =>
    rw [found, Prod.mk.injEq, Option.some.injEq] at again
    rw [again.1, again.2]

/-- Two streams with the same first pull have the same frames. -/
theorem frames_congr {first second : List α} (same : pull fmt first = pull fmt second) :
    frames fmt first = frames fmt second := by
  cases found : pull fmt second with
  | mk frame rest =>
    cases frame with
    | none => rw [frames_none fmt (same.trans found), frames_none fmt found]
    | some frame => rw [frames_some fmt (same.trans found), frames_some fmt found]

/-- Cells in front of a stream at which nothing is announced are dropped, also when the
stream ends before a header is complete. -/
theorem frames_skip {garbage rest : List α} (silent : ∀ cell tail,
    cell :: tail <:+ garbage → fmt.announced (cell :: tail ++ rest) = none) :
    frames fmt (garbage ++ rest) = frames fmt rest := by
  induction garbage with
  | nil => rfl
  | cons cell garbage ih =>
    have later := ih fun first tail ends =>
      silent first tail (ends.trans (List.suffix_cons cell garbage))
    by_cases short : (cell :: garbage ++ rest).length < fmt.headerLen
    · have shorter : rest.length < fmt.headerLen := by
        simp only [List.length_append, List.length_cons] at short
        omega
      rw [frames_none fmt (pull_short fmt short), frames_none fmt (pull_short fmt shorter)]
    · rw [← later]
      exact frames_congr fmt
        (pull_garbage fmt (Nat.not_lt.mp short) (silent cell garbage List.suffix_rfl))

@[simp] theorem frames_nil : frames fmt [] = [] := frames_none fmt rfl

/-- A concatenation of frames is cut back into exactly these frames. -/
theorem frames_flatten {list : List (List α)} (whole : ∀ frame ∈ list, IsFrame fmt frame)
    (rest : List α) : frames fmt (list.flatten ++ rest) = list ++ frames fmt rest := by
  induction list with
  | nil => rfl
  | cons frame tail ih =>
    rw [List.flatten_cons, List.append_assoc,
      frames_some fmt (pull_frame fmt (whole frame List.mem_cons_self) _),
      ih (fun other member => whole other (List.mem_cons_of_mem _ member)), List.cons_append]

/-- A stream has no more frames than cells. -/
theorem frames_length_le (stream : List α) : (frames fmt stream).length ≤ stream.length := by
  fun_induction frames fmt stream with
  | case1 stream rest waits => exact Nat.zero_le _
  | case2 stream first rest found ih =>
    obtain ⟨whole, shorter⟩ := pull_some_spec fmt found
    have long := frame_length fmt whole
    have := fmt.headerLen_pos
    rw [List.length_cons]
    omega

/-- Every frame of a stream, with the number of cells behind it. -/
def marked (stream : List α) : List (List α × Nat) :=
  match _found : pull fmt stream with
  | (none, _) => []
  | (some frame, rest) => (frame, rest.length) :: marked rest
termination_by stream.length
decreasing_by
  obtain ⟨whole, shorter⟩ := pull_some_spec fmt (by assumption)
  have long := frame_length fmt whole
  have := fmt.headerLen_pos
  omega

theorem marked_none {stream rest : List α} (waits : pull fmt stream = (none, rest)) :
    marked fmt stream = [] := by
  rw [marked]
  split
  · rfl
  · next found => simp [waits] at found

theorem marked_some {stream frame rest : List α} (found : pull fmt stream = (some frame, rest)) :
    marked fmt stream = (frame, rest.length) :: marked fmt rest := by
  rw [marked]
  split
  · next waits => simp [found] at waits
  · next again =>
    rw [found, Prod.mk.injEq, Option.some.injEq] at again
    rw [again.1, again.2]

theorem marked_congr {first second : List α} (same : pull fmt first = pull fmt second) :
    marked fmt first = marked fmt second := by
  cases found : pull fmt second with
  | mk frame rest =>
    cases frame with
    | none => rw [marked_none fmt (same.trans found), marked_none fmt found]
    | some frame => rw [marked_some fmt (same.trans found), marked_some fmt found]

theorem map_fst_marked (stream : List α) : (marked fmt stream).map Prod.fst = frames fmt stream := by
  fun_induction frames fmt stream with
  | case1 stream rest waits => rw [marked_none fmt waits, List.map_nil]
  | case2 stream frame rest found ih => rw [marked_some fmt found, List.map_cons, ih]

/-- A frame ends within its stream. -/
theorem lt_of_mem_marked {stream : List α} {mark : List α × Nat} (member : mark ∈ marked fmt stream) :
    mark.2 < stream.length := by
  fun_induction frames fmt stream with
  | case1 stream rest waits => simp [marked_none fmt waits] at member
  | case2 stream frame rest found ih =>
    obtain ⟨whole, shorter⟩ := pull_some_spec fmt found
    have long := frame_length fmt whole
    have := fmt.headerLen_pos
    rw [marked_some fmt found] at member
    rcases List.mem_cons.mp member with rfl | later
    · simp only
      omega
    · have := ih later
      omega

theorem pull_none_length {stream rest : List α} (waits : pull fmt stream = (none, rest)) :
    rest.length ≤ stream.length := by
  induction stream using pull_induction fmt with
  | stuck stream stuck =>
    rw [pull_stuck fmt stuck, Prod.mk.injEq] at waits
    exact Nat.le_of_eq (congrArg List.length waits.2.symm)
  | garbage cell tail long header ih =>
    exact Nat.le_trans (ih (pull_garbage fmt long header ▸ waits)) (Nat.le_succ _)
  | complete stream total long header complete =>
    rw [pull_complete fmt long header complete, Prod.mk.injEq] at waits
    exact absurd waits.1 (Option.some_ne_none _)

/-- The next frames of a stream are `list`, and `rest` is what is behind them. -/
structure Consumes (stream : List α) (list : List (List α)) (rest : List α) : Prop where
  shorter : rest.length ≤ stream.length
  marks : ∃ marks, marks.map Prod.fst = list ∧ (∀ mark ∈ marks, rest.length ≤ mark.2) ∧
    marked fmt stream = marks ++ marked fmt rest

theorem Consumes.refl (stream : List α) : Consumes fmt stream [] stream :=
  ⟨Nat.le_refl _, [], rfl, nofun, rfl⟩

theorem Consumes.trans {stream middle rest : List α} {first second : List (List α)}
    (left : Consumes fmt stream first middle) (right : Consumes fmt middle second rest) :
    Consumes fmt stream (first ++ second) rest := by
  obtain ⟨before, taken, above, marks⟩ := left.marks
  obtain ⟨after, taken', above', marks'⟩ := right.marks
  refine ⟨Nat.le_trans right.shorter left.shorter, before ++ after, ?_, ?_, ?_⟩
  · rw [List.map_append, taken, taken']
  · exact List.forall_mem_append.mpr
      ⟨fun mark member => Nat.le_trans right.shorter (above mark member), above'⟩
  · rw [marks, marks', List.append_assoc]

theorem Consumes.frames {stream rest : List α} {list : List (List α)}
    (consumed : Consumes fmt stream list rest) : frames fmt stream = list ++ frames fmt rest := by
  obtain ⟨marks, taken, -, same⟩ := consumed.marks
  rw [← map_fst_marked, same, List.map_append, taken, map_fst_marked]

/-- Cutting `list` off a stream leaves `rest`, whatever is appended later. -/
def Cuts (stream : List α) (list : List (List α)) (rest : List α) : Prop :=
  ∀ more, Consumes fmt (stream ++ more) list (rest ++ more)

theorem Cuts.refl (stream : List α) : Cuts fmt stream [] stream := fun _ => .refl fmt _

theorem Cuts.trans {stream middle rest : List α} {first second : List (List α)}
    (left : Cuts fmt stream first middle) (right : Cuts fmt middle second rest) :
    Cuts fmt stream (first ++ second) rest := fun more => (left more).trans fmt (right more)

theorem cuts_none {stream rest : List α} (waits : pull fmt stream = (none, rest)) :
    Cuts fmt stream [] rest := by
  intro more
  have short := pull_none_length fmt waits
  refine ⟨?_, [], rfl, nofun, marked_congr fmt (pull_append_none fmt more waits)⟩
  rw [List.length_append, List.length_append]
  omega

theorem cuts_some {stream frame rest : List α} (found : pull fmt stream = (some frame, rest)) :
    Cuts fmt stream [frame] rest := by
  intro more
  have short := (pull_some_spec fmt found).2
  refine ⟨?_, [(frame, (rest ++ more).length)], rfl, by simp,
    marked_some fmt (pull_append_some fmt more found)⟩
  rw [List.length_append, List.length_append]
  omega

theorem frames_stuck {stream : List α} (stuck : Stuck fmt stream) : frames fmt stream = [] :=
  frames_none fmt (pull_stuck fmt stuck)

end Seshat.Lib.Framing
