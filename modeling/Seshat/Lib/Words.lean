import Mathlib.Data.List.Basic
import Mathlib.Tactic.Common

/-! The words of a text: what stands between its blanks. -/

namespace Seshat.Lib.Words

variable {α : Type*} (blank : α → Bool)

def words (text : List α) : List (List α) :=
  (text.splitOnP blank).filter fun word => !word.isEmpty

/-- A text whose ends are stripped of blanks. -/
def strip (text : List α) : List α :=
  ((text.dropWhile blank).reverse.dropWhile blank).reverse

variable {blank}

theorem words_blank {sep : α} (blank_sep : blank sep = true) (text : List α) :
    words blank (sep :: text) = words blank text := by
  have cut := List.splitOnP_append_cons [] text blank_sep
  rw [List.nil_append] at cut
  rw [words, cut, List.splitOnP_nil, List.filter_append]
  rfl

theorem words_blanks {sep : α} (blank_sep : blank sep = true) (count : Nat) (text : List α) :
    words blank (List.replicate count sep ++ text) = words blank text := by
  induction count with
  | zero => rfl
  | succ count ih => rw [List.replicate_succ, List.cons_append, words_blank blank_sep, ih]

theorem words_last {word : List α} (nonempty : word ≠ [])
    (plain : ∀ c ∈ word, blank c = false) : words blank word = [word] := by
  rw [words, List.splitOnP_eq_singleton plain]
  exact List.filter_eq_self.mpr fun other member => by
    rw [List.mem_singleton.mp member, Bool.not_eq_true', List.isEmpty_eq_false_iff]
    exact nonempty

theorem words_cons {word : List α} (nonempty : word ≠ [])
    (plain : ∀ c ∈ word, blank c = false) {sep : α} (blank_sep : blank sep = true)
    (text : List α) : words blank (word ++ sep :: text) = word :: words blank text := by
  rw [words, List.splitOnP_append_cons _ _ blank_sep, List.filter_append]
  have first := words_last nonempty plain
  rw [words] at first
  rw [first]
  rfl

theorem words_append {sep : α} (blank_sep : blank sep = true) (first second : List α) :
    words blank (first ++ sep :: second) = words blank first ++ words blank second := by
  rw [words, List.splitOnP_append_cons _ _ blank_sep, List.filter_append]
  rfl

/-- Stripping a text leaves its words alone. -/
theorem words_strip (text : List α) : words blank (strip blank text) = words blank text := by
  have front (xs : List α) : words blank (xs.dropWhile blank) = words blank xs := by
    induction xs with
    | nil => rfl
    | cons c rest ih =>
      cases sep : blank c with
      | true => rw [List.dropWhile_cons_of_pos sep, ih, words_blank sep]
      | false => rw [List.dropWhile_cons_of_neg (by rw [sep]; decide)]
  have back (xs : List α) : words blank (xs.dropWhile blank).reverse = words blank xs.reverse := by
    induction xs with
    | nil => rfl
    | cons c rest ih =>
      cases sep : blank c with
      | true =>
        rw [List.dropWhile_cons_of_pos sep, ih, List.reverse_cons, words_append sep]
        exact (List.append_nil _).symm
      | false => rw [List.dropWhile_cons_of_neg (by rw [sep]; decide)]
  rw [strip, back, List.reverse_reverse, front]

/-- Words behind one separator each are read back. -/
theorem words_separated {sep : α} (blank_sep : blank sep = true) {list : List (List α)}
    (plain : ∀ word ∈ list, word ≠ [] ∧ ∀ c ∈ word, blank c = false) :
    words blank (list.flatMap (sep :: ·)) = list := by
  induction list with
  | nil => rfl
  | cons word rest ih =>
    obtain ⟨first, others⟩ := List.forall_mem_cons.mp plain
    have next : words blank (word ++ rest.flatMap (sep :: ·)) =
        word :: words blank (rest.flatMap (sep :: ·)) := by
      cases rest with
      | nil => exact (congrArg _ (List.append_nil word)).trans (words_last first.1 first.2)
      | cons other rest =>
        refine (words_cons first.1 first.2 blank_sep _).trans ?_
        exact congrArg _ (words_blank blank_sep _).symm
    rw [List.flatMap_cons, List.cons_append, words_blank blank_sep, next, ih others]

/-- Only the blanks in front are stripped where the last element is none. -/
theorem strip_blanks {sep : α} (blank_sep : blank sep = true) (count : Nat) {text : List α}
    (first : ∀ c ∈ text.head?, blank c = false) (last : ∀ c ∈ text.getLast?, blank c = false) :
    strip blank (List.replicate count sep ++ text) = text := by
  have keep (xs : List α) (plain : ∀ c ∈ xs.head?, blank c = false) : xs.dropWhile blank = xs := by
    cases xs with
    | nil => rfl
    | cons c rest => rw [List.dropWhile_cons_of_neg (by rw [plain c rfl]; decide)]
  have front : (List.replicate count sep ++ text).dropWhile blank = text := by
    rw [List.dropWhile_append_of_pos fun c member => by
      rw [List.eq_of_mem_replicate member, blank_sep]]
    exact keep text first
  rw [strip, front, keep _ (by rwa [List.head?_reverse]), List.reverse_reverse]

end Seshat.Lib.Words
