import Mathlib.Data.List.Infix
import Mathlib.Tactic.Common

/-! Occurrences of a word in a sequence that is cut at separators, and the decimal numbers that
stand between them. -/

namespace Seshat.Lib.Infix

variable {α : Type*} {sep : α} {word : List α}

/-- A word does not start where its first element is missing. -/
theorem infix_skip {first : α} {rest left right : List α} (absent : first ∉ left) :
    first :: rest <:+: left ++ right ↔ first :: rest <:+: right := by
  induction left with
  | nil => rfl
  | cons x left ih =>
    rw [List.mem_cons, not_or] at absent
    rw [List.cons_append, List.infix_cons_iff, List.cons_prefix_cons, ih absent.2]
    exact or_iff_right fun start => absent.1 start.1

/-- A sequence is cut in one way at its last separator. -/
theorem append_sep_inj {left left' right right' : List α} (absent : sep ∉ right)
    (absent' : sep ∉ right') :
    left ++ sep :: right = left' ++ sep :: right' ↔ left = left' ∧ right = right' := by
  constructor
  · intro same
    rcases List.append_eq_append_iff.mp same with ⟨mid, rfl, cut⟩ | ⟨mid, rfl, cut⟩
    · cases mid with
      | nil => exact ⟨(List.append_nil _).symm, (List.cons.inj cut).2⟩
      | cons first mid =>
        rw [(List.cons.inj cut).2] at absent
        simp at absent
    · cases mid with
      | nil => exact ⟨List.append_nil _, (List.cons.inj cut).2.symm⟩
      | cons first mid =>
        rw [(List.cons.inj cut).2] at absent'
        simp at absent'
  · rintro ⟨rfl, rfl⟩
    rfl

/-! Decimal numbers. -/

theorem toDigits_injective : Function.Injective (Nat.toDigits 10) := by
  intro first second same
  calc
    first = Nat.ofDigitChars 10 (Nat.toDigits 10 first) 0 := Nat.ofDigitChars_ten_toDigits.symm
    _ = Nat.ofDigitChars 10 (Nat.toDigits 10 second) 0 := by rw [same]
    _ = second := Nat.ofDigitChars_ten_toDigits

theorem not_mem_toDigits {n : Nat} {c : Char} (other : c.isDigit = false) :
    c ∉ Nat.toDigits 10 n := by
  intro member
  rw [Nat.isDigit_of_mem_toDigits (by decide) (by decide) member] at other
  cases other

/-- A text that ends in a letter and a number tells the number and what stands before it. -/
theorem numbered_inj {letter : Char} (other : letter.isDigit = false) {left left' : List Char}
    {first second : Nat} :
    left ++ letter :: Nat.toDigits 10 first = left' ++ letter :: Nat.toDigits 10 second ↔
      left = left' ∧ first = second := by
  rw [append_sep_inj (not_mem_toDigits other) (not_mem_toDigits other), toDigits_injective.eq_iff]

/-! Borders. -/

/-- A word none of whose proper ends is one of its fronts. -/
def Borderless (word : List α) : Prop :=
  ∀ k < word.length, 0 < k → word.drop k ≠ word.take (word.length - k)

/-- Between a text without the word and a next occurrence of it, a borderless word has
no occurrence that starts in the text. -/
theorem Borderless.not_prefix_append {left right : List α} (borderless : Borderless word)
    (absent : ¬word <:+: left) (nonempty : left ≠ []) (next : word <+: right) :
    ¬word <+: left ++ right := by
  intro found
  obtain ⟨tail, rfl⟩ := next
  rcases List.prefix_or_prefix_of_prefix found (List.prefix_append left _) with inside | cut
  · exact absent inside.isInfix
  · obtain ⟨rest, whole⟩ := cut
    have overlap : rest <+: word ++ tail := by
      rw [← whole, List.append_assoc, List.prefix_append_right_inj, ← List.append_assoc,
        whole] at found
      exact found
    have size : left.length + rest.length = word.length := by
      rw [← whole, List.length_append]
    have front : rest = word.take rest.length := by
      rw [List.prefix_iff_eq_take.mp overlap, List.take_append_of_le_length (by omega)]
      simp only [List.length_take]
      congr 1
      omega
    by_cases proper : left.length < word.length
    · refine borderless left.length proper (List.length_pos_iff.mpr nonempty) ?_
      rw [show word.length - left.length = rest.length by omega, ← front]
      rw [← whole, List.drop_left]
    · have none : rest = [] := List.eq_nil_of_length_eq_zero (by omega)
      rw [none, List.append_nil] at whole
      exact absent (whole ▸ List.infix_rfl)

end Seshat.Lib.Infix
