import Mathlib.Algebra.Group.Nat.Defs
import Mathlib.Data.List.Basic
import Mathlib.Tactic.Common

/-! Numbers as decimal digits: padded to a width, and in groups of three. -/

namespace Seshat.Lib.Decimals

/-- At least `width` digits. -/
def padded (width n : Nat) : List Char :=
  List.replicate (width - (Nat.toDigits 10 n).length) '0' ++ Nat.toDigits 10 n

/-- Groups of three digits from the right, with commas between them. -/
def grouped (n : Nat) : List Char :=
  if n < 1000 then Nat.toDigits 10 n else grouped (n / 1000) ++ ',' :: padded 3 (n % 1000)

def dropCommas (text : List Char) : List Char := text.filter (· ≠ ',')

/-- A text that reads as a number. -/
structure Digits (text : List Char) (n : Nat) : Prop where
  nonempty : text ≠ []
  digits : ∀ c ∈ text, c.isDigit = true
  value : Nat.ofDigitChars 10 text 0 = n

theorem digits_toDigits (n : Nat) : Digits (Nat.toDigits 10 n) n where
  nonempty := Nat.toDigits_ne_nil
  digits _ member := Nat.isDigit_of_mem_toDigits (by decide) (by decide) member
  value := Nat.ofDigitChars_ten_toDigits

theorem digits_padded (width n : Nat) : Digits (padded width n) n where
  nonempty := List.append_ne_nil_of_right_ne_nil _ Nat.toDigits_ne_nil
  digits c member := by
    rcases List.mem_append.mp member with zero | digit
    · rw [List.eq_of_mem_replicate zero]
      rfl
    · exact (digits_toDigits n).digits c digit
  value := by
    rw [padded, Nat.ofDigitChars_append, Nat.ofDigitChars_replicate_zero, Nat.mul_zero,
      Nat.ofDigitChars_ten_toDigits]

theorem padded_length {width n : Nat} (positive : 0 < width) (fits : n < 10 ^ width) :
    (padded width n).length = width := by
  have short := (Nat.length_toDigits_le_iff (by decide) positive).mpr fits
  rw [padded, List.length_append, List.length_replicate]
  omega

/-- Digits one behind the other. -/
theorem Digits.append {first second : List Char} {n m : Nat} (left : Digits first n)
    (right : Digits second m) : Digits (first ++ second) (10 ^ second.length * n + m) where
  nonempty := List.append_ne_nil_of_left_ne_nil left.nonempty _
  digits c member := (List.mem_append.mp member).elim (left.digits c) (right.digits c)
  value := by
    rw [Nat.ofDigitChars_append, left.value, Nat.ofDigitChars_eq_ofDigitChars_zero, right.value]

theorem Digits.no_comma {text : List Char} {n : Nat} (digits : Digits text n) : ',' ∉ text :=
  fun member => absurd (digits.digits ',' member) (by decide)

theorem dropCommas_self {text : List Char} (none : ',' ∉ text) : dropCommas text = text :=
  List.filter_eq_self.mpr fun _ member => decide_eq_true fun same => none (same ▸ member)

theorem dropCommas_append (first second : List Char) :
    dropCommas (first ++ second) = dropCommas first ++ dropCommas second := List.filter_append _ _

theorem grouped_small {n : Nat} (small : n < 1000) : grouped n = Nat.toDigits 10 n := by
  rw [grouped, if_pos small]

theorem grouped_large {n : Nat} (large : 1000 ≤ n) :
    grouped n = grouped (n / 1000) ++ ',' :: padded 3 (n % 1000) := by
  rw [grouped, if_neg (Nat.not_lt.mpr large)]

/-- Without its commas a grouped number is the number. -/
theorem digits_grouped (n : Nat) : Digits (dropCommas (grouped n)) n := by
  induction n using Nat.strongRecOn with
  | ind n ih =>
    by_cases small : n < 1000
    · rw [grouped_small small, dropCommas_self (digits_toDigits n).no_comma]
      exact digits_toDigits n
    · have last := digits_padded 3 (n % 1000)
      have width := @padded_length 3 (n % 1000) (by decide) (Nat.mod_lt n (by decide))
      have whole := (ih (n / 1000) (by omega)).append last
      have drop : dropCommas (',' :: padded 3 (n % 1000)) = padded 3 (n % 1000) :=
        dropCommas_self last.no_comma
      rw [grouped_large (Nat.le_of_not_lt small), dropCommas_append, drop]
      have value : 10 ^ 3 * (n / 1000) + n % 1000 = n := by omega
      rw [width, value] at whole
      exact whole

theorem grouped_digit (n : Nat) : ∀ c ∈ grouped n, c.isDigit = true ∨ c = ',' := by
  intro c member
  by_cases comma : c = ','
  · exact .inr comma
  · exact .inl ((digits_grouped n).digits c (List.mem_filter.mpr ⟨member, decide_eq_true comma⟩))

/-- The first character of a grouped number is a digit. -/
theorem grouped_cons (n : Nat) : ∃ c rest, grouped n = c :: rest ∧ c.isDigit = true := by
  induction n using Nat.strongRecOn with
  | ind n ih =>
    by_cases small : n < 1000
    · rw [grouped_small small]
      obtain ⟨c, rest, same⟩ := List.exists_cons_of_ne_nil (digits_toDigits n).nonempty
      exact ⟨c, rest, same, (digits_toDigits n).digits c (same ▸ List.mem_cons_self)⟩
    · obtain ⟨c, rest, same, digit⟩ := ih (n / 1000) (by omega)
      rw [grouped_large (Nat.le_of_not_lt small), same]
      exact ⟨c, _, rfl, digit⟩

/-- Up to a million a grouped number has one comma at most. -/
theorem grouped_thousands {n : Nat} (large : 1000 ≤ n) (small : n < 1000000) :
    grouped n = Nat.toDigits 10 (n / 1000) ++ ',' :: padded 3 (n % 1000) := by
  rw [grouped_large large, grouped_small (by omega)]

theorem grouped_millions {n : Nat} (large : 1000000 ≤ n) (small : n < 1000000000) :
    grouped n = Nat.toDigits 10 (n / 1000000) ++ ',' :: padded 3 (n / 1000 % 1000) ++
      ',' :: padded 3 (n % 1000) := by
  rw [grouped_large (by omega), grouped_thousands (by omega) (by omega), Nat.div_div_eq_div_mul]

/-- From a billion on there are four groups. -/
theorem grouped_billions {n : Nat} (large : 1000000000 ≤ n) :
    ∃ first second third rest, grouped n = Nat.toDigits 10 first ++ ',' :: padded 3 second ++
      ',' :: padded 3 third ++ ',' :: rest := by
  induction n using Nat.strongRecOn with
  | ind n ih =>
    rw [grouped_large (by omega)]
    by_cases small : n / 1000 < 1000000000
    · rw [grouped_millions (by omega) small]
      exact ⟨_, _, _, _, rfl⟩
    · obtain ⟨first, second, third, rest, same⟩ := ih (n / 1000) (by omega) (by omega)
      exact ⟨first, second, third, rest ++ ',' :: padded 3 (n % 1000), by rw [same]; simp⟩

end Seshat.Lib.Decimals
