/-
**Decimal digits, written and read.**

A number is written without zeros in front of it, or with as many as a width asks for. Either way
the digits spell the number, and a scan that takes them gives it back:

* `head?_toDigits`: a number of several digits does not start with zero;
* `length_padded`, `valueOf_padded`: numbers that fit a width fill it, and are still spelled;
* `Scan.run_natural`, `Scan.run_upTo`: all digits that there are, or no more than a width.
-/

import PathQuery.Proofs.Text.Scan

namespace PathQuery.Text

/-! ### Digits of a number -/

theorem isDigit_of_mem_toDigits {n : Nat} : ∀ c ∈ Nat.toDigits 10 n, c.isDigit = true :=
  fun _ member => Nat.isDigit_of_mem_toDigits (by decide) (by decide) member

/-- A number has a first digit. -/
theorem exists_toDigits_eq_cons (n : Nat) :
    ∃ c rest, Nat.toDigits 10 n = c :: rest ∧ c.isDigit = true := by
  obtain ⟨c, rest, digits⟩ := List.exists_cons_of_ne_nil (@Nat.toDigits_ne_nil n 10)
  refine ⟨c, rest, digits, @isDigit_of_mem_toDigits n c ?_⟩
  rw [digits]
  exact List.mem_cons_self

/-- **Only zero starts with zero.** -/
theorem head?_toDigits {n : Nat} (positive : 0 < n) : (Nat.toDigits 10 n).head? ≠ some '0' := by
  induction n using Nat.strongRecOn with
  | ind n ih =>
    by_cases single : n < 10
    · rw [Nat.toDigits_of_lt_base single, List.head?_cons]
      intro zero
      have none : n = 0 := Nat.digitChar_eq_zero.mp (Option.some.inj zero)
      omega
    · have front := ih (n / 10) (by omega) (by omega)
      obtain ⟨c, rest, digits, _⟩ := exists_toDigits_eq_cons (n / 10)
      rw [digits] at front
      rw [Nat.toDigits_of_base_le (by decide) (by omega), digits]
      exact front

/-- What starts with zero is zero alone. -/
theorem length_toDigits_of_head? {n : Nat} (zero : (Nat.toDigits 10 n).head? = some '0') :
    (Nat.toDigits 10 n).length = 1 := by
  by_cases positive : 0 < n
  · exact absurd zero (head?_toDigits positive)
  · obtain rfl : n = 0 := by omega
    rfl

/-! ### Digits up to a width -/

theorem isDigit_of_mem_padded {width n : Nat} : ∀ c ∈ padded width n, c.isDigit = true := by
  intro c member
  rcases List.mem_append.mp member with zero | digit
  · rw [List.eq_of_mem_replicate zero]
    rfl
  · exact isDigit_of_mem_toDigits c digit

/-- A number has a first digit in every width. -/
theorem exists_padded_eq_cons (width n : Nat) :
    ∃ c rest, padded width n = c :: rest ∧ c.isDigit = true := by
  have inhabited : padded width n ≠ [] := List.append_ne_nil_of_right_ne_nil _ Nat.toDigits_ne_nil
  obtain ⟨c, rest, digits⟩ := List.exists_cons_of_ne_nil inhabited
  refine ⟨c, rest, digits, @isDigit_of_mem_padded width n c ?_⟩
  rw [digits]
  exact List.mem_cons_self

theorem not_isEmpty_padded (width n : Nat) : ¬ (padded width n).isEmpty = true := by
  obtain ⟨c, rest, digits, _⟩ := exists_padded_eq_cons width n
  rw [digits]
  exact Bool.false_ne_true

/-- **A number that fits a width fills it.** -/
theorem length_padded {width n : Nat} (positive : 0 < width) (fits : n < Nat.pow 10 width) :
    (padded width n).length = width := by
  have short : (Nat.toDigits 10 n).length ≤ width :=
    (Nat.length_toDigits_le_iff (by decide) positive).mpr fits
  unfold padded
  rw [List.length_append, List.length_replicate]
  omega

/-- **Zeros in front do not count.** -/
theorem valueOf_padded (width n : Nat) : Scan.valueOf (padded width n) = n := by
  unfold Scan.valueOf padded
  rw [Nat.ofDigitChars_append, Nat.ofDigitChars_replicate_zero, Nat.mul_zero]
  exact Nat.ofDigitChars_ten_toDigits

/-! ### Scans of digits -/

namespace Scan

/-- **All digits are taken** up to something else. -/
theorem run_digits {found rest : List Char} (all : ∀ c ∈ found, c.isDigit = true)
    (stops : ∀ c ∈ rest.head?, c.isDigit = false) :
    digits.run (found ++ rest) = some (found, rest) :=
  run_takeWhile all stops

/-- A number is taken with the zeros in front of it. -/
theorem run_natural (width n : Nat) {rest : List Char}
    (stops : ∀ c ∈ rest.head?, c.isDigit = false) :
    natural.run (padded width n ++ rest) = some (n, rest) := by
  unfold natural
  rw [run_bind (run_digits isDigit_of_mem_padded stops), if_neg (not_isEmpty_padded width n),
    valueOf_padded]
  rfl

/-- **A number that fills a width is taken**, whatever follows. -/
theorem run_upTo {width n : Nat} (positive : 0 < width) (fits : n < Nat.pow 10 width)
    (rest : List Char) : (upTo width).run (padded width n ++ rest) = some (n, rest) := by
  have cut : ((padded width n ++ rest).take width).takeWhile Char.isDigit = padded width n := by
    have whole : (padded width n ++ []).takeWhile Char.isDigit = padded width n ++ [] := by
      rw [List.takeWhile_append_of_pos isDigit_of_mem_padded, List.takeWhile_nil]
    have front : (padded width n ++ rest).take width = padded width n := by
      have length := length_padded positive fits
      rw [List.take_append_of_le_length (by omega), List.take_of_length_le (by omega)]
    rw [List.append_nil] at whole
    rw [front, whole]
  unfold upTo
  rw [run_bind (StateT.run_get _), cut, run_bind (StateT.run_modify _ _), List.drop_left,
    if_neg (not_isEmpty_padded width n), valueOf_padded]
  rfl

end Scan

end PathQuery.Text
