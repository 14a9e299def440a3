/-
**Whole numbers are read back from their numerals.**

A written whole number is a numeral without fraction and exponent, whose first digit is zero only
when it is the only one. What comes behind it must not go on with it.

* `foldl_digitValues`: the values of its digits make up a number;
* `run_numeral`: a numeral is taken apart into its sign and the values of its digits;
* `takes_number`, `takes_numeric`: a whole number is read back.
-/

import PathQuery.Proofs.Json.Reading
import PathQuery.Proofs.Text.Digits

namespace PathQuery.Json

open Decimal (Numeral Number Whole)

/-- The values of the digits of a number. -/
def digitValues (n : Nat) : List Nat := (Nat.toDigits 10 n).map fun c => c.toNat - '0'.toNat

/-- **The values of its digits make up a number.** -/
theorem foldl_digitValues (n : Nat) :
    (digitValues n).foldl (fun n digit => n * 10 + digit) 0 = n := by
  have value := @Nat.ofDigitChars_ten_toDigits n
  rw [Nat.ofDigitChars_eq_foldl] at value
  unfold digitValues
  rw [List.foldl_map]
  simp only [Nat.mul_comm _ 10]
  exact value

/-- A numeral of several digits does not start with zero. -/
theorem not_leading_zero (n : Nat) :
    ¬ ((digitValues n).head? = some 0 && decide (1 < (digitValues n).length)) = true := by
  obtain ⟨c, rest, digits, digit⟩ := Text.exists_toDigits_eq_cons n
  rw [Bool.and_eq_true, decide_eq_true_eq, decide_eq_true_eq]
  rintro ⟨leading, several⟩
  have least : c.toNat - 48 = 0 := by
    rw [digitValues, digits] at leading
    exact Option.some.inj leading
  have bounds : 48 ≤ c.toNat ∧ c.toNat ≤ 57 := by
    simpa [Char.isDigit, UInt32.le_iff_toNat_le] using digit
  obtain rfl : c = '0' := Char.toNat_inj.mp (show c.toNat = 48 by omega)
  have single := Text.length_toDigits_of_head? (show (Nat.toDigits 10 n).head? = some '0' by
    rw [digits]
    rfl)
  rw [digitValues, List.length_map] at several
  omega

namespace Reader

theorem run_optional_of_eq {first second c : Char} (found : (c = first || c = second) = true)
    (rest : List Char) :
    StateT.run (optional first second) (c :: rest) = .ok (some c, rest) := by
  unfold optional
  rw [run_bind (StateT.run_get _)]
  simp only [found]
  rfl

theorem run_optional_of_ne {first second : Char} {text : List Char}
    (other : ∀ c ∈ text.head?, c ≠ first ∧ c ≠ second) :
    StateT.run (optional first second) text = .ok (none, text) := by
  unfold optional
  rw [run_bind (StateT.run_get _)]
  cases text with
  | nil => rfl
  | cons c rest =>
    obtain ⟨left, right⟩ := other c rfl
    simp only [left, right]
    rfl

/-! ### Numerals -/

section Numerals

variable {rest : List Char} (ends : Ends rest)

include ends

theorem isDigit_of_ends : ∀ c ∈ rest.head?, c.isDigit = false := by
  intro c first
  have other := ends c first
  unfold inNumeral at other
  simp only [Bool.or_eq_false_iff] at other
  exact other.1.1.1

theorem ne_of_ends {mark : Char} (goes : inNumeral mark = true) : ∀ c ∈ rest.head?, c ≠ mark := by
  rintro c first rfl
  rw [ends c first] at goes
  cases goes

/-- **The digits of a number are taken** up to an end. -/
theorem run_someDigits (missing : Fault) (n : Nat) :
    StateT.run (someDigits missing) (Nat.toDigits 10 n ++ rest) = .ok (digitValues n, rest) := by
  have all := @Text.isDigit_of_mem_toDigits n
  have stops := isDigit_of_ends ends
  have front : (Nat.toDigits 10 n ++ rest).takeWhile Char.isDigit = Nat.toDigits 10 n := by
    rw [List.takeWhile_append_of_pos all]
    cases rest with
    | nil => simp
    | cons c rest => simp [stops c rfl]
  have behind : (Nat.toDigits 10 n ++ rest).dropWhile Char.isDigit = rest := by
    rw [List.dropWhile_append_of_pos all]
    cases rest with
    | nil => rfl
    | cons c rest => simp [stops c rfl]
  have found : StateT.run digits (Nat.toDigits 10 n ++ rest) = .ok (digitValues n, rest) := by
    unfold digits
    rw [run_bind (StateT.run_get _), front, behind]
    rfl
  have nonempty : ¬ (digitValues n).isEmpty = true := by
    simp [digitValues]
  unfold someDigits
  rw [run_bind found, if_neg nonempty]
  rfl

/-- **A numeral is taken apart** into its sign and the values of its digits. -/
theorem run_numeral (missing : Fault) (negative : Bool) (n : Nat) :
    StateT.run (numeral missing) ((if negative then ['-'] else []) ++ (Nat.toDigits 10 n ++ rest)) =
      .ok (⟨negative, digitValues n, none, none⟩, rest) := by
  have sign : StateT.run (optional '-' '-')
      ((if negative then ['-'] else []) ++ (Nat.toDigits 10 n ++ rest)) =
        .ok (if negative then some '-' else none, Nat.toDigits 10 n ++ rest) := by
    cases negative with
    | true => exact run_optional_of_eq rfl _
    | false =>
      obtain ⟨c, others, digits, digit⟩ := Text.exists_toDigits_eq_cons n
      rw [digits]
      refine run_optional_of_ne ?_
      rintro d ⟨⟩
      have other : c ≠ '-' := by
        rintro rfl
        cases digit
      exact ⟨other, other⟩
  have point : StateT.run (optional '.' '.') rest = .ok (none, rest) :=
    run_optional_of_ne fun c first => ⟨ne_of_ends ends rfl c first, ne_of_ends ends rfl c first⟩
  have mark : StateT.run (optional 'e' 'E') rest = .ok (none, rest) :=
    run_optional_of_ne fun c first => ⟨ne_of_ends ends rfl c first, ne_of_ends ends rfl c first⟩
  unfold numeral
  rw [run_bind sign, run_bind (run_someDigits ends missing n), if_neg (not_leading_zero n)]
  show StateT.run (optional '.' '.' >>= _ : Reader Numeral) rest = _
  rw [run_bind point]
  simp only [Option.isSome_none, Bool.false_eq_true, if_false, pure_bind]
  rw [run_bind mark]
  simp only [Option.isSome_none, Bool.false_eq_true, if_false]
  cases negative <;> rfl

end Numerals

/-! ### Whole numbers -/

/-- A numeral without fraction and exponent is a whole number. -/
theorem number?_digitValues (n : Whole) :
    Numeral.number? ⟨decide (n.val < 0), digitValues n.val.natAbs, none, none⟩ =
      some (.whole n) := by
  have value := foldl_digitValues n.val.natAbs
  have whole : Numeral.whole? ⟨decide (n.val < 0), digitValues n.val.natAbs, none, none⟩ =
      some n := by
    unfold Numeral.whole?
    simp only [value, Option.isSome_none, Bool.or_self, Bool.false_eq_true, if_false]
    by_cases negative : n.val < 0
    · have positive : n.val.natAbs ≠ 0 := by omega
      have whole : -(n.val.natAbs : Int) = n.val := by omega
      simp only [negative, decide_true, if_true, if_neg positive, whole]
      exact dif_pos ⟨n.lower, n.upper⟩
    · have whole : (n.val.natAbs : Int) = n.val := by omega
      simp only [negative, decide_false, Bool.false_eq_true, if_false, whole]
      exact dif_pos ⟨n.lower, n.upper⟩
  unfold Numeral.number?
  rw [whole]

theorem printWhole_eq (n : Int) :
    printWhole n = (if decide (n < 0) then ['-'] else []) ++ Nat.toDigits 10 n.natAbs := by
  unfold printWhole
  by_cases negative : n < 0
  · simp [negative]
  · simp [negative]

/-- **A whole number is read back.** -/
theorem takes_number (n : Whole) : TakesBefore number (printWhole n.val) (.whole n) := by
  intro rest ends
  unfold number
  rw [printWhole_eq, List.append_assoc, run_bind (run_numeral ends .truncated _ _),
    number?_digitValues]
  rfl

/-- The first character of a whole number tells that it is one. -/
theorem exists_printWhole_eq_cons (n : Int) :
    ∃ c rest, printWhole n = c :: rest ∧ startsNumber c = true := by
  unfold printWhole
  split
  · exact ⟨_, _, rfl, rfl⟩
  · obtain ⟨c, rest, digits, digit⟩ := Text.exists_toDigits_eq_cons n.natAbs
    refine ⟨c, rest, digits, ?_⟩
    rw [startsNumber, digit, Bool.or_true]

theorem ne_of_startsNumber {c : Char} (starts : startsNumber c = true) (d : Char)
    (other : startsNumber d = false) : c ≠ d := by
  rintro rfl
  rw [starts] at other
  cases other

theorem isSpace_of_startsNumber {c : Char} (starts : startsNumber c = true) :
    isSpace c = false := by
  have other := ne_of_startsNumber starts
  simp [isSpace, other ' ' rfl, other '\t' rfl, other '\n' rfl, other '\r' rfl]

theorem takes_numeric (n : Whole) : TakesBefore numeric (printWhole n.val) (.whole n) := by
  have number := takes_number n
  obtain ⟨c, text, written, starts⟩ := exists_printWhole_eq_cons n.val
  rw [written] at number ⊢
  refine TakesBefore.peek (isSpace_of_startsNumber starts) ?_
  rw [Option.any_some, if_pos starts]
  exact number

end Reader

end PathQuery.Json
