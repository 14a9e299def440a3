/-
**Days and points in time are read back from their text.**

Every part of a written day fills its width, so a reader that takes no more than the width takes the
part and stops there; only a year with a sign is read as far as its digits go, up to the hyphen.

* `Text.Scan.run_marked`: a mark and the number behind it;
* `Date.run_scan`, `Date.parse?_write`: a day is read back, also from the front of a longer text;
* `Timestamp.run_scanFraction`: fractions of a second are read back from any of their widths;
* `Timestamp.parse?_write`: a point in time is read back.
-/

import PathQuery.Calendar.Timestamp
import PathQuery.Proofs.Text.Digits

namespace PathQuery

open Text

namespace Text

theorem isBlank_of_isDigit {c : Char} (digit : c.isDigit = true) : isBlank c = false := by
  have bounds : 48 ≤ c.toNat ∧ c.toNat ≤ 57 := by
    simpa [Char.isDigit, UInt32.le_iff_toNat_le] using digit
  simp [isBlank]
  omega

namespace Scan

variable {c : Char}

theorem run_blanks_of_dark (dark : isBlank c = false) (rest : List Char) :
    blanks.run (c :: rest) = some ((), c :: rest) := by
  rw [run_blanks, trimStart, List.dropWhile_cons_of_neg (by rw [dark]; exact Bool.false_ne_true)]

theorem run_oneOf {choices : List Char} (chosen : c ∈ choices) (rest : List Char) :
    (oneOf choices).run (c :: rest) = some (c, rest) := by
  have next : Scan.next.run (c :: rest) = some (c, rest) := rfl
  unfold oneOf
  rw [run_bind next, if_pos chosen]
  rfl

theorem run_peek (text : List Char) : peek.run text = some (text.head?, text) := rfl

theorem run_optional_of_mem {choices : List Char} (chosen : c ∈ choices) (rest : List Char) :
    (optional choices).run (c :: rest) = some (some c, rest) := by
  have found : (c :: rest).head?.any (· ∈ choices) = true := by simpa using chosen
  unfold optional
  rw [run_bind (run_peek _), if_pos found]
  rfl

theorem run_optional_of_not_mem {choices text : List Char}
    (other : ∀ c ∈ text.head?, c ∉ choices) : (optional choices).run text = some (none, text) := by
  have missed : ¬ text.head?.any (· ∈ choices) = true := by
    rw [Option.any_eq_true]
    rintro ⟨c, first, chosen⟩
    exact other c first (of_decide_eq_true chosen)
  unfold optional
  rw [run_bind (run_peek _), if_neg missed]
  rfl

/-- **A mark and the number behind it**, which fills its width. -/
theorem run_marked (dark : isBlank c = false) {width n : Nat} (positive : 0 < width)
    (fits : n < Nat.pow 10 width) (rest : List Char) :
    StateT.run (do blanks; let _ ← oneOf [c]; blanks; upTo width : Scan Nat)
      (c :: (padded width n ++ rest)) = some (n, rest) := by
  obtain ⟨d, others, digits, digit⟩ := exists_padded_eq_cons width n
  have number := run_upTo positive fits rest
  rw [digits, List.cons_append] at number
  rw [run_bind (run_blanks_of_dark dark _), run_bind (run_oneOf List.mem_cons_self _), digits,
    List.cons_append, run_bind (run_blanks_of_dark (isBlank_of_isDigit digit) _)]
  exact number

/-- What a scan makes of a text that it takes to the end. -/
theorem whole_of_run {α : Type} {scan : Scan α} {text : List Char} {value : α}
    (found : scan.run text = some (value, [])) :
    whole (scan <* blanks) (String.ofList text) = some value := by
  have passed : (scan <* blanks).run text = some (value, []) := by
    rw [seqLeft_eq_bind, run_bind found]
    rfl
  unfold whole
  rw [String.toList_ofList, passed]

end Scan

end Text

/-! ### Days -/

namespace Date

open Calendar

theorem daysIn_le (year : Int) (month : Nat) : daysIn year month ≤ 31 := by
  unfold daysIn
  split
  · split <;> decide
  · split <;> decide

/-- **A year is read back**, whatever its size, in front of a hyphen. -/
theorem run_scanYear (year : Int) (rest : List Char) :
    scanYear.run (writeYear year ++ '-' :: rest) = some (year, '-' :: rest) := by
  unfold writeYear scanYear
  split
  · rename_i range
    obtain ⟨c, others, digits, digit⟩ := exists_padded_eq_cons 4 year.toNat
    have unsigned : ∀ d ∈ (padded 4 year.toNat ++ '-' :: rest).head?, d ∉ ['-', '+'] := by
      rw [digits, List.cons_append, List.head?_cons]
      rintro d ⟨⟩ sign
      simp only [List.mem_cons, List.not_mem_nil, or_false] at sign
      rcases sign with rfl | rfl
      · cases digit
      · cases digit
    have fits : year.toNat < Nat.pow 10 4 := by
      show year.toNat < 10000
      omega
    rw [Scan.run_bind (Scan.run_optional_of_not_mem unsigned),
      Scan.run_bind (Scan.run_upTo (by decide) fits _)]
    show some (((year.toNat : Nat) : Int), '-' :: rest) = _
    rw [Int.toNat_of_nonneg range.1]
  · rename_i range
    have stops : ∀ c ∈ ('-' :: rest).head?, c.isDigit = false := by
      rintro c ⟨⟩
      rfl
    have number := Scan.run_natural 4 year.natAbs stops
    by_cases negative : year < 0
    · rw [if_pos negative, List.cons_append,
        Scan.run_bind (Scan.run_optional_of_mem (by decide) _), Scan.run_bind number]
      show some (-((year.natAbs : Nat) : Int), '-' :: rest) = _
      rw [show -((year.natAbs : Nat) : Int) = year by omega]
    · rw [if_neg negative, List.cons_append,
        Scan.run_bind (Scan.run_optional_of_mem (by decide) _), Scan.run_bind number]
      show some (((year.natAbs : Nat) : Int), '-' :: rest) = _
      rw [show ((year.natAbs : Nat) : Int) = year by omega]

theorem run_scanPart {n : Nat} (fits : n < 100) (rest : List Char) :
    scanPart.run ('-' :: (padded 2 n ++ rest)) = some (n, rest) :=
  Scan.run_marked rfl (by decide) fits rest

/-- A written day does not start with a blank. -/
theorem exists_write_eq_cons (date : Date) :
    ∃ c rest, date.write = c :: rest ∧ isBlank c = false := by
  unfold write writeYear
  split
  · obtain ⟨c, others, digits, digit⟩ := exists_padded_eq_cons 4 date.year.toNat
    rw [digits]
    exact ⟨c, _, rfl, isBlank_of_isDigit digit⟩
  · refine ⟨_, _, rfl, ?_⟩
    split <;> rfl

/-- **A day is read back**, whatever follows. -/
theorem run_scan (date : Date) (rest : List Char) :
    scan.run (date.write ++ rest) = some (date, rest) := by
  obtain ⟨_, month, day⟩ := date.isDay
  have last := daysIn_le date.year date.month
  obtain ⟨c, others, start, dark⟩ := exists_write_eq_cons date
  have front : Scan.blanks.run (date.write ++ rest) = some ((), date.write ++ rest) := by
    rw [start, List.cons_append]
    exact Scan.run_blanks_of_dark dark _
  have parts : date.write ++ rest = writeYear date.year ++
      '-' :: (padded 2 date.month ++ '-' :: (padded 2 date.day ++ rest)) := by
    simp [write]
  unfold scan
  rw [Scan.run_bind front, parts, Scan.run_bind (run_scanYear _ _),
    Scan.run_bind (run_scanPart (by omega) _), Scan.run_bind (run_scanPart (by omega) _), ofParts?,
    dif_pos date.isDay]
  rfl

theorem parse?_write (date : Date) : parse? (String.ofList date.write) = some date := by
  have found := run_scan date []
  rw [List.append_nil] at found
  exact Scan.whole_of_run found

end Date

/-! ### Points in time -/

namespace Timestamp

theorem run_scanPart {n : Nat} (fits : n < 100) (rest : List Char) :
    scanPart.run (':' :: (padded 2 n ++ rest)) = some (n, rest) :=
  Scan.run_marked rfl (by decide) fits rest

theorem run_scanFraction_padded {width n : Nat} (positive : 0 < width) (bound : width ≤ 9)
    (fits : n < Nat.pow 10 width) (rest : List Char) :
    scanFraction.run ('.' :: (padded width n ++ 'Z' :: rest)) =
      some (n * Nat.pow 10 (9 - width), 'Z' :: rest) := by
  have stops : ∀ c ∈ ('Z' :: rest).head?, c.isDigit = false := by
    rintro c ⟨⟩
    rfl
  have length := length_padded positive fits
  have kept : (padded width n).take 9 = padded width n := List.take_of_length_le (by omega)
  unfold scanFraction
  rw [Scan.run_bind (Scan.run_optional_of_mem List.mem_cons_self _)]
  show StateT.run (Scan.digits >>= _) _ = _
  rw [Scan.run_bind (Scan.run_digits isDigit_of_mem_padded stops),
    if_neg (not_isEmpty_padded width n), kept]
  show some (Scan.valueOf (padded width n) * Nat.pow 10 (9 - (padded width n).length), _) = _
  rw [valueOf_padded, length]

/-- **Fractions of a second are read back**, in the width that they need. -/
theorem run_scanFraction {nanosecond : Nat} (fits : nanosecond < 1000000000) (rest : List Char) :
    scanFraction.run (writeFraction nanosecond ++ 'Z' :: rest) =
      some (nanosecond, 'Z' :: rest) := by
  unfold writeFraction
  split
  · rename_i none
    have other : ∀ c ∈ ('Z' :: rest).head?, c ∉ ['.'] := by
      rintro c ⟨⟩
      decide
    rw [none, List.nil_append]
    unfold scanFraction
    rw [Scan.run_bind (Scan.run_optional_of_not_mem other)]
    rfl
  split
  · have small : nanosecond / 1000000 < Nat.pow 10 3 := by
      show _ < 1000
      omega
    rw [List.cons_append, run_scanFraction_padded (by decide) (by decide) small]
    show some (nanosecond / 1000000 * 1000000, _) = _
    rw [Nat.div_mul_cancel (Nat.dvd_of_mod_eq_zero (by assumption))]
  split
  · have small : nanosecond / 1000 < Nat.pow 10 6 := by
      show _ < 1000000
      omega
    rw [List.cons_append, run_scanFraction_padded (by decide) (by decide) small]
    show some (nanosecond / 1000 * 1000, _) = _
    rw [Nat.div_mul_cancel (Nat.dvd_of_mod_eq_zero (by assumption))]
  · rw [List.cons_append, run_scanFraction_padded (by decide) (by decide) fits]
    show some (nanosecond * 1, _) = _
    rw [Nat.mul_one]

theorem run_scanOffset (rest : List Char) : scanOffset.run ('Z' :: rest) = some (0, rest) := by
  have other : scanName.run ('Z' :: rest) = some (false, 'Z' :: rest) := by
    unfold scanName
    rw [Scan.run_bind (StateT.run_get _), if_neg (by simp)]
    rfl
  unfold scanOffset
  rw [Scan.run_bind other]
  show StateT.run (Scan.oneOf _ >>= _) _ = _
  rw [Scan.run_bind (Scan.run_oneOf List.mem_cons_self _)]
  rfl

theorem toUtc?_zero (date : Date) {minute : Nat} (range : minute < 1440) :
    toUtc? date minute 0 = some (date, minute) := by
  unfold toUtc?
  have early : ¬ (minute : Int) - 0 < 0 := by omega
  have late : ¬ 1440 ≤ (minute : Int) - 0 := by omega
  simp only [if_neg early, if_neg late]
  show some (date, (((minute : Int) - 0) % 1440).toNat) = _
  rw [show (((minute : Int) - 0) % 1440).toNat = minute by omega]

/-- **A point in time is read back**, whatever follows. -/
theorem run_scan (time : Timestamp) (rest : List Char) :
    scan.run (time.write ++ rest) = some (time, rest) := by
  have minute := time.minute_lt
  have second := time.second_le
  have parts : time.write ++ rest = time.date.write ++ 'T' :: (padded 2 (time.minute / 60) ++
      ':' :: (padded 2 (time.minute % 60) ++ ':' :: (padded 2 time.second ++
        (writeFraction time.nanosecond ++ 'Z' :: rest)))) := by
    simp [write]
  obtain ⟨c, others, digits, digit⟩ := exists_padded_eq_cons 2 (time.minute / 60)
  have hour (behind : List Char) : Scan.blanks.run (padded 2 (time.minute / 60) ++ behind) =
      some ((), padded 2 (time.minute / 60) ++ behind) := by
    rw [digits, List.cons_append]
    exact Scan.run_blanks_of_dark (isBlank_of_isDigit digit) _
  have size : time.minute / 60 < Nat.pow 10 2 := by
    show _ < 100
    omega
  have range : ¬ (24 ≤ time.minute / 60 ∨ 60 ≤ time.minute % 60) := by omega
  have utc : toUtc? time.date (time.minute / 60 * 60 + time.minute % 60) 0 =
      some (time.date, time.minute) := by
    rw [show time.minute / 60 * 60 + time.minute % 60 = time.minute by omega]
    exact toUtc?_zero time.date minute
  unfold scan
  rw [parts, Scan.run_bind (Date.run_scan _ _), Scan.run_bind (Scan.run_oneOf (by simp) _),
    Scan.run_bind (hour _), Scan.run_bind (Scan.run_upTo (by decide) size _),
    Scan.run_bind (run_scanPart (by omega) _), Scan.run_bind (run_scanPart (by omega) _),
    Scan.run_bind (run_scanFraction time.nanosecond_lt _),
    Scan.run_bind (Scan.run_blanks_of_dark rfl _), Scan.run_bind (run_scanOffset _), if_neg range]
  show StateT.run (liftM (toUtc? time.date _ 0) >>= _ : Scan Timestamp) rest = _
  rw [utc]
  show StateT.run (liftM (ofParts? time.date time.minute time.second time.nanosecond) :
    Scan Timestamp) rest = _
  rw [ofParts?, dif_pos ⟨minute, second, time.nanosecond_lt⟩]
  rfl

theorem parse?_write (time : Timestamp) : parse? (String.ofList time.write) = some time := by
  have found := run_scan time []
  rw [List.append_nil] at found
  exact Scan.whole_of_run found

end Timestamp

end PathQuery
