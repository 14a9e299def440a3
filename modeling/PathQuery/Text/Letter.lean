/-
**Letters and their case.**

Whether a character is a letter, and of which case, is Unicode's to say: the three properties are
tables of spans, searched in order.

* `within_of_lt`: no code point before the first span is within any.
* `isLetter_of_isDigit`: a decimal digit is no letter.
-/

import PathQuery.Text.Letter.Alphabetic
import PathQuery.Text.Letter.Lowercase
import PathQuery.Text.Letter.Uppercase

namespace PathQuery.Text

namespace Letter

/-- Searches ascending spans; nothing after a span that starts beyond the code point can have it. -/
def within (code : Nat) : List (Nat × Nat × Nat) → Bool
  | [] => false
  | (first, last, step) :: others =>
    if code < first then false
    else if code ≤ last && (code - first) % step == 0 then true
    else within code others

/-- Spans are in ascending order, so the first one is a lower bound. -/
theorem within_of_lt {code first : Nat} {rest : Nat × Nat} {others : List (Nat × Nat × Nat)}
    (before : code < first) : within code ((first, rest) :: others) = false := by
  simp [within, before]

end Letter

/-- Letters of any script, and the signs that belong to words of one. -/
def isLetter (c : Char) : Bool := Letter.within c.toNat Letter.alphabetic

/-- Characters in lower case. -/
def isLower (c : Char) : Bool := Letter.within c.toNat Letter.lowercase

/-- Characters in upper case. A title-case letter is in neither case. -/
def isUpper (c : Char) : Bool := Letter.within c.toNat Letter.uppercase

/-- A decimal digit is no letter. -/
theorem isLetter_of_isDigit {c : Char} (digit : c.isDigit = true) : isLetter c = false := by
  have bounds : 48 ≤ c.toNat ∧ c.toNat ≤ 57 := by
    simpa [Char.isDigit, UInt32.le_iff_toNat_le] using digit
  exact Letter.within_of_lt (by omega)

end PathQuery.Text
