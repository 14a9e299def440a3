/-
**Texts in JSON.**

A text is written between quotation marks with escapes for the marks, the backslash and the
control characters. Reading knows the other escapes as well; a character beyond the first 65536
may be escaped as two code units, and a unit of such a pair on its own is a fault.

* `length_lt_of_escaped`, `length_lt_of_skipEscaped`: an escape takes at least one character.
* `read_escape`: a text is read back from its written form, whatever follows.
-/

import PathQuery.Json.Fault

namespace PathQuery.Json.Text

/-- The digits of escapes, in small letters. -/
def hexDigit (n : Nat) : Char := (Nat.toDigits 16 n).headD '0'

/-- How a character is written. -/
def escapeChar (c : Char) : List Char :=
  if c = '"' then ['\\', '"']
  else if c = '\\' then ['\\', '\\']
  else if c = '\x08' then ['\\', 'b']
  else if c = '\x0c' then ['\\', 'f']
  else if c = '\n' then ['\\', 'n']
  else if c = '\r' then ['\\', 'r']
  else if c = '\t' then ['\\', 't']
  else if c.toNat < 0x20 then
    ['\\', 'u', '0', '0', hexDigit (c.toNat / 16), hexDigit (c.toNat % 16)]
  else [c]

/-- The characters of a text as they are written. -/
def escape (text : List Char) : List Char := text.flatMap escapeChar

/-- A text as it is written. -/
def print (text : String) : List Char := '"' :: (escape text.toList ++ ['"'])

/-- The value of a digit of an escape, in either case. -/
def hexValue? (c : Char) : Option Nat :=
  if '0' ≤ c ∧ c ≤ '9' then some (c.toNat - 48)
  else if 'a' ≤ c ∧ c ≤ 'f' then some (c.toNat - 87)
  else if 'A' ≤ c ∧ c ≤ 'F' then some (c.toNat - 55)
  else none

/-- The code unit that four digits spell. -/
def unit? (a b c d : Char) : Option Nat := do
  return (((← hexValue? a) * 16 + (← hexValue? b)) * 16 + (← hexValue? c)) * 16 + (← hexValue? d)

/-- Reads the four digits of an escaped code unit. They are missing when less than four bytes are
left. -/
def unit : List Char → Except Fault (Nat × List Char)
  | a :: b :: c :: d :: rest =>
    match unit? a b c d with
    | some value => .ok (value, rest)
    | none => .error .malformed
  | short =>
    if (String.ofList short).utf8ByteSize < 4 then .error .truncated else .error .malformed

/-- First units of pairs. -/
def isHigh (unit : Nat) : Bool := 0xD800 ≤ unit && unit ≤ 0xDBFF

/-- Second units of pairs. -/
def isLow (unit : Nat) : Bool := 0xDC00 ≤ unit && unit ≤ 0xDFFF

/-- The character that a pair of units stands for. -/
def ofPair (high low : Nat) : Char :=
  Char.ofNat (0x10000 + (high - 0xD800) * 0x400 + (low - 0xDC00))

/-- Reads the second unit of a pair. -/
def pair (high : Nat) : List Char → Except Fault (Char × List Char)
  | [] => .error .truncated
  | [c] => if c = '\\' then .error .truncated else .error .malformed
  | c :: d :: rest =>
    if c = '\\' ∧ d = 'u' then do
      let (low, rest) ← unit rest
      if isLow low then return (ofPair high low, rest)
      else throw .malformed
    else .error .malformed

/-- The character that a letter behind a backslash stands for. -/
def simple? : Char → Option Char
  | '"' => some '"'
  | '\\' => some '\\'
  | '/' => some '/'
  | 'b' => some '\x08'
  | 'f' => some '\x0c'
  | 'n' => some '\n'
  | 'r' => some '\r'
  | 't' => some '\t'
  | _ => none

/-- Reads what follows a backslash. -/
def escaped : List Char → Except Fault (Char × List Char)
  | [] => .error .truncated
  | c :: rest =>
    if c = 'u' then do
      let (first, rest) ← unit rest
      if isLow first then throw .malformed
      else if isHigh first then pair first rest
      else return (Char.ofNat first, rest)
    else
      match simple? c with
      | some value => .ok (value, rest)
      | none => .error .malformed

/-- Passes over what follows a backslash, without asking whether units are paired. -/
def skipEscaped : List Char → Except Fault (List Char)
  | [] => .error .truncated
  | c :: rest =>
    if c = 'u' then (unit rest).map (·.2)
    else if (simple? c).isSome then .ok rest
    else .error .malformed

theorem length_lt_of_unit {text rest : List Char} {value : Nat}
    (read : unit text = .ok (value, rest)) : rest.length < text.length := by
  unfold unit at read
  split at read
  · split at read
    · cases read; simp; omega
    · cases read
  · split at read <;> cases read

theorem length_lt_of_pair {high : Nat} {text rest : List Char} {c : Char}
    (read : pair high text = .ok (c, rest)) : rest.length < text.length := by
  unfold pair at read
  split at read
  · cases read
  · split at read <;> cases read
  · rename_i first second behind
    split at read
    · cases low : unit behind with
      | error fault => simp [low, bind, Except.bind] at read
      | ok found =>
        obtain ⟨value, left⟩ := found
        have shorter := length_lt_of_unit low
        simp only [low, bind, Except.bind] at read
        split at read
        · simp only [pure, Except.pure, Except.ok.injEq, Prod.mk.injEq] at read
          obtain ⟨-, rfl⟩ := read
          simp only [List.length_cons]
          omega
        · cases read
    · cases read

theorem length_lt_of_escaped {text rest : List Char} {c : Char}
    (read : escaped text = .ok (c, rest)) : rest.length < text.length := by
  unfold escaped at read
  split at read
  · cases read
  · rename_i letter behind
    split at read
    · cases first : unit behind with
      | error fault => simp [first, bind, Except.bind] at read
      | ok found =>
        obtain ⟨value, left⟩ := found
        have shorter := length_lt_of_unit first
        simp only [first, bind, Except.bind] at read
        split at read
        · cases read
        · split at read
          · have second := length_lt_of_pair read
            simp; omega
          · cases read; simp; omega
    · split at read
      · cases read; simp
      · cases read

theorem length_lt_of_skipEscaped {text rest : List Char}
    (read : skipEscaped text = .ok rest) : rest.length < text.length := by
  unfold skipEscaped at read
  split at read
  · cases read
  · rename_i letter behind
    split at read
    · cases first : unit behind with
      | error fault => simp [first, Except.map] at read
      | ok found =>
        obtain ⟨value, left⟩ := found
        have shorter := length_lt_of_unit first
        simp only [first, Except.map, Except.ok.injEq] at read
        subst read
        simp; omega
    · split at read
      · cases read; simp
      · cases read

/-- Reads up to the closing quotation mark. -/
def read (text : List Char) : Except Fault (List Char × List Char) :=
  match text with
  | [] => .error .truncated
  | c :: rest =>
    if c = '"' then .ok ([], rest)
    else if c = '\\' then
      match found : escaped rest with
      | .error fault => .error fault
      | .ok (value, behind) =>
        have := length_lt_of_escaped found
        (read behind).map fun (values, left) => (value :: values, left)
    else if c.toNat < 0x20 then .error .malformed
    else (read rest).map fun (values, left) => (c :: values, left)
termination_by text.length
decreasing_by all_goals (simp only [List.length_cons]; omega)

/-- Passes over everything up to the closing quotation mark. -/
def skip (text : List Char) : Except Fault (List Char) :=
  match text with
  | [] => .error .truncated
  | c :: rest =>
    if c = '"' then .ok rest
    else if c = '\\' then
      match found : skipEscaped rest with
      | .error fault => .error fault
      | .ok behind =>
        have := length_lt_of_skipEscaped found
        skip behind
    else if c.toNat < 0x20 then .error .malformed
    else skip rest
termination_by text.length
decreasing_by all_goals (simp only [List.length_cons]; omega)

/-! ### Reading what was written -/

theorem read_quote (rest : List Char) : read ('"' :: rest) = .ok ([], rest) := by
  simp [read]

theorem read_plain {c : Char} (rest : List Char) (quote : c ≠ '"') (backslash : c ≠ '\\')
    (printable : ¬c.toNat < 0x20) :
    read (c :: rest) = (read rest).map fun (values, left) => (c :: values, left) := by
  rw [read]
  simp [quote, backslash, printable]

theorem read_escaped {text rest : List Char} {c : Char}
    (found : escaped text = .ok (c, rest)) :
    read ('\\' :: text) = (read rest).map fun (values, left) => (c :: values, left) := by
  rw [read]
  simp only [show ('\\' : Char) ≠ '"' by decide, if_false, if_true]
  split
  · rename_i fault other
    rw [found] at other
    cases other
  · rename_i value behind other
    rw [found] at other
    cases other
    rfl

/-- Control characters are escaped by their code in four digits. -/
theorem unit?_hexDigit :
    ∀ n < 32, unit? '0' '0' (hexDigit (n / 16)) (hexDigit (n % 16)) = some n := by
  decide

theorem escaped_control {c : Char} (control : c.toNat < 0x20) (rest : List Char) :
    escaped ('u' :: '0' :: '0' :: hexDigit (c.toNat / 16) :: hexDigit (c.toNat % 16) :: rest) =
      .ok (c, rest) := by
  have low : isLow c.toNat = false := by simp [isLow]; omega
  have high : isHigh c.toNat = false := by simp [isHigh]; omega
  simp only [escaped, if_true, unit, unit?_hexDigit c.toNat control, bind, Except.bind, low, high,
    Bool.false_eq_true, if_false, pure, Except.pure, Char.ofNat_toNat]

theorem read_escapeChar (c : Char) (rest : List Char) :
    read (escapeChar c ++ rest) = (read rest).map fun (values, left) => (c :: values, left) := by
  unfold escapeChar
  split
  · subst c; exact read_escaped (by rfl)
  split
  · subst c; exact read_escaped (by rfl)
  split
  · subst c; exact read_escaped (by rfl)
  split
  · subst c; exact read_escaped (by rfl)
  split
  · subst c; exact read_escaped (by rfl)
  split
  · subst c; exact read_escaped (by rfl)
  split
  · subst c; exact read_escaped (by rfl)
  split
  · rename_i control
    exact read_escaped (escaped_control control rest)
  · rename_i quote backslash _ _ _ _ _ printable
    exact read_plain rest quote backslash printable

/-- A text is read back from its written form, whatever follows. -/
theorem read_escape (text rest : List Char) :
    read (escape text ++ '"' :: rest) = .ok (text, rest) := by
  induction text with
  | nil => exact read_quote rest
  | cons c text ih =>
    have written : escape (c :: text) = escapeChar c ++ escape text := rfl
    rw [written, List.append_assoc, read_escapeChar, ih]
    rfl

end PathQuery.Json.Text
