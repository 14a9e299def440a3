/-
**Universally unique identifiers.**

An identifier is its 32 hexadecimal digits. It is written in five groups with hyphens between them,
in small letters, and read in either case: as 32 digits, in groups, in groups between braces, or in
groups behind the mark of a name, `urn:uuid:`.

* `Uuid.parse?_write`: an identifier is read back from its written form.
-/

namespace PathQuery

/-- An identifier, as its 32 hexadecimal digits. -/
structure Uuid where
  digits : List (Fin 16)
  length_digits : digits.length = 32
  deriving DecidableEq

namespace Uuid

/-- The value of a hexadecimal digit, in either case. -/
def digit? (c : Char) : Option (Fin 16) :=
  if '0' ≤ c ∧ c ≤ '9' then some (Fin.ofNat 16 (c.toNat - 48))
  else if 'a' ≤ c ∧ c ≤ 'f' then some (Fin.ofNat 16 (c.toNat - 87))
  else if 'A' ≤ c ∧ c ≤ 'F' then some (Fin.ofNat 16 (c.toNat - 55))
  else none

/-- The small letter or decimal digit for a value. -/
def digit (value : Fin 16) : Char :=
  if value.val < 10 then Char.ofNat (value.val + 48) else Char.ofNat (value.val + 87)

/-- Digits of any number, none of them missing. -/
def digits? : List Char → Option (List (Fin 16))
  | [] => some []
  | c :: rest => do return (← digit? c) :: (← digits? rest)

/-- The identifier with these digits, if there are 32 of them. -/
def ofDigits? (text : List Char) : Option Uuid :=
  match digits? text with
  | some digits => if length : digits.length = 32 then some ⟨digits, length⟩ else none
  | none => none

/-- Five groups of 8, 4, 4, 4 and 12 digits with hyphens between them. -/
def group (digits : List Char) : List Char :=
  digits.take 8 ++ '-' :: (digits.drop 8).take 4 ++ '-' :: (digits.drop 12).take 4 ++
    '-' :: (digits.drop 16).take 4 ++ '-' :: digits.drop 20

/-- The digits of a grouped text; nothing when a hyphen is not where it should be. -/
def ungroup? (text : List Char) : Option (List Char) :=
  let digits := text.take 8 ++ (text.drop 9).take 4 ++ (text.drop 14).take 4 ++
    (text.drop 19).take 4 ++ text.drop 24
  if group digits = text then some digits else none

/-- Reads a grouped text. -/
def ofGroups? (text : List Char) : Option Uuid := (ungroup? text).bind ofDigits?

/-- Whether a text starts with the mark of a name, in small letters or capitals. -/
def isNamed (text : List Char) : Bool := (text.take 9).map Char.toLower == "urn:uuid:".toList

/-- Reads an identifier in any of its spellings, told apart by their length. -/
def parse? (text : String) : Option Uuid :=
  let chars := text.toList
  match chars.length with
  | 32 => ofDigits? chars
  | 36 => ofGroups? chars
  | 38 =>
    if chars.head? = some '{' ∧ chars.getLast? = some '}' then ofGroups? (chars.drop 1).dropLast
    else none
  | 45 => if isNamed chars then ofGroups? (chars.drop 9) else none
  | _ => none

/-- The written form of an identifier. -/
def write (id : Uuid) : String := String.ofList (group (id.digits.map digit))

theorem digit?_digit : ∀ value : Fin 16, digit? (digit value) = some value := by decide

theorem digits?_map_digit (digits : List (Fin 16)) :
    digits? (digits.map digit) = some digits := by
  induction digits with
  | nil => rfl
  | cons value rest ih => simp [digits?, digit?_digit, ih]

theorem ofDigits?_map_digit (id : Uuid) : ofDigits? (id.digits.map digit) = some id := by
  simp [ofDigits?, digits?_map_digit, id.length_digits]

theorem length_group {digits : List Char} (length : digits.length = 32) :
    (group digits).length = 36 := by
  simp [group, length]

theorem ungroup?_group {digits : List Char} (length : digits.length = 32) :
    ungroup? (group digits) = some digits := by
  obtain ⟨a, b, c, d, e, f, g, h, digits, rfl⟩ : ∃ a b c d e f g h rest,
      digits = a :: b :: c :: d :: e :: f :: g :: h :: rest := by
    match digits, length with
    | a :: b :: c :: d :: e :: f :: g :: h :: rest, _ => exact ⟨a, b, c, d, e, f, g, h, rest, rfl⟩
  obtain ⟨i, j, k, l, m, n, o, p, q, r, s, t, rest, rfl⟩ : ∃ i j k l m n o p q r s t rest,
      digits = i :: j :: k :: l :: m :: n :: o :: p :: q :: r :: s :: t :: rest := by
    simp only [List.length_cons] at length
    match digits, length with
    | i :: j :: k :: l :: m :: n :: o :: p :: q :: r :: s :: t :: rest, _ =>
      exact ⟨i, j, k, l, m, n, o, p, q, r, s, t, rest, rfl⟩
  simp [ungroup?, group]

theorem parse?_write (id : Uuid) : parse? id.write = some id := by
  have length : (id.digits.map digit).length = 32 := by simp [id.length_digits]
  simp [parse?, write, length_group length, ofGroups?, ungroup?_group length,
    ofDigits?_map_digit]

end Uuid

end PathQuery
