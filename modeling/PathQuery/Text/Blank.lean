/-
**Blank characters, and texts without them around.**
-/

namespace PathQuery.Text

/-- The characters of Unicode's White_Space property. A zero-width space is not among them. -/
def isBlank (c : Char) : Bool :=
  let code := c.toNat
  (0x09 ≤ code && code ≤ 0x0D) || code == 0x20 || code == 0x85 || code == 0xA0 ||
    code == 0x1680 || (0x2000 ≤ code && code ≤ 0x200A) || code == 0x2028 || code == 0x2029 ||
    code == 0x202F || code == 0x205F || code == 0x3000

/-- The characters from the first that is not blank. -/
def trimStart (text : List Char) : List Char := text.dropWhile isBlank

/-- The characters up to the last that is not blank. -/
def trimEnd (text : List Char) : List Char := (trimStart text.reverse).reverse

/-- The text without the blanks around it. -/
def trim (text : String) : String := String.ofList (trimEnd (trimStart text.toList))

/-- A text of blanks only, or of nothing. -/
def allBlank (text : String) : Bool := text.toList.all isBlank

theorem toList_trim (text : String) :
    (trim text).toList = trimEnd (trimStart text.toList) := by
  simp [trim]

end PathQuery.Text
