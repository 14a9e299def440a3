/-
**Delimited texts.**

A text between an opening and a closing mark, in which the closing mark is written twice. A
scanner reads one back: a doubled closing mark stands for one, a single one ends the text.

* `scan_encode`: scanning what was written gives the text and stops right behind it, unless the
  next character is the closing mark itself.
-/

namespace PathQuery.Text.Quoted

/-- Writes every closing mark twice. -/
def escape (closing : Char) : List Char → List Char
  | [] => []
  | c :: rest => if c = closing then closing :: closing :: escape closing rest else
      c :: escape closing rest

/-- Writes a text between its marks. -/
def encode (opening closing : Char) (text : List Char) : List Char :=
  opening :: (escape closing text ++ [closing])

/-- Reads up to the single closing mark, and gives the text and what follows it. -/
def scanBody (closing : Char) : List Char → Option (List Char × List Char)
  | [] => none
  | [c] => if c = closing then some ([], []) else none
  | c :: next :: rest =>
    if c = closing then
      if next = closing then (scanBody closing rest).map fun (text, left) => (closing :: text, left)
      else some ([], next :: rest)
    else (scanBody closing (next :: rest)).map fun (text, left) => (c :: text, left)

/-- Reads a delimited text at the start, and gives the text and what follows it. -/
def scan (opening closing : Char) : List Char → Option (List Char × List Char)
  | [] => none
  | c :: rest => if c = opening then scanBody closing rest else none

theorem scanBody_escape (closing : Char) (text rest : List Char)
    (ends : rest.head? ≠ some closing) :
    scanBody closing (escape closing text ++ closing :: rest) = some (text, rest) := by
  induction text with
  | nil =>
    cases rest with
    | nil => simp [escape, scanBody]
    | cons c rest =>
      have other : c ≠ closing := by simpa using ends
      simp [escape, scanBody, other]
  | cons c text ih =>
    by_cases same : c = closing
    · simp [escape, same, scanBody, ih]
    · simp only [escape, same, if_false, List.cons_append]
      cases tail : escape closing text ++ closing :: rest with
      | nil => simp at tail
      | cons d others => simp [scanBody, same, ← tail, ih]

theorem scan_encode (opening closing : Char) (text rest : List Char)
    (ends : rest.head? ≠ some closing) :
    scan opening closing (encode opening closing text ++ rest) = some (text, rest) := by
  simpa [scan, encode] using scanBody_escape closing text rest ends

end PathQuery.Text.Quoted
