/-
**Hops: the bracketed segments of a join path.**

A hop is written `[RightTable:RightColumn:LeftColumn]`. Two questions are asked of a segment:
whether it has the shape of a hop, and which hop it is. Blank or bracketed names leave it a shape
without a hop.

* `Hop.isShaped_iff`: the shape, said without the reader.
* `Hop.isShaped_of_parse?`: only segments of the right shape are hops.
* `Hop.text_of_parse?`: a hop keeps the segment that it was read from, letter for letter.
-/

import PathQuery.Text.Blank
import PathQuery.Text.Pieces

namespace PathQuery

open Text

/-- A segment read as a join: which table, on which of its columns, to which column before it. -/
structure Hop where
  rightTable : String
  rightColumn : String
  leftColumn : String
  /-- The segment as it was written. Two spellings of one join are two hops. -/
  text : String
  deriving DecidableEq, Repr

namespace Hop

/-- What stands between an opening bracket at the start and a closing bracket at the end. -/
def body? : List Char → Option (List Char)
  | '[' :: rest => if rest.getLast? = some ']' then some rest.dropLast else none
  | _ => none

/-- A segment has the shape of a hop when it is bracketed and holds exactly two colons. -/
def isShaped (segment : String) : Bool :=
  match body? segment.toList with
  | some body => body.count ':' == 2
  | none => false

/-- Names are not empty and hold no bracket. -/
def isName (name : List Char) : Bool :=
  !name.isEmpty && !name.contains '[' && !name.contains ']'

/-- A part of a hop without the blanks around it. -/
def part (piece : List Char) : List Char := trimEnd (trimStart piece)

/-- Reads a segment; nothing when its shape is wrong or one of its parts is no name. -/
def parse? (segment : String) : Option Hop :=
  match (body? segment.toList).map fun body => (pieces ':' body).map part with
  | some [table, column, left] =>
    if isName table && isName column && isName left then
      some ⟨String.ofList table, String.ofList column, String.ofList left, segment⟩
    else none
  | _ => none

/-- The plain spelling of a hop, without blanks. -/
def print (table column left : String) : String :=
  "[" ++ table ++ ":" ++ column ++ ":" ++ left ++ "]"

theorem body?_eq_some_iff {segment body : List Char} :
    body? segment = some body ↔ segment = '[' :: (body ++ [']']) := by
  constructor
  · intro read
    unfold body? at read
    split at read
    · rename_i rest
      split at read
      · rename_i last
        obtain ⟨front, rfl⟩ := List.getLast?_eq_some_iff.mp last
        simpa using read
      · cases read
    · cases read
  · rintro rfl
    simp [body?]

theorem isShaped_iff {segment : String} :
    isShaped segment = true ↔
      ∃ body, segment.toList = '[' :: (body ++ [']']) ∧ body.count ':' = 2 := by
  unfold isShaped
  constructor
  · intro shaped
    split at shaped
    · rename_i body read
      exact ⟨body, body?_eq_some_iff.mp read, by simpa using shaped⟩
    · cases shaped
  · rintro ⟨body, spelled, count⟩
    simp [body?_eq_some_iff.mpr spelled, count]

theorem text_of_parse? {segment : String} {hop : Hop} (read : parse? segment = some hop) :
    hop.text = segment := by
  unfold parse? at read
  split at read
  · split at read
    · cases read; rfl
    · cases read
  · cases read

theorem isShaped_of_parse? {segment : String} {hop : Hop} (read : parse? segment = some hop) :
    isShaped segment = true := by
  unfold parse? at read
  split at read
  · rename_i table column left parts
    obtain ⟨body, spelled, cut⟩ := Option.map_eq_some_iff.mp parts
    have three : (pieces ':' body).length = 3 := by
      simpa using congrArg List.length cut
    rw [length_pieces] at three
    simp [isShaped, spelled]
    omega
  · cases read

end Hop

end PathQuery
