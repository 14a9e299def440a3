/-
**Join paths.**

The path of a field is a text cut at its dots. The last segment names a column, the segments
before it are the hops that lead to the column's table.

* `segments_ne_nil`: every text has a last segment, so every text is a path.
* `JoinPath.attemptedHops`: the hops that following the path gets to make. A path that cannot end
  in a column makes none; otherwise the first hop that leads nowhere ends it.
* `JoinPath.Usable`: the paths that lead to a column.
-/

import PathQuery.Hop
import PathQuery.Text.Letter

namespace PathQuery

open Text

/-- The segments of a path text. -/
def segments (path : String) : List String :=
  (pieces '.' path.toList).map String.ofList

theorem segments_ne_nil (path : String) : segments path ≠ [] := by
  simp [segments, pieces_ne_nil]

/-- A path as the segments that should be hops and the segment that should be a column. -/
structure JoinPath where
  hops : List String
  column : String
  deriving DecidableEq, Repr

/-- A hop that can be joined: it reads as one, and its table's name has a letter to be shortened. -/
def Hop.joinable? (segment : String) : Option Hop :=
  (Hop.parse? segment).filter fun hop => hop.rightTable.toList.any isLetter

namespace JoinPath

/-- The path that a text spells. -/
def ofText (path : String) : JoinPath where
  hops := (segments path).dropLast
  column := (segments path).getLast (segments_ne_nil path)

/-- A column has a name and is not shaped like a hop. -/
def endsInColumn (path : JoinPath) : Bool :=
  !allBlank path.column && !Hop.isShaped path.column

/-- A path may start with its column, or with something shaped like a hop. -/
def startsWell (path : JoinPath) : Bool := path.hops.head?.all Hop.isShaped

/-- The hops that following the path gets to make. -/
def attemptedHops (path : JoinPath) : List String :=
  if path.endsInColumn then path.hops.takeWhile fun segment => (Hop.joinable? segment).isSome
  else []

/-- A path leads to a column when it ends in one and all its hops can be joined. -/
def Usable (path : JoinPath) : Prop :=
  path.endsInColumn = true ∧ ∀ segment ∈ path.hops, (Hop.joinable? segment).isSome = true

instance (path : JoinPath) : Decidable path.Usable := by
  unfold Usable
  exact inferInstance

end JoinPath

end PathQuery
