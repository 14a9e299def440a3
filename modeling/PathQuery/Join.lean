/-
**Joins of a select statement.**

A join brings a right table under an alias into the statement and ties one of its columns to a
column of something already there: the source table or an earlier join.

* `JoinKind.keywords`: how a kind of join is written.
* `Join.ofHop`: the join that a hop asks for, once its left side and its alias are known.
-/

import PathQuery.Hop

namespace PathQuery

/-- How rows without a partner are treated. -/
inductive JoinKind where
  | inner
  | left
  | right
  | fullOuter
  deriving DecidableEq, Repr

/-- The words that introduce a join of this kind. -/
def JoinKind.keywords : JoinKind → String
  | .inner => "INNER JOIN"
  | .left => "LEFT JOIN"
  | .right => "RIGHT JOIN"
  | .fullOuter => "FULL OUTER JOIN"

/-- A join under its alias. The kind may still be unset; such a join cannot be written. -/
structure Join where
  kind : Option JoinKind
  /-- The source table, or the alias of an earlier join. -/
  leftTable : String
  leftColumn : String
  rightTable : String
  rightColumn : String
  /-- The alias that columns of this join stand under. -/
  name : String
  /-- The text of the hop that asked for this join. -/
  segment : String
  deriving DecidableEq, Repr

/-- The join that a hop asks for. -/
def Join.ofHop (hop : Hop) (leftTable name : String) (kind : Option JoinKind) : Join where
  kind := kind
  leftTable := leftTable
  leftColumn := hop.leftColumn
  rightTable := hop.rightTable
  rightColumn := hop.rightColumn
  name := name
  segment := hop.text

end PathQuery
