/-
**Conditions.**

A condition joins tests by AND and OR. A test compares a field with the parameter of a name.

* `Condition.holds?`: the truth of a condition, once the values of its parameters are known. A
  parameter without a value leaves it open.
-/

import PathQuery.Filter.Meaning
import PathQuery.Params

namespace PathQuery

/-- A field, perhaps of a named table, compared with a parameter. -/
structure Test where
  table : Option String
  field : String
  comparison : Comparison
  parameter : String
  deriving DecidableEq, Repr

/-- Tests joined by AND and OR, two sides at a time. -/
inductive Condition where
  | single (test : Test)
  | both (first second : Condition)
  | either (first second : Condition)
  deriving DecidableEq, Repr

/-- What a test says about the value of its parameter. -/
def Test.atom? (params : Params) (test : Test) : Option Atom :=
  (params.get? test.parameter).map fun value =>
    ⟨test.table, test.field, test.comparison, value⟩

namespace Condition

/-- The tests of a condition, from left to right. -/
def tests : Condition → List Test
  | single test => [test]
  | both first second | either first second => first.tests ++ second.tests

/-- The truth of a condition, given the truth of every comparison. -/
def holds? (params : Params) (truth : Atom → Bool) : Condition → Option Bool
  | single test => (test.atom? params).map truth
  | both first second => do
    let left ← first.holds? params truth
    let right ← second.holds? params truth
    return left && right
  | either first second => do
    let left ← first.holds? params truth
    let right ← second.holds? params truth
    return left || right

end Condition

end PathQuery
