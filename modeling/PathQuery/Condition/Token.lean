/-
**The tokens of a condition.**

A test is a token of its own: a quoted field, perhaps behind a quoted table and a point, then a
comparison and a parameter. The others are the words AND and OR, and parentheses. Blanks may stand
in front of all of them.

* `Token.ofText?`: the tokens of a text.
-/

import PathQuery.Condition
import PathQuery.Dialect
import PathQuery.Text.Scan

namespace PathQuery

open Text

/-- The tokens of a condition. -/
inductive Token where
  | test (test : Test)
  | connective (connective : Connective)
  | opening
  | closing
  deriving DecidableEq, Repr

/-- The characters in the name of a parameter: letters of the Latin alphabet, digits and the
underscore. -/
def isNameCharacter (c : Char) : Bool := c.isAlphanum || c == '_'

/-- Reads the symbol of a comparison, the longest that fits. -/
def Comparison.scan : Scan Comparison := do
  match ← Scan.next with
  | '=' => return .equal
  | '!' =>
    Scan.exactly ['=']
    return .notEqual
  | '<' => return if ← Scan.literal ['='] then .lessOrEqual else .less
  | '>' => return if ← Scan.literal ['='] then .greaterOrEqual else .greater
  | _ => failure

/-- Reads the word of a connective. -/
def Connective.scan : Scan Connective := do
  let word ← Scan.takeWhile Char.isAlpha
  if word = ['A', 'N', 'D'] then return .and
  else if word = ['O', 'R'] then return .or
  else failure

/-- Reads a test. -/
def Test.scan (dialect : Dialect) : Scan Test := do
  let first ← dialect.scanIdentifier
  let second ← if ← Scan.literal ['.'] then some <$> dialect.scanIdentifier else pure none
  Scan.blanks
  let comparison ← Comparison.scan
  Scan.blanks
  Scan.exactly dialect.parameterMark.toList
  let name ← Scan.takeWhile isNameCharacter
  if name.isEmpty then failure
  let parameter := String.ofList name
  return match second with
    | none => ⟨none, first, comparison, parameter⟩
    | some field => ⟨some first, field, comparison, parameter⟩

namespace Token

/-- Reads the next token, unless the text ends. -/
def scan (dialect : Dialect) : Scan (Option Token) := do
  Scan.blanks
  match ← Scan.peek with
  | none => return none
  | some '(' =>
    Scan.exactly ['(']
    return some .opening
  | some ')' =>
    Scan.exactly [')']
    return some .closing
  | some c =>
    if c = dialect.opening then return some (.test (← Test.scan dialect))
    else return some (.connective (← Connective.scan))

/-- The tokens of a text. -/
def ofText? (dialect : Dialect) (text : String) : Option (List Token) :=
  Scan.whole (Scan.many (scan dialect)) text

end Token

end PathQuery
