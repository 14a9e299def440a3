/-
**Values from JSON documents.**

A document already is JSON, so all that can be wrong with it is that it does not fit.

* `Value.ofDocument?`: the value that a document describes, by the name of its sort.
* `Value.Source`: what else a value can be made from, such as words of less than 64 bits.
-/

import PathQuery.Value.Number
import PathQuery.Value.Tag

namespace PathQuery.Value

/-- The number that a document is. -/
def number? : Json → Option Decimal.Number
  | .number value => some value
  | _ => none

/-- The text that a document is. -/
def text? : Json → Option String
  | .text value => some value
  | _ => none

/-- The bytes that a document lists. -/
def bytes? : Json → Option (List UInt8)
  | .array items => items.mapM fun item => (number? item).bind byte?
  | _ => none

/-- What a value can be made from. -/
inductive Source where
  | signed (bits : Nat)
  | unsigned (bits : Nat)
  | single
  | double
  | boolean
  | text
  | uuid
  | bytes
  | date
  | timestamp
  | json
  deriving DecidableEq, Repr

/-- The value made from a document that has to fit its source. -/
def ofSource? : Source → Json → Option Value
  | .signed bits, document => .int <$> (number? document).bind (signed? bits)
  | .unsigned bits, document => .uint <$> (number? document).bind (unsigned? bits)
  | .single, document => (.float <| Value.single ·) <$> number? document
  | .double, document => (.float <| Value.double ·) <$> number? document
  | .boolean, .boolean value => some (.boolean value)
  | .boolean, _ => none
  | .text, document => .text <$> text? document
  | .uuid, document => .uuid <$> (text? document).bind Uuid.parse?
  | .bytes, document => .bytes <$> bytes? document
  | .date, document => .date <$> (text? document).bind Date.parse?
  | .timestamp, document => .timestamp <$> (text? document).bind Timestamp.parse?
  | .json, document => some (.json document)

/-- The value made from a document that may be absent. -/
def ofOptionalSource? (source : Source) : Json → Option Value
  | .null => some .null
  | document => ofSource? source document

/-- The source of a value's content; the null value has none. -/
def Tag.source? : Tag → Option Source
  | .int => some (.signed 64)
  | .uint => some (.unsigned 64)
  | .float => some .double
  | .text => some .text
  | .boolean => some .boolean
  | .json => some .json
  | .uuid => some .uuid
  | .bytes => some .bytes
  | .date => some .date
  | .timestamp => some .timestamp
  | .null => none

/-- The value of one sort with this content. -/
def ofContent? (tag : Tag) (content : Json) : Option Value :=
  match tag.source? with
  | some source => ofSource? source content
  | none => match content with
    | .null => some .null
    | _ => none

/-- The value that a document describes. -/
def ofDocument? : Json → Option Value
  | .text name => if name = Tag.null.name then some .null else none
  | .object [(name, content)] => (Tag.ofName? name).bind (ofContent? · content)
  | _ => none

end PathQuery.Value
