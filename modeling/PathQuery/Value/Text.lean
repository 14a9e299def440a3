/-
**Values as JSON text.**

A value is an object whose only key names its sort, except that the null value is its name alone.

* `Value.print`: the text of a value.
* `Value.read`: reading one from left to right, stopping at the first fault.
-/

import PathQuery.Json.Printer
import PathQuery.Json.Reader
import PathQuery.Value.Number
import PathQuery.Value.Tag

namespace PathQuery.Value

open Json (Fault Reader)

/-- Bytes as numbers, in brackets with commas between them. -/
def printBytes (bytes : List UInt8) : List Char :=
  '[' :: ([','].intercalate (bytes.map fun byte => Nat.toDigits 10 byte.toNat) ++ [']'])

/-- The content of a value as it is written. -/
def printContent : Value → List Char
  | .int value => Json.printWhole value.toInt
  | .uint value => Json.printWhole value.toNat
  | .float value => Json.printDouble value
  | .text value => Json.Text.print value
  | .boolean value => Json.printBoolean value
  | .json value => value.print
  | .uuid value => Json.Text.print value.write
  | .bytes value => printBytes value
  | .date value => Json.Text.print (String.ofList value.write)
  | .timestamp value => Json.Text.print (String.ofList value.write)
  | .null => "null".toList

/-- A value as it is written. -/
def print : Value → List Char
  | .null => Json.Text.print Tag.null.name
  | value => '{' :: (Json.Text.print value.tag.name ++ ':' :: value.printContent ++ ['}'])

/-- The text of a value. -/
def toText (value : Value) : String := String.ofList value.print

/-- Reads the content of a value of one sort. -/
def readContent : Tag → Reader Value
  | .int => .int <$> Reader.numeric.convert (signed? 64)
  | .uint => .uint <$> Reader.numeric.convert (unsigned? 64)
  | .float => (.float <| double ·) <$> Reader.numeric
  | .text => .text <$> Reader.text
  | .boolean => .boolean <$> Reader.boolean
  | .json => .json <$> Json.read (Json.nestingLimit - 1)
  | .uuid => .uuid <$> Reader.text.convert Uuid.parse?
  | .bytes => .bytes <$> Reader.list (Reader.numeric.convert byte?)
  | .date => .date <$> Reader.text.convert Date.parse?
  | .timestamp => .timestamp <$> Reader.text.convert Timestamp.parse?
  | .null => (fun _ => .null) <$> Reader.null

/-- The value that is its name alone. -/
def alone? : Tag → Option Value
  | .null => some .null
  | _ => none

/-- Reads a value. -/
def read : Reader Value := Reader.tagged Tag.ofName? alone? readContent

/-- The value that a text holds. -/
def ofText (text : String) : Except Fault Value := Reader.run read text

end PathQuery.Value
