/-
**Settings as JSON text.**

Settings are an object, whose members may come in any order and may be missing, or an array of
their values in declared order, which may end early. What is missing has its default.

* `Settings.toText`: the text of settings.
* `Settings.ofText`: settings that can be read and used.
-/

import PathQuery.Json.Printer
import PathQuery.Options
import PathQuery.Settings

namespace PathQuery.Settings

open Json (Fault Reader)

/-- A member and its value. -/
def printMember (key : String) (value : List Char) : List Char :=
  Json.Text.print key ++ ':' :: value

/-- Settings as they are written. -/
def print (settings : Settings) : List Char :=
  '{' :: (printMember "dialect" (Json.Text.print settings.dialect) ++
    ',' :: printMember "default_join_type" (Json.Text.print (Named.name settings.joinKind)) ++
    ',' :: printMember "param_name_prefix" (Json.Text.print settings.stem) ++
    ',' :: printMember "quote_filter_fields" (Json.printBoolean settings.quoteFields) ++ ['}'])

/-- The text of settings. -/
def toText (settings : Settings) : String := String.ofList settings.print

/-- What has been read of settings so far. -/
structure Given where
  dialect : Option String
  joinKind : Option (Option JoinKind)
  stem : Option String
  quoteFields : Option Bool
  deriving DecidableEq, Repr

/-- Nothing so far. -/
def Given.nothing : Given := ⟨none, none, none, none⟩

/-- Settings with defaults for what was not given. -/
def Given.settings (given : Given) : Settings where
  dialect := given.dialect.getD default.dialect
  joinKind := given.joinKind.getD default.joinKind
  stem := given.stem.getD default.stem
  quoteFields := given.quoteFields.getD default.quoteFields

/-- Reads the value of a member that has not been given before. -/
def readOnce {α : Type} (known : Option α) (reader : Reader α) : Reader (Option α) := do
  if known.isSome then throw .mismatch
  Reader.colon
  return some (← reader)

/-- Reads the value behind a key. -/
def readMember (given : Given) (key : String) : Reader Given := do
  if key = "dialect" then
    return { given with dialect := ← readOnce given.dialect Reader.text }
  else if key = "default_join_type" then
    return { given with joinKind := ← readOnce given.joinKind Named.read }
  else if key = "param_name_prefix" then
    return { given with stem := ← readOnce given.stem Reader.text }
  else if key = "quote_filter_fields" then
    return { given with quoteFields := ← readOnce given.quoteFields Reader.boolean }
  else
    Reader.colon
    Reader.ignore
    return given

/-- Reads the next value of an array, unless it ends. -/
def readNext {α : Type} (first : Bool) (reader : Reader α) : Reader (Option α) := do
  if ← Reader.more first then some <$> reader else return none

/-- Reads values in declared order. -/
def readArray : Reader Given := do
  Reader.skip
  let dialect ← readNext true Reader.text
  let joinKind ← readNext false Named.read
  let stem ← readNext false Reader.text
  let quoteFields ← readNext false Reader.boolean
  Reader.close
  return ⟨dialect, joinKind, stem, quoteFields⟩

/-- Reads settings. -/
def read : Reader Settings := do
  let next ← Reader.peek
  if next = some '{' then
    Given.settings <$> Reader.object Reader.characters readMember Given.nothing
  else if next = some '[' then Given.settings <$> readArray
  else Reader.refuse

/-- The settings that a text holds, if they can be used. -/
def ofText (text : String) : Except Error Settings :=
  match Reader.run read text with
  | .error fault => .error (.unreadableSettings fault)
  | .ok settings => do
    settings.check
    return settings

end PathQuery.Settings
