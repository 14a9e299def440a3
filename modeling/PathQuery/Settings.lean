/-
**Settings of a session.**

* `Settings.check`: which settings can be used. An unset kind of join is found before a blank stem.
* `Settings.style`: how conditions are written under these settings.
-/

import PathQuery.Filter.Compile

namespace PathQuery

/-- Settings of a session. -/
structure Settings where
  /-- The name of the dialect. -/
  dialect : String
  /-- The kind of every join that a path asks for. -/
  joinKind : Option JoinKind
  /-- How the names of parameters begin. -/
  stem : String
  /-- Whether the fields of conditions are quoted. -/
  quoteFields : Bool
  deriving DecidableEq, Repr

namespace Settings

/-- The settings that hold where nothing else is said. -/
def default : Settings := ⟨"sqlserver", some .left, "FilterValue", false⟩

/-- What is wrong with settings, if anything is. -/
def check (settings : Settings) : Except Error Unit :=
  if settings.joinKind.isNone then .error .unsetDefaultJoinKind
  else if Text.allBlank settings.stem then .error .blankParameterStem
  else .ok ()

/-- How conditions are written in a dialect under these settings. -/
def style (settings : Settings) (dialect : Dialect) : Style :=
  ⟨dialect, settings.stem, settings.quoteFields⟩

end Settings

end PathQuery
