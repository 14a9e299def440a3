/-
**Errors.**

An error is a cause. Its kind groups the causes, and its message is the kind's label and the
cause in words.
-/

import PathQuery.Json.Fault

namespace PathQuery

/-- The four groups of errors. -/
inductive ErrorKind where
  | invalidArgument
  | invalidState
  | unsupportedDialect
  | configuration
  deriving DecidableEq, Repr

/-- How messages of this kind begin. -/
def ErrorKind.label : ErrorKind → String
  | .invalidArgument => "Invalid argument: "
  | .invalidState => "Invalid state: "
  | .unsupportedDialect => "Dialect not implemented: "
  | .configuration => "Configuration error: "

/-- What can go wrong while a query is composed. -/
inductive Error where
  /-- A filter without items, groups and connective. -/
  | emptyFilter
  /-- No filter where one is needed. -/
  | missingFilter
  /-- A statement without columns. -/
  | noColumns (source : String)
  /-- A join whose kind was never set. -/
  | unsetJoinKind (segment : String)
  /-- No dialect goes by this name. -/
  | unknownDialect (name : String)
  /-- Settings whose default kind of join is unset. -/
  | unsetDefaultJoinKind
  /-- Settings under which parameters would have no name. -/
  | blankParameterStem
  /-- Settings that cannot be read. -/
  | unreadableSettings (fault : Json.Fault)
  deriving DecidableEq, Repr

namespace Error

/-- The group that an error belongs to. -/
def kind : Error → ErrorKind
  | emptyFilter | missingFilter => .invalidArgument
  | noColumns _ | unsetJoinKind _ => .invalidState
  | unknownDialect _ => .unsupportedDialect
  | unsetDefaultJoinKind | blankParameterStem | unreadableSettings _ => .configuration

/-- The cause in words. -/
def detail : Error → String
  | emptyFilter => "filter group must not be empty"
  | missingFilter => "filter group must not be null"
  | noColumns source => "no columns resolved for " ++ source
  | unsetJoinKind segment => "join type must be set for join " ++ segment
  | unknownDialect name => name
  | unsetDefaultJoinKind => "default_join_type must not be 'none'"
  | blankParameterStem => "param_name_prefix must not be empty"
  | unreadableSettings fault => fault.category

/-- The whole message. -/
def message (error : Error) : String := error.kind.label ++ error.detail

end Error

end PathQuery
