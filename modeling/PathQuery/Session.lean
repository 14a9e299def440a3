/-
**Sessions.**

A session answers calls under fixed settings. It knows a catalog of projections, resolves each of
them once for every source table, and keeps what it resolved. Source tables without a name and
projections without fields resolve to nothing, and nothing is kept of them.

* `Session.start`: settings have to be usable, and their dialect has to exist.
* `Session.call`: one call, its answer, its events and the session after it.
* `Session.run`: a sequence of calls.
-/

import PathQuery.Cache
import PathQuery.Projection
import PathQuery.Settings
import PathQuery.Statement

namespace PathQuery

/-- A session over a catalog of projections. -/
structure Session (κ : Type) where
  settings : Settings
  dialect : Dialect
  catalog : κ → Projection
  cache : Cache κ

/-- What came of a call: the answer, the session after it and the events on the way. -/
structure Reply (κ α : Type) where
  answer : α
  session : Session κ
  events : List Event

namespace Session

variable {κ : Type}

/-- A session under default settings. -/
def default (catalog : κ → Projection) : Session κ := ⟨.default, .sqlServer, catalog, .empty⟩

/-- A session under these settings. -/
def start (catalog : κ → Projection) (settings : Settings) : Except Error (Session κ) := do
  settings.check
  let dialect ← Dialect.find settings.dialect
  return ⟨settings, dialect, catalog, .empty⟩

variable [DecidableEq κ]

/-- What a projection selects from a source table. -/
def columns (session : Session κ) (source : String) (key : κ) : Reply κ (Option Stored) :=
  let projection := session.catalog key
  match session.cache.get? source key with
  | some stored => ⟨some stored, session, [.cacheHit source projection.name]⟩
  | none =>
    let miss := Event.cacheMiss source projection.name
    match projection.resolve source session.settings.joinKind with
    | (none, events) => ⟨none, session, miss :: events⟩
    | (some selection, events) =>
      { answer := some (session.cache.stamped selection)
        session := { session with cache := session.cache.insert source key selection }
        events := miss :: events }

/-- The condition of a filter. -/
def filter (session : Session κ) (filter : Filter) : Except Error Clause × List Event :=
  filter.compile (session.settings.style session.dialect)

/-- The text of a join. -/
def join (session : Session κ) (join : Join) : Except Error String := session.dialect.join join

/-- The condition of a filter that may be missing. -/
def filter? (session : Session κ) : Option Filter → Except Error (Option Clause) × List Event
  | none => (.ok none, [])
  | some filter =>
    let (clause, events) := session.filter filter
    (clause.map some, events)

/-- A statement as a draft of its own. -/
def write (session : Session κ) (statement : Statement) : Except Error Draft :=
  match statement.write session.dialect .empty with
  | (_, some error) => .error error
  | (draft, none) => .ok draft

/-- The statement that selects a projection from a source table, under a condition if there is a
filter. Without columns there is no statement, whatever the filter is. -/
def select (session : Session κ) (source : String) (filter : Option Filter) (key : κ) :
    Reply κ (Except Error (Option Draft)) :=
  let found := session.columns source key
  match found.answer with
  | none => { found with answer := .ok none }
  | some stored =>
    if stored.selection.columns.isEmpty then { found with answer := .ok none }
    else
      let (clause, events) := session.filter? filter
      { answer := do
          let clause ← clause
          some <$> session.write ⟨source, stored.selection, clause⟩
        session := found.session
        events := found.events ++ events }

end Session

/-! ### Calls -/

/-- What a session can be asked. -/
inductive Call (κ : Type) where
  | columns (source : String) (key : κ)
  | select (source : String) (filter : Option Filter) (key : κ)
  | filter (filter : Filter)
  | join (join : Join)

/-- The answer to a call. -/
inductive Answer where
  | columns (found : Option Stored)
  | select (result : Except Error (Option Draft))
  | filter (result : Except Error Clause)
  | join (result : Except Error String)

namespace Session

variable {κ : Type} [DecidableEq κ]

/-- Answers a call. -/
def call (session : Session κ) : Call κ → Reply κ Answer
  | .columns source key =>
    let reply := session.columns source key
    { reply with answer := .columns reply.answer }
  | .select source filter key =>
    let reply := session.select source filter key
    { reply with answer := .select reply.answer }
  | .filter filter =>
    let (result, events) := session.filter filter
    ⟨.filter result, session, events⟩
  | .join join => ⟨.join (session.join join), session, []⟩

/-- Answers calls one after the other. -/
def run (session : Session κ) : List (Call κ) → List (Reply κ Answer)
  | [] => []
  | call :: rest =>
    let reply := session.call call
    reply :: reply.session.run rest

end Session

/-! ### Without a session -/

/-- The condition of a filter under default settings. There has to be one. -/
def defaultClause : Option Filter → Except Error Clause
  | none => .error .missingFilter
  | some filter => (filter.compile (Settings.default.style .sqlServer)).1

/-- The text of a join in the dialect with this name. -/
def joinText (dialect : String) (join : Join) : Except Error String := do
  (← Dialect.find dialect).join join

end PathQuery
