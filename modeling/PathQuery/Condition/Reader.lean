/-
**Conditions read from a text.**

Reading goes from token to token and keeps what waits for a side: at every open parenthesis, the
left side of an OR and the left side of an AND. A finished side of an AND joins the AND first, so
AND binds tighter than OR.

* `Condition.ofTokens?`, `Condition.ofText?`: the condition that tokens or a text spell, if they
  spell one from end to end.
-/

import PathQuery.Condition.Token

namespace PathQuery.Condition

/-- What waits for a condition at its right: the left side of an OR, and the left side of an AND
that is to join it. -/
structure Pending where
  alternative : Option Condition
  conjunct : Option Condition
  deriving DecidableEq, Repr

/-- Where reading is: before a condition or behind one, below what waits outside of open
parentheses. -/
inductive Position where
  | before (pending : Pending) (outer : List Pending)
  | behind (alternative : Option Condition) (condition : Condition) (outer : List Pending)
  deriving DecidableEq, Repr

/-- Nothing waits at the start of a text and behind an opening parenthesis. -/
def Pending.nothing : Pending := ⟨none, none⟩

/-- An OR with its left side, if there is one. -/
def orElse (alternative : Option Condition) (condition : Condition) : Condition :=
  match alternative with
  | none => condition
  | some first => .either first condition

/-- A condition takes its place at the right of an AND that waits for it. -/
def Pending.place (pending : Pending) (condition : Condition) (outer : List Pending) : Position :=
  match pending.conjunct with
  | none => .behind pending.alternative condition outer
  | some first => .behind pending.alternative (.both first condition) outer

/-- Reads one token. -/
def step : Position → Token → Option Position
  | .before pending outer, .test test => some (pending.place (.single test) outer)
  | .before pending outer, .opening => some (.before .nothing (pending :: outer))
  | .behind alternative condition outer, .connective .and =>
    some (.before ⟨alternative, some condition⟩ outer)
  | .behind alternative condition outer, .connective .or =>
    some (.before ⟨some (orElse alternative condition), none⟩ outer)
  | .behind alternative condition (pending :: outer), .closing =>
    some (pending.place (orElse alternative condition) outer)
  | _, _ => none

/-- Reads tokens one after the other. -/
def steps (position : Position) : List Token → Option Position
  | [] => some position
  | token :: rest => (step position token).bind fun next => steps next rest

/-- The condition that tokens spell. No parenthesis may be left open. -/
def ofTokens? (tokens : List Token) : Option Condition :=
  match steps (.before .nothing []) tokens with
  | some (.behind alternative condition []) => some (orElse alternative condition)
  | _ => none

/-- The condition that a text spells. -/
def ofText? (dialect : Dialect) (text : String) : Option Condition :=
  (Token.ofText? dialect text).bind ofTokens?

theorem steps_append (position : Position) (tokens rest : List Token) :
    steps position (tokens ++ rest) =
      (steps position tokens).bind fun next => steps next rest := by
  induction tokens generalizing position with
  | nil => rfl
  | cons token tokens ih => cases next : step position token <;> simp [steps, next, ih]

end PathQuery.Condition
