/-
**Conditions read back from their text.**

The reader keeps what waits for a side, so what it makes of some tokens depends on what stands
before them. Two notions say all that is needed about tokens:

* `Fills`: the tokens are one side of a connective, a test or a condition in parentheses, and the
  side takes whatever place is open;
* `Finishes`: the tokens are sides with one connective between them, read from where nothing waits.
  Sides joined by AND leave no left side of an OR behind, so one more AND has all of them at its
  left.

A text reads as a condition if it spells such tokens wherever it stands (`ReadsSide`, `Reads`), and
`reads_separate` puts the sides of a group together.
-/

import Mathlib.Data.List.Forall2
import PathQuery.Proofs.Filter.Truth
import PathQuery.Proofs.Condition.Spelling

namespace PathQuery

/-- A connective between two conditions. -/
def Connective.combine : Connective → Condition → Condition → Condition
  | .and => .both
  | .or => .either

theorem Connective.holds_cons_cons (connective : Connective) (first second : Bool)
    (others : List Bool) :
    connective.holds (first :: second :: others) =
      connective.holds (connective.holds [first, second] :: others) := by
  cases connective <;> cases first <;> cases second <;> rfl

/-- Two parts with the word between them are one part in front of the others. -/
theorem NormalForm.separate_cons_cons (connective : Connective) (text part : String)
    (parts : List String) :
    separate connective (text :: part :: parts) =
      separate connective ((text ++ (" " ++ connective.keyword ++ " ") ++ part) :: parts) := by
  cases parts <;> simp [separate, String.append_assoc]

namespace Condition

/-! ### What tokens come to -/

/-- **The tokens are a side of a connective**: the place that is open takes the condition. -/
def Fills (tokens : List Token) (condition : Condition) : Prop :=
  ∀ pending outer, steps (.before pending outer) tokens = some (pending.place condition outer)

/-- **The tokens are sides with this connective between them.** -/
def Finishes (connective : Connective) (tokens : List Token) (condition : Condition) : Prop :=
  ∀ outer, ∃ alternative last,
    steps (.before .nothing outer) tokens = some (.behind alternative last outer) ∧
      orElse alternative last = condition ∧ (connective = .and → alternative = none)

variable {connective : Connective} {tokens side : List Token} {condition first second : Condition}

theorem fills_test (test : Test) : Fills [.test test] (.single test) := fun _ _ => rfl

theorem Fills.finishes (fills : Fills tokens condition) : Finishes connective tokens condition :=
  fun outer => ⟨none, condition, fills .nothing outer, rfl, fun _ => rfl⟩

/-- **In parentheses everything is a side**, whatever the connective inside of them. -/
theorem Finishes.enclose (finishes : Finishes connective tokens condition) :
    Fills (.opening :: tokens ++ [.closing]) condition := by
  intro pending outer
  obtain ⟨alternative, last, reached, value, -⟩ := finishes (pending :: outer)
  have opened : steps (.before pending outer) (.opening :: tokens ++ [.closing]) =
      steps (.before .nothing (pending :: outer)) (tokens ++ [.closing]) := rfl
  rw [opened, steps_append, reached, ← value]
  rfl

/-- **One more side behind the same connective.** Behind an AND it joins all sides so far, and
behind an OR they become the left side as a whole. -/
theorem Finishes.extend (finishes : Finishes connective tokens first) (fills : Fills side second) :
    Finishes connective (tokens ++ .connective connective :: side)
      (connective.combine first second) := by
  intro outer
  obtain ⟨alternative, last, reached, rfl, single⟩ := finishes outer
  cases connective with
  | and =>
    obtain rfl := single rfl
    refine ⟨none, .both last second, ?_, rfl, fun _ => rfl⟩
    rw [steps_append, reached]
    exact fills ⟨none, some last⟩ outer
  | or =>
    refine ⟨some (orElse alternative last), second, ?_, rfl, nofun⟩
    rw [steps_append, reached]
    exact fills ⟨some (orElse alternative last), none⟩ outer

theorem Finishes.ofTokens? (finishes : Finishes connective tokens condition) :
    ofTokens? tokens = some condition := by
  obtain ⟨alternative, last, reached, value, -⟩ := finishes []
  rw [Condition.ofTokens?, reached, ← value]

/-! ### What texts come to -/

/-- The text spells these tokens in front of everything that ends a word. -/
def Spells (dialect : Dialect) (text : String) (tokens : List Token) : Prop :=
  ∀ rest more, Ends rest → Lexed dialect rest more →
    Lexed dialect (text.toList ++ rest) (tokens ++ more)

/-- The truth of a condition, once the comparisons are known. -/
def Means (params : Params) (condition : Condition) (claim : (Atom → Bool) → Bool) : Prop :=
  ∀ truth, condition.holds? params truth = some (claim truth)

/-- A connective says of two conditions what it says of the parts of a group. -/
theorem Means.combine {params : Params} {claim other : (Atom → Bool) → Bool}
    (meaning : Means params first claim) (further : Means params second other) :
    Means params (connective.combine first second)
      fun truth => connective.holds [claim truth, other truth] := by
  intro truth
  cases connective <;>
    simp [Connective.combine, Connective.holds, holds?, meaning truth, further truth]

variable {dialect : Dialect} {params : Params} {text part : String}
  {claim other : (Atom → Bool) → Bool}

/-- **A text that is a side of a connective** and says `claim`. -/
def ReadsSide (dialect : Dialect) (params : Params) (text : String)
    (claim : (Atom → Bool) → Bool) : Prop :=
  ∃ tokens condition, Spells dialect text tokens ∧ Fills tokens condition ∧
    Means params condition claim

/-- **A text of sides with this connective between them** that says `claim`. -/
def Reads (dialect : Dialect) (params : Params) (connective : Connective) (text : String)
    (claim : (Atom → Bool) → Bool) : Prop :=
  ∃ tokens condition, Spells dialect text tokens ∧ Finishes connective tokens condition ∧
    Means params condition claim

theorem ReadsSide.reads (side : ReadsSide dialect params text claim) :
    Reads dialect params connective text claim := by
  obtain ⟨tokens, condition, spells, fills, meaning⟩ := side
  exact ⟨tokens, condition, spells, fills.finishes, meaning⟩

theorem Reads.enclose (reads : Reads dialect params connective text claim) :
    ReadsSide dialect params ("(" ++ text ++ ")") claim := by
  obtain ⟨tokens, condition, spells, finishes, meaning⟩ := reads
  refine ⟨_, condition, ?_, finishes.enclose, meaning⟩
  intro rest more _ lexed
  have inner := spells (')' :: rest) (.closing :: more) (by simp [Ends]; decide) lexed.closing
  simpa using inner.opening

theorem Reads.extend (reads : Reads dialect params connective text claim)
    (side : ReadsSide dialect params part other) :
    Reads dialect params connective (text ++ (" " ++ connective.keyword ++ " ") ++ part)
      fun truth => connective.holds [claim truth, other truth] := by
  obtain ⟨tokens, first, spells, finishes, meaning⟩ := reads
  obtain ⟨more, second, spelled, fills, further⟩ := side
  refine ⟨_, _, ?_, finishes.extend fills, meaning.combine further⟩
  intro rest behind ends lexed
  have word := (spelled rest behind ends lexed).connective connective
  have front := spells _ _ (by simp [Ends]; decide) word
  simpa using front

/-- **The sides of a group read as the group**: their claims are joined as its parts are. -/
theorem reads_separate {parts : List String} {claims : List ((Atom → Bool) → Bool)}
    (reads : Reads dialect params connective text claim)
    (sides : List.Forall₂ (ReadsSide dialect params) parts claims) :
    Reads dialect params connective (NormalForm.separate connective (text :: parts))
      fun truth => connective.holds ((claim :: claims).map (· truth)) := by
  induction sides generalizing text claim with
  | nil =>
    simpa [NormalForm.separate, Connective.holds_singleton] using reads
  | @cons part other parts claims side _ ih =>
    have longer := ih (reads.extend side)
    have joined : (fun truth => connective.holds ((claim :: other :: claims).map (· truth))) =
        fun truth => connective.holds
          (connective.holds [claim truth, other truth] :: claims.map (· truth)) := by
      funext truth
      exact connective.holds_cons_cons _ _ _
    rw [NormalForm.separate_cons_cons, joined]
    exact longer

/-- **A text that reads as a condition is one**, from end to end. -/
theorem Reads.ofText? (reads : Reads dialect params connective text claim) :
    ∃ condition, ofText? dialect text = some condition ∧ Means params condition claim := by
  obtain ⟨tokens, condition, spells, finishes, meaning⟩ := reads
  refine ⟨condition, ?_, meaning⟩
  have lexed := spells [] [] (by simp [Ends]) (Lexed.nil dialect)
  rw [List.append_nil, List.append_nil] at lexed
  rw [Condition.ofText?, lexed.ofText?]
  exact finishes.ofTokens?

/-- **A written test is a side**, once its parameter has a value. -/
theorem readsSide_test {style : Style} (quoted : style.quoteFields = true) {test : Test}
    (named : test.parameter ≠ "") (name : ∀ c ∈ test.parameter.toList, isNameCharacter c = true)
    {atom : Atom} (bound : test.atom? params = some atom) :
    ReadsSide style.dialect params (test.write style) fun truth => truth atom := by
  refine ⟨[.test test], .single test, ?_, fills_test test, ?_⟩
  · intro rest more ends lexed
    exact Lexed.test quoted test named name ends lexed
  · intro truth
    simp [holds?, bound]

end Condition

end PathQuery
