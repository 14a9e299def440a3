/-
**The tokens that the text of a condition spells.**

A condition is written token behind token, and the reader stops right behind each of them: a quoted
name ends at its closing mark whatever it holds, and a word or the name of a parameter ends where
nothing can go on with it (`Ends`).

* `Test.run_scan`: a written test is read as that test;
* `Lexed`: the tokens of a whole text, with one lemma for each token in front of it.
-/

import PathQuery.Condition.Reader
import PathQuery.Proofs.Text.Scan

namespace PathQuery

open Text

/-! ### The parts of a test -/

/-- What may stand behind a word: nothing that could go on with it. -/
def Ends (rest : List Char) : Prop := ∀ c ∈ rest.head?, isNameCharacter c = false

namespace Dialect

theorem run_blanks_parameterMark (dialect : Dialect) (rest : List Char) :
    Scan.blanks.run (' ' :: (dialect.parameterMark.toList ++ rest)) =
      some ((), dialect.parameterMark.toList ++ rest) := by
  cases dialect <;> rfl

end Dialect

namespace Comparison

theorem run_blanks_symbol (comparison : Comparison) (rest : List Char) :
    Scan.blanks.run (' ' :: (comparison.symbol.toList ++ rest)) =
      some ((), comparison.symbol.toList ++ rest) := by
  cases comparison <;> rfl

/-- A symbol is read as the longest that fits, which a space ends. -/
theorem run_scan (comparison : Comparison) (rest : List Char) :
    Comparison.scan.run (comparison.symbol.toList ++ ' ' :: rest) =
      some (comparison, ' ' :: rest) := by
  cases comparison <;>
    simp [Comparison.scan, symbol, Scan.next, Scan.exactly, Scan.literal]

end Comparison

theorem Connective.run_scan (connective : Connective) (rest : List Char) :
    Connective.scan.run (connective.keyword.toList ++ ' ' :: rest) =
      some (connective, ' ' :: rest) := by
  have letters : connective.keyword.toList.all Char.isAlpha = true := by
    cases connective <;> decide
  have stops : ∀ c ∈ (' ' :: rest).head?, c.isAlpha = false := by simp
  have taken := Scan.run_takeWhile (List.all_eq_true.mp letters) stops
  cases connective <;> simp [Connective.scan, taken, Connective.keyword] at taken ⊢

/-! ### Tests -/

/-- A test as it is written. -/
def Test.write (style : Style) (test : Test) : String :=
  style.test test.table test.field test.comparison test.parameter

/-- **A written test is read as that test**, in quotes and with a name for its parameter. -/
theorem Test.run_scan {style : Style} (quoted : style.quoteFields = true) (test : Test)
    (named : test.parameter ≠ "") (name : ∀ c ∈ test.parameter.toList, isNameCharacter c = true)
    {rest : List Char} (ends : Ends rest) :
    (Test.scan style.dialect).run ((test.write style).toList ++ rest) = some (test, rest) := by
  obtain ⟨table, field, comparison, parameter⟩ := test
  have space := style.dialect.closing_ne_space
  have point := style.dialect.closing_ne_point
  have taken := Scan.run_takeWhile name ends
  have nonempty : parameter.toList ≠ [] := by simpa using named
  cases table with
  | none =>
    simp [write, Style.test, Style.field, Style.identifier, quoted, Test.scan,
      Dialect.run_scanIdentifier _ _ space, Scan.run_literal_of_ne (by decide : '.' ≠ ' '),
      Comparison.run_blanks_symbol, Comparison.run_scan, Dialect.run_blanks_parameterMark,
      Scan.run_exactly, taken, nonempty]
  | some table =>
    simp [write, Style.test, Style.field, Style.identifier, quoted, Test.scan,
      Dialect.run_scanIdentifier _ _ space, Dialect.run_scanIdentifier _ _ point,
      Scan.run_literal_self, Comparison.run_blanks_symbol, Comparison.run_scan,
      Dialect.run_blanks_parameterMark, Scan.run_exactly, taken, nonempty]

theorem Test.exists_toList_write {style : Style} (quoted : style.quoteFields = true) (test : Test) :
    ∃ more, (test.write style).toList = style.dialect.opening :: more := by
  obtain ⟨table, field, comparison, parameter⟩ := test
  cases table <;>
    simp [write, Style.test, Style.field, Style.identifier, quoted, Dialect.toList_quote,
      Quoted.encode]

/-! ### Tokens -/

namespace Token

theorem run_scan_nil (dialect : Dialect) : (Token.scan dialect).run [] = some (none, []) := by
  simp [Token.scan, Scan.run_blanks, trimStart, Scan.peek]

theorem run_scan_space (dialect : Dialect) (text : List Char) :
    (Token.scan dialect).run (' ' :: text) = (Token.scan dialect).run text := by
  have space : isBlank ' ' = true := by decide
  simp [Token.scan, Scan.run_blanks, trimStart, space]

theorem run_scan_opening (dialect : Dialect) (rest : List Char) :
    (Token.scan dialect).run ('(' :: rest) = some (some .opening, rest) := by
  have dark : isBlank '(' = false := by decide
  simp [Token.scan, Scan.run_blanks, trimStart, dark, Scan.peek, Scan.exactly, Scan.literal]

theorem run_scan_closing (dialect : Dialect) (rest : List Char) :
    (Token.scan dialect).run (')' :: rest) = some (some .closing, rest) := by
  have dark : isBlank ')' = false := by decide
  simp [Token.scan, Scan.run_blanks, trimStart, dark, Scan.peek, Scan.exactly, Scan.literal]

theorem run_scan_connective (dialect : Dialect) (connective : Connective) (rest : List Char) :
    (Token.scan dialect).run (connective.keyword.toList ++ ' ' :: rest) =
      some (some (.connective connective), ' ' :: rest) := by
  have read := connective.run_scan rest
  have dark : isBlank 'A' = false ∧ isBlank 'O' = false := by decide
  cases connective <;> cases dialect <;>
    simp [Connective.keyword] at read ⊢ <;>
    simp [Token.scan, Scan.run_blanks, trimStart, dark, Scan.peek, Dialect.opening, read]

theorem run_scan_test {style : Style} (quoted : style.quoteFields = true) (test : Test)
    (named : test.parameter ≠ "") (name : ∀ c ∈ test.parameter.toList, isNameCharacter c = true)
    {rest : List Char} (ends : Ends rest) :
    (Token.scan style.dialect).run ((test.write style).toList ++ rest) =
      some (some (.test test), rest) := by
  have read := Test.run_scan quoted test named name ends
  obtain ⟨more, starts⟩ := Test.exists_toList_write quoted test
  have dark : isBlank '[' = false ∧ isBlank '"' = false := by decide
  rw [starts, List.cons_append] at read ⊢
  cases dialect : style.dialect <;> rw [dialect] at read <;>
    simp [Token.scan, Scan.run_blanks, trimStart, dark, Scan.peek, Dialect.opening] at read ⊢ <;>
    simp [read]

end Token

/-- **The tokens of a text**, read to its end. -/
def Lexed (dialect : Dialect) (text : List Char) (tokens : List Token) : Prop :=
  Scan.many (Token.scan dialect) text = some (tokens, [])

namespace Lexed

variable {dialect : Dialect} {text rest : List Char} {tokens : List Token}

theorem nil (dialect : Dialect) : Lexed dialect [] [] := by
  rw [Lexed, Scan.many, Token.run_scan_nil]

/-- A token in front of a text is in front of its tokens. -/
theorem cons {token : Token} (read : (Token.scan dialect).run text = some (some token, rest))
    (shorter : rest.length < text.length) (lexed : Lexed dialect rest tokens) :
    Lexed dialect text (token :: tokens) := by
  rw [Lexed] at lexed ⊢
  rw [Scan.many, read]
  simp [shorter, lexed]

theorem space (lexed : Lexed dialect text tokens) : Lexed dialect (' ' :: text) tokens := by
  rw [Lexed, Scan.many] at lexed ⊢
  rw [Token.run_scan_space]
  split at lexed
  · cases lexed
  · exact lexed
  · split at lexed
    · rename_i shorter
      rw [if_pos (by rw [List.length_cons]; omega)]
      exact lexed
    · cases lexed

theorem opening (lexed : Lexed dialect rest tokens) :
    Lexed dialect ('(' :: rest) (.opening :: tokens) :=
  cons (Token.run_scan_opening dialect rest) (by simp) lexed

theorem closing (lexed : Lexed dialect rest tokens) :
    Lexed dialect (')' :: rest) (.closing :: tokens) :=
  cons (Token.run_scan_closing dialect rest) (by simp) lexed

/-- The word of a connective, between spaces. -/
theorem connective (connective : Connective) (lexed : Lexed dialect rest tokens) :
    Lexed dialect (' ' :: (connective.keyword.toList ++ ' ' :: rest))
      (.connective connective :: tokens) := by
  refine space (cons (Token.run_scan_connective dialect connective rest) ?_ (space lexed))
  cases connective <;> simp [Connective.keyword]

theorem test {style : Style} (quoted : style.quoteFields = true) (test : Test)
    (named : test.parameter ≠ "") (name : ∀ c ∈ test.parameter.toList, isNameCharacter c = true)
    (ends : Ends rest) (lexed : Lexed style.dialect rest tokens) :
    Lexed style.dialect ((test.write style).toList ++ rest) (.test test :: tokens) := by
  refine cons (Token.run_scan_test quoted test named name ends) ?_ lexed
  obtain ⟨more, starts⟩ := Test.exists_toList_write quoted test
  rw [starts, List.length_append, List.length_cons]
  omega

theorem ofText? {text : String} (lexed : Lexed dialect text.toList tokens) :
    Token.ofText? dialect text = some tokens := by
  rw [Lexed] at lexed
  simp [Token.ofText?, Scan.whole, StateT.run, lexed]

end Lexed

end PathQuery
