/-
**The parameters of a compiled filter are its comparisons.**

A filter compiles to a text of tokens: tests, connectives between them, and parentheses. The tests
are those that the filter makes, from left to right, each with a parameter of its own, and the
values of just these parameters come along.

* `Condition.Composed`: a text is made of tokens that spell a condition with given tests, and
  nothing in it is left over. This does not need a reader, so fields may be quoted or not and the
  names of parameters may begin with anything;
* `NormalForm.composed`: a printed normal form is made of its tests, by induction on the form;
* `Filter.parameters_of_compile`: what a filter compiles to, and the one filter that is refused.
-/

import PathQuery.Proofs.Filter.Readback

namespace PathQuery

/-! ### Written tokens -/

namespace Token

/-- A token as it is written. -/
def write (style : Style) : Token → String
  | .test single => single.write style
  | .connective word => " " ++ word.keyword ++ " "
  | .opening => "("
  | .closing => ")"

/-- Tokens as they are written side by side. -/
def writeAll (style : Style) (tokens : List Token) : String :=
  String.join (tokens.map (write style))

/-- The test that a token is, if it is one. -/
def test? : Token → Option Test
  | .test single => some single
  | _ => none

variable {style : Style}

theorem writeAll_append (first second : List Token) :
    writeAll style (first ++ second) = writeAll style first ++ writeAll style second := by
  rw [writeAll, List.map_append, String.join_append]
  rfl

theorem write_ne_empty (token : Token) : token.write style ≠ "" := by
  cases token with
  | test single => simp [write, Test.write, Style.test]
  | connective word => simp [write]
  | opening => simp [write]
  | closing => simp [write]

/-- Only no tokens come to no text. -/
theorem writeAll_eq_empty_iff {tokens : List Token} : writeAll style tokens = "" ↔ tokens = [] := by
  constructor
  · intro empty
    cases tokens with
    | nil => rfl
    | cons token rest =>
      rw [writeAll, List.map_cons, String.join_cons, String.append_eq_empty_iff] at empty
      exact absurd empty.1 token.write_ne_empty
  · rintro rfl
    rfl

end Token

/-- Comparisons with the parameters from this number on in place of their values. -/
def Atom.tests (style : Style) (number : Nat) (atoms : List Atom) : List Test :=
  (atoms.zipIdx number).map fun (atom, number) => atom.test style number

theorem Atom.tests_cons (style : Style) (number : Nat) (atom : Atom) (atoms : List Atom) :
    tests style number (atom :: atoms) =
      atom.test style number :: tests style (number + 1) atoms := rfl

theorem Atom.tests_append (style : Style) (number : Nat) (first second : List Atom) :
    tests style number (first ++ second) =
      tests style number first ++ tests style (number + first.length) second := by
  rw [tests, List.zipIdx_append, List.map_append]
  rfl

/-! ### Texts made of tests -/

namespace Condition

variable {style : Style} {connective : Connective} {text part : String} {tests more : List Test}

/-- **A text that is made of one side of a connective**, with these tests from left to right. -/
def ComposedSide (style : Style) (text : String) (tests : List Test) : Prop :=
  ∃ tokens condition, text = Token.writeAll style tokens ∧ Fills tokens condition ∧
    tokens.filterMap Token.test? = tests ∧ condition.tests = tests

/-- **A text that is made of sides with this connective between them**, with these tests from left
to right. -/
def Composed (style : Style) (connective : Connective) (text : String) (tests : List Test) : Prop :=
  ∃ tokens condition, text = Token.writeAll style tokens ∧ Finishes connective tokens condition ∧
    tokens.filterMap Token.test? = tests ∧ condition.tests = tests

theorem composedSide_test (style : Style) (test : Test) :
    ComposedSide style (test.write style) [test] := by
  refine ⟨[.test test], .single test, ?_, fills_test test, rfl, rfl⟩
  rw [Token.writeAll, List.map_singleton, String.join_cons, String.join_nil, String.append_empty]
  rfl

theorem ComposedSide.composed (side : ComposedSide style text tests) :
    Composed style connective text tests := by
  obtain ⟨tokens, condition, written, fills, found⟩ := side
  exact ⟨tokens, condition, written, fills.finishes, found⟩

theorem Composed.enclose (composed : Composed style connective text tests) :
    ComposedSide style ("(" ++ text ++ ")") tests := by
  obtain ⟨tokens, condition, rfl, finishes, found, listed⟩ := composed
  refine ⟨_, condition, ?_, finishes.enclose, ?_, listed⟩
  · rw [List.cons_append, ← List.singleton_append, Token.writeAll_append, Token.writeAll_append,
      ← String.append_assoc]
    rfl
  · rw [← found, List.filterMap_append]
    exact List.append_nil _

/-- One more side has its tests behind the others. -/
theorem Composed.extend (composed : Composed style connective text tests)
    (side : ComposedSide style part more) :
    Composed style connective (text ++ (" " ++ connective.keyword ++ " ") ++ part)
      (tests ++ more) := by
  obtain ⟨tokens, first, rfl, finishes, found, listed⟩ := composed
  obtain ⟨further, second, rfl, fills, found', listed'⟩ := side
  refine ⟨_, _, ?_, finishes.extend fills, ?_, ?_⟩
  · rw [Token.writeAll_append, Token.writeAll, Token.writeAll, Token.writeAll, List.map_cons,
      String.join_cons, String.append_assoc]
    rfl
  · rw [List.filterMap_append, found, ← found']
    rfl
  · rw [← listed, ← listed']
    cases connective <;> rfl

theorem Composed.separate {parts : List String} {others : List (List Test)}
    (composed : Composed style connective text tests)
    (sides : List.Forall₂ (ComposedSide style) parts others) :
    Composed style connective (NormalForm.separate connective (text :: parts))
      (tests ++ others.flatten) := by
  induction sides generalizing text tests with
  | nil => simpa [NormalForm.separate] using composed
  | @cons part more parts others side _ ih =>
    rw [NormalForm.separate_cons_cons, List.flatten_cons, ← List.append_assoc]
    exact ih (composed.extend side)

/-- **The sides of a group have their tests one behind the other.** -/
theorem composed_separate {parts : List String} {tests : List (List Test)} (inhabited : parts ≠ [])
    (sides : List.Forall₂ (ComposedSide style) parts tests) :
    Composed style connective (NormalForm.separate connective parts) tests.flatten := by
  cases sides with
  | nil => exact absurd rfl inhabited
  | cons first others => exact first.composed.separate others

end Condition

namespace NormalForm

open Condition

variable {style : Style}

theorem atoms_ne_nil {form : NormalForm} (proper : form.Proper) : form.atoms ≠ [] := by
  induction proper with
  | leaf connective inhabited => exact inhabited
  | @branch connective parts several _ ih =>
    cases parts with
    | nil => cases several
    | cons part rest =>
      rw [NormalForm.atoms, atomsOf]
      exact List.append_ne_nil_of_left_ne_nil (ih part List.mem_cons_self) _

theorem composedSide_printAtoms (number : Nat) (atoms : List Atom) :
    List.Forall₂ (ComposedSide style) (printAtoms style number atoms)
      ((Atom.tests style number atoms).map ([·])) := by
  induction atoms generalizing number with
  | nil => exact .nil
  | cons atom rest ih =>
    rw [printAtoms, Atom.tests_cons, List.map_cons, ← atom.write_test]
    exact .cons (composedSide_test style _) (ih (number + 1))

/-- Parts in parentheses are made of the tests of the parts. -/
theorem composedSide_printParts {parts : List NormalForm}
    (composed : ∀ part ∈ parts, ∀ number, ∃ connective,
      Composed style connective (part.print style number) (Atom.tests style number part.atoms))
    (number : Nat) :
    ∃ tests, List.Forall₂ (ComposedSide style) (printParts style number parts) tests ∧
      tests.flatten = Atom.tests style number (atomsOf parts) := by
  induction parts generalizing number with
  | nil => exact ⟨[], .nil, rfl⟩
  | cons part rest ih =>
    rw [List.forall_mem_cons] at composed
    obtain ⟨connective, inner⟩ := composed.1 number
    obtain ⟨tests, sides, whole⟩ := ih composed.2 (number + part.atoms.length)
    refine ⟨_ :: tests, .cons inner.enclose sides, ?_⟩
    rw [List.flatten_cons, whole, atomsOf, Atom.tests_append]

/-- **A printed normal form is made of its tests**, numbered from left to right. -/
theorem composed {form : NormalForm} (proper : form.Proper) (number : Nat) :
    ∃ connective,
      Composed style connective (form.print style number) (Atom.tests style number form.atoms) := by
  induction proper generalizing number with
  | @leaf connective atoms inhabited =>
    have sides : List.Forall₂ (ComposedSide style) _ _ := composedSide_printAtoms number atoms
    have some : printAtoms style number atoms ≠ [] := by
      cases atoms with
      | nil => exact absurd rfl inhabited
      | cons atom rest => exact List.cons_ne_nil _ _
    have whole : Composed style connective _ _ := composed_separate some sides
    refine ⟨connective, ?_⟩
    rw [print, NormalForm.atoms]
    simpa [← List.flatMap_def] using whole
  | @branch connective parts several _ ih =>
    obtain ⟨tests, sides, whole⟩ := composedSide_printParts ih number
    have some : printParts style number parts ≠ [] := by
      cases parts with
      | nil => cases several
      | cons part rest => exact List.cons_ne_nil _ _
    refine ⟨connective, ?_⟩
    rw [print, NormalForm.atoms, ← whole]
    exact composed_separate some sides

/-- Every comparison is beside the name of its number. -/
theorem mem_bindings (style : Style) {atoms : List Atom} {place : Nat} {atom : Atom}
    (found : atoms[place]? = some atom) (number : Nat) :
    (style.parameter (number + place), atom.value) ∈ bindings style number atoms := by
  induction atoms generalizing place number with
  | nil => cases found
  | cons first rest ih =>
    cases place with
    | zero =>
      cases found
      exact List.mem_cons_self
    | succ place =>
      have later := ih (by simpa using found) (number + 1)
      rw [Nat.add_assoc, Nat.add_comm 1] at later
      exact List.mem_cons_of_mem _ later

end NormalForm

theorem Atom.map_parameter_tests (style : Style) (number : Nat) (atoms : List Atom) :
    (tests style number atoms).map (·.parameter) =
      (List.range' number atoms.length).map style.parameter := by
  induction atoms generalizing number with
  | nil => rfl
  | cons atom rest ih =>
    rw [tests_cons, List.map_cons, ih, List.length_cons, List.range'_succ]
    rfl

namespace Filter

open NormalForm

/-- **A filter that is not refused compiles to its comparisons**, in a text that is made of their
tests. -/
theorem exists_tokens_of_compile (style : Style) {filter : Filter}
    (inhabited : filter.isEmpty = false) :
    ∃ tokens,
      (filter.compile style).1 =
        .ok ⟨Token.writeAll style tokens, ⟨bindings style 0 filter.leaves⟩⟩ ∧
      tokens.filterMap Token.test? = Atom.tests style 0 filter.leaves ∧
      (filter.leaves = [] → tokens = []) ∧
      (filter.leaves ≠ [] → ∃ condition, Condition.ofTokens? tokens = some condition ∧
        condition.tests = Atom.tests style 0 filter.leaves) := by
  have made := atomsOf_normalForm? filter
  cases normal : filter.normalForm? with
  | none =>
    rw [normal, Option.toList_none, atomsOf] at made
    obtain ⟨clause, compiled⟩ : ∃ clause, (filter.compile style).1 = .ok clause := by
      rw [compile, inhabited]
      exact ⟨_, rfl⟩
    obtain rfl := compile_of_normalForm?_eq_none normal compiled
    rw [← made]
    exact ⟨[], compiled, rfl, fun _ => rfl, fun some => absurd rfl some⟩
  | some form =>
    rw [normal, Option.toList_some, atomsOf, atomsOf, List.append_nil] at made
    have proper := proper_of_normalForm? filter form normal
    obtain ⟨connective, tokens, condition, written, finishes, found, listed⟩ :
        ∃ connective, Condition.Composed style connective _ _ := composed proper 0
    rw [compile_of_normalForm?_eq_some normal, clause, written, ← made]
    exact ⟨tokens, rfl, found, fun none => absurd none (atoms_ne_nil proper),
      fun _ => ⟨condition, finishes.ofTokens?, listed⟩⟩

/-- Only a filter without anything in it is refused. -/
theorem compile_eq_error_iff {style : Style} {filter : Filter} {error : Error} :
    (filter.compile style).1 = .error error ↔ filter.isEmpty = true ∧ error = .emptyFilter := by
  rw [compile]
  split
  · rename_i empty
    rw [Except.error.injEq, eq_comm, and_iff_right empty]
  · rename_i inhabited
    exact ⟨fun refused => (by cases refused), fun refused => absurd refused.1 inhabited⟩

theorem isEmpty_of_compile {style : Style} {filter : Filter} {clause : Clause}
    (compiled : (filter.compile style).1 = .ok clause) : filter.isEmpty = false := by
  rw [← Bool.not_eq_true]
  intro empty
  rw [compile_eq_error_iff.mpr ⟨empty, rfl⟩] at compiled
  cases compiled

/-- **The values of a compiled filter** go by distinct names, and there are none without a text. -/
theorem params_of_compile {style : Style} {filter : Filter} {clause : Clause}
    (compiled : (filter.compile style).1 = .ok clause) :
    clause.params.names.Nodup ∧ (clause.sql = "" → clause.params = .empty) := by
  obtain ⟨tokens, written, found, _⟩ := exists_tokens_of_compile style (isEmpty_of_compile compiled)
  rw [written] at compiled
  cases compiled
  refine ⟨nodup_names_bindings style 0 filter.leaves, fun nothing => ?_⟩
  rw [Token.writeAll_eq_empty_iff.mp nothing] at found
  have untested : filter.leaves = [] := by simpa [Atom.tests] using found.symm
  rw [untested]
  rfl

/-- **The parameters of a compiled filter are its comparisons**, from left to right. For every
comparison the text has one test with the parameter of its number, and no others; the value of the
comparison is bound to the name of that parameter, and nothing else is bound. The text is empty
where there is no comparison. Only a filter without items, groups and connective is refused. -/
theorem parameters_of_compile (style : Style) (filter : Filter) :
    (filter.isEmpty = true →
      (filter.compile style).1 = .error .emptyFilter ∧
        Error.emptyFilter.kind = .invalidArgument) ∧
    (filter.isEmpty = false → ∃ clause tokens, (filter.compile style).1 = .ok clause ∧
      clause.params.names = (List.range filter.leaves.length).map style.parameter ∧
      clause.params.names.Nodup ∧
      (∀ number atom, filter.leaves[number]? = some atom →
        clause.params.get? (style.parameter number) = some atom.value) ∧
      clause.sql = Token.writeAll style tokens ∧
      tokens.filterMap Token.test? = Atom.tests style 0 filter.leaves ∧
      (tokens.filterMap Token.test?).map (·.parameter) = clause.params.names ∧
      (clause.sql = "" ↔ filter.leaves = []) ∧
      (filter.leaves ≠ [] → ∃ condition, Condition.ofTokens? tokens = some condition ∧
        condition.tests = tokens.filterMap Token.test?)) ∧
    ∀ number (atom : Atom), Token.write style (.test (atom.test style number)) =
      style.field atom.table atom.field ++ " " ++ atom.comparison.symbol ++ " @" ++
        (style.stem ++ toString number) := by
  refine ⟨fun empty => ⟨by rw [compile, if_pos empty], rfl⟩, fun inhabited => ?_,
    fun number atom => ?_⟩
  · obtain ⟨tokens, compiled, found, none, some⟩ := exists_tokens_of_compile style inhabited
    have names : (bindings style 0 filter.leaves).map (·.1) =
        (List.range filter.leaves.length).map style.parameter := by
      rw [names_bindings, List.range_eq_range']
    refine ⟨_, tokens, compiled, names, ?_, fun number atom listed => ?_, rfl, found, ?_, ?_, ?_⟩
    · rw [Params.names, names]
      exact List.Nodup.map style.parameter_injective List.nodup_range
    · have bound := mem_bindings style listed 0
      rw [Nat.zero_add] at bound
      exact binds_bindings style 0 filter.leaves _ bound
    · rw [found, Atom.map_parameter_tests, Params.names, names_bindings]
    · rw [Token.writeAll_eq_empty_iff]
      refine ⟨fun nothing => ?_, none⟩
      rw [nothing] at found
      simpa [Atom.tests] using found.symm
    · rw [found]
      exact some
  · cases style with
    | mk dialect stem quoteFields =>
      cases dialect <;> simp [Token.write, Atom.write_test, Style.test, Style.parameter,
        Dialect.parameterMark, String.append_assoc]

/-- A stem that looks like a condition and fields without marks around them do not get in the way of
the parameters. -/
theorem parameters_of_tangled :
    (⟨none, [], [], some "t"⟩ : Filter).isEmpty = true ∧
      ((⟨none, [], [], some "t"⟩ : Filter).compile ⟨.postgreSql, "p OR 1", false⟩).1 =
        .error .emptyFilter ∧
      tangled.isEmpty = false ∧
      ∃ clause tokens, (tangled.compile ⟨.postgreSql, "p OR 1", false⟩).1 = .ok clause ∧
        clause.params.names = ["p OR 10", "p OR 11", "p OR 12", "p OR 13", "p OR 14", "p OR 15",
          "p OR 16"] ∧
        clause.params.get? "p OR 12" = some (.boolean true) ∧
        clause.sql = Token.writeAll ⟨.postgreSql, "p OR 1", false⟩ tokens ∧
        (tokens.filterMap Token.test?).map (·.field) =
          ["a]b", " AND ", "[x] OR (", ")", "@p", "", "c"] := by
  have inhabited : tangled.isEmpty = false := rfl
  have refused := (parameters_of_compile ⟨.postgreSql, "p OR 1", false⟩
    ⟨none, [], [], some "t"⟩).1 rfl
  obtain ⟨clause, tokens, compiled, names, _, bound, written, found, _⟩ :=
    (parameters_of_compile ⟨.postgreSql, "p OR 1", false⟩ tangled).2.1 inhabited
  refine ⟨rfl, refused.1, inhabited, clause, tokens, compiled, names.trans ?_,
    bound 2 ⟨none, "[x] OR (", .less, .boolean true⟩ rfl, written, ?_⟩
  · decide +kernel
  · rw [found]
    decide +kernel

end Filter

end PathQuery
