/-
**Normal forms of filters.**

The normal form of a filter holds only what counts: the comparisons, and the groups that join more
than one part. A group of groups that is left with a single one is that one. A filter without a
normal form is inert.

* `Filter.normalForm?`: the normal form of a filter.
* `NormalForm.print`: a normal form as a condition. Nothing has to be left out, so the number of a
  parameter is known from how many comparisons stand before it.
-/

import PathQuery.Filter.Compile
import PathQuery.Filter.Meaning

namespace PathQuery

/-- A filter of which everything counts. -/
inductive NormalForm where
  | leaf (connective : Connective) (atoms : List Atom)
  | branch (connective : Connective) (parts : List NormalForm)

namespace NormalForm

mutual

/-- The comparisons, from left to right. -/
def atoms : NormalForm → List Atom
  | leaf _ atoms => atoms
  | branch _ parts => atomsOf parts

/-- The comparisons of parts, from left to right. -/
def atomsOf : List NormalForm → List Atom
  | [] => []
  | part :: rest => part.atoms ++ atomsOf rest

end

/-- Comparisons as they are written, with parameters from this number on. -/
def printAtoms (style : Style) (number : Nat) : List Atom → List String
  | [] => []
  | atom :: rest =>
    style.test atom.table atom.field atom.comparison (style.parameter number) ::
      printAtoms style (number + 1) rest

/-- Parts with the word of the connective between them. -/
def separate (connective : Connective) (parts : List String) : String :=
  (" " ++ connective.keyword ++ " ").intercalate parts

mutual

/-- A normal form as it is written, with parameters from this number on. -/
def print (style : Style) (number : Nat) : NormalForm → String
  | leaf connective atoms => separate connective (printAtoms style number atoms)
  | branch connective parts => separate connective (printParts style number parts)

/-- Parts in parentheses, each with parameters from where the one before it stopped. -/
def printParts (style : Style) (number : Nat) : List NormalForm → List String
  | [] => []
  | part :: rest =>
    ("(" ++ part.print style number ++ ")") ::
      printParts style (number + part.atoms.length) rest

end

/-- The values of comparisons, bound to parameters from this number on. -/
def bindings (style : Style) (number : Nat) : List Atom → List (String × Value)
  | [] => []
  | atom :: rest => (style.parameter number, atom.value) :: bindings style (number + 1) rest

/-- A normal form as a condition with the values of its parameters. -/
def clause (style : Style) (form : NormalForm) : Clause :=
  ⟨form.print style 0, ⟨bindings style 0 form.atoms⟩⟩

end NormalForm

namespace Filter

/-- A group of these parts. There is no group of no parts, and one of a single part is that
part. -/
def branch? (connective : Connective) : List NormalForm → Option NormalForm
  | [] => none
  | [part] => some part
  | parts => some (.branch connective parts)

mutual

/-- The normal form of a group, unless it is inert. -/
def normalForm? : Filter → Option NormalForm
  | ⟨none, _, _, _⟩ => none
  | ⟨some connective, items, groups, table⟩ =>
    if groups.isEmpty then
      if (atoms table items).isEmpty then none else some (.leaf connective (atoms table items))
    else branch? connective (normalForms groups)

/-- The normal forms of the groups that have one. -/
def normalForms : List Filter → List NormalForm
  | [] => []
  | group :: rest => (normalForm? group).toList ++ normalForms rest

end

end Filter

end PathQuery
