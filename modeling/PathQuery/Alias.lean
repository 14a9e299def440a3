/-
**Aliases of joined tables.**

A table's name is cut into words, the first three letters of every word make its stem, and the
stem with a number is an alias. `RightTable` has the aliases `RigTab1`, `RigTab2`, and so on.

A word ends where a capital follows a small letter, before the last capital of a run that goes on
in small letters (`HTTPServer` is `HTTP` and `Server`), and at everything that is no letter.

* `flatten_cutWords`: the words side by side are the letters of the name.
* `cutWords_eq_nil_iff`: only a name without letters has no words.
* `numbered_injective`: aliases of one stem differ as their numbers do.
* `Alias.isSome_firstFree?`: among one candidate more than there are joins, one is free.
-/

import PathQuery.Join
import PathQuery.Text.Letter

namespace PathQuery

open Text

/-- Whether a word ends between two letters, given the character after them. -/
def endsWord (before after : Char) (next : Option Char) : Bool :=
  isLower before && isUpper after ||
    isUpper before && isUpper after && next.any isLower

/-- The words of a name, each a run of its letters. -/
def cutWords : List Char → List (List Char)
  | [] => []
  | [c] => if isLetter c then [[c]] else []
  | c :: d :: rest =>
    if !isLetter c then cutWords (d :: rest)
    else if !isLetter d || endsWord c d rest.head? then [c] :: cutWords (d :: rest)
    else (cutWords (d :: rest)).modifyHead (c :: ·)

theorem head_cutWords {c : Char} (letter : isLetter c = true) (rest : List Char) :
    ∃ word others, cutWords (c :: rest) = (c :: word) :: others := by
  induction rest generalizing c with
  | nil => exact ⟨[], [], by simp [cutWords, letter]⟩
  | cons d rest ih =>
    by_cases next : isLetter d = true
    · obtain ⟨word, others, cut⟩ := ih next
      by_cases ends : endsWord c d rest.head? = true
      · exact ⟨[], cutWords (d :: rest), by simp [cutWords, letter, ends]⟩
      · exact ⟨d :: word, others, by simp [cutWords, letter, next, ends, cut]⟩
    · exact ⟨[], cutWords (d :: rest), by simp [cutWords, letter, next]⟩

theorem flatten_cutWords (name : List Char) : (cutWords name).flatten = name.filter isLetter := by
  fun_induction cutWords name with
  | case1 => rfl
  | case2 c letter => simp [letter]
  | case3 c other => simp [other]
  | case4 c d rest other ih => simp_all
  | case5 c d rest letter ends ih => simp_all
  | case6 c d rest letter joins ih =>
    have next : isLetter d = true := by simp_all
    obtain ⟨word, others, cut⟩ := head_cutWords next rest
    rw [cut] at ih ⊢
    simp_all

theorem ne_nil_of_mem_cutWords {name word : List Char} (member : word ∈ cutWords name) :
    word ≠ [] := by
  fun_induction cutWords name with
  | case1 => simp at member
  | case2 c letter => simp_all
  | case3 c other => simp at member
  | case4 c d rest other ih => exact ih member
  | case5 c d rest letter ends ih =>
    rcases List.mem_cons.mp member with rfl | later
    · simp
    · exact ih later
  | case6 c d rest letter joins ih =>
    have next : isLetter d = true := by simp_all
    obtain ⟨first, others, cut⟩ := head_cutWords next rest
    rw [cut] at ih member
    rcases List.mem_cons.mp (by simpa using member) with rfl | later
    · simp
    · exact ih (List.mem_cons_of_mem _ later)

theorem cutWords_eq_nil_iff {name : List Char} :
    cutWords name = [] ↔ name.any isLetter = false := by
  have letters := flatten_cutWords name
  constructor
  · intro none
    rw [none] at letters
    simpa [List.filter_eq_nil_iff] using letters.symm
  · intro none
    rw [List.eq_nil_iff_forall_not_mem]
    intro word member
    have empty : (cutWords name).flatten = [] := by
      rw [letters, List.filter_eq_nil_iff]
      simpa using none
    exact ne_nil_of_mem_cutWords member (List.flatten_eq_nil_iff.mp empty word member)

/-- The words of a table's name. -/
def words (name : String) : List String := (cutWords name.toList).map String.ofList

/-- The first three letters of every word; a name without words has no stem. -/
def stem? (name : String) : Option String :=
  match cutWords name.toList with
  | [] => none
  | first :: others => some (String.ofList ((first :: others).flatMap (·.take 3)))

namespace Alias

/-- The alias with this number. -/
def numbered (stem : String) (number : Nat) : String := stem ++ toString number

/-- Whether a join goes by this alias. -/
def taken (joins : List Join) (name : String) : Bool := joins.any (·.name == name)

/-- The least number from `first` on whose alias is free, among one candidate more than there are
joins. -/
def firstFree? (stem : String) (joins : List Join) (first : Nat) : Option Nat :=
  (List.range' first (joins.length + 1)).find? fun number => !taken joins (numbered stem number)

/-- An alias for one more join to this table. Counting starts behind the joins that the table
already has, and goes on while another table holds the alias. -/
def allocate? (table : String) (joins : List Join) : Option String := do
  let stem ← stem? table
  let number ← firstFree? stem joins (joins.countP (·.rightTable == table) + 1)
  return numbered stem number

theorem numbered_injective {stem : String} {first second : Nat}
    (same : numbered stem first = numbered stem second) : first = second := by
  have digits := congrArg String.toList same
  simp only [numbered, String.toList_append] at digits
  have equal := congrArg (fun text => Nat.ofDigitChars 10 text 0) (List.append_cancel_left digits)
  simpa [Nat.toString_eq_ofList_toDigits] using equal

/-- Distinct candidates that are all taken are no more than the joins. -/
theorem length_le_of_taken {stem : String} (joins : List Join) (numbers : List Nat)
    (distinct : numbers.Nodup)
    (all : ∀ number ∈ numbers, taken joins (numbered stem number) = true) :
    numbers.length ≤ joins.length := by
  have aliases : (numbers.map (numbered stem)).Nodup :=
    List.Pairwise.map _ (fun _ _ other same => other (numbered_injective same)) distinct
  have within : ∀ name ∈ numbers.map (numbered stem), name ∈ joins.map (·.name) := by
    intro name member
    obtain ⟨number, listed, rfl⟩ := List.mem_map.mp member
    simpa [taken] using all number listed
  simpa using aliases.length_le_of_subset within

theorem isSome_firstFree? (stem : String) (joins : List Join) (first : Nat) :
    (firstFree? stem joins first).isSome = true := by
  rw [Option.isSome_iff_ne_none]
  intro absent
  have all := List.find?_eq_none.mp absent
  have bound : (List.range' first (joins.length + 1)).length ≤ joins.length :=
    length_le_of_taken joins _ (List.nodup_range' 1)
      (fun number listed => by simpa using all number listed)
  rw [List.length_range'] at bound
  omega

end Alias

end PathQuery
