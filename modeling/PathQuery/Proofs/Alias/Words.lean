/-
**Where words of a name begin and end.**

The letters of a name belong to its words, in the order in which both stand (`wordAt?`). A word goes
on behind a letter when another letter comes next and the two are no boundary; this is the only
question that cutting asks (`goesOn`), and everything is proved along its three answers:

* `cutWords_of_not_isLetter`, `cutWords_of_ends`, `cutWords_of_goesOn`: what a first character does
  to the words of what follows it;
* `isSome_wordAt?`: the letters, and nothing else, belong to words;
* `exists_span`: a word is a piece of its name, and its place is where it stands;
* `wordAt?_eq_next_iff`: neighbouring letters are in one word unless there is a boundary;
* `cutWords_of_mem`: a word is its own only word;
* `words_at_boundaries`: names are cut into words at these boundaries and nowhere else.
-/

import PathQuery.Alias

namespace PathQuery

open Text

/-- Whether the word of a letter goes on behind it. -/
def goesOn (c : Char) : List Char → Bool
  | [] => false
  | d :: rest => isLetter d && !endsWord c d rest.head?

/-- For each letter of words side by side, the number of its word. -/
def wordNumbers : List (List Char) → List Nat
  | [] => []
  | word :: others => List.replicate word.length 0 ++ (wordNumbers others).map (· + 1)

/-- The number of the word that the character at a place of a name belongs to, unless it is no
letter. The words hold as many letters in front of it as the name does. -/
def wordAt? (name : List Char) (place : Nat) : Option Nat :=
  if name[place]?.any isLetter then
    (wordNumbers (cutWords name))[(name.take place).countP isLetter]?
  else none

/-! ### What a first character does -/

section First

variable {c : Char} {rest : List Char}

theorem goesOn_cons (d : Char) (rest : List Char) :
    goesOn c (d :: rest) = true ↔ isLetter d = true ∧ ¬ endsWord c d rest.head? = true := by
  simp [goesOn]

/-- A word goes on only before a letter. -/
theorem exists_of_goesOn (goes : goesOn c rest = true) :
    ∃ d others, rest = d :: others ∧ isLetter d = true := by
  cases rest with
  | nil => cases goes
  | cons d others => exact ⟨d, others, rfl, ((goesOn_cons d others).mp goes).1⟩

/-- **A word goes on in a piece as it does in its name**: where the piece ends, there is no small
letter to make a boundary. -/
theorem goesOn_of_piece {front : List Char} (inhabited : front ≠ []) (piece : front <+: rest)
    (goes : goesOn c rest = true) : goesOn c front = true := by
  obtain ⟨d, front, rfl⟩ := List.exists_cons_of_ne_nil inhabited
  obtain ⟨behind, rfl⟩ := piece
  rw [List.cons_append] at goes
  obtain ⟨letter, joins⟩ := (goesOn_cons d _).mp goes
  refine (goesOn_cons d front).mpr ⟨letter, fun ends => joins ?_⟩
  cases front with
  | nil =>
    have small : (isLower c && isUpper d) = true := by simpa [endsWord] using ends
    rw [endsWord, small]
    rfl
  | cons next front => exact ends

theorem cutWords_of_not_isLetter (other : ¬ isLetter c = true) :
    cutWords (c :: rest) = cutWords rest := by
  cases rest with
  | nil => simp [cutWords, other]
  | cons d rest => simp [cutWords, other]

/-- **A word that does not go on is a single letter.** -/
theorem cutWords_of_ends (letter : isLetter c = true) (ends : ¬ goesOn c rest = true) :
    cutWords (c :: rest) = [c] :: cutWords rest := by
  cases rest with
  | nil => simp [cutWords, letter]
  | cons d rest =>
    have boundary : (!isLetter d || endsWord c d rest.head?) = true := by
      simpa [goesOn, Classical.or_iff_not_imp_left] using ends
    rw [cutWords, letter, boundary]
    rfl

/-- **A word that goes on is the next one with the letter in front of it.** -/
theorem cutWords_of_goesOn (letter : isLetter c = true) (goes : goesOn c rest = true) :
    ∃ word others, cutWords rest = word :: others ∧ word ≠ [] ∧ word <+: rest ∧
      cutWords (c :: rest) = (c :: word) :: others := by
  induction rest generalizing c with
  | nil => cases goes
  | cons d rest ih =>
    obtain ⟨next, joins⟩ := (goesOn_cons d rest).mp goes
    have step : cutWords (c :: d :: rest) = (cutWords (d :: rest)).modifyHead (c :: ·) := by
      simp [cutWords, letter, next, joins]
    by_cases more : goesOn d rest = true
    · obtain ⟨word, others, _, _, front, cut⟩ := ih next more
      refine ⟨d :: word, others, cut, List.cons_ne_nil _ _, ?_, ?_⟩
      · exact List.cons_prefix_cons.mpr ⟨rfl, front⟩
      · rw [step, cut, List.modifyHead_cons]
    · have cut := cutWords_of_ends next more
      refine ⟨[d], cutWords rest, cut, List.cons_ne_nil _ _, ?_, ?_⟩
      · exact List.cons_prefix_cons.mpr ⟨rfl, List.nil_prefix⟩
      · rw [step, cut, List.modifyHead_cons]

/-! ### The word of a place -/

theorem wordAt?_of_not_isLetter (other : ¬ isLetter c = true) (place : Nat) :
    wordAt? (c :: rest) (place + 1) = wordAt? rest place := by
  unfold wordAt?
  rw [cutWords_of_not_isLetter other, List.getElem?_cons_succ, List.take_succ_cons,
    List.countP_cons_of_neg other]

theorem wordAt?_zero_of_isLetter (letter : isLetter c = true) : wordAt? (c :: rest) 0 = some 0 := by
  obtain ⟨word, others, cut⟩ := head_cutWords letter rest
  unfold wordAt?
  rw [cut]
  simp [letter, wordNumbers, List.replicate_succ]

theorem wordAt?_of_ends (letter : isLetter c = true) (ends : ¬ goesOn c rest = true)
    (place : Nat) : wordAt? (c :: rest) (place + 1) = (wordAt? rest place).map (· + 1) := by
  unfold wordAt?
  rw [cutWords_of_ends letter ends, List.getElem?_cons_succ, List.take_succ_cons,
    List.countP_cons_of_pos letter]
  split
  · rw [wordNumbers, List.length_singleton, List.replicate_one, List.singleton_append,
      List.getElem?_cons_succ, List.getElem?_map]
  · rfl

theorem wordAt?_of_goesOn (letter : isLetter c = true) (goes : goesOn c rest = true)
    (place : Nat) : wordAt? (c :: rest) (place + 1) = wordAt? rest place := by
  obtain ⟨word, others, cut, _, _, longer⟩ := cutWords_of_goesOn letter goes
  unfold wordAt?
  rw [longer, cut, List.getElem?_cons_succ, List.take_succ_cons, List.countP_cons_of_pos letter]
  split
  · rw [wordNumbers, wordNumbers, List.length_cons, List.replicate_succ, List.cons_append,
      List.getElem?_cons_succ]
  · rfl

end First

/-! ### Letters and words -/

/-- **The letters, and nothing else, belong to words.** -/
theorem isSome_wordAt? (name : List Char) (place : Nat) :
    (wordAt? name place).isSome = name[place]?.any isLetter := by
  induction name generalizing place with
  | nil => rfl
  | cons c rest ih =>
    by_cases letter : isLetter c = true
    · cases place with
      | zero => simp [wordAt?_zero_of_isLetter letter, letter]
      | succ place =>
        rw [List.getElem?_cons_succ, ← ih]
        by_cases goes : goesOn c rest = true
        · rw [wordAt?_of_goesOn letter goes]
        · rw [wordAt?_of_ends letter goes, Option.isSome_map]
    · cases place with
      | zero => simp [wordAt?, letter]
      | succ place => rw [List.getElem?_cons_succ, ← ih, wordAt?_of_not_isLetter letter]

theorem lt_of_mem_wordNumbers {words : List (List Char)} {number : Nat}
    (member : number ∈ wordNumbers words) : number < words.length := by
  induction words generalizing number with
  | nil => cases member
  | cons word others ih =>
    rw [List.length_cons]
    rcases List.mem_append.mp member with first | later
    · rw [(List.mem_replicate.mp first).2]
      exact Nat.zero_lt_succ _
    · obtain ⟨before, listed, rfl⟩ := List.mem_map.mp later
      exact Nat.succ_lt_succ (ih listed)

/-- The number of a place is the number of a word. -/
theorem exists_word_of_wordAt? {name : List Char} {place number : Nat}
    (found : wordAt? name place = some number) : ∃ word, (cutWords name)[number]? = some word := by
  unfold wordAt? at found
  split at found
  · have bound := lt_of_mem_wordNumbers (List.mem_of_getElem? found)
    exact ⟨_, List.getElem?_eq_getElem bound⟩
  · cases found

/-! ### Words as pieces of a name -/

/-- **The places that belong to a word** are those of a piece of the name. -/
def Spans (name : List Char) (number start length : Nat) : Prop :=
  ∀ place, wordAt? name place = some number ↔ start ≤ place ∧ place < start + length

/-- A piece stands one place further on behind a character that is not of its word. -/
theorem Spans.behind {c : Char} {rest : List Char} {number before start length : Nat}
    (spans : Spans rest before start length) (other : wordAt? (c :: rest) 0 ≠ some number)
    (moved : ∀ place,
      wordAt? (c :: rest) (place + 1) = some number ↔ wordAt? rest place = some before) :
    Spans (c :: rest) number (start + 1) length := by
  intro place
  cases place with
  | zero => simp [other]
  | succ place =>
    rw [moved, spans]
    omega

/-- A piece at the start of what follows a letter of its word takes the letter in. -/
theorem Spans.extend {c : Char} {rest : List Char} {length : Nat} (letter : isLetter c = true)
    (goes : goesOn c rest = true) (spans : Spans rest 0 0 length) :
    Spans (c :: rest) 0 0 (length + 1) := by
  intro place
  cases place with
  | zero => simp [wordAt?_zero_of_isLetter letter]
  | succ place =>
    rw [wordAt?_of_goesOn letter goes, spans]
    omega

/-- **A word is a piece of its name.** -/
theorem exists_span {name word : List Char} {number : Nat}
    (listed : (cutWords name)[number]? = some word) :
    ∃ start, (name.drop start).take word.length = word ∧
      Spans name number start word.length := by
  induction name generalizing word number with
  | nil => cases listed
  | cons c rest ih =>
    by_cases letter : isLetter c = true
    · have zero : wordAt? (c :: rest) 0 = some 0 := wordAt?_zero_of_isLetter letter
      by_cases goes : goesOn c rest = true
      · obtain ⟨first, others, cut, _, _, longer⟩ := cutWords_of_goesOn letter goes
        rw [longer] at listed
        rw [cut] at ih
        cases number with
        | zero =>
          obtain rfl : c :: first = word := Option.some.inj listed
          obtain ⟨start, piece, spans⟩ := @ih first 0 rfl
          -- What follows starts with a letter, so its first word starts there.
          obtain ⟨d, behind, rfl, next⟩ := exists_of_goesOn goes
          have here := (spans 0).mp (wordAt?_zero_of_isLetter next)
          obtain rfl : start = 0 := Nat.le_zero.mp here.1
          refine ⟨0, ?_, spans.extend letter goes⟩
          rw [List.drop_zero] at piece ⊢
          rw [List.length_cons, List.take_succ_cons, piece]
        | succ number =>
          obtain ⟨start, piece, spans⟩ := @ih word (number + 1) listed
          refine ⟨start + 1, piece, spans.behind (by simp [zero]) fun place => ?_⟩
          rw [wordAt?_of_goesOn letter goes]
      · rw [cutWords_of_ends letter goes] at listed
        cases number with
        | zero =>
          obtain rfl : [c] = word := Option.some.inj listed
          refine ⟨0, rfl, fun place => ?_⟩
          cases place with
          | zero => simp [zero]
          | succ place => simp [wordAt?_of_ends letter goes]
        | succ number =>
          obtain ⟨start, piece, spans⟩ := @ih word number listed
          refine ⟨start + 1, piece, spans.behind (by simp [zero]) fun place => ?_⟩
          simp [wordAt?_of_ends letter goes]
    · rw [cutWords_of_not_isLetter letter] at listed
      obtain ⟨start, piece, spans⟩ := ih listed
      refine ⟨start + 1, piece, spans.behind (by simp [wordAt?, letter]) fun place => ?_⟩
      rw [wordAt?_of_not_isLetter letter]

/-- **What is no letter parts words.** -/
theorem wordAt?_ne_of_between {name : List Char} {first between second : Nat}
    (after : first < between) (before : between < second)
    (letter : name[first]?.any isLetter = true) (other : ¬ name[between]?.any isLetter = true) :
    wordAt? name first ≠ wordAt? name second := by
  intro same
  rw [← isSome_wordAt?] at letter other
  obtain ⟨number, found⟩ := Option.isSome_iff_exists.mp letter
  obtain ⟨word, listed⟩ := exists_word_of_wordAt? found
  obtain ⟨start, _, spans⟩ := exists_span listed
  have left := (spans first).mp found
  have right := (spans second).mp (same.symm.trans found)
  have inside : wordAt? name between = some number := (spans between).mpr ⟨by omega, by omega⟩
  rw [inside] at other
  exact other rfl

/-! ### Boundaries -/

/-- **Neighbouring letters are in one word unless there is a boundary between them.** -/
theorem wordAt?_eq_next_iff {name : List Char} {place : Nat} {c d : Char}
    (first : name[place]? = some c) (second : name[place + 1]? = some d)
    (letter : isLetter c = true) (next : isLetter d = true) :
    wordAt? name place = wordAt? name (place + 1) ↔ ¬ endsWord c d name[place + 2]? = true := by
  induction name generalizing place with
  | nil => cases first
  | cons a rest ih =>
    cases place with
    | zero =>
      obtain rfl : a = c := Option.some.inj first
      rw [List.getElem?_cons_succ] at second
      obtain ⟨rest, rfl⟩ : ∃ others, rest = d :: others := by
        cases rest with
        | nil => cases second
        | cons b others => exact ⟨others, by rw [Option.some.inj second]⟩
      have head : (a :: d :: rest)[0 + 2]? = rest.head? := by
        rw [List.head?_eq_getElem?]
        rfl
      rw [wordAt?_zero_of_isLetter letter, head]
      by_cases goes : goesOn a (d :: rest) = true
      · rw [wordAt?_of_goesOn letter goes, wordAt?_zero_of_isLetter next]
        exact iff_of_true rfl ((goesOn_cons d rest).mp goes).2
      · rw [wordAt?_of_ends letter goes, wordAt?_zero_of_isLetter next]
        refine iff_of_false (by simp) fun joins => goes ?_
        exact (goesOn_cons d rest).mpr ⟨next, joins⟩
    | succ place =>
      rw [List.getElem?_cons_succ] at first second ⊢
      rw [← ih first second]
      by_cases front : isLetter a = true
      · by_cases goes : goesOn a rest = true
        · rw [wordAt?_of_goesOn front goes, wordAt?_of_goesOn front goes]
        · rw [wordAt?_of_ends front goes, wordAt?_of_ends front goes]
          refine ⟨fun same => ?_, fun same => by rw [same]⟩
          exact Option.map_injective (fun _ _ => Nat.succ.inj) same
      · rw [wordAt?_of_not_isLetter front, wordAt?_of_not_isLetter front]

/-- **A word is its own only word.** -/
theorem cutWords_of_mem {name word : List Char} (member : word ∈ cutWords name) :
    cutWords word = [word] := by
  induction name generalizing word with
  | nil => cases member
  | cons c rest ih =>
    by_cases letter : isLetter c = true
    · by_cases goes : goesOn c rest = true
      · obtain ⟨first, others, cut, inhabited, front, longer⟩ := cutWords_of_goesOn letter goes
        rw [longer] at member
        rw [cut] at ih
        rcases List.mem_cons.mp member with rfl | later
        · have alone := @ih first List.mem_cons_self
          obtain ⟨piece, left, again, _, _, whole⟩ :=
            cutWords_of_goesOn letter (goesOn_of_piece inhabited front goes)
          rw [alone] at again
          cases again
          exact whole
        · exact ih (List.mem_cons_of_mem _ later)
      · rw [cutWords_of_ends letter goes] at member
        rcases List.mem_cons.mp member with rfl | later
        · exact cutWords_of_ends letter (by simp [goesOn])
        · exact ih later
    · rw [cutWords_of_not_isLetter letter] at member
      exact ih member

/-! ### The words of a name -/

theorem endsWord_iff {before after : Char} {next : Option Char} :
    endsWord before after next = true ↔
      isLower before = true ∧ isUpper after = true ∨
        isUpper before = true ∧ isUpper after = true ∧ ∃ c, next = some c ∧ isLower c = true := by
  cases next with
  | none => simp [endsWord]
  | some c => simp [endsWord, and_assoc]

theorem getElem?_words {name word : String} {number : Nat}
    (listed : (words name)[number]? = some word) :
    (cutWords name.toList)[number]? = some word.toList := by
  unfold words at listed
  rw [List.getElem?_map, Option.map_eq_some_iff] at listed
  obtain ⟨characters, found, rfl⟩ := listed
  rw [String.toList_ofList]
  exact found

/-- **Names are cut at boundaries and nowhere else.** A word is a piece of the name, of one letter
or more and nothing but letters; side by side the words are the letters of the name, and each letter
belongs to one. Two letters with something else between them belong to two words, and two letters
side by side do exactly when a capital follows a small letter, or when both are capitals and a small
letter follows. So only a name without letters has no words, and a word is its own only word. -/
theorem words_at_boundaries (name : String) :
    (∀ number word, (words name)[number]? = some word →
      word ≠ "" ∧ (∀ c ∈ word.toList, isLetter c = true) ∧
        ∃ start, (name.toList.drop start).take word.toList.length = word.toList ∧
          ∀ place, wordAt? name.toList place = some number ↔
            start ≤ place ∧ place < start + word.toList.length) ∧
      String.join (words name) = String.ofList (name.toList.filter isLetter) ∧
      (∀ place, (wordAt? name.toList place).isSome = true ↔
        ∃ c, name.toList[place]? = some c ∧ isLetter c = true) ∧
      (∀ first between second c d e, first < between → between < second →
        name.toList[first]? = some c → name.toList[between]? = some d →
        name.toList[second]? = some e → isLetter c = true → isLetter d = false →
        isLetter e = true → wordAt? name.toList first ≠ wordAt? name.toList second) ∧
      (∀ place c d, name.toList[place]? = some c → name.toList[place + 1]? = some d →
        isLetter c = true → isLetter d = true →
        (wordAt? name.toList place ≠ wordAt? name.toList (place + 1) ↔
          isLower c = true ∧ isUpper d = true ∨
            isUpper c = true ∧ isUpper d = true ∧
              ∃ next, name.toList[place + 2]? = some next ∧ isLower next = true)) ∧
      (words name = [] ↔ ∀ c ∈ name.toList, isLetter c = false) ∧
      ∀ word ∈ words name, words word = [word] := by
  refine ⟨fun number word listed => ?_, ?_, fun place => ?_, ?_, ?_, ?_, ?_⟩
  · have cut := getElem?_words listed
    have member := List.mem_of_getElem? cut
    obtain ⟨start, piece, spans⟩ := exists_span cut
    refine ⟨?_, fun c inside => ?_, start, piece, spans⟩
    · rintro rfl
      exact ne_nil_of_mem_cutWords member rfl
    · have letter : c ∈ (cutWords name.toList).flatten := List.mem_flatten.mpr ⟨_, member, inside⟩
      rw [flatten_cutWords, List.mem_filter] at letter
      exact letter.2
  · rw [← flatten_cutWords, ← String.toList_inj, String.toList_ofList]
    simp [words, String.toList_join, List.flatMap_def, Function.comp_def]
  · rw [isSome_wordAt?, Option.any_eq_true]
  · intro first between second c d e after before here gap _ letter other _
    refine wordAt?_ne_of_between after before ?_ ?_
    · rw [here]
      exact letter
    · rw [gap]
      simp [other]
  · intro place c d here there letter next
    rw [Ne, wordAt?_eq_next_iff here there letter next, Classical.not_not, endsWord_iff]
  · have cut : words name = [] ↔ cutWords name.toList = [] := List.map_eq_nil_iff
    rw [cut, cutWords_eq_nil_iff]
    simp
  · intro word member
    obtain ⟨characters, listed, rfl⟩ := List.mem_map.mp member
    unfold words
    rw [String.toList_ofList, cutWords_of_mem listed]
    rfl

/-- A run of capitals that goes on in small letters, and a title-case letter, which is of neither
case, between a small letter and a capital. -/
theorem words_of_mixed :
    words "HTTPServer_aǅBC" = ["HTTP", "Server", "aǅBC"] ∧
      wordAt? "HTTPServer_aǅBC".toList 3 ≠ wordAt? "HTTPServer_aǅBC".toList 4 ∧
      wordAt? "HTTPServer_aǅBC".toList 9 ≠ wordAt? "HTTPServer_aǅBC".toList 11 ∧
      words "aǅBC" = ["aǅBC"] := by
  have cut : words "HTTPServer_aǅBC" = ["HTTP", "Server", "aǅBC"] := by decide +kernel
  obtain ⟨_, _, _, apart, boundary, _, again⟩ := words_at_boundaries "HTTPServer_aǅBC"
  have acronym : isUpper 'P' = true ∧ isUpper 'S' = true ∧
      ∃ next, "HTTPServer_aǅBC".toList[5]? = some next ∧ isLower next = true :=
    ⟨by decide, by decide, 'e', by decide, by decide⟩
  refine ⟨cut, ?_, ?_, again "aǅBC" (by rw [cut]; simp)⟩
  · exact (boundary 3 'P' 'S' (by decide) (by decide) (by decide) (by decide)).mpr (.inr acronym)
  · exact apart 9 10 11 'r' '_' 'a' (by decide) (by decide) (by decide) (by decide) (by decide)
      (by decide) (by decide) (by decide)

end PathQuery
