/-
**The pieces of a text between separators.**

* `pieces_ne_nil`: there is always a first piece, so there is always a last one.
* `intercalate_pieces`: the pieces with the separators put back are the text.
* `not_mem_of_mem_pieces`: no piece holds the separator.
* `length_pieces`: there is one piece more than there are separators.
* `pieces_of_not_mem`, `pieces_append_cons`: texts without separators are found again as pieces.
-/

namespace PathQuery.Text

/-- Cuts a text at every separator; two separators side by side enclose an empty piece. -/
def pieces (separator : Char) : List Char → List (List Char)
  | [] => [[]]
  | c :: rest =>
    if c = separator then [] :: pieces separator rest
    else (pieces separator rest).modifyHead (c :: ·)

theorem pieces_ne_nil (separator : Char) (text : List Char) : pieces separator text ≠ [] := by
  induction text with
  | nil => simp [pieces]
  | cons c rest ih =>
    by_cases here : c = separator <;> simp [pieces, here, ih]

/-- Every text has a first piece. -/
theorem exists_pieces_eq_cons (separator : Char) (text : List Char) :
    ∃ first others, pieces separator text = first :: others :=
  List.exists_cons_of_ne_nil (pieces_ne_nil separator text)

theorem intercalate_pieces (separator : Char) (text : List Char) :
    [separator].intercalate (pieces separator text) = text := by
  induction text with
  | nil => simp [pieces, List.intercalate]
  | cons c rest ih =>
    obtain ⟨first, others, split⟩ := exists_pieces_eq_cons separator rest
    by_cases here : c = separator
    · subst here
      simp only [pieces, if_true]
      rw [split] at ih ⊢
      simpa [List.intercalate] using ih
    · simp only [pieces, here, if_false]
      rw [split] at ih ⊢
      cases others <;> simpa [List.intercalate] using ih

theorem not_mem_of_mem_pieces {separator : Char} {text piece : List Char}
    (member : piece ∈ pieces separator text) : separator ∉ piece := by
  induction text generalizing piece with
  | nil => simp_all [pieces]
  | cons c rest ih =>
    obtain ⟨first, others, split⟩ := exists_pieces_eq_cons separator rest
    by_cases here : c = separator
    · simp only [pieces, here, if_true, List.mem_cons] at member
      rcases member with rfl | member
      · simp
      · exact ih member
    · simp only [pieces, here, if_false, split, List.modifyHead_cons, List.mem_cons] at member
      rcases member with rfl | member
      · simp only [List.mem_cons, not_or]
        exact ⟨fun same => here same.symm, ih (by simp [split])⟩
      · exact ih (by simp [split, member])

theorem length_pieces (separator : Char) (text : List Char) :
    (pieces separator text).length = text.count separator + 1 := by
  induction text with
  | nil => rfl
  | cons c rest ih =>
    by_cases here : c = separator
    · simp [pieces, here, ih]
    · simp [pieces, here, ih]

/-- A text without separators is its only piece. -/
theorem pieces_of_not_mem {separator : Char} {text : List Char} (clean : separator ∉ text) :
    pieces separator text = [text] := by
  induction text with
  | nil => rfl
  | cons c rest ih =>
    rw [List.mem_cons, not_or] at clean
    rw [pieces, if_neg (fun same => clean.1 same.symm), ih clean.2, List.modifyHead_cons]

/-- The first piece ends at the first separator. -/
theorem pieces_append_cons {separator : Char} {front : List Char} (clean : separator ∉ front)
    (rest : List Char) :
    pieces separator (front ++ separator :: rest) = front :: pieces separator rest := by
  induction front with
  | nil => rw [List.nil_append, pieces, if_pos rfl]
  | cons c front ih =>
    rw [List.mem_cons, not_or] at clean
    rw [List.cons_append, pieces, if_neg (fun same => clean.1 same.symm), ih clean.2,
      List.modifyHead_cons]

end PathQuery.Text
