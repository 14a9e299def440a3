/-
**Each element once, in the order of first times.**

* `eraseDups_append_of_subset`: what was there before changes nothing.
* `eraseDups_concat_of_mem`, `eraseDups_concat_of_not_mem`: one more element goes behind the others,
  unless it was there before.
-/

import Mathlib.Data.List.Basic

namespace PathQuery

variable {α : Type} [BEq α] [LawfulBEq α] {values more : List α} {value : α}

theorem eraseDups_append_of_subset (known : more ⊆ values) :
    (values ++ more).eraseDups = values.eraseDups := by
  have nothing : more.removeAll values = [] := by
    apply List.filter_eq_nil_iff.mpr
    intro value member
    simpa using known member
  rw [List.eraseDups_append, nothing, List.eraseDups_nil, List.append_nil]

theorem eraseDups_concat_of_mem (known : value ∈ values) :
    (values ++ [value]).eraseDups = values.eraseDups :=
  eraseDups_append_of_subset (List.cons_subset.mpr ⟨known, List.nil_subset values⟩)

theorem eraseDups_concat_of_not_mem (new : value ∉ values) :
    (values ++ [value]).eraseDups = values.eraseDups ++ [value] := by
  have single : [value].removeAll values = [value] := by simpa [List.removeAll] using new
  rw [List.eraseDups_append, single, List.eraseDups_cons, List.filter_nil, List.eraseDups_nil]

end PathQuery
