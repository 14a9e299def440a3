/-
**The truth of a normal form is the truth of the filter.**

* `NormalForm.Proper`: every leaf of a normal form compares something, and every branch has more
  than one part. The normal forms of filters are of this kind (`Filter.proper_of_normalForm?`);
* `Filter.holds_of_normalForm?`: what was left out does not change the truth.
-/

import PathQuery.Filter.NormalForm

namespace PathQuery

theorem Connective.holds_singleton (connective : Connective) (part : Bool) :
    connective.holds [part] = part := by
  cases connective <;> cases part <;> rfl

namespace NormalForm

/-! ### Truth -/

mutual

/-- The truth of a normal form, given the truth of every comparison. -/
def holds (truth : Atom → Bool) : NormalForm → Bool
  | leaf connective atoms => connective.holds (atoms.map truth)
  | branch connective parts => connective.holds (truthsOf truth parts)

/-- The truth of every part. -/
def truthsOf (truth : Atom → Bool) : List NormalForm → List Bool
  | [] => []
  | part :: rest => part.holds truth :: truthsOf truth rest

end

variable {truth : Atom → Bool}

theorem truthsOf_eq_map (parts : List NormalForm) : truthsOf truth parts = parts.map (·.holds truth) := by
  induction parts with
  | nil => rfl
  | cons part parts ih => rw [truthsOf, ih, List.map_cons]

theorem truthsOf_append (first second : List NormalForm) :
    truthsOf truth (first ++ second) = truthsOf truth first ++ truthsOf truth second := by
  simp [truthsOf_eq_map]

/-! ### Proper normal forms -/

/-- **Nothing in the normal form is there for nothing.** -/
inductive Proper : NormalForm → Prop
  | leaf (connective : Connective) {atoms : List Atom} (inhabited : atoms ≠ []) :
      Proper (.leaf connective atoms)
  | branch (connective : Connective) {parts : List NormalForm} (several : 1 < parts.length)
      (proper : ∀ part ∈ parts, Proper part) : Proper (.branch connective parts)

end NormalForm

namespace Filter

open NormalForm

theorem proper_of_branch? (connective : Connective) {parts : List NormalForm}
    (proper : ∀ part ∈ parts, part.Proper) : ∀ form ∈ branch? connective parts, form.Proper := by
  intro form made
  match parts with
  | [] => cases made
  | [part] =>
    cases made
    exact proper form (List.mem_singleton_self form)
  | first :: second :: others =>
    cases made
    exact .branch connective (by simp) proper

mutual

/-- **Normal forms of filters are proper.** -/
theorem proper_of_normalForm? (filter : Filter) : ∀ form ∈ filter.normalForm?, form.Proper :=
  match filter with
  | ⟨none, _, _, _⟩ => by simp [normalForm?]
  | ⟨some connective, items, groups, table⟩ => by
    rw [normalForm?]
    split
    · split
      · simp
      · rename_i inhabited
        rintro form ⟨rfl⟩
        exact .leaf connective (by simpa using inhabited)
    · exact proper_of_branch? connective (proper_of_normalForms groups)

theorem proper_of_normalForms (groups : List Filter) : ∀ form ∈ normalForms groups, form.Proper :=
  match groups with
  | [] => by simp [normalForms]
  | group :: rest => by
    intro form made
    rw [normalForms, List.mem_append, Option.mem_toList] at made
    rcases made with made | made
    · exact proper_of_normalForm? group form made
    · exact proper_of_normalForms rest form made

end

/-! ### Filters -/

variable {truth : Atom → Bool}

/-- A group has the truth of its parts, also where it stands for its only part. -/
theorem holds_of_branch? {connective : Connective} {parts : List NormalForm} {form : NormalForm}
    (made : branch? connective parts = some form) :
    form.holds truth = connective.holds (truthsOf truth parts) := by
  match parts with
  | [] => cases made
  | [part] =>
    cases made
    rw [truthsOf, truthsOf, connective.holds_singleton]
  | first :: second :: others =>
    cases made
    rw [NormalForm.holds]

theorem isSome_branch? (connective : Connective) (parts : List NormalForm) :
    (branch? connective parts).isSome = !parts.isEmpty := by
  match parts with
  | [] => rfl
  | [part] => rfl
  | first :: second :: others => rfl

theorem isEmpty_atoms (table : Option String) (items : List Item) :
    (atoms table items).isEmpty = !items.any (·.comparison.isSome) := by
  induction items with
  | nil => rfl
  | cons item items ih =>
    rw [atoms] at ih ⊢
    cases compares : item.comparison <;> simp [Item.atom?, compares, ih]

mutual

/-- The groups that count are those with a normal form. -/
theorem isSome_normalForm? (filter : Filter) : filter.normalForm?.isSome = filter.isLive :=
  match filter with
  | ⟨none, _, _, _⟩ => by simp [normalForm?, isLive]
  | ⟨some connective, items, groups, table⟩ => by
    rw [normalForm?, isLive]
    split
    · rw [isEmpty_atoms]
      cases items.any (·.comparison.isSome) <;> rfl
    · rw [isSome_branch?, isEmpty_normalForms groups, Bool.not_not]

theorem isEmpty_normalForms (groups : List Filter) :
    (normalForms groups).isEmpty = !anyLive groups :=
  match groups with
  | [] => rfl
  | group :: rest => by
    rw [normalForms, anyLive, Bool.not_or, ← isEmpty_normalForms rest, ← isSome_normalForm? group]
    cases group.normalForm? <;> rfl

end

mutual

/-- **What was left out does not change the truth.** -/
theorem holds_of_normalForm? (filter : Filter) {form : NormalForm}
    (normal : filter.normalForm? = some form) : filter.holds truth = form.holds truth :=
  match filter with
  | ⟨none, _, _, _⟩ => by simp [normalForm?] at normal
  | ⟨some connective, items, groups, table⟩ => by
    rw [normalForm?] at normal
    rw [holds]
    split at normal
    · rename_i none
      split at normal
      · cases normal
      · cases normal
        rw [if_pos none, NormalForm.holds]
    · rename_i some
      rw [if_neg some, holds_of_branch? normal, truthsOf_normalForms groups]

theorem truthsOf_normalForms (groups : List Filter) :
    truthsOf truth (normalForms groups) = truths truth groups :=
  match groups with
  | [] => rfl
  | group :: rest => by
    have live := isSome_normalForm? group
    rw [normalForms, truthsOf_append, truths, truthsOf_normalForms rest]
    cases normal : group.normalForm? with
    | none =>
      rw [normal] at live
      rw [← live]
      rfl
    | some form =>
      rw [normal] at live
      rw [← live, holds_of_normalForm? group normal]
      rfl

end

end Filter

end PathQuery
