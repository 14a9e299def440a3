/-
**Rendering is printing the normal form.**

While a filter is rendered, the names bound so far are those of the numbers below the next one
(`Slots.Counted`), so every value is bound to a name of its own and at the end of the entries.

* `Filter.render_eq`: a filter renders to its normal form as it is printed, and its leaves are
  bound from left to right;
* `Filter.compile_of_normalForm?_eq_some`, `Filter.compile_of_normalForm?_eq_none`: what compiling
  returns.
-/

import PathQuery.Alias
import PathQuery.Filter.NormalForm

namespace PathQuery

/-! ### Parameters -/

/-- Names of parameters are numbered as aliases are, so they differ as their numbers do. -/
theorem Style.parameter_injective (style : Style) : Function.Injective style.parameter :=
  fun _ _ same => Alias.numbered_injective same

theorem Params.bind_of_not_mem {name : String} {entries : List (String × Value)}
    (fresh : name ∉ entries.map (·.1)) (value : Value) :
    bind name value entries = entries ++ [(name, value)] := by
  induction entries with
  | nil => rfl
  | cons entry rest ih =>
    obtain ⟨known, old⟩ := entry
    rw [List.map_cons, List.mem_cons, not_or] at fresh
    rw [bind, if_neg fresh.1, ih fresh.2, List.cons_append]

/-- Values are bound behind those that are there, where no name comes twice. -/
theorem Params.extend_of_nodup {params others : Params}
    (distinct : (params.names ++ others.names).Nodup) :
    params.extend others = ⟨params.entries ++ others.entries⟩ := by
  obtain ⟨entries⟩ := others
  rw [extend]
  induction entries generalizing params with
  | nil => rw [List.foldl_nil, List.append_nil]
  | cons entry rest ih =>
    obtain ⟨name, value⟩ := entry
    have fresh : name ∉ params.entries.map (·.1) := fun known =>
      (List.nodup_append.mp distinct).2.2 name known name List.mem_cons_self rfl
    have inserted : params.insert name value = ⟨params.entries ++ [(name, value)]⟩ := by
      rw [insert, bind_of_not_mem fresh]
    have remains : ((params.insert name value).names ++ Params.names ⟨rest⟩).Nodup := by
      rw [inserted]
      simpa [names] using distinct
    rw [List.foldl_cons, ih remains, inserted, List.append_assoc, List.singleton_append]

namespace NormalForm

theorem bindings_append (style : Style) (number : Nat) (first second : List Atom) :
    bindings style number (first ++ second) =
      bindings style number first ++ bindings style (number + first.length) second := by
  induction first generalizing number with
  | nil => rfl
  | cons atom first ih =>
    rw [List.cons_append, bindings, bindings, ih, List.length_cons, List.cons_append]
    congr 3
    omega

theorem names_bindings (style : Style) (number : Nat) (atoms : List Atom) :
    (bindings style number atoms).map (·.1) =
      (List.range' number atoms.length).map style.parameter := by
  induction atoms generalizing number with
  | nil => rfl
  | cons atom atoms ih => simp [bindings, ih, List.range'_succ]

/-- No name is bound twice. -/
theorem nodup_names_bindings (style : Style) (number : Nat) (atoms : List Atom) :
    ((bindings style number atoms).map (·.1)).Nodup := by
  rw [names_bindings, List.Nodup, List.pairwise_map]
  exact (List.nodup_range' 1).imp fun differs same => differs (style.parameter_injective same)

end NormalForm

namespace Slots

open NormalForm

/-- The names bound so far are those of the numbers below the next one. -/
def Counted (style : Style) (slots : Slots) : Prop :=
  slots.params.names = (List.range slots.next).map style.parameter

/-- The values of comparisons, all bound behind what is bound already. -/
def bindAll (style : Style) (slots : Slots) (atoms : List Atom) : Slots :=
  ⟨slots.next + atoms.length, ⟨slots.params.entries ++ bindings style slots.next atoms⟩⟩

theorem counted_empty (style : Style) : Counted style .empty := rfl

theorem bindAll_nil (style : Style) (slots : Slots) : slots.bindAll style [] = slots := by
  simp [bindAll, bindings]

theorem bindAll_append (style : Style) (slots : Slots) (first second : List Atom) :
    slots.bindAll style (first ++ second) =
      (slots.bindAll style first).bindAll style second := by
  simp [bindAll, bindings_append, Nat.add_assoc]

variable {style : Style} {slots : Slots}

theorem Counted.bindAll (counted : slots.Counted style) (atoms : List Atom) :
    (slots.bindAll style atoms).Counted style := by
  have numbers : List.range (slots.next + atoms.length) =
      List.range slots.next ++ List.range' slots.next atoms.length := by
    rw [List.range_eq_range', List.range_eq_range', ← List.range'_append_1, Nat.zero_add]
  rw [Counted, Params.names] at counted ⊢
  simp only [Slots.bindAll, List.map_append, counted, names_bindings, numbers]

/-- The next name is not bound yet, so the value is bound behind all others. -/
theorem Counted.bind (counted : slots.Counted style) (atom : Atom) :
    slots.bind style atom.value = slots.bindAll style [atom] := by
  have fresh : style.parameter slots.next ∉ slots.params.entries.map (·.1) := by
    have names : slots.params.entries.map (·.1) = _ := counted
    rw [names, List.mem_map]
    rintro ⟨number, below, same⟩
    have equal := style.parameter_injective same
    rw [List.mem_range] at below
    omega
  simp only [Slots.bind, Params.insert, Params.bind_of_not_mem fresh]
  rfl

end Slots

/-! ### Normal forms of groups -/

namespace NormalForm

/-- Parts as they are printed where none of them needs parentheses. -/
def printEach (style : Style) (number : Nat) : List NormalForm → List String
  | [] => []
  | part :: rest => part.print style number :: printEach style (number + part.atoms.length) rest

theorem length_printEach (style : Style) (number : Nat) (parts : List NormalForm) :
    (printEach style number parts).length = parts.length := by
  induction parts generalizing number with
  | nil => rfl
  | cons part parts ih => simp [printEach, ih]

theorem printParts_eq_map (style : Style) (number : Nat) (parts : List NormalForm) :
    printParts style number parts =
      (printEach style number parts).map fun part => "(" ++ part ++ ")" := by
  induction parts generalizing number with
  | nil => rfl
  | cons part parts ih => simp [printParts, printEach, ih]

theorem atomsOf_append (first second : List NormalForm) :
    atomsOf (first ++ second) = atomsOf first ++ atomsOf second := by
  induction first with
  | nil => rfl
  | cons part first ih => simp [atomsOf, ih]

end NormalForm

namespace Filter

open NormalForm Slots

/-- **A group of groups prints as what its groups print to**: in parentheses where there is more
than one, and on its own where it is the only one. -/
theorem join_enclose (style : Style) (connective : Connective) (number : Nat)
    (parts : List NormalForm) :
    connective.join (enclose (printEach style number parts)) =
      (branch? connective parts).map (·.print style number) := by
  match parts with
  | [] => rfl
  | [part] => simp [printEach, enclose, Connective.join, branch?]
  | first :: second :: others =>
    have more : 1 < (printEach style number (first :: second :: others)).length := by
      rw [length_printEach]
      simp
    rw [enclose, if_pos more, ← printParts_eq_map]
    rfl

theorem atomsOf_branch? (connective : Connective) (parts : List NormalForm) :
    atomsOf (branch? connective parts).toList = atomsOf parts := by
  match parts with
  | [] => rfl
  | [part] => rfl
  | first :: second :: others => simp [branch?, atomsOf, NormalForm.atoms]

mutual

/-- **The normal form of a group makes the comparisons of the group**, in their order. -/
theorem atomsOf_normalForm? (filter : Filter) : atomsOf filter.normalForm?.toList = filter.leaves :=
  match filter with
  | ⟨none, _, _, _⟩ => by simp [normalForm?, leaves, atomsOf]
  | ⟨some connective, items, groups, table⟩ => by
    rw [normalForm?, leaves]
    split
    · split
      · rename_i inert
        rw [List.isEmpty_iff.mp inert]
        rfl
      · simp [atomsOf, NormalForm.atoms]
    · rw [atomsOf_branch?, atomsOf_normalForms groups]

theorem atomsOf_normalForms (groups : List Filter) :
    atomsOf (normalForms groups) = leavesOf groups :=
  match groups with
  | [] => rfl
  | group :: rest => by
    rw [normalForms, leavesOf, atomsOf_append, atomsOf_normalForm? group, atomsOf_normalForms rest]

end

/-! ### Rendering -/

variable {style : Style}

/-- Items render to their comparisons, numbered one after the other. -/
theorem renderItems_eq (table : Option String) (items : List Item) {slots : Slots}
    (counted : slots.Counted style) :
    renderItems style table items slots =
      (printAtoms style slots.next (atoms table items), slots.bindAll style (atoms table items)) := by
  induction items generalizing slots with
  | nil => simp [renderItems, atoms, printAtoms, bindAll_nil]
  | cons item rest ih =>
    rw [renderItems]
    split
    · rename_i inert
      have same : atoms table (item :: rest) = atoms table rest := by
        simp [atoms, Item.atom?, inert]
      rw [ih counted, same]
    · rename_i comparison compares
      let atom : Atom := ⟨table, item.field, comparison, item.value⟩
      have split : atoms table (item :: rest) = [atom] ++ atoms table rest := by
        simp [atoms, Item.atom?, compares, atom]
      rw [counted.bind atom, ih (counted.bindAll [atom]), split, bindAll_append]
      rfl

mutual

/-- **A filter renders to its normal form as it is printed**, numbered from the next number on, and
its leaves are bound from left to right. -/
theorem render_eq (filter : Filter) {slots : Slots} (counted : slots.Counted style) :
    filter.render style slots =
      (filter.normalForm?.map (·.print style slots.next), slots.bindAll style filter.leaves) :=
  match filter with
  | ⟨none, _, _, _⟩ => by simp [render, normalForm?, leaves, bindAll_nil]
  | ⟨some connective, items, groups, table⟩ => by
    rw [render, normalForm?, leaves]
    split
    · rw [renderItems_eq table items counted]
      cases atoms table items <;> rfl
    · rw [renderGroups_eq groups counted]
      simp only [join_enclose]

theorem renderGroups_eq (groups : List Filter) {slots : Slots} (counted : slots.Counted style) :
    renderGroups style groups slots =
      (printEach style slots.next (normalForms groups), slots.bindAll style (leavesOf groups)) :=
  match groups with
  | [] => by simp [renderGroups, normalForms, printEach, leavesOf, bindAll_nil]
  | group :: rest => by
    have made := atomsOf_normalForm? group
    simp only [renderGroups, render_eq group counted,
      renderGroups_eq rest (counted.bindAll group.leaves), leavesOf, bindAll_append, normalForms]
    -- The numbers of the rest start behind the comparisons of the group, if it has any.
    cases form : group.normalForm? with
    | none =>
      rw [form] at made
      simp [← made, atomsOf, bindAll_nil]
    | some form' =>
      rw [form] at made
      simp [printEach, ← made, atomsOf, Slots.bindAll]

end

/-! ### Compiling -/

/-- A filter with a normal form compiles to the normal form as it is printed, with its values. -/
theorem compile_of_normalForm?_eq_some {filter : Filter} {form : NormalForm}
    (normal : filter.normalForm? = some form) :
    (filter.compile style).1 = .ok (form.clause style) := by
  have inhabited : filter.isEmpty = false := by
    obtain ⟨connective, items, groups, table⟩ := filter
    cases connective with
    | none => simp [normalForm?] at normal
    | some connective => simp [isEmpty]
  have made := atomsOf_normalForm? filter
  rw [normal, Option.toList_some, atomsOf, atomsOf, List.append_nil] at made
  rw [compile, inhabited, render_eq filter (counted_empty style), normal, ← made]
  simp [clause, Slots.bindAll, Slots.empty, Params.empty]

/-- An inert filter compiles to the empty condition, unless it is refused. -/
theorem compile_of_normalForm?_eq_none {filter : Filter} (inert : filter.normalForm? = none)
    {clause : Clause} (compiled : (filter.compile style).1 = .ok clause) :
    clause = ⟨"", .empty⟩ := by
  have made := atomsOf_normalForm? filter
  rw [inert, Option.toList_none, atomsOf] at made
  rw [compile, render_eq filter (counted_empty style), inert, ← made, bindAll_nil] at compiled
  split at compiled
  · cases compiled
  · cases compiled
    rfl

end Filter

end PathQuery
