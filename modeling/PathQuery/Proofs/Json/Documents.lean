/-
**Documents are read back from their text.**

A document that has no doubles, is not nested too deep and keeps the keys of its objects in order is
the only one that its text describes (`Exact`). Elements of an array are taken one by one, in front
of the comma or the bracket behind them; the members of an object come in the order of their keys,
so each is inserted behind those before it.

* `Reader.takes_array`: an array is taken element by element;
* `ascending_insert`: the keys of an object stay in order, so it is never met with others;
* `insert_of_forall_lt`: a key behind all others is inserted at the end;
* `Reader.takesEach_members`: the members of an object are put together in their order;
* `takes_read`: a document is read back, by induction over it.
-/

import PathQuery.Proofs.Json.Numerals

namespace PathQuery.Json

/-- **Documents that their text tells exactly**: all numbers are whole, arrays and objects are
nested at most this deep, and the keys of every object ascend. -/
inductive Exact : Nat → Json → Prop
  | null {depth : Nat} : Exact depth .null
  | boolean {depth : Nat} (value : Bool) : Exact depth (.boolean value)
  | whole {depth : Nat} (n : Decimal.Whole) : Exact depth (.number (.whole n))
  | text {depth : Nat} (value : String) : Exact depth (.text value)
  | array {depth : Nat} {items : List Json} (each : ∀ item ∈ items, Exact depth item) :
    Exact (depth + 1) (.array items)
  | object {depth : Nat} {members : List (String × Json)}
    (ascending : members.Pairwise fun first second => first.1 < second.1)
    (each : ∀ member ∈ members, Exact depth member.2) : Exact (depth + 1) (.object members)

/-! ### Arrays -/

/-- What an element of an array may start with, so that it is not mistaken for the end. -/
def StartsElement (text : List Char) : Prop :=
  ∃ c rest, text = c :: rest ∧ Reader.isSpace c = false ∧ c ≠ ']'

/-- Elements behind the first, each with the comma in front of it. -/
def writeElements (texts : List (List Char)) : List Char := texts.flatMap (',' :: ·)

/-- An array as it is written. -/
def writeArray (texts : List (List Char)) : List Char :=
  '[' :: ([','].intercalate texts ++ [']'])

theorem intercalate_cons (first : List Char) (texts : List (List Char)) :
    [','].intercalate (first :: texts) = first ++ writeElements texts := by
  induction texts generalizing first with
  | nil => simp [List.intercalate, writeElements]
  | cons second texts ih =>
    have rest := ih second
    simp only [List.intercalate, List.intersperse, List.flatten_cons] at rest ⊢
    rw [rest, writeElements, writeElements, List.flatMap_cons]
    rfl

theorem length_le_writeElements (texts : List (List Char)) :
    texts.length ≤ (writeElements texts).length := by
  induction texts with
  | nil => exact Nat.le_refl 0
  | cons text texts ih =>
    rw [writeElements, List.flatMap_cons, List.length_append, List.length_cons, List.length_cons]
    rw [writeElements] at ih
    omega

namespace Reader

variable {α : Type} {item : Reader α} {write : α → List Char}

theorem run_more_end (first : Bool) (rest : List Char) :
    StateT.run (more first) (']' :: rest) = .ok (false, ']' :: rest) :=
  run_bind (run_peek_dark rfl rest)

theorem run_more_first {text : List Char} (starts : StartsElement text) (rest : List Char) :
    StateT.run (more true) (text ++ rest) = .ok (true, text ++ rest) := by
  obtain ⟨c, others, rfl, dark, other⟩ := starts
  unfold more
  rw [List.cons_append, run_bind (run_peek_dark dark _)]
  simp only [if_neg other]
  rfl

theorem run_more_next {text : List Char} (starts : StartsElement text) (rest : List Char) :
    StateT.run (more false) (',' :: (text ++ rest)) = .ok (true, text ++ rest) := by
  obtain ⟨c, others, rfl, dark, other⟩ := starts
  unfold more
  rw [run_bind (run_peek_dark rfl _)]
  refine (run_bind (run_skip ',' _)).trans ?_
  rw [List.cons_append, run_bind (run_peek_dark dark _)]
  simp only [if_neg other]
  rfl

/-- **Values that a reader takes as elements**: each is told from the end of the array, and taken in
front of what comes behind it. -/
def TakesElements (item : Reader α) (write : α → List Char) (values : List α) : Prop :=
  ∀ value ∈ values, StartsElement (write value) ∧ TakesBefore item (write value) value

/-- A further element, or the bracket, ends the one before it. -/
theorem ends_writeElements (texts : List (List Char)) (rest : List Char) :
    Ends (writeElements texts ++ ']' :: rest) := by
  cases texts with
  | nil => exact ends_cons rfl rest
  | cons text texts => exact ends_cons rfl _

/-- An element is taken, and the others follow. -/
theorem run_elements_of_more {first : Bool} {text behind : List Char} {value : α}
    {values : List α} {fuel : Nat} {left : List Char}
    (more : StateT.run (Reader.more first) text = .ok (true, write value ++ behind))
    (takes : TakesBefore item (write value) value) (ends : Ends behind)
    (others : StateT.run (elements item fuel false) behind = .ok (values, left)) :
    StateT.run (elements item (fuel + 1) first) text = .ok (value :: values, left) := by
  rw [elements, run_bind more]
  exact (run_bind (takes behind ends)).trans (run_bind others)

/-- **Elements behind the first are taken up to the bracket** that ends the array. -/
theorem run_elements_rest {values : List α} (takes : TakesElements item write values) {fuel : Nat}
    (enough : values.length < fuel) (rest : List Char) :
    StateT.run (elements item fuel false) (writeElements (values.map write) ++ ']' :: rest) =
      .ok (values, ']' :: rest) := by
  induction values generalizing fuel with
  | nil =>
    obtain ⟨fuel, rfl⟩ := Nat.exists_eq_add_one_of_ne_zero (Nat.ne_of_gt enough)
    exact run_bind (run_more_end false rest)
  | cons value values ih =>
    obtain ⟨fuel, rfl⟩ := Nat.exists_eq_add_one_of_ne_zero (Nat.ne_of_gt (Nat.zero_lt_of_lt enough))
    obtain ⟨⟨starts, takesFirst⟩, takesRest⟩ := List.forall_mem_cons.mp takes
    have others := ih takesRest (show values.length < fuel by simpa using enough)
    rw [List.map_cons, writeElements, List.flatMap_cons, List.cons_append, List.cons_append,
      List.append_assoc]
    exact run_elements_of_more (run_more_next starts _) takesFirst (ends_writeElements _ rest)
      others

/-- **An array is taken element by element.** -/
theorem takes_array {values : List α} (takes : TakesElements item write values) :
    Takes (array item) (writeArray (values.map write)) values := by
  intro rest
  have closing : StateT.run close (']' :: rest) = .ok ((), rest) :=
    run_bind (run_peek_dark rfl rest)
  have found : StateT.run (elements item
      (([','].intercalate (values.map write) ++ ']' :: rest).length + 1) true)
        ([','].intercalate (values.map write) ++ ']' :: rest) = .ok (values, ']' :: rest) := by
    cases values with
    | nil => exact run_bind (run_more_end true rest)
    | cons value values =>
      obtain ⟨⟨starts, takesFirst⟩, takesRest⟩ := List.forall_mem_cons.mp takes
      have size := length_le_writeElements (values.map write)
      have enough : values.length < ([','].intercalate ((value :: values).map write) ++
          ']' :: rest).length := by
        rw [List.length_map] at size
        rw [List.map_cons, intercalate_cons, List.length_append, List.length_append,
          List.length_cons]
        omega
      have others := run_elements_rest takesRest enough rest
      rw [List.map_cons, intercalate_cons, List.append_assoc] at others ⊢
      exact run_elements_of_more (run_more_first starts _) takesFirst (ends_writeElements _ rest)
        others
  unfold array
  rw [writeArray, List.cons_append, List.append_assoc, List.singleton_append,
    run_bind (run_skip '[' _), run_bind (StateT.run_get _), run_bind found, run_bind closing]
  rfl

end Reader

/-! ### Objects -/

/-- What is set is the member with the key, and other members were there before. -/
theorem mem_insert {key : String} {value : Json} {member : String × Json}
    {known : List (String × Json)} (listed : member ∈ insert key value known) :
    member = (key, value) ∨ member ∈ known := by
  induction known with
  | nil => exact .inl (List.mem_singleton.mp listed)
  | cons other known ih =>
    rw [insert] at listed
    split at listed
    · exact (List.mem_cons.mp listed).imp_right (List.mem_cons_of_mem _)
    · split at listed
      · exact List.mem_cons.mp listed
      · rcases List.mem_cons.mp listed with rfl | later
        · exact .inr List.mem_cons_self
        · exact (ih later).imp_right (List.mem_cons_of_mem _)

/-- **Keys stay in order** when a member is set. -/
theorem ascending_insert (key : String) (value : Json) {known : List (String × Json)}
    (ascending : known.Pairwise fun first second => first.1 < second.1) :
    (insert key value known).Pairwise fun first second => first.1 < second.1 := by
  induction known with
  | nil => exact List.pairwise_singleton _ _
  | cons other known ih =>
    obtain ⟨least, rest⟩ := List.pairwise_cons.mp ascending
    rw [insert]
    split
    case isTrue same =>
      subst same
      exact List.pairwise_cons.mpr ⟨least, rest⟩
    case isFalse different =>
      split
      case isTrue before =>
        refine List.pairwise_cons.mpr ⟨fun member listed => ?_, ascending⟩
        rcases List.mem_cons.mp listed with rfl | later
        · exact before
        · exact String.lt_trans before (least member later)
      case isFalse behind =>
        refine List.pairwise_cons.mpr ⟨fun member listed => ?_, ih rest⟩
        rcases mem_insert listed with rfl | later
        · exact Std.lt_of_le_of_ne (String.not_lt.mp behind) (Ne.symm different)
        · exact least member later

/-- **A key behind all others is inserted at the end.** -/
theorem insert_of_forall_lt {key : String} {known : List (String × Json)}
    (last : ∀ member ∈ known, member.1 < key) (value : Json) :
    insert key value known = known ++ [(key, value)] := by
  induction known with
  | nil => rfl
  | cons member known ih =>
    obtain ⟨before, rest⟩ := List.forall_mem_cons.mp last
    have other : key ≠ member.1 := fun same => String.lt_irrefl key (same ▸ before)
    have behind : ¬ key < member.1 := String.lt_asymm before
    rw [insert, if_neg other, if_neg behind, ih rest, List.cons_append]

/-- A member of an object as it is written. -/
def entry (member : String × Json) : Entry :=
  ⟨.none, member.1, ':' :: print member.2, .none⟩

theorem printItems_eq (items : List Json) : printItems items = writeElements (items.map print) := by
  induction items with
  | nil => rfl
  | cons item items ih =>
    rw [printItems, ih]
    rfl

theorem print_array (items : List Json) : print (.array items) = writeArray (items.map print) := by
  cases items with
  | nil => rfl
  | cons item items => rw [print, printItems_eq, writeArray, List.map_cons, intercalate_cons]

theorem printMembers_eq (members : List (String × Json)) :
    printMembers members = Entry.writeRest (members.map entry) := by
  induction members with
  | nil => rfl
  | cons member members ih =>
    rw [printMembers, ih, List.map_cons, Entry.writeRest, Entry.writeRest, List.flatMap_cons]
    simp [Entry.write, entry, Gap.none]

theorem print_object (members : List (String × Json)) :
    print (.object members) = writeObject (members.map entry) .none := by
  cases members with
  | nil => rfl
  | cons member members =>
    rw [print, printMembers_eq, writeObject, List.map_cons, Entry.writeAll]
    simp [Entry.write, entry, Gap.none]

namespace Reader

/-- **Members whose keys ascend are put together in their order.** -/
theorem takesEach_members {depth : Nat} {members : List (String × Json)}
    (takes : ∀ member ∈ members, TakesBefore (read depth) (print member.2) member.2)
    (known : List (String × Json))
    (ascending : (known ++ members).Pairwise fun first second => first.1 < second.1) :
    TakesEach (fun known key => do
      Reader.colon
      return insert key (← read depth) known) known (members.map entry) (known ++ members) := by
  induction members generalizing known with
  | nil =>
    rw [List.append_nil]
    exact .nil known
  | cons member members ih =>
    obtain ⟨takesFirst, takesRest⟩ := List.forall_mem_cons.mp takes
    have last : ∀ other ∈ known, other.1 < member.1 := fun other listed =>
      (List.pairwise_append.mp ascending).2.2 other listed member List.mem_cons_self
    rw [List.append_cons] at ascending ⊢
    refine .cons ?_ (ih takesRest (known ++ [member]) ascending)
    have value : TakesBefore (read depth >>= fun found => pure (insert member.1 found known))
        (print member.2) (known ++ [member]) := by
      rw [← insert_of_forall_lt last member.2]
      exact takesFirst.bind (takes_pure _)
    exact (takes_colon .none).bindBefore value

/-! ### Documents -/

variable {array object : Reader Json}

theorem takes_element_null : Takes (element array object) "null".toList .null :=
  takes_peek .none rfl ((takes_spell "null".toList).bind (takes_pure Json.null))

theorem takes_element_boolean (value : Bool) :
    Takes (element array object) (printBoolean value) (.boolean value) := by
  cases value with
  | true => exact takes_peek .none rfl ((takes_spell "true".toList).bind (takes_pure _))
  | false => exact takes_peek .none rfl ((takes_spell "false".toList).bind (takes_pure _))

theorem takes_element_text (value : String) :
    Takes (element array object) (Text.print value) (.text value) :=
  takes_peek .none rfl ((takes_skip '"').bind ((takes_characters value).map Json.text))

theorem takes_element_whole (n : Decimal.Whole) :
    TakesBefore (element array object) (printWhole n.val) (.number (.whole n)) := by
  have number := (takes_number n).map Json.number
  obtain ⟨c, text, written, starts⟩ := exists_printWhole_eq_cons n.val
  rw [written] at number ⊢
  refine TakesBefore.peek (isSpace_of_startsNumber starts) ?_
  have other := ne_of_startsNumber starts
  simp only [other 'n' rfl, other 't' rfl, other 'f' rfl, other '"' rfl, other '[' rfl,
    other '{' rfl, if_false, starts, if_true]
  exact number

theorem takes_element_array {text : List Char} {value : Json}
    (takes : TakesBefore array ('[' :: text) value) :
    TakesBefore (element array object) ('[' :: text) value :=
  TakesBefore.peek rfl takes

theorem takes_element_object {text : List Char} {value : Json}
    (takes : TakesBefore object ('{' :: text) value) :
    TakesBefore (element array object) ('{' :: text) value :=
  TakesBefore.peek rfl takes

end Reader

/-- A document of any depth is read as an element. -/
theorem exists_read_eq_element (depth : Nat) :
    ∃ array object, read depth = Reader.element array object := by
  cases depth with
  | zero => exact ⟨_, _, rfl⟩
  | succ depth => exact ⟨_, _, rfl⟩

/-- A document is told from the end of an array. -/
theorem startsElement_print {depth : Nat} {document : Json} (exact : Exact depth document) :
    StartsElement (print document) := by
  cases exact with
  | null => exact ⟨'n', _, rfl, rfl, by decide⟩
  | boolean value =>
    cases value with
    | true => exact ⟨'t', _, rfl, rfl, by decide⟩
    | false => exact ⟨'f', _, rfl, rfl, by decide⟩
  | whole n =>
    obtain ⟨c, text, written, starts⟩ := Reader.exists_printWhole_eq_cons n.val
    exact ⟨c, text, written, Reader.isSpace_of_startsNumber starts,
      Reader.ne_of_startsNumber starts ']' rfl⟩
  | text value => exact ⟨'"', _, rfl, rfl, by decide⟩
  | @array _ items _ =>
    rw [print_array]
    exact ⟨'[', _, rfl, rfl, by decide⟩
  | @object _ members _ _ =>
    rw [print_object]
    exact ⟨'{', _, rfl, rfl, by decide⟩

open Reader in
/-- **A document is read back** from the text that tells it exactly. -/
theorem takes_read {depth : Nat} {document : Json} (exact : Exact depth document) :
    TakesBefore (read depth) (print document) document := by
  induction exact with
  | @null depth =>
    obtain ⟨array, object, element⟩ := exists_read_eq_element depth
    rw [element]
    exact takes_element_null.before
  | @boolean depth value =>
    obtain ⟨array, object, element⟩ := exists_read_eq_element depth
    rw [element]
    exact (takes_element_boolean value).before
  | @whole depth n =>
    obtain ⟨array, object, element⟩ := exists_read_eq_element depth
    rw [element]
    exact takes_element_whole n
  | @text depth value =>
    obtain ⟨array, object, element⟩ := exists_read_eq_element depth
    rw [element]
    exact (takes_element_text value).before
  | @array depth items each ih =>
    have elements : TakesElements (read depth) print items :=
      fun item listed => ⟨startsElement_print (each item listed), ih item listed⟩
    have takes := ((takes_array elements).map Json.array).before
    rw [print_array]
    exact takes_element_array takes
  | @object depth members ascending _ ih =>
    have each := takesEach_members ih [] ascending
    have takes := ((takes_object each .none).map Json.object).before
    rw [print_object]
    exact takes_element_object takes

end PathQuery.Json
