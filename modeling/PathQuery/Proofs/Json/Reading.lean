/-
**What readers take of written JSON.**

A reader takes a text when it reads the text's value off the front and stops right behind it,
whatever follows (`Reader.Takes`). Readers that come one after the other take texts that stand one
behind the other, and white space is passed over in front of every part:

* `Takes.bind`, `takes_peek`: texts side by side, and the white space in front of one;
* `TakesBefore`: numerals have no end of their own, so they are only taken in front of one (`Ends`);
* `takes_text`, `takes_boolean`, `Named.takes_read`: texts, truth values and options by name;
* `takes_object`: an object is taken member by member, each from what came of the members before.
-/

import PathQuery.Json.Printer
import PathQuery.Options

namespace PathQuery

namespace Json

/-- White space between the parts of a document. -/
structure Gap where
  text : List Char
  blank : text.all Reader.isSpace = true

/-- No white space at all. -/
def Gap.none : Gap := ⟨[], rfl⟩

/-- White space and more of it. -/
def Gap.append (first second : Gap) : Gap where
  text := first.text ++ second.text
  blank := by rw [List.all_append, first.blank, second.blank]; rfl

namespace Reader

variable {α β κ : Type}

/-- **A reader takes a text**: it reads the value of the text, and leaves whatever follows. -/
def Takes (reader : Reader α) (text : List Char) (value : α) : Prop :=
  ∀ rest, StateT.run reader (text ++ rest) = .ok (value, rest)

/-- A reader goes on with what came of the one before it. -/
theorem run_bind {reader : Reader α} {next : α → Reader β} {text rest : List Char} {value : α}
    (first : StateT.run reader text = .ok (value, rest)) :
    StateT.run (reader >>= next) text = StateT.run (next value) rest := by
  rw [StateT.run_bind, first]
  rfl

theorem takes_pure (value : α) : Takes (pure value) [] value := fun _ => rfl

/-- **Readers one after the other take texts one behind the other.** -/
theorem Takes.bind {reader : Reader α} {next : α → Reader β} {text more : List Char} {value : α}
    {result : β} (first : Takes reader text value) (second : Takes (next value) more result) :
    Takes (reader >>= next) (text ++ more) result := by
  intro rest
  rw [List.append_assoc, run_bind (first _)]
  exact second rest

/-- A reader whose value is turned into another one takes the same text. -/
theorem Takes.map {reader : Reader α} {text : List Char} {value : α} (turn : α → β)
    (first : Takes reader text value) : Takes (turn <$> reader) text (turn value) := by
  intro rest
  rw [StateT.run_map, first]
  rfl

theorem Takes.convert {reader : Reader α} {convert? : α → Option β} {text : List Char} {value : α}
    {result : β} (first : Takes reader text value) (converts : convert? value = some result) :
    Takes (Reader.convert reader convert?) text result := by
  unfold Reader.convert
  rw [← List.append_nil text]
  refine first.bind ?_
  rw [converts]
  exact takes_pure result

/-- **A text that a reader takes is a whole text**, with white space behind it. -/
theorem Takes.run {reader : Reader α} {text : List Char} {value : α}
    (takes : Takes reader text value) (after : Gap) :
    Reader.run reader (String.ofList (text ++ after.text)) = .ok value := by
  unfold Reader.run
  rw [String.toList_ofList, takes]
  show (if after.text.all isSpace then Except.ok value else throw Fault.malformed) = _
  rw [after.blank]
  rfl

/-! ### In front of an end -/

/-- Whether a numeral goes on with this character. -/
def inNumeral (c : Char) : Bool := c.isDigit || c == '.' || c == 'e' || c == 'E'

/-- What a numeral ends in front of. -/
def Ends (rest : List Char) : Prop := ∀ c ∈ rest.head?, inNumeral c = false

/-- **A reader takes a text in front of an end**: it reads the value of the text and leaves what
follows, as long as no numeral goes on with it. -/
def TakesBefore (reader : Reader α) (text : List Char) (value : α) : Prop :=
  ∀ rest, Ends rest → StateT.run reader (text ++ rest) = .ok (value, rest)

theorem ends_cons {c : Char} (other : inNumeral c = false) (rest : List Char) :
    Ends (c :: rest) := by
  rintro d ⟨⟩
  exact other

theorem inNumeral_of_isSpace {c : Char} (space : isSpace c = true) : inNumeral c = false := by
  unfold isSpace at space
  simp only [Bool.or_eq_true, beq_iff_eq] at space
  rcases space with ((rfl | rfl) | rfl) | rfl <;> rfl

/-- White space ends a numeral. -/
theorem ends_gap (gap : Gap) {rest : List Char} (ends : Ends rest) : Ends (gap.text ++ rest) := by
  obtain ⟨text, blank⟩ := gap
  cases text with
  | nil => exact ends
  | cons c text =>
    rw [List.all_cons, Bool.and_eq_true] at blank
    exact ends_cons (inNumeral_of_isSpace blank.1) _

theorem Takes.before {reader : Reader α} {text : List Char} {value : α}
    (takes : Takes reader text value) : TakesBefore reader text value :=
  fun rest _ => takes rest

theorem Takes.bindBefore {reader : Reader α} {next : α → Reader β} {text more : List Char}
    {value : α} {result : β} (first : Takes reader text value)
    (second : TakesBefore (next value) more result) :
    TakesBefore (reader >>= next) (text ++ more) result := by
  intro rest ends
  rw [List.append_assoc, run_bind (first _)]
  exact second rest ends

/-- What was read in front of an end may be put to use without reading on. -/
theorem TakesBefore.bind {reader : Reader α} {next : α → Reader β} {text : List Char} {value : α}
    {result : β} (first : TakesBefore reader text value) (second : Takes (next value) [] result) :
    TakesBefore (reader >>= next) text result := by
  intro rest ends
  rw [run_bind (first rest ends)]
  exact second rest

theorem TakesBefore.map {reader : Reader α} {text : List Char} {value : α} (turn : α → β)
    (first : TakesBefore reader text value) : TakesBefore (turn <$> reader) text (turn value) := by
  rw [map_eq_pure_bind]
  exact first.bind (takes_pure _)

theorem TakesBefore.convert {reader : Reader α} {convert? : α → Option β} {text : List Char}
    {value : α} {result : β} (first : TakesBefore reader text value)
    (converts : convert? value = some result) :
    TakesBefore (Reader.convert reader convert?) text result := by
  refine first.bind ?_
  rw [converts]
  exact takes_pure result

/-! ### White space -/

theorem run_peek (gap : Gap) {c : Char} (dark : isSpace c = false) (rest : List Char) :
    StateT.run peek (gap.text ++ c :: rest) = .ok (some c, c :: rest) := by
  have cut : (gap.text ++ c :: rest).dropWhile isSpace = c :: rest := by
    rw [List.dropWhile_append_of_pos (List.all_eq_true.mp gap.blank),
      List.dropWhile_cons_of_neg (by rw [dark]; exact Bool.false_ne_true)]
  simp only [peek, StateT.run_bind, StateT.run_get, pure_bind, StateT.run_set, StateT.run_pure, cut]
  rfl

/-- **White space is passed over** in front of what a reader looks at first. -/
theorem takes_peek (gap : Gap) {c : Char} (dark : isSpace c = false) {next : Option Char → Reader α}
    {text : List Char} {value : α} (takes : Takes (next (some c)) (c :: text) value) :
    Takes (peek >>= next) (gap.text ++ c :: text) value := by
  intro rest
  rw [List.append_assoc, List.cons_append, run_bind (run_peek gap dark _)]
  exact takes rest

/-- Without white space a reader looks at what is there. -/
theorem run_peek_dark {c : Char} (dark : isSpace c = false) (rest : List Char) :
    StateT.run peek (c :: rest) = .ok (some c, c :: rest) :=
  run_peek .none dark rest

theorem TakesBefore.peek {c : Char} (dark : isSpace c = false) {next : Option Char → Reader α}
    {text : List Char} {value : α} (takes : TakesBefore (next (some c)) (c :: text) value) :
    TakesBefore (Reader.peek >>= next) (c :: text) value := by
  intro rest ends
  rw [List.cons_append, run_bind (run_peek_dark dark _)]
  exact takes rest ends

/-! ### Parts of a document -/

theorem run_skip (c : Char) (rest : List Char) : StateT.run skip (c :: rest) = .ok ((), rest) := rfl

theorem takes_skip (c : Char) : Takes skip [c] () := run_skip c

theorem takes_colon (gap : Gap) : Takes colon (gap.text ++ [':']) () :=
  takes_peek gap rfl (takes_skip ':')

theorem takes_spell (word : List Char) : Takes (spell word) word () := by
  induction word with
  | nil => exact takes_pure ()
  | cons c word ih =>
    intro rest
    have step : StateT.run (spell (c :: word)) (c :: word ++ rest) =
        StateT.run (spell word) (word ++ rest) := by
      simp [spell]
    rw [step]
    exact ih rest

theorem takes_characters (text : String) :
    Takes characters (Text.escape text.toList ++ ['"']) text := by
  intro rest
  have written := Text.read_escape text.toList rest
  rw [List.append_assoc, List.singleton_append]
  show StateT.run (do return String.ofList (← taking Text.read) : Reader String) _ = _
  rw [StateT.run_bind]
  show (Text.read _ >>= _) = _
  rw [written]
  show StateT.run (pure (String.ofList text.toList) : Reader String) rest = _
  rw [String.ofList_toList]
  rfl

theorem takes_text (gap : Gap) (text : String) :
    Takes Reader.text (gap.text ++ Text.print text) text :=
  takes_peek gap rfl ((takes_skip '"').bind (takes_characters text))

theorem takes_boolean (gap : Gap) (value : Bool) :
    Takes boolean (gap.text ++ printBoolean value) value := by
  cases value with
  | true => exact takes_peek gap rfl ((takes_spell "true".toList).bind (takes_pure true))
  | false => exact takes_peek gap rfl ((takes_spell "false".toList).bind (takes_pure false))

/-! ### Objects -/

end Reader

/-- A member of an object as it is written: its key, and what is written from behind the key to the
end of the value, with white space around them. -/
structure Entry where
  before : Gap
  key : String
  body : List Char
  after : Gap

/-- The text of a member. -/
def Entry.write (entry : Entry) : List Char :=
  entry.before.text ++ (Text.print entry.key ++ (entry.body ++ entry.after.text))

/-- Members behind the first, each with the comma in front of it. -/
def Entry.writeRest (entries : List Entry) : List Char :=
  entries.flatMap fun entry => ',' :: entry.write

/-- All members of an object. -/
def Entry.writeAll : List Entry → List Char
  | [] => []
  | entry :: rest => entry.write ++ writeRest rest

/-- An object as it is written, with white space in front of its last brace. -/
def writeObject (entries : List Entry) (inner : Gap) : List Char :=
  '{' :: (Entry.writeAll entries ++ (inner.text ++ ['}']))

/-- Every member takes at least one character. -/
theorem Entry.length_le_writeAll (entries : List Entry) :
    entries.length ≤ (writeAll entries).length := by
  have rest (entries : List Entry) : entries.length ≤ (writeRest entries).length := by
    induction entries with
    | nil => exact Nat.le_refl 0
    | cons entry entries ih =>
      have split : writeRest (entry :: entries) = (',' :: entry.write) ++ writeRest entries := rfl
      rw [split, List.length_append, List.length_cons, List.length_cons]
      omega
  cases entries with
  | nil => exact Nat.le_refl 0
  | cons entry entries =>
    have written : 0 < entry.write.length := by
      simp only [write, Text.print, List.length_append, List.length_cons]
      omega
    have others := rest entries
    rw [writeAll, List.length_append, List.length_cons]
    omega

namespace Reader

variable {α : Type} {step : α → String → Reader α}

/-- **What comes of members one after the other**: each is taken from what came of those before. -/
inductive TakesEach (step : α → String → Reader α) : α → List Entry → α → Prop
  | nil (state : α) : TakesEach step state [] state
  | cons {state next final : α} {entry : Entry} {rest : List Entry}
      (takes : TakesBefore (step state entry.key) entry.body next)
      (others : TakesEach step next rest final) : TakesEach step state (entry :: rest) final

/-! #### Whether an object goes on -/

theorem run_moreMembers_end (gap : Gap) (first : Bool) (rest : List Char) :
    StateT.run (moreMembers first) (gap.text ++ '}' :: rest) = .ok (false, '}' :: rest) :=
  run_bind (run_peek gap rfl _)

theorem run_moreMembers_first (before : Gap) (key : String) (rest : List Char) :
    StateT.run (moreMembers true) (before.text ++ (Text.print key ++ rest)) =
      .ok (true, Text.print key ++ rest) :=
  run_bind (@run_peek before '"' rfl _)

theorem run_moreMembers_next (gap before : Gap) (key : String) (rest : List Char) :
    StateT.run (moreMembers false) (gap.text ++ ',' :: (before.text ++ (Text.print key ++ rest))) =
      .ok (true, Text.print key ++ rest) := by
  unfold moreMembers
  rw [run_bind (run_peek gap rfl _)]
  exact (run_bind (takes_skip ',' _)).trans (run_bind (@run_peek before '"' rfl _))

/-! #### Members -/

/-- A value ends where the next member or the brace comes. -/
theorem ends_behind (after inner : Gap) (entries : List Entry) (rest : List Char) :
    Ends (after.text ++ (Entry.writeRest entries ++ (inner.text ++ '}' :: rest))) := by
  refine ends_gap after ?_
  cases entries with
  | nil => exact ends_gap inner (ends_cons rfl rest)
  | cons entry entries => exact ends_cons rfl _

/-- A member is taken from behind its opening mark, and the others follow. -/
theorem run_members_of_more {first : Bool} {text behind body : List Char} {key : String}
    {state next : α} (more : StateT.run (moreMembers first) text =
      .ok (true, Text.print key ++ (body ++ behind)))
    (takes : TakesBefore (step state key) body next) (ends : Ends behind) (fuel : Nat) :
    StateT.run (members characters step (fuel + 1) first state) text =
      StateT.run (members characters step fuel false next) behind := by
  rw [members, run_bind more]
  exact (run_bind (takes_skip '"' _)).trans
    ((run_bind (takes_characters key _)).trans (run_bind (takes behind ends)))

/-- **Members behind the first are taken up to the brace** that ends the object. -/
theorem run_members_rest {state final : α} {entries : List Entry}
    (each : TakesEach step state entries final) {fuel : Nat} (enough : entries.length < fuel)
    (gap inner : Gap) (rest : List Char) :
    StateT.run (members characters step fuel false state)
        (gap.text ++ (Entry.writeRest entries ++ (inner.text ++ '}' :: rest))) =
      .ok (final, '}' :: rest) := by
  induction each generalizing fuel gap with
  | nil state =>
    obtain ⟨fuel, rfl⟩ := Nat.exists_eq_add_one_of_ne_zero (Nat.ne_of_gt enough)
    have ends := run_moreMembers_end (gap.append inner) false rest
    rw [Gap.append, List.append_assoc] at ends
    exact run_bind ends
  | @cons state next final entry entries takes others ih =>
    obtain ⟨fuel, rfl⟩ := Nat.exists_eq_add_one_of_ne_zero (Nat.ne_of_gt (Nat.zero_lt_of_lt enough))
    have more := run_moreMembers_next gap entry.before entry.key
      (entry.body ++ (entry.after.text ++ (Entry.writeRest entries ++ (inner.text ++ '}' :: rest))))
    simp only [Entry.writeRest, List.flatMap_cons, Entry.write, List.cons_append, List.append_assoc]
      at more ⊢
    rw [run_members_of_more more takes (ends_behind _ _ _ _)]
    exact ih (by simpa using enough) entry.after

/-- **The members of an object are taken up to the brace** that ends it. -/
theorem run_members {state final : α} {entries : List Entry}
    (each : TakesEach step state entries final) {fuel : Nat} (enough : entries.length < fuel)
    (inner : Gap) (rest : List Char) :
    StateT.run (members characters step fuel true state)
        (Entry.writeAll entries ++ (inner.text ++ '}' :: rest)) = .ok (final, '}' :: rest) := by
  obtain ⟨fuel, rfl⟩ := Nat.exists_eq_add_one_of_ne_zero (Nat.ne_of_gt (Nat.zero_lt_of_lt enough))
  cases each with
  | nil => exact run_bind (run_moreMembers_end inner true rest)
  | @cons _ next _ entry entries takes others =>
    have more := run_moreMembers_first entry.before entry.key
      (entry.body ++ (entry.after.text ++ (Entry.writeRest entries ++ (inner.text ++ '}' :: rest))))
    simp only [Entry.writeAll, Entry.write, List.append_assoc]
    rw [run_members_of_more more takes (ends_behind _ _ _ _)]
    exact run_members_rest others (by simpa using enough) entry.after inner rest

/-- **An object is taken member by member.** -/
theorem takes_object {start final : α} {entries : List Entry}
    (each : TakesEach step start entries final) (inner : Gap) :
    Takes (object characters step start) (writeObject entries inner) final := by
  intro rest
  have size := Entry.length_le_writeAll entries
  have text : Entry.writeAll entries ++ (inner.text ++ ['}']) ++ rest =
      Entry.writeAll entries ++ (inner.text ++ '}' :: rest) := by
    rw [List.append_assoc, List.append_assoc, List.singleton_append]
  have enough : entries.length <
      (Entry.writeAll entries ++ (inner.text ++ '}' :: rest)).length + 1 := by
    rw [List.length_append]
    omega
  unfold object
  rw [writeObject, List.cons_append, text, run_bind (run_skip '{' _), run_bind (StateT.run_get _),
    run_bind (run_members each enough inner rest), run_bind (run_skip '}' rest)]
  rfl

end Reader

end Json

open Json in
/-- **An option is taken by its name.** -/
theorem Named.takes_read {α : Type} [Named α] (gap : Gap) (choice : Option α) :
    Reader.Takes Named.read (gap.text ++ Text.print (Named.name choice)) choice :=
  Reader.takes_peek gap rfl
    (((Reader.takes_text .none _).convert (Named.ofName?_name choice)).convert rfl)

end PathQuery
