/-
**Settings are read back from their text.**

Settings may be written with any of their members, in any order and with any white space between the
parts (`Settings.Layout`). The members that are there are read one by one, each into a place that is
still empty, and the rest have their defaults. What has been read is then asked whether it can be
used, and a session under it can only miss its dialect:

* `takes_readMember`: a member fills its place;
* `takes_read`: settings are read back from any layout, with defaults for what it leaves out;
* `check_eq_error_iff`, `start_eq_error_iff`: what can be wrong with settings, and with settings
  that can be used;
* `ofText_of_layout`: what comes of the text of settings, and of a session under settings that were
  read.
-/

import PathQuery.Proofs.Json.Reading
import PathQuery.Session
import PathQuery.Settings.Text

namespace PathQuery

namespace Settings

open Json (Entry Gap Reader)
open Json.Reader (Takes TakesEach)

/-- The members of settings. -/
inductive Member where
  | dialect
  | joinKind
  | stem
  | quoteFields
  deriving DecidableEq

namespace Member

/-- The key that a member is written under. -/
def key : Member → String
  | dialect => "dialect"
  | joinKind => "default_join_type"
  | stem => "param_name_prefix"
  | quoteFields => "quote_filter_fields"

/-- The value of a member as it is written. -/
def value (settings : Settings) : Member → List Char
  | dialect => Json.Text.print settings.dialect
  | joinKind => Json.Text.print (Named.name settings.joinKind)
  | stem => Json.Text.print settings.stem
  | quoteFields => Json.printBoolean settings.quoteFields

end Member

/-- A member in a text, with the white space in front of its key, its colon and its value, and
behind its value. -/
structure Placed where
  member : Member
  before : Gap
  colon : Gap
  value : Gap
  after : Gap

/-- A member of these settings as it is written. -/
def Placed.entry (settings : Settings) (placed : Placed) : Entry where
  before := placed.before
  key := placed.member.key
  body := placed.colon.text ++ ':' :: (placed.value.text ++ placed.member.value settings)
  after := placed.after

/-- **How settings are laid out in a text**: which members are there and in which order, and the
white space around them. -/
structure Layout where
  placed : List Placed
  before : Gap
  inner : Gap
  after : Gap

namespace Layout

/-- The members that are there. -/
def members (layout : Layout) : List Member := layout.placed.map (·.member)

/-- The text of settings in a layout. -/
def text (layout : Layout) (settings : Settings) : String :=
  String.ofList (layout.before.text ++
    Json.writeObject (layout.placed.map (Placed.entry settings)) layout.inner ++ layout.after.text)

/-- All members in their order, without white space. -/
def compact : Layout :=
  ⟨[.dialect, .joinKind, .stem, .quoteFields].map (⟨·, .none, .none, .none, .none⟩),
    .none, .none, .none⟩

end Layout

/-- Settings of which only these members are kept. The others have their defaults. -/
def keeping (settings : Settings) (members : List Member) : Settings where
  dialect := if .dialect ∈ members then settings.dialect else default.dialect
  joinKind := if .joinKind ∈ members then settings.joinKind else default.joinKind
  stem := if .stem ∈ members then settings.stem else default.stem
  quoteFields := if .quoteFields ∈ members then settings.quoteFields else default.quoteFields

/-! ### Members -/

/-- What has been read once these members of settings have been. -/
def Given.only (settings : Settings) (members : List Member) : Given where
  dialect := if .dialect ∈ members then some settings.dialect else none
  joinKind := if .joinKind ∈ members then some settings.joinKind else none
  stem := if .stem ∈ members then some settings.stem else none
  quoteFields := if .quoteFields ∈ members then some settings.quoteFields else none

theorem Given.settings_only (settings : Settings) (members : List Member) :
    (Given.only settings members).settings = settings.keeping members := by
  have place {α : Type} (there : Prop) [Decidable there] (value other : α) :
      (if there then some value else none).getD other = if there then value else other := by
    split <;> rfl
  simp only [Given.settings, Given.only, keeping, place]

/-- A value that has not been given fills a place. -/
theorem takes_fill {α : Type} {reader : Reader α} (colon : Gap) {text : List Char} {value : α}
    (takes : Takes reader text value) (fill : Option α → Given) :
    Takes (readOnce none reader >>= fun found => pure (fill found)) (colon.text ++ ':' :: text)
      (fill (some value)) := by
  have once : Takes (readOnce none reader) (colon.text ++ [':'] ++ (text ++ [])) (some value) :=
    (Reader.takes_colon colon).bind (takes.bind (Reader.takes_pure (some value)))
  rw [List.append_nil, List.append_assoc, List.singleton_append] at once
  rw [← List.append_nil (colon.text ++ ':' :: text)]
  exact once.bind (Reader.takes_pure (fill (some value)))

/-- One more member that has been read. -/
theorem Given.only_cons (settings : Settings) (member : Member) (seen : List Member) :
    Given.only settings (member :: seen) =
      match member with
      | .dialect => { Given.only settings seen with dialect := some settings.dialect }
      | .joinKind => { Given.only settings seen with joinKind := some settings.joinKind }
      | .stem => { Given.only settings seen with stem := some settings.stem }
      | .quoteFields =>
        { Given.only settings seen with quoteFields := some settings.quoteFields } := by
  cases member with
  | dialect => simp [Given.only]
  | joinKind => simp [Given.only]
  | stem => simp [Given.only]
  | quoteFields => simp [Given.only]

/-- **A member fills its place**, if that is still empty. -/
theorem takes_readMember (settings : Settings) {seen : List Member} (placed : Placed)
    (fresh : placed.member ∉ seen) :
    Takes (readMember (Given.only settings seen) placed.member.key) (placed.entry settings).body
      (Given.only settings (placed.member :: seen)) := by
  obtain ⟨member, before, colon, value, after⟩ := placed
  rw [Given.only_cons]
  cases member with
  | dialect =>
    have empty : (Given.only settings seen).dialect = none := if_neg fresh
    simp only [readMember, Member.key, if_true, empty]
    exact takes_fill colon (Reader.takes_text value settings.dialect)
      fun found => { Given.only settings seen with dialect := found }
  | joinKind =>
    have empty : (Given.only settings seen).joinKind = none := if_neg fresh
    simp only [readMember, Member.key, String.reduceEq, if_false, if_true, empty]
    exact takes_fill colon (Named.takes_read value settings.joinKind)
      fun found => { Given.only settings seen with joinKind := found }
  | stem =>
    have empty : (Given.only settings seen).stem = none := if_neg fresh
    simp only [readMember, Member.key, String.reduceEq, if_false, if_true, empty]
    exact takes_fill colon (Reader.takes_text value settings.stem)
      fun found => { Given.only settings seen with stem := found }
  | quoteFields =>
    have empty : (Given.only settings seen).quoteFields = none := if_neg fresh
    simp only [readMember, Member.key, String.reduceEq, if_false, if_true, empty]
    exact takes_fill colon (Reader.takes_boolean value settings.quoteFields)
      fun found => { Given.only settings seen with quoteFields := found }

/-- **Members are read one after the other**, in whatever order they come. -/
theorem takesEach_entries (settings : Settings) (placed : List Placed) (seen : List Member)
    (distinct : (placed.map (·.member)).Nodup)
    (fresh : ∀ member ∈ placed.map (·.member), member ∉ seen) :
    TakesEach readMember (Given.only settings seen) (placed.map (Placed.entry settings))
      (Given.only settings ((placed.map (·.member)).reverse ++ seen)) := by
  induction placed generalizing seen with
  | nil => exact .nil _
  | cons first others ih =>
    rw [List.map_cons] at distinct fresh
    obtain ⟨alone, distinct⟩ := List.nodup_cons.mp distinct
    obtain ⟨new, fresh⟩ := List.forall_mem_cons.mp fresh
    have rest := ih (first.member :: seen) distinct fun member listed => by
      rw [List.mem_cons, not_or]
      exact ⟨fun same => alone (same ▸ listed), fresh member listed⟩
    rw [List.map_cons, List.map_cons, List.reverse_cons, List.append_assoc, List.singleton_append]
    exact .cons (takes_readMember settings first new).before rest

/-- **Settings are read from any layout**, with defaults for what it leaves out. -/
theorem takes_read (settings : Settings) (layout : Layout) (distinct : layout.members.Nodup) :
    Takes read (layout.before.text ++
      Json.writeObject (layout.placed.map (Placed.entry settings)) layout.inner)
      (settings.keeping layout.members) := by
  have each := takesEach_entries settings layout.placed [] distinct (by simp)
  have whole : (Given.only settings (layout.members.reverse ++ [])).settings =
      settings.keeping layout.members := by
    rw [Given.settings_only, List.append_nil]
    simp [keeping]
  rw [← whole]
  exact Reader.takes_peek layout.before rfl
    ((Reader.takes_object each layout.inner).map Given.settings)

/-! ### Texts -/

/-- **What comes of the text of settings in a layout.** -/
theorem ofText_text (settings : Settings) (layout : Layout) (distinct : layout.members.Nodup) :
    ofText (layout.text settings) =
      (settings.keeping layout.members).check.map fun _ => settings.keeping layout.members := by
  have run := (takes_read settings layout distinct).run layout.after
  unfold ofText Layout.text
  rw [run]
  rfl

theorem toText_eq (settings : Settings) : settings.toText = Layout.compact.text settings := by
  unfold toText print Layout.text
  simp [printMember, Layout.compact, Placed.entry, Member.key, Member.value, Gap.none,
    Json.writeObject, Entry.writeAll, Entry.writeRest, Entry.write]

/-! ### What can be wrong with settings -/

/-- **What is wrong with settings**: an unset kind of join before a blank stem. -/
theorem check_eq_error_iff {settings : Settings} {error : Error} :
    settings.check = .error error ↔
      settings.joinKind = none ∧ error = .unsetDefaultJoinKind ∨
      settings.joinKind ≠ none ∧ Text.allBlank settings.stem = true ∧
        error = .blankParameterStem := by
  by_cases unset : settings.joinKind = none
  · have refused : settings.check = .error .unsetDefaultJoinKind := by
      unfold check
      rw [unset]
      rfl
    rw [refused, Except.error.injEq]
    constructor
    · exact fun same => .inl ⟨unset, same.symm⟩
    · rintro (⟨_, rfl⟩ | ⟨set, _⟩)
      · rfl
      · exact absurd unset set
  · have set : ¬ settings.joinKind.isNone = true := by simpa using unset
    by_cases blank : Text.allBlank settings.stem = true
    · have refused : settings.check = .error .blankParameterStem := by
        unfold check
        rw [if_neg set, if_pos blank]
      rw [refused, Except.error.injEq]
      constructor
      · exact fun same => .inr ⟨unset, blank, same.symm⟩
      · rintro (⟨none, _⟩ | ⟨_, _, rfl⟩)
        · exact absurd none unset
        · rfl
    · have usable : settings.check = .ok () := by
        unfold check
        rw [if_neg set, if_neg blank]
      rw [usable]
      constructor
      · intro refused
        cases refused
      · rintro (⟨none, _⟩ | ⟨_, held, _⟩)
        · exact absurd none unset
        · exact absurd held blank

/-- Settings that were read can be used. -/
theorem check_of_ofText {text : String} {settings : Settings}
    (read : ofText text = .ok settings) : settings.check = .ok () := by
  unfold ofText at read
  split at read
  · cases read
  · rename_i found _
    cases checked : found.check with
    | error error =>
      rw [checked] at read
      cases read
    | ok =>
      rw [checked] at read
      cases read
      exact checked

end Settings

/-- **Only a name that no dialect goes by is refused**, and the error has it as it was given. -/
theorem Dialect.find_eq_error_iff {name : String} {error : Error} :
    Dialect.find name = .error error ↔ error = .unknownDialect name ∧
      (Text.trim name).toLower ∉ ["sqlserver", "mssql", "postgres", "postgresql"] := by
  have plain (known : String) :
      (Text.trim name).toList.map Char.toLower = known.toList ↔ (Text.trim name).toLower = known := by
    rw [← String.toList_map, String.toList_inj]
    rfl
  have known {dialect : Dialect} (listed : (Text.trim name).toLower ∈
      ["sqlserver", "mssql", "postgres", "postgresql"]) :
      (Except.ok dialect : Except Error Dialect) = .error error ↔ error = .unknownDialect name ∧
        (Text.trim name).toLower ∉ ["sqlserver", "mssql", "postgres", "postgresql"] :=
    ⟨fun refused => (by cases refused), fun missed => absurd listed missed.2⟩
  unfold Dialect.find
  simp only [plain]
  split
  · rename_i first
    refine known ?_
    rcases first with same | same <;> simp [same]
  · split
    · rename_i second
      refine known ?_
      rcases second with same | same <;> simp [same]
    · rename_i first second
      rw [Except.error.injEq, eq_comm]
      simp_all

namespace Settings

/-- **Usable settings can only miss their dialect.** -/
theorem start_eq_error_iff {κ : Type} {catalog : κ → Projection} {settings : Settings}
    {error : Error} (usable : settings.check = .ok ()) :
    Session.start catalog settings = .error error ↔
      Dialect.find settings.dialect = .error error := by
  unfold Session.start
  rw [usable]
  cases found : Dialect.find settings.dialect with
  | error other =>
    show (Except.error other : Except Error (Session κ)) = .error error ↔ _
    rw [Except.error.injEq, Except.error.injEq]
  | ok dialect =>
    constructor
    · intro refused
      cases refused
    · intro refused
      cases refused

/-! ### Reading settings back -/

/-- **Settings are read back from what was written of them, if they can be used.** The members that
a layout leaves out have their defaults. An unset kind of join is found before a blank stem, both
are errors of the configuration, and a session under settings that were read can only miss its
dialect. -/
theorem ofText_of_layout (settings : Settings) :
    ofText settings.toText = (settings.check.map fun _ => settings) ∧
      (∀ layout : Layout, layout.members.Nodup →
        ofText (layout.text settings) =
          (settings.keeping layout.members).check.map fun _ => settings.keeping layout.members) ∧
      (∀ error, settings.check = .error error ↔
        settings.joinKind = none ∧ error = .unsetDefaultJoinKind ∨
          settings.joinKind ≠ none ∧ Text.allBlank settings.stem = true ∧
            error = .blankParameterStem) ∧
      (∀ error, settings.check = .error error → error.kind = .configuration) ∧
      ∀ text, ofText text = .ok settings →
        ∀ (κ : Type) (catalog : κ → Projection) (error : Error),
          Session.start catalog settings = .error error ↔
            error = .unknownDialect settings.dialect ∧
              (Text.trim settings.dialect).toLower ∉
                ["sqlserver", "mssql", "postgres", "postgresql"] := by
  refine ⟨?_, ofText_text settings, fun error => check_eq_error_iff, fun error refused => ?_,
    fun text read κ catalog error => ?_⟩
  · have whole : settings.keeping Layout.compact.members = settings := rfl
    rw [toText_eq, ofText_text settings .compact (by decide), whole]
  · rcases check_eq_error_iff.mp refused with ⟨_, rfl⟩ | ⟨_, _, rfl⟩
    · rfl
    · rfl
  · rw [start_eq_error_iff (check_of_ofText read), Dialect.find_eq_error_iff]

/-- Settings whose kind of join is unset, for a dialect that does not exist. -/
def quaint : Settings := ⟨" Oracle\u00a0", none, "\"\\\u0001\u2028", true⟩

/-- Two members in the other order, with white space. -/
def sparse : Layout where
  placed :=
    [⟨.stem, ⟨[' '], by decide⟩, .none, ⟨[' '], by decide⟩, .none⟩,
      ⟨.dialect, ⟨['\n', '\t'], by decide⟩, ⟨[' '], by decide⟩, .none, ⟨['\r'], by decide⟩⟩]
  before := ⟨['\n'], by decide⟩
  inner := .none
  after := ⟨[' '], by decide⟩

theorem layout_of_quaint :
    ofText quaint.toText = .error .unsetDefaultJoinKind ∧
      sparse.members.Nodup ∧
      ofText (sparse.text quaint) =
        .ok ⟨" Oracle\u00a0", some .left, "\"\\\u0001\u2028", false⟩ ∧
      Session.start (fun _ : Unit => (⟨"P", []⟩ : Projection))
          ⟨" Oracle\u00a0", some .left, "\"\\\u0001\u2028", false⟩ =
        .error (.unknownDialect " Oracle\u00a0") := by
  have distinct : sparse.members.Nodup := by decide
  obtain ⟨whole, parts, _⟩ := ofText_of_layout quaint
  have given := parts sparse distinct
  obtain ⟨_, _, _, _, start⟩ :=
    ofText_of_layout ⟨" Oracle\u00a0", some .left, "\"\\\u0001\u2028", false⟩
  have plain : (Text.trim " Oracle\u00a0").toLower = "oracle" := by
    show (Text.trim " Oracle\u00a0").map Char.toLower = "oracle"
    rw [← String.toList_inj, String.toList_map]
    decide
  exact ⟨whole, distinct, given, (start _ given _ _ _).mpr ⟨rfl, by rw [plain]; decide⟩⟩

end Settings

end PathQuery
