/-
**Sessions answer as if they kept nothing.**

Whatever was asked before, a call gets the answer that it gets in a new session. What is kept shows
only in the stamps of selections, which are those of their keys, and in the events of look-ups.

* `Session.call_of_holds`: what a call comes to behind earlier ones;
* `Session.reply_of_run`: so what every reply of a run says;
* `Session.replies_of_isNew`: answers, stamps, events and what is kept, over whole runs.
-/

import PathQuery.Proofs.Session.Memory

namespace PathQuery

/-- An answer without its stamp. -/
def Answer.unstamped : Answer → Answer
  | .columns found => .columns (found.map fun stored => ⟨0, stored.selection⟩)
  | .select result => .select result
  | .filter result => .filter result
  | .join result => .join result

namespace Session

variable {κ : Type} {session : Session κ}

/-! ### New sessions -/

/-- Sessions as they are made, before any call. -/
inductive IsNew : Session κ → Prop
  | default (catalog : κ → Projection) : IsNew (.default catalog)
  | start {catalog : κ → Projection} {settings : Settings} {session : Session κ}
      (made : Session.start catalog settings = .ok session) : IsNew session

theorem find_default : Dialect.find Settings.default.dialect = .ok .sqlServer := by
  unfold Dialect.find
  exact if_pos (.inl (by decide +kernel))

/-- **What it takes to start**: settings that pass their check and whose dialect is found. Nothing
is kept yet. -/
theorem eq_of_start {catalog : κ → Projection} {settings : Settings}
    (started : Session.start catalog settings = .ok session) :
    settings.check = .ok () ∧ ∃ dialect, Dialect.find settings.dialect = .ok dialect ∧
      session = ⟨settings, dialect, catalog, .empty⟩ := by
  rw [Session.start] at started
  cases checked : settings.check with
  | error error => rw [checked] at started; cases started
  | ok _ =>
    cases found : Dialect.find settings.dialect with
    | error error => rw [checked, found] at started; cases started
    | ok dialect =>
      rw [checked, found] at started
      cases started
      exact ⟨rfl, dialect, rfl, rfl⟩

theorem IsNew.made (new : session.IsNew) :
    session.cache = .empty ∧ Dialect.find session.settings.dialect = .ok session.dialect := by
  cases new with
  | default catalog => exact ⟨rfl, find_default⟩
  | start made =>
    obtain ⟨_, dialect, found, rfl⟩ := eq_of_start made
    exact ⟨rfl, found⟩

theorem IsNew.withCache_empty (new : session.IsNew) : session.withCache .empty = session := by
  rw [withCache, ← new.made.1]

/-- A new session is determined by its settings and its catalog. -/
theorem IsNew.eq {other : Session κ} (new : session.IsNew) (fresh : other.IsNew)
    (settings : other.settings = session.settings) (catalog : other.catalog = session.catalog) :
    other = session := by
  obtain ⟨empty, dialect⟩ := new.made
  obtain ⟨empty', dialect'⟩ := fresh.made
  rw [settings, dialect] at dialect'
  cases session
  cases other
  simp_all

/-! ### Calls -/

/-- The draft for a selection, if there is one with columns, and the events on the way. -/
def draft (session : Session κ) (source : String) (filter : Option Filter) :
    Option Selection → Except Error (Option Draft) × List Event
  | none => (.ok none, [])
  | some selection =>
    if selection.columns.isEmpty then (.ok none, [])
    else
      (do
        let clause ← (session.filter? filter).1
        some <$> session.write ⟨source, selection, clause⟩,
      (session.filter? filter).2)

variable [DecidableEq κ]

theorem select_eq (source : String) (filter : Option Filter) (key : κ) :
    session.select source filter key =
      let found := session.columns source key
      let drafted := session.draft source filter (found.answer.map (·.selection))
      ⟨drafted.1, found.session, found.events ++ drafted.2⟩ := by
  rw [select]
  cases found : (session.columns source key).answer with
  | none => simp only [found, Option.map_none, draft, List.append_nil]
  | some stored =>
    cases empty : stored.selection.columns.isEmpty with
    | true => simp only [found, Option.map_some, draft, empty, if_true, List.append_nil]
    | false => simp only [found, Option.map_some, draft, empty, Bool.false_eq_true, if_false]

/-- The answer to a call behind earlier ones: that of the plain parts, with the stamp of the key. -/
def plainAnswer (session : Session κ) (earlier : List (Call κ)) : Call κ → Answer
  | .columns source key => .columns ((session.selected (source, key)).map
      (Stored.mk ((session.note (session.kept earlier) (source, key)).idxOf (source, key))))
  | .select source filter key =>
    .select (session.draft source filter (session.selected (source, key))).1
  | .filter filter => .filter (session.filter filter).1
  | .join join => .join (session.join join)

/-- The events of a call behind earlier ones. -/
def plainEvents (session : Session κ) (earlier : List (Call κ)) : Call κ → List Event
  | .columns source key => session.lookupEvents (session.kept earlier) (source, key)
  | .select source filter key =>
    session.lookupEvents (session.kept earlier) (source, key) ++
      (session.draft source filter (session.selected (source, key))).2
  | .filter filter => (session.filter filter).2
  | .join _ => []

/-- **What a call comes to behind earlier ones.** -/
theorem call_of_holds {cache : Cache κ} {earlier : List (Call κ)}
    (holds : cache.Holds session.selected (session.kept earlier)) (call : Call κ) :
    ∃ later : Cache κ, later.Holds session.selected (session.kept (earlier ++ [call])) ∧
      (session.withCache cache).call call =
        ⟨session.plainAnswer earlier call, session.withCache later,
          session.plainEvents earlier call⟩ := by
  cases call with
  | columns source key =>
    obtain ⟨later, held, found⟩ := columns_of_holds holds (source, key)
    refine ⟨later, by rwa [session.kept_of_key earlier rfl], ?_⟩
    rw [Session.call, found]
    rfl
  | select source filter key =>
    obtain ⟨later, held, found⟩ := columns_of_holds holds (source, key)
    refine ⟨later, by rwa [session.kept_of_key earlier rfl], ?_⟩
    have same : ((session.selected (source, key)).map (Stored.mk
        ((session.note (session.kept earlier) (source, key)).idxOf (source, key)))).map
          (·.selection) = session.selected (source, key) := by
      rw [Option.map_map]
      exact Option.map_id'
    rw [Session.call, select_eq, found]
    dsimp only
    rw [same]
    rfl
  | filter filter =>
    refine ⟨cache, by rwa [session.kept_of_no_key earlier rfl], rfl⟩
  | join join =>
    refine ⟨cache, by rwa [session.kept_of_no_key earlier rfl], rfl⟩

/-- **What every reply of a run says.** -/
theorem reply_of_run (calls : List (Call κ)) {cache : Cache κ} {earlier : List (Call κ)}
    (holds : cache.Holds session.selected (session.kept earlier)) {n : Nat} {call : Call κ}
    (asked : calls[n]? = some call) :
    ∃ later : Cache κ,
      later.Holds session.selected (session.kept (earlier ++ calls.take (n + 1))) ∧
      ((session.withCache cache).run calls)[n]? =
        some ⟨session.plainAnswer (earlier ++ calls.take n) call, session.withCache later,
          session.plainEvents (earlier ++ calls.take n) call⟩ := by
  -- What is held behind the first call is what the rest of the run starts from.
  induction calls generalizing cache earlier n with
  | nil => cases asked
  | cons first calls ih =>
    obtain ⟨next, held, reply⟩ := call_of_holds holds first
    rw [run, reply]
    cases n with
    | zero =>
      obtain rfl : first = call := Option.some.inj asked
      refine ⟨next, ?_, ?_⟩
      · rwa [List.take_succ_cons, List.take_zero]
      · rw [List.take_zero, List.append_nil, List.getElem?_cons_zero]
    | succ n =>
      obtain ⟨later, kept, found⟩ := ih held asked
      rw [List.append_assoc, List.singleton_append] at kept found
      exact ⟨later, kept, by rwa [List.getElem?_cons_succ, List.take_succ_cons]⟩

theorem length_run (session : Session κ) (calls : List (Call κ)) :
    (session.run calls).length = calls.length := by
  induction calls generalizing session with
  | nil => rfl
  | cons call calls ih => rw [run, List.length_cons, ih, List.length_cons]

/-! ### Runs of new sessions -/

theorem unstamped_plainAnswer (earlier : List (Call κ)) (call : Call κ) :
    (session.plainAnswer earlier call).unstamped = (session.plainAnswer [] call).unstamped := by
  cases call with
  | columns source key => simp only [plainAnswer, Answer.unstamped, Option.map_map]; rfl
  | select source filter key => rfl
  | filter filter => rfl
  | join join => rfl

/-- **A reply behind earlier calls that nobody tells from one without them**, but for the stamp and
the events of the look-up. -/
structure Faithful (session : Session κ) (earlier : List (Call κ)) (call : Call κ)
    (reply : Reply κ Answer) : Prop where
  answer : ∀ other : Session κ, other.IsNew → other.settings = session.settings →
    other.catalog = session.catalog →
      reply.answer.unstamped = (other.call call).answer.unstamped
  columns : ∀ source key, call = .columns source key → ∃ stamp, reply.answer = .columns
    (((session.catalog key).resolve source session.settings.joinKind).1.map (Stored.mk stamp))
  columnsEvents : ∀ source key, call = .columns source key →
    reply.events = session.lookupEvents (session.kept earlier) (source, key)
  selectEvents : ∀ source filter key, call = .select source filter key →
    reply.events = session.lookupEvents (session.kept earlier) (source, key) ++
      (session.draft source filter (session.selected (source, key))).2
  size : reply.session.cache.size = (session.kept (earlier ++ [call])).length

/-- A new session gives the plain answer. -/
theorem IsNew.answer_call (new : session.IsNew) (call : Call κ) :
    (session.call call).answer = session.plainAnswer [] call := by
  have nothing : Cache.empty.Holds session.selected (session.kept []) := .empty _
  obtain ⟨_, _, reply⟩ := call_of_holds nothing call
  rw [new.withCache_empty] at reply
  rw [reply]

theorem IsNew.reply_of_run (new : session.IsNew) {calls : List (Call κ)} {n : Nat} {call : Call κ}
    (asked : calls[n]? = some call) :
    ∃ later : Cache κ, later.Holds session.selected (session.kept (calls.take n ++ [call])) ∧
      (session.run calls)[n]? = some ⟨session.plainAnswer (calls.take n) call,
        session.withCache later, session.plainEvents (calls.take n) call⟩ := by
  have nothing : Cache.empty.Holds session.selected (session.kept []) := .empty _
  obtain ⟨later, held, reply⟩ := Session.reply_of_run calls nothing asked
  rw [new.withCache_empty, List.nil_append] at reply
  rw [List.nil_append, List.take_add_one, asked] at held
  exact ⟨later, held, reply⟩

/-- **Every call of a run has a reply, and it is faithful.** -/
theorem IsNew.faithful (new : session.IsNew) {calls : List (Call κ)} {n : Nat} {call : Call κ}
    (asked : calls[n]? = some call) :
    ∃ reply, (session.run calls)[n]? = some reply ∧ session.Faithful (calls.take n) call reply := by
  obtain ⟨later, held, reply⟩ := new.reply_of_run asked
  refine ⟨_, reply, ?_⟩
  constructor
  case answer =>
    intro other fresh settings catalog
    obtain rfl := new.eq fresh settings catalog
    rw [new.answer_call, unstamped_plainAnswer]
  case columns =>
    rintro source key rfl
    exact ⟨_, rfl⟩
  case columnsEvents =>
    rintro source key rfl
    rfl
  case selectEvents =>
    rintro source filter key rfl
    rfl
  case size => exact held.size

/-- The stamp of what is handed out is the place of its key among all that are kept. -/
theorem IsNew.stamp_of_run (new : session.IsNew) {calls : List (Call κ)} {n : Nat}
    {source : String} {key : κ} (asked : calls[n]? = some (.columns source key)) {stored : Stored}
    (answered : (session.run calls)[n]?.map (·.answer) = some (.columns (some stored))) :
    (source, key) ∈ session.kept calls ∧
      stored.stamp = (session.kept calls).idxOf (source, key) := by
  obtain ⟨later, held, reply⟩ := new.reply_of_run asked
  rw [reply, Option.map_some] at answered
  obtain ⟨selection, made, rfl⟩ :=
    Option.map_eq_some_iff.mp (Answer.columns.inj (Option.some.inj answered))
  have known : (source, key) ∈ session.kept (calls.take n ++ [.columns source key]) := by
    rw [mem_kept, made]
    exact ⟨by simp [Call.key?], rfl⟩
  -- Later calls put their keys behind this one, so its place stays.
  have grows := session.kept_prefix (calls.take (n + 1)) (calls.drop (n + 1))
  rw [List.take_append_drop, List.take_add_one, asked, Option.toList_some] at grows
  have noted := session.kept_of_key (calls.take n)
    (show Call.key? (.columns source key) = some (source, key) from rfl)
  refine ⟨grows.subset known, ?_⟩
  rw [← grows.idxOf_eq_of_mem known, noted]

/-- **A session answers as if it kept nothing**, and keeps what it should: each reply of a run is
faithful, and what is handed out twice is the very same one just when source and key are the
same. -/
theorem replies_of_isNew (new : session.IsNew) (calls : List (Call κ)) :
    (session.run calls).length = calls.length ∧ session.cache.size = 0 ∧
      (∀ n call, calls[n]? = some call → ∃ reply, (session.run calls)[n]? = some reply ∧
        session.Faithful (calls.take n) call reply) ∧
      ∀ (n m : Nat) (source other : String) (key wanted : κ) (stored same : Stored),
        calls[n]? = some (.columns source key) → calls[m]? = some (.columns other wanted) →
        (session.run calls)[n]?.map (·.answer) = some (.columns (some stored)) →
        (session.run calls)[m]?.map (·.answer) = some (.columns (some same)) →
          (stored.stamp = same.stamp ↔ source = other ∧ key = wanted) := by
  refine ⟨length_run session calls, ?_, fun n call asked => new.faithful asked, ?_⟩
  · rw [new.made.1]
    rfl
  · intro n m source other key wanted stored same first second given again
    obtain ⟨known, stamp⟩ := new.stamp_of_run first given
    obtain ⟨_, stamp'⟩ := new.stamp_of_run second again
    rw [stamp, stamp', List.idxOf_inj known, Prod.mk.injEq]

/-- Two projections alike, one without fields, and one whose path is a column and no hop. -/
def ledger : Nat → Projection
  | 0 => ⟨"Entry", [⟨"Id", none⟩]⟩
  | 1 => ⟨"Entry", [⟨"Id", none⟩]⟩
  | 2 => ⟨"Nothing", []⟩
  | _ => ⟨"Astray", [⟨"Name", some "[Owner"⟩]⟩

/-- Calls of which some resolve to nothing, one fails behind its look-up, and some come back. -/
def repeating : List (Call Nat) :=
  [.columns " " 0, .columns "Entry" 2, .columns "Entry" 3,
    .select "Entry" (some ⟨none, [], [], none⟩) 0, .columns "Entry" 0, .columns "Entry" 1,
    .columns "Entry" 3, .columns "entry" 0]

/-- A select that fails keeps its selection, projections alike are told apart, and nothing is kept of
what resolves to nothing. -/
theorem replies_of_repeating :
    (Session.default ledger).IsNew ∧
      ((Session.default ledger).run repeating).length = 8 ∧
      (∃ reply, ((Session.default ledger).run repeating)[4]? = some reply ∧
        reply.events = [.cacheHit "Entry" "Entry"]) ∧
      (∃ reply, ((Session.default ledger).run repeating)[7]? = some reply ∧
        reply.session.cache.size = 4) ∧
      ∀ stored same : Stored,
        ((Session.default ledger).run repeating)[4]?.map (·.answer) =
          some (.columns (some stored)) →
        ((Session.default ledger).run repeating)[5]?.map (·.answer) =
          some (.columns (some same)) →
        stored.stamp ≠ same.stamp := by
  have new : (Session.default ledger).IsNew := .default ledger
  obtain ⟨length, _, faithful, stamps⟩ := replies_of_isNew new repeating
  refine ⟨new, length, ?_, ?_, ?_⟩
  · obtain ⟨reply, found, told⟩ := faithful 4 (.columns "Entry" 0) rfl
    refine ⟨reply, found, ?_⟩
    rw [told.columnsEvents "Entry" 0 rfl]
    decide +kernel
  · obtain ⟨reply, found, told⟩ := faithful 7 (.columns "entry" 0) rfl
    refine ⟨reply, found, ?_⟩
    rw [told.size]
    decide +kernel
  · intro stored same given again equal
    have keys := (stamps 4 5 "Entry" "Entry" 0 1 stored same rfl rfl given again).mp equal
    exact absurd keys.2 (by decide)

end Session

end PathQuery
