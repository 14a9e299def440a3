/-
**Values are read back from their text.**

A value is written as the name of its sort and its content, and each sort has a reader that takes
what is written of it. Left out are floats, whose text need not tell them, and documents whose own
text does not (`Json.Exact`).

* `signed?_toInt`, `unsigned?_toNat`, `byte?_toNat`: a word is found again among whole numbers;
* `takes_tagged`: a named content is taken if the content is;
* `takes_readContent`: the content of a value is read back, sort by sort;
* `restored_of_exact`: a value is read back, and no other value has its text.
-/

import PathQuery.Proofs.Calendar.Readback
import PathQuery.Proofs.Json.Documents
import PathQuery.Value.Text

namespace PathQuery

namespace Json.Reader

variable {α τ : Type}

theorem takes_key (name : String) : Takes key (Text.print name) name :=
  takes_peek .none rfl ((takes_skip '"').bind (takes_characters name))

/-- **A named content is taken** if the content is, in front of the brace behind it. -/
theorem takes_tagged {tag? : String → Option τ} {alone? : τ → Option α} {content : τ → Reader α}
    {name : String} {tag : τ} {text : List Char} {value : α} (known : tag? name = some tag)
    (takes : TakesBefore (content tag) text value) :
    Takes (tagged tag? alone? content) ('{' :: (Text.print name ++ ':' :: text ++ ['}']))
      value := by
  intro rest
  have parts : '{' :: (Text.print name ++ ':' :: text ++ ['}']) ++ rest =
      '{' :: (Text.print name ++ (':' :: (text ++ '}' :: rest))) := by
    simp
  have tagRead := (takes_key name).convert known (':' :: (text ++ '}' :: rest))
  have colonRead := takes_colon .none (text ++ '}' :: rest)
  have valueRead := takes ('}' :: rest) (ends_cons rfl rest)
  have braceSeen := @run_peek_dark '}' rfl rest
  unfold tagged
  rw [parts, run_bind (run_peek_dark rfl _)]
  refine (run_bind (run_skip '{' _)).trans ((run_bind tagRead).trans ?_)
  exact (run_bind colonRead).trans ((run_bind valueRead).trans (run_bind braceSeen))

end Json.Reader

namespace Value

open Json (Reader)
open Json.Reader (Takes TakesBefore)
open Decimal (Number Whole)

/-- **Values that their text tells exactly.** -/
def Exact : Value → Prop
  | .float _ => False
  | .json document => document.Exact (Json.nestingLimit - 1)
  | _ => True

/-! ### Words -/

theorem whole?_of_le {lowest highest : Int} {n : Whole} (lower : lowest ≤ n.val)
    (upper : n.val ≤ highest) : whole? lowest highest (.whole n) = some n.val :=
  if_pos ⟨lower, upper⟩

theorem signed?_toInt (value : Int64) {n : Whole} (same : n.val = value.toInt) :
    signed? 64 (.whole n) = some value := by
  have least := value.le_toInt
  have greatest := value.toInt_lt
  show (whole? (-9223372036854775808) 9223372036854775807 (.whole n)).map Int64.ofInt = _
  rw [whole?_of_le (by omega) (by omega), same, Option.map_some, Int64.ofInt_toInt]

theorem unsigned?_toNat (value : UInt64) {n : Whole} (same : n.val = value.toNat) :
    unsigned? 64 (.whole n) = some value := by
  have greatest := value.toNat_lt
  show (whole? 0 18446744073709551615 (.whole n)).map (fun n => UInt64.ofNat n.toNat) = _
  rw [whole?_of_le (by omega) (by omega), same, Option.map_some, Int.toNat_natCast,
    UInt64.ofNat_toNat]

theorem byte?_toNat (value : UInt8) {n : Whole} (same : n.val = value.toNat) :
    byte? (.whole n) = some value := by
  have greatest := value.toNat_lt
  unfold byte?
  rw [whole?_of_le (by omega) (by omega), same, Option.map_some, Int.toNat_natCast,
    UInt8.ofNat_toNat]

/-- **A word is read back** from the whole number that it is. -/
theorem takes_word {α : Type} {convert? : Number → Option α} {n : Int} {value : α}
    (lower : -9223372036854775808 ≤ n) (upper : n < 18446744073709551616)
    (converts : ∀ whole : Whole, whole.val = n → convert? (.whole whole) = some value) :
    TakesBefore (Reader.numeric.convert convert?) (Json.printWhole n) value :=
  (Reader.takes_numeric ⟨n, lower, upper⟩).convert (converts _ rfl)

theorem takes_int (value : Int64) :
    TakesBefore (Reader.numeric.convert (signed? 64)) (Json.printWhole value.toInt) value := by
  have least := value.le_toInt
  have greatest := value.toInt_lt
  exact takes_word (by omega) (by omega) fun _ => signed?_toInt value

theorem takes_uint (value : UInt64) :
    TakesBefore (Reader.numeric.convert (unsigned? 64)) (Json.printWhole value.toNat) value := by
  have greatest := value.toNat_lt
  exact takes_word (by omega) (by omega) fun _ => unsigned?_toNat value

theorem takes_byte (value : UInt8) :
    TakesBefore (Reader.numeric.convert byte?) (Nat.toDigits 10 value.toNat) value := by
  have greatest := value.toNat_lt
  exact @takes_word _ byte? value.toNat value (by omega) (by omega) fun _ => byte?_toNat value

/-! ### Contents -/

/-- **Bytes are read back** one by one. -/
theorem takes_bytes (bytes : List UInt8) :
    Takes (Reader.list (Reader.numeric.convert byte?)) (printBytes bytes) bytes := by
  have each : Reader.TakesElements (Reader.numeric.convert byte?)
      (fun byte => Nat.toDigits 10 byte.toNat) bytes := by
    intro byte _
    obtain ⟨c, rest, digits, digit⟩ := Text.exists_toDigits_eq_cons byte.toNat
    have starts : Reader.startsNumber c = true := by rw [Reader.startsNumber, digit, Bool.or_true]
    exact ⟨⟨c, rest, digits, Reader.isSpace_of_startsNumber starts,
      Reader.ne_of_startsNumber starts ']' rfl⟩, takes_byte byte⟩
  exact Reader.takes_peek .none rfl (Reader.takes_array each)

/-- **The content of a value is read back** by the reader of its sort. -/
theorem takes_readContent {value : Value} (exact : value.Exact) :
    TakesBefore (readContent value.tag) value.printContent value := by
  cases value with
  | int value => exact (takes_int value).map Value.int
  | uint value => exact (takes_uint value).map Value.uint
  | float value => exact exact.elim
  | text value => exact ((Reader.takes_text .none value).map Value.text).before
  | boolean value => exact ((Reader.takes_boolean .none value).map Value.boolean).before
  | json document => exact (Json.takes_read exact).map Value.json
  | uuid id =>
    exact (((Reader.takes_text .none id.write).convert (Uuid.parse?_write id)).map
      Value.uuid).before
  | bytes bytes => exact ((takes_bytes bytes).map Value.bytes).before
  | date date =>
    exact (((Reader.takes_text .none _).convert (Date.parse?_write date)).map Value.date).before
  | timestamp time =>
    exact (((Reader.takes_text .none _).convert (Timestamp.parse?_write time)).map
      Value.timestamp).before
  | null => exact ((Reader.takes_spell "null".toList).map fun _ => Value.null).before

/-- **A value is taken** by its name and its content. -/
theorem takes_read {value : Value} (exact : value.Exact) : Takes read value.print value := by
  have tagged : Takes read
      ('{' :: (Json.Text.print value.tag.name ++ ':' :: value.printContent ++ ['}'])) value :=
    Reader.takes_tagged (Tag.ofName?_name value.tag) (takes_readContent exact)
  cases value with
  | null =>
    have named := (Reader.takes_text .none Tag.null.name).convert (Tag.ofName?_name .null)
    exact Reader.takes_peek .none rfl (named.convert rfl)
  | _ => exact tagged

/-- **A value is read back from its text**, and no other value has its text. -/
theorem restored_of_exact (value : Value) (exact : value.Exact) :
    ofText value.toText = .ok value ∧
      ∀ other : Value, other.Exact → value.toText = other.toText → value = other := by
  have restored {value : Value} (exact : value.Exact) : ofText value.toText = .ok value := by
    have whole := (takes_read exact).run .none
    rwa [Json.Gap.none, List.append_nil] at whole
  refine ⟨restored exact, fun other otherExact same => ?_⟩
  have first := restored exact
  rw [same, restored otherExact] at first
  exact (Except.ok.inj first).symm

/-- A document with a key and a text that are escaped, and the least word. -/
def intricate : Json :=
  .object
    [("", .array [.text "\"\u0001𝄞", .object []]),
      ("\n", .number (.whole ⟨-9223372036854775808, by decide, by decide⟩))]

/-- The leap second in front of a year beyond four digits, and a fraction of it. -/
def leap : Timestamp where
  date := ⟨19999, 12, 31, by decide⟩
  minute := 1439
  second := 60
  nanosecond := 250000000
  minute_lt := by decide
  second_le := by decide
  nanosecond_lt := by decide

theorem restored_of_intricate :
    ofText
        "\x7b\"Json\":\x7b\"\":[\"\\\"\\u0001𝄞\",\x7b\x7d],\"\\n\":-9223372036854775808\x7d\x7d" =
        .ok (.json intricate) ∧
      ofText "\x7b\"Timestamp\":\"+19999-12-31T23:59:60.250Z\"\x7d" = .ok (.timestamp leap) ∧
      (json .null).toText ≠ null.toText := by
  have exact : (json intricate).Exact := by
    have empty : Json.Exact 124 (.object []) := .object .nil (List.forall_mem_nil _)
    have items : ∀ item ∈ [.text "\"\u0001𝄞", .object []], Json.Exact 124 item := by
      simp only [List.forall_mem_cons]
      exact ⟨.text _, empty, List.forall_mem_nil _⟩
    refine .object (by decide) (List.forall_mem_cons.mpr ⟨.array items, ?_⟩)
    exact List.forall_mem_singleton.mpr (.whole _)
  have document := (restored_of_exact (json intricate) exact).1
  have point := (restored_of_exact (timestamp leap) trivial).1
  have alone := (restored_of_exact (json .null) .null).2 null trivial
  refine ⟨document, point, fun same => ?_⟩
  cases alone same

end Value

end PathQuery
