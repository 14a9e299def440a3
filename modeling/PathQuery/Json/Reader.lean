/-
**Reading JSON from left to right.**

A reader takes the front of a text, or stops at the first fault. The readers of single types know
what they want before they look, so a fault of type shows as soon as the wrong element has been
read. Documents may be nested to a limit; content that nobody asked for may be nested at will.

* `Reader.peek`: white space is passed over before every look.
* `Reader.refuse`: an element of the wrong type still has to be well formed as far as it is read.
* `Json.read`: the reader of any document within a limit of nesting.
* `Reader.run`: a text is read as a whole, with nothing behind it but white space.
-/

import PathQuery.Json.Basic
import PathQuery.Json.Text

namespace PathQuery.Json

open Decimal (Numeral Number)

/-- A reader takes the front of a text. -/
abbrev Reader (α : Type) := StateT (List Char) (Except Fault) α

/-- How deep arrays and objects may be nested. -/
def nestingLimit : Nat := 127

namespace Reader

variable {α : Type}

/-- White space between the parts of a document. -/
def isSpace (c : Char) : Bool := c == ' ' || c == '\t' || c == '\n' || c == '\r'

/-- Passes over white space and looks at the next character. -/
def peek : Reader (Option Char) := do
  let rest := (← get).dropWhile isSpace
  set rest
  return rest.head?

/-- Passes over the character that was looked at. -/
def skip : Reader Unit := modify (·.drop 1)

/-- Turns a function on the rest of the text into a reader. -/
def taking (take : List Char → Except Fault (α × List Char)) : Reader α := take

/-- Passes over exactly these characters. -/
def spell : List Char → Reader Unit
  | [] => pure ()
  | c :: others => do
    match ← get with
    | [] => throw .truncated
    | d :: rest =>
      if d = c then
        set rest
        spell others
      else throw .malformed

/-! ### Numerals -/

/-- Reads a run of digits, as their values. -/
def digits : Reader (List Nat) := do
  let text ← get
  set (text.dropWhile Char.isDigit)
  return (text.takeWhile Char.isDigit).map fun c => c.toNat - '0'.toNat

/-- Reads at least one digit. `missing` is the fault when the text ends instead. -/
def someDigits (missing : Fault) : Reader (List Nat) := do
  let found ← digits
  if found.isEmpty then throw (if (← get).isEmpty then missing else .malformed)
  return found

/-- The number that digits spell. -/
def valueOf (digits : List Nat) : Nat := digits.foldl (fun n digit => n * 10 + digit) 0

/-- Passes over one of two characters, if it comes next. -/
def optional (first second : Char) : Reader (Option Char) := do
  match ← get with
  | c :: rest =>
    if c = first || c = second then
      set rest
      return some c
    else return none
  | [] => return none

/-- Reads a numeral. A whole part of several digits does not start with zero. -/
def numeral (missing : Fault) : Reader Numeral := do
  let sign ← optional '-' '-'
  let whole ← someDigits missing
  if whole.head? = some 0 && 1 < whole.length then throw .malformed
  let point ← optional '.' '.'
  let fraction ← if point.isSome then some <$> someDigits missing else pure none
  let mark ← optional 'e' 'E'
  let exponent ←
    if mark.isSome then do
      let sign ← optional '+' '-'
      let size ← someDigits missing
      pure (some (if sign = some '-' then -(valueOf size : Int) else valueOf size))
    else pure none
  return ⟨sign.isSome, whole, fraction, exponent⟩

/-- Reads a number. One that is too great for a double is no number. -/
def number : Reader Number := do
  match (← numeral .truncated).number? with
  | some value => return value
  | none => throw .malformed

/-! ### Elements of any type -/

/-- Reads the characters of a text, from behind the opening mark. -/
def characters : Reader String := do return String.ofList (← taking Text.read)

/-- Whether a number starts with this character. -/
def startsNumber (c : Char) : Bool := c == '-' || c.isDigit

/-- Reads an element, given what to do with arrays and objects from their opening bracket on. -/
def element (array object : Reader Json) : Reader Json := do
  match ← peek with
  | none => throw .truncated
  | some c =>
    if c = 'n' then spell "null".toList; return .null
    else if c = 't' then spell "true".toList; return .boolean true
    else if c = 'f' then spell "false".toList; return .boolean false
    else if c = '"' then skip; return .text (← characters)
    else if c = '[' then array
    else if c = '{' then object
    else if startsNumber c then return .number (← number)
    else throw .malformed

/-- Refuses the next element as one of the wrong type. -/
def refuse : Reader α := do
  let _ ← element (throw .mismatch) (throw .mismatch)
  throw .mismatch

/-- Whether an array goes on. The first element has no comma in front of it. -/
def more (first : Bool) : Reader Bool := do
  match ← peek with
  | none => throw .truncated
  | some c =>
    if c = ']' then return false
    else if first then return true
    else if c = ',' then
      skip
      match ← peek with
      | none => throw .truncated
      | some d => if d = ']' then throw .malformed else return true
    else throw .malformed

/-- Passes over the bracket that ends an array. A further element is one too many. -/
def close : Reader Unit := do
  match ← peek with
  | none => throw .truncated
  | some c => if c = ']' then skip else throw .malformed

/-- Whether an object goes on, with a key that comes next. -/
def moreMembers (first : Bool) : Reader Bool := do
  match ← peek with
  | none => throw .truncated
  | some c =>
    if c = '}' then return false
    else if first then
      if c = '"' then return true else throw .malformed
    else if c = ',' then
      skip
      match ← peek with
      | none => throw .truncated
      | some d => if d = '"' then return true else throw .malformed
    else throw .malformed

/-- Passes over the colon between a key and its value. -/
def colon : Reader Unit := do
  match ← peek with
  | none => throw .truncated
  | some c => if c = ':' then skip else throw .malformed

/-- Reads elements until an array ends. Each takes at least one character, so `fuel` is enough when
there are no more characters. -/
def elements (item : Reader α) : Nat → Bool → Reader (List α)
  | 0, _ => throw .truncated
  | fuel + 1, first => do
    if ← more first then
      let head ← item
      return head :: (← elements item fuel false)
    else return []

/-- Reads members until an object ends, handing each key on to `step` with what came of the
members before it. -/
def members {κ : Type} (key : Reader κ) (step : α → κ → Reader α) : Nat → Bool → α → Reader α
  | 0, _, _ => throw .truncated
  | fuel + 1, first, state => do
    if ← moreMembers first then
      skip
      let found ← key
      members key step fuel false (← step state found)
    else return state

/-- Reads an array from its opening bracket on. -/
def array (item : Reader α) : Reader (List α) := do
  skip
  let items ← elements item ((← get).length + 1) true
  close
  return items

/-- Reads an object from its opening bracket on. -/
def object {κ : Type} (key : Reader κ) (step : α → κ → Reader α) (start : α) : Reader α := do
  skip
  let final ← members key step ((← get).length + 1) true start
  skip
  return final

end Reader

/-- Reads a document that is nested at most this deep. -/
def read : Nat → Reader Json
  | 0 => Reader.element (throw .malformed) (throw .malformed)
  | depth + 1 =>
    Reader.element (.array <$> Reader.array (read depth))
      (.object <$> Reader.object Reader.characters (fun known key => do
        Reader.colon
        return insert key (← read depth) known) [])

namespace Reader

variable {α : Type}

/-! ### Content that nobody asked for -/

/-- Passes over the characters of a text, from behind the opening mark. -/
def skipCharacters : Reader Unit := taking fun text => (Text.skip text).map ((), ·)

/-- Passes over an element, given how to pass over arrays and objects. -/
def skipElement (array object : Reader Unit) : Reader Unit := do
  match ← peek with
  | none => throw .truncated
  | some c =>
    if c = 'n' then spell "null".toList
    else if c = 't' then spell "true".toList
    else if c = 'f' then spell "false".toList
    else if c = '"' then skip; skipCharacters
    else if c = '[' then array
    else if c = '{' then object
    else if startsNumber c then let _ ← numeral .malformed
    else throw .malformed

/-- Passes over a document that is nested at most this deep. -/
def pass : Nat → Reader Unit
  | 0 => skipElement (throw .malformed) (throw .malformed)
  | depth + 1 =>
    skipElement (do let _ ← array (pass depth))
      (object skipCharacters (fun _ _ => do colon; pass depth) ())

/-- Passes over a document. It cannot be nested deeper than the text is long. -/
def ignore : Reader Unit := do pass (← get).length

/-! ### Elements of one type -/

/-- Reads null. -/
def null : Reader Unit := do
  if (← peek) = some 'n' then spell "null".toList else refuse

/-- Reads a truth value. -/
def boolean : Reader Bool := do
  match ← peek with
  | some 't' => spell "true".toList; return true
  | some 'f' => spell "false".toList; return false
  | _ => refuse

/-- Reads a text. -/
def text : Reader String := do
  if (← peek) = some '"' then
    skip
    characters
  else refuse

/-- Reads a number. -/
def numeric : Reader Number := do
  if (← peek).any startsNumber then number else refuse

/-- Reads an array. -/
def list (item : Reader α) : Reader (List α) := do
  if (← peek) = some '[' then array item else refuse

/-- Turns what was read into something else, or refuses it. -/
def convert {β : Type} (reader : Reader α) (convert? : α → Option β) : Reader β := do
  match convert? (← reader) with
  | some value => return value
  | none => throw .mismatch

/-- Reads the key of a member, which is a text whatever the member is for. -/
def key : Reader String := do
  match ← peek with
  | none => throw .truncated
  | some c =>
    if c = '"' then
      skip
      characters
    else throw .malformed

/-- Reads a tagged element: a tag alone as a text, or a tag with its content as an object of a
single member. -/
def tagged {τ : Type} (tag? : String → Option τ) (alone? : τ → Option α)
    (content : τ → Reader α) : Reader α := do
  match ← peek with
  | none => throw .truncated
  | some c =>
    if c = '"' then convert (convert text tag?) alone?
    else if c = '{' then
      skip
      let tag ← convert key tag?
      colon
      let value ← content tag
      match ← peek with
      | none => throw .truncated
      | some d =>
        if d = '}' then
          skip
          return value
        else throw .malformed
    else throw .malformed

/-- Reads a whole text. -/
def run (reader : Reader α) (text : String) : Except Fault α := do
  let (value, rest) ← StateT.run reader text.toList
  if rest.all isSpace then return value else throw .malformed

end Reader

/-- The document that a text holds. -/
def ofText (text : String) : Except Fault Json := Reader.run (read nestingLimit) text

end PathQuery.Json
