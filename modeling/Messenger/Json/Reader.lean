import Messenger.Json.Writer
import Messenger.Text.Quoted

set_option relaxedAutoImplicit false
set_option autoImplicit false

/-!
# Reading JSON

A reader takes what it reads from the front of a text and hands back the rest, or says what is
wrong. Data of a fixed shape is read member by member as the text goes along, so of two faults the
one that comes first in the text is reported, be it a fault of the text or of the data.

## Main definitions

* `Messenger.Json.Reader`: what a reader is.
* `Messenger.Json.readValue`: reads any value, with a limit on how deep arrays and objects nest.
* `Messenger.Json.readString`: reads a text where one is asked for.
* `Messenger.Json.readItems`: reads an array of things.
* `Messenger.Json.skipValue`: passes over a value of any depth.
* `Messenger.Json.decode`: reads a whole text.

## Design

`readValue` recurses on the nesting that is still allowed, so the limit is also what bounds the
recursion. Behind it, the loops over items and members are bounded by the length of the text:
every turn takes at least one character.
-/

namespace Messenger.Json

/-- Takes something from the front of a text. -/
abbrev Reader (α : Type) : Type := List Char → Except Error (α × List Char)

/-- A blank of the format. -/
def isSpace (c : Char) : Bool :=
  c = ' ' || c = '\n' || c = '\t' || c = '\r'

/-- The text from its first character that is no blank. -/
def skipSpace (s : List Char) : List Char :=
  s.dropWhile isSpace

/-- How many levels of arrays and objects a text may have. -/
def depthLimit : Nat := 127

/-- Passes over the rest of a word such as `null`. -/
def expectWord : List Char → List Char → Except Error (List Char)
  | [], s => .ok s
  | _ :: _, [] => .error .eofInValue
  | e :: expected, c :: s => if e = c then expectWord expected s else .error .expectedWord

/-! ### Arrays and objects, entry by entry -/

/-- Where the next item of an array begins, or nothing if the array ends here. -/
def nextItem (first : Bool) (s : List Char) : Except Error (Option (List Char)) :=
  match skipSpace s with
  | [] => .error .eofInArray
  | ']' :: _ => .ok none
  | ',' :: rest =>
    if first then .ok (some (',' :: rest))
    else
      match skipSpace rest with
      | [] => .error .eofInValue
      | ']' :: _ => .error .trailingComma
      | rest => .ok (some rest)
  | s => if first then .ok (some s) else .error .expectedCommaOrBracket

/-- Passes over the end of an array. -/
def endArray (s : List Char) : Except Error (List Char) :=
  match skipSpace s with
  | [] => .error .eofInArray
  | ']' :: rest => .ok rest
  | ',' :: rest =>
    match skipSpace rest with
    | ']' :: _ => .error .trailingComma
    | _ => .error .trailingCharacters
  | _ => .error .trailingCharacters

/-- What follows the opening quote of the next member's name, or nothing if the object ends
here. -/
def nextMember (first : Bool) (s : List Char) : Except Error (Option (List Char)) :=
  match skipSpace s with
  | [] => .error .eofInObject
  | '}' :: _ => .ok none
  | '"' :: rest => if first then .ok (some rest) else .error .expectedCommaOrBrace
  | ',' :: rest =>
    if first then .error .nameNotText
    else
      match skipSpace rest with
      | [] => .error .eofInValue
      | '"' :: rest => .ok (some rest)
      | '}' :: _ => .error .trailingComma
      | _ => .error .nameNotText
  | _ => if first then .error .nameNotText else .error .expectedCommaOrBrace

/-- Passes over the colon between a name and its value. -/
def expectColon (s : List Char) : Except Error (List Char) :=
  match skipSpace s with
  | [] => .error .eofInObject
  | ':' :: rest => .ok rest
  | _ => .error .expectedColon

/-- Passes over the end of an object. -/
def endObject (s : List Char) : Except Error (List Char) :=
  match skipSpace s with
  | [] => .error .eofInObject
  | '}' :: rest => .ok rest
  | ',' :: _ => .error .trailingComma
  | _ => .error .trailingCharacters

/-- Reads the items of an array behind its opening bracket, in at most `turns` turns. `acc` holds
the items already read, the last one first. -/
def readItemsFrom {α : Type} (item : Reader α) :
    Nat → List α → List Char → Except Error (List α × List Char)
  | 0, _, _ => .error .eofInArray
  | turns + 1, acc, s =>
    match nextItem acc.isEmpty s with
    | .error e => .error e
    | .ok none => (endArray s).map (acc.reverse, ·)
    | .ok (some s) =>
      match item s with
      | .error e => .error e
      | .ok (x, s) => readItemsFrom item turns (x :: acc) s

/-- Reads the items of an array behind its opening bracket. -/
def readItems {α : Type} (item : Reader α) : Reader (List α) :=
  fun s => readItemsFrom item (s.length + 1) [] s

/-- Reads the members of an object behind its opening brace, in at most `turns` turns. -/
def readMembersFrom {α : Type} (value : Reader α) :
    Nat → List (String × α) → List Char → Except Error (List (String × α) × List Char)
  | 0, _, _ => .error .eofInObject
  | turns + 1, acc, s =>
    match nextMember acc.isEmpty s with
    | .error e => .error e
    | .ok none => (endObject s).map (acc.reverse, ·)
    | .ok (some s) =>
      match readText s with
      | .error e => .error e
      | .ok (name, s) =>
        match expectColon s with
        | .error e => .error e
        | .ok s =>
          match value s with
          | .error e => .error e
          | .ok (v, s) => readMembersFrom value turns ((String.ofList name, v) :: acc) s

/-- Reads the members of an object behind its opening brace. -/
def readMembers {α : Type} (value : Reader α) : Reader (List (String × α)) :=
  fun s => readMembersFrom value (s.length + 1) [] s

/-! ### Values -/

/-- Reads a value that is neither an array nor an object; `s` does not begin with a blank. -/
def readScalar (s : List Char) : Except Error (Value × List Char) :=
  match s with
  | [] => .error .eofInValue
  | 'n' :: rest => (expectWord ['u', 'l', 'l'] rest).map (.null, ·)
  | 't' :: rest => (expectWord ['r', 'u', 'e'] rest).map (.bool true, ·)
  | 'f' :: rest => (expectWord ['a', 'l', 's', 'e'] rest).map (.bool false, ·)
  | '-' :: rest => readNumber true rest
  | '"' :: rest => (readText rest).map fun r => (.text (String.ofList r.1), r.2)
  | c :: rest => if c.isDigit then readNumber false (c :: rest) else .error .expectedValue

/-- Reads a value in which arrays and objects nest at most `depth` levels deep. -/
def readValue (depth : Nat) (s : List Char) : Except Error (Value × List Char) :=
  match skipSpace s with
  | '[' :: rest =>
    match depth with
    | 0 => .error .tooDeep
    | depth + 1 => (readItems (readValue depth) rest).map fun r => (.array r.1, r.2)
  | '{' :: rest =>
    match depth with
    | 0 => .error .tooDeep
    | depth + 1 => (readMembers (readValue depth) rest).map fun r => (.ofMembers r.1, r.2)
  | s => readScalar s
termination_by structural depth

/-! ### Data of another type than was asked for -/

/-- What an error message calls a value that is neither an array nor an object. -/
def Value.describe : Value → String
  | .null => "null"
  | .bool b => "boolean `" ++ (if b then "true" else "false") ++ "`"
  | .int n => "integer `" ++ String.ofList (Text.signedDecimal n) ++ "`"
  | .float x => "floating point `" ++ String.ofList (numberText x) ++ "`"
  | .text s => "string " ++ String.ofList (Text.quoted s.toList)
  | .array _ => "sequence"
  | .object _ => "map"

/-- The error for a text that goes on with something else than `expected`: the value found there,
or what is wrong with it. -/
def mismatch (expected : String) (s : List Char) : Error :=
  match skipSpace s with
  | '[' :: _ => .wrongType "sequence" expected
  | '{' :: _ => .wrongType "map" expected
  | s =>
    match readScalar s with
    | .ok (v, _) => .wrongType v.describe expected
    | .error e => e

/-- Reads a text where one is asked for. -/
def readString (expected : String) (s : List Char) : Except Error (String × List Char) :=
  match skipSpace s with
  | '"' :: rest => (readText rest).map fun r => (String.ofList r.1, r.2)
  | s => .error (mismatch expected s)

/-- Reads an array where one is asked for. -/
def readArray {α : Type} (item : Reader α) (s : List Char) : Except Error (List α × List Char) :=
  match skipSpace s with
  | '[' :: rest => readItems item rest
  | s => .error (mismatch "a sequence" s)

/-! ### Values of which nothing is kept -/

/-- An array or an object that is not closed yet. -/
inductive Enclosure
  | array
  | object
  deriving DecidableEq, Repr

/-- What a text may go on with. -/
inductive Expectation
  /-- A value. -/
  | value
  /-- The first entry of the innermost enclosure, or its end. -/
  | entry
  /-- A comma, or the end of the innermost enclosure. -/
  | comma
  deriving DecidableEq, Repr

/-- Passes over the name of a member and its colon. -/
def skipName (s : List Char) : Except Error (List Char) :=
  match skipSpace s with
  | [] => .error .eofInObject
  | '"' :: rest =>
    match skipText rest with
    | .ok s => expectColon s
    | .error e => .error e
  | _ => .error .nameNotText

/-- Passes over a value that is neither an array nor an object; `s` does not begin with a
blank. -/
def skipScalar (s : List Char) : Except Error (List Char) :=
  match s with
  | [] => .error .eofInValue
  | 'n' :: rest => expectWord ['u', 'l', 'l'] rest
  | 't' :: rest => expectWord ['r', 'u', 'e'] rest
  | 'f' :: rest => expectWord ['a', 'l', 's', 'e'] rest
  | '-' :: rest => skipNumber rest
  | '"' :: rest => skipText rest
  | c :: rest => if c.isDigit then skipNumber (c :: rest) else .error .expectedValue

/-- Passes over a value inside of the enclosures that are open, in at most `turns` turns. -/
def skipFrom : Nat → List Enclosure → Expectation → List Char → Except Error (List Char)
  | 0, _, _, _ => .error .eofInValue
  | turns + 1, enclosing, .value, s =>
    match skipSpace s with
    | '[' :: rest => skipFrom turns (.array :: enclosing) .entry rest
    | '{' :: rest => skipFrom turns (.object :: enclosing) .entry rest
    | s =>
      match skipScalar s with
      | .ok s => skipFrom turns enclosing .comma s
      | .error e => .error e
  | _ + 1, [], _, s => .ok s
  | turns + 1, .array :: enclosing, expectation, s =>
    match skipSpace s, expectation with
    | [], _ => .error .eofInArray
    | ']' :: rest, _ => skipFrom turns enclosing .comma rest
    | ',' :: rest, .comma => skipFrom turns (.array :: enclosing) .value rest
    | _, .comma => .error .expectedCommaOrBracket
    | s, _ => skipFrom turns (.array :: enclosing) .value s
  | turns + 1, .object :: enclosing, expectation, s =>
    match skipSpace s, expectation with
    | [], _ => .error .eofInObject
    | '}' :: rest, _ => skipFrom turns enclosing .comma rest
    | ',' :: rest, .comma =>
      match skipName rest with
      | .ok s => skipFrom turns (.object :: enclosing) .value s
      | .error e => .error e
    | _, .comma => .error .expectedCommaOrBrace
    | s, _ =>
      match skipName s with
      | .ok s => skipFrom turns (.object :: enclosing) .value s
      | .error e => .error e

/-- Passes over a value of any depth. -/
def skipValue (s : List Char) : Except Error (List Char) :=
  skipFrom (2 * s.length + 2) [] .value s

/-! ### Whole texts -/

/-- Reads a whole text: nothing but blanks may follow what the reader takes. -/
def decode {α : Type} (reader : Reader α) (text : String) : Except Error α :=
  match reader text.toList with
  | .error e => .error e
  | .ok (x, rest) => if skipSpace rest = [] then .ok x else .error .trailingCharacters

/-- The value that a text denotes. -/
def parse (text : String) : Except Error Value :=
  decode (readValue depthLimit) text

end Messenger.Json
