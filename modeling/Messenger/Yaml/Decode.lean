import Messenger.Yaml.Meaning

set_option relaxedAutoImplicit false
set_option autoImplicit false

/-!
# Reading data from a document

What a document says is read as data of a given shape: a number, a text, or a section with fields of
given names. Data of another shape is refused, with the path that leads to it.

## Main definitions

* `Messenger.Yaml.Fault`: why a document does not hold the data.
* `Messenger.Yaml.Decoder`: reads data at a place of a document.
* `Messenger.Yaml.number`, `Messenger.Yaml.text`, `Messenger.Yaml.record`: the shapes.
* `Messenger.Yaml.decode`: the data that a text holds.
-/

namespace Messenger.Yaml

/-- Why a document does not hold the data that was asked for. -/
inductive Fault
  /-- The document cannot be read on. -/
  | stopped (s : Stop)
  /-- The document ends too early. -/
  | ended
  /-- Another document follows. -/
  | manyDocuments
  /-- Something has another shape; the path leads to it. -/
  | shape (path : List Char) (cause : String) (mark : Mark)
  deriving DecidableEq, Repr, Inhabited

/-- The fault in words. -/
def Fault.message : Fault → String
  | stopped s => s.message
  | ended => "EOF while parsing a value"
  | manyDocuments =>
    "deserializing from YAML containing more than one document is not supported"
  | shape path cause mark =>
    (if path.isEmpty then "" else String.ofList path ++ ": ") ++ cause ++ Problem.whereabouts mark

/-- Reads data at a place of a document to which a path leads. Gives the data and the place behind
it. -/
def Decoder (α : Type) := Document → List Char → Nat → Except Fault (α × Nat)

/-- The event at a place. -/
def eventAt (d : Document) (place : Nat) : Except Fault Marked :=
  match d.events[place]? with
  | some e => .ok e
  | none =>
    match d.stop with
    | some s => .error (.stopped s)
    | none => .error .ended

/-- Follows an alias. The data is that of the node it stands for. -/
def follow {α : Type} (read : Decoder α) : Decoder α := fun d path place => do
  let (e, _) ← eventAt d place
  match e with
  | .alias _ =>
    match d.target? place with
    | some target => (read d path target).map fun (a, _) => (a, place + 1)
    | none => throw .ended
  | _ => read d path place

/-- The event in a message, or what its tag says that it is not. -/
def describe (e : Event) : Except (String × String) String :=
  match e with
  | .scalar _ tag text style =>
    match Meaning.ofScalar tag text style with
    | .ok m => .ok m.describe
    | .error expected => .error ((Meaning.text text).describe, expected)
  | .sequenceStart _ => .ok "sequence"
  | _ => .ok "map"

/-- The fault of an event that has another shape. -/
def wrongShape (path : List Char) (expected : String) (e : Marked) : Fault :=
  match describe e.1 with
  | .ok found => .shape path ("invalid type: " ++ found ++ ", expected " ++ expected) e.2
  | .error (found, what) => .shape path ("invalid value: " ++ found ++ ", expected " ++ what) e.2

/-! ### Scalars -/

/-- The text of a scalar that can be a number: of one that stands as it is, or of a block whose tag
says that it is one. -/
def numeral? (e : Event) : Option String :=
  match e with
  | .scalar _ _ text .plain => some text
  | .scalar _ (some tag) text .literal => if tag = Meaning.coreTag "int" then some text else none
  | _ => none

/-- A number below `limit`, whose name is `expected`. -/
def number (limit : Nat) (expected : String) : Decoder Nat := follow fun d path place => do
  let e ← eventAt d place
  match (numeral? e.1).bind fun text => readWord? Text.limit64 text.toList with
  | none => throw (wrongShape path expected e)
  | some n =>
    if n < limit then return (n, place + 1)
    else
      let found := (Meaning.int n).describe
      throw (.shape path ("invalid value: " ++ found ++ ", expected " ++ expected) e.2)

/-- The text of any scalar. -/
def text (expected : String) : Decoder String := follow fun d path place => do
  let e ← eventAt d place
  match e.1 with
  | .scalar _ _ text _ => return (text, place + 1)
  | _ => throw (wrongShape path expected e)

/-! ### Sections -/

/-- A field of a section: its name, and the decoder of its value, which changes the section. -/
structure Field (α : Type) where
  name : String
  decoder : Decoder (α → α)

/-- A field whose value is put into the section. -/
def field {α β : Type} (name : String) (decoder : Decoder β) (put : β → α → α) : Field α :=
  ⟨name, fun d path place => (decoder d path place).map fun (b, place) => (put b, place)⟩

/-- The names of which one is expected, in a message. -/
def oneOf (names : List String) : String :=
  let cited := names.map fun n => "`" ++ n ++ "`"
  match cited with
  | [] => "there are no fields"
  | [a] => "expected " ++ a
  | [a, b] => "expected " ++ a ++ " or " ++ b
  | _ => "expected one of " ++ ", ".intercalate cited

/-- The path of the value of a key. -/
def childPath (path : List Char) (key : Event) : List Char :=
  let name := match key with
    | .scalar _ _ text _ => text.toList
    | _ => ['?']
  if path.isEmpty then name else path ++ '.' :: name

/-- Reads the fields of a section up to its end, so many at most. `seen` are the names of the fields
that have been read. -/
def readFields {α : Type} (fields : List (Field α)) (d : Document) (path : List Char)
    (start : Mark) : Nat → List String → α → Nat → Except Fault (List String × α × Nat)
  | 0, _, _, _ => .error .ended
  | n + 1, seen, a, place => do
    let (key, mark) ← eventAt d place
    if key = .mappingEnd then return (seen, a, place + 1)
    let (name, next) ← text "field identifier" d path place
    match fields.find? fun f => f.name = name with
    | none =>
      throw (.shape path
        ("unknown field `" ++ name ++ "`, " ++ oneOf (fields.map Field.name)) mark)
    | some f =>
      if seen.contains name then
        throw (.shape path ("duplicate field `" ++ name ++ "`") start)
      let (change, next) ← f.decoder d (childPath path key) next
      readFields fields d path start n (name :: seen) (change a) next

/-- A section with the given fields, of which `required` must be there. An empty scalar stands for a
section without fields. -/
def record {α : Type} (expected : String) (fields : List (Field α)) (required : List String)
    (start : α) : Decoder α := follow fun d path place => do
  let e ← eventAt d place
  let (seen, a, next) ← match e.1 with
    | .mappingStart _ => readFields fields d path e.2 (d.events.size + 1) [] start (place + 1)
    | .scalar _ _ "" .plain => .ok ([], start, place + 1)
    | _ => throw (wrongShape path expected e)
  match required.find? fun name => !seen.contains name with
  | some name => throw (.shape path ("missing field `" ++ name ++ "`") e.2)
  | none => return (a, next)

/-! ### Documents -/

/-- The data that a text holds. A text without a document is read as an empty scalar. -/
def decode {α : Type} (decoder : Decoder α) (source : String) : Except Fault α := do
  let d := Document.read source
  let d := match d.void with
    | some mark => { d with events := #[(.scalar none none "" .plain, mark)] }
    | none => d
  let (a, _) ← decoder d [] 0
  match d.stop with
  | some s => throw (.stopped s)
  | none => if d.more then throw .manyDocuments else return a

end Messenger.Yaml
