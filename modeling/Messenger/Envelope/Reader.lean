import Messenger.Envelope.Basic
import Messenger.Error
import Messenger.Json.Reader
import Messenger.Timestamp.Reader

set_option relaxedAutoImplicit false
set_option autoImplicit false

/-!
# Reading envelopes

An envelope is read from a JSON object, whose members may come in any order and among members of
other names, or from an array with the values of `type`, `payload`, `timestamp` and `request_id`
in this order. Only the type must be there. A payload that is left out is null, and a timestamp
that is left out is the present.

## Main definitions

* `Messenger.Envelope.Draft`: the members read so far.
* `Messenger.Envelope.reader`: reads an envelope from the front of a text.
* `Messenger.Envelope.decode`: the envelope that a frame carries.
* `Messenger.Envelope.decodeAll`: the envelopes that a stored text holds.
-/

namespace Messenger.Envelope

/-- The members of an envelope that have been read so far. -/
structure Draft where
  kind : Option Kind
  payload : Option Json.Value
  timestamp : Option Timestamp
  requestId : Option String
  deriving Inhabited

/-- Nothing has been read yet. -/
def Draft.empty : Draft := ⟨none, none, none, none⟩

/-- The envelope that the members make, if the type is among them. -/
def Draft.finish (now : Timestamp) (d : Draft) : Except Json.Error Envelope :=
  match d.kind with
  | none => .error (.missingMember "type")
  | some kind =>
    .ok ⟨kind, d.payload.getD .null, d.timestamp.getD now, d.requestId.getD ""⟩

/-- What a text is called where one is asked for. -/
def aString : String := "a string"

/-- Reads the kind. -/
def readKind : Json.Reader Kind :=
  fun s => (Json.readString aString s).map fun r => (Kind.ofTag r.1, r.2)

/-- Reads the payload. One level of nesting is spent on the envelope itself. -/
def readPayload (depth : Nat) : Json.Reader Json.Value :=
  Json.readValue depth

/-- Reads the timestamp. -/
def readTimestamp : Json.Reader Timestamp := fun s =>
  match Json.readString "an RFC 3339 formatted date and time string" s with
  | .error e => .error e
  | .ok (text, rest) =>
    match Timestamp.read text.toList with
    | .ok t => .ok (t, rest)
    | .error e => .error (.badContent e.message)

/-- Reads the identifier. -/
def readRequestId : Json.Reader String :=
  Json.readString aString

/-- Reads one member of a name that may occur once only. -/
def readOnce {α : Type} (name : String) (old : Option α) (read : Json.Reader α) :
    Json.Reader α := fun s =>
  match old with
  | some _ => .error (.duplicateMember name)
  | none =>
    match Json.expectColon s with
    | .error e => .error e
    | .ok s => read s

/-- Reads the colon and the value of the member with the given name into the draft. -/
def Draft.readMember (depth : Nat) (d : Draft) (name : String) (s : List Char) :
    Except Json.Error (Draft × List Char) :=
  match name with
  | "type" =>
    (readOnce name d.kind readKind s).map fun r => ({ d with kind := some r.1 }, r.2)
  | "payload" =>
    (readOnce name d.payload (readPayload depth) s).map fun r =>
      ({ d with payload := some r.1 }, r.2)
  | "timestamp" =>
    (readOnce name d.timestamp readTimestamp s).map fun r =>
      ({ d with timestamp := some r.1 }, r.2)
  | "request_id" =>
    (readOnce name d.requestId readRequestId s).map fun r =>
      ({ d with requestId := some r.1 }, r.2)
  | _ =>
    match Json.expectColon s with
    | .error e => .error e
    | .ok s => (Json.skipValue s).map (d, ·)

/-- Reads the members of an object behind its opening brace, in at most `turns` turns. -/
def Draft.readMembers (depth : Nat) :
    Nat → Bool → Draft → List Char → Except Json.Error (Draft × List Char)
  | 0, _, _, _ => .error .eofInObject
  | turns + 1, first, d, s =>
    match Json.nextMember first s with
    | .error e => .error e
    | .ok none => .ok (d, s)
    | .ok (some s) =>
      match Json.readText s with
      | .error e => .error e
      | .ok (name, s) =>
        match d.readMember depth (String.ofList name) s with
        | .error e => .error e
        | .ok (d, s) => Draft.readMembers depth turns false d s

/-- Reads an envelope behind the opening brace of an object. -/
def readObject (now : Timestamp) (depth : Nat) (s : List Char) :
    Except Json.Error (Envelope × List Char) :=
  match Draft.readMembers depth (s.length + 1) true .empty s with
  | .error e => .error e
  | .ok (d, s) =>
    match d.finish now with
    | .error e => .error e
    | .ok e => (Json.endObject s).map (e, ·)

/-- Reads the next item of an array, if it has one more. -/
def readNext {α : Type} (first : Bool) (item : Json.Reader α) (s : List Char) :
    Except Json.Error (Option α × List Char) :=
  match Json.nextItem first s with
  | .error e => .error e
  | .ok none => .ok (none, s)
  | .ok (some s) => (item s).map fun r => (some r.1, r.2)

/-- Reads the items of an array behind its opening bracket into a draft. Once an item is missing,
so are those behind it. -/
def Draft.readItems (depth : Nat) (s : List Char) : Except Json.Error (Draft × List Char) :=
  match readNext true readKind s with
  | .error e => .error e
  | .ok (none, _) => .error (.wrongLength 0 "struct Envelope with 4 elements")
  | .ok (kind, s) =>
    match readNext false (readPayload depth) s with
    | .error e => .error e
    | .ok (none, s) => .ok (⟨kind, none, none, none⟩, s)
    | .ok (payload, s) =>
      match readNext false readTimestamp s with
      | .error e => .error e
      | .ok (none, s) => .ok (⟨kind, payload, none, none⟩, s)
      | .ok (timestamp, s) =>
        (readNext false readRequestId s).map fun r => (⟨kind, payload, timestamp, r.1⟩, r.2)

/-- Reads an envelope behind the opening bracket of an array. -/
def readArray (now : Timestamp) (depth : Nat) (s : List Char) :
    Except Json.Error (Envelope × List Char) :=
  match Draft.readItems depth s with
  | .error e => .error e
  | .ok (d, s) =>
    match d.finish now with
    | .error e => .error e
    | .ok e => (Json.endArray s).map (e, ·)

/-- Reads an envelope from the front of a text in which arrays and objects may nest `depth` levels
deep. -/
def reader (now : Timestamp) (depth : Nat) : Json.Reader Envelope := fun s =>
  match Json.skipSpace s with
  | [] => .error .eofInValue
  | '[' :: rest =>
    match depth with
    | 0 => .error .tooDeep
    | depth + 1 => readArray now depth rest
  | '{' :: rest =>
    match depth with
    | 0 => .error .tooDeep
    | depth + 1 => readObject now depth rest
  | s => .error (Json.mismatch "struct Envelope" s)

/-- The envelope that the text of a frame carries. `now` is the time of reading. -/
def decode (now : Timestamp) (text : String) : Except Error Envelope :=
  match Json.decode (reader now Json.depthLimit) text with
  | .ok e => .ok e
  | .error e => .error (.decode ("invalid envelope json: " ++ e.message))

/-- The envelopes that a stored text holds: an array of them. -/
def decodeAll (now : Timestamp) (text : String) : Except Json.Error (List Envelope) :=
  Json.decode (Json.readArray (reader now (Json.depthLimit - 1))) text

end Messenger.Envelope
