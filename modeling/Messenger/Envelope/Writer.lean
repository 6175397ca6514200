import Messenger.Envelope.Basic
import Messenger.Json.Writer
import Messenger.Timestamp.Writer

set_option relaxedAutoImplicit false
set_option autoImplicit false

/-!
# Writing envelopes

An envelope is written as a JSON object with the members `type`, `payload`, `timestamp` and
`request_id`, in this order; an empty identifier is left out.

## Main definitions

* `Messenger.Envelope.writeKind`: the text of a kind.
* `Messenger.Envelope.write`, `Messenger.Envelope.encode`: the text of an envelope.
* `Messenger.Envelope.encodeAll`: the text of a list of envelopes.
-/

namespace Messenger.Envelope

/-- A member with a text for a value. -/
def textMember (name value : String) : List Char :=
  Json.quote name.toList ++ ':' :: Json.quote value.toList

/-- The written form of a kind: its tag as a text. -/
def writeKind (kind : Kind) : List Char :=
  Json.quote kind.toText.toList

/-- The written members of an envelope. -/
def writeMembers (e : Envelope) : List (List Char) :=
  textMember "type" e.kind.tag ::
    (Json.quote "payload".toList ++ ':' :: e.payload.write) ::
    textMember "timestamp" e.timestamp.render ::
    if e.requestId = "" then [] else [textMember "request_id" e.requestId]

/-- The text of an envelope. -/
def write (e : Envelope) : List Char :=
  '{' :: Json.Value.commaSeparated e.writeMembers ++ ['}']

/-- The text of an envelope, as a string. -/
def encode (e : Envelope) : String :=
  String.ofList e.write

/-- The text of a list of envelopes: an array of their texts. -/
def encodeAll (es : List Envelope) : String :=
  String.ofList ('[' :: Json.Value.commaSeparated (es.map write) ++ [']'])

end Messenger.Envelope
