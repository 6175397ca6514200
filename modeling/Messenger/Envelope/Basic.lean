import Messenger.Kind
import Messenger.Json.Value
import Messenger.Timestamp.Basic

set_option relaxedAutoImplicit false
set_option autoImplicit false

/-!
# Envelopes

Every frame in either direction carries one envelope: a message of some kind with a payload in
JSON, the time of its creation, and an identifier that the sender chose.

## Main definitions

* `Messenger.Envelope`: the envelope.
-/

namespace Messenger

/-- One message on the wire. -/
structure Envelope where
  kind : Kind
  payload : Json.Value
  timestamp : Timestamp
  /-- Chosen by the sender; empty if it chose none. -/
  requestId : String
  deriving BEq, Repr, Inhabited

end Messenger
