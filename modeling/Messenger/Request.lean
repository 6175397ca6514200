import Messenger.Envelope.Basic

set_option relaxedAutoImplicit false
set_option autoImplicit false

/-!
# Requests

The payloads of what a client asks of the server. A room and a message have a number.

## Main definitions

* `Messenger.Room`: the numbers of rooms.
* `Messenger.Request.room`, `Messenger.Request.message`, `Messenger.Request.typing`,
  `Messenger.Request.read`: the payloads.
-/

namespace Messenger

/-- The number of a room. -/
abbrev Room := Nat

namespace Request

/-- The payload of joining and of leaving a room. -/
def room (r : Room) : Json.Value :=
  .object [("room_id", .int r)]

/-- The payload of a message to a room. -/
def message (r : Room) (content type : String) : Json.Value :=
  .object [("content", .text content), ("message_type", .text type), ("room_id", .int r)]

/-- The payload of the news that the user is typing, or no longer. -/
def typing (r : Room) (isTyping : Bool) : Json.Value :=
  .object [("is_typing", .bool isTyping), ("room_id", .int r)]

/-- The payload of the news that a message has been read. -/
def read (r : Room) (message : Nat) : Json.Value :=
  .object [("message_id", .int message), ("room_id", .int r)]

end Request

end Messenger
