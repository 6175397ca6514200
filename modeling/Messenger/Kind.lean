set_option relaxedAutoImplicit false
set_option autoImplicit false

/-!
# Kinds of messages

Every envelope says of which kind it is by a tag. The tags this library knows have a constructor
each, so that code can match on them; any other tag is kept word for word.

## Main definitions

* `Messenger.Kind`: the kinds.
* `Messenger.Kind.tag`: the tag that stands for a kind.
* `Messenger.Kind.ofTag`: the kind that a tag stands for.
* `Messenger.Kind.toText`: the tag as a text of its own.

## Main results

* `Messenger.Kind.tag_ofTag`: a kind read from a tag is written as that tag.
* `Messenger.Kind.ofTag_inj`: different tags stand for different kinds.
-/

namespace Messenger

/-- The kind of a message. -/
inductive Kind
  | sendMessage | joinRoom | leaveRoom | typing | markRead | ping
  | pong | newMessage | messageRead | userTyping | userJoined | userLeft | presenceUpdate
  | roomInvited | roomJoined | roomLeft | authRequired | error
  /-- A tag without a constructor of its own. -/
  | other (tag : String)
  deriving DecidableEq, Repr, Inhabited

namespace Kind

/-- The tag that stands for a kind. -/
def tag : Kind → String
  | sendMessage => "send_message"
  | joinRoom => "join_room"
  | leaveRoom => "leave_room"
  | typing => "typing"
  | markRead => "mark_read"
  | ping => "ping"
  | pong => "pong"
  | newMessage => "new_message"
  | messageRead => "message_read"
  | userTyping => "user_typing"
  | userJoined => "user_joined"
  | userLeft => "user_left"
  | presenceUpdate => "presence_update"
  | roomInvited => "room_invited"
  | roomJoined => "room_joined"
  | roomLeft => "room_left"
  | authRequired => "auth_required"
  | error => "error"
  | other t => t

/-- A kind is shown by its tag. -/
instance : ToString Kind := ⟨tag⟩

/-- The tag as a text of its own: that of an unknown kind is handed on as it is. -/
def toText : Kind → String
  | other t => t
  | known => known.tag

/-- The kind that a tag stands for. -/
def ofTag (t : String) : Kind :=
  match t with
  | "send_message" => sendMessage
  | "join_room" => joinRoom
  | "leave_room" => leaveRoom
  | "typing" => typing
  | "mark_read" => markRead
  | "ping" => ping
  | "pong" => pong
  | "new_message" => newMessage
  | "message_read" => messageRead
  | "user_typing" => userTyping
  | "user_joined" => userJoined
  | "user_left" => userLeft
  | "presence_update" => presenceUpdate
  | "room_invited" => roomInvited
  | "room_joined" => roomJoined
  | "room_left" => roomLeft
  | "auth_required" => authRequired
  | "error" => error
  | t => other t

/-- A kind read from a tag is written as that tag. -/
@[simp] theorem tag_ofTag (t : String) : (ofTag t).tag = t := by
  unfold ofTag
  split <;> rfl

/-- Both ways to write a kind agree. -/
@[simp] theorem toText_eq_tag (kind : Kind) : kind.toText = kind.tag := by
  cases kind <;> rfl

/-- Different tags stand for different kinds. -/
theorem ofTag_inj {s t : String} : ofTag s = ofTag t ↔ s = t :=
  ⟨fun h => by rw [← tag_ofTag s, h, tag_ofTag], fun h => h ▸ rfl⟩

end Kind

end Messenger
