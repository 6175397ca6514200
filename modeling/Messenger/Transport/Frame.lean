import Messenger.Error

set_option relaxedAutoImplicit false
set_option autoImplicit false

/-!
# Frames

A connection carries texts in both directions, until either side closes it. The side that closes
may say why, by a code and a reason. A socket knows further messages, which carry nothing for this
library and are skipped.

## Main definitions

* `Messenger.Transport.Inbound`, `Messenger.Transport.Outbound`: the frames from and to the server.
* `Messenger.Transport.linkLost`: why a frame could not be written.
* `Messenger.Transport.Message`: the messages of a socket.
* `Messenger.Transport.Inbound.ofMessage?`: the frame that a message of a socket brings.
* `Messenger.Transport.Outbound.toMessage`: the message that sends a frame.

## Main results

* `Messenger.Transport.Inbound.ofMessage?_toMessage`: a text that is sent arrives as it is.
-/

namespace Messenger.Transport

/-- A frame from the server. -/
inductive Inbound
  | text (text : String)
  | closed (code : Nat) (reason : String)
  deriving DecidableEq, Repr, Inhabited

/-- A frame to the server. -/
inductive Outbound
  | text (text : String)
  | close
  deriving DecidableEq, Repr, Inhabited

/-- Why a frame could not be written. -/
def linkLost : Error := .transport "socket pump closed"

/-- Why a socket is closed. -/
structure CloseReason where
  code : Nat
  reason : String
  deriving DecidableEq, Repr, Inhabited

/-- A message of a socket. -/
inductive Message
  | text (text : String)
  | binary (bytes : List UInt8)
  | ping (bytes : List UInt8)
  | pong (bytes : List UInt8)
  | close (why : Option CloseReason)
  /-- A frame that has not been put together with others. -/
  | raw (bytes : List UInt8)
  deriving DecidableEq, Repr, Inhabited

/-- The close code of a socket that was closed without saying why. -/
def noStatus : Nat := 1005

/-- The frame that a message of a socket brings, if it brings one. -/
def Inbound.ofMessage? : Message → Option Inbound
  | .text t => some (.text t)
  | .close (some why) => some (.closed why.code why.reason)
  | .close none => some (.closed noStatus "")
  | .binary _ | .ping _ | .pong _ | .raw _ => none

/-- The message that sends a frame. -/
def Outbound.toMessage : Outbound → Message
  | .text t => .text t
  | .close => .close none

/-- A text that is sent arrives as it is. -/
theorem Inbound.ofMessage?_toMessage (t : String) :
    ofMessage? (Outbound.text t).toMessage = some (.text t) := rfl

end Messenger.Transport
