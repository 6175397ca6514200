import Messenger.Envelope.Reader
import Messenger.Envelope.Writer
import Messenger.Transport.Frame
import Messenger.Transport.Pipe

set_option relaxedAutoImplicit false
set_option autoImplicit false

/-!
# Connections in memory

A wire is an open connection without a socket: a pipe in each direction between a client and a
peer, which stands for the server. The peer can look whether the client is gone; the frames it
comes across on the way are set aside, and are the first it reads afterwards.

## Main definitions

* `Messenger.Transport.Wire`: the two pipes and the frames set aside.
* `Messenger.Transport.Wire.transmit`, `Messenger.Transport.Wire.close`,
  `Messenger.Transport.Wire.receive`, `Messenger.Transport.Wire.dropClient`: what the client does.
* `Messenger.Transport.Wire.push`, `Messenger.Transport.Wire.drain`,
  `Messenger.Transport.Wire.nextFrame`, `Messenger.Transport.Wire.isClientGone`,
  `Messenger.Transport.Wire.dropPeer`: what the peer does.

## Main results

* `Messenger.Transport.Wire.unread_isClientGone`: to look whether the client is gone loses no
  frame.
-/

namespace Messenger.Transport

/-- An open connection in memory. -/
structure Wire where
  toPeer : Pipe Outbound
  toClient : Pipe Inbound
  /-- The frames that the peer has come across but not read. -/
  aside : List Outbound
  deriving Repr, Inhabited

namespace Wire

/-- A connection that has just been opened. -/
def fresh : Wire := ⟨.fresh, .fresh, []⟩

/-- A connection whose peer takes no frames. -/
def mute : Wire := { fresh with toPeer := Pipe.fresh.dropReceiver }

/-- A connection whose peer is gone. -/
def dead : Wire := { mute with toClient := Pipe.fresh.dropSender }

/-- Why a frame could not be pushed. -/
def clientGone : Error := .transport "client link gone"

/-- The client writes a text. -/
def transmit (text : String) (w : Wire) : Except Error Unit × Wire :=
  let (sent, toPeer) := w.toPeer.send (.text text)
  (if sent then .ok () else .error linkLost, { w with toPeer := toPeer })

/-- The client asks to close the connection. If the peer takes no frames, so much the better. -/
def close (w : Wire) : Wire :=
  { w with toPeer := (w.toPeer.send .close).2 }

/-- The client reads a frame. -/
def receive (w : Wire) : Received Inbound × Wire :=
  let (r, toClient) := w.toClient.receive
  (r, { w with toClient := toClient })

/-- The client drops its end. -/
def dropClient (w : Wire) : Wire :=
  { w with toPeer := w.toPeer.dropSender, toClient := w.toClient.dropReceiver }

/-- The peer pushes a text to the client. -/
def push (text : String) (w : Wire) : Except Error Unit × Wire :=
  let (sent, toClient) := w.toClient.send (.text text)
  (if sent then .ok () else .error clientGone, { w with toClient := toClient })

/-- The peer closes the connection and says why. -/
def closePeer (code : Nat) (reason : String) (w : Wire) : Wire :=
  { w with toClient := (w.toClient.send (.closed code reason)).2 }

/-- The frames that the peer has not read. -/
def unread (w : Wire) : List Outbound :=
  w.aside ++ w.toPeer.items

/-- The peer reads all frames that are there. -/
def drain (w : Wire) : List Outbound × Wire :=
  (w.unread, { w with aside := [], toPeer := w.toPeer.drain.2 })

/-- The envelope that a frame carries. -/
def envelope? (now : Timestamp) : Outbound → Option Envelope
  | .text text => (Envelope.decode now text).toOption
  | .close => none

/-- The peer reads all frames that are there, and passes over those that carry no envelope. -/
def drainEnvelopes (now : Timestamp) (w : Wire) : List Envelope × Wire :=
  let (frames, w) := w.drain
  (frames.filterMap (envelope? now), w)

/-- The peer reads the next frame. -/
def nextFrame (w : Wire) : Received Outbound × Wire :=
  match w.aside with
  | frame :: rest => (.item frame, { w with aside := rest })
  | [] =>
    let (r, toPeer) := w.toPeer.receive
    (r, { w with toPeer := toPeer })

/-- The peer looks whether the client is gone. All frames that are there are set aside. -/
def isClientGone (w : Wire) : Bool × Wire :=
  (!w.toPeer.hasSender, { w with aside := w.unread, toPeer := w.toPeer.drain.2 })

/-- The peer no longer reads. -/
def deafen (w : Wire) : Wire :=
  { w with toPeer := w.toPeer.dropReceiver, aside := [] }

/-- The peer drops its end. -/
def dropPeer (w : Wire) : Wire :=
  { w.deafen with toClient := w.toClient.dropSender }

/-- To look whether the client is gone loses no frame. -/
theorem unread_isClientGone (w : Wire) : w.isClientGone.2.unread = w.unread := by
  simp [isClientGone, unread, Pipe.drain]

end Wire

end Messenger.Transport
