import Messenger.Backoff
import Messenger.Credential
import Messenger.Dispatch.Registry
import Messenger.Heartbeat
import Messenger.Publisher
import Messenger.Queue.Offline
import Messenger.Queue.Pending
import Messenger.Request
import Messenger.Settings.Basic
import Messenger.Text.Numeral
import Messenger.Transport.Frame

set_option relaxedAutoImplicit false
set_option autoImplicit false

/-!
# The session

A session owns the connection of a client: the open link, or the attempt to open one, or the time
of the next attempt. It keeps what cannot be sent yet, and the room the user is in. It changes only
by events, one at a time. What it does to the world outside is a list of effects.

## Main definitions

* `Messenger.Session`: what a session knows.
* `Messenger.Session.Stage`: how far an attempt to connect has come.
* `Messenger.Session.Effect`: what it does to the world outside.
* `Messenger.Session.Moment`: what an event takes from the world outside.
* `Messenger.Session.Turn`: a session in the middle of an event, with its storage and the effects so
  far.
* `Messenger.Session.start`: a new session on a storage.

## Design

The link, the attempt, the callers who wait for it, and the time of the next attempt are fields of
their own, each of which an event sets and resets by itself. That they fit together is a property of
the events. Callers, watchers and listeners are numbers, which the world outside has given out;
links are numbered by the session in the order in which they are opened.
-/

namespace Messenger

namespace Session

/-- How far an attempt to connect has come. -/
inductive Stage
  /-- The provider is asked for a credential. If it has none, the other one is taken. -/
  | asking (other : Option String)
  /-- The address with this credential is being connected to, until a time. -/
  | dialing (credential : String) (deadline : Nat)
  deriving DecidableEq, Repr, Inhabited

end Session

/-- What a session knows. -/
structure Session where
  target : Settings.Target
  /-- How long connecting may take, in milliseconds. -/
  connectTimeout : Nat
  /-- The key under which the room is stored. -/
  roomKey : String
  /-- The number of the open link. -/
  link : Option Nat
  /-- The credential of the open link. -/
  linkCredential : Option String
  /-- The credential of the last link. -/
  lastCredential : Option String
  /-- How far the attempt to connect has come that is under way. -/
  attempt : Option Session.Stage
  /-- The callers who wait for the outcome of the attempt, in the order in which they came. -/
  waiters : List Nat
  /-- When the next attempt is due. -/
  retryAt : Option Nat
  /-- How many links have been opened. -/
  opened : Nat
  publisher : Publisher Nat
  registry : Registry Nat
  heartbeat : Heartbeat
  backoff : Backoff
  pending : Queue.Pending
  offline : Queue.Offline
  /-- The room the user is in. -/
  room : Option Room
  /-- The copy of the room that can be read at any time. -/
  sharedRoom : Option Room
  /-- The user has logged out: nothing is attempted on its own. -/
  loggedOut : Bool
  /-- The next link that is opened joins the room again. -/
  rejoins : Bool
  deriving Inhabited

namespace Session

/-- What a session does to the world outside. -/
inductive Effect
  /-- An envelope was written on a link. -/
  | wrote (link : Nat) (e : Envelope)
  /-- A link was asked to close, and given up. -/
  | closed (link : Nat)
  /-- The provider is asked for a credential. -/
  | asked
  /-- An address is to be connected to. -/
  | dialed (address : Address)
  /-- The outcome of the attempt is no longer waited for. -/
  | abandoned
  /-- A caller got its answer. -/
  | replied (caller : Nat) (result : Except Error Unit)
  /-- A caller was told how many envelopes wait in the two queues. -/
  | counted (caller pending offline : Nat)
  /-- A watcher was told the state. -/
  | told (watcher : Nat) (state : ConnectionState)
  /-- An envelope was delivered to a listener. -/
  | delivered (listener : Nat) (e : Envelope)
  deriving Repr, Inhabited

/-- What an event takes from the world outside. -/
structure Moment where
  /-- The time by the clock of all timers, in milliseconds. -/
  clock : Nat
  /-- The time by the calendar. -/
  stamp : Timestamp
  /-- An identifier for an envelope. -/
  freshId : String
  /-- Whether the link takes a frame, by the number of the frame within the event. -/
  accepts : Nat → Bool
  /-- How the call of a watcher or of a listener ends. -/
  outcome : Nat → Outcome
  /-- If a ping and the end of the watchdog are due at once, the ping comes first. -/
  pingFirst : Bool

/-- The effects of an event so far. -/
structure Outbox where
  effects : List Effect
  /-- How many frames have been offered to the link. -/
  offers : Nat
  deriving Repr, Inhabited

namespace Outbox

/-- No effects yet. -/
def empty : Outbox := ⟨[], 0⟩

/-- One more effect. -/
def add (effect : Effect) (o : Outbox) : Outbox :=
  { o with effects := o.effects ++ [effect] }

/-- Offers an envelope to a link. -/
def transmit (m : Moment) (link : Nat) (e : Envelope) (o : Outbox) : Except Error Unit × Outbox :=
  let o' : Outbox := { o with offers := o.offers + 1 }
  if m.accepts o.offers then (.ok (), o'.add (.wrote link e)) else (.error Transport.linkLost, o')

/-- Tells a watcher the state. -/
def tell (m : Moment) (watcher : Nat) (state : ConnectionState) (o : Outbox) : Outcome × Outbox :=
  (m.outcome watcher, o.add (.told watcher state))

/-- Delivers an envelope to a listener. -/
def deliver (m : Moment) (listener : Nat) (e : Envelope) (o : Outbox) : Outcome × Outbox :=
  (m.outcome listener, o.add (.delivered listener e))

/-- Gives the same answer to callers, in order. -/
def reply (result : Except Error Unit) (callers : List Nat) (o : Outbox) : Outbox :=
  callers.foldl (fun o caller => o.add (.replied caller result)) o

end Outbox

/-- A session in the middle of an event. -/
structure Turn (σ : Type) where
  session : Session
  store : σ
  outbox : Outbox
  deriving Inhabited

/-- The session at the beginning of an event. -/
def turn {σ : Type} (s : Session) (store : σ) : Turn σ := ⟨s, store, .empty⟩

/-- The room that a storage holds under a key: a number below `2 ^ 64`, with blanks around it at
most. -/
def loadRoom {σ : Type} [Storage σ] (key : String) (store : σ) : Option Room × σ :=
  match Storage.read key store with
  | (.ok (some text), store) =>
    (Text.readUnsigned? 10 Text.limit64 (Text.trim text.toList), store)
  | (_, store) => (none, store)

/-- A new session. The queue and the room are those that the storage holds. -/
def start {σ : Type} [Storage σ] (now : Timestamp) (settings : Settings)
    (target : Settings.Target) (store : σ) : Session × σ :=
  let (offline, store) := Queue.Offline.load now settings.storage.queueKey store
  let (room, store) := loadRoom settings.storage.roomKey store
  ({ target := target
     connectTimeout := settings.retry.connectTimeout
     roomKey := settings.storage.roomKey
     link := none
     linkCredential := none
     lastCredential := none
     attempt := none
     waiters := []
     retryAt := none
     opened := 0
     publisher := .start .disconnected
     registry := .empty
     heartbeat := .idle settings.pulse.interval settings.pulse.timeout
     backoff := .start (.ofMillis settings.retry.baseDelay) (.ofMillis settings.retry.maxDelay)
     pending := .empty
     offline := offline
     room := room
     sharedRoom := room
     loggedOut := false
     rejoins := false }, store)

end Session

end Messenger
