import Messenger.Session.Outgoing

set_option relaxedAutoImplicit false
set_option autoImplicit false

/-!
# The events of a session

## Main definitions

* `Messenger.Session.Command`: what a user asks of a session.
* `Messenger.Session.Event`: all that can happen to a session.
* `Messenger.Session.step`: what an event does.
* `Messenger.Session.shutDown`: what the end of a session does.
* `Messenger.Session.run`: events in a row.

## Design

An event that finds nothing to concern does nothing: the outcome of an attempt that has been given
up, or a frame from a link that has been given up, comes too late.
-/

namespace Messenger.Session

/-- Why the user thinks that connecting may succeed now. -/
inductive WakeReason
  /-- The user can see the program again. -/
  | visible
  /-- The network is there again. -/
  | online
  deriving DecidableEq, Repr, Inhabited

/-- The reason in a word. -/
def WakeReason.name : WakeReason → String
  | .visible => "visible"
  | .online => "online"

/-- What a user asks of a session. -/
inductive Command
  /-- To connect with a credential. -/
  | connect (credential : String) (caller : Nat)
  /-- To connect anew with a credential of the provider. -/
  | reconnect (caller : Nat)
  /-- To log out. -/
  | disconnect (caller : Nat)
  | send (e : Envelope)
  | join (room : Room)
  | leave (room : Room)
  /-- Not to wait for the next attempt. -/
  | wake (reason : WakeReason)
  | watch (id watcher : Nat)
  | unwatch (id : Nat)
  /-- To count what waits. -/
  | count (caller : Nat)
  deriving Repr, Inhabited

/-- All that can happen to a session. -/
inductive Event
  | command (c : Command)
  /-- A listener is registered for a kind. -/
  | listen (kind : Kind) (listener : Nat)
  /-- A registration for a kind is removed. -/
  | unlisten (kind : Kind) (id : Nat)
  /-- The provider has answered. -/
  | acquired (answer : Credential.Answer)
  /-- The attempt has opened a link. -/
  | opened
  /-- The attempt has failed. -/
  | failed (e : Error)
  /-- The attempt has taken too long. -/
  | expired
  /-- A text came over the link. -/
  | received (text : String)
  /-- The link was closed by the server, or has ended. -/
  | ended
  /-- The heartbeat is looked after. -/
  | beat
  /-- The time of the next attempt has come. -/
  | retryDue
  deriving Repr, Inhabited

namespace Turn

variable {σ : Type} [Storage σ]

/-! ### Attempts -/

/-- The stage of an attempt that connects with a credential from now on. -/
def dialing (m : Moment) (credential : String) (t : Turn σ) : Stage :=
  .dialing credential (m.clock + t.session.connectTimeout)

/-- Connects with a credential. -/
def dial (m : Moment) (credential : String) (t : Turn σ) : Turn σ :=
  let t : Turn σ := { t with
    session := { t.session with attempt := some (t.dialing m credential) } }
  t.emit (.dialed (t.session.target.addressFor credential))

/-- Shows the queue in storage, and publishes that an attempt has begun. -/
def beginAttempt (m : Moment) (stage : Stage) (t : Turn σ) : Turn σ :=
  let t := t.reveal m
  let t : Turn σ := { t with session := { t.session with attempt := some stage } }
  t.publish m .connecting

/-- Begins an attempt with a credential. -/
def beginWith (m : Moment) (credential : String) (t : Turn σ) : Turn σ :=
  (t.beginAttempt m (t.dialing m credential)).emit
    (.dialed (t.session.target.addressFor credential))

/-- Begins an attempt with a credential of the provider, or with another one if it has none. -/
def beginFresh (m : Moment) (other : Option String) (t : Turn σ) : Turn σ :=
  (t.beginAttempt m (.asking other)).emit .asked

/-- The attempt is over without a link. -/
def fail (m : Moment) (e : Error) (t : Turn σ) : Turn σ :=
  let t : Turn σ := { t with session := { t.session with attempt := none } }
  ((t.resolve (.error e)).spill m).retry m

/-- Why an attempt fails if the provider has nothing. -/
def noCredential : Error := .credential "provider returned no credential"

/-- The provider has answered. -/
def acquire (m : Moment) (answer : Credential.Answer) (other : Option String) (t : Turn σ) :
    Turn σ :=
  match answer, other with
  | .ok (some credential), _ => t.dial m credential
  | .ok none, some credential | .error _, some credential => t.dial m credential
  | .ok none, none => t.fail m noCredential
  | .error e, none => t.fail m e

/-- The room is joined again, if that is due. -/
def rejoin (m : Moment) (t : Turn σ) : Turn σ :=
  if t.session.rejoins then
    let t : Turn σ := { t with session := { t.session with rejoins := false } }
    match t.session.room with
    | some r => t.route m (envelope m .joinRoom (Request.room r))
    | none => t
  else t

/-- A link is open: it is published, the heartbeat starts, and the callers get their answer. -/
def welcome (m : Moment) (credential : String) (t : Turn σ) : Turn σ :=
  let t : Turn σ := { t with
    session := { t.session with
      attempt := none
      backoff := t.session.backoff.reset
      link := some t.session.opened
      opened := t.session.opened + 1
      linkCredential := some credential
      lastCredential := some credential } }
  let t := t.publish m .connected
  let t : Turn σ :=
    { t with session := { t.session with heartbeat := t.session.heartbeat.start m.clock } }
  t.resolve (.ok ())

/-- A link is open: after the welcome all that waits is written on it. -/
def succeed (m : Moment) (credential : String) (t : Turn σ) : Turn σ :=
  match (t.welcome m credential).flush m with
  | (true, t) => t.rejoin m
  | (false, t) => t

/-! ### Commands -/

/-- Begins an attempt with a credential, for a caller. -/
def connectAnew (m : Moment) (credential : String) (caller : Nat) (t : Turn σ) : Turn σ :=
  let t := t.cancelRetry
  let t : Turn σ := { t with
    session := { t.session with waiters := t.session.waiters ++ [caller] } }
  t.beginWith m credential

/-- Connects with a credential. A caller who comes while an attempt is under way waits for its
outcome. -/
def connect (m : Moment) (credential : String) (caller : Nat) (t : Turn σ) : Turn σ :=
  let t : Turn σ := { t with session := { t.session with loggedOut := false } }
  if t.session.attempt.isSome then
    { t with session := { t.session with waiters := t.session.waiters ++ [caller] } }
  else if t.session.link.isSome then
    if t.session.linkCredential = some credential then t.reply (.ok ()) [caller]
    else t.dropLink.connectAnew m credential caller
  else t.connectAnew m credential caller

/-- Connects anew, unless there is a link or an attempt. -/
def reconnect (m : Moment) (caller : Nat) (t : Turn σ) : Turn σ :=
  if t.session.attempt.isSome ∨ t.session.link.isSome then t.reply (.ok ()) [caller]
  else
    let t : Turn σ := { t with
      session := { t.session with loggedOut := false, backoff := t.session.backoff.reset } }
    let t := t.cancelRetry
    let t : Turn σ := { t with
      session := { t.session with waiters := t.session.waiters ++ [caller] } }
    t.beginFresh m t.session.lastCredential

/-- Gives the attempt up, if there is one. -/
def abandon (t : Turn σ) : Turn σ :=
  let t := if t.session.attempt.isSome then
      { t with session := { t.session with attempt := none } }.emit .abandoned
    else t
  t.resolve (.error .disconnected)

/-- Gives up the link, the attempt and the next attempt: nothing will happen on its own. -/
def tearDown (t : Turn σ) : Turn σ :=
  (t.stopHeartbeat.cancelRetry.abandon).dropLink

/-- Logs out: there is nothing any more but what waits in storage, which is hidden. -/
def disconnect (m : Moment) (caller : Nat) (t : Turn σ) : Turn σ :=
  let t : Turn σ := { t with session := { t.session with loggedOut := true, rejoins := false } }
  let t := t.tearDown
  let t : Turn σ := { t with session := { t.session with registry := t.session.registry.clear } }
  let t := ((t.rememberRoom none).spill m).hide
  let t : Turn σ := { t with session := { t.session with backoff := t.session.backoff.reset } }
  (t.publish m .disconnected).reply (.ok ()) [caller]

/-- The user joins a room. -/
def join (m : Moment) (r : Room) (t : Turn σ) : Turn σ :=
  (t.rememberRoom (some r)).route m (envelope m .joinRoom (Request.room r))

/-- The user leaves a room. -/
def leave (m : Moment) (r : Room) (t : Turn σ) : Turn σ :=
  let t := if t.session.room = some r then t.rememberRoom none else t
  t.route m (envelope m .leaveRoom (Request.room r))

/-- Does not wait for the next attempt. -/
def wake (m : Moment) (t : Turn σ) : Turn σ :=
  if t.session.loggedOut = false ∧ t.session.publisher.current = .reconnecting ∧
      t.session.attempt = none ∧ t.session.link = none then
    t.cancelRetry.beginFresh m none
  else t

/-- Does what a user asks for. -/
def obey (m : Moment) (c : Command) (t : Turn σ) : Turn σ :=
  match c with
  | .connect credential caller => t.connect m credential caller
  | .reconnect caller => t.reconnect m caller
  | .disconnect caller => t.disconnect m caller
  | .send e => t.route m e
  | .join r => t.join m r
  | .leave r => t.leave m r
  | .wake _ => t.wake m
  | .watch id watcher =>
    let (publisher, outbox) := t.session.publisher.subscribe (Outbox.tell m) id watcher t.outbox
    { t with session := { t.session with publisher := publisher }, outbox := outbox }
  | .unwatch id =>
    { t with session := { t.session with publisher := t.session.publisher.unsubscribe id } }
  | .count caller =>
    t.emit (.counted caller t.session.pending.items.length t.session.offline.items.length)

/-! ### What comes in -/

/-- A text came over the link. A text that is no envelope is passed over; an answer to a ping
concerns the heartbeat alone. -/
def receive (m : Moment) (text : String) (t : Turn σ) : Turn σ :=
  match Envelope.decode m.stamp text with
  | .error _ => t
  | .ok e =>
    if e.kind = .pong then
      { t with session := { t.session with heartbeat := t.session.heartbeat.pong } }
    else { t with outbox := (t.session.registry.dispatch (Outbox.deliver m) e t.outbox).2 }

/-- Pings the server, and arms the watchdog. -/
def ping (m : Moment) (t : Turn σ) : Turn σ :=
  match t.session.link with
  | some link =>
    match t.outbox.transmit m link (envelope m .ping (.object [])) with
    | (.ok _, outbox) =>
      { t with
        session := { t.session with heartbeat := t.session.heartbeat.arm m.clock }
        outbox := outbox }
    | (.error _, outbox) => { t with outbox := outbox }.lose m
  | none => t.stopHeartbeat

/-- Looks after the heartbeat. -/
def beat (m : Moment) (t : Turn σ) : Turn σ :=
  let (event, heartbeat) := t.session.heartbeat.poll m.pingFirst m.clock
  let t : Turn σ := { t with session := { t.session with heartbeat := heartbeat } }
  match event with
  | some .ping => t.ping m
  | some .timeout => t.lose m
  | none => t

end Turn

variable {σ : Type} [Storage σ]

/-- What an event does. -/
def react (m : Moment) (event : Event) (t : Turn σ) : Turn σ :=
  match event with
  | .command c => t.obey m c
  | .listen kind listener =>
    { t with session := { t.session with registry := (t.session.registry.on kind listener).2 } }
  | .unlisten kind id =>
    { t with session := { t.session with registry := (t.session.registry.off kind id).2 } }
  | .acquired answer =>
    match t.session.attempt with
    | some (.asking other) => t.acquire m answer other
    | _ => t
  | .opened =>
    match t.session.attempt with
    | some (.dialing credential _) => t.succeed m credential
    | _ => t
  | .failed e =>
    match t.session.attempt with
    | some (.dialing _ _) => t.fail m e
    | _ => t
  | .expired =>
    match t.session.attempt with
    | some (.dialing _ _) => (t.emit .abandoned).fail m (.transport "connect timed out")
    | _ => t
  | .received text => if t.session.link.isSome then t.receive m text else t
  | .ended => if t.session.link.isSome then t.lose m else t
  | .beat => t.beat m
  | .retryDue => if t.session.retryAt.isSome then t.cancelRetry.beginFresh m none else t

/-- What an event does to a session and its storage, with the effects on the world outside. -/
def step (m : Moment) (event : Event) (s : Session) (store : σ) : Turn σ :=
  react m event (s.turn store)

/-- Nobody holds the session any more: it ends, but is not logged out. -/
def shutDown (m : Moment) (s : Session) (store : σ) : Turn σ :=
  ((s.turn store).stopHeartbeat.cancelRetry.abandon.spill m).dropLink

/-- Events in a row, with the effects of each. -/
def run : List (Moment × Event) → Session → σ → Session × σ × List (List Effect)
  | [], s, store => (s, store, [])
  | (m, event) :: rest, s, store =>
    let t := step m event s store
    let (s, store, effects) := run rest t.session t.store
    (s, store, t.outbox.effects :: effects)

end Messenger.Session
