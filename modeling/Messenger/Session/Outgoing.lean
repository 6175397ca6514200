import Messenger.Session.Basic

set_option relaxedAutoImplicit false
set_option autoImplicit false

/-!
# What goes out

An envelope is written on the link if there is one. While an attempt to connect is under way it
waits in memory, and otherwise in storage. No envelope is given up: what a link does not take waits
in storage, and what waits in memory moves there when the attempt is over without a link.

## Main definitions

* `Messenger.Session.Turn.route`: sends an envelope, or lets it wait.
* `Messenger.Session.Turn.flush`: writes all that waits on a new link.
* `Messenger.Session.Turn.spill`: moves what waits in memory to storage.
* `Messenger.Session.Turn.lose`: the link is lost.
* `Messenger.Session.Turn.hide`, `Messenger.Session.Turn.reveal`: hiding what waits in storage, and
  showing it again.
-/

namespace Messenger.Session.Turn

variable {σ : Type}

/-- Publishes the state. -/
def publish (m : Moment) (next : ConnectionState) (t : Turn σ) : Turn σ :=
  let (_, publisher, outbox) := t.session.publisher.transition (Outbox.tell m) next t.outbox
  { t with session := { t.session with publisher := publisher }, outbox := outbox }

/-- One more effect. -/
def emit (effect : Effect) (t : Turn σ) : Turn σ :=
  { t with outbox := t.outbox.add effect }

/-- Gives the same answer to callers, in order. -/
def reply (result : Except Error Unit) (callers : List Nat) (t : Turn σ) : Turn σ :=
  { t with outbox := t.outbox.reply result callers }

/-- Gives the same answer to all callers who wait for the attempt. -/
def resolve (result : Except Error Unit) (t : Turn σ) : Turn σ :=
  let t := t.reply result t.session.waiters
  { t with session := { t.session with waiters := [] } }

/-- Stops the heartbeat. -/
def stopHeartbeat (t : Turn σ) : Turn σ :=
  { t with session := { t.session with heartbeat := t.session.heartbeat.stop } }

/-- No next attempt is due any more. -/
def cancelRetry (t : Turn σ) : Turn σ :=
  { t with session := { t.session with retryAt := none } }

/-- Closes the link and gives it up, if there is one. -/
def dropLink (t : Turn σ) : Turn σ :=
  let t := t.stopHeartbeat
  let t := match t.session.link with
    | some link => t.emit (.closed link)
    | none => t
  { t with session := { t.session with link := none, linkCredential := none } }

/-- Sets the time of the next attempt. -/
def scheduleRetry (m : Moment) (t : Turn σ) : Turn σ :=
  let (delay, backoff) := t.session.backoff.next
  let t := { t with session := { t.session with backoff := backoff, rejoins := true } }
  let t := t.publish m .reconnecting
  { t with session := { t.session with retryAt := some (m.clock + delay.millis) } }

/-- There is neither link nor attempt any more: the next attempt is scheduled, unless the user has
logged out. -/
def retry (m : Moment) (t : Turn σ) : Turn σ :=
  if t.session.loggedOut then t.publish m .disconnected else t.scheduleRetry m

/-- The link is lost. -/
def lose (m : Moment) (t : Turn σ) : Turn σ :=
  t.dropLink.retry m

/-- Hides what waits in storage. -/
def hide (t : Turn σ) : Turn σ :=
  { t with session := { t.session with offline := t.session.offline.detach } }

variable [Storage σ]

/-- Shows what waits in storage. -/
def reveal (m : Moment) (t : Turn σ) : Turn σ :=
  let (offline, store) := t.session.offline.reattach m.stamp t.store
  { t with session := { t.session with offline := offline }, store := store }

/-- Lets an envelope wait in storage. -/
def keep (m : Moment) (e : Envelope) (t : Turn σ) : Turn σ :=
  let (offline, store) := t.session.offline.push m.stamp e t.store
  { t with session := { t.session with offline := offline }, store := store }

/-- Moves what waits in memory to storage, behind what is there. -/
def spill (m : Moment) (t : Turn σ) : Turn σ :=
  let (items, pending) := t.session.pending.takeAll
  let (offline, store) := t.session.offline.extend m.stamp items t.store
  { t with session := { t.session with pending := pending, offline := offline }, store := store }

/-- Moves what waits in memory to storage, ahead of what is there. -/
def spillAhead (m : Moment) (t : Turn σ) : Turn σ :=
  let (items, pending) := t.session.pending.takeAll
  let (offline, store) := t.session.offline.prepend m.stamp items t.store
  { t with session := { t.session with pending := pending, offline := offline }, store := store }

/-- Sends an envelope, or lets it wait. -/
def route (m : Moment) (e : Envelope) (t : Turn σ) : Turn σ :=
  match t.session.link with
  | some link =>
    match t.outbox.transmit m link e with
    | (.ok _, outbox) => { t with outbox := outbox }
    | (.error _, outbox) => ({ t with outbox := outbox }.keep m e).lose m
  | none =>
    if t.session.attempt.isSome then
      { t with session := { t.session with pending := t.session.pending.push e } }
    else t.keep m e

/-- Writes on a link what waits in memory, up to the first that the link does not take. -/
def drainPending (m : Moment) (link : Nat) (t : Turn σ) : Except Error Nat × Turn σ :=
  let (result, pending, outbox) := t.session.pending.drain (Outbox.transmit m link) t.outbox
  (result, { t with session := { t.session with pending := pending }, outbox := outbox })

/-- Writes on a link what waits in storage, up to the first that the link does not take. -/
def drainOffline (m : Moment) (link : Nat) (t : Turn σ) : Except Error Nat × Turn σ :=
  let (result, offline, store, outbox) :=
    t.session.offline.drain (Outbox.transmit m link) t.store t.outbox
  (result, ⟨{ t.session with offline := offline }, store, outbox⟩)

/-- The link did not take all that waits: it is lost, and what is left waits in storage in the same
order. -/
def breakOff (m : Moment) (t : Turn σ) : Turn σ :=
  (t.spillAhead m).lose m

/-- Writes on the link all that waits in memory, then all that waits in storage. Gives whether the
link took it all. -/
def flush (m : Moment) (t : Turn σ) : Bool × Turn σ :=
  match t.session.link with
  | none => (false, t)
  | some link =>
    match t.drainPending m link with
    | (.error _, t) => (false, t.breakOff m)
    | (.ok _, t) =>
      match t.drainOffline m link with
      | (.error _, t) => (false, t.breakOff m)
      | (.ok _, t) => (true, t)

/-- The user is in a room now, or in none. If that cannot be stored it holds all the same. -/
def rememberRoom (room : Option Room) (t : Turn σ) : Turn σ :=
  let store := match room with
    | some r =>
      (Storage.write t.session.roomKey (String.ofList (Text.decimal r)) t.store).2
    | none => (Storage.remove t.session.roomKey t.store).2
  { t with session := { t.session with room := room, sharedRoom := room }, store := store }

/-- An envelope that is made at a moment. -/
def envelope (m : Moment) (kind : Kind) (payload : Json.Value) : Envelope :=
  ⟨kind, payload, m.stamp, m.freshId⟩

end Messenger.Session.Turn
