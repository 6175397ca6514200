import Mathlib.Tactic.Lemma
import Messenger.Proofs.Session.Trace

set_option relaxedAutoImplicit false
set_option autoImplicit false

/-!
# The connection of a session

Of all that a session knows, its connection is the link, the attempt, the time of the next attempt
and what goes with them. What waits does not touch it, and what touches it does one of few things:
a state is published, the link is given up, the next attempt is scheduled.

## Main definitions

* `Messenger.Session.Connection`: what a session has of its connection.
* `Messenger.Session.Connection.lose`: the link is given up, and the next attempt is scheduled.

## Main results

* `Messenger.Session.Turn.connection_route`, `Messenger.Session.Turn.connection_flush`: what writing
  on the link does to the connection.
* `Messenger.Session.Turn.connection_welcome`, `Messenger.Session.Turn.connection_fail`: what the
  end of an attempt does to it.
-/

namespace Messenger.Session

/-! ### Connections -/

/-- What a session has of its connection. -/
@[ext] structure Connection where
  link : Option Nat
  /-- The credential of the open link. -/
  credential : Option String
  attempt : Option Stage
  retryAt : Option Nat
  opened : Nat
  /-- The published state. -/
  state : ConnectionState
  /-- The copy of the published state that can be read at any time. -/
  cell : ConnectionState
  heartbeat : Heartbeat
  loggedOut : Bool
  rejoins : Bool

/-- The connection of a session. -/
def connection (s : Session) : Connection where
  link := s.link
  credential := s.linkCredential
  attempt := s.attempt
  retryAt := s.retryAt
  opened := s.opened
  state := s.publisher.current
  cell := s.publisher.cell
  heartbeat := s.heartbeat
  loggedOut := s.loggedOut
  rejoins := s.rejoins

namespace Connection

/-- A state is published. -/
def publish (next : ConnectionState) (c : Connection) : Connection :=
  { c with state := next, cell := if next = c.state then c.cell else next }

/-- The link is given up. -/
def drop (c : Connection) : Connection :=
  { c with link := none, credential := none, heartbeat := c.heartbeat.stop }

/-- An attempt begins. -/
def begin (stage : Stage) (c : Connection) : Connection :=
  { c with attempt := some stage }.publish .connecting

/-- The next attempt is scheduled, unless the user has logged out. -/
def retry (due : Nat) (c : Connection) : Connection :=
  if c.loggedOut then c.publish .disconnected
  else { c.publish .reconnecting with retryAt := some due, rejoins := true }

/-- The link is given up, and the next attempt is scheduled. -/
def lose (due : Nat) (c : Connection) : Connection :=
  c.drop.retry due

/-- A link is open. -/
def welcome (clock : Nat) (credential : String) (c : Connection) : Connection :=
  { c.publish .connected with
    link := some c.opened
    credential := some credential
    attempt := none
    opened := c.opened + 1
    heartbeat := c.heartbeat.start clock }

/-- Scheduling leaves the attempt alone. -/
@[simp] lemma attempt_retry (due : Nat) (c : Connection) : (c.retry due).attempt = c.attempt := by
  unfold retry
  split <;> rfl

/-- Scheduling leaves the link alone. -/
@[simp] lemma link_retry (due : Nat) (c : Connection) : (c.retry due).link = c.link := by
  unfold retry
  split <;> rfl

/-- Scheduling opens no link. -/
@[simp] lemma opened_retry (due : Nat) (c : Connection) : (c.retry due).opened = c.opened := by
  unfold retry
  split <;> rfl

/-- Scheduling leaves the heartbeat alone. -/
@[simp] lemma heartbeat_retry (due : Nat) (c : Connection) :
    (c.retry due).heartbeat = c.heartbeat := by
  unfold retry
  split <;> rfl

/-- The loss of the link leaves the attempt alone. -/
@[simp] lemma attempt_lose (due : Nat) (c : Connection) : (c.lose due).attempt = c.attempt :=
  attempt_retry due c.drop

/-- There is no link after its loss. -/
@[simp] lemma link_lose (due : Nat) (c : Connection) : (c.lose due).link = none :=
  link_retry due c.drop

/-- The loss of the link opens no other one. -/
@[simp] lemma opened_lose (due : Nat) (c : Connection) : (c.lose due).opened = c.opened :=
  opened_retry due c.drop

end Connection

/-! ### Turns -/

namespace Turn

variable {σ : Type}

/-- What publishing a state does to the connection. -/
@[simp] lemma connection_publish (m : Moment) (next : ConnectionState) (t : Turn σ) :
    (t.publish m next).session.connection = t.session.connection.publish next := by
  unfold publish Publisher.transition Connection.publish
  by_cases h : next = t.session.publisher.current
  · simp [connection, h]
  · simp [connection, h]

/-- Effects leave the connection alone. -/
@[simp] lemma connection_emit (effect : Effect) (t : Turn σ) :
    (t.emit effect).session.connection = t.session.connection := rfl

/-- Answers leave the connection alone. -/
@[simp] lemma connection_reply (result : Except Error Unit) (callers : List Nat) (t : Turn σ) :
    (t.reply result callers).session.connection = t.session.connection := rfl

/-- Answers to those who wait leave the connection alone. -/
@[simp] lemma connection_resolve (result : Except Error Unit) (t : Turn σ) :
    (t.resolve result).session.connection = t.session.connection := rfl

/-- What stopping the heartbeat does to the connection. -/
@[simp] lemma connection_stopHeartbeat (t : Turn σ) :
    t.stopHeartbeat.session.connection =
      { t.session.connection with heartbeat := t.session.heartbeat.stop } := rfl

/-- What giving up the next attempt does to the connection. -/
@[simp] lemma connection_cancelRetry (t : Turn σ) :
    t.cancelRetry.session.connection = { t.session.connection with retryAt := none } := rfl

/-- What giving up the link does to the connection. -/
@[simp] lemma connection_dropLink (t : Turn σ) :
    t.dropLink.session.connection = t.session.connection.drop := by
  unfold dropLink
  dsimp only
  split <;> rfl

/-- What giving up the attempt does to the connection. -/
@[simp] lemma connection_abandon (t : Turn σ) :
    t.abandon.session.connection = { t.session.connection with attempt := none } := by
  unfold abandon
  rw [connection_resolve]
  split
  · rfl
  · next h =>
    have hnone : t.session.attempt = none := by simpa using h
    simp [connection, hnone]

/-- What tearing everything down does to the connection. -/
@[simp] lemma connection_tearDown (t : Turn σ) :
    t.tearDown.session.connection =
      { t.session.connection with attempt := none, retryAt := none }.drop := by
  unfold tearDown
  rw [connection_dropLink, connection_abandon, connection_cancelRetry, connection_stopHeartbeat]
  rfl

/-- What comes over the link concerns the heartbeat alone. -/
lemma connection_receive (m : Moment) (text : String) (t : Turn σ) :
    ∃ heartbeat : Heartbeat, (t.receive m text).session.connection =
      { t.session.connection with heartbeat := heartbeat } := by
  unfold receive
  split
  · exact ⟨t.session.heartbeat, rfl⟩
  · split
    · exact ⟨t.session.heartbeat.pong, rfl⟩
    · exact ⟨t.session.heartbeat, rfl⟩

/-- What scheduling the next attempt does to the connection. -/
lemma connection_retry (m : Moment) (t : Turn σ) :
    ∃ due, (t.retry m).session.connection = t.session.connection.retry due := by
  refine ⟨m.clock + t.session.backoff.next.1.millis, ?_⟩
  have hlogged : t.session.connection.loggedOut = t.session.loggedOut := rfl
  unfold retry Connection.retry
  rw [hlogged]
  split
  · exact connection_publish m .disconnected t
  · have hpublish := connection_publish m .reconnecting
      { t with session := { t.session with backoff := t.session.backoff.next.2, rejoins := true } }
    exact congrArg (fun c : Connection => { c with
      retryAt := some (m.clock + t.session.backoff.next.1.millis), rejoins := true }) hpublish

/-- What the loss of the link does to the connection. -/
lemma connection_lose (m : Moment) (t : Turn σ) :
    ∃ due, (t.lose m).session.connection = t.session.connection.lose due := by
  obtain ⟨due, h⟩ := connection_retry m t.dropLink
  exact ⟨due, by rw [lose, h, connection_dropLink, Connection.lose]⟩

/-- Draining what waits in memory leaves the connection alone. -/
@[simp] lemma connection_drainPending (m : Moment) (link : Nat) (t : Turn σ) :
    (t.drainPending m link).2.session.connection = t.session.connection := rfl

/-- What a new link does to the connection. -/
@[simp] lemma connection_welcome (m : Moment) (credential : String) (t : Turn σ) :
    (t.welcome m credential).session.connection =
      t.session.connection.welcome m.clock credential := by
  have hpublish := connection_publish m .connected { t with
    session := { t.session with
      attempt := none
      backoff := t.session.backoff.reset
      link := some t.session.opened
      opened := t.session.opened + 1
      linkCredential := some credential
      lastCredential := some credential } }
  exact congrArg (fun c : Connection => { c with heartbeat := c.heartbeat.start m.clock }) hpublish

/-- After the loss of the link there is none, the attempt is what it was, and no other link has been
opened. -/
lemma lose_spec (m : Moment) (t : Turn σ) :
    (t.lose m).session.link = none ∧ (t.lose m).session.attempt = t.session.attempt ∧
      (t.lose m).session.opened = t.session.opened := by
  obtain ⟨due, h⟩ := connection_lose m t
  have hlink := congrArg Connection.link h
  have hattempt := congrArg Connection.attempt h
  have hopened := congrArg Connection.opened h
  rw [Connection.link_lose] at hlink
  rw [Connection.attempt_lose] at hattempt
  rw [Connection.opened_lose] at hopened
  exact ⟨hlink, hattempt, hopened⟩

variable [Storage σ]

/-- Keeping an envelope leaves the connection alone. -/
@[simp] lemma connection_keep (m : Moment) (e : Envelope) (t : Turn σ) :
    (t.keep m e).session.connection = t.session.connection := rfl

/-- Draining what waits in storage leaves the connection alone. -/
@[simp] lemma connection_drainOffline (m : Moment) (link : Nat) (t : Turn σ) :
    (t.drainOffline m link).2.session.connection = t.session.connection := rfl

/-- What breaking off does to the connection. -/
lemma connection_breakOff (m : Moment) (t : Turn σ) :
    ∃ due, (t.breakOff m).session.connection = t.session.connection.lose due :=
  connection_lose m (t.spillAhead m)

/-- An envelope that is sent is written on the link, or is refused by it, or waits for the end of an
attempt, or waits in storage.

**Proof sketch.** By whether there is a link, whether it accepts the next frame, and whether an
attempt is under way. -/
lemma route_cases (m : Moment) (e : Envelope) (t : Turn σ) :
    (∃ link, t.session.link = some link ∧ m.accepts t.outbox.offers ∧
      t.route m e = { t with
        outbox := Outbox.add (.wrote link e) { t.outbox with offers := t.outbox.offers + 1 } }) ∨
    (∃ link, t.session.link = some link ∧ ¬ m.accepts t.outbox.offers ∧
      t.route m e = (keep m e { t with
        outbox := { t.outbox with offers := t.outbox.offers + 1 } }).lose m) ∨
    (t.session.link = none ∧ t.session.attempt.isSome ∧
      t.route m e = { t with
        session := { t.session with pending := t.session.pending.push e } }) ∨
    (t.session.link = none ∧ t.session.attempt = none ∧ t.route m e = t.keep m e) := by
  unfold route
  cases hlink : t.session.link with
  | some link =>
    by_cases h : m.accepts t.outbox.offers
    · refine .inl ⟨link, rfl, h, ?_⟩
      simp [Outbox.transmit, h]
    · refine .inr (.inl ⟨link, rfl, h, ?_⟩)
      simp [Outbox.transmit, h]
  | none =>
    cases hattempt : t.session.attempt with
    | some stage => exact .inr (.inr (.inl ⟨rfl, rfl, rfl⟩))
    | none => exact .inr (.inr (.inr ⟨rfl, rfl, rfl⟩))

/-- **What writing one envelope does to the connection.** It leaves the connection alone, unless the
link refuses the envelope: then the link is lost. -/
lemma connection_route (m : Moment) (e : Envelope) (t : Turn σ) :
    ∃ due, (t.route m e).session.connection =
      if t.session.link.isSome ∧ ¬ m.accepts t.outbox.offers then t.session.connection.lose due
      else t.session.connection := by
  rcases route_cases m e t with ⟨link, hlink, h, hroute⟩ | ⟨link, hlink, h, hroute⟩ |
    ⟨hlink, -, hroute⟩ | ⟨hlink, -, hroute⟩ <;> rw [hroute]
  · exact ⟨0, by simp [h, connection]⟩
  · obtain ⟨due, hlose⟩ := connection_lose m
      (keep m e { t with outbox := { t.outbox with offers := t.outbox.offers + 1 } })
    refine ⟨due, ?_⟩
    rw [hlose, hlink, if_pos ⟨rfl, h⟩]
    rfl
  · exact ⟨0, by simp [hlink, connection]⟩
  · exact ⟨0, by simp [hlink]⟩

/-- **What writing all that waits does to the connection.** It leaves the connection alone, unless
the link refuses some of it: then the link is lost.

**Proof sketch.** Draining either queue leaves the connection alone, and to break off at a refusal
is to lose the link. -/
lemma connection_flush (m : Moment) {t : Turn σ} (hlink : t.session.link.isSome) :
    ∃ due, (t.flush m).2.session.connection =
      if (t.flush m).1 then t.session.connection else t.session.connection.lose due := by
  obtain ⟨link, hlink⟩ := Option.isSome_iff_exists.1 hlink
  have hpending := connection_drainPending m link t
  unfold flush
  obtain ⟨first, t₁, ht₁⟩ : ∃ first t₁, t.drainPending m link = (first, t₁) := ⟨_, _, rfl⟩
  have hoffline := connection_drainOffline m link t₁
  obtain ⟨second, t₂, ht₂⟩ : ∃ second t₂, t₁.drainOffline m link = (second, t₂) := ⟨_, _, rfl⟩
  simp only [ht₁, ht₂] at hpending hoffline
  cases first with
  | error err =>
    obtain ⟨due, h⟩ := connection_breakOff m t₁
    exact ⟨due, by simp [hlink, ht₁, h, hpending]⟩
  | ok n =>
    cases second with
    | error err =>
      obtain ⟨due, h⟩ := connection_breakOff m t₂
      exact ⟨due, by simp [hlink, ht₁, ht₂, h, hoffline, hpending]⟩
    | ok n' => exact ⟨0, by simp [hlink, ht₁, ht₂, hoffline, hpending]⟩

/-- What draining either queue and breaking off keep, writing all that waits keeps.

**Proof sketch.** The queue in memory is drained first, and then that in storage, unless the first
drain has been broken off. -/
lemma flush_invariant {P : Turn σ → Prop} (m : Moment)
    (hpending : ∀ t link, P t → P (t.drainPending m link).2)
    (hoffline : ∀ t link, P t → P (t.drainOffline m link).2)
    (hbreak : ∀ t, P t → P (t.breakOff m)) {t : Turn σ} (h : P t) : P (t.flush m).2 := by
  unfold flush
  split
  · exact h
  · next link _ =>
    have hfirst := hpending t link h
    split
    · next heq =>
      rw [heq] at hfirst
      exact hbreak _ hfirst
    · next t₁ heq =>
      rw [heq] at hfirst
      have hsecond := hoffline t₁ link hfirst
      split
      · next heq' =>
        rw [heq'] at hsecond
        exact hbreak _ hsecond
      · next heq' =>
        rw [heq'] at hsecond
        exact hsecond

/-- What holds after the welcome of a new link holds after that link was opened, if writing all that
waits and joining the room again keep it. -/
lemma succeed_invariant {P : Turn σ → Prop} (m : Moment) {t : Turn σ} {credential : String}
    (hflush : P (t.welcome m credential) → P ((t.welcome m credential).flush m).2)
    (hrejoin : ∀ t, P t → P (t.rejoin m)) (h : P (t.welcome m credential)) :
    P (t.succeed m credential) := by
  have hwritten := hflush h
  unfold succeed
  split
  · next heq =>
    rw [heq] at hwritten
    exact hrejoin _ hwritten
  · next heq =>
    rw [heq] at hwritten
    exact hwritten

/-! ### Attempts -/

/-- What the beginning of an attempt does to the connection. -/
@[simp] lemma connection_beginAttempt (m : Moment) (stage : Stage) (t : Turn σ) :
    (t.beginAttempt m stage).session.connection = t.session.connection.begin stage := by
  unfold beginAttempt
  rw [connection_publish]
  rfl

/-- What an attempt with a credential does to the connection. -/
@[simp] lemma connection_beginWith (m : Moment) (credential : String) (t : Turn σ) :
    (t.beginWith m credential).session.connection =
      t.session.connection.begin (t.dialing m credential) := by
  rw [beginWith, connection_emit, connection_beginAttempt]

/-- What an attempt with a credential of the provider does to the connection. -/
@[simp] lemma connection_beginFresh (m : Moment) (other : Option String) (t : Turn σ) :
    (t.beginFresh m other).session.connection = t.session.connection.begin (.asking other) := by
  rw [beginFresh, connection_emit, connection_beginAttempt]

/-- What the end of an attempt without a link does to the connection. -/
lemma connection_fail (m : Moment) (e : Error) (t : Turn σ) :
    ∃ due, (t.fail m e).session.connection =
      { t.session.connection with attempt := none }.retry due :=
  connection_retry m ((resolve (.error e)
    { t with session := { t.session with attempt := none } }).spill m)

/-- What logging out does to the connection. -/
lemma connection_disconnect (m : Moment) (caller : Nat) (t : Turn σ) :
    (t.disconnect m caller).session.connection =
      { t.session.connection with
        loggedOut := true, rejoins := false, attempt := none, retryAt := none }.drop.publish
          .disconnected := by
  have hrest : ∀ t : Turn σ, (((({ t with
      session := { t.session with registry := t.session.registry.clear } } : Turn σ).rememberRoom
        none).spill m).hide).session.connection = t.session.connection := fun _ => rfl
  have hreset : ∀ t : Turn σ,
      { t.session with backoff := t.session.backoff.reset }.connection = t.session.connection :=
    fun _ => rfl
  unfold disconnect
  dsimp only
  rw [connection_reply, connection_publish, hreset, hrest, connection_tearDown]
  rfl

/-- The room is joined again by sending an envelope, if that is due. -/
lemma rejoin_eq (m : Moment) (t : Turn σ) :
    t.rejoin m = (t.session.rejoining m).foldl (fun t e => t.route m e)
      { t with session := { t.session with rejoins := false } } := by
  unfold rejoin rejoining
  cases hrejoins : t.session.rejoins with
  | false =>
    have hsame : ({ t with session := { t.session with rejoins := false } } : Turn σ) = t := by
      rw [← hrejoins]
    simp [hsame]
  | true => cases hroom : t.session.room <;> simp [hroom]

/-- There is one envelope at most by which the room is joined again. -/
lemma rejoining_cases (m : Moment) (s : Session) :
    s.rejoining m = [] ∨ ∃ e, s.rejoining m = [e] := by
  unfold rejoining
  split
  · cases s.room with
    | none => exact .inl rfl
    | some r => exact .inr ⟨_, rfl⟩
  · exact .inl rfl

/-- Joining the room again leaves the link alone, unless the link refuses it: then it is lost. -/
lemma connection_rejoin (m : Moment) {t : Turn σ} (hlink : t.session.link.isSome) :
    ∃ due, (t.rejoin m).session.connection =
      if t.session.rejoining m ≠ [] ∧ ¬ m.accepts t.outbox.offers then
        { t.session.connection with rejoins := false }.lose due
      else { t.session.connection with rejoins := false } := by
  rw [rejoin_eq]
  rcases rejoining_cases m t.session with hnone | ⟨e, hone⟩
  · rw [hnone]
    exact ⟨0, rfl⟩
  · obtain ⟨due, hroute⟩ := connection_route m e
      { t with session := { t.session with rejoins := false } }
    refine ⟨due, ?_⟩
    rw [hone, List.foldl_cons, List.foldl_nil, hroute]
    simp only [hlink, true_and, ne_eq, List.cons_ne_nil, not_false_eq_true]
    rfl

end Turn

end Messenger.Session
