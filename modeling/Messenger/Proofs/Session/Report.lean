import Messenger.Proofs.Queue.Contents
import Messenger.Proofs.Session.Connection
import Messenger.Proofs.Session.Outbox

set_option relaxedAutoImplicit false
set_option autoImplicit false

/-!
# Reports of an event

A report of a session in the middle of an event tells all that has to do with its connection, who
waits for an answer, who listens, and what has been said to the world outside. What waits to be
sent, and who watches, is left out. Every part of an event does something simple to a report.

## Main definitions

* `Messenger.Session.Said`: what has been said to callers, to servers, to links and to listeners.
* `Messenger.Session.Report`: the connection, what goes with it, and what has been said.
* `Messenger.Session.Turn.report`: the report of a session in the middle of an event.

## Main results

* `Messenger.Session.Turn.report_route`, `Messenger.Session.Turn.report_succeed`: what writing on a
  link does to a report.
* `Messenger.Session.Turn.report_fail`, `Messenger.Session.Turn.report_disconnect`: what the end of
  an attempt without a link does to it.
-/

namespace Messenger.Session

/-! ### What has been said -/

/-- The answer that an effect gave, with the caller who got it. -/
def Effect.answer? : Effect → Option (Nat × Except Error Unit)
  | .replied caller result => some (caller, result)
  | _ => none

/-- The address that is to be connected to by an effect. -/
def Effect.address? : Effect → Option Address
  | .dialed address => some address
  | _ => none

/-- The link that an effect closed. -/
def Effect.closing? : Effect → Option Nat
  | .closed link => some link
  | _ => none

/-- The envelope that an effect delivered, with the listener who got it. -/
def Effect.delivery? : Effect → Option (Nat × Envelope)
  | .delivered listener e => some (listener, e)
  | _ => none

/-- What has been said: the answers to callers, the addresses that are to be connected to, the links
that were closed, and what was delivered to listeners. -/
@[ext] structure Said where
  answers : List (Nat × Except Error Unit)
  dialed : List Address
  closed : List Nat
  delivered : List (Nat × Envelope)

/-- Nothing has been said. -/
def Said.nothing : Said := ⟨[], [], [], []⟩

/-- One more effect. -/
def Said.add (effect : Effect) (s : Said) : Said :=
  match effect with
  | .replied caller result => { s with answers := s.answers ++ [(caller, result)] }
  | .dialed address => { s with dialed := s.dialed ++ [address] }
  | .closed link => { s with closed := s.closed ++ [link] }
  | .delivered listener e => { s with delivered := s.delivered ++ [(listener, e)] }
  | .wrote _ _ | .asked | .abandoned | .counted _ _ _ | .told _ _ => s

namespace Outbox

/-- What the effects so far have said. -/
def said (o : Outbox) : Said where
  answers := o.effects.filterMap Effect.answer?
  dialed := o.effects.filterMap Effect.address?
  closed := o.effects.filterMap Effect.closing?
  delivered := o.effects.filterMap Effect.delivery?

/-- What one more effect says. -/
@[simp] lemma said_add (effect : Effect) (o : Outbox) :
    (o.add effect).said = o.said.add effect := by
  cases effect <;>
    simp [said, add, Said.add, Effect.answer?, Effect.address?, Effect.closing?, Effect.delivery?]

/-- What answers to callers say. -/
lemma said_reply (result : Except Error Unit) (callers : List Nat) (o : Outbox) :
    (o.reply result callers).said =
      { o.said with answers := o.said.answers ++ callers.map (·, result) } := by
  simp [said, effects_reply, Function.comp_def, Effect.answer?, Effect.address?, Effect.closing?,
    Effect.delivery?]

/-- To tell watchers the state says nothing to anyone else. -/
lemma said_tell (m : Moment) (state : ConnectionState) (watchers : List (Nat × Nat)) (o : Outbox) :
    (callAll (fun w => tell m w.2 state) watchers o).2.said = o.said := by
  simp [said, effects_tell, Function.comp_def, Effect.answer?, Effect.address?, Effect.closing?,
    Effect.delivery?]

/-- What listeners are told. -/
lemma said_deliver (m : Moment) (e : Envelope) (listeners : List Nat) (o : Outbox) :
    (callAll (fun listener => deliver m listener e) listeners o).2.said =
      { o.said with delivered := o.said.delivered ++ listeners.map (·, e) } := by
  simp [said, callAll_deliver, Function.comp_def, Effect.answer?, Effect.address?, Effect.closing?,
    Effect.delivery?]

/-- To hand envelopes to a link says nothing. -/
lemma said_drainList (m : Moment) (link : Nat) (es : List Envelope) (sent : Nat) (o : Outbox) :
    (Queue.Pending.drainList (transmit m link) es sent o).2.2.said = o.said := by
  obtain ⟨written, heffects⟩ := effects_drainList m link es sent o
  simp [said, heffects, Function.comp_def, Effect.answer?, Effect.address?, Effect.closing?,
    Effect.delivery?]

end Outbox

/-! ### Reports -/

/-- What a session has of its connection, and what goes with it, with what has been said. -/
@[ext] structure Report where
  target : Settings.Target
  connection : Connection
  /-- The credential of the last link. -/
  lastCredential : Option String
  /-- The callers who wait for the outcome of the attempt. -/
  waiters : List Nat
  backoff : Backoff
  registry : Registry Nat
  said : Said

/-- The report of a session, with what has been said. -/
def report (said : Said) (s : Session) : Report where
  target := s.target
  connection := s.connection
  lastCredential := s.lastCredential
  waiters := s.waiters
  backoff := s.backoff
  registry := s.registry
  said := said

namespace Report

/-- A state is published. -/
def publish (next : ConnectionState) (r : Report) : Report :=
  { r with connection := r.connection.publish next }

/-- Callers get an answer. -/
def answer (result : Except Error Unit) (callers : List Nat) (r : Report) : Report :=
  { r with said := { r.said with answers := r.said.answers ++ callers.map (·, result) } }

/-- All who wait get an answer. -/
def resolve (result : Except Error Unit) (r : Report) : Report :=
  { r.answer result r.waiters with waiters := [] }

/-- One more caller waits. -/
def wait (caller : Nat) (r : Report) : Report :=
  { r with waiters := r.waiters ++ [caller] }

/-- The heartbeat goes on. -/
def beat (heartbeat : Heartbeat) (r : Report) : Report :=
  { r with connection := { r.connection with heartbeat := heartbeat } }

/-- The user has not logged out any more. -/
def logIn (r : Report) : Report :=
  { r with connection := { r.connection with loggedOut := false } }

/-- No next attempt is due any more. -/
def cancelRetry (r : Report) : Report :=
  { r with connection := { r.connection with retryAt := none } }

/-- The link is closed and given up, if there is one. -/
def drop (r : Report) : Report :=
  { r with
    connection := r.connection.drop
    said := { r.said with closed := r.said.closed ++ r.connection.link.toList } }

/-- The next attempt is scheduled after one more failure, unless the user has logged out. -/
def retry (m : Moment) (r : Report) : Report :=
  { r with
    connection := r.connection.retry (m.clock + r.backoff.next.1.millis)
    backoff := if r.connection.loggedOut then r.backoff else r.backoff.next.2 }

/-- The link is lost. -/
def lose (m : Moment) (r : Report) : Report :=
  r.drop.retry m

/-- An attempt begins. -/
def begin (stage : Stage) (r : Report) : Report :=
  { r with connection := r.connection.begin stage }

/-- The server is called with a credential. -/
def call (credential : String) (r : Report) : Report :=
  { r with said := { r.said with
      dialed := r.said.dialed ++ [r.target.addressFor credential] } }

/-- An attempt is over without a link. -/
def fail (m : Moment) (e : Error) (r : Report) : Report :=
  ({ r with connection := { r.connection with attempt := none } }.resolve (.error e)).retry m

/-- A link is open. -/
def welcome (m : Moment) (credential : String) (r : Report) : Report :=
  { r with
    connection := r.connection.welcome m.clock credential
    lastCredential := some credential
    backoff := r.backoff.reset }.resolve (.ok ())

/-- The room has been joined again, if that was due. -/
def settle (r : Report) : Report :=
  { r with connection := { r.connection with rejoins := false } }

/-- A text came over the link. -/
def hear (m : Moment) (text : String) (r : Report) : Report :=
  match Envelope.decode m.stamp text with
  | .error _ => r
  | .ok e =>
    if e.kind = .pong then r.beat r.connection.heartbeat.pong
    else
      { r with said := { r.said with
          delivered := r.said.delivered ++ (r.registry.audience e).map (·, e) } }

/-- The user has logged out. -/
def logOut (caller : Nat) (r : Report) : Report :=
  ((({ r with
      connection := { r.connection with
        loggedOut := true, rejoins := false, retryAt := none, attempt := none }
      registry := r.registry.clear
      backoff := r.backoff.reset }.resolve (.error .disconnected)).drop.publish
        .disconnected).answer (.ok ()) [caller])

/-- A text that comes over the link does nothing but to disarm the watchdog, if it is an answer to a
ping, or to reach listeners. -/
lemma hear_eq (m : Moment) (text : String) (r : Report) :
    ∃ heartbeat delivered, r.hear m text =
        { r.beat heartbeat with said := { r.said with delivered := delivered } } ∧
      (heartbeat = r.connection.heartbeat ∨
        ∃ e, Envelope.decode m.stamp text = .ok e ∧ e.kind = .pong ∧
          heartbeat = r.connection.heartbeat.pong) := by
  unfold hear
  split
  · exact ⟨r.connection.heartbeat, r.said.delivered, rfl, .inl rfl⟩
  · next e hdecode =>
    split
    · next hpong =>
      exact ⟨r.connection.heartbeat.pong, r.said.delivered, rfl, .inr ⟨e, hdecode, hpong, rfl⟩⟩
    · exact ⟨r.connection.heartbeat, _, rfl, .inl rfl⟩

/-- The loss of the link leaves the attempt alone. -/
@[simp] lemma attempt_lose (m : Moment) (r : Report) :
    (r.lose m).connection.attempt = r.connection.attempt :=
  Connection.attempt_lose _ _

/-- There is no link after its loss. -/
@[simp] lemma link_lose (m : Moment) (r : Report) : (r.lose m).connection.link = none :=
  Connection.link_lose _ _

/-- The heartbeat does not run after the loss of the link. -/
@[simp] lemma heartbeat_lose (m : Moment) (r : Report) :
    (r.lose m).connection.heartbeat = r.connection.heartbeat.stop :=
  Connection.heartbeat_retry _ _

/-- There is no attempt after its end. -/
@[simp] lemma attempt_fail (m : Moment) (e : Error) (r : Report) :
    (r.fail m e).connection.attempt = none :=
  Connection.attempt_retry _ _

/-- The end of an attempt leaves the link alone. -/
@[simp] lemma link_fail (m : Moment) (e : Error) (r : Report) :
    (r.fail m e).connection.link = r.connection.link :=
  Connection.link_retry _ _

/-- The end of an attempt leaves the heartbeat alone. -/
@[simp] lemma heartbeat_fail (m : Moment) (e : Error) (r : Report) :
    (r.fail m e).connection.heartbeat = r.connection.heartbeat :=
  Connection.heartbeat_retry _ _

/-- While the user is logged in, the end of an attempt without a link counts as one more failure,
and the next attempt is scheduled by that. -/
lemma fail_of_loggedIn (m : Moment) (e : Error) {r : Report} (h : r.connection.loggedOut = false) :
    (r.fail m e).backoff = r.backoff.next.2 ∧
      (r.fail m e).connection.retryAt = some (m.clock + r.backoff.next.1.millis) := by
  constructor <;> simp [fail, retry, resolve, answer, Connection.retry, h]

/-- While the user is logged in, the loss of a link counts as one more failure, and the next attempt
is scheduled by that. -/
lemma lose_of_loggedIn (m : Moment) {r : Report} (h : r.connection.loggedOut = false) :
    (r.lose m).backoff = r.backoff.next.2 ∧
      (r.lose m).connection.retryAt = some (m.clock + r.backoff.next.1.millis) := by
  constructor <;> simp [lose, drop, retry, Connection.drop, Connection.retry, h]

/-- While the user is logged in, the loss of a link is the same whether or not the room was to be
joined again. -/
lemma lose_settle (m : Moment) {r : Report} (h : r.connection.loggedOut = false) :
    r.settle.lose m = r.lose m := by
  simp [settle, lose, drop, retry, Connection.retry, Connection.drop, Connection.publish, h]

end Report

/-! ### Turns -/

namespace Turn

variable {σ : Type}

/-- The report of a session in the middle of an event. -/
def report (t : Turn σ) : Report :=
  t.session.report t.outbox.said

/-- What publishing a state does to the report. -/
lemma report_publish (m : Moment) (next : ConnectionState) (t : Turn σ) :
    (t.publish m next).report = t.report.publish next := by
  have hsaid : (t.publish m next).outbox.said = t.outbox.said := by
    unfold publish Publisher.transition
    by_cases h : next = t.session.publisher.current
    · simp [h]
    · simp only [h, if_false]
      exact Outbox.said_tell m next _ _
  exact Report.ext rfl (connection_publish m next t) rfl rfl rfl rfl hsaid

/-- What an effect does to the report. -/
lemma report_emit (effect : Effect) (t : Turn σ) :
    (t.emit effect).report = { t.report with said := t.report.said.add effect } :=
  Report.ext rfl rfl rfl rfl rfl rfl (Outbox.said_add effect t.outbox)

/-- What answers do to the report. -/
lemma report_reply (result : Except Error Unit) (callers : List Nat) (t : Turn σ) :
    (t.reply result callers).report = t.report.answer result callers :=
  Report.ext rfl rfl rfl rfl rfl rfl (Outbox.said_reply result callers t.outbox)

/-- What answers to all who wait do to the report. -/
lemma report_resolve (result : Except Error Unit) (t : Turn σ) :
    (t.resolve result).report = t.report.resolve result :=
  congrArg (fun r : Report => { r with waiters := [] })
    (report_reply result t.session.waiters t)

/-- What giving up the link does to the report.

**Proof sketch.** Part by part, by whether there is a link. -/
lemma report_dropLink (t : Turn σ) : t.dropLink.report = t.report.drop := by
  refine Report.ext ?_ (connection_dropLink t) ?_ ?_ ?_ ?_ ?_ <;> unfold dropLink <;> dsimp only
  · split <;> rfl
  · split <;> rfl
  · split <;> rfl
  · split <;> rfl
  · split <;> rfl
  · have hlink : t.report.connection.link = t.session.link := rfl
    unfold Report.drop
    rw [hlink]
    split
    · next link heq =>
      have heq : t.session.link = some link := heq
      rw [heq]
      exact Outbox.said_add _ _
    · next heq =>
      have heq : t.session.link = none := heq
      rw [heq, Option.toList_none, List.append_nil]
      rfl

/-- What scheduling the next attempt does to the report. -/
lemma report_retry (m : Moment) (t : Turn σ) : (t.retry m).report = t.report.retry m := by
  have hlogged : t.report.connection.loggedOut = t.session.loggedOut := rfl
  unfold retry Report.retry Connection.retry
  rw [hlogged]
  split
  · exact report_publish m .disconnected t
  · have hpublish := report_publish m .reconnecting
      { t with session := { t.session with backoff := t.session.backoff.next.2, rejoins := true } }
    exact congrArg (fun r : Report => { r with connection := { r.connection with
      retryAt := some (m.clock + t.session.backoff.next.1.millis), rejoins := true } }) hpublish

/-- What the loss of the link does to the report. -/
lemma report_lose (m : Moment) (t : Turn σ) : (t.lose m).report = t.report.lose m := by
  rw [lose, report_retry, report_dropLink, Report.lose]

/-- What comes over the link concerns the heartbeat or the listeners. -/
lemma report_receive (m : Moment) (text : String) (t : Turn σ) :
    (t.receive m text).report = t.report.hear m text := by
  unfold receive Report.hear
  cases hdecode : Envelope.decode m.stamp text with
  | error _ => rfl
  | ok e =>
    by_cases hpong : e.kind = .pong
    · simp only [hpong, if_true]
      rfl
    · simp only [hpong, if_false]
      exact Report.ext rfl rfl rfl rfl rfl rfl (Outbox.said_deliver m e _ t.outbox)

/-- A ping arms the watchdog, unless the link refuses it: then the link is lost. -/
lemma report_ping (m : Moment) {t : Turn σ} (hlink : t.session.link.isSome) :
    (t.ping m).report =
      if m.accepts t.outbox.offers then t.report.beat (t.session.heartbeat.arm m.clock)
      else t.report.lose m := by
  obtain ⟨link, hlink⟩ := Option.isSome_iff_exists.1 hlink
  unfold ping
  rw [hlink]
  by_cases h : m.accepts t.outbox.offers
  · simp only [Outbox.transmit, h, if_true]
    exact Report.ext rfl rfl rfl rfl rfl rfl (Outbox.said_add _ _)
  · simp only [Outbox.transmit, h, if_false, Bool.false_eq_true]
    exact report_lose m _

/-- What a new link does to the report. -/
lemma report_welcome (m : Moment) (credential : String) (t : Turn σ) :
    (t.welcome m credential).report = t.report.welcome m credential := by
  have hpublish := report_publish m .connected { t with
    session := { t.session with
      attempt := none
      backoff := t.session.backoff.reset
      link := some t.session.opened
      opened := t.session.opened + 1
      linkCredential := some credential
      lastCredential := some credential } }
  unfold welcome Report.welcome
  dsimp only
  rw [report_resolve]
  exact congrArg (fun r : Report => Report.resolve (.ok ()) { r with
    connection := { r.connection with heartbeat := r.connection.heartbeat.start m.clock } })
    hpublish

/-- What connecting with a credential does to the report. -/
lemma report_dial (m : Moment) (credential : String) (t : Turn σ) :
    (t.dial m credential).report = Report.call credential { t.report with
      connection := { t.report.connection with attempt := some (t.dialing m credential) } } := by
  unfold dial
  rw [report_emit]
  rfl

/-- What giving up the attempt does to the report. -/
lemma report_abandon (t : Turn σ) :
    t.abandon.report = { t.report with connection := { t.report.connection with
      attempt := none } }.resolve (.error .disconnected) := by
  unfold abandon
  rw [report_resolve]
  split
  · rw [report_emit]
    rfl
  · next h =>
    have hnone : t.session.attempt = none := by simpa using h
    have hsame : { t.report.connection with attempt := none } = t.report.connection := by
      simp [report, Session.report, connection, hnone]
    rw [hsame]

/-- Draining what waits in memory leaves the report alone. -/
lemma report_drainPending (m : Moment) (link : Nat) (t : Turn σ) :
    (t.drainPending m link).2.report = t.report :=
  Report.ext rfl rfl rfl rfl rfl rfl (Outbox.said_drainList m link _ 0 t.outbox)

variable [Storage σ]

/-- Draining what waits in storage leaves the report alone. -/
lemma report_drainOffline (m : Moment) (link : Nat) (t : Turn σ) :
    (t.drainOffline m link).2.report = t.report := by
  obtain ⟨-, -, houtbox, -⟩ := Queue.Offline.drain_eq (Outbox.transmit m link) t.session.offline
    t.store t.outbox
  refine Report.ext rfl rfl rfl rfl rfl rfl ?_
  exact (congrArg Outbox.said houtbox).trans (Outbox.said_drainList m link _ 0 t.outbox)

/-- What breaking off does to the report. -/
lemma report_breakOff (m : Moment) (t : Turn σ) : (t.breakOff m).report = t.report.lose m :=
  report_lose m (t.spillAhead m)

/-- **To send leaves the report alone, or loses the link.** An envelope that is sent leaves the
report alone, unless the link refuses it: then the link is lost.

**Proof sketch.** One case for each way that an envelope can go (`route_cases`). -/
lemma report_route (m : Moment) (e : Envelope) (t : Turn σ) :
    (t.route m e).report =
      if t.session.link.isSome ∧ ¬ m.accepts t.outbox.offers then t.report.lose m
      else t.report := by
  rcases route_cases m e t with ⟨link, hlink, h, hroute⟩ | ⟨link, hlink, h, hroute⟩ |
    ⟨hlink, -, hroute⟩ | ⟨hlink, -, hroute⟩ <;> rw [hroute]
  · rw [if_neg (by simp [h])]
    exact Report.ext rfl rfl rfl rfl rfl rfl (Outbox.said_add _ _)
  · rw [if_pos ⟨by simp [hlink], h⟩, report_lose]
    rfl
  · rw [if_neg (by simp [hlink])]
    rfl
  · rw [if_neg (by simp [hlink])]
    rfl

/-- To write all that waits leaves the report alone, unless the link refuses some of it: then the
link is lost. -/
lemma report_flush (m : Moment) {t : Turn σ} (hlink : t.session.link.isSome) :
    (t.flush m).2.report = if (t.flush m).1 then t.report else t.report.lose m := by
  obtain ⟨link, hlink⟩ := Option.isSome_iff_exists.1 hlink
  have hpending := report_drainPending m link t
  unfold flush
  obtain ⟨first, t₁, ht₁⟩ : ∃ first t₁, t.drainPending m link = (first, t₁) := ⟨_, _, rfl⟩
  have hoffline := report_drainOffline m link t₁
  obtain ⟨second, t₂, ht₂⟩ : ∃ second t₂, t₁.drainOffline m link = (second, t₂) := ⟨_, _, rfl⟩
  simp only [ht₁, ht₂] at hpending hoffline
  cases first with
  | error err => simp [hlink, ht₁, report_breakOff, hpending]
  | ok n =>
    cases second with
    | error err => simp [hlink, ht₁, ht₂, report_breakOff, hoffline, hpending]
    | ok n' => simp [hlink, ht₁, ht₂, hoffline, hpending]

/-- Joining the room again settles that, unless the link refuses it: then the link is lost. -/
lemma report_rejoin (m : Moment) (t : Turn σ) :
    (t.rejoin m).report = t.report.settle ∨ (t.rejoin m).report = t.report.settle.lose m := by
  rw [rejoin_eq]
  rcases rejoining_cases m t.session with hnone | ⟨e, hone⟩
  · rw [hnone]
    exact .inl rfl
  · rw [hone, List.foldl_cons, List.foldl_nil, report_route]
    split
    · exact .inr rfl
    · exact .inl rfl

/-! ### Attempts -/

/-- **A link is open, or lost at once.** A link is open, and it is kept unless it refuses some of
what is written on it.

**Proof sketch.** The flush after the welcome leaves the report alone or loses the link
(`report_flush`). In the first case the rejoin comes next, and does one of the two in its turn. -/
lemma report_succeed (m : Moment) (credential : String) {t : Turn σ}
    (h : t.session.loggedOut = false) :
    (t.succeed m credential).report = (t.report.welcome m credential).settle ∨
      (t.succeed m credential).report = (t.report.welcome m credential).lose m := by
  have hlink : (t.welcome m credential).session.link.isSome :=
    Option.isSome_iff_exists.2
      ⟨_, congrArg Connection.link (connection_welcome m credential t)⟩
  have hflush := report_flush m hlink
  rw [report_welcome] at hflush
  unfold succeed
  obtain ⟨kept, t', heq⟩ : ∃ kept t', (t.welcome m credential).flush m = (kept, t') := ⟨_, _, rfl⟩
  rw [heq] at hflush ⊢
  cases kept with
  | false => exact .inr hflush
  | true =>
    have hflush : t'.report = t.report.welcome m credential := hflush
    have hrejoin := report_rejoin m t'
    rw [hflush] at hrejoin
    rwa [Report.lose_settle] at hrejoin
    exact h

/-- What the beginning of an attempt does to the report. -/
lemma report_beginAttempt (m : Moment) (stage : Stage) (t : Turn σ) :
    (t.beginAttempt m stage).report = t.report.begin stage := by
  unfold beginAttempt
  rw [report_publish]
  rfl

/-- What an attempt with a credential does to the report. -/
lemma report_beginWith (m : Moment) (credential : String) (t : Turn σ) :
    (t.beginWith m credential).report =
      (t.report.begin (t.dialing m credential)).call credential := by
  unfold beginWith
  rw [report_emit, report_beginAttempt]
  rfl

/-- What connecting anew does to the report. -/
lemma report_connectAnew (m : Moment) (credential : String) (caller : Nat) (t : Turn σ) :
    (t.connectAnew m credential caller).report =
      ((t.report.cancelRetry.wait caller).begin (t.dialing m credential)).call credential :=
  report_beginWith m credential { t.cancelRetry with
    session := { t.cancelRetry.session with waiters := t.cancelRetry.session.waiters ++ [caller] } }

/-- What an attempt with a credential of the provider does to the report. -/
lemma report_beginFresh (m : Moment) (other : Option String) (t : Turn σ) :
    (t.beginFresh m other).report = t.report.begin (.asking other) := by
  unfold beginFresh
  rw [report_emit, report_beginAttempt]
  rfl

/-- **A failure.** What the end of an attempt without a link does to the report. -/
lemma report_fail (m : Moment) (e : Error) (t : Turn σ) :
    (t.fail m e).report = t.report.fail m e := by
  have hresolve := report_resolve (.error e)
    { t with session := { t.session with attempt := none } }
  unfold fail Report.fail
  rw [report_retry]
  exact congrArg (Report.retry m) hresolve

/-- **A logout.** What logging out does to the report.

**Proof sketch.** Each part of it in its order. Three of them, on the room and on what waits, do not
show in a report. -/
lemma report_disconnect (m : Moment) (caller : Nat) (t : Turn σ) :
    (t.disconnect m caller).report = t.report.logOut caller := by
  have hrest : ∀ t : Turn σ, (((({ t with
      session := { t.session with registry := t.session.registry.clear } } : Turn σ).rememberRoom
        none).spill m).hide).report = { t.report with registry := t.report.registry.clear } :=
    fun _ => rfl
  have hreset : ∀ t : Turn σ, Turn.report { t with
      session := { t.session with backoff := t.session.backoff.reset } } =
        { t.report with backoff := t.report.backoff.reset } := fun _ => rfl
  unfold disconnect tearDown
  dsimp only
  rw [report_reply, report_publish, hreset, hrest, report_dropLink, report_abandon]
  rfl

end Turn

/-- A session that ends answers all who wait, and closes the link that is open. -/
lemma said_shutDown {σ : Type} [Storage σ] (m : Moment) (s : Session) (store : σ) :
    (shutDown m s store).outbox.said.answers = s.waiters.map (·, .error .disconnected) ∧
      (shutDown m s store).outbox.said.closed = s.link.toList := by
  have hdrop := Turn.report_dropLink ((s.turn store).stopHeartbeat.cancelRetry.abandon.spill m)
  have habandon := Turn.report_abandon (s.turn store).stopHeartbeat.cancelRetry
  have hsaid : (shutDown m s store).outbox.said =
      (s.turn store).stopHeartbeat.cancelRetry.abandon.report.drop.said :=
    congrArg Report.said hdrop
  rw [hsaid, habandon]
  exact ⟨rfl, rfl⟩

end Messenger.Session
