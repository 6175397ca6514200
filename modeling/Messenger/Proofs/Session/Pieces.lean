import Mathlib.Logic.Relation
import Messenger.Proofs.Session.Effects

set_option relaxedAutoImplicit false
set_option autoImplicit false

/-!
# What events are made of

An event is made of pieces, one after the other, each of which does one thing to what waits, to the
room or to what is published. What every piece keeps is therefore kept by every event, in whatever
order the pieces come. No piece tells a caller how much waits: that is an event of its own.

## Main definitions

* `Messenger.Session.Outbox.counts`: what callers were told of how much waits.
* `Messenger.Session.Turn.Piece`: what can be done to a session in the middle of an event.
* `Messenger.Session.Turn.Leads`: pieces in a row.

## Main results

* `Messenger.Session.Turn.leads_react`: every event is made of pieces, if it does not count what
  waits.
* `Messenger.Session.leads_shutDown`: so is the end of a session.
-/

namespace Messenger.Session

/-! ### What callers are told -/

/-- How much waits in memory and in storage, by an effect that told it to a caller. -/
def Effect.count? : Effect → Option (Nat × Nat × Nat)
  | .counted caller pending offline => some (caller, pending, offline)
  | _ => none

namespace Outbox

/-- What callers were told so far of how much waits. -/
def counts (o : Outbox) : List (Nat × Nat × Nat) :=
  o.effects.filterMap Effect.count?

/-- One more effect tells no caller how much waits, if it does not. -/
lemma counts_add {effect : Effect} (h : effect.count? = none) (o : Outbox) :
    (o.add effect).counts = o.counts :=
  filterMap_of_append rfl (List.forall_mem_singleton.2 h)

/-- To offer an envelope to a link tells no caller how much waits. -/
lemma counts_transmit (m : Moment) (link : Nat) (e : Envelope) (o : Outbox) :
    (transmit m link e o).2.counts = o.counts := by
  refine filterMap_of_append (effects_transmit m link e o) ?_
  split <;> simp [Effect.count?]

/-- To hand envelopes to a link tells no caller how much waits. -/
lemma counts_drainList (m : Moment) (link : Nat) (es : List Envelope) (sent : Nat) (o : Outbox) :
    (Queue.Pending.drainList (transmit m link) es sent o).2.2.counts = o.counts := by
  obtain ⟨written, heffects⟩ := effects_drainList m link es sent o
  exact filterMap_of_append heffects (by simp [Effect.count?])

/-- To deliver an envelope to listeners tells no caller how much waits. -/
lemma counts_deliver (m : Moment) (e : Envelope) (listeners : List Nat) (o : Outbox) :
    (callAll (fun listener => deliver m listener e) listeners o).2.counts = o.counts :=
  filterMap_of_append (congrArg effects (callAll_deliver m e listeners o))
    (by simp [Effect.count?])

/-- Answers tell no caller how much waits. -/
lemma counts_reply (result : Except Error Unit) (callers : List Nat) (o : Outbox) :
    (o.reply result callers).counts = o.counts :=
  filterMap_of_append (effects_reply result callers o) (by simp [Effect.count?])

end Outbox

namespace Turn

variable {σ : Type} [Storage σ]

/-! ### Pieces -/

/-- A piece of an event at a moment: what can be done to a session in the middle of it. -/
inductive Piece (m : Moment) (t : Turn σ) : Turn σ → Prop
  /-- The link, the attempt, the timers or the listeners change, and all else stays the same. -/
  | arranges {s : Session} (publisher : s.publisher = t.session.publisher)
      (pending : s.pending = t.session.pending) (offline : s.offline = t.session.offline)
      (room : s.room = t.session.room) (sharedRoom : s.sharedRoom = t.session.sharedRoom) :
      Piece m t { t with session := s }
  /-- Something is done to the world outside, but no caller is told how much waits. -/
  | acts {o : Outbox} (counts : o.counts = t.outbox.counts) : Piece m t { t with outbox := o }
  | publishes (next : ConnectionState) : Piece m t (t.publish m next)
  | watches (id watcher : Nat) : Piece m t (t.obey m (.watch id watcher))
  | unwatches (id : Nat) : Piece m t (t.obey m (.unwatch id))
  /-- An envelope waits in memory. -/
  | waits (e : Envelope) :
      Piece m t { t with session := { t.session with pending := t.session.pending.push e } }
  /-- An envelope waits in storage. -/
  | keeps (e : Envelope) : Piece m t (t.keep m e)
  | spills : Piece m t (t.spill m)
  | spillsAhead : Piece m t (t.spillAhead m)
  | hides : Piece m t t.hide
  | reveals : Piece m t (t.reveal m)
  | remembers (room : Option Room) : Piece m t (t.rememberRoom room)
  | drainsPending (link : Nat) : Piece m t (t.drainPending m link).2
  | drainsOffline (link : Nat) : Piece m t (t.drainOffline m link).2

/-- Pieces in a row lead from one turn to another. -/
def Leads (m : Moment) (t t' : Turn σ) : Prop :=
  Relation.ReflTransGen (Piece m) t t'

variable {m : Moment} {t t' t'' : Turn σ}

/-- No piece is needed to do nothing. -/
lemma Leads.refl (t : Turn σ) : t.Leads m t := Relation.ReflTransGen.refl

/-- One piece is some pieces in a row. -/
lemma Piece.leads (h : t.Piece m t') : t.Leads m t' := Relation.ReflTransGen.single h

/-- Pieces in a row may come behind others. -/
lemma Leads.trans (h : t.Leads m t') (h' : t'.Leads m t'') : t.Leads m t'' :=
  Relation.ReflTransGen.trans h h'

/-! ### Parts of an event -/

/-- To change what has nothing to do with what waits, with the room and with what is published. -/
lemma leads_session (t : Turn σ) {s : Session} (publisher : s.publisher = t.session.publisher)
    (pending : s.pending = t.session.pending) (offline : s.offline = t.session.offline)
    (room : s.room = t.session.room) (sharedRoom : s.sharedRoom = t.session.sharedRoom) :
    t.Leads m { t with session := s } :=
  (Piece.arranges publisher pending offline room sharedRoom).leads

/-- An effect that tells no caller how much waits is a piece. -/
lemma leads_emit {effect : Effect} (h : effect.count? = none) (t : Turn σ) :
    t.Leads m (t.emit effect) :=
  (Piece.acts (Outbox.counts_add h t.outbox)).leads

/-- Answers are a piece. -/
lemma leads_reply (result : Except Error Unit) (callers : List Nat) (t : Turn σ) :
    t.Leads m (t.reply result callers) :=
  (Piece.acts (Outbox.counts_reply result callers t.outbox)).leads

/-- Answers to all who wait are made of pieces. -/
lemma leads_resolve (result : Except Error Unit) (t : Turn σ) : t.Leads m (t.resolve result) :=
  (leads_reply result t.session.waiters t).trans (leads_session _ rfl rfl rfl rfl rfl)

/-- To stop the heartbeat is a piece. -/
lemma leads_stopHeartbeat (t : Turn σ) : t.Leads m t.stopHeartbeat :=
  leads_session t rfl rfl rfl rfl rfl

/-- To give up the next attempt is a piece. -/
lemma leads_cancelRetry (t : Turn σ) : t.Leads m t.cancelRetry :=
  leads_session t rfl rfl rfl rfl rfl

/-- To give up the link is made of pieces. -/
lemma leads_dropLink (t : Turn σ) : t.Leads m t.dropLink := by
  have hstop : t.Leads m t.stopHeartbeat := leads_stopHeartbeat t
  unfold dropLink
  dsimp only
  split
  · exact (hstop.trans (leads_emit rfl _)).trans (leads_session _ rfl rfl rfl rfl rfl)
  · exact hstop.trans (leads_session _ rfl rfl rfl rfl rfl)

/-- To schedule the next attempt is made of pieces. -/
lemma leads_retry (m : Moment) (t : Turn σ) : t.Leads m (t.retry m) := by
  unfold retry
  split
  · exact (Piece.publishes .disconnected).leads
  · have hcount : t.Leads m { t with
        session := { t.session with backoff := t.session.backoff.next.2, rejoins := true } } :=
      leads_session t rfl rfl rfl rfl rfl
    exact (hcount.trans (Piece.publishes .reconnecting).leads).trans
      (leads_session _ rfl rfl rfl rfl rfl)

/-- To lose the link is made of pieces. -/
lemma leads_lose (m : Moment) (t : Turn σ) : t.Leads m (t.lose m) :=
  (leads_dropLink t).trans (leads_retry m _)

/-- To give up the attempt is made of pieces. -/
lemma leads_abandon (t : Turn σ) : t.Leads m t.abandon := by
  unfold abandon
  refine Leads.trans ?_ (leads_resolve _ _)
  split
  · refine Leads.trans ?_ (leads_emit rfl _)
    exact leads_session t rfl rfl rfl rfl rfl
  · exact .refl t

/-- To give up everything is made of pieces. -/
lemma leads_tearDown (t : Turn σ) : t.Leads m t.tearDown :=
  (((leads_stopHeartbeat t).trans (leads_cancelRetry _)).trans (leads_abandon _)).trans
    (leads_dropLink _)

/-- The welcome of a new link is made of pieces. -/
lemma leads_welcome (m : Moment) (credential : String) (t : Turn σ) :
    t.Leads m (t.welcome m credential) := by
  have hopened : t.Leads m { t with
      session := { t.session with
        attempt := none
        backoff := t.session.backoff.reset
        link := some t.session.opened
        opened := t.session.opened + 1
        linkCredential := some credential
        lastCredential := some credential } } := leads_session t rfl rfl rfl rfl rfl
  refine Leads.trans ?_ (leads_resolve _ _)
  exact (hopened.trans (Piece.publishes .connected).leads).trans
    (leads_session _ rfl rfl rfl rfl rfl)

/-- What comes over the link is made of pieces. -/
lemma leads_receive (m : Moment) (text : String) (t : Turn σ) : t.Leads m (t.receive m text) := by
  unfold receive
  split
  · exact .refl t
  · next e _ =>
    split
    · exact leads_session t rfl rfl rfl rfl rfl
    · exact (Piece.acts (Outbox.counts_deliver m e _ t.outbox)).leads

/-- To ping the server is made of pieces.

**Proof sketch.** There is a link that takes the ping, one that refuses it, and none; a ping that is
refused is followed by the loss of the link. -/
lemma leads_ping (m : Moment) (t : Turn σ) : t.Leads m (t.ping m) := by
  unfold ping
  split
  · next link _ =>
    have hoffer : t.Leads m { t with
        outbox := (t.outbox.transmit m link (envelope m .ping (.object []))).2 } :=
      (Piece.acts (Outbox.counts_transmit m link _ t.outbox)).leads
    split
    · next heq =>
      rw [heq] at hoffer
      exact hoffer.trans (leads_session _ rfl rfl rfl rfl rfl)
    · next heq =>
      rw [heq] at hoffer
      exact hoffer.trans (leads_lose m _)
  · exact leads_stopHeartbeat t

/-- To look after the heartbeat is made of pieces. -/
lemma leads_beat (m : Moment) (t : Turn σ) : t.Leads m (t.beat m) := by
  have hpoll : t.Leads m { t with session := { t.session with
      heartbeat := (t.session.heartbeat.poll m.pingFirst m.clock).2 } } :=
    leads_session t rfl rfl rfl rfl rfl
  unfold beat
  dsimp only
  split
  · exact hpoll.trans (leads_ping m _)
  · exact hpoll.trans (leads_lose m _)
  · exact hpoll

/-- To send an envelope is made of pieces. -/
lemma leads_route (m : Moment) (e : Envelope) (t : Turn σ) : t.Leads m (t.route m e) := by
  rcases route_cases m e t with ⟨link, -, -, hroute⟩ | ⟨link, -, -, hroute⟩ | ⟨-, -, hroute⟩ |
    ⟨-, -, hroute⟩ <;> rw [hroute]
  · refine (Piece.acts ?_).leads
    exact Outbox.counts_add rfl { t.outbox with offers := t.outbox.offers + 1 }
  · have hoffer : t.Piece m { t with outbox := { t.outbox with offers := t.outbox.offers + 1 } } :=
      .acts rfl
    exact (hoffer.leads.trans (Piece.keeps e).leads).trans (leads_lose m _)
  · exact (Piece.waits e).leads
  · exact (Piece.keeps e).leads

/-- To write all that waits is made of pieces. -/
lemma leads_flush (m : Moment) (t : Turn σ) : t.Leads m (t.flush m).2 := by
  refine flush_invariant (P := fun t' => t.Leads m t') m ?_ ?_ ?_ (.refl t)
  · exact fun _ link h => h.trans (Piece.drainsPending link).leads
  · exact fun _ link h => h.trans (Piece.drainsOffline link).leads
  · exact fun _ h => (h.trans Piece.spillsAhead.leads).trans (leads_lose m _)

/-- To join the room again is made of pieces. -/
lemma leads_rejoin (m : Moment) (t : Turn σ) : t.Leads m (t.rejoin m) := by
  have hready : t.Leads m { t with session := { t.session with rejoins := false } } :=
    leads_session t rfl rfl rfl rfl rfl
  rw [rejoin_eq]
  rcases rejoining_cases m t.session with hnone | ⟨e, hone⟩
  · rw [hnone]
    exact hready
  · rw [hone]
    exact hready.trans (leads_route m e _)

/-- To open a link is made of pieces. -/
lemma leads_succeed (m : Moment) (credential : String) (t : Turn σ) :
    t.Leads m (t.succeed m credential) :=
  succeed_invariant (P := fun t' => t.Leads m t') m (fun h => h.trans (leads_flush m _))
    (fun _ h => h.trans (leads_rejoin m _)) (leads_welcome m credential t)

/-- The beginning of an attempt is made of pieces. -/
lemma leads_beginAttempt (m : Moment) (stage : Stage) (t : Turn σ) :
    t.Leads m (t.beginAttempt m stage) := by
  refine Leads.trans ?_ (Piece.publishes .connecting).leads
  exact Piece.reveals.leads.trans (leads_session _ rfl rfl rfl rfl rfl)

/-- An attempt with a credential of the provider is made of pieces. -/
lemma leads_beginFresh (m : Moment) (other : Option String) (t : Turn σ) :
    t.Leads m (t.beginFresh m other) :=
  (leads_beginAttempt m _ t).trans (leads_emit rfl _)

/-- To connect anew is made of pieces. -/
lemma leads_connectAnew (m : Moment) (credential : String) (caller : Nat) (t : Turn σ) :
    t.Leads m (t.connectAnew m credential caller) := by
  refine Leads.trans (Leads.trans ?_ (leads_beginAttempt m _ _)) (leads_emit rfl _)
  exact (leads_cancelRetry t).trans (leads_session _ rfl rfl rfl rfl rfl)

/-- The end of an attempt without a link is made of pieces. -/
lemma leads_fail (m : Moment) (e : Error) (t : Turn σ) : t.Leads m (t.fail m e) := by
  have hover : t.Leads m { t with session := { t.session with attempt := none } } :=
    leads_session t rfl rfl rfl rfl rfl
  exact ((hover.trans (leads_resolve _ _)).trans Piece.spills.leads).trans (leads_retry m _)

/-- The answer of the provider is made of pieces. -/
lemma leads_acquire (m : Moment) (answer : Credential.Answer) (other : Option String)
    (t : Turn σ) : t.Leads m (t.acquire m answer other) := by
  have hdial : ∀ credential, t.Leads m (t.dial m credential) := by
    intro credential
    refine Leads.trans ?_ (leads_emit rfl _)
    exact leads_session t rfl rfl rfl rfl rfl
  unfold acquire
  split
  · exact hdial _
  · exact hdial _
  · exact hdial _
  · exact leads_fail m _ t
  · exact leads_fail m _ t

/-- To connect is made of pieces. -/
lemma leads_connect (m : Moment) (credential : String) (caller : Nat) (t : Turn σ) :
    t.Leads m (t.connect m credential caller) := by
  have hlogIn : t.Leads m { t with session := { t.session with loggedOut := false } } :=
    leads_session t rfl rfl rfl rfl rfl
  unfold connect
  dsimp only
  split
  · exact hlogIn.trans (leads_session _ rfl rfl rfl rfl rfl)
  · split
    · split
      · exact hlogIn.trans (leads_reply _ _ _)
      · exact (hlogIn.trans (leads_dropLink _)).trans (leads_connectAnew m _ _ _)
    · exact hlogIn.trans (leads_connectAnew m _ _ _)

/-- To connect again is made of pieces. -/
lemma leads_reconnect (m : Moment) (caller : Nat) (t : Turn σ) :
    t.Leads m (t.reconnect m caller) := by
  unfold reconnect
  dsimp only
  split
  · exact leads_reply _ _ t
  · refine Leads.trans ?_ (leads_beginFresh m _ _)
    exact leads_session t rfl rfl rfl rfl rfl

/-- To log out is made of pieces. -/
lemma leads_disconnect (m : Moment) (caller : Nat) (t : Turn σ) :
    t.Leads m (t.disconnect m caller) := by
  have hlogOut : t.Leads m { t with
      session := { t.session with loggedOut := true, rejoins := false } } :=
    leads_session t rfl rfl rfl rfl rfl
  refine Leads.trans (Leads.trans ?_ (Piece.publishes .disconnected).leads) (leads_reply _ _ _)
  refine Leads.trans (Leads.trans ?_ Piece.hides.leads) (leads_session _ rfl rfl rfl rfl rfl)
  refine Leads.trans (Leads.trans ?_ (Piece.remembers none).leads) Piece.spills.leads
  exact (hlogOut.trans (leads_tearDown _)).trans (leads_session _ rfl rfl rfl rfl rfl)

/-- Whatever the user asks for is made of pieces, but to count what waits.

**Proof sketch.** One case for each command, by what it is made of. -/
lemma leads_obey (m : Moment) {c : Command} (h : ∀ caller, c ≠ .count caller) (t : Turn σ) :
    t.Leads m (t.obey m c) := by
  cases c with
  | connect credential caller => exact leads_connect m credential caller t
  | reconnect caller => exact leads_reconnect m caller t
  | disconnect caller => exact leads_disconnect m caller t
  | send e => exact leads_route m e t
  | join r => exact (Piece.remembers (some r)).leads.trans (leads_route m _ _)
  | leave r =>
    unfold obey leave
    dsimp only
    split
    · exact (Piece.remembers none).leads.trans (leads_route m _ _)
    · exact leads_route m _ t
  | wake reason =>
    unfold obey wake
    dsimp only
    split
    · exact (leads_cancelRetry t).trans (leads_beginFresh m none _)
    · exact .refl t
  | watch id watcher => exact (Piece.watches id watcher).leads
  | unwatch id => exact (Piece.unwatches id).leads
  | count caller => exact absurd rfl (h caller)

/-- **Events are pieces in a row.** Every event is made of pieces, if it does not count what waits.

**Proof sketch.** One case for each event. An event that finds nothing to do is no piece at all, and
any other is made of what its step is made of. -/
theorem leads_react (m : Moment) {event : Event}
    (h : ∀ caller, event ≠ .command (.count caller)) (t : Turn σ) :
    t.Leads m (react m event t) := by
  cases event with
  | command c => exact leads_obey m (fun caller hc => h caller (congrArg _ hc)) t
  | listen kind listener => exact leads_session t rfl rfl rfl rfl rfl
  | unlisten kind id => exact leads_session t rfl rfl rfl rfl rfl
  | acquired answer =>
    dsimp only [react]
    split
    · exact leads_acquire m answer _ t
    · exact .refl t
  | opened =>
    dsimp only [react]
    split
    · exact leads_succeed m _ t
    · exact .refl t
  | failed e =>
    dsimp only [react]
    split
    · exact leads_fail m e t
    · exact .refl t
  | expired =>
    dsimp only [react]
    split
    · exact (leads_emit rfl t).trans (leads_fail m _ _)
    · exact .refl t
  | received text =>
    dsimp only [react]
    split
    · exact leads_receive m text t
    · exact .refl t
  | ended =>
    dsimp only [react]
    split
    · exact leads_lose m t
    · exact .refl t
  | beat => exact leads_beat m t
  | retryDue =>
    dsimp only [react]
    split
    · exact (leads_cancelRetry t).trans (leads_beginFresh m none _)
    · exact .refl t

end Turn

variable {σ : Type} [Storage σ]

/-- **The end of a session is pieces in a row.** It is made of pieces like an event.

**Proof sketch.** It stops the heartbeat, cancels the next attempt and gives up the present one, and
then it spills and drops the link. -/
theorem leads_shutDown (m : Moment) (s : Session) (store : σ) :
    (s.turn store).Leads m (shutDown m s store) := by
  have hgivesUp : (s.turn store).Leads m (s.turn store).stopHeartbeat.cancelRetry.abandon :=
    ((Turn.leads_stopHeartbeat _).trans (Turn.leads_cancelRetry _)).trans (Turn.leads_abandon _)
  exact (hgivesUp.trans Turn.Piece.spills.leads).trans (Turn.leads_dropLink _)

end Messenger.Session
