import Messenger.Proofs.Session.Effects
import Messenger.Proofs.Session.Move
import Messenger.Proofs.Session.WireOrder

set_option relaxedAutoImplicit false
set_option autoImplicit false

/-!
# What watchers are told

All who watch are told every state that is published, in the order in which they watch. Most parts
of an event publish nothing, and any other one publishes one state at most: the one that it leaves
the session in, if that is another one than before. Only an event that opens a link may publish two.

## Main definitions

* `Messenger.ConnectionState.change`: what is published by a change from one state to another.
* `Messenger.Session.Outbox.told`: what watchers have been told.
* `Messenger.Session.Turn.Mute`: a part of an event that publishes nothing.
* `Messenger.Session.Turn.Announces`: a part of an event that publishes the state it leaves.
* `Messenger.Session.Record.published`: what an event publishes.

## Main results

* `Messenger.Session.Turn.announces_react`: every event that opens no link publishes the state that
  it leaves.
* `Messenger.Session.Record.told_turn`: what watchers are told by an event.
-/

namespace Messenger

/-- What is published by a change from one state to another: the other one, unless they are the
same. -/
def ConnectionState.change (before after : ConnectionState) : List ConnectionState :=
  if before = after then [] else [after]

/-- Nothing is published without a change. -/
@[simp] lemma ConnectionState.change_self (state : ConnectionState) : state.change state = [] :=
  if_pos rfl

namespace Session

/-! ### What has been told -/

/-- The state that an effect told, with the watcher who was told it. -/
def Effect.telling? : Effect → Option (Nat × ConnectionState)
  | .told watcher state => some (watcher, state)
  | _ => none

/-- What all who watch are told of states that are published one after the other. -/
def telling (watchers : List (Nat × Nat)) (states : List ConnectionState) :
    List (Nat × ConnectionState) :=
  states.flatMap fun state => watchers.map fun w => (w.2, state)

/-- What is told of states in two parts. -/
lemma telling_append (watchers : List (Nat × Nat)) (states states' : List ConnectionState) :
    telling watchers (states ++ states') = telling watchers states ++ telling watchers states' :=
  List.flatMap_append

namespace Outbox

/-- What watchers have been told so far. -/
def told (o : Outbox) : List (Nat × ConnectionState) :=
  o.effects.filterMap Effect.telling?

/-- What one more effect tells. -/
lemma told_add (effect : Effect) (o : Outbox) :
    (o.add effect).told = o.told ++ effect.telling?.toList := by
  simp only [told, add, List.filterMap_append]
  cases h : effect.telling? <;> simp [h]

/-- Answers to callers tell watchers nothing. -/
lemma told_reply (result : Except Error Unit) (callers : List Nat) (o : Outbox) :
    (o.reply result callers).told = o.told :=
  filterMap_of_append (effects_reply result callers o) (by simp [Effect.telling?])

/-- To offer an envelope to a link tells watchers nothing. -/
lemma told_transmit (m : Moment) (link : Nat) (e : Envelope) (o : Outbox) :
    (transmit m link e o).2.told = o.told := by
  refine filterMap_of_append (effects_transmit m link e o) ?_
  split <;> simp [Effect.telling?]

/-- To hand envelopes to a link tells watchers nothing. -/
lemma told_drainList (m : Moment) (link : Nat) (es : List Envelope) (sent : Nat) (o : Outbox) :
    (Queue.Pending.drainList (transmit m link) es sent o).2.2.told = o.told := by
  obtain ⟨written, heffects⟩ := effects_drainList m link es sent o
  exact filterMap_of_append heffects (by simp [Effect.telling?])

/-- To deliver an envelope to listeners tells watchers nothing. -/
lemma told_deliver (m : Moment) (e : Envelope) (listeners : List Nat) (o : Outbox) :
    (callAll (fun listener => deliver m listener e) listeners o).2.told = o.told :=
  filterMap_of_append (congrArg effects (callAll_deliver m e listeners o))
    (by simp [Effect.telling?])

end Outbox

/-! ### Parts of an event -/

namespace Turn

variable {σ : Type}

/-- Nothing is published. -/
structure Mute (t t' : Turn σ) : Prop where
  publisher : t'.session.publisher = t.session.publisher
  told : t'.outbox.told = t.outbox.told

/-- States are published one after the other, and all who watch are told so. -/
structure Tells (t t' : Turn σ) (states : List ConnectionState) : Prop where
  watchers : t'.session.publisher.watchers = t.session.publisher.watchers
  told : t'.outbox.told = t.outbox.told ++ telling t.session.publisher.watchers states

/-- The state is published that the session is in then, if it is another one than before. -/
def Announces (t t' : Turn σ) : Prop :=
  t.Tells t' (t.session.publisher.current.change t'.session.publisher.current)

variable {t t' t'' : Turn σ}

/-- To do nothing publishes nothing. -/
lemma Mute.refl (t : Turn σ) : t.Mute t := ⟨rfl, rfl⟩

/-- Parts that publish nothing, in a row, publish nothing. -/
lemma Mute.trans (h : t.Mute t') (h' : t'.Mute t'') : t.Mute t'' :=
  ⟨h'.publisher.trans h.publisher, h'.told.trans h.told⟩

/-- To change nothing but what has nothing to do with the state publishes nothing. -/
lemma mute_session (t : Turn σ) {s : Session} (h : s.publisher = t.session.publisher) :
    t.Mute { t with session := s } := ⟨h, rfl⟩

/-- What is told by two parts of an event in a row. -/
lemma Tells.trans {states states' : List ConnectionState} (h : t.Tells t' states)
    (h' : t'.Tells t'' states') : t.Tells t'' (states ++ states') := by
  refine ⟨h'.watchers.trans h.watchers, ?_⟩
  rw [h'.told, h.told, h.watchers, telling_append, List.append_assoc]

/-- A part that publishes nothing leaves the state as it is. -/
lemma Mute.announces (h : t.Mute t') : t.Announces t' := by
  unfold Announces
  rw [h.publisher, ConnectionState.change_self]
  exact ⟨congrArg Publisher.watchers h.publisher, h.told.trans (List.append_nil _).symm⟩

/-- A part that publishes nothing may come before one that publishes the state. -/
lemma Announces.after_mute (h' : t'.Announces t'') (h : t.Mute t') : t.Announces t'' := by
  unfold Announces at h' ⊢
  rw [h.publisher] at h'
  refine ⟨h'.watchers.trans (congrArg Publisher.watchers h.publisher), ?_⟩
  rw [h'.told, h.told, h.publisher]

/-- A part that publishes nothing may come behind one that publishes the state. -/
lemma Announces.before_mute (h : t.Announces t') (h' : t'.Mute t'') : t.Announces t'' := by
  unfold Announces at h ⊢
  rw [h'.publisher]
  exact ⟨(congrArg Publisher.watchers h'.publisher).trans h.watchers, h'.told.trans h.told⟩

/-- An effect that tells nobody the state publishes nothing. -/
lemma mute_emit {effect : Effect} (h : effect.telling? = none) (t : Turn σ) :
    t.Mute (t.emit effect) := by
  refine ⟨rfl, (Outbox.told_add effect t.outbox).trans ?_⟩
  rw [h, Option.toList_none, List.append_nil]

/-- Answers publish nothing. -/
lemma mute_reply (result : Except Error Unit) (callers : List Nat) (t : Turn σ) :
    t.Mute (t.reply result callers) :=
  ⟨rfl, Outbox.told_reply result callers t.outbox⟩

/-- Answers to all who wait publish nothing. -/
lemma mute_resolve (result : Except Error Unit) (t : Turn σ) : t.Mute (t.resolve result) :=
  (mute_reply result t.session.waiters t).trans ⟨rfl, rfl⟩

/-- To give up the link publishes nothing. -/
lemma mute_dropLink (t : Turn σ) : t.Mute t.dropLink := by
  refine ⟨?_, ?_⟩
  · unfold dropLink
    dsimp only
    split <;> rfl
  · exact Outbox.filterMap_of_append (effects_dropLink t) (by simp [Effect.telling?])

/-- To give up the attempt publishes nothing. -/
lemma mute_abandon (t : Turn σ) : t.Mute t.abandon := by
  unfold abandon
  refine Mute.trans ?_ (mute_resolve _ _)
  split
  · refine Mute.trans ?_ (mute_emit rfl _)
    exact mute_session t rfl
  · exact .refl t

/-- To give up everything publishes nothing. -/
lemma mute_tearDown (t : Turn σ) : t.Mute t.tearDown := by
  refine Mute.trans (Mute.trans ?_ (mute_abandon _)) (mute_dropLink _)
  exact mute_session t rfl

/-- What comes over the link publishes nothing. -/
lemma mute_receive (m : Moment) (text : String) (t : Turn σ) : t.Mute (t.receive m text) := by
  unfold receive
  split
  · exact .refl t
  · next e _ =>
    split
    · exact ⟨rfl, rfl⟩
    · exact ⟨rfl, Outbox.told_deliver m e _ t.outbox⟩

/-- To write what waits in memory publishes nothing. -/
lemma mute_drainPending (m : Moment) (link : Nat) (t : Turn σ) :
    t.Mute (t.drainPending m link).2 :=
  ⟨rfl, Outbox.told_drainList m link _ 0 t.outbox⟩

/-- To publish a state tells it to all who watch.

**Proof sketch.** If the state is the same nothing is done. Otherwise all who watch are told it one
after the other (`effects_publish`). -/
lemma announces_publish (m : Moment) (next : ConnectionState) (t : Turn σ) :
    t.Announces (t.publish m next) := by
  have hcurrent : (t.publish m next).session.publisher.current = next :=
    congrArg Connection.state (connection_publish m next t)
  have hwatchers : (t.publish m next).session.publisher.watchers =
      t.session.publisher.watchers := by
    unfold publish Publisher.transition
    by_cases h : next = t.session.publisher.current <;> simp [h]
  unfold Announces
  rw [hcurrent]
  refine ⟨hwatchers, ?_⟩
  rw [Outbox.told, effects_publish, List.filterMap_append, Outbox.told, ConnectionState.change]
  congr 1
  split
  · rfl
  · rw [List.filterMap_map]
    simp [telling, Function.comp_def, Effect.telling?]

/-- To schedule the next attempt publishes the state. -/
lemma announces_retry (m : Moment) (t : Turn σ) : t.Announces (t.retry m) := by
  unfold retry
  split
  · exact announces_publish m .disconnected t
  · have hpublish : t.Announces (publish m .reconnecting { t with
        session := { t.session with backoff := t.session.backoff.next.2, rejoins := true } }) :=
      (announces_publish m .reconnecting _).after_mute ⟨rfl, rfl⟩
    exact hpublish.before_mute ⟨rfl, rfl⟩

/-- To lose the link publishes the state. -/
lemma announces_lose (m : Moment) (t : Turn σ) : t.Announces (t.lose m) :=
  (announces_retry m t.dropLink).after_mute (mute_dropLink t)

/-- To ping the server publishes the state, if the link is lost by that. -/
lemma announces_ping (m : Moment) (t : Turn σ) : t.Announces (t.ping m) := by
  unfold ping
  split
  · next link _ =>
    have htold := Outbox.told_transmit m link (envelope m .ping (.object [])) t.outbox
    split
    · next heq =>
      rw [heq] at htold
      exact Mute.announces ⟨rfl, htold⟩
    · next heq =>
      rw [heq] at htold
      exact (announces_lose m _).after_mute ⟨rfl, htold⟩
  · exact Mute.announces ⟨rfl, rfl⟩

/-- To look after the heartbeat publishes the state, if the link is lost by that. -/
lemma announces_beat (m : Moment) (t : Turn σ) : t.Announces (t.beat m) := by
  unfold beat
  dsimp only
  split
  · exact (announces_ping m _).after_mute ⟨rfl, rfl⟩
  · exact (announces_lose m _).after_mute ⟨rfl, rfl⟩
  · exact Mute.announces ⟨rfl, rfl⟩

/-- The welcome of a new link publishes that the session is connected. -/
lemma announces_welcome (m : Moment) (credential : String) (t : Turn σ) :
    t.Announces (t.welcome m credential) := by
  have hpublish : t.Announces (publish m .connected { t with
      session := { t.session with
        attempt := none
        backoff := t.session.backoff.reset
        link := some t.session.opened
        opened := t.session.opened + 1
        linkCredential := some credential
        lastCredential := some credential } }) :=
    (announces_publish m .connected _).after_mute ⟨rfl, rfl⟩
  refine hpublish.before_mute (Mute.trans ?_ (mute_resolve _ _))
  exact mute_session _ rfl

/-- To hide what waits in storage publishes nothing. -/
lemma mute_hide (t : Turn σ) : t.Mute t.hide := mute_session t rfl

variable [Storage σ]

/-- To move what waits in memory to storage publishes nothing. -/
lemma mute_spill (m : Moment) (t : Turn σ) : t.Mute (t.spill m) := ⟨rfl, rfl⟩

/-- To remember a room publishes nothing. -/
lemma mute_rememberRoom (room : Option Room) (t : Turn σ) : t.Mute (t.rememberRoom room) :=
  ⟨rfl, rfl⟩

/-- To write what waits in storage publishes nothing. -/
lemma mute_drainOffline (m : Moment) (link : Nat) (t : Turn σ) :
    t.Mute (t.drainOffline m link).2 := by
  obtain ⟨-, -, houtbox, -⟩ := Queue.Offline.drain_eq (Outbox.transmit m link) t.session.offline
    t.store t.outbox
  exact ⟨rfl, (congrArg Outbox.told houtbox).trans (Outbox.told_drainList m link _ 0 t.outbox)⟩

/-- To send an envelope publishes the state, if the link is lost by that. -/
lemma announces_route (m : Moment) (e : Envelope) (t : Turn σ) : t.Announces (t.route m e) := by
  rcases route_cases m e t with ⟨link, -, -, hroute⟩ | ⟨link, -, -, hroute⟩ | ⟨-, -, hroute⟩ |
    ⟨-, -, hroute⟩ <;> rw [hroute]
  · exact Mute.announces ⟨rfl, (Outbox.told_add _ _).trans (List.append_nil _)⟩
  · exact (announces_lose m _).after_mute ⟨rfl, rfl⟩
  · exact Mute.announces ⟨rfl, rfl⟩
  · exact Mute.announces ⟨rfl, rfl⟩

/-- To write all that waits publishes nothing, or the state if the link is lost by that.

**Proof sketch.** The two queues are written out without a word. Only where one of them has stopped
is the link lost, and this publishes the state. -/
lemma announces_flush (m : Moment) (t : Turn σ) :
    t.Announces (t.flush m).2 ∧ ((t.flush m).1 = true → t.Mute (t.flush m).2) := by
  unfold flush
  split
  · exact ⟨(Mute.refl t).announces, by simp⟩
  · next link _ =>
    have hpending := mute_drainPending m link t
    split
    · next t₁ heq =>
      rw [heq] at hpending
      have hlost := (announces_lose m (t₁.spillAhead m)).after_mute (t := t₁) ⟨rfl, rfl⟩
      exact ⟨hlost.after_mute hpending, by simp⟩
    · next t₁ heq =>
      rw [heq] at hpending
      have hoffline := mute_drainOffline m link t₁
      split
      · next t₂ heq' =>
        rw [heq'] at hoffline
        have hlost := (announces_lose m (t₂.spillAhead m)).after_mute (t := t₂) ⟨rfl, rfl⟩
        exact ⟨hlost.after_mute (hpending.trans hoffline), by simp⟩
      · next t₂ heq' =>
        rw [heq'] at hoffline
        exact ⟨(hpending.trans hoffline).announces, fun _ => hpending.trans hoffline⟩

/-- To join the room again publishes the state, if the link is lost by that. -/
lemma announces_rejoin (m : Moment) (t : Turn σ) : t.Announces (t.rejoin m) := by
  rw [rejoin_eq]
  rcases rejoining_cases m t.session with hnone | ⟨e, hone⟩
  · rw [hnone]
    exact Mute.announces ⟨rfl, rfl⟩
  · rw [hone]
    exact (announces_route m e _).after_mute ⟨rfl, rfl⟩

/-- To open a link publishes that the session is connected, and then the state it leaves, if the
link is lost by what is written on it.

**Proof sketch.** The welcome publishes that the session is connected, and the flush and the rejoin
publish at most the loss of the link, in a row. -/
lemma tells_succeed (m : Moment) (credential : String) (t : Turn σ) :
    t.Tells (t.succeed m credential) (t.session.publisher.current.change .connected ++
      ConnectionState.connected.change (t.succeed m credential).session.publisher.current) := by
  have hconnected : (t.welcome m credential).session.publisher.current = .connected :=
    congrArg Connection.state (connection_welcome m credential t)
  have hwelcome := announces_welcome m credential t
  obtain ⟨hflush, hkept⟩ := announces_flush m (t.welcome m credential)
  have hafter : (t.welcome m credential).Announces (t.succeed m credential) := by
    unfold succeed
    obtain ⟨kept, t', heq⟩ : ∃ kept t', (t.welcome m credential).flush m = (kept, t') :=
      ⟨_, _, rfl⟩
    rw [heq] at hflush hkept ⊢
    cases kept with
    | false => exact hflush
    | true => exact (announces_rejoin m t').after_mute (hkept rfl)
  unfold Announces at hwelcome hafter
  rw [hconnected] at hwelcome hafter
  exact hwelcome.trans hafter

/-- The beginning of an attempt publishes the state. -/
lemma announces_beginAttempt (m : Moment) (stage : Stage) (t : Turn σ) :
    t.Announces (t.beginAttempt m stage) :=
  (announces_publish m .connecting _).after_mute ⟨rfl, rfl⟩

/-- An attempt with a credential of the provider publishes the state. -/
lemma announces_beginFresh (m : Moment) (other : Option String) (t : Turn σ) :
    t.Announces (t.beginFresh m other) :=
  (announces_beginAttempt m _ t).before_mute (mute_emit rfl _)

/-- To connect anew publishes the state. -/
lemma announces_connectAnew (m : Moment) (credential : String) (caller : Nat) (t : Turn σ) :
    t.Announces (t.connectAnew m credential caller) := by
  refine Announces.before_mute ?_ (mute_emit rfl _)
  exact (announces_beginAttempt m _ _).after_mute ⟨rfl, rfl⟩

/-- The end of an attempt without a link publishes the state. -/
lemma announces_fail (m : Moment) (e : Error) (t : Turn σ) : t.Announces (t.fail m e) := by
  have hover : t.Mute { t with session := { t.session with attempt := none } } :=
    mute_session t rfl
  refine (announces_retry m _).after_mute ?_
  exact (hover.trans (mute_resolve (.error e) _)).trans (mute_spill m _)

/-- The answer of the provider publishes the state, if the attempt is over by that. -/
lemma announces_acquire (m : Moment) (answer : Credential.Answer) (other : Option String)
    (t : Turn σ) : t.Announces (t.acquire m answer other) := by
  have hdial : ∀ credential, t.Announces (t.dial m credential) := by
    intro credential
    refine Mute.announces (Mute.trans ?_ (mute_emit rfl _))
    exact mute_session t rfl
  unfold acquire
  split
  · exact hdial _
  · exact hdial _
  · exact hdial _
  · exact announces_fail m _ t
  · exact announces_fail m _ t

/-- To connect publishes the state. -/
lemma announces_connect (m : Moment) (credential : String) (caller : Nat) (t : Turn σ) :
    t.Announces (t.connect m credential caller) := by
  have hlogIn : t.Mute { t with session := { t.session with loggedOut := false } } :=
    mute_session t rfl
  unfold connect
  dsimp only
  split
  · exact Mute.announces ⟨rfl, rfl⟩
  · split
    · split
      · exact (hlogIn.trans (mute_reply _ _ _)).announces
      · exact (announces_connectAnew m _ _ _).after_mute (hlogIn.trans (mute_dropLink _))
    · exact (announces_connectAnew m _ _ _).after_mute hlogIn

/-- To log out publishes the state. -/
lemma announces_disconnect (m : Moment) (caller : Nat) (t : Turn σ) :
    t.Announces (t.disconnect m caller) := by
  have hlogOut : t.Mute { t with
      session := { t.session with loggedOut := true, rejoins := false } } := mute_session t rfl
  refine Announces.before_mute (Announces.after_mute (announces_publish m .disconnected _) ?_)
    (mute_reply _ _ _)
  refine Mute.trans (Mute.trans (Mute.trans ?_ (mute_spill m _)) (mute_hide _))
    (mute_session _ rfl)
  refine Mute.trans ?_ (mute_rememberRoom none _)
  exact (hlogOut.trans (mute_tearDown _)).trans (mute_session _ rfl)

/-- Whatever the user asks for publishes the state, or nothing.

**Proof sketch.** One case for each command. What comes before the part that publishes is mute. -/
lemma announces_obey (m : Moment) {c : Command} (h : ∀ id watcher, c ≠ .watch id watcher)
    (h' : ∀ id, c ≠ .unwatch id) (t : Turn σ) : t.Announces (t.obey m c) := by
  cases c with
  | connect credential caller => exact announces_connect m credential caller t
  | reconnect caller =>
    unfold obey reconnect
    dsimp only
    split
    · exact (mute_reply _ _ t).announces
    · exact (announces_beginFresh m _ _).after_mute ⟨rfl, rfl⟩
  | disconnect caller => exact announces_disconnect m caller t
  | send e => exact announces_route m e t
  | join r => exact (announces_route m _ _).after_mute ⟨rfl, rfl⟩
  | leave r =>
    unfold obey leave
    dsimp only
    split
    · exact (announces_route m _ _).after_mute ⟨rfl, rfl⟩
    · exact announces_route m _ t
  | wake reason =>
    unfold obey wake
    dsimp only
    split
    · exact (announces_beginFresh m none _).after_mute ⟨rfl, rfl⟩
    · exact (Mute.refl t).announces
  | watch id watcher => exact absurd rfl (h id watcher)
  | unwatch id => exact absurd rfl (h' id)
  | count caller => exact (mute_emit rfl t).announces

/-- **An event publishes the state that it leaves.** Every event that opens no link publishes the
state that it leaves, if it is another one than before.

**Proof sketch.** One case for each event, by the lemma about its step. An event that finds nothing
to do is mute. -/
lemma announces_react (m : Moment) {event : Event}
    (h : ∀ id watcher, event ≠ .command (.watch id watcher))
    (h' : ∀ id, event ≠ .command (.unwatch id)) {t : Turn σ}
    (hopens : t.session.opens event = false) : t.Announces (react m event t) := by
  cases event with
  | command c =>
    exact announces_obey m (fun id watcher hc => h id watcher (congrArg _ hc))
      (fun id hc => h' id (congrArg _ hc)) t
  | listen kind listener => exact Mute.announces ⟨rfl, rfl⟩
  | unlisten kind id => exact Mute.announces ⟨rfl, rfl⟩
  | acquired answer =>
    dsimp only [react]
    split
    · exact announces_acquire m answer _ t
    · exact (Mute.refl t).announces
  | opened =>
    dsimp only [react]
    split
    · next credential deadline hattempt =>
      exact absurd ⟨credential, deadline, hattempt⟩ (of_decide_eq_false hopens)
    · exact (Mute.refl t).announces
  | failed e =>
    dsimp only [react]
    split
    · exact announces_fail m e t
    · exact (Mute.refl t).announces
  | expired =>
    dsimp only [react]
    split
    · exact (announces_fail m _ _).after_mute (mute_emit rfl t)
    · exact (Mute.refl t).announces
  | received text =>
    dsimp only [react]
    split
    · exact (mute_receive m text t).announces
    · exact (Mute.refl t).announces
  | ended =>
    dsimp only [react]
    split
    · exact announces_lose m t
    · exact (Mute.refl t).announces
  | beat => exact announces_beat m t
  | retryDue =>
    dsimp only [react]
    split
    · exact (announces_beginFresh m none _).after_mute ⟨rfl, rfl⟩
    · exact (Mute.refl t).announces

end Turn

/-! ### Events -/

namespace Record

variable {σ : Type} [Storage σ] {r : Record σ}

/-- What an event publishes: that the session is connected, if it opens a link, and then the state
in which it leaves the session, if that is another one. -/
def published (r : Record σ) : List ConnectionState :=
  if r.session.opens r.event then
    .connected :: ConnectionState.connected.change r.turn.session.publisher.current
  else r.session.publisher.current.change r.turn.session.publisher.current

/-- Who begins to watch by an event, and is told the state. -/
def greeted (r : Record σ) : List (Nat × ConnectionState) :=
  match r.event with
  | .command (.watch _ watcher) => [(watcher, r.session.publisher.current)]
  | _ => []

/-- An event that opens a link publishes what all who watch are told. -/
lemma tells_of_opens (hc : r.session.connection.Coherent)
    (hopens : r.session.opens r.event = true) :
    (r.session.turn r.store).Tells r.turn r.published := by
  obtain ⟨hevent, hdialing⟩ := opens_eq_true_iff.1 hopens
  obtain ⟨credential, hturn⟩ := r.turn_of_opens (opens_iff.2 ⟨hevent, hdialing⟩)
  have hconnecting : r.session.publisher.current = .connecting := (hc.of_attempt hdialing.isSome).1
  have htells := Turn.tells_succeed r.moment credential (r.session.turn r.store)
  rw [← hturn, show (r.session.turn r.store).session = r.session from rfl, hconnecting] at htells
  rw [published, if_pos hopens]
  exact htells

/-- **What watchers are told.** What watchers are told by an event: who begins to watch is told the
state, and all others are told what is published.

**Proof sketch.** To begin and to cease to watch change no state. Of the other events those that
open a link tell two states at most (`tells_of_opens`), and the rest tell the one that they leave
(`announces_react`). -/
theorem told_turn (hc : r.session.connection.Coherent) :
    r.turn.outbox.told = r.greeted ++ telling r.session.publisher.watchers r.published := by
  have hsilent : ∀ t : Turn σ, r.turn = t → r.session.opens r.event = false →
      t.session.publisher.current = r.session.publisher.current → r.published = [] := by
    rintro t rfl hopens hcurrent
    rw [published, hopens, hcurrent]
    exact ConnectionState.change_self _
  -- To begin and to cease to watch change no state.
  by_cases hwatch : ∃ id watcher, r.event = .command (.watch id watcher)
  · obtain ⟨id, watcher, hevent⟩ := hwatch
    have hpublished : r.published = [] := hsilent _ rfl (by rw [hevent]; rfl)
      (by rw [turn, hevent]; rfl)
    rw [hpublished, greeted, hevent, turn, hevent]
    rfl
  by_cases hunwatch : ∃ id, r.event = .command (.unwatch id)
  · obtain ⟨id, hevent⟩ := hunwatch
    have hpublished : r.published = [] := hsilent _ rfl (by rw [hevent]; rfl)
      (by rw [turn, hevent]; rfl)
    rw [hpublished, greeted, hevent, turn, hevent]
    rfl
  have hgreeted : r.greeted = [] := by
    unfold greeted
    split
    · next id watcher hevent => exact absurd ⟨id, watcher, hevent⟩ hwatch
    · rfl
  rw [hgreeted, List.nil_append]
  cases hopens : r.session.opens r.event with
  | true => exact (tells_of_opens hc hopens).told
  | false =>
    have htells : (r.session.turn r.store).Announces r.turn :=
      Turn.announces_react r.moment (fun id watcher h => hwatch ⟨id, watcher, h⟩)
        (fun id h => hunwatch ⟨id, h⟩) hopens
    rw [published, hopens]
    exact htells.told

end Record

end Session

end Messenger
