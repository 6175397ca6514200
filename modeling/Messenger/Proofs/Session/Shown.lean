import Messenger.Proofs.Session.Orderly

set_option relaxedAutoImplicit false
set_option autoImplicit false

/-!
# When the queue is shown

The queue in storage is shown from the beginning on and whenever the user has asked to connect. Only
to log out hides it, and leaves nothing in memory.

## Main results

* `Messenger.Session.Turn.shown_connect`: the queue is shown after the user has asked to connect.
* `Messenger.Session.Deed.of_hidden`: what an event has done that leaves the queue hidden.
* `Messenger.Session.shown_step`: a queue that is shown stays so, unless the user logs out.
* `Messenger.Session.hidden_disconnect`: the user logs out, and nothing is in memory any more.
-/

namespace Messenger.Session

variable {σ : Type}

/-! ### Turns -/

namespace Turn

variable {t : Turn σ}

/-- A queue that is shown stays so when a link is lost. -/
lemma shown_lose (h : t.session.offline.detached = false) (m : Moment) :
    (t.lose m).session.offline.detached = false :=
  (quiet_lose m t).detached_eq.trans h

/-- A queue that is shown stays so when the heartbeat is looked after.

**Proof sketch.** By what is due. Only the loss of the link comes near what waits, and that spills
into a queue that is shown. -/
lemma shown_beat (h : t.session.offline.detached = false) (m : Moment) :
    (t.beat m).session.offline.detached = false := by
  unfold beat
  obtain ⟨event, heartbeat, hpoll⟩ : ∃ event heartbeat,
    t.session.heartbeat.poll m.pingFirst m.clock = (event, heartbeat) := ⟨_, _, rfl⟩
  have hlost : ∀ outbox : Outbox, (lose m { t with
      session := { t.session with heartbeat := heartbeat }
      outbox := outbox }).session.offline.detached = false := fun outbox =>
    shown_lose (t := { t with
      session := { t.session with heartbeat := heartbeat }, outbox := outbox }) h m
  rw [hpoll]
  dsimp only
  split
  · unfold ping
    dsimp only
    split
    · split
      · exact h
      · exact hlost _
    · exact h
  · exact hlost t.outbox
  · exact h

variable [Storage σ]

/-- An attempt with a credential of the provider shows the queue. -/
lemma shown_beginFresh (m : Moment) (other : Option String) (t : Turn σ) :
    (t.beginFresh m other).session.offline.detached = false :=
  (quiet_beginFresh m other t).detached_eq.trans
    (Queue.Offline.detached_reattach m.stamp t.session.offline t.store)

/-- To connect anew shows the queue. -/
lemma shown_connectAnew (m : Moment) (credential : String) (caller : Nat) (t : Turn σ) :
    (t.connectAnew m credential caller).session.offline.detached = false :=
  (quiet_connectAnew m credential caller t).detached_eq.trans
    (Queue.Offline.detached_reattach m.stamp t.session.offline t.store)

/-- **To connect shows the queue.** After the user has asked to connect the queue is shown.

**Proof sketch.** By what there is. During an attempt and with a link the queue is shown anyway, and
if an attempt begins it shows it. -/
lemma shown_connect (h : t.session.Orderly) (m : Moment) (credential : String) (caller : Nat) :
    (t.connect m credential caller).session.offline.detached = false := by
  unfold connect
  dsimp only
  split
  · next hattempt => exact h.shown hattempt
  · split
    · next hlink =>
      split
      · exact (h.clear hlink).2
      · exact shown_connectAnew m credential caller _
    · exact shown_connectAnew m credential caller _

/-- A queue that is shown stays so when an attempt fails. -/
lemma shown_fail (h : t.session.offline.detached = false) (m : Moment) (e : Error) :
    (t.fail m e).session.offline.detached = false :=
  (quiet_fail m e t).detached_eq.trans (shown_spill h m)

/-- A queue that is shown stays so when the provider answers. -/
lemma shown_acquire (h : t.session.offline.detached = false) (m : Moment)
    (answer : Credential.Answer) (other : Option String) :
    (t.acquire m answer other).session.offline.detached = false := by
  unfold acquire
  split
  · exact h
  · exact h
  · exact h
  · exact shown_fail h m _
  · exact shown_fail h m _

/-- A queue that is shown stays so whatever the user asks for, unless it is to log out.

**Proof sketch.** One case for each command. To send spills, keeps or writes, to begin an attempt
shows the queue, and the rest does not touch it. -/
lemma shown_obey (ho : t.session.Orderly) (h : t.session.offline.detached = false) (m : Moment)
    {c : Command} (hc : ∀ caller, c ≠ .disconnect caller) :
    (t.obey m c).session.offline.detached = false := by
  cases c with
  | connect credential caller => exact shown_connect ho m credential caller
  | reconnect caller =>
    unfold obey reconnect
    dsimp only
    split
    · exact h
    · exact shown_beginFresh m _ _
  | disconnect caller => exact absurd rfl (hc caller)
  | send e => exact shown_route h m e
  | join r => exact shown_route (t := t.rememberRoom (some r)) h m _
  | leave r =>
    unfold obey leave
    dsimp only
    split
    · exact shown_route (t := t.rememberRoom none) h m _
    · exact shown_route h m _
  | wake reason =>
    unfold obey wake
    dsimp only
    split
    · exact shown_beginFresh m none _
    · exact h
  | watch id watcher => exact h
  | unwatch id => exact h
  | count caller => exact h

end Turn

/-! ### Events -/

variable [Storage σ]

/-- **What leaves the queue hidden.** The queue is hidden after an event only if the event moves
nothing and finds it hidden, with nothing in memory, or if it hides what waits as to log out does.

**Proof sketch.** One case for each thing that can be done to what waits. All of them show the queue
or find it shown, but two: to rest and to log out. -/
lemma Deed.of_hidden {m : Moment} {t t' : Turn σ} {routed : List Envelope}
    {sent : List (Nat × Envelope)} (hdeed : Deed m t routed sent t') (h : t.session.Orderly)
    (hempty : t.outbox = .empty) (hhidden : t'.session.offline.detached = true) :
    (t.Still t' ∧ t.session.pending.items = []) ∨
      ((t.rememberRoom none).spill m).hide.Still t' := by
  cases hdeed with
  | rests hsent still =>
    rw [still.offline] at hhidden
    exact .inl ⟨still, h.idle (h.attempt_of_hidden hhidden)⟩
  | begins hsent still =>
    rw [still.offline] at hhidden
    have hshown : (t.reveal m).session.offline.detached = false :=
      Queue.Offline.detached_reattach m.stamp t.session.offline t.store
    simp [hshown] at hhidden
  | sends e room =>
    simp [Turn.shown_route_of_orderly (Deed.orderly_room room h) m e] at hhidden
  | fails hsent still before =>
    rw [still.offline, Turn.shown_spill (h.shown before) m] at hhidden
    cases hhidden
  | logsOut hsent still => exact .inr still
  | opens credential dialing =>
    have hoffered := Turn.offered_succeed (h.shown dialing.isSome) (by rw [hempty]; rfl) m
      credential rfl
    simp [hoffered.shown] at hhidden

/-- **Only to log out hides the queue.** A queue that is shown stays so, unless the user logs out.

**Proof sketch.** One case for each event, by the lemma about its step; an event that finds nothing
to do leaves the queue as it is. -/
theorem shown_step {s : Session} (ho : s.Orderly) (h : s.offline.detached = false) (m : Moment)
    {event : Event} (hevent : ∀ caller, event ≠ .command (.disconnect caller)) (store : σ) :
    (step m event s store).session.offline.detached = false := by
  have hturn : (s.turn store).session.offline.detached = false := h
  unfold step
  cases event with
  | command c =>
    apply Turn.shown_obey (t := s.turn store) ho h m
    rintro caller rfl
    exact hevent caller rfl
  | listen kind listener => exact h
  | unlisten kind id => exact h
  | acquired answer =>
    dsimp only [react]
    split
    · exact Turn.shown_acquire hturn m answer _
    · exact h
  | opened =>
    dsimp only [react]
    split
    · exact Turn.shown_succeed hturn m _
    · exact h
  | failed e =>
    dsimp only [react]
    split
    · exact Turn.shown_fail hturn m e
    · exact h
  | expired =>
    dsimp only [react]
    split
    · exact Turn.shown_fail (t := (s.turn store).emit .abandoned) h m _
    · exact h
  | received text =>
    dsimp only [react]
    split
    · exact (Turn.quiet_receive m text _).detached_eq.trans h
    · exact h
  | ended =>
    dsimp only [react]
    split
    · exact Turn.shown_lose hturn m
    · exact h
  | beat => exact Turn.shown_beat hturn m
  | retryDue =>
    dsimp only [react]
    split
    · exact Turn.shown_beginFresh m none _
    · exact h

/-- **To log out hides it.** After the user has logged out the queue is hidden, and nothing waits in
memory. -/
lemma hidden_disconnect (m : Moment) (caller : Nat) (s : Session) (store : σ) :
    (step m (.command (.disconnect caller)) s store).session.offline.detached = true ∧
      (step m (.command (.disconnect caller)) s store).session.pending.items = [] := by
  have hquiet := Turn.quiet_disconnect m caller (s.turn store)
  constructor
  · exact congrArg Queue.Offline.detached hquiet.offline
  · exact congrArg Queue.Pending.items hquiet.pending

end Messenger.Session
