import Messenger.Proofs.Session.Account
import Messenger.Proofs.Session.Coherence

set_option relaxedAutoImplicit false
set_option autoImplicit false

/-!
# What an event does to what waits

Events are many, but there are few things that they do to what waits, to the room and to the link.
Whatever is to be shown of all events needs to be shown of these only.

## Main definitions

* `Messenger.Session.Deed`: what can be done to what waits, to the room and to the link.

## Main results

* `Messenger.Session.deed_step`: every event does one of these things.
-/

namespace Messenger.Session

variable {σ : Type}

/-! ### Quiet steps before others -/

namespace Turn

/-- What comes over the link is quiet.

**Proof sketch.** An answer to a ping touches the heartbeat alone, and any other envelope goes to
the listeners alone. -/
lemma quiet_receive (m : Moment) (text : String) (t : Turn σ) : t.Quiet (t.receive m text) := by
  unfold receive
  split
  · exact Quiet.refl t
  · next e _ =>
    split
    · exact quiet_session t rfl rfl rfl rfl
    · obtain ⟨hframes, hoffers⟩ : (t.session.registry.dispatch (Outbox.deliver m) e
          t.outbox).2.frames = t.outbox.frames ∧
          (t.session.registry.dispatch (Outbox.deliver m) e t.outbox).2.offers =
            t.outbox.offers :=
        Outbox.frames_callAll (fun listener => Outbox.frames_deliver m listener e) _ _
      exact ⟨⟨rfl, rfl, rfl, rfl, rfl⟩, hframes, hoffers⟩

variable {t t' : Turn σ}

/-- A quiet step can be left out before the queue is hidden. -/
lemma Quiet.hide (h : t.Quiet t') : t.hide.Quiet t'.hide :=
  ⟨⟨h.pending, congrArg Queue.Offline.detach h.offline, h.room, h.roomKey, h.store⟩, h.frames,
    h.offers⟩

variable [Storage σ]

/-- A quiet step can be left out before the queue is shown. -/
lemma Quiet.reveal (h : t.Quiet t') (m : Moment) : (t.reveal m).Quiet (t'.reveal m) := by
  refine ⟨⟨h.pending, ?_, h.room, h.roomKey, ?_⟩, h.frames, h.offers⟩
  · simp only [Turn.reveal, h.offline, h.store]
  · simp only [Turn.reveal, h.offline, h.store]

/-- A quiet step can be left out before what waits in memory moves to storage. -/
lemma Quiet.spill (h : t.Quiet t') (m : Moment) : (t.spill m).Quiet (t'.spill m) := by
  refine ⟨⟨?_, ?_, h.room, h.roomKey, ?_⟩, h.frames, h.offers⟩
  · rfl
  · simp only [Turn.spill, h.pending, h.offline, h.store]
  · simp only [Turn.spill, h.pending, h.offline, h.store]

/-- A quiet step can be left out before a room is remembered. -/
lemma Quiet.rememberRoom (h : t.Quiet t') (room : Option Room) :
    (t.rememberRoom room).Quiet (t'.rememberRoom room) := by
  refine ⟨⟨h.pending, h.offline, rfl, h.roomKey, ?_⟩, h.frames, h.offers⟩
  simp only [Turn.rememberRoom, h.roomKey, h.store]

end Turn

/-! ### Deeds -/

variable [Storage σ]

/-- What can be done to what waits, to the room and to the link, with the envelopes that have been
handed in for it, and those that have been written. -/
inductive Deed (m : Moment) (t : Turn σ) : List Envelope → List (Nat × Envelope) → Turn σ → Prop
  /-- Nothing, but that the link may be lost. -/
  | rests {sent : List (Nat × Envelope)} {t' : Turn σ} (unsent : sent = []) (still : t.Still t')
      (attempt : t'.session.attempt.isSome = t.session.attempt.isSome)
      (link : t'.session.link = t.session.link ∨ t'.session.link = none)
      (opened : t'.session.opened = t.session.opened) : Deed m t [] sent t'
  /-- An attempt begins, and what waits in storage is shown. -/
  | begins {sent : List (Nat × Envelope)} {t' : Turn σ} (unsent : sent = [])
      (still : (t.reveal m).Still t') (before : t.session.attempt = none)
      (attempt : t'.session.attempt.isSome) (link : t'.session.link = none)
      (opened : t'.session.opened = t.session.opened) : Deed m t [] sent t'
  /-- An envelope is sent, after the user may have entered or left a room. -/
  | sends {t₁ : Turn σ} (e : Envelope)
      (room : t₁ = t ∨ t₁ = t.rememberRoom none ∨
        ∃ r, e = Turn.envelope m .joinRoom (Request.room r) ∧ t₁ = t.rememberRoom (some r)) :
      Deed m t [e] (t₁.route m e).outbox.frames (t₁.route m e)
  /-- An attempt is over, and what waits in memory moves to storage. -/
  | fails {sent : List (Nat × Envelope)} {t' : Turn σ} (unsent : sent = [])
      (still : (t.spill m).Still t') (before : t.session.attempt.isSome)
      (attempt : t'.session.attempt = none) (link : t'.session.link = none)
      (opened : t'.session.opened = t.session.opened) : Deed m t [] sent t'
  /-- The user leaves the room and logs out, and what waits is hidden in storage. -/
  | logsOut {sent : List (Nat × Envelope)} {t' : Turn σ} (unsent : sent = [])
      (still : ((t.rememberRoom none).spill m).hide.Still t')
      (attempt : t'.session.attempt = none) (link : t'.session.link = none)
      (opened : t'.session.opened = t.session.opened) : Deed m t [] sent t'
  /-- A link is opened, and all that waits is written on it. -/
  | opens (credential : String) (dialing : t.session.Dialing) (link : t.session.link = none) :
      Deed m t (t.session.followUp m) (t.succeed m credential).outbox.frames
        (t.succeed m credential)

/-- To enter or leave a room does nothing to the connection and to what waits in memory, and writes
nothing. -/
lemma Deed.room_change {m : Moment} {t t₁ : Turn σ} {e : Envelope}
    (h : t₁ = t ∨ t₁ = t.rememberRoom none ∨
      ∃ r, e = Turn.envelope m .joinRoom (Request.room r) ∧ t₁ = t.rememberRoom (some r)) :
    t₁.session.connection = t.session.connection ∧ t₁.outbox = t.outbox ∧
      t₁.session.pending = t.session.pending := by
  rcases h with rfl | rfl | ⟨r, -, rfl⟩ <;> exact ⟨rfl, rfl, rfl⟩

/-! ### What events do -/

namespace Turn

/-- To begin an attempt shows the queue. -/
lemma quiet_beginAttempt (m : Moment) (stage : Stage) (t : Turn σ) :
    (t.reveal m).Quiet (t.beginAttempt m stage) := by
  refine Quiet.trans ?_ (quiet_publish m .connecting _)
  exact quiet_session (t.reveal m) rfl rfl rfl rfl

/-- To begin an attempt with a credential of the provider shows the queue. -/
lemma quiet_beginFresh (m : Moment) (other : Option String) (t : Turn σ) :
    (t.reveal m).Quiet (t.beginFresh m other) :=
  (quiet_beginAttempt m _ t).trans (quiet_emit rfl _)

/-- To connect anew shows the queue. -/
lemma quiet_connectAnew (m : Moment) (credential : String) (caller : Nat) (t : Turn σ) :
    (t.reveal m).Quiet (t.connectAnew m credential caller) := by
  refine Quiet.trans ?_ (quiet_emit rfl _)
  refine Quiet.trans ?_ (quiet_beginAttempt m _ _)
  apply Quiet.reveal
  exact quiet_session t rfl rfl rfl rfl

/-- A failure moves what waits in memory to storage. -/
lemma quiet_fail (m : Moment) (e : Error) (t : Turn σ) : (t.spill m).Quiet (t.fail m e) := by
  refine Quiet.trans ?_ (quiet_retry m _)
  apply Quiet.spill
  refine Quiet.trans ?_ (quiet_resolve _ _)
  exact quiet_session t rfl rfl rfl rfl

/-- To log out leaves the room, moves what waits in memory to storage, and hides it there. -/
lemma quiet_disconnect (m : Moment) (caller : Nat) (t : Turn σ) :
    ((t.rememberRoom none).spill m).hide.Quiet (t.disconnect m caller) := by
  refine Quiet.trans ?_ (quiet_reply _ _ _)
  refine Quiet.trans ?_ (quiet_publish m .disconnected _)
  refine Quiet.trans (Quiet.hide (Quiet.spill (Quiet.rememberRoom ?_ none) m))
    (quiet_session _ rfl rfl rfl rfl)
  refine Quiet.trans (Quiet.trans ?_ (quiet_tearDown _)) (quiet_session _ rfl rfl rfl rfl)
  exact quiet_session t rfl rfl rfl rfl

end Turn

namespace Deed

variable {m : Moment} {t t' : Turn σ}

/-- A quiet step rests, if it does nothing to the attempt and nothing but lose the link. -/
lemma of_quiet (hnew : t.outbox.frames = []) (hquiet : t.Quiet t')
    (hattempt : t'.session.connection.attempt.isSome = t.session.attempt.isSome)
    (hlink : t'.session.connection.link = t.session.link ∨ t'.session.connection.link = none)
    (hopened : t'.session.connection.opened = t.session.opened) :
    Deed m t [] t'.outbox.frames t' :=
  .rests (hquiet.frames.trans hnew) hquiet.toStill hattempt hlink hopened

/-- A quiet step that leaves the connection alone rests. -/
lemma of_connection (hnew : t.outbox.frames = []) (hquiet : t.Quiet t')
    (hconnection : t'.session.connection = t.session.connection) :
    Deed m t [] t'.outbox.frames t' :=
  of_quiet hnew hquiet (by rw [hconnection]; rfl) (by rw [hconnection]; exact .inl rfl)
    (by rw [hconnection]; rfl)

/-- An attempt that begins without a link begins. -/
lemma of_begin (hnew : t.outbox.frames = []) (hquiet : (t.reveal m).Quiet t')
    (hattempt : t.session.attempt = none) {c : Connection} {stage : Stage}
    (hconnection : t'.session.connection = c.begin stage) (hlink : c.link = none)
    (hopened : c.opened = t.session.opened) : Deed m t [] t'.outbox.frames t' := by
  refine .begins (hquiet.frames.trans hnew) hquiet.toStill hattempt ?_ ?_ ?_
  · show t'.session.connection.attempt.isSome
    rw [hconnection]
    rfl
  · show t'.session.connection.link = none
    rw [hconnection]
    exact hlink
  · show t'.session.connection.opened = _
    rw [hconnection]
    exact hopened

/-- The loss of the link rests. -/
lemma of_lose (hnew : t.outbox.frames = []) : Deed m t [] (t.lose m).outbox.frames (t.lose m) := by
  obtain ⟨due, hlose⟩ := Turn.connection_lose m t
  apply of_quiet hnew (Turn.quiet_lose m t) <;> rw [hlose]
  · rw [Connection.attempt_lose]
    rfl
  · rw [Connection.link_lose]
    exact .inr rfl
  · rw [Connection.opened_lose]
    rfl

/-- The failure of an attempt fails, also if something quiet has come before.

**Proof sketch.** Whatever quiet has come before, a failure spills what waits in memory, and
schedules the next attempt unless the user has logged out. -/
lemma of_fail (hnew : t.outbox.frames = []) (hc : t.session.connection.Coherent)
    (hattempt : t.session.attempt.isSome) (hquiet : t.Quiet t')
    (hconnection : t'.session.connection = t.session.connection) (e : Error) :
    Deed m t [] (t'.fail m e).outbox.frames (t'.fail m e) := by
  obtain ⟨due, hfail⟩ := Turn.connection_fail m e t'
  rw [hconnection] at hfail
  have hquiet := (hquiet.spill m).trans (Turn.quiet_fail m e t')
  refine .fails (hquiet.frames.trans hnew) hquiet.toStill hattempt ?_ ?_ ?_
  · show (t'.fail m e).session.connection.attempt = none
    rw [hfail, Connection.attempt_retry]
  · show (t'.fail m e).session.connection.link = none
    rw [hfail, Connection.link_retry]
    exact (hc.of_attempt hattempt).2.1
  · show (t'.fail m e).session.connection.opened = _
    rw [hfail, Connection.opened_retry]
    rfl

/-- The answer of the provider rests or fails. -/
lemma of_acquire (hnew : t.outbox.frames = []) (hc : t.session.connection.Coherent)
    (hattempt : t.session.attempt.isSome) (answer : Credential.Answer) (other : Option String) :
    Deed m t [] (t.acquire m answer other).outbox.frames (t.acquire m answer other) := by
  have hdial : ∀ credential, Deed m t [] (t.dial m credential).outbox.frames
      (t.dial m credential) := fun credential =>
    of_quiet hnew (Turn.quiet_dial m credential t) hattempt.symm (.inl rfl) rfl
  unfold Turn.acquire
  split
  · exact hdial _
  · exact hdial _
  · exact hdial _
  · exact of_fail hnew hc hattempt (Turn.Quiet.refl t) rfl _
  · exact of_fail hnew hc hattempt (Turn.Quiet.refl t) rfl _

/-- To connect begins, unless there is an attempt or a link of that credential.

**Proof sketch.** By what there is. If an attempt is under way the caller joins it, and if the link
has that credential it is granted; both are quiet. Otherwise an attempt begins, behind a link that
was dropped or without one. -/
lemma of_connect (hnew : t.outbox.frames = []) (credential : String) (caller : Nat) :
    Deed m t [] (t.connect m credential caller).outbox.frames (t.connect m credential caller) := by
  have hlogIn : t.Quiet { t with session := { t.session with loggedOut := false } } :=
    Turn.quiet_session t rfl rfl rfl rfl
  unfold Turn.connect
  dsimp only
  split
  · exact of_quiet hnew (Turn.quiet_session t rfl rfl rfl rfl) rfl (.inl rfl) rfl
  · next hattempt =>
    have hattempt : t.session.attempt = none := Option.not_isSome_iff_eq_none.1 hattempt
    split
    · split
      · exact of_quiet hnew (hlogIn.trans (Turn.quiet_reply _ _ _)) rfl (.inl rfl) rfl
      · have hdrop := hlogIn.trans (Turn.quiet_dropLink _)
        have hopened := congrArg Connection.opened (Turn.connection_dropLink
          { t with session := { t.session with loggedOut := false } })
        exact of_begin hnew ((hdrop.reveal m).trans (Turn.quiet_connectAnew m _ _ _)) hattempt
          (Turn.connection_beginWith m _ _) rfl hopened
    · next hlink =>
      exact of_begin hnew ((hlogIn.reveal m).trans (Turn.quiet_connectAnew m _ _ _)) hattempt
        (Turn.connection_beginWith m _ _) (Option.not_isSome_iff_eq_none.1 hlink) rfl

/-- To connect anew begins, unless there is an attempt or a link. -/
lemma of_reconnect (hnew : t.outbox.frames = []) (caller : Nat) :
    Deed m t [] (t.reconnect m caller).outbox.frames (t.reconnect m caller) := by
  unfold Turn.reconnect
  split
  · exact of_connection hnew (Turn.quiet_reply _ _ _) rfl
  · next hnone =>
    obtain ⟨hattempt, hlink⟩ := not_or.1 hnone
    refine of_begin hnew (Turn.Quiet.trans (Turn.Quiet.reveal ?_ m) (Turn.quiet_beginFresh m _ _))
      (Option.not_isSome_iff_eq_none.1 hattempt) (Turn.connection_beginFresh m _ _)
      (Option.not_isSome_iff_eq_none.1 hlink) rfl
    exact Turn.quiet_session t rfl rfl rfl rfl

/-- Not to wait any more for the next attempt begins. -/
lemma of_retryNow (hnew : t.outbox.frames = []) (hattempt : t.session.attempt = none)
    (hlink : t.session.link = none) :
    Deed m t [] (t.cancelRetry.beginFresh m none).outbox.frames
      (t.cancelRetry.beginFresh m none) :=
  of_begin hnew (((Turn.quiet_cancelRetry t).reveal m).trans (Turn.quiet_beginFresh m _ _)) hattempt
    (Turn.connection_beginFresh m _ _) hlink rfl

/-- To log out logs out. -/
lemma of_disconnect (hnew : t.outbox.frames = []) (caller : Nat) :
    Deed m t [] (t.disconnect m caller).outbox.frames (t.disconnect m caller) := by
  have hquiet := Turn.quiet_disconnect m caller t
  have hconnection := Turn.connection_disconnect m caller t
  refine .logsOut (hquiet.frames.trans hnew) hquiet.toStill ?_ ?_ ?_
  · show (t.disconnect m caller).session.connection.attempt = none
    rw [hconnection]
    rfl
  · show (t.disconnect m caller).session.connection.link = none
    rw [hconnection]
    rfl
  · show (t.disconnect m caller).session.connection.opened = _
    rw [hconnection]
    rfl

/-- What a user asks for.

**Proof sketch.** One case for each command. To join a room and to leave it send an envelope each,
and the room may be remembered before. -/
lemma of_obey (hnew : t.outbox.frames = []) (c : Command) :
    Deed m t (c.envelope? m).toList (t.obey m c).outbox.frames (t.obey m c) := by
  cases c with
  | connect credential caller => exact of_connect hnew credential caller
  | reconnect caller => exact of_reconnect hnew caller
  | disconnect caller => exact of_disconnect hnew caller
  | send e => exact .sends e (.inl rfl)
  | join r => exact .sends _ (.inr (.inr ⟨r, rfl, rfl⟩))
  | leave r =>
    refine .sends _ ?_
    split
    · exact .inr (.inl rfl)
    · exact .inl rfl
  | wake reason =>
    unfold Turn.obey Turn.wake
    dsimp only
    split
    · next hdue => exact of_retryNow hnew hdue.2.2.1 hdue.2.2.2
    · exact of_connection hnew (Turn.Quiet.refl t) rfl
  | watch id watcher =>
    have htold := Outbox.frames_tell m watcher t.session.publisher.current t.outbox
    exact of_connection hnew ⟨⟨rfl, rfl, rfl, rfl, rfl⟩, htold.1, htold.2⟩ rfl
  | unwatch id => exact of_connection hnew (Turn.quiet_session t rfl rfl rfl rfl) rfl
  | count caller => exact of_connection hnew (Turn.quiet_emit rfl t) rfl

/-- A step that moves nothing and leaves attempt and link alone, or loses the link, rests. What it
writes does not count. -/
lemma of_still (hstill : t.Still t') (hconnection : ∃ (heartbeat : Heartbeat) (due : Nat),
      t'.session.connection = { t.session.connection with heartbeat := heartbeat } ∨
      t'.session.connection = { t.session.connection with heartbeat := heartbeat }.lose due) :
    Deed m t [] [] t' := by
  obtain ⟨heartbeat, due, h | h⟩ := hconnection
  · exact .rests rfl hstill (congrArg (Option.isSome ·.attempt) h)
      (.inl (congrArg Connection.link h)) (congrArg Connection.opened h)
  · have hattempt := congrArg Connection.attempt h
    have hlink := congrArg Connection.link h
    have hopened := congrArg Connection.opened h
    rw [Connection.attempt_lose] at hattempt
    rw [Connection.link_lose] at hlink
    rw [Connection.opened_lose] at hopened
    exact .rests rfl hstill (congrArg Option.isSome hattempt) (.inr hlink) hopened

/-- The heartbeat rests.

**Proof sketch.** By what is due. A ping is written, which does not count, or loses the link if that
refuses it; the end of the watchdog loses the link; and if nothing is due nothing is done. -/
lemma of_beat (t : Turn σ) : Deed m t [] [] (t.beat m) := by
  obtain ⟨event, heartbeat, hpoll⟩ : ∃ event heartbeat,
    t.session.heartbeat.poll m.pingFirst m.clock = (event, heartbeat) := ⟨_, _, rfl⟩
  have hpolled : t.Still { t with session := { t.session with heartbeat := heartbeat } } :=
    ⟨rfl, rfl, rfl, rfl, rfl⟩
  have hlost : ∀ outbox : Outbox, Deed m t [] [] (Turn.lose m { t with
      session := { t.session with heartbeat := heartbeat }, outbox := outbox }) := by
    intro outbox
    obtain ⟨due, hlose⟩ := Turn.connection_lose m { t with
      session := { t.session with heartbeat := heartbeat }, outbox := outbox }
    exact of_still ((hpolled.trans (Turn.still_outbox _ outbox)).trans
      (Turn.quiet_lose m _).toStill) ⟨heartbeat, due, .inr hlose⟩
  unfold Turn.beat
  rw [hpoll]
  dsimp only
  split
  · unfold Turn.ping
    dsimp only
    split
    · split
      · exact of_still ⟨rfl, rfl, rfl, rfl, rfl⟩ ⟨heartbeat.arm m.clock, 0, .inl rfl⟩
      · exact hlost _
    · exact of_still ⟨rfl, rfl, rfl, rfl, rfl⟩ ⟨heartbeat.stop, 0, .inl rfl⟩
  · exact hlost t.outbox
  · exact of_still hpolled ⟨heartbeat, 0, .inl rfl⟩

end Deed

/-- **There are few things that an event does.** Every event does one of them to what waits, to the
room and to the link.

**Proof sketch.** One case for each event. It does what its step does, by a lemma about that, if it
finds the attempt, the link or the time of the next attempt that it is about; otherwise it rests. -/
theorem deed_step {s : Session} (hc : s.connection.Coherent) (m : Moment) (event : Event)
    (store : σ) :
    Deed m (s.turn store) (Record.mk m event s store).routed (Record.mk m event s store).sent
      (step m event s store) := by
  have ht : (s.turn store).session.connection.Coherent := hc
  have hnew : (s.turn store).outbox.frames = [] := rfl
  have hrests : Deed m (s.turn store) [] (s.turn store).outbox.frames (s.turn store) :=
    Deed.of_connection hnew (Turn.Quiet.refl _) rfl
  show Deed m (s.turn store) (Record.mk m event s store).routed (Record.mk m event s store).sent
    (react m event (s.turn store))
  unfold Record.sent Record.turn step
  cases event with
  | command c => exact Deed.of_obey hnew c
  | listen kind listener =>
    exact Deed.of_connection hnew (Turn.quiet_session (s.turn store) rfl rfl rfl rfl) rfl
  | unlisten kind id =>
    exact Deed.of_connection hnew (Turn.quiet_session (s.turn store) rfl rfl rfl rfl) rfl
  | acquired answer =>
    dsimp only [react, Record.routed, Event.ordered]
    split
    · next other hattempt => exact Deed.of_acquire hnew ht (by simp [hattempt]) answer other
    · exact hrests
  | opened =>
    cases hattempt : s.attempt with
    | none => simpa [react, Session.turn, hattempt, Record.routed, Session.Dialing] using hrests
    | some stage =>
      cases stage with
      | asking other =>
        simpa [react, Session.turn, hattempt, Record.routed, Session.Dialing] using hrests
      | dialing credential deadline =>
        -- Only here a link is opened.
        have hdialing : s.Dialing := ⟨credential, deadline, hattempt⟩
        have hreact : react m .opened (s.turn store) = (s.turn store).succeed m credential := by
          simp [react, Session.turn, hattempt]
        rw [Record.routed_opened m hdialing, hreact]
        exact Deed.opens credential hdialing
          (ht.of_attempt (Option.isSome_iff_exists.2 ⟨_, hattempt⟩)).2.1
  | failed e =>
    dsimp only [react, Record.routed, Event.ordered]
    split
    · next hattempt =>
      exact Deed.of_fail hnew ht (Option.isSome_iff_exists.2 ⟨_, hattempt⟩) (Turn.Quiet.refl _)
        rfl e
    · exact hrests
  | expired =>
    dsimp only [react, Record.routed, Event.ordered]
    split
    · next hattempt =>
      exact Deed.of_fail hnew ht (Option.isSome_iff_exists.2 ⟨_, hattempt⟩)
        (Turn.quiet_emit rfl _) rfl _
    · exact hrests
  | received text =>
    dsimp only [react, Record.routed, Event.ordered]
    split
    · obtain ⟨heartbeat, hreceive⟩ := Turn.connection_receive m text (s.turn store)
      exact Deed.of_quiet hnew (Turn.quiet_receive m text _)
        (congrArg (Option.isSome ·.attempt) hreceive) (.inl (congrArg Connection.link hreceive))
        (congrArg Connection.opened hreceive)
    · exact hrests
  | ended =>
    dsimp only [react, Record.routed, Event.ordered]
    split
    · exact Deed.of_lose hnew
    · exact hrests
  | beat => exact Deed.of_beat _
  | retryDue =>
    dsimp only [react, Record.routed, Event.ordered]
    split
    · next hretry =>
      obtain ⟨hlink, hattempt, -⟩ := ht.of_retryAt hretry
      exact Deed.of_retryNow hnew hattempt hlink
    · exact hrests

end Messenger.Session
