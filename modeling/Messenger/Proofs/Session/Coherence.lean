import Messenger.Proofs.Session.Connection

set_option relaxedAutoImplicit false
set_option autoImplicit false

/-!
# The connection is coherent

After every event a session has a link, or an attempt, or the time of the next attempt, or nothing
of these, and the published state says which. The heartbeat runs along with the link, and so does
its credential. A user who has logged out is not connected.

## Main definitions

* `Messenger.Session.Connection.Shape`: what there is of a connection in a state.
* `Messenger.Session.Connection.Coherent`: the published state says what there is.
* `Messenger.Session.Connection.Bare`: there is neither link nor attempt nor the time of the next
  one.

## Main results

* `Messenger.Session.coherent_step`: every event keeps the connection coherent.
* `Messenger.Session.coherent_run`: so the connection is coherent after every run.
-/

namespace Messenger

/-- Collecting what is due neither starts nor stops a heartbeat, and does not arm it; and nothing is
due while it is not running. -/
lemma Heartbeat.isSome_poll (pingFirst : Bool) (now : Nat) (h : Heartbeat) :
    ((h.poll pingFirst now).1.isSome → h.ticker.isSome) ∧
      (h.poll pingFirst now).2.ticker.isSome = h.ticker.isSome ∧
      ((h.poll pingFirst now).2.watchdog.isSome → h.watchdog.isSome) := by
  unfold Heartbeat.poll
  cases hticker : h.ticker with
  | none => simp [hticker]
  | some tick =>
    dsimp only
    split
    · simp
    · split <;> simp [hticker]

namespace Session

namespace Connection

/-- What there is of a connection in a state. -/
def Shape (c : Connection) : ConnectionState → Prop
  | .disconnected => c.link = none ∧ c.attempt = none ∧ c.retryAt = none
  | .connecting => c.attempt.isSome ∧ c.link = none ∧ c.retryAt = none
  | .connected => c.link.isSome ∧ c.attempt = none ∧ c.retryAt = none
  | .reconnecting => c.retryAt.isSome ∧ c.link = none ∧ c.attempt = none

/-- The published state, and it alone, says what there is of the connection. The heartbeat and the
credential are there along with the link, and not without. -/
structure Coherent (c : Connection) : Prop where
  shape : ∀ state, c.Shape state ↔ state = c.state
  cell : c.cell = c.state
  ticker : c.heartbeat.ticker.isSome = c.link.isSome
  watchdog : c.heartbeat.watchdog.isSome → c.link.isSome
  credential : c.credential.isSome = c.link.isSome
  loggedOut : c.loggedOut → c.state = .disconnected

/-- There is neither a link with what goes along with it, nor an attempt, nor the time of the next
one. -/
structure Bare (c : Connection) : Prop where
  link : c.link = none
  credential : c.credential = none
  attempt : c.attempt = none
  retryAt : c.retryAt = none
  ticker : c.heartbeat.ticker = none
  watchdog : c.heartbeat.watchdog = none
  cell : c.cell = c.state

variable {c : Connection}

/-! ### What a state says -/

/-- A connection has the shape of one state only. -/
lemma shape_unique {state state' : ConnectionState} (h : c.Shape state) (h' : c.Shape state') :
    state = state' := by
  obtain ⟨link, credential, attempt, retryAt, opened, current, cell, heartbeat, loggedOut,
    rejoins⟩ := c
  cases state <;> cases state' <;> first
    | rfl
    | (obtain ⟨h₁, h₂, h₃⟩ := h
       obtain ⟨h₁', h₂', h₃'⟩ := h'
       simp_all)

/-- If the connection has the shape of the published state it has no other one. -/
lemma shape_iff (h : c.Shape c.state) (state : ConnectionState) :
    c.Shape state ↔ state = c.state :=
  ⟨fun h' => shape_unique h' h, fun heq => heq ▸ h⟩

/-- A coherent connection with a link is connected, and has nothing else. -/
lemma Coherent.of_link (h : c.Coherent) (hlink : c.link.isSome) :
    c.state = .connected ∧ c.attempt = none ∧ c.retryAt = none := by
  have hshape := (h.shape c.state).2 rfl
  cases hstate : c.state <;> rw [hstate] at hshape <;> obtain ⟨h₁, h₂, h₃⟩ := hshape
  · simp [h₁] at hlink
  · simp [h₂] at hlink
  · exact ⟨rfl, h₂, h₃⟩
  · simp [h₂] at hlink

/-- A coherent connection with an attempt is connecting, and has nothing else. -/
lemma Coherent.of_attempt (h : c.Coherent) (hattempt : c.attempt.isSome) :
    c.state = .connecting ∧ c.link = none ∧ c.retryAt = none := by
  have hshape := (h.shape c.state).2 rfl
  cases hstate : c.state <;> rw [hstate] at hshape <;> obtain ⟨h₁, h₂, h₃⟩ := hshape
  · simp [h₂] at hattempt
  · exact ⟨rfl, h₂, h₃⟩
  · simp [h₂] at hattempt
  · simp [h₃] at hattempt

/-- A coherent connection with the time of the next attempt has nothing else, and its user has not
logged out. -/
lemma Coherent.of_retryAt (h : c.Coherent) (hretry : c.retryAt.isSome) :
    c.link = none ∧ c.attempt = none ∧ c.loggedOut = false := by
  have hshape := (h.shape c.state).2 rfl
  have hlogged := h.loggedOut
  cases hstate : c.state <;> rw [hstate] at hshape hlogged <;> obtain ⟨h₁, h₂, h₃⟩ := hshape
  · simp [h₃] at hretry
  · simp [h₃] at hretry
  · simp [h₃] at hretry
  · exact ⟨h₂, h₃, by simpa using hlogged⟩

/-- A coherent connection without a link is bare once it has neither attempt nor the time of the
next one. -/
lemma Coherent.bare (h : c.Coherent) (hlink : c.link = none) :
    { c with attempt := none, retryAt := none }.Bare := by
  have hticker := h.ticker
  have hwatchdog := h.watchdog
  have hcredential := h.credential
  rw [hlink] at hticker hwatchdog hcredential
  exact ⟨hlink, by simpa using hcredential, rfl, rfl, by simpa using hticker,
    by simpa using hwatchdog, h.cell⟩

/-! ### What is done to a connection -/

/-- The copy follows when a state is published. -/
lemma cell_publish (h : c.cell = c.state) (next : ConnectionState) :
    (c.publish next).cell = next := by
  unfold publish
  dsimp only
  split
  · next heq => rw [h, heq]
  · rfl

/-- To give up the link makes bare, if there is neither attempt nor the time of the next one. -/
lemma bare_drop (hattempt : c.attempt = none) (hretry : c.retryAt = none)
    (hcell : c.cell = c.state) : c.drop.Bare :=
  ⟨rfl, rfl, hattempt, hretry, rfl, rfl, hcell⟩

/-- What is bare is coherent once it has been published that nothing is there. -/
lemma Bare.publish (h : c.Bare) : (c.publish .disconnected).Coherent := by
  refine ⟨shape_iff ⟨h.link, h.attempt, h.retryAt⟩, cell_publish h.cell _, ?_, ?_, ?_, fun _ => rfl⟩
  · simp [Connection.publish, h.ticker, h.link]
  · simp [Connection.publish, h.watchdog]
  · simp [Connection.publish, h.credential, h.link]

/-- What is bare is coherent once the next attempt has been scheduled. -/
lemma Bare.retry (h : c.Bare) (due : Nat) : (c.retry due).Coherent := by
  unfold Connection.retry
  split
  · exact h.publish
  · next hlogged =>
    refine ⟨shape_iff ⟨rfl, h.link, h.attempt⟩, cell_publish h.cell _, ?_, ?_, ?_, ?_⟩
    · simp [Connection.publish, h.ticker, h.link]
    · simp [Connection.publish, h.watchdog]
    · simp [Connection.publish, h.credential, h.link]
    · intro h'
      exact absurd h' hlogged

/-- What is bare is coherent once an attempt has begun, unless the user has logged out. -/
lemma Bare.begin (h : c.Bare) (hlogged : c.loggedOut = false) (stage : Stage) :
    (c.begin stage).Coherent := by
  refine ⟨shape_iff ⟨rfl, h.link, h.retryAt⟩, cell_publish h.cell _, ?_, ?_, ?_, ?_⟩
  · simp [Connection.begin, Connection.publish, h.ticker, h.link]
  · simp [Connection.begin, Connection.publish, h.watchdog]
  · simp [Connection.begin, Connection.publish, h.credential, h.link]
  · simp [Connection.begin, Connection.publish, hlogged]

/-- A connection is coherent after the loss of its link. -/
lemma Coherent.lose (h : c.Coherent) (hlink : c.link.isSome) (due : Nat) :
    (c.lose due).Coherent := by
  obtain ⟨-, hattempt, hretry⟩ := h.of_link hlink
  exact (bare_drop hattempt hretry h.cell).retry due

/-- A connection is coherent after its attempt has failed. -/
lemma Coherent.fail (h : c.Coherent) (hattempt : c.attempt.isSome) (due : Nat) :
    ({ c with attempt := none }.retry due).Coherent := by
  obtain ⟨-, hlink, hretry⟩ := h.of_attempt hattempt
  have hbare := h.bare hlink
  rw [← hretry] at hbare
  exact hbare.retry due

/-- A connection is coherent after its attempt has opened a link. -/
lemma Coherent.welcome (h : c.Coherent) (hattempt : c.attempt.isSome) (clock : Nat)
    (credential : String) : (c.welcome clock credential).Coherent := by
  obtain ⟨hstate, hlink, hretry⟩ := h.of_attempt hattempt
  have hbare := h.bare hlink
  refine ⟨shape_iff ⟨rfl, rfl, hretry⟩, cell_publish h.cell _, ?_, fun _ => rfl, rfl, ?_⟩
  · have hticker : c.heartbeat.ticker = none := hbare.ticker
    simp [Connection.welcome, Connection.publish, Heartbeat.start, hticker]
  · intro hlogged
    exact absurd (h.loggedOut hlogged) (by simp [hstate])

/-- A connection is coherent after the next attempt has begun. -/
lemma Coherent.restart (h : c.Coherent) (hretry : c.retryAt.isSome) (stage : Stage) :
    ({ c with retryAt := none }.begin stage).Coherent := by
  obtain ⟨hlink, hattempt, hlogged⟩ := h.of_retryAt hretry
  have hbare := h.bare hlink
  rw [← hattempt] at hbare
  exact hbare.begin hlogged stage

/-- A connection stays coherent when its heartbeat changes, unless that starts, stops or arms it. -/
lemma Coherent.beat (h : c.Coherent) {heartbeat : Heartbeat}
    (hticker : heartbeat.ticker.isSome = c.heartbeat.ticker.isSome)
    (hwatchdog : heartbeat.watchdog.isSome → c.heartbeat.ticker.isSome) :
    { c with heartbeat := heartbeat }.Coherent :=
  ⟨shape_iff ((h.shape c.state).2 rfl), h.cell, hticker.trans h.ticker,
    fun h' => h.ticker ▸ hwatchdog h', h.credential, h.loggedOut⟩

/-- A connection stays coherent whether or not the room is to be joined again. -/
lemma Coherent.setRejoins (h : c.Coherent) (rejoins : Bool) :
    { c with rejoins := rejoins }.Coherent :=
  ⟨shape_iff ((h.shape c.state).2 rfl), h.cell, h.ticker, h.watchdog, h.credential, h.loggedOut⟩

/-- A connection stays coherent when its attempt goes on to another stage. -/
lemma Coherent.setStage (h : c.Coherent) (hattempt : c.attempt.isSome) (stage : Stage) :
    { c with attempt := some stage }.Coherent := by
  obtain ⟨hstate, hlink, hretry⟩ := h.of_attempt hattempt
  refine ⟨shape_iff ?_, h.cell, h.ticker, h.watchdog, h.credential, h.loggedOut⟩
  show ({ c with attempt := some stage } : Connection).Shape c.state
  rw [hstate]
  exact ⟨rfl, hlink, hretry⟩

/-- A connection stays coherent when the user is no longer logged out. -/
lemma Coherent.logIn (h : c.Coherent) : { c with loggedOut := false }.Coherent :=
  ⟨shape_iff ((h.shape c.state).2 rfl), h.cell, h.ticker, h.watchdog, h.credential,
    fun h' => by cases h'⟩

end Connection

/-! ### Turns -/

namespace Turn

variable {σ : Type} {t : Turn σ}

/-- What comes over the link keeps the connection coherent. -/
lemma coherent_receive (h : t.session.connection.Coherent) (m : Moment) (text : String) :
    (t.receive m text).session.connection.Coherent := by
  unfold receive
  split
  · exact h
  · split
    · exact h.beat rfl (fun hpong => by cases hpong)
    · exact h

/-- The loss of the link keeps the connection coherent. -/
lemma coherent_lose (h : t.session.connection.Coherent) (hlink : t.session.link.isSome)
    (m : Moment) : (t.lose m).session.connection.Coherent := by
  obtain ⟨due, hlose⟩ := connection_lose m t
  rw [hlose]
  exact h.lose hlink due

/-- A ping keeps the connection coherent. -/
lemma coherent_ping (h : t.session.connection.Coherent) (hlink : t.session.link.isSome)
    (m : Moment) : (t.ping m).session.connection.Coherent := by
  obtain ⟨link, hsome⟩ := Option.isSome_iff_exists.1 hlink
  unfold ping
  rw [hsome]
  dsimp only
  split
  · next outbox _ =>
    have harmed : (t.session.heartbeat.arm m.clock).ticker.isSome =
        t.session.connection.heartbeat.ticker.isSome := rfl
    apply h.beat harmed
    intro
    rw [h.ticker]
    exact hlink
  · next outbox _ => exact coherent_lose (t := { t with outbox := outbox }) h hlink m

/-- The heartbeat keeps the connection coherent.

**Proof sketch.** Something is due only while the heartbeat is running, and then there is a link. -/
lemma coherent_beat (h : t.session.connection.Coherent) (m : Moment) :
    (t.beat m).session.connection.Coherent := by
  have hpoll := Heartbeat.isSome_poll m.pingFirst m.clock t.session.heartbeat
  have hticker : t.session.heartbeat.ticker.isSome = t.session.link.isSome := h.ticker
  unfold beat
  obtain ⟨event, heartbeat, heq⟩ : ∃ event heartbeat,
    t.session.heartbeat.poll m.pingFirst m.clock = (event, heartbeat) := ⟨_, _, rfl⟩
  rw [heq] at hpoll ⊢
  obtain ⟨hevent, hticking, hwatching⟩ := hpoll
  have hbeat := h.beat hticking (fun hdog => by
    show t.session.heartbeat.ticker.isSome
    rw [hticker]
    exact h.watchdog (hwatching hdog))
  cases event with
  | none => exact hbeat
  | some event =>
    have hlink : t.session.link.isSome := hticker ▸ hevent rfl
    cases event with
    | ping => exact coherent_ping (t := { t with
        session := { t.session with heartbeat := heartbeat } }) hbeat hlink m
    | timeout => exact coherent_lose (t := { t with
        session := { t.session with heartbeat := heartbeat } }) hbeat hlink m

variable [Storage σ]

/-- To send an envelope keeps the connection coherent. -/
lemma coherent_route (h : t.session.connection.Coherent) (m : Moment) (e : Envelope) :
    (t.route m e).session.connection.Coherent := by
  obtain ⟨due, hroute⟩ := connection_route m e t
  rw [hroute]
  split
  · next hlost => exact h.lose hlost.1 due
  · exact h

/-- To join the room again keeps the connection coherent. -/
lemma coherent_rejoin (h : t.session.connection.Coherent) (m : Moment) :
    (t.rejoin m).session.connection.Coherent := by
  rw [rejoin_eq]
  have hdone := h.setRejoins false
  rcases rejoining_cases m t.session with hnone | ⟨e, hone⟩
  · rw [hnone]
    exact hdone
  · rw [hone]
    exact coherent_route hdone m e

/-- To write all that waits keeps the connection coherent. -/
lemma coherent_flush (h : t.session.connection.Coherent) (hlink : t.session.link.isSome)
    (m : Moment) : (t.flush m).2.session.connection.Coherent := by
  obtain ⟨due, hflush⟩ := connection_flush m hlink
  rw [hflush]
  split
  · exact h
  · exact h.lose hlink due

/-- An attempt that opens a link keeps the connection coherent. -/
lemma coherent_succeed (h : t.session.connection.Coherent) (hattempt : t.session.attempt.isSome)
    (m : Moment) (credential : String) :
    (t.succeed m credential).session.connection.Coherent := by
  have hwelcome : (t.welcome m credential).session.connection.Coherent := by
    rw [connection_welcome]
    exact h.welcome hattempt m.clock credential
  have hlink : (t.welcome m credential).session.link.isSome := by
    have := congrArg Connection.link (connection_welcome m credential t)
    exact Option.isSome_iff_exists.2 ⟨_, this⟩
  exact succeed_invariant (P := fun t => t.session.connection.Coherent) m
    (fun h => coherent_flush h hlink m) (fun _ h => coherent_rejoin h m) hwelcome

/-- An attempt that fails keeps the connection coherent. -/
lemma coherent_fail (h : t.session.connection.Coherent) (hattempt : t.session.attempt.isSome)
    (m : Moment) (e : Error) : (t.fail m e).session.connection.Coherent := by
  obtain ⟨due, hfail⟩ := connection_fail m e t
  rw [hfail]
  exact h.fail hattempt due

/-- The answer of the provider keeps the connection coherent. -/
lemma coherent_acquire (h : t.session.connection.Coherent) (hattempt : t.session.attempt.isSome)
    (m : Moment) (answer : Credential.Answer) (other : Option String) :
    (t.acquire m answer other).session.connection.Coherent := by
  have hdial : ∀ credential, (t.dial m credential).session.connection.Coherent := fun credential =>
    h.setStage hattempt (t.dialing m credential)
  unfold acquire
  split
  · exact hdial _
  · exact hdial _
  · exact hdial _
  · exact coherent_fail h hattempt m _
  · exact coherent_fail h hattempt m _

/-- A new attempt with a credential makes a bare connection coherent. -/
lemma coherent_connectAnew (h : { t.session.connection with retryAt := none }.Bare)
    (hlogged : t.session.loggedOut = false) (m : Moment) (credential : String) (caller : Nat) :
    (t.connectAnew m credential caller).session.connection.Coherent := by
  unfold connectAnew
  rw [connection_beginWith]
  exact h.begin hlogged _

/-- To connect keeps the connection coherent.

**Proof sketch.** By what there is. An attempt is joined, and nothing but the mark of the logout
changes. A link with the same credential is what was asked for. Any other link is dropped, and an
attempt begun in its place; without a link the attempt is begun at once. -/
lemma coherent_connect (h : t.session.connection.Coherent) (m : Moment) (credential : String)
    (caller : Nat) : (t.connect m credential caller).session.connection.Coherent := by
  have hlogIn := h.logIn
  unfold connect
  dsimp only
  split
  · exact hlogIn
  · next hattempt =>
    have hattempt : t.session.attempt = none := by simpa using hattempt
    split
    · split
      · exact hlogIn
      · apply coherent_connectAnew _ _
        · rw [connection_dropLink]
          exact ⟨rfl, rfl, hattempt, rfl, rfl, rfl, h.cell⟩
        · exact congrArg Connection.loggedOut (connection_dropLink _)
    · next hlink =>
      have hbare := hlogIn.bare (Option.not_isSome_iff_eq_none.1 hlink)
      apply coherent_connectAnew _ rfl
      exact ⟨hbare.link, hbare.credential, hattempt, rfl, hbare.ticker, hbare.watchdog, h.cell⟩

/-- To connect anew keeps the connection coherent. -/
lemma coherent_reconnect (h : t.session.connection.Coherent) (m : Moment) (caller : Nat) :
    (t.reconnect m caller).session.connection.Coherent := by
  unfold reconnect
  split
  · exact h
  · next hnone =>
    obtain ⟨hattempt, hlink⟩ := not_or.1 hnone
    have hbare := h.logIn.bare (Option.not_isSome_iff_eq_none.1 hlink)
    have hattempt : t.session.attempt = none := by simpa using hattempt
    dsimp only
    rw [connection_beginFresh]
    apply Connection.Bare.begin _ rfl
    exact ⟨hbare.link, hbare.credential, hattempt, rfl, hbare.ticker, hbare.watchdog, h.cell⟩

/-- Not to wait any more for the next attempt keeps the connection coherent. -/
lemma coherent_retryNow (h : t.session.connection.Coherent) (hretry : t.session.retryAt.isSome)
    (m : Moment) : (t.cancelRetry.beginFresh m none).session.connection.Coherent := by
  rw [connection_beginFresh, connection_cancelRetry]
  exact h.restart hretry _

/-- To wake up keeps the connection coherent. -/
lemma coherent_wake (h : t.session.connection.Coherent) (m : Moment) :
    (t.wake m).session.connection.Coherent := by
  unfold wake
  split
  · next hdue =>
    have hshape := (h.shape .reconnecting).2 hdue.2.1.symm
    exact coherent_retryNow h hshape.1 m
  · exact h

/-- To log out makes the connection coherent. -/
lemma coherent_disconnect (h : t.session.connection.Coherent) (m : Moment) (caller : Nat) :
    (t.disconnect m caller).session.connection.Coherent := by
  rw [connection_disconnect]
  apply Connection.Bare.publish
  exact Connection.bare_drop rfl rfl h.cell

/-- What a user asks for keeps the connection coherent.

**Proof sketch.** One lemma for each command that touches the connection; the others leave it
alone. -/
lemma coherent_obey (h : t.session.connection.Coherent) (m : Moment) (c : Command) :
    (t.obey m c).session.connection.Coherent := by
  cases c with
  | connect credential caller => exact coherent_connect h m credential caller
  | reconnect caller => exact coherent_reconnect h m caller
  | disconnect caller => exact coherent_disconnect h m caller
  | send e => exact coherent_route h m e
  | join r => exact coherent_route (t := t.rememberRoom (some r)) h m _
  | leave r =>
    have hroom : (if t.session.room = some r then t.rememberRoom none
        else t).session.connection.Coherent := by
      split <;> exact h
    exact coherent_route hroom m _
  | wake reason => exact coherent_wake h m
  | watch id watcher => exact h
  | unwatch id => exact h
  | count caller => exact h

end Turn

/-! ### Events -/

variable {σ : Type} [Storage σ]

/-- **No event leaves the connection incoherent.** Every event keeps the connection coherent.

**Proof sketch.** One lemma for each event, under what the event finds: an attempt that is under way
for those that end one, a link for those that come from the server. Where it does not find that,
nothing is done. -/
lemma coherent_step {s : Session} (h : s.connection.Coherent) (m : Moment) (event : Event)
    (store : σ) : (step m event s store).session.connection.Coherent := by
  have ht : (s.turn store).session.connection.Coherent := h
  unfold step react
  cases event with
  | command c => exact Turn.coherent_obey ht m c
  | listen kind listener => exact ht
  | unlisten kind id => exact ht
  | acquired answer =>
    dsimp only
    split
    · next other hattempt => exact Turn.coherent_acquire ht (by simp [hattempt]) m answer other
    · exact ht
  | opened =>
    dsimp only
    split
    · next credential deadline hattempt =>
      exact Turn.coherent_succeed ht (by simp [hattempt]) m credential
    · exact ht
  | failed e =>
    dsimp only
    split
    · next hattempt => exact Turn.coherent_fail ht (by simp [hattempt]) m e
    · exact ht
  | expired =>
    dsimp only
    split
    · next hattempt =>
      exact Turn.coherent_fail (t := (s.turn store).emit .abandoned) ht
        (by simp [Turn.emit, hattempt]) m _
    · exact ht
  | received text =>
    dsimp only
    split
    · exact Turn.coherent_receive ht m text
    · exact ht
  | ended =>
    dsimp only
    split
    · next hlink => exact Turn.coherent_lose ht hlink m
    · exact ht
  | beat => exact Turn.coherent_beat ht m
  | retryDue =>
    dsimp only
    split
    · next hretry => exact Turn.coherent_retryNow ht hretry m
    · exact ht

/-- A new session is coherent: it is disconnected. -/
lemma coherent_start (now : Timestamp) (settings : Settings) (target : Settings.Target)
    (store : σ) : (start now settings target store).1.connection.Coherent :=
  ⟨Connection.shape_iff ⟨rfl, rfl, rfl⟩, rfl, rfl, (by intro h; cases h), rfl, by intro h; cases h⟩

/-- **The published state says what there is.** After every run the connection is coherent, whatever
has happened in it and in whatever order, and whatever the link has refused.

**Proof sketch.** The session begins with nothing and is disconnected, and every event keeps its
connection coherent (`coherent_step`). -/
theorem coherent_run (now : Timestamp) (settings : Settings) (target : Settings.Target) (store : σ)
    (events : List (Moment × Event)) :
    (run events (start now settings target store).1
      (start now settings target store).2).1.connection.Coherent :=
  run_invariant (P := fun s _ => s.connection.Coherent)
    (fun m event _ store _ h => coherent_step h m event store)
    (coherent_start now settings target store)

end Session

end Messenger
