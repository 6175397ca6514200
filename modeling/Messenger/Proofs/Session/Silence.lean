import Messenger.Proofs.Session.Effects
import Messenger.Proofs.Session.Enrolled
import Messenger.Proofs.Session.Kept
import Messenger.Proofs.Session.Orderly

set_option relaxedAutoImplicit false
set_option autoImplicit false

/-!
# Silence after logging out

When the user has logged out nothing happens on its own any more: whatever the session was doing is
given up, and what comes later finds nothing to concern. Until the user asks for a connection again
the world outside gets direct answers only, and all that is sent waits in storage. Those who
listened before are never reached again.

## Main definitions

* `Messenger.Session.farewell`: all that is done to the world outside when the user logs out.
* `Messenger.Session.Silent`: the user has logged out, and nothing is left of the connection.
* `Messenger.Session.murmur`: all that an event does to the world outside in a silent session.

## Main results

* `Messenger.Session.silent_step`: a silent session stays silent until the user asks for a
  connection.
* `Messenger.Session.silence`: what a run does after the user has logged out.
-/

namespace Messenger

namespace Session

/-! ### Logging out -/

/-- All that is done to the world outside when the user logs out: the attempt is given up, those who
wait for it are told so, the link is closed, those who watch are told the state if it is another one
than before, and the caller gets an answer. -/
def farewell (s : Session) (caller : Nat) : List Effect :=
  (if s.attempt.isSome then [.abandoned] else []) ++
    s.waiters.map (.replied · (.error .disconnected)) ++ s.link.toList.map .closed ++
    (if s.publisher.current = .disconnected then []
      else s.publisher.watchers.map fun w => .told w.2 .disconnected) ++
    [.replied caller (.ok ())]

namespace Turn

variable {σ : Type} [Storage σ]

/-- What logging out does to the world outside.

**Proof sketch.** Part by part: giving up the attempt and the link say what the farewell begins
with, the change of state what watchers are told, and the answer to the caller comes last. -/
lemma effects_disconnect (m : Moment) (caller : Nat) (t : Turn σ) :
    (t.disconnect m caller).outbox.effects = t.outbox.effects ++ t.session.farewell caller := by
  have htorn := effects_tearDown
    { t with session := { t.session with loggedOut := true, rejoins := false } }
  have hwatched := publisher_tearDown
    { t with session := { t.session with loggedOut := true, rejoins := false } }
  unfold disconnect
  dsimp only [reply]
  rw [Outbox.effects_reply, effects_publish]
  dsimp only [hide, spill, rememberRoom]
  rw [htorn, hwatched, farewell]
  simp only [List.append_assoc]
  rfl

end Turn

/-! ### Silent sessions -/

/-- The user has logged out, and nothing is left of the connection: there is neither link nor
attempt nor the time of the next one, no heartbeat, and nobody who waits. -/
structure Silent (s : Session) : Prop where
  bare : s.connection.Bare
  state : s.publisher.current = .disconnected
  loggedOut : s.loggedOut = true
  waiters : s.waiters = []

/-- The user asks for a connection by an event. -/
def Event.LogsIn (event : Event) : Prop :=
  event.asker?.isSome

/-- All that an event does to the world outside in a silent session: callers and those who begin to
watch get a direct answer. -/
def murmur (s : Session) : Event → List Effect
  | .command (.disconnect caller) => [.replied caller (.ok ())]
  | .command (.count caller) =>
    [.counted caller s.pending.items.length s.offline.items.length]
  | .command (.watch _ watcher) => [.told watcher .disconnected]
  | _ => []

namespace Silent

variable {s s' : Session}

/-- A silent session stays silent while nothing is done to its connection. -/
lemma congr (h : s.Silent) (hconnection : s'.connection = s.connection)
    (hwaiters : s'.waiters = s.waiters) : s'.Silent :=
  ⟨hconnection ▸ h.bare, (congrArg Connection.state hconnection).trans h.state,
    (congrArg Connection.loggedOut hconnection).trans h.loggedOut, hwaiters.trans h.waiters⟩

/-- Nothing is left to do to a silent session by logging out again. -/
lemma farewell (h : s.Silent) (caller : Nat) :
    s.farewell caller = [.replied caller (.ok ())] := by
  have hattempt : s.attempt = none := h.bare.attempt
  have hlink : s.link = none := h.bare.link
  simp [Session.farewell, hattempt, hlink, h.waiters, h.state]

end Silent

namespace Turn

variable {σ : Type} [Storage σ]

/-- What is sent in a silent session waits in storage. -/
lemma route_of_silent {t : Turn σ} (h : t.session.Silent) (m : Moment) (e : Envelope) :
    t.route m e = t.keep m e := by
  have hlink : t.session.link = none := h.bare.link
  have hattempt : t.session.attempt = none := h.bare.attempt
  simp [route, hlink, hattempt]

/-- Nobody listens any more after the user has logged out. -/
lemma registry_disconnect (m : Moment) (caller : Nat) (t : Turn σ) :
    (t.disconnect m caller).session.registry = t.session.registry.clear := by
  show (t.disconnect m caller).report.registry = _
  rw [report_disconnect]
  rfl

/-- After the user has logged out the session is silent. -/
lemma silent_disconnect {t : Turn σ}
    (hcell : t.session.connection.cell = t.session.connection.state) (m : Moment) (caller : Nat) :
    (t.disconnect m caller).session.Silent := by
  have hconnection := connection_disconnect m caller t
  have hreport := report_disconnect m caller t
  refine ⟨?_, congrArg Connection.state hconnection, congrArg Connection.loggedOut hconnection,
    congrArg (·.waiters) hreport⟩
  rw [hconnection]
  refine ⟨rfl, rfl, rfl, rfl, rfl, rfl, ?_⟩
  refine Connection.cell_publish ?_ .disconnected
  exact hcell

end Turn

variable {σ : Type} [Storage σ]

/-- **A silent session only answers.** A silent session stays silent as long as the user does not
ask for a connection, and does nothing but to answer.

**Proof sketch.** Whatever an event could concern is not there: an attempt, a link, the time of the
next attempt, or a heartbeat. What is sent goes to storage. -/
theorem silent_step {s : Session} (h : s.Silent) (m : Moment) {event : Event}
    (hevent : ¬ event.LogsIn) (store : σ) :
    (step m event s store).session.Silent ∧ (step m event s store).session.opened = s.opened ∧
      (step m event s store).outbox.effects = s.murmur event := by
  have hattempt : s.attempt = none := h.bare.attempt
  have hlink : s.link = none := h.bare.link
  have hretry : s.retryAt = none := h.bare.retryAt
  have hticker : s.heartbeat.ticker = none := h.bare.ticker
  -- The event may find nothing to concern.
  have hpasses : ∀ {t : Turn σ}, t = s.turn store → t.session.Silent ∧
      t.session.opened = s.opened ∧ t.outbox.effects = [] := by
    rintro t rfl
    exact ⟨h, rfl, rfl⟩
  -- Or it sends an envelope, which goes to storage.
  have hroutes : ∀ {t : Turn σ} {e : Envelope}, t.session.connection = s.connection →
      t.session.waiters = s.waiters → t.outbox.effects = [] →
      (t.route m e).session.Silent ∧ (t.route m e).session.opened = s.opened ∧
        (t.route m e).outbox.effects = [] := by
    intro t e hconnection hwaiters heffects
    rw [Turn.route_of_silent (h.congr hconnection hwaiters)]
    exact ⟨h.congr hconnection hwaiters, congrArg Connection.opened hconnection, heffects⟩
  cases event with
  | command c =>
    cases c with
    | connect credential caller => exact absurd rfl hevent
    | reconnect caller => exact absurd rfl hevent
    | disconnect caller =>
      refine ⟨Turn.silent_disconnect (t := s.turn store) h.bare.cell m caller, ?_, ?_⟩
      · exact congrArg Connection.opened (Turn.connection_disconnect m caller (s.turn store))
      · exact (Turn.effects_disconnect m caller (s.turn store)).trans (h.farewell caller)
    | send e => exact hroutes rfl rfl rfl
    | join r => exact hroutes (t := (s.turn store).rememberRoom (some r)) rfl rfl rfl
    | leave r =>
      unfold step react Turn.obey Turn.leave
      dsimp only
      split
      · exact hroutes (t := (s.turn store).rememberRoom none) rfl rfl rfl
      · exact hroutes rfl rfl rfl
    | wake reason =>
      refine hpasses ?_
      simp [step, react, Turn.obey, Turn.wake, Session.turn, h.loggedOut]
    | watch id watcher =>
      refine ⟨h.congr rfl rfl, rfl, ?_⟩
      exact congrArg (fun state => [Effect.told watcher state]) h.state
    | unwatch id => exact ⟨h.congr rfl rfl, rfl, rfl⟩
    | count caller => exact ⟨h.congr rfl rfl, rfl, rfl⟩
  | listen kind listener => exact ⟨h.congr rfl rfl, rfl, rfl⟩
  | unlisten kind id => exact ⟨h.congr rfl rfl, rfl, rfl⟩
  | acquired answer =>
    refine hpasses ?_
    simp [step, react, Session.turn, hattempt]
  | opened =>
    refine hpasses ?_
    simp [step, react, Session.turn, hattempt]
  | failed e =>
    refine hpasses ?_
    simp [step, react, Session.turn, hattempt]
  | expired =>
    refine hpasses ?_
    simp [step, react, Session.turn, hattempt]
  | received text =>
    refine hpasses ?_
    simp [step, react, Session.turn, hlink]
  | ended =>
    refine hpasses ?_
    simp [step, react, Session.turn, hlink]
  | beat =>
    refine hpasses ?_
    simp [step, react, Turn.beat, Heartbeat.poll, Session.turn, hticker]
  | retryDue =>
    refine hpasses ?_
    simp [step, react, Session.turn, hretry]

/-- As long as the user does not ask for a connection a silent session stays silent, and does
nothing but to answer.

**Proof sketch.** What each event keeps along the trace (`silent_step`), cut off at the end of the
window. -/
lemma silent_trace {s : Session} (h : s.Silent) {events : List (Moment × Event)} {store : σ}
    {window after : List (Record σ)} (htrace : trace events s store = window ++ after)
    (hwindow : ∀ w ∈ window, ¬ w.event.LogsIn) :
    ∀ w ∈ window, w.turn.session.Silent ∧ w.turn.session.opened = s.opened ∧
      w.turn.outbox.effects = w.session.murmur w.event := by
  induction window generalizing events s store with
  | nil => simp
  | cons x window ih =>
    have htrace : trace events s store = x :: (window ++ after) := htrace
    obtain ⟨rfl, -, rest, hrest⟩ := trace_eq_cons htrace
    obtain ⟨hx, hothers⟩ := List.forall_mem_cons.1 hwindow
    have hnow := silent_step h x.moment hx x.store
    have hlater := ih hnow.1 hrest.symm hothers
    refine List.forall_mem_cons.2 ⟨hnow, fun w hw => ?_⟩
    obtain ⟨hsilent, hopened, heffects⟩ := hlater w hw
    exact ⟨hsilent, hopened.trans hnow.2.1, heffects⟩

/-! ### What waits -/

section Reliable

variable {queueKey roomKey : String} {sound : σ → Prop}
  (hr : Storage.Reliable [queueKey, roomKey] sound) (hne : queueKey ≠ roomKey)

include hr hne

/-- What can be done in a silent session to what waits: envelopes that are sent go to the back of
the queue in storage.

**Proof sketch.** One case for each thing that can be done. Without an attempt and a link only three
are left: to rest, to send, which pushes to the back of storage whatever becomes of the room, and to
log out again, with nothing in memory. -/
lemma Deed.contents_of_silent {m : Moment} {t t' : Turn σ} {routed : List Envelope}
    {sent : List (Nat × Envelope)} (hdeed : Deed m t routed sent t') (h : t.session.Silent)
    (hafter : t'.session.Silent) (hkept : Kept queueKey roomKey sound t.session t.store)
    (hpending : t.session.pending.items = []) :
    t'.session.offline.contents m.stamp t'.store =
      t.session.offline.contents m.stamp t.store ++ routed := by
  have hattempt : t.session.attempt = none := h.bare.attempt
  have hattempt' : t'.session.attempt = none := hafter.bare.attempt
  cases hdeed with
  | rests unsent still => rw [still.offline, still.store, List.append_nil]
  | begins unsent still before attempt => simp [hattempt'] at attempt
  | @sends t₁ e room =>
    have hroom : t₁.session.offline.contents m.stamp t₁.store =
        t.session.offline.contents m.stamp t.store := by
      rcases room with rfl | rfl | ⟨r, -, rfl⟩
      · rfl
      · exact Turn.contents_rememberRoom hr hne hkept none m.stamp
      · exact Turn.contents_rememberRoom hr hne hkept (some r) m.stamp
    have hsilent : t₁.session.Silent := by
      rcases room with rfl | rfl | ⟨r, -, rfl⟩ <;> exact h.congr rfl rfl
    rw [Turn.route_of_silent hsilent, ← hroom]
    exact Queue.Offline.contents_push m.stamp m.stamp e t₁.session.offline t₁.store
  | fails unsent still before => simp [hattempt] at before
  | logsOut unsent still =>
    rw [still.offline, still.store, Turn.contents_logOut hr hne hkept m, hpending]
  | opens credential dialing => simpa [hattempt] using dialing.isSome

/-- What is sent in a silent session goes to the back of the queue in storage. -/
lemma contents_silent {s : Session} {store : σ} (h : s.Silent)
    (hkept : Kept queueKey roomKey sound s store) (ho : s.Orderly) {m : Moment} {event : Event}
    (hevent : ¬ event.LogsIn) (hm : m.stamp.Valid) (hes : ∀ e ∈ event.ordered m, e.Faithful 125)
    (now : Timestamp) :
    (step m event s store).session.offline.contents now (step m event s store).store =
      s.offline.contents now store ++ event.ordered m := by
  have hattempt : s.attempt = none := h.bare.attempt
  have hafter := (silent_step h m hevent store).1
  have hafterKept := kept_step hr hne hkept ho.coherent hm hes
  have hrouted : (Record.mk m event s store).routed = event.ordered m := by
    have hidle : ¬ s.Dialing := by
      intro hdialing
      simpa [hattempt] using hdialing.isSome
    cases event with
    | opened => exact if_neg hidle
    | _ => rfl
  rw [hafterKept.queue.contents_eq now m.stamp, hkept.queue.contents_eq now m.stamp, ← hrouted]
  exact (deed_step ho.coherent m event store).contents_of_silent hr hne h hafter hkept
    (ho.idle hattempt)

/-- What is sent in a silent session, event by event, goes to the back of the queue in storage.

**Proof sketch.** Induction on the part of the window before the event. The first event puts behind
what waits what it sends (`contents_silent`), and leaves a session as silent as before. -/
lemma contents_trace {s : Session} (h : s.Silent) {events : List (Moment × Event)} {store : σ}
    (hkept : Kept queueKey roomKey sound s store) (ho : s.Orderly) {window after : List (Record σ)}
    (htrace : trace events s store = window ++ after) (hwindow : ∀ w ∈ window, ¬ w.event.LogsIn)
    (hes : ∀ w ∈ window, w.moment.stamp.Valid ∧ ∀ e ∈ w.event.ordered w.moment, e.Faithful 125)
    {pre post : List (Record σ)} {w : Record σ} (hw : window = pre ++ w :: post)
    (now : Timestamp) :
    w.turn.session.offline.contents now w.turn.store =
      s.offline.contents now store ++
        (pre ++ [w]).flatMap fun x => x.event.ordered x.moment := by
  induction pre generalizing events s store window with
  | nil =>
    subst hw
    obtain ⟨rfl, rfl, -⟩ := trace_eq_cons htrace
    obtain ⟨hm, hes⟩ := hes w (by simp)
    rw [List.nil_append, List.flatMap_singleton]
    exact contents_silent hr hne h hkept ho (hwindow w (by simp)) hm hes now
  | cons x pre ih =>
    subst hw
    have htrace : trace events s store = x :: ((pre ++ w :: post) ++ after) := htrace
    obtain ⟨rfl, rfl, rest, hrest⟩ := trace_eq_cons htrace
    obtain ⟨hx, hothers⟩ := List.forall_mem_cons.1 hwindow
    obtain ⟨⟨hm, hes⟩, hrestful⟩ := List.forall_mem_cons.1 hes
    have hlater := ih (silent_step h x.moment hx x.store).1
      (kept_step hr hne hkept ho.coherent hm hes) (orderly_step ho x.moment x.event x.store)
      hrest.symm hothers hrestful rfl
    rw [hlater, contents_silent hr hne h hkept ho hx hm hes, List.cons_append, List.flatMap_cons,
      List.append_assoc]

/-- When the user logs out, what waits in memory goes to the back of the queue in storage. -/
lemma contents_disconnect {s : Session} {store : σ} (hkept : Kept queueKey roomKey sound s store)
    {m : Moment} (hm : m.stamp.Valid) (ho : s.Orderly) (caller : Nat) (now : Timestamp) :
    (step m (.command (.disconnect caller)) s store).session.offline.contents now
        (step m (.command (.disconnect caller)) s store).store =
      s.offline.contents now store ++ s.pending.items := by
  have hafter : Kept queueKey roomKey sound
      (step m (.command (.disconnect caller)) s store).session
      (step m (.command (.disconnect caller)) s store).store := by
    apply kept_step hr hne hkept ho.coherent hm
    intro e he
    cases he
  have hquiet := Turn.quiet_disconnect m caller (s.turn store)
  rw [hafter.queue.contents_eq now m.stamp, hkept.queue.contents_eq now m.stamp]
  exact (congrArg₂ (fun (q : Queue.Offline) x => q.contents m.stamp x) hquiet.offline
    hquiet.store).trans (Turn.contents_logOut hr hne (t := s.turn store) hkept m)

end Reliable

/-! ### Runs -/

section Run

variable {settings : Settings} {target : Settings.Target} {began : Timestamp} {stored store : σ}
  {s : Session} {events : List (Moment × Event)}
  (hstart : start began settings target stored = (s, store))
  {before window after : List (Record σ)} {r : Record σ} {caller : Nat}
  (htrace : trace events s store = before ++ r :: (window ++ after))
  (hlogout : r.event = .command (.disconnect caller))
  (hwindow : ∀ w ∈ window, ¬ w.event.LogsIn)

include hstart htrace hlogout hwindow

omit hwindow in
/-- What the session is like when the user logs out, and after that.

**Proof sketch.** The event is the logout itself, on a session that is in order as every run leaves
it. What it does to the connection and to the world outside is `connection_disconnect` and
`effects_disconnect`. -/
lemma silent_of_disconnect :
    r.session.Orderly ∧ r.turn.session.Silent ∧ r.turn.session.opened = r.session.opened ∧
      r.turn.outbox.effects = r.session.farewell caller ∧ r.turn.session.registry.table = [] := by
  have horderly : r.session.Orderly := by
    obtain ⟨pre, -, -, hs, -⟩ := trace_eq_append htrace
    rw [hs]
    exact orderly_run (orderly_start hstart) pre store
  have hturn : r.turn = ((r.session.turn r.store).disconnect r.moment caller) := by
    rw [Record.turn, hlogout]
    rfl
  rw [hturn]
  refine ⟨horderly, Turn.silent_disconnect (t := r.session.turn r.store) horderly.coherent.cell _ _,
    ?_, ?_, ?_⟩
  · exact congrArg Connection.opened
      (Turn.connection_disconnect r.moment caller (r.session.turn r.store))
  · exact (Turn.effects_disconnect r.moment caller (r.session.turn r.store)).trans
      (List.nil_append _)
  · rw [Turn.registry_disconnect]
    rfl

/-- From the moment at which the user logs out all that waits is in storage, and all that is sent is
put behind it.

**Proof sketch.** When the user logs out what is in memory moves behind what is in storage
(`contents_disconnect`), and from then on what is sent comes behind that (`contents_trace`). -/
lemma contents_window (hsettings : settings.target = .ok target) {sound : σ → Prop}
    {initial : List Envelope}
    (hreliable : Storage.Reliable [settings.storage.queueKey, settings.storage.roomKey] sound)
    (hsound : sound stored)
    (hstored : ∀ now, (Queue.Offline.readItems now settings.storage.queueKey stored).1 = initial)
    (hinitial : ∀ e ∈ initial, e.Faithful 125)
    (hevents : ∀ x ∈ events, x.1.stamp.Valid ∧ ∀ e ∈ x.2.ordered x.1, e.Faithful 125)
    {pre post : List (Record σ)} {w : Record σ} (hw : r :: window = pre ++ w :: post)
    (now : Timestamp) :
    w.turn.session.offline.contents now w.turn.store =
      r.session.offline.contents now r.store ++ r.session.pending.items ++
        (pre ++ [w]).flatMap fun x => x.event.ordered x.moment := by
  have hne := Settings.queueKey_ne_roomKey hsettings
  obtain ⟨horderly, hsilent, -⟩ := silent_of_disconnect hstart htrace hlogout
  have hfirst := (kept_start hreliable hstart ⟨rfl, rfl⟩ hsound hinitial hstored).1
  have hall := kept_trace hreliable hne hfirst (orderly_start hstart).coherent hevents
  obtain ⟨hkept, hstamp, hes⟩ := hall r (by simp [htrace])
  have hnow : ∀ now, r.turn.session.offline.contents now r.turn.store =
      r.session.offline.contents now r.store ++ r.session.pending.items := by
    rw [Record.turn, hlogout]
    exact contents_disconnect hreliable hne hkept hstamp horderly caller
  obtain ⟨-, rest, -, -, -, hrest, -⟩ := trace_eq_append htrace
  cases pre with
  | nil =>
    obtain ⟨rfl, -⟩ := List.cons.inj hw
    rw [hnow, List.nil_append, List.flatMap_singleton, hlogout]
    exact (List.append_nil _).symm
  | cons x pre =>
    obtain ⟨rfl, hlater⟩ := List.cons.inj hw
    rw [List.cons_append, List.flatMap_cons, hlogout]
    have hafter : Kept settings.storage.queueKey settings.storage.roomKey sound r.turn.session
        r.turn.store :=
      kept_step hreliable hne hkept horderly.coherent hstamp hes
    rw [contents_trace hreliable hne hsilent hafter (orderly_step horderly _ _ _) hrest.symm hwindow
      (fun x hx => (hall x (by simp [htrace, hx])).2) hlater, hnow]
    rfl

end Run

/-- **Silence after logging out.** What a run does once the user has logged out, until the user asks
for a connection again.

Logging out does no more to the world outside than a farewell, which closes the link and writes
nothing. From then on the session is silent, no link is opened, and all that an event does to the
world outside is to give an answer to its caller. Whoever is reached by an envelope later in the
run, also after the user has asked for a connection again, has been registered for its kind since
then, once for each time that the envelope is delivered. If the storage is reliable and all that is
sent can be told, what is sent goes to the back of the queue in storage, behind all that waited when
the user logged out.

**Proof sketch.** Logging out leaves a silent session and nobody registered
(`silent_of_disconnect`). It stays silent and only answers up to the end of the window
(`silent_trace`); nobody is reached who has not registered since (`delivered_trace`); and what is
sent goes to storage (`contents_window`). -/
theorem silence {settings : Settings} {target : Settings.Target} {began : Timestamp}
    {stored store : σ} {s : Session} {events : List (Moment × Event)}
    (hstart : start began settings target stored = (s, store))
    {before window after : List (Record σ)} {r : Record σ} {caller : Nat}
    (htrace : trace events s store = before ++ r :: (window ++ after))
    (hlogout : r.event = .command (.disconnect caller))
    (hwindow : ∀ w ∈ window, ¬ w.event.LogsIn) :
    r.turn.outbox.effects = r.session.farewell caller ∧
      (∀ w ∈ r :: window,
        w.turn.session.Silent ∧ w.turn.session.opened = r.session.opened) ∧
      (∀ w ∈ window, w.turn.outbox.effects = w.session.murmur w.event) ∧
      (∀ (mid later : List (Record σ)) (y : Record σ), window ++ after = mid ++ y :: later →
        ∀ kind, ((y.delivered.filter (·.2.kind = kind)).map (·.1)).Sublist (enrolled kind mid)) ∧
      ∀ (sound : σ → Prop) (initial : List Envelope), settings.target = .ok target →
        Storage.Reliable [settings.storage.queueKey, settings.storage.roomKey] sound →
        sound stored →
        (∀ now, (Queue.Offline.readItems now settings.storage.queueKey stored).1 = initial) →
        (∀ e ∈ initial, e.Faithful 125) →
        (∀ x ∈ events, x.1.stamp.Valid ∧ ∀ e ∈ x.2.ordered x.1, e.Faithful 125) →
        ∀ (pre post : List (Record σ)) (w : Record σ), r :: window = pre ++ w :: post → ∀ now,
          w.turn.session.offline.contents now w.turn.store =
            r.session.offline.contents now r.store ++ r.session.pending.items ++
              (pre ++ [w]).flatMap fun x => x.event.ordered x.moment := by
  obtain ⟨horderly, hsilent, hopened, heffects, hnobody⟩ :=
    silent_of_disconnect hstart htrace hlogout
  obtain ⟨-, rest, -, -, -, hrest, -⟩ := trace_eq_append htrace
  have hlater := silent_trace hsilent hrest.symm hwindow
  refine ⟨heffects, ?_, ?_, ?_, ?_⟩
  · refine List.forall_mem_cons.2 ⟨⟨hsilent, hopened⟩, fun w hw => ?_⟩
    exact ⟨(hlater w hw).1, (hlater w hw).2.1.trans hopened⟩
  · exact fun w hw => (hlater w hw).2.2
  · intro mid later y hsplit kind
    exact delivered_trace (r.coherent horderly.coherent) hnobody (hrest.symm.trans hsplit) kind
  · intro sound initial hsettings hreliable hsound hstored hinitial hevents pre post w hw now
    exact contents_window hstart htrace hlogout hwindow hsettings hreliable hsound hstored hinitial
      hevents hw now

/-- After the user has logged out, a note is sent, and the time of a next attempt that is not due
comes. -/
def Sample.afterwards : List (Moment × Event) :=
  Sample.events ++ [(taking 1, .command (.send (Sample.note 4))), (taking 1, .retryDue)]

/-- All that is sent in the run can be told. -/
lemma Sample.faithful_afterwards :
    ∀ x ∈ afterwards, x.1.stamp.Valid ∧ ∀ e ∈ x.2.ordered x.1, e.Faithful 125 := by
  refine List.forall_mem_append.2 ⟨faithful_events, ?_⟩
  have hnote : (Sample.note 4).Faithful 125 := Sample.faithful_note (by decide) 125
  have hstamp : (taking 1).stamp.Valid := Sample.valid_epoch
  simp [Event.ordered, Command.envelope?, hstamp, hnote]

/-- The note waits behind all that waited before.

**Proof sketch.** The run is computed up to the two events after the logout, neither of which asks
for a connection. -/
theorem silence_note :
    ∃ s store before r w w',
      start Sample.epoch Sample.settings Sample.target Sample.storage = (s, store) ∧
        trace Sample.afterwards s store = before ++ r :: ([w, w'] ++ []) ∧
        r.event = .command (.disconnect 0) ∧ (∀ x ∈ [w, w'], ¬ x.event.LogsIn) ∧
        w.turn.outbox.effects = [] ∧
        ∀ now, w'.turn.session.offline.contents now w'.turn.store =
          r.session.offline.contents now r.store ++ r.session.pending.items ++
            [Sample.note 4] := by
  obtain ⟨⟨s, store⟩, hstart⟩ :
    ∃ first, start Sample.epoch Sample.settings Sample.target Sample.storage = first := ⟨_, rfl⟩
  obtain ⟨before, r, w, w', htrace, hr, hw, hw'⟩ : ∃ before r w w',
      trace Sample.afterwards s store = before ++ r :: ([w, w'] ++ []) ∧
        r.event = .command (.disconnect 0) ∧ w.event = .command (.send (Sample.note 4)) ∧
        w'.event = .retryDue :=
    ⟨(trace Sample.afterwards s store).take 4, _, _, _, rfl, rfl, rfl, rfl⟩
  have hwindow : ∀ x ∈ [w, w'], ¬ x.event.LogsIn := by
    simp [hw, hw', Event.LogsIn, Event.asker?]
  obtain ⟨-, -, heffects, -, hcontents⟩ := silence hstart htrace hr hwindow
  refine ⟨s, store, before, r, w, w', hstart, htrace, hr, hwindow, ?_, fun now => ?_⟩
  · rw [heffects w (by simp), hw]
    rfl
  · rw [hcontents _ [Sample.note 1] rfl (Store.reliable_memory _) trivial Sample.readItems_storage
      Sample.faithful_stored Sample.faithful_afterwards [r, w] [] w' rfl now]
    simp [hr, hw, hw', Event.ordered, Command.envelope?]

end Session

end Messenger
