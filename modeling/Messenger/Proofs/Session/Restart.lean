import Messenger.Proofs.Session.Kept
import Messenger.Proofs.Session.Shown

set_option relaxedAutoImplicit false
set_option autoImplicit false

/-!
# Going on after a restart

Over a reliable storage nothing is lost when a session ends, or when it ends without notice. At all
times storage tells what the queue there had in memory when it was shown for the last time, and
which room the user is in. A session that ends adds what waits in memory. A new session on that
storage begins with all of this.

## Main definitions

* `Messenger.Session.lastShown`: what the queue had in memory when it was shown for the last time.

## Main results

* `Messenger.Session.Record.hides`: what that is when the queue is hidden.
* `Messenger.Session.restart_run`: storage tells it, and a new session begins with it.
-/

namespace Messenger.Session

variable {σ : Type} [Storage σ]

/-! ### What was shown -/

/-- What the queue in storage had in memory when it was shown for the last time: what it has there
after the event, if it is shown then. If the event hides the queue, what waited in memory has moved
there before that. If the queue was hidden already, nothing new has been shown. -/
def Record.lastShown (held : List Envelope) (r : Record σ) : List Envelope :=
  if r.turn.session.offline.detached = false then r.turn.session.offline.items
  else if r.session.offline.detached = false then
    r.session.offline.items ++ r.session.pending.items
  else held

/-- What the queue in storage had in memory when it was shown for the last time, in a run at whose
beginning that was `held`. -/
def lastShown (held : List Envelope) (records : List (Record σ)) : List Envelope :=
  records.foldl Record.lastShown held

/-! ### Hidden queues -/

/-- **What is in storage when the queue is hidden.** An event that hides the queue first moves there
what waits in memory.

**Proof sketch.** What can leave a queue hidden either found it so or did what a logout does
(`Deed.of_hidden`), and a logout spills before it hides. -/
theorem Record.hides {r : Record σ} (h : r.session.Orderly)
    (hshown : r.session.offline.detached = false)
    (hhidden : r.turn.session.offline.detached = true) :
    ∃ q : Queue.Offline, q.detached = false ∧
      q.items = r.session.offline.items ++ r.session.pending.items ∧
      r.turn.session.offline = q.detach := by
  rcases (deed_step h.coherent r.moment r.event r.store).of_hidden h rfl hhidden with
    ⟨hstill, -⟩ | hstill
  · have hsame : r.turn.session.offline = r.session.offline := hstill.offline
    simp [hsame, hshown] at hhidden
  · obtain ⟨t, ht⟩ : ∃ t, t = (r.session.turn r.store).rememberRoom none := ⟨_, rfl⟩
    have hspilled : (t.spill r.moment).session.offline.detached = false :=
      Turn.shown_spill (by rw [ht]; exact hshown) r.moment
    refine ⟨(t.spill r.moment).session.offline, hspilled, ?_, ?_⟩
    · rw [← Queue.Offline.contents_of_shown hspilled r.moment.stamp (t.spill r.moment).store,
        Turn.contents_spill, Queue.Offline.contents_of_shown (by rw [ht]; exact hshown), ht]
      rfl
    · rw [ht]
      exact hstill.offline

section Reliable

variable {queueKey roomKey : String} {sound : σ → Prop}
  (hr : Storage.Reliable [queueKey, roomKey] sound) (hne : queueKey ≠ roomKey)

include hr hne

/-! ### What storage tells -/

/-- After every event storage tells what the queue had in memory when it was shown for the last
time.

**Proof sketch.** While the queue is shown, it is what it has in memory that storage tells. If it is
hidden after the event, either nothing has been done to it, or the user has logged out: then what
waited in memory has moved to storage, and there has been nothing if the queue was hidden before. -/
lemma stored_step {s : Session} {store : σ} (h : Kept queueKey roomKey sound s store)
    (ho : s.Orderly) {m : Moment} {event : Event} (hm : m.stamp.Valid)
    (hevent : ∀ e ∈ event.ordered m, e.Faithful 125) {held : List Envelope}
    (hheld : ∀ now, (Queue.Offline.readItems now queueKey store).1 = held) (now : Timestamp) :
    (Queue.Offline.readItems now queueKey (step m event s store).store).1 =
      (Record.mk m event s store).lastShown held := by
  have hnext := kept_step hr hne h ho.coherent hm hevent
  have hcontents : s.offline.contents m.stamp store = held := by
    rw [← h.queue.stored now m.stamp, h.queueKey_eq]
    exact hheld now
  rw [← hnext.queueKey_eq, hnext.queue.stored now m.stamp]
  unfold Record.lastShown Record.turn
  dsimp only
  split
  · next hshown => exact Queue.Offline.contents_of_shown hshown _ _
  · next hhidden =>
    have hhidden : (step m event s store).session.offline.detached = true := by simpa using hhidden
    have hafter : (step m event s store).session.offline.contents m.stamp
        (step m event s store).store = held ++ s.pending.items := by
      rcases (deed_step ho.coherent m event store).of_hidden ho rfl hhidden with
        ⟨hstill, hpending⟩ | hstill
      · have hpending : s.pending.items = [] := hpending
        rw [hstill.offline, hstill.store, hpending, List.append_nil]
        exact hcontents
      · rw [hstill.offline, hstill.store, Turn.contents_logOut hr hne h m]
        exact congrArg (· ++ _) hcontents
    rw [hafter]
    split
    · next hshown => rw [← hcontents, Queue.Offline.contents_of_shown hshown]
    · next hbefore =>
      rw [ho.idle (ho.attempt_of_hidden (by simpa using hbefore)), List.append_nil]

/-- After every run storage tells what the queue had in memory when it was shown for the last
time. -/
lemma stored_run {events : List (Moment × Event)} {s : Session} {store : σ}
    (h : Kept queueKey roomKey sound s store) (ho : s.Orderly)
    (hevents : ∀ x ∈ events, x.1.stamp.Valid ∧ ∀ e ∈ x.2.ordered x.1, e.Faithful 125)
    {held : List Envelope}
    (hheld : ∀ now, (Queue.Offline.readItems now queueKey store).1 = held) (now : Timestamp) :
    (Queue.Offline.readItems now queueKey (run events s store).2.1).1 =
      lastShown held (trace events s store) := by
  induction events generalizing s store held with
  | nil => exact hheld now
  | cons x rest ih =>
    obtain ⟨m, event⟩ := x
    obtain ⟨⟨hm, hevent⟩, hrest⟩ := List.forall_mem_cons.1 hevents
    exact ih (kept_step hr hne h ho.coherent hm hevent) (orderly_step ho m event store) hrest
      (stored_step hr hne h ho hm hevent hheld)

/-- A new session on the storage of one that has ended begins with what that one had in storage,
followed by what it had in memory, and in the same room.

**Proof sketch.** The end of the session keeps storage telling all (`kept_shutDown`), and has
spilled what waits in memory; a new session begins with what storage tells (`kept_start`). -/
lemma start_shutDown {settings : Settings} {target : Settings.Target} {now : Timestamp}
    {s next : Session} {store resumed : σ} {m : Moment}
    (hkeys : settings.storage.queueKey = queueKey ∧ settings.storage.roomKey = roomKey)
    (h : Kept queueKey roomKey sound s store)
    (hnext : start now settings target (shutDown m s store).store = (next, resumed)) :
    next.offline.items = s.offline.contents m.stamp store ++ s.pending.items ∧
      next.offline.detached = false ∧ next.room = s.room := by
  have hend := kept_shutDown hr hne h m
  have hquiet := quiet_shutDown m s store
  have hcontents : ∀ now, (Queue.Offline.readItems now queueKey (shutDown m s store).store).1 =
      s.offline.contents m.stamp store ++ s.pending.items := by
    intro now
    rw [← hend.queueKey_eq, hend.queue.stored now m.stamp, hquiet.offline, hquiet.store]
    exact Turn.contents_spill m (s.turn store)
  have hfaithful : ∀ e ∈ s.offline.contents m.stamp store ++ s.pending.items,
      e.Faithful 125 := by
    intro e he
    rw [← hcontents now, ← hend.queueKey_eq, hend.queue.stored now now] at he
    exact hend.queue.faithful now e he
  obtain ⟨-, hitems, hshown, -, hroom⟩ :=
    kept_start hr hnext hkeys hend.queue.sound_store.1 hfaithful hcontents
  exact ⟨hitems, hshown, hroom.trans (hend.room.trans hquiet.room)⟩

end Reliable

/-- **Nothing is lost over a restart.** After every run storage tells what the queue there had in
memory when it was shown for the last time, which is what it has there now if it is shown, and it
tells the room. If the session ends then, a new one on the same storage is not connected, and has
this in its queue, followed by what waited in memory, and is in the same room.

**Proof sketch.** Storage tells what waits and the room after the run (`kept_run`), and what it
tells of the queue is what was last shown (`stored_run`). A new session after the end begins with
that (`start_shutDown`). -/
theorem restart_run {settings : Settings} {target : Settings.Target} {began : Timestamp}
    {sound : σ → Prop} {stored store : σ} {s : Session} {initial : List Envelope}
    {events : List (Moment × Event)}
    (hsettings : settings.target = .ok target)
    (hreliable : Storage.Reliable [settings.storage.queueKey, settings.storage.roomKey] sound)
    (hsound : sound stored)
    (hstored : ∀ now, (Queue.Offline.readItems now settings.storage.queueKey stored).1 = initial)
    (hinitial : ∀ e ∈ initial, e.Faithful 125)
    (hevents : ∀ x ∈ events, x.1.stamp.Valid ∧ ∀ e ∈ x.2.ordered x.1, e.Faithful 125)
    (hstart : start began settings target stored = (s, store)) {s' : Session} {store' : σ}
    {effects : List (List Effect)} (hrun : run events s store = (s', store', effects))
    (m : Moment) (now : Timestamp) {next : Session} {resumed : σ}
    (hnext : start now settings target (shutDown m s' store').store = (next, resumed)) :
    (Queue.Offline.load now settings.storage.queueKey store').1.items =
        lastShown initial (trace events s store) ∧
      (s'.offline.detached = false →
        lastShown initial (trace events s store) = s'.offline.items) ∧
      (loadRoom settings.storage.roomKey store').1 = s'.room ∧
      next.offline.items = lastShown initial (trace events s store) ++ s'.pending.items ∧
      next.offline.detached = false ∧ next.room = s'.room ∧
      next.publisher.current = .disconnected := by
  have hne := Settings.queueKey_ne_roomKey hsettings
  have horderly := orderly_start hstart
  obtain ⟨hkept, hitems, hshown, -⟩ :=
    kept_start hreliable hstart ⟨rfl, rfl⟩ hsound hinitial hstored
  have hheld : ∀ now,
      (Queue.Offline.readItems now settings.storage.queueKey store).1 = initial := by
    intro now
    rw [← hkept.queueKey_eq, hkept.queue.stored now now, Queue.Offline.contents_of_shown hshown,
      hitems]
  have hlast := kept_run hreliable hne hkept horderly.coherent hevents
  have htold := stored_run hreliable hne hkept horderly hevents hheld
  rw [hrun] at hlast htold
  have hcontents : ∀ now, s'.offline.contents now store' =
      lastShown initial (trace events s store) := by
    intro now
    rw [← htold now, ← hlast.queueKey_eq, hlast.queue.stored now now]
  obtain ⟨hresumed, hrevealed, hroom⟩ := start_shutDown hreliable hne ⟨rfl, rfl⟩ hlast hnext
  have hstate : next.publisher.current = .disconnected := by
    obtain ⟨rfl, rfl⟩ := Prod.ext_iff.1 hnext
    rfl
  rw [hcontents] at hresumed
  refine ⟨htold now, ?_, hlast.room, hresumed, hrevealed, hroom, hstate⟩
  intro hshown'
  rw [← hcontents now, Queue.Offline.contents_of_shown hshown']

/-- What is left of three notes when the user has logged out is in the queue of the next session.

**Proof sketch.** The storage is reliable and holds one note, and all that is sent can be told, so
that `restart_run` applies. -/
theorem restart_notes :
    ∃ s store s' store' effects next resumed,
      start Sample.epoch Sample.settings Sample.target Sample.storage = (s, store) ∧
      run Sample.events s store = (s', store', effects) ∧
      start Sample.epoch Sample.settings Sample.target
        (shutDown (Sample.taking 0) s' store').store = (next, resumed) ∧
      next.offline.items =
        lastShown [Sample.note 1] (trace Sample.events s store) ++ s'.pending.items ∧
      next.room = s'.room ∧ next.publisher.current = .disconnected := by
  obtain ⟨⟨s, store⟩, hstart⟩ :
    ∃ first, start Sample.epoch Sample.settings Sample.target Sample.storage = first := ⟨_, rfl⟩
  obtain ⟨⟨s', store', effects⟩, hrun⟩ : ∃ last, run Sample.events s store = last := ⟨_, rfl⟩
  obtain ⟨⟨next, resumed⟩, hnext⟩ : ∃ again, start Sample.epoch Sample.settings Sample.target
    (shutDown (Sample.taking 0) s' store').store = again := ⟨_, rfl⟩
  obtain ⟨-, -, -, hitems, -, hroom, hstate⟩ := restart_run rfl (Store.reliable_memory _) trivial
    Sample.readItems_storage Sample.faithful_stored Sample.faithful_events hstart hrun
    (Sample.taking 0) Sample.epoch hnext
  exact ⟨s, store, s', store', effects, next, resumed, hstart, hrun, hnext, hitems, hroom, hstate⟩

end Messenger.Session
