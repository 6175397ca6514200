import Mathlib.Data.List.Induction
import Messenger.Proofs.Session.Conservation
import Messenger.Proofs.Session.Shown
import Messenger.Proofs.Store.Honest

set_option relaxedAutoImplicit false
set_option autoImplicit false

/-!
# Logging out of a storage that has not taken all

As long as the queue is shown it is in memory, and nothing is lost when its text cannot be written.
To log out leaves what waits to the storage alone. Envelopes that the storage has not taken by then
are gone, and nothing else that happens loses any.

## Main definitions

* `Messenger.Session.Over`: the queue and the room are kept in a storage that is sound.
* `Messenger.Session.Accounted`: all that was to be sent has been written or is left.

## Main results

* `Messenger.Session.perm_step`: only to log out can lose an envelope.
* `Messenger.Session.accounted_iff_stored`: none is lost exactly if storage holds them whenever the
  user has logged out.
-/

namespace Messenger.Session

variable {σ : Type} [Storage σ]

/-! ### Accounts of a run -/

/-- Every envelope that storage held at the beginning, or that was to be sent since, has been
written or is among those that are left. -/
def Accounted (initial : List Envelope) (records : List (Record σ)) (left : List Envelope) : Prop :=
  ∀ e ∈ initial ++ records.flatMap Record.routed,
    e ∈ (records.flatMap Record.sent).map (·.2) ∨ e ∈ left

/-- All is accounted for after an event that loses nothing. -/
lemma Accounted.concat {initial left left' : List Envelope} {records : List (Record σ)}
    {r : Record σ} (h : Accounted initial records left)
    (hperm : (r.sent.map (·.2) ++ left').Perm (left ++ r.routed)) :
    Accounted initial (records ++ [r]) left' := by
  have hmoved : ∀ e, e ∈ left ∨ e ∈ r.routed → e ∈ r.sent.map (·.2) ∨ e ∈ left' := by
    intro e he
    exact List.mem_append.1 (hperm.mem_iff.2 (List.mem_append.2 he))
  intro e he
  rw [List.flatMap_append, List.flatMap_singleton, ← List.append_assoc, List.mem_append] at he
  rw [List.flatMap_append, List.flatMap_singleton, List.map_append, List.mem_append]
  rcases he with hbefore | hrouted
  · rcases h e hbefore with hsent | hleft
    · exact .inl (.inl hsent)
    · exact (hmoved e (.inl hleft)).imp_left .inr
  · exact (hmoved e (.inr hrouted)).imp_left .inr

/-! ### Logging out -/

/-- To hide a queue that is hidden already, while nothing waits in memory, changes nothing. -/
lemma Turn.unsent_hide_of_hidden {t : Turn σ} (hhidden : t.session.offline.detached = true)
    (hpending : t.session.pending.items = []) (m : Moment) (now : Timestamp) :
    (t.spill m).hide.session.unsent now (t.spill m).hide.store = t.session.unsent now t.store := by
  have hspill : (t.spill m).session.offline = t.session.offline ∧ (t.spill m).store = t.store := by
    simp [spill, Queue.Pending.takeAll, hpending]
  have hcontents : t.session.offline.detach.contents now t.store =
      t.session.offline.contents now t.store := by
    rw [Queue.Offline.contents_of_hidden hhidden, Queue.Offline.contents_of_hidden (by rfl)]
    rfl
  have hnothing : (t.spill m).hide.session.pending.items = [] := rfl
  have hoffline : (t.spill m).hide.session.offline = t.session.offline.detach :=
    congrArg Queue.Offline.detach hspill.1
  have hstore : (t.spill m).hide.store = t.store := hspill.2
  rw [unsent, unsent, hnothing, hpending, hoffline, hstore, hcontents]

/-- After the user has logged out nothing waits but what is read from storage. -/
lemma unsent_disconnect (m : Moment) (caller : Nat) (s : Session) (store : σ) (now : Timestamp) :
    (step m (.command (.disconnect caller)) s store).session.unsent now
        (step m (.command (.disconnect caller)) s store).store =
      (Queue.Offline.readItems now
        (step m (.command (.disconnect caller)) s store).session.offline.key
        (step m (.command (.disconnect caller)) s store).store).1 := by
  obtain ⟨hhidden, hpending⟩ := hidden_disconnect m caller s store
  rw [unsent, hpending, Queue.Offline.contents_of_hidden hhidden, List.nil_append]

/-! ### Storage that may refuse a text -/

/-- The queue and the room of a session are kept under two keys, in a storage that is sound. -/
structure Over (queueKey roomKey : String) (sound : σ → Prop) (s : Session) (store : σ) : Prop where
  queue : s.offline.Over queueKey sound store
  roomKey_eq : s.roomKey = roomKey

section Honest

variable {queueKey roomKey : String} {sound : σ → Prop} {held : String → σ → Option String}
  (honest : Storage.Honest [queueKey, roomKey] sound held)

include honest

/-- The storage stays sound when a room is remembered. -/
lemma Turn.over_rememberRoom {t : Turn σ} (h : Over queueKey roomKey sound t.session t.store)
    (room : Option Room) :
    Over queueKey roomKey sound (t.rememberRoom room).session (t.rememberRoom room).store := by
  have hmem : roomKey ∈ [queueKey, roomKey] := by simp
  refine ⟨⟨h.queue.key_eq, ?_⟩, h.roomKey_eq⟩
  unfold rememberRoom
  rw [h.roomKey_eq]
  cases room with
  | some r => exact honest.sound_write roomKey hmem _ _ h.queue.sound_store
  | none => exact honest.sound_remove roomKey hmem _ h.queue.sound_store

/-- The storage stays sound whatever events are made of.

**Proof sketch.** One part after the other. Each reads or writes under one of the two keys or does
neither, and a read and a write keep the storage sound whether they go well or not. -/
lemma over_upkeep (m : Moment) : Upkeep m (fun _ => True) (Over queueKey roomKey sound) where
  still hstill h := by
    refine ⟨⟨?_, ?_⟩, ?_⟩
    · rw [hstill.offline]
      exact h.queue.key_eq
    · rw [hstill.store]
      exact h.queue.sound_store
    · rw [hstill.roomKey]
      exact h.roomKey_eq
  reveal h := ⟨h.queue.reattach (honest.sound_read queueKey (by simp)) m.stamp, h.roomKey_eq⟩
  keep _ h := ⟨h.queue.push (honest.sound_write queueKey (by simp))
    (honest.sound_read queueKey (by simp)) m.stamp _, h.roomKey_eq⟩
  wait _ h := ⟨h.queue, h.roomKey_eq⟩
  spill h := ⟨h.queue.extend (honest.sound_write queueKey (by simp))
    (honest.sound_read queueKey (by simp)) m.stamp _, h.roomKey_eq⟩
  spillAhead h := ⟨h.queue.prepend (honest.sound_write queueKey (by simp))
    (honest.sound_read queueKey (by simp)) m.stamp _, h.roomKey_eq⟩
  hide h := ⟨⟨h.queue.key_eq, h.queue.sound_store⟩, h.roomKey_eq⟩
  enterRoom _ h := Turn.over_rememberRoom honest h _
  leaveRoom h := Turn.over_rememberRoom honest h none
  drainPending _ h := ⟨h.queue, h.roomKey_eq⟩
  drainOffline link h := ⟨h.queue.drain (honest.sound_write queueKey (by simp))
    (Outbox.transmit m link) _, h.roomKey_eq⟩
  rejoining _ _ _ := trivial

/-- The storage stays sound in every run. -/
lemma over_run {s : Session} {store : σ} (h : Over queueKey roomKey sound s store)
    (ho : s.Orderly) (events : List (Moment × Event)) :
    Over queueKey roomKey sound (run events s store).1 (run events s store).2.1 :=
  upkeep_run (fun x _ => over_upkeep honest x.1) (fun _ _ _ _ => trivial) ho.coherent h

/-- The storage of a new session is sound. -/
lemma over_start {settings : Settings} {target : Settings.Target} {began : Timestamp}
    {stored store : σ} {s : Session} (hstart : start began settings target stored = (s, store))
    (hkeys : settings.storage.queueKey = queueKey ∧ settings.storage.roomKey = roomKey)
    (hs : sound stored) : Over queueKey roomKey sound s store := by
  obtain ⟨rfl, rfl⟩ := hkeys
  obtain ⟨rfl, rfl⟩ := Prod.ext_iff.1 hstart
  refine ⟨⟨rfl, ?_⟩, rfl⟩
  show sound (loadRoom settings.storage.roomKey
    (Queue.Offline.load began settings.storage.queueKey stored).2).2
  have hloaded : (Queue.Offline.load began settings.storage.queueKey stored).2 =
      (Storage.read settings.storage.queueKey stored).2 := Queue.Offline.snd_readItems _ _ _
  rw [snd_loadRoom, hloaded]
  exact honest.sound_read _ (by simp) _ (honest.sound_read _ (by simp) _ hs)

variable (hreads : ∀ s : σ, sound s → (Storage.read queueKey s).1 = .ok (held queueKey s))

include hreads

/-- After a run at the end of which the user has logged out, what waits is what storage holds. -/
lemma unsent_of_logout {s : Session} {store : σ} (h : Over queueKey roomKey sound s store)
    (ho : s.Orderly) (pre : List (Moment × Event)) (m : Moment) (caller : Nat) (now : Timestamp) :
    (run (pre ++ [(m, .command (.disconnect caller))]) s store).1.unsent now
        (run (pre ++ [(m, .command (.disconnect caller))]) s store).2.1 =
      Queue.Offline.itemsOf now
        (held queueKey (run (pre ++ [(m, .command (.disconnect caller))]) s store).2.1) := by
  have hover := over_run honest h ho (pre ++ [(m, .command (.disconnect caller))])
  obtain ⟨hlast, hstore⟩ := run_concat pre m (.command (.disconnect caller)) s store
  rw [← Queue.Offline.fst_readItems_of_ok (hreads _ hover.queue.sound_store), ← hover.queue.key_eq,
    hlast, hstore, unsent_disconnect]

variable (hne : queueKey ≠ roomKey)

include hne

/-- What waits in storage stays the same when a room is remembered, even if that fails.

**Proof sketch.** A queue that is shown is in memory. One that is hidden is read from its own key,
which no change of the room touches. -/
lemma Over.contents_rememberRoom {t : Turn σ}
    (h : Over queueKey roomKey sound t.session t.store) (room : Option Room) (now : Timestamp) :
    (t.rememberRoom room).session.offline.contents now (t.rememberRoom room).store =
      t.session.offline.contents now t.store := by
  have hkeys : queueKey ∈ [queueKey, roomKey] ∧ roomKey ∈ [queueKey, roomKey] := by simp
  have hsound := h.queue.sound_store
  have hheld : held queueKey (t.rememberRoom room).store = held queueKey t.store := by
    unfold Turn.rememberRoom
    rw [h.roomKey_eq]
    cases room with
    | some r => exact honest.held_write_of_ne roomKey hkeys.2 queueKey hkeys.1 hne _ _ hsound
    | none => exact honest.held_remove_of_ne roomKey hkeys.2 queueKey hkeys.1 hne _ hsound
  have hread : (Storage.read t.session.offline.key (t.rememberRoom room).store).1 =
      (Storage.read t.session.offline.key t.store).1 := by
    rw [h.queue.key_eq, hreads _ hsound,
      hreads _ (Turn.over_rememberRoom honest h room).queue.sound_store, hheld]
  exact Queue.Offline.contents_congr hread now

/-- An event that hides the queue, but is not that the user logs out, has found it hidden, with
nothing in memory. It leaves alone what waits.

**Proof sketch.** A queue that was shown would still be shown (`shown_step`). Hidden queues go with
an empty memory, so that to spill and to hide again changes nothing, and the room is under another
key. -/
lemma unsent_of_hides {s : Session} {store : σ} (h : Over queueKey roomKey sound s store)
    (ho : s.Orderly) {m : Moment} {event : Event}
    (hevent : ∀ caller, event ≠ .command (.disconnect caller))
    (hstill : (((s.turn store).rememberRoom none).spill m).hide.Still (step m event s store)) :
    s.offline.detached = true ∧ s.pending.items = [] ∧
      ∀ now, (step m event s store).session.unsent now (step m event s store).store =
        s.unsent now store := by
  have hhidden : s.offline.detached = true := by
    cases hshown : s.offline.detached with
    | true => rfl
    | false =>
      have hafter := shown_step ho hshown m hevent store
      rw [hstill.offline] at hafter
      cases hafter
  have hpending := ho.idle (ho.attempt_of_hidden hhidden)
  refine ⟨hhidden, hpending, fun now => ?_⟩
  have hsame : ((s.turn store).rememberRoom none).session.unsent now
      ((s.turn store).rememberRoom none).store = s.unsent now store :=
    congrArg (s.pending.items ++ ·)
      (Over.contents_rememberRoom (t := s.turn store) honest hreads hne h none now)
  rw [hstill.unsent_eq, ← hsame, Turn.unsent_hide_of_hidden hhidden hpending]

/-- **Only to log out can lose an envelope.** An event loses no envelope and makes none up, unless
the user logs out.

**Proof sketch.** What can be done to what waits keeps it, or it hides the queue
(`Deed.perm_unsent`). In that case the queue has been hidden before, and nothing changes
(`unsent_of_hides`). -/
theorem perm_step {s : Session} {store : σ} (h : Over queueKey roomKey sound s store)
    (ho : s.Orderly) (m : Moment) {event : Event}
    (hevent : ∀ caller, event ≠ .command (.disconnect caller)) (now : Timestamp) :
    ∃ before, ((Record.mk m event s store).sent.map (·.2) ++
        (step m event s store).session.unsent now (step m event s store).store).Perm
      (s.unsent before store ++ (Record.mk m event s store).routed) := by
  have hroom := Over.contents_rememberRoom (t := s.turn store) honest hreads hne h
  rcases (deed_step ho.coherent m event store).perm_unsent ho rfl hroom now with
    hperm | ⟨hsent, hrouted, hstill⟩
  · exact hperm
  · refine ⟨now, ?_⟩
    rw [hsent, hrouted, (unsent_of_hides honest hreads hne h ho hevent hstill).2.2,
      List.append_nil]
    exact List.Perm.refl _

/-- All is accounted for after every part of a run at the beginning, if that is so after each that
ends when the user logs out.

**Proof sketch.** Induction on that part from its end. If its last event is that the user logs out
the assumption applies, and otherwise that event loses nothing (`perm_step`). -/
lemma accounted_run {s : Session} {store : σ} (h : Over queueKey roomKey sound s store)
    (ho : s.Orderly) {initial : List Envelope} (hinitial : ∀ now, s.unsent now store = initial)
    {events : List (Moment × Event)}
    (hlogouts : ∀ pre m caller, pre ++ [(m, .command (.disconnect caller))] <+: events → ∀ now,
      Accounted initial (trace (pre ++ [(m, .command (.disconnect caller))]) s store)
        ((run (pre ++ [(m, .command (.disconnect caller))]) s store).1.unsent now
          (run (pre ++ [(m, .command (.disconnect caller))]) s store).2.1))
    {pre : List (Moment × Event)} (hpre : pre <+: events) (now : Timestamp) :
    Accounted initial (trace pre s store)
      ((run pre s store).1.unsent now (run pre s store).2.1) := by
  induction pre using List.reverseRecOn generalizing now with
  | nil =>
    intro e he
    refine .inr ?_
    show e ∈ s.unsent now store
    rw [hinitial]
    simpa [trace] using he
  | append_singleton pre x ih =>
    obtain ⟨m, event⟩ := x
    by_cases hevent : ∃ caller, event = .command (.disconnect caller)
    · obtain ⟨caller, rfl⟩ := hevent
      exact hlogouts pre m caller hpre now
    · have hbefore := ih ((List.prefix_append pre [(m, event)]).trans hpre)
      obtain ⟨hlast, hstore⟩ := run_concat pre m event s store
      obtain ⟨before, hperm⟩ := perm_step honest hreads hne (over_run honest h ho pre)
        (orderly_run ho pre store) m (fun caller hcaller => hevent ⟨caller, hcaller⟩) now
      rw [trace_concat, hlast, hstore]
      exact (hbefore before).concat hperm

end Honest

/-- **All is accounted for exactly if storage has it at every logout.** Readings succeed, but
writings may fail, and then leave storage as it was. Whatever happens, the envelopes that storage
held at the beginning and those that were to be sent since have been written or wait at any time,
exactly if whenever the user has logged out those that have not been written are in storage. What
waits is in the two queues again once the user has asked to connect.

**Proof sketch.** What is left after a logout is what storage holds (`unsent_of_logout`). So one
direction is a case of what is assumed, and the other is `accounted_run`. To connect shows the
queue, and what is left by a queue that is shown is what waits. -/
theorem accounted_iff_stored {settings : Settings} {target : Settings.Target} {began : Timestamp}
    {sound : σ → Prop} {held : String → σ → Option String} {stored store : σ} {s : Session}
    {initial : List Envelope} {events : List (Moment × Event)}
    (hsettings : settings.target = .ok target)
    (honest : Storage.Honest [settings.storage.queueKey, settings.storage.roomKey] sound held)
    (hreads : ∀ s : σ, sound s →
      (Storage.read settings.storage.queueKey s).1 = .ok (held settings.storage.queueKey s))
    (hsound : sound stored)
    (hstored : ∀ now,
      Queue.Offline.itemsOf now (held settings.storage.queueKey stored) = initial)
    (hstart : start began settings target stored = (s, store)) :
    ((∀ pre, pre <+: events → ∀ now, Accounted initial (trace pre s store)
        ((run pre s store).1.unsent now (run pre s store).2.1)) ↔
      ∀ pre m caller, pre ++ [(m, .command (.disconnect caller))] <+: events → ∀ now,
        Accounted initial (trace (pre ++ [(m, .command (.disconnect caller))]) s store)
          (Queue.Offline.itemsOf now (held settings.storage.queueKey
            (run (pre ++ [(m, .command (.disconnect caller))]) s store).2.1))) ∧
      ∀ pre m credential caller now,
        (run (pre ++ [(m, .command (.connect credential caller))]) s store).1.unsent now
            (run (pre ++ [(m, .command (.connect credential caller))]) s store).2.1 =
          (run (pre ++ [(m, .command (.connect credential caller))]) s store).1.waiting := by
  have hne := Settings.queueKey_ne_roomKey hsettings
  have hover := over_start honest hstart ⟨rfl, rfl⟩ hsound
  have horderly := orderly_start hstart
  have hinitial : ∀ now, s.unsent now store = initial := by
    intro now
    have hloaded := Queue.Offline.fst_readItems_of_ok (hreads stored hsound) began
    obtain ⟨rfl, -⟩ := Prod.ext_iff.1 hstart
    rw [unsent_of_shown (by rfl)]
    exact hloaded.trans (hstored began)
  refine ⟨⟨?_, ?_⟩, ?_⟩
  · intro haccounted pre m caller hpre now
    rw [← unsent_of_logout honest hreads hover horderly]
    exact haccounted _ hpre now
  · intro hlogouts pre hpre now
    refine accounted_run honest hreads hne hover horderly hinitial ?_ hpre now
    intro pre m caller hpre now
    rw [unsent_of_logout honest hreads hover horderly]
    exact hlogouts pre m caller hpre now
  · intro pre m credential caller now
    obtain ⟨hlast, hstore⟩ := run_concat pre m (.command (.connect credential caller)) s store
    rw [hlast, hstore]
    exact unsent_of_shown (Turn.shown_connect (orderly_run horderly pre store) m credential caller)
      now _

/-! ### A note that is refused -/

namespace Sample

open Messenger.Sample (note)

/-- A storage in which nothing waits, and which does not take the next text. -/
def full : Store.Planned :=
  ⟨⟨[]⟩, [], [true]⟩

/-- The second note is sent, then the user logs out and asks to connect again. -/
def leaving : List (Moment × Event) :=
  [(taking 0, .command (.send (note 2))), (taking 0, .command (.disconnect 0)),
    (taking 0, .command (.connect "key" 1))]

end Sample

/-- Whether the note is lost is decided by what storage holds when the user has logged out.

**Proof sketch.** The storage answers every reading and refuses its first writing, which is all that
is asked of it. -/
theorem accounted_full :
    ∃ s store, start Sample.epoch Sample.settings Sample.target Sample.full = (s, store) ∧
      ((∀ pre, pre <+: Sample.leaving → ∀ now, Accounted [] (trace pre s store)
          ((run pre s store).1.unsent now (run pre s store).2.1)) ↔
        ∀ pre m caller, pre ++ [(m, .command (.disconnect caller))] <+: Sample.leaving → ∀ now,
          Accounted [] (trace (pre ++ [(m, .command (.disconnect caller))]) s store)
            (Queue.Offline.itemsOf now (Store.Planned.held Sample.settings.storage.queueKey
              (run (pre ++ [(m, .command (.disconnect caller))]) s store).2.1))) := by
  obtain ⟨⟨s, store⟩, hstart⟩ :
    ∃ first, start Sample.epoch Sample.settings Sample.target Sample.full = first := ⟨_, rfl⟩
  refine ⟨s, store, hstart, ?_⟩
  refine (accounted_iff_stored rfl
    (Store.honest_planned _ (fun readings _ => readings = []) ?_) ?_ rfl (fun _ => rfl)
    hstart).1
  · rintro readings writings rfl
    exact ⟨rfl, rfl⟩
  · rintro s hs
    simp [Storage.read, hs, Store.Planned.held]

/-- The note is sent and never written on a link, and yet it waits in neither queue after the user
has logged out and asked to connect again. -/
theorem lost_refused :
    ∃ s store s' store' effects,
      start Sample.epoch Sample.settings Sample.target Sample.full = (s, store) ∧
      run Sample.leaving s store = (s', store', effects) ∧
      (Sample.note 2).Faithful 125 ∧
      (trace Sample.leaving s store).flatMap Record.routed = [Sample.note 2] ∧
      (trace Sample.leaving s store).flatMap Record.sent = [] ∧
      s'.pending.items = [] ∧ s'.offline.items = [] :=
  ⟨_, _, _, _, _, rfl, rfl, Sample.faithful_note (by decide) 125, rfl, rfl, rfl, rfl⟩

end Messenger.Session
