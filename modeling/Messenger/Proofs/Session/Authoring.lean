import Messenger.Proofs.Session.Kept
import Messenger.Proofs.Session.Move
import Messenger.Proofs.Session.Orderly

set_option relaxedAutoImplicit false
set_option autoImplicit false

/-!
# Envelopes that wait keep the order in which they were handed in

Without a link, envelopes wait in two places: in memory while an attempt is under way, and in
storage otherwise. Whatever moves from memory to storage goes behind what is there. As nothing is
put into storage while something waits in memory, what waits in storage and, behind it, what waits
in memory is what was handed in, in the same order.

## Main definitions

* `Messenger.Session.Account.queue`: all that waits, what is in storage first.
* `Messenger.Session.queued`: the same for a session.

## Main results

* `Messenger.Session.queued_step`: an event that opens no link puts behind what waits all that it
  has to send.
* `Messenger.Session.authoring_order`: as long as no link is opened, what waits is what storage held
  at the beginning and, behind it, what was handed in since.
-/

namespace Messenger.Session

/-! ### Accounts -/

namespace Account

/-- All that waits, what is in storage first. -/
def queue (a : Account) : List Envelope :=
  a.stored ++ a.pending

/-- An envelope that is sent without a link goes behind all that waits, if nothing waits in memory
without an attempt. -/
lemma queue_route {m : Moment} {attempting : Bool} {a : Account}
    (hidle : attempting = false → a.pending = []) (e : Envelope) :
    (a.route m none attempting e).queue = a.queue ++ [e] := by
  unfold Account.route queue
  cases attempting with
  | true => exact (List.append_assoc _ _ _).symm
  | false =>
    have hpending := hidle rfl
    simp [keep, hpending]

/-- What waits in memory stays behind what is in storage when it moves there. -/
lemma queue_spill (a : Account) : a.spill.queue = a.queue :=
  List.append_nil _

end Account

variable {σ : Type} [Storage σ]

/-- All that waits for a link: what the queue in storage holds, and behind it what waits in
memory. -/
def queued (now : Timestamp) (s : Session) (store : σ) : List Envelope :=
  s.offline.contents now store ++ s.pending.items

/-! ### Steps -/

/-- A step that moves nothing leaves alone what waits. -/
lemma Turn.Still.queued_eq {t t' : Turn σ} (h : t.Still t') (now : Timestamp) :
    t'.session.queued now t'.store = t.session.queued now t.store := by
  rw [queued, queued, h.pending, h.offline, h.store]

/-- Showing the queue leaves alone what waits. -/
lemma Turn.queued_reveal (m : Moment) (t : Turn σ) :
    (t.reveal m).session.queued m.stamp (t.reveal m).store = t.session.queued m.stamp t.store :=
  congrArg Account.queue (Turn.account_reveal m t)

/-- What waits in memory stays behind what is in storage when it moves there. -/
lemma Turn.queued_spill (m : Moment) (t : Turn σ) :
    (t.spill m).session.queued m.stamp (t.spill m).store = t.session.queued m.stamp t.store :=
  (congrArg Account.queue (Turn.account_spill m t)).trans (Account.queue_spill _)

/-- An envelope that is sent without a link goes behind all that waits. -/
lemma Turn.queued_route (m : Moment) (e : Envelope) {t : Turn σ} (h : t.session.Orderly)
    (hlink : t.session.link = none) :
    (t.route m e).session.queued m.stamp (t.route m e).store =
      t.session.queued m.stamp t.store ++ [e] := by
  have hidle : t.session.attempt.isSome = false → (t.account m.stamp).pending = [] :=
    fun hnone => h.idle (by simpa using hnone)
  have haccount := Turn.account_route m e t
  rw [hlink] at haccount
  exact (congrArg Account.queue haccount).trans (Account.queue_route hidle e)

section Reliable

variable {queueKey roomKey : String} {sound : σ → Prop}

/-- What waits does not depend on when one looks. -/
lemma Kept.queued_eq {s : Session} {store : σ} (h : Kept queueKey roomKey sound s store)
    (now now' : Timestamp) : s.queued now store = s.queued now' store := by
  rw [queued, queued, h.queue.contents_eq now now']

variable (hr : Storage.Reliable [queueKey, roomKey] sound) (hne : queueKey ≠ roomKey)

include hr hne

/-- **What comes last is put last.** What can be done without a link, and without opening one, puts
behind what waits what is to be sent.

**Proof sketch.** What waits in memory moves to storage if an attempt fails and if the user logs
out, and then none is left in memory. An envelope is put into storage only while no attempt is under
way, and then there is none in memory either. -/
lemma Deed.queued {m : Moment} {t t' : Turn σ} {routed : List Envelope}
    {sent : List (Nat × Envelope)} (hdeed : Deed m t routed sent t')
    (h : Kept queueKey roomKey sound t.session t.store) (ho : t.session.Orderly)
    (hlink : t.session.link = none) (hoffers : t.outbox.offers = 0)
    (hopened : t'.session.opened = t.session.opened) :
    t'.session.queued m.stamp t'.store = t.session.queued m.stamp t.store ++ routed := by
  cases hdeed with
  | rests unsent still => rw [still.queued_eq, List.append_nil]
  | begins unsent still => rw [still.queued_eq, Turn.queued_reveal, List.append_nil]
  | @sends t₁ e room =>
    -- The room may be stored before, which leaves alone what waits.
    obtain ⟨hconnection, -, hpending⟩ := Deed.room_change room
    have hsame : t₁.session.queued m.stamp t₁.store = t.session.queued m.stamp t.store := by
      rw [Session.queued, Session.queued, hpending]
      rcases room with rfl | rfl | ⟨r, -, rfl⟩
      · rfl
      · rw [Turn.contents_rememberRoom hr hne h]
      · rw [Turn.contents_rememberRoom hr hne h]
    have hnone : t₁.session.link = none := (congrArg Connection.link hconnection).trans hlink
    rw [Turn.queued_route m e (Deed.orderly_room room ho) hnone, hsame]
  | fails unsent still => rw [still.queued_eq, Turn.queued_spill, List.append_nil]
  | logsOut unsent still =>
    have hpending : ((t.rememberRoom none).spill m).hide.session.pending.items = [] := rfl
    rw [still.queued_eq, Session.queued, Session.queued, Turn.contents_logOut hr hne h, hpending,
      List.append_nil]
  | opens credential dialing link =>
    have hshown := ho.shown dialing.isSome
    have hmore := (Turn.offered_succeed hshown hoffers m credential rfl).opened
    omega

/-! ### Events -/

/-- An event that meets no link and opens none leaves no link, and puts behind what waits what it
has to send.

**Proof sketch.** The event leaves no link, since only one that opens a link can. What it does to
what waits is a deed without a link, and `Deed.queued` applies; when it is looked at does not
matter, since the storage tells what is hidden. -/
lemma queued_step {s : Session} {store : σ} (h : Kept queueKey roomKey sound s store)
    (ho : s.Orderly) (hlink : s.link = none) {m : Moment} {event : Event} (hm : m.stamp.Valid)
    (hevent : ∀ e ∈ event.ordered m, e.Faithful 125) (hnot : ¬ (Record.mk m event s store).Opens)
    (now : Timestamp) :
    (step m event s store).session.link = none ∧
      (step m event s store).session.queued now (step m event s store).store =
        s.queued now store ++ event.ordered m := by
  have hmove := move_step ho.coherent m event store
  have hdeed := deed_step ho.coherent m event store
  have hnext := kept_step hr hne h ho.coherent hm hevent
  constructor
  · refine Option.eq_none_iff_forall_ne_some.2 fun link hafter => ?_
    rcases hmove.of_link ho.coherent hafter with
      ⟨hbefore, -⟩ | ⟨credential, deadline, hopened, hattempt, -⟩
    · cases hlink.symm.trans hbefore
    · exact hnot (Record.opens_iff.2 ⟨hopened, credential, deadline, hattempt⟩)
  · rw [Record.routed_of_not_opens hnot] at hdeed
    rw [h.queued_eq now m.stamp, hnext.queued_eq now m.stamp]
    refine hdeed.queued hr hne h ho hlink rfl (hmove.opened_eq.trans ?_)
    rw [eq_false_of_ne_true fun hopens => hnot (Record.opens_iff.2 (opens_eq_true_iff.1 hopens))]
    rfl

/-- A run that meets no link and opens none puts behind what waits all that it has to send.

**Proof sketch.** Induction on the events, by `queued_step`. -/
lemma queued_run {events : List (Moment × Event)} {s : Session} {store : σ}
    (h : Kept queueKey roomKey sound s store) (ho : s.Orderly) (hlink : s.link = none)
    (hevents : ∀ x ∈ events, x.1.stamp.Valid ∧ ∀ e ∈ x.2.ordered x.1, e.Faithful 125)
    (hnot : ∀ r ∈ trace events s store, ¬ r.Opens) (now : Timestamp) :
    (run events s store).1.queued now (run events s store).2.1 =
      s.queued now store ++ events.flatMap fun x => x.2.ordered x.1 := by
  induction events generalizing s store with
  | nil => exact (List.append_nil _).symm
  | cons x rest ih =>
    obtain ⟨m, event⟩ := x
    obtain ⟨⟨hm, hevent⟩, hrest⟩ := List.forall_mem_cons.1 hevents
    obtain ⟨hfirst, hothers⟩ := List.forall_mem_cons.1 hnot
    obtain ⟨hnone, hqueued⟩ := queued_step hr hne h ho hlink hm hevent hfirst now
    rw [List.flatMap_cons, ← List.append_assoc, ← hqueued]
    exact ih (kept_step hr hne h ho.coherent hm hevent) (orderly_step ho m event store) hnone
      hrest hothers

end Reliable

/-- **What waits keeps the order in which it was handed in.** As long as no attempt opens a link,
what waits in storage and, behind it, what waits in memory is what storage held at the beginning
and, behind it, all that was handed in since, in the order in which it was handed in: whatever
attempts begin and fail, and whether or not the user logs out in between.

**Proof sketch.** The storage tells what is hidden in it, and it keeps the queue and the room apart.
So it is enough to look at one event after the other (`queued_run`), beginning with a session that
has no link and whose queue shows what storage holds. -/
theorem authoring_order {settings : Settings} {target : Settings.Target} {began : Timestamp}
    {stored store : σ} {s : Session} {initial : List Envelope} {events : List (Moment × Event)}
    {sound : σ → Prop} (hsettings : settings.target = .ok target)
    (hreliable : Storage.Reliable [settings.storage.queueKey, settings.storage.roomKey] sound)
    (hsound : sound stored)
    (hstored : ∀ now, (Queue.Offline.readItems now settings.storage.queueKey stored).1 = initial)
    (hinitial : ∀ e ∈ initial, e.Faithful 125)
    (hevents : ∀ x ∈ events, x.1.stamp.Valid ∧ ∀ e ∈ x.2.ordered x.1, e.Faithful 125)
    (hstart : start began settings target stored = (s, store))
    (hnot : ∀ r ∈ trace events s store, ¬ r.Opens) (now : Timestamp) :
    (run events s store).1.queued now (run events s store).2.1 =
      initial ++ events.flatMap fun x => x.2.ordered x.1 := by
  have hne := Settings.queueKey_ne_roomKey hsettings
  obtain ⟨hkept, hitems, hshown, hpending, -⟩ :=
    kept_start hreliable hstart ⟨rfl, rfl⟩ hsound hinitial hstored
  have hlink : s.link = none := by
    obtain ⟨rfl, rfl⟩ := Prod.ext_iff.1 hstart
    rfl
  have hinitially : s.queued now store = initial := by
    rw [queued, Queue.Offline.contents_of_shown hshown, hpending, hitems, List.append_nil]
  rw [← hinitially]
  exact queued_run hreliable hne hkept (orderly_start hstart) hlink hevents hnot now

namespace Sample

open Messenger.Sample (note valid_epoch faithful_note)

/-- One note is sent before there is an attempt, one while an attempt is under way that fails, and
one while the next attempt is waited for. Then the user logs out. -/
def vain : List (Moment × Event) :=
  [(taking 0, .command (.send (note 2))), (taking 0, .command (.connect "key" 0)),
    (taking 0, .command (.send (note 3))), (taking 0, .failed Transport.linkLost),
    (taking 0, .command (.send (note 4))), (taking 0, .command (.disconnect 0))]

/-- All that is sent in that run can be told. -/
lemma faithful_vain : ∀ x ∈ vain, x.1.stamp.Valid ∧ ∀ e ∈ x.2.ordered x.1, e.Faithful 125 := by
  have hstamp : ∀ n, (taking n).stamp.Valid := fun _ => valid_epoch
  have hnotes : (note 2).Faithful 125 ∧ (note 3).Faithful 125 ∧ (note 4).Faithful 125 :=
    ⟨faithful_note (by decide) 125, faithful_note (by decide) 125, faithful_note (by decide) 125⟩
  simp [vain, Event.ordered, Command.envelope?, hstamp, hnotes]

/-- No event of that run opens a link. -/
lemma not_opens_vain {s : Session} {store : Store.Memory} :
    ∀ r ∈ trace vain s store, ¬ r.Opens := by
  intro r hr hopens
  have hmem := (trace_invariant (P := fun _ _ => True) (fun _ _ _ _ _ _ => trivial) trivial r hr).2
  rw [(Record.opens_iff.1 hopens).1] at hmem
  simp [vain] at hmem

end Sample

/-- Four notes wait in the order in which they were handed in, after an attempt has failed and the
user has logged out. -/
theorem authoring_order_notes :
    ∃ s store, start Sample.epoch Sample.settings Sample.target Sample.storage = (s, store) ∧
      (run Sample.vain s store).1.queued Sample.epoch (run Sample.vain s store).2.1 =
        [Sample.note 1, Sample.note 2, Sample.note 3, Sample.note 4] := by
  obtain ⟨⟨s, store⟩, hstart⟩ :
    ∃ first, start Sample.epoch Sample.settings Sample.target Sample.storage = first := ⟨_, rfl⟩
  exact ⟨s, store, hstart, authoring_order rfl (Store.reliable_memory _) trivial
    Sample.readItems_storage Sample.faithful_stored Sample.faithful_vain hstart
    Sample.not_opens_vain Sample.epoch⟩

end Messenger.Session
