import Messenger.Proofs.Queue.Refinement
import Messenger.Proofs.Session.Orderly
import Messenger.Proofs.Session.Pieces
import Messenger.Proofs.Store.Honest

set_option relaxedAutoImplicit false
set_option autoImplicit false

/-!
# What can be read of a session

Beside what a session has itself there are copies of some of it, to be read at any time from
outside: of the state, of the number of envelopes in storage, and of the room. Each is made anew in
many places, some of which do nothing else. Whatever the storage does, no event leaves a copy that
differs from what it is a copy of.

## Main definitions

* `Messenger.Queue.Offline.Gauged`: the published length of a queue is right.
* `Messenger.Session.Copied`: the copies are right.
* `Messenger.Session.Turn.Agrees`: besides, so is the answer to those who ask how much waits.

## Main results

* `Messenger.Session.Turn.Piece.copied`: no piece of an event leaves a copy that is wrong.
* `Messenger.Session.agrees_step`: no event does, nor does it give a wrong answer.
* `Messenger.Session.copies_agree`: nor does a run, nor its end.
-/

namespace Messenger

/-! ### Queues -/

namespace Queue.Offline

/-- The published length of a queue is the number of its envelopes in memory, and no envelope is
there while the queue is hidden. -/
structure Gauged (q : Offline) : Prop where
  gauge : q.gauge = q.items.length
  hidden : q.detached = true → q.gauge = 0

/-- For a queue that is shown the right length is enough. -/
lemma Gauged.of_shown {q : Offline} (hshown : q.detached = false)
    (hgauge : q.gauge = q.items.length) : q.Gauged := by
  refine ⟨hgauge, fun hhidden => ?_⟩
  rw [hshown] at hhidden
  cases hhidden

/-- Hiding a queue publishes that nothing is to be seen of it. -/
lemma gauged_detach (q : Offline) : q.detach.Gauged := ⟨rfl, fun _ => rfl⟩

variable {σ τ : Type} [Storage σ]

/-- A queue that is loaded publishes its length. -/
lemma gauged_load (now : Timestamp) (key : String) (s : σ) : (load now key s).1.Gauged :=
  .of_shown (detached_load now key s) rfl

/-- A queue to which an envelope was added publishes its length. -/
lemma gauged_push (now : Timestamp) (e : Envelope) (q : Offline) (s : σ) :
    (q.push now e s).1.Gauged :=
  .of_shown (detached_push now e q s) (gauge_persist _ _)

namespace Gauged

variable {q : Offline}

/-- A queue that is shown again publishes its length. -/
lemma reattach (h : q.Gauged) (now : Timestamp) (s : σ) : (q.reattach now s).1.Gauged := by
  refine .of_shown (detached_reattach now q s) ?_
  unfold Offline.reattach
  split
  · rfl
  · exact h.gauge

/-- A queue to which envelopes were added publishes its length, also if there were none. -/
lemma extend (h : q.Gauged) (now : Timestamp) (es : List Envelope) (s : σ) :
    (q.extend now es s).1.Gauged := by
  by_cases hes : es = []
  · rw [hes, extend_nil]
    exact h
  · rw [extend_of_ne_nil hes]
    exact .of_shown (detached_reattach now q s) (gauge_persist _ _)

/-- A queue in front of which envelopes were put publishes its length, also if there were none. -/
lemma prepend (h : q.Gauged) (now : Timestamp) (es : List Envelope) (s : σ) :
    (q.prepend now es s).1.Gauged := by
  by_cases hes : es = []
  · rw [hes, prepend_nil]
    exact h
  · rw [prepend_of_ne_nil hes]
    exact .of_shown (detached_reattach now q s) (gauge_persist _ _)

/-- A queue that is drained publishes how many envelopes are left. While it is hidden there is none
to drain. -/
lemma drain (h : q.Gauged) (transmit : Envelope → τ → Except Error Unit × τ) (s : σ) (t : τ) :
    (q.drain transmit s t).2.1.Gauged := by
  refine ⟨gauge_drainList transmit h.gauge 0 s t, fun hhidden => ?_⟩
  obtain ⟨-, -, -, hdetached, -⟩ := drain_eq transmit q s t
  have hgauge := h.hidden (hdetached.symm.trans hhidden)
  have hnil : q.items = [] := List.length_eq_zero_iff.1 (h.gauge.symm.trans hgauge)
  rw [Offline.drain, hnil]
  exact hgauge

end Gauged

end Queue.Offline

namespace Session

/-! ### Copies -/

/-- What can be read of a session is what the session has itself. -/
structure Copied (s : Session) : Prop where
  state : s.publisher.cell = s.publisher.current
  offline : s.offline.Gauged
  room : s.sharedRoom = s.room

variable {σ : Type} [Storage σ]

/-- What can be read of a new session is what it has found in the storage. -/
lemma copied_start {now : Timestamp} {settings : Settings} {target : Settings.Target}
    {stored store : σ} {s : Session} (hstart : start now settings target stored = (s, store)) :
    s.Copied := by
  obtain ⟨rfl, rfl⟩ := Prod.ext_iff.1 hstart
  exact ⟨Publisher.cell_mk _ _ _,
    Queue.Offline.gauged_load now settings.storage.queueKey stored, rfl⟩

namespace Turn

variable {m : Moment} {t t' : Turn σ}

/-- **No piece of an event leaves a copy that is wrong.** What was right before it is right after
it.

**Proof sketch.** One case for each piece. Those that change the state, the queue in storage or the
room make the copy of it anew, each by a lemma of its own; all others leave the three and their
copies alone. -/
lemma Piece.copied (hpiece : t.Piece m t') (h : t.session.Copied) : t'.session.Copied := by
  obtain ⟨hstate, hoffline, hroom⟩ := h
  cases hpiece with
  | arranges publisher pending offline room sharedRoom =>
    refine ⟨?_, ?_, ?_⟩
    · rw [publisher]
      exact hstate
    · rw [offline]
      exact hoffline
    · rw [sharedRoom, room]
      exact hroom
  | publishes next => exact ⟨Publisher.cell_transition _ next _ _ hstate, hoffline, hroom⟩
  | keeps e => exact ⟨hstate, Queue.Offline.gauged_push _ e _ _, hroom⟩
  | spills => exact ⟨hstate, hoffline.extend _ _ _, hroom⟩
  | spillsAhead => exact ⟨hstate, hoffline.prepend _ _ _, hroom⟩
  | hides => exact ⟨hstate, Queue.Offline.gauged_detach _, hroom⟩
  | reveals => exact ⟨hstate, hoffline.reattach _ _, hroom⟩
  | remembers room => exact ⟨hstate, hoffline, rfl⟩
  | drainsOffline link => exact ⟨hstate, hoffline.drain _ _ _, hroom⟩
  | _ => exact ⟨hstate, hoffline, hroom⟩

/-- No piece of an event tells a caller how much waits.

**Proof sketch.** One case for each piece. The effects that a piece adds are others than the answer
to how much waits. -/
lemma Piece.counts_eq (hpiece : t.Piece m t') : t'.outbox.counts = t.outbox.counts := by
  cases hpiece with
  | acts counts => exact counts
  | publishes next =>
    refine Outbox.filterMap_of_append (effects_publish m next t) fun effect heffect => ?_
    split at heffect
    · cases heffect
    · obtain ⟨w, -, rfl⟩ := List.mem_map.1 heffect
      rfl
  | watches id watcher => exact Outbox.counts_add rfl _
  | drainsPending link => exact Outbox.counts_drainList m link _ 0 t.outbox
  | drainsOffline link =>
    obtain ⟨-, -, houtbox, -⟩ := Queue.Offline.drain_eq (Outbox.transmit m link)
      t.session.offline t.store t.outbox
    exact (congrArg Outbox.counts houtbox).trans (Outbox.counts_drainList m link _ 0 t.outbox)
  | _ => rfl

/-- No pieces in a row leave a copy that is wrong, or tell a caller how much waits. -/
lemma Leads.copied (hleads : t.Leads m t') (h : t.session.Copied) :
    t'.session.Copied ∧ t'.outbox.counts = t.outbox.counts := by
  induction hleads with
  | refl => exact ⟨h, rfl⟩
  | tail _ hpiece ih => exact ⟨hpiece.copied ih.1, hpiece.counts_eq.trans ih.2⟩

/-- What can be read of a session after an event is what the session has itself. Envelopes wait in
memory only while it is read that the session is connecting. Those who asked were told, each once
and in order, how much waits then, and nobody else was. -/
structure Agrees (t : Turn σ) (callers : List Nat) : Prop where
  copied : t.session.Copied
  connecting : t.session.pending.items ≠ [] → t.session.publisher.cell = .connecting
  counts : t.outbox.counts = callers.map fun caller =>
    (caller, t.session.pending.items.length, t.session.offline.items.length)

end Turn

/-! ### Events -/

/-- The caller who asks by an event how much waits. -/
def Event.counter? : Event → Option Nat
  | .command (.count caller) => some caller
  | _ => none

variable {s : Session}

/-- Envelopes wait in memory only while it is read that the session is connecting. -/
lemma Orderly.cell_of_pending (h : s.Orderly) (hpending : s.pending.items ≠ []) :
    s.publisher.cell = .connecting := by
  have hattempt : s.attempt.isSome := by
    cases hattempt : s.attempt with
    | none => exact absurd (h.idle hattempt) hpending
    | some stage => rfl
  exact h.coherent.cell.trans (h.coherent.of_attempt hattempt).1

/-- **No event leaves a copy that is wrong.** Nor does it give a wrong answer.

**Proof sketch.** Apart from the question how much waits, which is answered from the session, an
event is made of pieces (`Turn.leads_react`), and none of them leaves a wrong copy or answers anyone
who asks that. -/
lemma agrees_step (h : s.Copied) (ho : s.Orderly) (m : Moment) (event : Event) (store : σ) :
    (step m event s store).Agrees event.counter?.toList := by
  have hconnecting := (orderly_step ho m event store).cell_of_pending
  by_cases hcount : ∃ caller, event = .command (.count caller)
  · obtain ⟨caller, rfl⟩ := hcount
    exact ⟨h, hconnecting, rfl⟩
  · have hcalls : event.counter? = none := by
      unfold Event.counter?
      split
      · next caller => exact absurd ⟨caller, rfl⟩ hcount
      · rfl
    have hleads : (s.turn store).Leads m (step m event s store) :=
      Turn.leads_react m (fun caller hevent => hcount ⟨caller, hevent⟩) _
    obtain ⟨hcopied, hcounts⟩ := hleads.copied h
    rw [hcalls]
    exact ⟨hcopied, hconnecting, hcounts⟩

/-- The end of a session leaves no copy that is wrong. -/
lemma agrees_shutDown (h : s.Copied) (m : Moment) (store : σ) :
    (shutDown m s store).Agrees [] := by
  obtain ⟨hcopied, hcounts⟩ := (leads_shutDown m s store).copied h
  have hpending : (shutDown m s store).session.pending.items = [] := by
    rw [shutDown, (Turn.quiet_dropLink _).pending]
    rfl
  exact ⟨hcopied, absurd hpending, hcounts⟩

/-- **What can be read of a session is what it has.** Throughout every run, over a storage that may
do anything, what can be read of the session is what it has itself, and those who ask how much waits
are told so.

**Proof sketch.** The copies are right at the beginning (`copied_start`), and every event keeps them
so and answers rightly (`agrees_step`). The invariant is carried together with the order of the
session, by which the copy of the state is that of connecting while envelopes wait in memory. -/
theorem copies_agree {now : Timestamp} {settings : Settings} {target : Settings.Target}
    {stored store : σ} (hstart : start now settings target stored = (s, store))
    (events : List (Moment × Event)) :
    s.Copied ∧ (∀ r ∈ trace events s store, r.turn.Agrees r.event.counter?.toList) ∧
      ∀ m, (shutDown m (run events s store).1 (run events s store).2.1).Agrees [] := by
  have hfirst : s.Copied ∧ s.Orderly := ⟨copied_start hstart, orderly_start hstart⟩
  have hstep : ∀ m event s (store : σ), (m, event) ∈ events → s.Copied ∧ s.Orderly →
      (step m event s store).session.Copied ∧ (step m event s store).session.Orderly :=
    fun m event _ store _ h =>
      ⟨(agrees_step h.1 h.2 m event store).copied, orderly_step h.2 m event store⟩
  refine ⟨hfirst.1, fun r hr => ?_, fun m => agrees_shutDown ?_ m _⟩
  · obtain ⟨hcopied, ho⟩ :=
      (trace_invariant (P := fun s _ => s.Copied ∧ s.Orderly) hstep hfirst r hr).1
    exact agrees_step hcopied ho r.moment r.event r.store
  · exact (run_invariant (P := fun s _ => s.Copied ∧ s.Orderly) hstep hfirst).1

namespace Sample

open Messenger.Sample (note)

/-- A storage in which the first note waits, but that neither reads nor writes anything. -/
def broken : Store.Planned :=
  ⟨storage, .replicate 9 true, .replicate 9 true⟩

/-- How much waits is asked before there is a link, while one is being opened, and after the user
has logged out. -/
def asking : List (Moment × Event) :=
  [(taking 0, .command (.join 7)), (taking 0, .command (.count 1)),
    (taking 0, .command (.connect "key" 0)), (taking 0, .command (.send (note 2))),
    (taking 0, .command (.count 2)), (taking 0, .command (.disconnect 0)),
    (taking 0, .command (.count 3))]

end Sample

/-- Although the storage does nothing, what it should hold is counted until it is hidden. -/
theorem copies_agree_broken :
    ∃ s store, start Sample.epoch Sample.settings Sample.target Sample.broken = (s, store) ∧
      (∀ r ∈ trace Sample.asking s store, r.turn.Agrees r.event.counter?.toList) ∧
      (trace Sample.asking s store).flatMap (·.turn.outbox.counts) =
        [(1, 0, 1), (2, 1, 1), (3, 0, 0)] := by
  obtain ⟨⟨s, store⟩, hstart⟩ : ∃ first,
    start Sample.epoch Sample.settings Sample.target Sample.broken = first := ⟨_, rfl⟩
  refine ⟨s, store, hstart, (copies_agree hstart Sample.asking).2.1, ?_⟩
  obtain ⟨rfl, rfl⟩ := Prod.ext_iff.1 hstart
  decide +kernel

end Session

end Messenger
