import Mathlib.Tactic.Lemma
import Messenger.Proofs.Envelope.RoundTrip
import Messenger.Session.Step
import Messenger.Store.Memory

set_option relaxedAutoImplicit false
set_option autoImplicit false

/-!
# Runs of a session

A run is a list of events, each with what it takes from the world outside. Its trace says of each
event what session it met and, by that, what it did. What is true of a session after every run can
be shown event by event.

## Main definitions

* `Messenger.Session.Record`: an event of a run, with the session and the storage that it met.
* `Messenger.Session.trace`: the events of a run.
* `Messenger.Session.Outbox.frames`: the envelopes that were written, each with its link.
* `Messenger.Session.Record.sent`: the envelopes that an event wrote, heartbeats aside.
* `Messenger.Session.Record.routed`: the envelopes that an event had to send.
* `Messenger.Session.Sample.events`: a run to look at.

## Main results

* `Messenger.Session.run_append`, `Messenger.Session.trace_append`: a run in two parts.
* `Messenger.Session.run_invariant`: what every event keeps holds at the end of a run.
* `Messenger.Session.trace_invariant`: it holds before every event of it, too.
-/

namespace Messenger.Session

variable {σ : Type}

/-! ### What was written -/

/-- The envelope that an effect wrote, with its link. -/
def Effect.frame? : Effect → Option (Nat × Envelope)
  | .wrote link e => some (link, e)
  | _ => none

/-- The envelopes that were written so far, each with its link. -/
def Outbox.frames (o : Outbox) : List (Nat × Envelope) :=
  o.effects.filterMap Effect.frame?

/-! ### What is to be sent -/

/-- The envelope that a command sends, if it sends one. -/
def Command.envelope? (m : Moment) : Command → Option Envelope
  | .send e => some e
  | .join r => some (Turn.envelope m .joinRoom (Request.room r))
  | .leave r => some (Turn.envelope m .leaveRoom (Request.room r))
  | _ => none

/-- The envelopes that an event sends for the user. -/
def Event.ordered (m : Moment) : Event → List Envelope
  | .command c => (c.envelope? m).toList
  | _ => []

/-- An event sends one envelope at most for the user. -/
lemma Event.ordered_eq {m : Moment} {event : Event} {e : Envelope} (he : e ∈ event.ordered m) :
    event.ordered m = [e] := by
  cases event with
  | command c =>
    have hsome : c.envelope? m = some e := by simpa [Event.ordered] using he
    simp [Event.ordered, hsome]
  | _ => cases he

/-- The envelope by which a new link joins the room again, if that is due. -/
def rejoining (m : Moment) (s : Session) : List Envelope :=
  if s.rejoins then (s.room.map fun r => Turn.envelope m .joinRoom (Request.room r)).toList else []

/-- The envelopes that wait while a queue in storage is shown, in the order in which they go. -/
def waiting (s : Session) : List Envelope :=
  s.pending.items ++ s.offline.items

/-- What a new link is to send on its own: joining the room again, if that is due and the link takes
all that waits. -/
def followUp (m : Moment) (s : Session) : List Envelope :=
  if ∀ i < s.waiting.length, m.accepts i then s.rejoining m else []

/-- A new link that takes all that waits joins the room again, if that is due. -/
lemma followUp_of_taken {m : Moment} {s : Session} (h : ∀ i < s.waiting.length, m.accepts i) :
    s.followUp m = s.rejoining m := if_pos h

/-- A new link that does not take all that waits sends nothing on its own. -/
lemma followUp_of_refused {m : Moment} {s : Session}
    (h : ¬ ∀ i < s.waiting.length, m.accepts i) : s.followUp m = [] := if_neg h

/-- The session is connecting to an address. -/
def Dialing (s : Session) : Prop :=
  ∃ credential deadline, s.attempt = some (.dialing credential deadline)

instance (s : Session) : Decidable s.Dialing :=
  match h : s.attempt with
  | some (.dialing credential deadline) => .isTrue ⟨credential, deadline, h⟩
  | some (.asking _) | none => .isFalse fun ⟨_, _, hd⟩ => by simp [h] at hd

/-- Who connects to an address has an attempt. -/
lemma Dialing.isSome {s : Session} (h : s.Dialing) : s.attempt.isSome := by
  obtain ⟨credential, deadline, hattempt⟩ := h
  rw [hattempt]
  rfl

/-! ### Events in a row -/

/-- An event of a run, with the session and the storage that it met. -/
structure Record (σ : Type) where
  moment : Moment
  event : Event
  session : Session
  store : σ

namespace Record

/-- A link is opened by the event. -/
def Opens (r : Record σ) : Prop :=
  (match r.event with | .opened => True | _ => False) ∧ r.session.Dialing

/-- The envelopes that the event had to send: what the user asked for, and joining the room again
once a new link has taken all that waited. -/
def routed (r : Record σ) : List Envelope :=
  match r.event with
  | .opened => if r.session.Dialing then r.session.followUp r.moment else []
  | event => event.ordered r.moment

/-- The events that open a link. -/
lemma opens_iff {r : Record σ} : r.Opens ↔ r.event = .opened ∧ r.session.Dialing := by
  unfold Opens
  refine and_congr_left fun _ => ?_
  split
  · next h => simp [h]
  · next h => simpa using h

/-- An event that opens no link has to send what the user asks for. -/
lemma routed_of_not_opens {r : Record σ} (h : ¬ r.Opens) :
    r.routed = r.event.ordered r.moment := by
  unfold routed
  split
  · next hevent =>
    rw [if_neg fun hdialing => h (opens_iff.2 ⟨hevent, hdialing⟩), hevent]
    rfl
  · rfl

/-- What a new link has to send. -/
lemma routed_opened (m : Moment) {s : Session} (h : s.Dialing) (store : σ) :
    (Record.mk m .opened s store).routed = s.followUp m := if_pos h

variable [Storage σ]

/-- What the event did. -/
def turn (r : Record σ) : Turn σ :=
  step r.moment r.event r.session r.store

/-- The envelopes that the event wrote, each with its link. Heartbeats do not count. -/
def sent (r : Record σ) : List (Nat × Envelope) :=
  match r.event with
  | .beat => []
  | _ => r.turn.outbox.frames

end Record

variable [Storage σ]

/-- The events of a run, each with what it met. -/
def trace : List (Moment × Event) → Session → σ → List (Record σ)
  | [], _, _ => []
  | (m, event) :: rest, s, store =>
    ⟨m, event, s, store⟩ :: trace rest (step m event s store).session (step m event s store).store

/-! ### Lemmas -/

/-- A run in two parts ends as its second part does.

**Proof sketch.** Induction on the first part. -/
lemma run_append (xs ys : List (Moment × Event)) (s : Session) (store : σ) :
    (run (xs ++ ys) s store).1 = (run ys (run xs s store).1 (run xs s store).2.1).1 ∧
      (run (xs ++ ys) s store).2.1 = (run ys (run xs s store).1 (run xs s store).2.1).2.1 := by
  induction xs generalizing s store with
  | nil => exact ⟨rfl, rfl⟩
  | cons x rest ih =>
    obtain ⟨m, event⟩ := x
    exact ih (step m event s store).session (step m event s store).store

/-- The trace of a run in two parts.

**Proof sketch.** Induction on the first part. -/
lemma trace_append (xs ys : List (Moment × Event)) (s : Session) (store : σ) :
    trace (xs ++ ys) s store =
      trace xs s store ++ trace ys (run xs s store).1 (run xs s store).2.1 := by
  induction xs generalizing s store with
  | nil => rfl
  | cons x rest ih =>
    obtain ⟨m, event⟩ := x
    rw [List.cons_append, trace, ih, trace, List.cons_append]
    rfl

/-- A run ends with what its last event does. -/
lemma run_concat (pre : List (Moment × Event)) (m : Moment) (event : Event) (s : Session)
    (store : σ) :
    (run (pre ++ [(m, event)]) s store).1 =
        (step m event (run pre s store).1 (run pre s store).2.1).session ∧
      (run (pre ++ [(m, event)]) s store).2.1 =
        (step m event (run pre s store).1 (run pre s store).2.1).store :=
  run_append pre [(m, event)] s store

/-- The trace of a run ends with its last event. -/
lemma trace_concat (pre : List (Moment × Event)) (m : Moment) (event : Event) (s : Session)
    (store : σ) :
    trace (pre ++ [(m, event)]) s store =
      trace pre s store ++ [⟨m, event, (run pre s store).1, (run pre s store).2.1⟩] :=
  trace_append pre [(m, event)] s store

/-- **Induction along a run.** What every event keeps holds at the end of a run if it held at its
beginning.

**Proof sketch.** Induction on the events, for any session and storage to begin with. -/
lemma run_invariant {P : Session → σ → Prop} {events : List (Moment × Event)} {s : Session}
    {store : σ}
    (hstep : ∀ m event s store, (m, event) ∈ events → P s store →
      P (step m event s store).session (step m event s store).store) (h : P s store) :
    P (run events s store).1 (run events s store).2.1 := by
  induction events generalizing s store with
  | nil => exact h
  | cons x rest ih =>
    obtain ⟨m, event⟩ := x
    exact ih (fun m' event' s' store' hmem => hstep m' event' s' store' (by simp [hmem]))
      (hstep m event s store (by simp) h)

/-- **The same before every event.** What every event keeps holds before every event of a run if it
held at its beginning.

**Proof sketch.** Induction on the events, for any session and storage to begin with. -/
lemma trace_invariant {P : Session → σ → Prop} {events : List (Moment × Event)} {s : Session}
    {store : σ}
    (hstep : ∀ m event s store, (m, event) ∈ events → P s store →
      P (step m event s store).session (step m event s store).store) (h : P s store) :
    ∀ r ∈ trace events s store, P r.session r.store ∧ (r.moment, r.event) ∈ events := by
  induction events generalizing s store with
  | nil => simp [trace]
  | cons x rest ih =>
    obtain ⟨m, event⟩ := x
    intro r hr
    rcases List.mem_cons.1 hr with rfl | hr
    · exact ⟨h, by simp⟩
    · have hrest := ih (fun m' event' s' store' hmem => hstep m' event' s' store' (by simp [hmem]))
        (hstep m event s store (by simp) h) r hr
      exact ⟨hrest.1, by simp [hrest.2]⟩

/-- The first event of a trace meets what the run begins with, and the others are a run after it. -/
lemma trace_eq_cons {after : List (Record σ)} {r : Record σ} {events : List (Moment × Event)}
    {s : Session} {store : σ} (h : trace events s store = r :: after) :
    r.session = s ∧ r.store = store ∧
      ∃ rest, after = trace rest r.turn.session r.turn.store := by
  cases events with
  | nil => cases h
  | cons x rest =>
    obtain ⟨m, event⟩ := x
    obtain ⟨rfl, rfl⟩ := List.cons.inj h
    exact ⟨rfl, rfl, rest, rfl⟩

/-- A trace that is cut at an event cuts the run there.

**Proof sketch.** Induction on the events before the cut. -/
lemma trace_eq_append {before after : List (Record σ)} {r : Record σ}
    {events : List (Moment × Event)} {s : Session} {store : σ}
    (h : trace events s store = before ++ r :: after) :
    ∃ pre post, before = trace pre s store ∧ r.session = (run pre s store).1 ∧
      r.store = (run pre s store).2.1 ∧ after = trace post r.turn.session r.turn.store ∧
      events = pre ++ (r.moment, r.event) :: post := by
  induction before generalizing events s store with
  | nil =>
    cases events with
    | nil => simp [trace] at h
    | cons x rest =>
      obtain ⟨m, event⟩ := x
      obtain ⟨rfl, rfl⟩ := List.cons.inj h
      exact ⟨[], rest, rfl, rfl, rfl, rfl, rfl⟩
  | cons b before ih =>
    cases events with
    | nil => simp [trace] at h
    | cons x rest =>
      obtain ⟨m, event⟩ := x
      obtain ⟨rfl, hrest⟩ := List.cons.inj h
      obtain ⟨pre, post, hbefore, hs, hstore, hafter, hevents⟩ := ih hrest
      refine ⟨(m, event) :: pre, post, ?_, hs, hstore, hafter, ?_⟩
      · rw [trace, hbefore]
      · rw [hevents]
        rfl

/-! ### A run to look at -/

namespace Sample

open Messenger.Sample (epoch note)

/-- Settings with a server on the same machine. -/
def settings : Settings :=
  { endpoint := { origin := "ws://[::1]" } }

/-- Where that server is. -/
def target : Settings.Target :=
  ⟨⟨"ws".toList, [], some (.six [0, 0, 0, 0, 0, 0, 0, 1]), none, none⟩, "/messenger/ws", "token"⟩

/-- A moment at which links take the first `n` frames of an event. -/
def taking (n : Nat) : Moment :=
  ⟨0, epoch, "", (· < n), fun _ => .returned, true⟩

/-- A storage in which the first note waits. -/
def storage : Store.Memory :=
  ⟨[(settings.storage.queueKey, Envelope.encodeAll [note 1])]⟩

/-- The second note is sent before there is a link, and the third one while one is being opened. The
link takes two of the three, and then the user logs out. -/
def events : List (Moment × Event) :=
  [(taking 0, .command (.send (note 2))), (taking 0, .command (.connect "key" 0)),
    (taking 0, .command (.send (note 3))), (taking 2, .opened),
    (taking 0, .command (.disconnect 0))]

end Sample

end Messenger.Session
