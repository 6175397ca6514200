import Mathlib.Tactic.ByContra
import Messenger.Proofs.Session.History
import Messenger.Proofs.Session.Logout
import Messenger.Proofs.Session.WireOrder

set_option relaxedAutoImplicit false
set_option autoImplicit false

/-!
# The room of the user and the room of the server

The server takes the user to be in the room that the last frame has joined. Frames that join and
leave rooms wait with all others: some in storage, and some in memory while an attempt is under way.
A new link is offered those in memory first, although they came last. So a frame of old may be the
last one, and join a room that the user has left since.

## Main definitions

* `Messenger.Envelope.Fits`: an envelope joins or leaves a room as the user has done.
* `Messenger.Envelope.lastMove?`: the last of some envelopes that joins or leaves a room.
* `Messenger.Session.InStep`: in both queues, the last of these fits the room the user is in.
* `Messenger.Session.Record.Upsets`: the events that put a session out of step.
* `Messenger.Session.InStepSince`: the session was in step once, and no event has upset that since.

## Main results

* `Messenger.Session.inStep_step`: any other event keeps a session in step.
* `Messenger.Session.settled_sent_iff`: when the last such frame on a new link fits the room.
* `Messenger.Session.room_agreement`: it does so if the link joins the room again, or if the session
  was in step once and no event has upset that since.
* `Messenger.Session.room_joined_again`: it need not do so otherwise.
-/

namespace Messenger

/-! ### Envelopes that join and leave rooms -/

namespace Envelope

/-- The room that an envelope names. -/
def room? (e : Envelope) : Option Room :=
  match e.payload with
  | .object members =>
    match members.lookup "room_id" with
    | some (.int n) => n.toNat?
    | _ => none
  | _ => none

/-- The envelope joins or leaves a room. -/
def Moves (e : Envelope) : Prop :=
  e.kind = .joinRoom ∨ e.kind = .leaveRoom

instance (e : Envelope) : Decidable e.Moves :=
  inferInstanceAs (Decidable (_ ∨ _))

/-- If the envelope joins a room, that is the one the user is in; if it leaves one, it is not. -/
structure Fits (room : Option Room) (e : Envelope) : Prop where
  joined : ∀ r, e.kind = .joinRoom → e.room? = some r → room = some r
  left : ∀ r, e.kind = .leaveRoom → e.room? = some r → room ≠ some r

/-- The last of some envelopes that joins or leaves a room. -/
def lastMove? (es : List Envelope) : Option Envelope :=
  (es.filter fun e => e.Moves).getLast?

/-- If some envelopes join or leave rooms, the last of these fits the room the user is in. -/
def Settled (room : Option Room) (es : List Envelope) : Prop :=
  ∀ e ∈ lastMove? es, e.Fits room

variable {room : Option Room} {e : Envelope} {es es' : List Envelope}

/-- The last move of two lists is that of the second, if there is one there. -/
lemma lastMove?_append (es es' : List Envelope) :
    lastMove? (es ++ es') = (lastMove? es').or (lastMove? es) := by
  rw [lastMove?, List.filter_append, List.getLast?_append, lastMove?, lastMove?]

/-- An envelope that joins or leaves a room is the last move if it stands at the end. -/
lemma lastMove?_concat (he : e.Moves) (es : List Envelope) : lastMove? (es ++ [e]) = some e := by
  simp [lastMove?, he]

/-- No envelopes fit any room. -/
lemma settled_nil (room : Option Room) : Settled room [] := by
  simp [Settled, lastMove?]

/-- Two lists fit a room if both of them do, in either order. -/
lemma Settled.append (h : Settled room es) (h' : Settled room es') :
    Settled room (es ++ es') := by
  intro e he
  rw [lastMove?_append, Option.mem_def, Option.or_eq_some_iff] at he
  rcases he with he | ⟨-, he⟩
  · exact h' e he
  · exact h e he

/-- What is left of envelopes that fit a room fits it. -/
lemma Settled.drop (h : Settled room es) (n : Nat) : Settled room (es.drop n) := by
  intro e he
  refine h e ?_
  rw [← List.take_append_drop n es, lastMove?_append, Option.mem_def, Option.or_eq_some_iff]
  exact .inl he

/-- An envelope at the end that joins or leaves a room decides. -/
lemma settled_concat_iff (he : e.Moves) (es : List Envelope) :
    Settled room (es ++ [e]) ↔ e.Fits room := by
  simp [Settled, lastMove?_concat he]

/-- Any other envelope at the end makes no difference. -/
lemma settled_concat_of_not_moves (he : ¬ e.Moves) :
    Settled room (es ++ [e]) ↔ Settled room es := by
  simp [Settled, lastMove?, he]

/-- Envelopes that fit a room still do so with another one that does, if it joins or leaves one. -/
lemma Settled.concat (h : e.Moves ∨ Settled room es) (he : e.Moves → e.Fits room) :
    Settled room (es ++ [e]) := by
  by_cases hmoves : e.Moves
  · exact (settled_concat_iff hmoves es).2 (he hmoves)
  · exact (settled_concat_of_not_moves hmoves).2 (h.resolve_left hmoves)

end Envelope

namespace Session

variable {σ : Type}

/-! ### What an event does to the room -/

section Room

variable [Storage σ]

/-- Sending an envelope does not touch the room. -/
lemma Turn.room_route (m : Moment) (e : Envelope) (t : Turn σ) :
    (t.route m e).session.room = t.session.room := by
  rcases Turn.route_cases m e t with ⟨link, -, -, hroute⟩ | ⟨link, -, -, hroute⟩ |
    ⟨-, -, hroute⟩ | ⟨-, -, hroute⟩ <;> rw [hroute]
  · exact (Turn.quiet_lose m _).room
  · rfl

/-- Opening a link does not touch the room. -/
lemma Turn.room_succeed (m : Moment) (credential : String) (t : Turn σ) :
    (t.succeed m credential).session.room = t.session.room := by
  refine Turn.succeed_invariant (P := fun t' => t'.session.room = t.session.room) m ?_ ?_
    (Turn.quiet_welcome m credential t).room
  · intro h
    exact (Turn.room_flush m _).trans h
  · intro t' h
    rw [Turn.rejoin_eq]
    rcases Turn.rejoining_cases m t'.session with hnone | ⟨e, hone⟩
    · rw [hnone]
      exact h
    · rw [hone]
      exact (Turn.room_route m e _).trans h

/-- While the queue is hidden the user is in no room. -/
def Outdoors (s : Session) : Prop :=
  s.offline.detached = true → s.room = none

/-- An event that leaves the queue hidden leaves the user in no room. -/
lemma outdoors_step {s : Session} (ho : s.Orderly) (h : s.Outdoors) (m : Moment) (event : Event)
    (store : σ) : (step m event s store).session.Outdoors := by
  intro hhidden
  rcases (deed_step ho.coherent m event store).of_hidden ho rfl hhidden with ⟨hstill, -⟩ | hstill
  · rw [hstill.offline] at hhidden
    exact hstill.room.trans (h hhidden)
  · exact hstill.room

end Room

/-! ### Sessions in step -/

section InStep

variable [Storage σ]

/-- In both queues, if envelopes join or leave rooms the last of these fits the room the user is
in. -/
structure InStep (s : Session) (store : σ) : Prop where
  pending : Envelope.Settled s.room s.pending.items
  stored : ∀ now, Envelope.Settled s.room (s.offline.contents now store)

/-- While the queue is shown it is enough to look at what is in memory. -/
lemma InStep.of_shown {s : Session} (hshown : s.offline.detached = false) {store : σ}
    (hpending : Envelope.Settled s.room s.pending.items)
    (hitems : Envelope.Settled s.room s.offline.items) : s.InStep store := by
  refine ⟨hpending, fun now => ?_⟩
  rw [Queue.Offline.contents_of_shown hshown]
  exact hitems

/-- While there is a link the session is in step: nothing waits. -/
lemma InStep.of_link {s : Session} (ho : s.Orderly) (hlink : s.link.isSome) (store : σ) :
    s.InStep store := by
  obtain ⟨hitems, hshown⟩ := ho.clear hlink
  refine .of_shown hshown ?_ ?_
  · rw [ho.idle (ho.coherent.of_link hlink).2.1]
    exact Envelope.settled_nil s.room
  · rw [hitems]
    exact Envelope.settled_nil s.room

/-- A step that moves nothing keeps a session in step. -/
lemma InStep.still {t t' : Turn σ} (h : t.session.InStep t.store) (hstill : t.Still t') :
    t'.session.InStep t'.store := by
  refine ⟨?_, fun now => ?_⟩
  · rw [hstill.room, hstill.pending]
    exact h.pending
  · rw [hstill.room, hstill.offline, hstill.store]
    exact h.stored now

namespace Turn

variable {t : Turn σ}

/-- Showing the queue keeps a session in step. -/
lemma inStep_reveal (h : t.session.InStep t.store) (m : Moment) :
    (t.reveal m).session.InStep (t.reveal m).store := by
  refine .of_shown (Queue.Offline.detached_reattach m.stamp t.session.offline t.store) h.pending ?_
  show Envelope.Settled t.session.room (t.session.offline.reattach m.stamp t.store).1.items
  rw [Queue.Offline.items_reattach]
  exact h.stored m.stamp

/-- A session stays in step when what waits in memory moves to storage. -/
lemma inStep_spill (h : t.session.InStep t.store) (hshown : t.session.offline.detached = false)
    (m : Moment) : (t.spill m).session.InStep (t.spill m).store := by
  have hshown' := shown_spill hshown m
  refine .of_shown hshown' (Envelope.settled_nil t.session.room) ?_
  rw [← Queue.Offline.contents_of_shown hshown' m.stamp (t.spill m).store, contents_spill]
  exact (h.stored m.stamp).append h.pending

/-- An envelope names the room it was made for. -/
lemma room?_envelope (m : Moment) (kind : Kind) (r : Room) :
    (envelope m kind (Request.room r)).room? = some r := rfl

/-- To join a room fits it. -/
lemma fits_join (m : Moment) (r : Room) :
    (envelope m .joinRoom (Request.room r)).Fits (some r) := by
  refine ⟨fun r' _ hr' => ?_, fun r' hkind => ?_⟩
  · rwa [room?_envelope] at hr'
  · cases hkind

/-- To leave a room fits any other one. -/
lemma fits_leave (m : Moment) {r : Room} {room : Option Room} (h : room ≠ some r) :
    (envelope m .leaveRoom (Request.room r)).Fits room := by
  refine ⟨fun r' hkind => ?_, fun r' _ hr' => ?_⟩
  · cases hkind
  · rw [room?_envelope] at hr'
    rwa [← hr']

/-- The envelope by which the room is joined again fits it. -/
lemma fits_rejoining {m : Moment} {s : Session} {e : Envelope} (he : e ∈ s.rejoining m) :
    e.Moves ∧ e.Fits s.room := by
  unfold rejoining at he
  split at he
  · cases hroom : s.room with
    | none => simp [hroom] at he
    | some r =>
      obtain rfl : e = envelope m .joinRoom (Request.room r) := by simpa [hroom] using he
      exact ⟨.inl rfl, fits_join m r⟩
  · cases he

/-- What is offered to a new link fits the room if what waits does, or if the room is joined
again. -/
lemma settled_rejoining_iff (m : Moment) (s : Session) (es : List Envelope) :
    Envelope.Settled s.room (es ++ s.rejoining m) ↔
      s.rejoining m ≠ [] ∨ Envelope.Settled s.room es := by
  rcases rejoining_cases m s with hnone | ⟨e, hone⟩
  · simp [hnone]
  · obtain ⟨hmoves, hfits⟩ := fits_rejoining (m := m) (s := s) (e := e) (by simp [hone])
    rw [hone, Envelope.settled_concat_iff hmoves]
    simp [hfits]

/-- An envelope that waits in storage, with nothing in memory, leaves a session in step that it
fits, or that was so before if it neither joins nor leaves a room. -/
lemma inStep_keep (m : Moment) {e : Envelope} (hpending : t.session.pending.items = [])
    (hbefore : e.Moves ∨ t.session.InStep t.store) (he : e.Moves → e.Fits t.session.room) :
    (t.keep m e).session.InStep (t.keep m e).store := by
  refine .of_shown (Queue.Offline.detached_push m.stamp e t.session.offline t.store) ?_ ?_
  · show Envelope.Settled t.session.room t.session.pending.items
    rw [hpending]
    exact Envelope.settled_nil t.session.room
  · show Envelope.Settled t.session.room (t.session.offline.push m.stamp e t.store).1.items
    rw [Queue.Offline.items_push]
    exact .concat (hbefore.imp_right fun h => h.stored m.stamp) he

/-- An envelope that is sent leaves a session in step if it is written or fits the room, provided
that nothing which waits in storage contradicts the room while the envelope waits in memory. If it
neither joins nor leaves a room, the session has to be in step before.

**Proof sketch.** One case for each way that an envelope can go. With a link left nothing waits. An
envelope that is refused or has no link to go to comes last in storage, one that waits for an
attempt comes last in memory, and so it decides there if it joins or leaves a room. -/
lemma inStep_route (ho : t.session.Orderly) (hempty : t.outbox = .empty) (m : Moment) {e : Envelope}
    (hbefore : e.Moves ∨ t.session.InStep t.store)
    (he : (t.route m e).outbox.frames = [] → e.Moves → e.Fits t.session.room)
    (hstored : t.session.attempt.isSome → ∀ now,
      Envelope.Settled t.session.room (t.session.offline.contents now t.store)) :
    (t.route m e).session.InStep (t.route m e).store := by
  have hframes := frames_route m e t
  rw [hempty, show Outbox.empty.frames = [] from rfl, List.nil_append] at hframes
  rcases route_cases m e t with ⟨link, hlink, htakes, hroute⟩ | ⟨link, hlink, htakes, hroute⟩ |
    ⟨hlink, hattempt, hroute⟩ | ⟨hlink, hattempt, hroute⟩
  · refine .of_link (orderly_route ho m e) ?_ _
    rw [hroute]
    exact Option.isSome_iff_exists.2 ⟨link, hlink⟩
  · -- While the link was there nothing waited in memory.
    have hpending := ho.idle (ho.coherent.of_link (Option.isSome_iff_exists.2 ⟨link, hlink⟩)).2.1
    have hfits := he (by rw [hframes, ← hempty, if_neg htakes])
    rw [hroute]
    exact (inStep_keep (t := { t with outbox := { t.outbox with offers := t.outbox.offers + 1 } })
      m hpending hbefore hfits).still (quiet_lose m _).toStill
  · have hfits := he (by simp [hframes, hlink])
    rw [hroute]
    exact ⟨.concat (hbefore.imp_right InStep.pending) hfits, hstored hattempt⟩
  · have hfits := he (by simp [hframes, hlink])
    rw [hroute]
    exact inStep_keep m (ho.idle hattempt) hbefore hfits

/-- A session in step stays so when a link is opened: what the link does not take is the end of what
has been offered to it.

**Proof sketch.** What a new link leaves is the end of one list, of what was in memory, what was in
storage and joining the room. The first two are settled, the third fits by itself, and so is every
end of all three. -/
lemma inStep_succeed (h : t.session.InStep t.store) (hshown : t.session.offline.detached = false)
    (hoffers : t.outbox.offers = 0) (m : Moment) (credential : String) :
    (t.succeed m credential).session.InStep (t.succeed m credential).store := by
  obtain ⟨es, hes⟩ : ∃ es, es = t.session.waiting ++ t.session.followUp m := ⟨_, rfl⟩
  have hoffered := offered_succeed hshown hoffers m credential hes
  have hstored := h.stored m.stamp
  rw [Queue.Offline.contents_of_shown hshown] at hstored
  have hwaiting : Envelope.Settled t.session.room t.session.waiting := h.pending.append hstored
  have hall : Envelope.Settled t.session.room es := by
    rw [hes, followUp]
    split
    · exact (settled_rejoining_iff m t.session _).2 (.inr hwaiting)
    · rwa [List.append_nil]
  refine .of_shown hoffered.shown ?_ ?_ <;> rw [room_succeed]
  · rw [hoffered.pending]
    exact Envelope.settled_nil t.session.room
  · rw [hoffered.items]
    exact hall.drop _

end Turn

/-! ### Events that upset -/

/-- The event puts a session out of step. A frame that joins or leaves a room, but not as the user
has done, is sent and has to wait. Or the user changes the room while an attempt is under way and an
older frame in storage, which the new link will be offered last, contradicts the new room. Or the
user logs out, and so leaves the room, but leaves in storage a frame by which a room is joined. -/
def Record.Upsets (r : Record σ) : Prop :=
  match r.event with
  | .command (.send e) => e.Moves ∧ ¬ e.Fits r.session.room ∧ r.sent = []
  | .command (.join room) =>
    r.session.attempt.isSome ∧ ¬ Envelope.Settled (some room) r.session.offline.items
  | .command (.leave room) =>
    r.session.attempt.isSome ∧ r.session.room = some room ∧
      ¬ Envelope.Settled none r.session.offline.items
  | .command (.disconnect _) =>
    ¬ ∀ now, Envelope.Settled none (r.turn.session.offline.contents now r.turn.store)
  | _ => False

/-- The session was in step once, and neither the event that met it so nor any since then has upset
that. -/
def InStepSince (past : List (Record σ)) : Prop :=
  Since (fun _ r => r.session.InStep r.store ∧ ¬ r.Upsets) (fun r => ¬ r.Upsets) past

/-- What can be done to what waits keeps a session in step if nothing has to be sent, and the queue
is not hidden. -/
lemma Deed.inStep {m : Moment} {t t' : Turn σ} {routed : List Envelope}
    {sent : List (Nat × Envelope)} (hdeed : Deed m t routed sent t') (hrouted : routed = [])
    (ho : t.session.Orderly) (hoffers : t.outbox.offers = 0) (h : t.session.InStep t.store)
    (hhides : ((t.rememberRoom none).spill m).hide.Still t' → t'.session.InStep t'.store) :
    t'.session.InStep t'.store := by
  cases hdeed with
  | rests unsent still => exact h.still still
  | begins unsent still => exact (Turn.inStep_reveal h m).still still
  | sends e room => cases hrouted
  | fails unsent still before => exact (Turn.inStep_spill h (ho.shown before) m).still still
  | logsOut unsent still => exact hhides still
  | opens credential dialing link =>
    exact Turn.inStep_succeed h (ho.shown dialing.isSome) hoffers m credential

/-- A session stays in step when the user sends an envelope that does not upset it. -/
lemma inStep_send {s : Session} {store : σ} (ho : s.Orderly) (h : s.InStep store) {m : Moment}
    {e : Envelope} (hupsets : ¬ (Record.mk m (.command (.send e)) s store).Upsets) :
    (step m (.command (.send e)) s store).session.InStep
      (step m (.command (.send e)) s store).store := by
  refine Turn.inStep_route (t := s.turn store) ho rfl m (.inr h) ?_ fun _ => h.stored
  intro hsent hmoves
  by_contra hfits
  exact hupsets ⟨hmoves, hfits, hsent⟩

/-- A session is in step after the user has joined a room, if that does not upset it. -/
lemma inStep_join {s : Session} (ho : s.Orderly) {m : Moment} {r : Room} {store : σ}
    (hupsets : ¬ (Record.mk m (.command (.join r)) s store).Upsets) :
    (step m (.command (.join r)) s store).session.InStep
      (step m (.command (.join r)) s store).store := by
  have hafter := Turn.orderly_rememberRoom (t := s.turn store) ho (some r)
  refine Turn.inStep_route (t := (s.turn store).rememberRoom (some r)) hafter rfl m
    (.inl (.inl rfl)) (fun _ _ => Turn.fits_join m r) ?_
  intro hattempt now
  rw [Queue.Offline.contents_of_shown (hafter.shown hattempt)]
  by_contra hstored
  exact hupsets ⟨hattempt, hstored⟩

/-- A session in step stays so when the user leaves a room, if that does not upset it.

**Proof sketch.** By whether the user is in that room. If so the user is in none then, and the
envelope that leaves it fits that; what is in storage must not contradict it, or the event would be
one that upsets. If not, the room stays as it is. -/
lemma inStep_leave {s : Session} {store : σ} (ho : s.Orderly) (h : s.InStep store) {m : Moment}
    {r : Room} (hupsets : ¬ (Record.mk m (.command (.leave r)) s store).Upsets) :
    (step m (.command (.leave r)) s store).session.InStep
      (step m (.command (.leave r)) s store).store := by
  by_cases hroom : s.room = some r
  · have hstep : step m (.command (.leave r)) s store =
        ((s.turn store).rememberRoom none).route m
          (Turn.envelope m .leaveRoom (Request.room r)) := by
      show (if s.room = some r then (s.turn store).rememberRoom none else s.turn store).route m
        _ = _
      rw [if_pos hroom]
    have hafter := Turn.orderly_rememberRoom (t := s.turn store) ho none
    rw [hstep]
    refine Turn.inStep_route hafter rfl m (.inl (.inr rfl))
      (fun _ _ => Turn.fits_leave m (by simp [Turn.rememberRoom])) ?_
    intro hattempt now
    rw [Queue.Offline.contents_of_shown (hafter.shown hattempt)]
    by_contra hstored
    exact hupsets ⟨hattempt, hroom, hstored⟩
  · have hstep : step m (.command (.leave r)) s store =
        (s.turn store).route m (Turn.envelope m .leaveRoom (Request.room r)) := by
      show (if s.room = some r then (s.turn store).rememberRoom none else s.turn store).route m
        _ = _
      rw [if_neg hroom]
    rw [hstep]
    exact Turn.inStep_route (t := s.turn store) ho rfl m (.inl (.inr rfl))
      (fun _ _ => Turn.fits_leave m hroom) fun _ => h.stored

/-- A session is in step after the user has logged out, if that does not upset it: nothing waits but
what is hidden in storage. -/
lemma inStep_disconnect {m : Moment} {caller : Nat} {s : Session} {store : σ}
    (hupsets : ¬ (Record.mk m (.command (.disconnect caller)) s store).Upsets) :
    (step m (.command (.disconnect caller)) s store).session.InStep
      (step m (.command (.disconnect caller)) s store).store := by
  have hroom : (step m (.command (.disconnect caller)) s store).session.room = none :=
    (Turn.quiet_disconnect m caller (s.turn store)).room
  refine ⟨?_, ?_⟩ <;> rw [hroom]
  · rw [(hidden_disconnect m caller s store).2]
    exact Envelope.settled_nil none
  · by_contra hstored
    exact hupsets hstored

section Honest

variable {queueKey roomKey : String} {sound : σ → Prop} {held : String → σ → Option String}
  (honest : Storage.Honest [queueKey, roomKey] sound held)
  (hreads : ∀ s : σ, sound s → (Storage.read queueKey s).1 = .ok (held queueKey s))
  (hne : queueKey ≠ roomKey)

include honest hreads hne

/-- **Only a few events upset a session in step.** A session in step stays so by every event that
does not upset it.

**Proof sketch.** Sending, joining, leaving, logging out and opening a link have each their own
lemma. All other events have nothing to send, and then what is done to what waits keeps the session
in step (`Deed.inStep`); if the queue is hidden by that, it was hidden before, and the user in no
room. -/
theorem inStep_step {s : Session} {store : σ} (hover : Over queueKey roomKey sound s store)
    (ho : s.Orderly) (houtdoors : s.Outdoors) (h : s.InStep store) {m : Moment} {event : Event}
    (hupsets : ¬ (Record.mk m event s store).Upsets) :
    (step m event s store).session.InStep (step m event s store).store := by
  have hothers : (Record.mk m event s store).routed = [] →
      (∀ caller, event ≠ .command (.disconnect caller)) →
      (step m event s store).session.InStep (step m event s store).store := by
    intro hrouted hevent
    refine (deed_step ho.coherent m event store).inStep hrouted ho rfl h fun hstill => ?_
    -- The queue was hidden before, and then the user was in no room.
    obtain ⟨hhidden, hpending, hsame⟩ := unsent_of_hides honest hreads hne hover ho hevent hstill
    have hroom : (step m event s store).session.room = s.room :=
      hstill.room.trans (houtdoors hhidden).symm
    have hnothing : (step m event s store).session.pending.items = [] :=
      congrArg Queue.Pending.items hstill.pending
    refine ⟨?_, fun now => ?_⟩ <;> rw [hroom]
    · rw [hnothing]
      exact Envelope.settled_nil s.room
    · have hcontents := hsame now
      rw [unsent, unsent, hnothing, hpending, List.nil_append, List.nil_append] at hcontents
      rw [hcontents]
      exact h.stored now
  cases event with
  | command c =>
    cases c with
    | send e => exact inStep_send ho h hupsets
    | join r => exact inStep_join ho hupsets
    | leave r => exact inStep_leave ho h hupsets
    | disconnect caller => exact inStep_disconnect hupsets
    | _ => exact hothers rfl (by simp)
  | opened =>
    by_cases hdialing : s.Dialing
    · obtain ⟨credential, hturn⟩ := Record.turn_of_opens (r := ⟨m, .opened, s, store⟩)
        ⟨trivial, hdialing⟩
      rw [Record.turn] at hturn
      rw [hturn]
      exact Turn.inStep_succeed (t := s.turn store) h (ho.shown hdialing.isSome) rfl m credential
    · exact hothers (if_neg hdialing) (by simp)
  | _ => exact hothers rfl (by simp)

/-- In every run a session is in step if it has been so once, and no event has upset that since.

**Proof sketch.** Along the run its past is kept in view (`history_trace`), with what `inStep_step`
asks for: the storage is sound, what waits is in order, and a hidden queue means no room. -/
lemma inStep_trace {s : Session} {store : σ} (hover : Over queueKey roomKey sound s store)
    (ho : s.Orderly) (houtdoors : s.Outdoors) {events : List (Moment × Event)}
    {before after : List (Record σ)} {r : Record σ}
    (htrace : trace events s store = before ++ r :: after) :
    r.session.Orderly ∧ (InStepSince before → r.session.InStep r.store) := by
  have hkept := history_trace
    (P := fun past s store => Over queueKey roomKey sound s store ∧ s.Orderly ∧ s.Outdoors ∧
      (InStepSince past → s.InStep store)) ?_ ⟨hover, ho, houtdoors, ?_⟩ htrace
  · exact ⟨hkept.2.1, hkept.2.2.2⟩
  · intro past x _ ⟨hover, ho, houtdoors, hpast⟩
    refine ⟨(over_upkeep honest x.moment).step ho.coherent hover fun _ _ => trivial,
      orderly_step ho x.moment x.event x.store,
      outdoors_step ho houtdoors x.moment x.event x.store, fun hsince => ?_⟩
    rcases hsince.concat_cases with ⟨hinStep, hupsets⟩ | ⟨hsince, hupsets⟩
    · exact inStep_step honest hreads hne hover ho houtdoors hinStep hupsets
    · exact inStep_step honest hreads hne hover ho houtdoors (hpast hsince) hupsets
  · rintro ⟨_, _, _, hnil, -⟩
    simp at hnil

end Honest

/-! ### New links -/

/-- A new link that refuses nothing writes what waited in memory, what waited in storage, and
joining the room again. -/
lemma Record.sent_of_unrefused {r : Record σ} (ho : r.session.Orderly) (hr : r.Opens)
    (hunrefused : r.Unrefused) :
    r.sent.map (·.2) =
      r.session.pending.items ++ r.session.offline.items ++ r.session.rejoining r.moment := by
  obtain ⟨es, hes⟩ : ∃ es, es = r.session.waiting ++ r.session.followUp r.moment := ⟨_, rfl⟩
  obtain ⟨hoffered, hsent⟩ := r.offered ho hr hes
  have htakes := r.takes_of_unrefused hoffered hunrefused
  have hframes := hoffered.frames
  rw [htakes, List.take_length] at hframes
  show r.sent.map (·.2) = r.session.waiting ++ r.session.rejoining r.moment
  rw [hsent, hframes, ← offered_of_taken hes htakes]
  simp [Session.turn, Outbox.frames, Outbox.empty, Function.comp_def]

/-- **What decides about the last move on a new link.** What a new link writes that refuses nothing
fits the room exactly if the room is joined again, or if what waited did so.

**Proof sketch.** Such a link is written all that waits and then joining the room, and to open it
does not touch the room. If the room is joined this comes last and fits. -/
theorem settled_sent_iff {r : Record σ} (ho : r.session.Orderly) (hr : r.Opens)
    (hunrefused : r.Unrefused) :
    Envelope.Settled r.turn.session.room (r.sent.map (·.2)) ↔
      r.session.rejoining r.moment ≠ [] ∨
        Envelope.Settled r.session.room (r.session.pending.items ++ r.session.offline.items) := by
  obtain ⟨credential, hturn⟩ := r.turn_of_opens hr
  have hroom : r.turn.session.room = r.session.room := by
    rw [hturn]
    exact Turn.room_succeed r.moment credential (r.session.turn r.store)
  rw [hroom, r.sent_of_unrefused ho hr hunrefused]
  exact Turn.settled_rejoining_iff r.moment r.session _

/-- **When the server is in the room of the user.** A new link that refuses nothing writes what
waited in memory, then what waited in storage, and then joining the room again if that is due. The
last of these that joins or leaves a room fits the room the user is in exactly if the room is joined
again, or if the last of those that waited did so. That is the case if the session was in step once,
and no event has upset that since. Readings of the storage succeed, but writings may fail.

**Proof sketch.** A link that refuses nothing writes all that waits (`sent_of_unrefused`), and what
it writes last decides (`settled_sent_iff`). If the session is in step before the event, then both
queues are settled, and so is one behind the other. That is so if it was once, since every event
keeps it that does not upset it (`inStep_trace`). -/
theorem room_agreement {settings : Settings} {target : Settings.Target} {began : Timestamp}
    {sound : σ → Prop} {held : String → σ → Option String} {stored store : σ} {s : Session}
    {events : List (Moment × Event)} (hsettings : settings.target = .ok target)
    (honest : Storage.Honest [settings.storage.queueKey, settings.storage.roomKey] sound held)
    (hreads : ∀ s : σ, sound s →
      (Storage.read settings.storage.queueKey s).1 = .ok (held settings.storage.queueKey s))
    (hsound : sound stored) (hstart : start began settings target stored = (s, store))
    {before after : List (Record σ)} {r : Record σ}
    (htrace : trace events s store = before ++ r :: after) (hr : r.Opens)
    (hunrefused : r.Unrefused) :
    r.sent.map (·.2) =
        r.session.pending.items ++ r.session.offline.items ++ r.session.rejoining r.moment ∧
      (Envelope.Settled r.turn.session.room (r.sent.map (·.2)) ↔
        r.session.rejoining r.moment ≠ [] ∨
          Envelope.Settled r.session.room (r.session.pending.items ++ r.session.offline.items)) ∧
      (InStepSince (before ++ [r]) →
        Envelope.Settled r.turn.session.room (r.sent.map (·.2))) := by
  have hne := Settings.queueKey_ne_roomKey hsettings
  have houtdoors : s.Outdoors := by
    obtain ⟨rfl, -⟩ := Prod.ext_iff.1 hstart
    intro hhidden
    cases hhidden
  obtain ⟨ho, hbefore⟩ := inStep_trace honest hreads hne
    (over_start honest hstart ⟨rfl, rfl⟩ hsound) (orderly_start hstart) houtdoors htrace
  have hsettled := settled_sent_iff ho hr hunrefused
  refine ⟨r.sent_of_unrefused ho hr hunrefused, hsettled, fun hsince => hsettled.2 (.inr ?_)⟩
  have hinStep : r.session.InStep r.store := by
    rcases hsince.concat_cases with ⟨hinStep, -⟩ | ⟨hsince, -⟩
    · exact hinStep
    · exact hbefore hsince
  have hshown := ho.shown (Record.opens_iff.1 hr).2.isSome
  rw [← Queue.Offline.contents_of_shown hshown r.moment.stamp r.store]
  exact hinStep.pending.append (hinStep.stored r.moment.stamp)

end InStep

namespace Sample

open Messenger.Sample (note)

/-- A storage in which nothing waits, and which takes all texts. -/
def vacant : Store.Planned :=
  ⟨⟨[]⟩, [], []⟩

/-- The user joins a room before there is a link, and sends a note while one is being opened. -/
def joining : List (Moment × Event) :=
  [(taking 0, .command (.join 1)), (taking 0, .command (.connect "key" 0)),
    (taking 0, .command (.send (note 2))), (taking 2, .opened)]

/-- No event of that run upsets the session, if there is no attempt at its beginning. -/
lemma not_upsets_joining {s : Session} (hattempt : s.attempt = none) (store : Store.Planned) :
    ∀ r ∈ trace joining s store, ¬ r.Upsets := by
  intro r hr hupsets
  rcases List.mem_cons.1 hr with rfl | hr
  · have hsome : s.attempt.isSome := hupsets.1
    rw [hattempt] at hsome
    cases hsome
  · have hmem := (trace_invariant (P := fun _ _ => True) (fun _ _ _ _ _ _ => trivial) trivial r
      hr).2
    obtain ⟨m, event, s', store'⟩ := r
    simp only [List.mem_cons, Prod.mk.injEq, List.not_mem_nil, or_false] at hmem
    rcases hmem with ⟨-, rfl⟩ | ⟨-, rfl⟩ | ⟨-, rfl⟩
    · exact hupsets
    · rcases hupsets.1 with hkind | hkind <;> cases hkind
    · exact hupsets

end Sample

/-- The note is written first, and then that the user joins the room that the user is in.

**Proof sketch.** The storage answers every reading, and the run begins in step with two empty
queues. No event of it upsets that, so that the last part of the theorem applies. -/
theorem room_agreement_joining :
    ∃ s store before r,
      start Sample.epoch Sample.settings Sample.target Sample.vacant = (s, store) ∧
      trace Sample.joining s store = before ++ [r] ∧
      Envelope.Settled r.turn.session.room (r.sent.map (·.2)) ∧
      r.turn.session.room = some 1 ∧
      Envelope.lastMove? (r.sent.map (·.2)) =
        some (Turn.envelope (Sample.taking 0) .joinRoom (Request.room 1)) := by
  obtain ⟨first, hfirst⟩ : ∃ first,
    start Sample.epoch Sample.settings Sample.target Sample.vacant = first := ⟨_, rfl⟩
  have htrace := trace_concat (Sample.joining.take 3) (Sample.taking 2) .opened first.1 first.2
  have hupsets := Sample.not_upsets_joining (s := first.1) (by rw [← hfirst]; rfl) first.2
  have hinStep : first.1.InStep first.2 := by
    rw [← hfirst]
    exact .of_shown rfl (Envelope.settled_nil _) (Envelope.settled_nil _)
  have hagreement := (room_agreement rfl
    (Store.honest_planned _ (fun readings _ => readings = []) ?_) ?_ rfl hfirst htrace ?_ ?_).2.2
    ⟨[], _, _, htrace.symm, ⟨hinStep, hupsets _ List.mem_cons_self⟩,
      fun r hr => hupsets r (List.mem_cons_of_mem _ hr)⟩
  · refine ⟨first.1, first.2, _, _, hfirst, htrace, hagreement, ?_, ?_⟩ <;> rw [← hfirst] <;> rfl
  · rintro readings writings rfl
    exact ⟨rfl, rfl⟩
  · intro s hs
    simp [Storage.read, hs, Store.Planned.held]
  · rw [← hfirst]
    exact ⟨trivial, _, _, rfl⟩
  · rw [← hfirst]
    exact fun i hi => decide_eq_true (show i < 2 from hi)

namespace Sample

/-- The user joins a room before there is a link, and leaves it while one is being opened. -/
def leavingLate : List (Moment × Event) :=
  [(taking 0, .command (.join 1)), (taking 0, .command (.connect "key" 0)),
    (taking 0, .command (.leave 1)), (taking 2, .opened)]

/-- The user joins a room before there is a link, logs out, and connects. -/
def returning : List (Moment × Event) :=
  [(taking 0, .command (.join 1)), (taking 0, .command (.disconnect 0)),
    (taking 0, .command (.connect "key" 1)), (taking 1, .opened)]

/-- The user sends a frame that joins a room, but does not join it, and connects. -/
def pretending : List (Moment × Event) :=
  [(taking 0, .command (.send (Turn.envelope (taking 0) .joinRoom (Request.room 1)))),
    (taking 0, .command (.connect "key" 0)), (taking 1, .opened)]

end Sample

/-- **The server can be left in a room that the user has left.** A new link takes all that waits,
and at last that the user joins a room, but the user is in none: the user has left the room while
the link was being opened, or has logged out, or has never joined the room by more than a frame.

**Proof sketch.** The three runs are computed up to the link. There the last move joins the first
room, and the user is in no room. -/
theorem room_joined_again :
    ∃ s store, start Sample.epoch Sample.settings Sample.target Sample.vacant = (s, store) ∧
      ∀ events ∈ [Sample.leavingLate, Sample.returning, Sample.pretending], ∃ before r,
        trace events s store = before ++ [r] ∧ r.Opens ∧ r.Unrefused ∧
        r.turn.session.room = none ∧
        (Envelope.lastMove? (r.sent.map (·.2))).map (fun e => (e.kind, e.room?)) =
          some (.joinRoom, some 1) ∧
        ¬ Envelope.Settled r.turn.session.room (r.sent.map (·.2)) := by
  have hcontradicts : ∀ r : Record Store.Planned, r.turn.session.room = none →
      (Envelope.lastMove? (r.sent.map (·.2))).map (fun e => (e.kind, e.room?)) =
        some (.joinRoom, some 1) →
      r.turn.session.room = none ∧
        (Envelope.lastMove? (r.sent.map (·.2))).map (fun e => (e.kind, e.room?)) =
          some (.joinRoom, some 1) ∧
        ¬ Envelope.Settled r.turn.session.room (r.sent.map (·.2)) := by
    intro r hroom hlast
    refine ⟨hroom, hlast, fun hsettled => ?_⟩
    obtain ⟨e, he, hjoins⟩ := Option.map_eq_some_iff.1 hlast
    obtain ⟨hkind, hnamed⟩ := Prod.ext_iff.1 hjoins
    have hjoined := (hsettled e he).joined 1 hkind hnamed
    rw [hroom] at hjoined
    cases hjoined
  refine ⟨_, _, rfl, fun events hevents => ?_⟩
  simp only [List.mem_cons, List.not_mem_nil, or_false] at hevents
  rcases hevents with rfl | rfl | rfl
  · exact ⟨_, _, trace_concat (Sample.leavingLate.take 3) (Sample.taking 2) .opened _ _,
      ⟨trivial, _, _, rfl⟩, fun i hi => decide_eq_true (show i < 2 from hi),
      hcontradicts _ rfl (by decide +kernel)⟩
  · exact ⟨_, _, trace_concat (Sample.returning.take 3) (Sample.taking 1) .opened _ _,
      ⟨trivial, _, _, rfl⟩, fun i hi => decide_eq_true (show i < 1 from hi),
      hcontradicts _ rfl (by decide +kernel)⟩
  · exact ⟨_, _, trace_concat (Sample.pretending.take 2) (Sample.taking 1) .opened _ _,
      ⟨trivial, _, _, rfl⟩, fun i hi => decide_eq_true (show i < 1 from hi),
      hcontradicts _ rfl (by decide +kernel)⟩

end Session

end Messenger
