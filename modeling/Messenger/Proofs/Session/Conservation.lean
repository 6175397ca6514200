import Messenger.Proofs.Session.Kept
import Messenger.Proofs.Session.Orderly

set_option relaxedAutoImplicit false
set_option autoImplicit false

/-!
# No envelope is lost, and none is written twice

Over a reliable storage every envelope is in one place only: it has been written on a link, or it
waits in memory, or it waits in storage. Events move envelopes from one place to another, and bring
in those that are to be sent.

## Main definitions

* `Messenger.Session.unsent`: the envelopes that wait.

## Main results

* `Messenger.Session.Deed.perm_unsent`: over any storage only to log out may lose envelopes.
* `Messenger.Session.Deed.conserves`: over a reliable one no event loses an envelope or makes one
  up.
* `Messenger.Session.conservation`: nor does a run.
-/

namespace Messenger.Session

variable {σ : Type} [Storage σ]

/-- The envelopes that wait: those in memory, and those that the queue in storage holds. -/
def unsent (now : Timestamp) (s : Session) (store : σ) : List Envelope :=
  s.pending.items ++ s.offline.contents now store

/-! ### Accounts -/

/-- An envelope that is sent is written or waits, and all others stay where they are.

**Proof sketch.** By where the envelope goes: it is written, it joins what waits in memory, or it
joins what waits in storage. In each of these places it stands last. -/
lemma Account.perm_route (m : Moment) (link : Option Nat) (attempting : Bool) (e : Envelope)
    (a : Account) :
    ((a.route m link attempting e).frames.map (·.2) ++
        ((a.route m link attempting e).pending ++ (a.route m link attempting e).stored)).Perm
      (a.frames.map (·.2) ++ (a.pending ++ a.stored) ++ [e]) := by
  have hkeep : ∀ xs ys zs : List Envelope,
      (xs ++ (ys ++ (zs ++ [e]))).Perm (xs ++ (ys ++ zs) ++ [e]) := by
    intro xs ys zs
    simp
  unfold Account.route
  cases link with
  | some link =>
    unfold Account.offer
    dsimp only
    split
    · rw [List.map_append, List.append_assoc, List.append_assoc]
      exact (List.perm_append_comm).append_left _
    · exact hkeep _ _ _
  | none =>
    dsimp only
    split
    · rw [List.append_assoc, List.append_assoc, List.append_assoc]
      exact ((List.perm_append_comm).append_left _).append_left _
    · exact hkeep _ _ _

variable {queueKey roomKey : String} {sound : σ → Prop}

/-- What waits does not depend on when one looks. -/
lemma Kept.unsent_eq {s : Session} {store : σ} (h : Kept queueKey roomKey sound s store)
    (now now' : Timestamp) : s.unsent now store = s.unsent now' store := by
  rw [unsent, unsent, h.queue.contents_eq now now']

/-- A step that moves nothing leaves alone what waits. -/
lemma Turn.Still.unsent_eq {t t' : Turn σ} (h : t.Still t') (now : Timestamp) :
    t'.session.unsent now t'.store = t.session.unsent now t.store := by
  rw [unsent, unsent, h.pending, h.offline, h.store]

/-- Showing the queue leaves alone what waits. -/
lemma Turn.unsent_reveal (m : Moment) (t : Turn σ) :
    (t.reveal m).session.unsent m.stamp (t.reveal m).store = t.session.unsent m.stamp t.store :=
  congrArg (fun a => a.pending ++ a.stored) (Turn.account_reveal m t)

/-- What waits in memory waits all the same when it has moved to storage. -/
lemma Turn.perm_spill (m : Moment) (t : Turn σ) :
    ((t.spill m).session.unsent m.stamp (t.spill m).store).Perm
      (t.session.unsent m.stamp t.store) := by
  have hspilled : (t.spill m).session.pending.items = [] := rfl
  rw [unsent, unsent, Turn.contents_spill, hspilled, List.nil_append]
  exact List.perm_append_comm

/-- While the queue is shown, what waits is in memory. -/
lemma unsent_of_shown {s : Session} (h : s.offline.detached = false) (now : Timestamp)
    (store : σ) : s.unsent now store = s.waiting := by
  rw [unsent, Queue.Offline.contents_of_shown h, waiting]

/-- **Only to log out may lose anything.** What can be done to what waits loses no envelope and
makes none up, whatever the storage does, if to remember a room leaves alone the queue there. Only
to log out may lose some, since it hides what waits and leaves it to the storage.

**Proof sketch.** What an event has to send is written or waits, and what has waited is written or
still waits. Unless nothing is done, the queue is shown afterwards, so that it does not matter when
one looks. -/
lemma Deed.perm_unsent {m : Moment} {t t' : Turn σ} {routed : List Envelope}
    {sent : List (Nat × Envelope)} (hdeed : Deed m t routed sent t') (ho : t.session.Orderly)
    (hempty : t.outbox = .empty)
    (hroom : ∀ room now, (t.rememberRoom room).session.offline.contents now
      (t.rememberRoom room).store = t.session.offline.contents now t.store) (now : Timestamp) :
    (∃ before, (sent.map (·.2) ++ t'.session.unsent now t'.store).Perm
      (t.session.unsent before t.store ++ routed)) ∨
    (sent = [] ∧ routed = [] ∧ ((t.rememberRoom none).spill m).hide.Still t') := by
  cases hdeed with
  | rests hsent still =>
    refine .inl ⟨now, ?_⟩
    rw [hsent, still.unsent_eq, List.append_nil]
    exact List.Perm.refl _
  | begins hsent still =>
    have hshown : (t.reveal m).session.offline.detached = false :=
      Queue.Offline.detached_reattach m.stamp t.session.offline t.store
    have hsame := Turn.unsent_reveal m t
    rw [unsent_of_shown hshown] at hsame
    refine .inl ⟨m.stamp, ?_⟩
    rw [hsent, still.unsent_eq, unsent_of_shown hshown, hsame, List.append_nil]
    exact List.Perm.refl _
  | @sends t₁ e room =>
    -- The room may be stored before, which leaves alone what waits.
    obtain ⟨-, houtbox, hpending⟩ := Deed.room_change room
    have hsame : t₁.session.unsent m.stamp t₁.store = t.session.unsent m.stamp t.store := by
      rw [unsent, unsent, hpending]
      rcases room with rfl | rfl | ⟨r, -, rfl⟩
      · rfl
      · rw [hroom]
      · rw [hroom]
    have hshown := Turn.shown_route_of_orderly (Deed.orderly_room room ho) m e
    have hframes : (t₁.account m.stamp).frames = [] := by
      show t₁.outbox.frames = []
      rw [houtbox, hempty]
      rfl
    have hperm := (t₁.account m.stamp).perm_route m t₁.session.link t₁.session.attempt.isSome e
    rw [← Turn.account_route, hframes] at hperm
    refine .inl ⟨m.stamp, ?_⟩
    rw [← hsame, unsent_of_shown hshown, ← unsent_of_shown hshown m.stamp (t₁.route m e).store]
    exact hperm
  | fails hsent still before =>
    have hshown := Turn.shown_spill (ho.shown before) m
    refine .inl ⟨m.stamp, ?_⟩
    rw [hsent, still.unsent_eq, unsent_of_shown hshown,
      ← unsent_of_shown hshown m.stamp (t.spill m).store, List.append_nil]
    exact Turn.perm_spill m t
  | logsOut hsent still => exact .inr ⟨hsent, rfl, still⟩
  | opens credential dialing link =>
    -- All that waits is offered to the link, which takes some part at the front.
    obtain ⟨es, hes⟩ : ∃ es, es = t.session.waiting ++ t.session.followUp m := ⟨_, rfl⟩
    have hshown := ho.shown dialing.isSome
    have hoffered := Turn.offered_succeed hshown (by rw [hempty]; rfl) m credential hes
    have hafter : (t.succeed m credential).session.unsent now (t.succeed m credential).store =
        es.drop (m.takes 0 es.length) := by
      rw [unsent_of_shown hoffered.shown, waiting, hoffered.pending, hoffered.items,
        List.nil_append]
    have hsent : (t.succeed m credential).outbox.frames.map (·.2) =
        es.take (m.takes 0 es.length) := by
      rw [hoffered.frames, hempty]
      simp [Outbox.empty, Outbox.frames, Function.comp_def]
    refine .inl ⟨m.stamp, ?_⟩
    rw [hsent, hafter, unsent_of_shown hshown, List.take_append_drop, ← hes]

section Reliable

variable (hr : Storage.Reliable [queueKey, roomKey] sound) (hne : queueKey ≠ roomKey)

include hr hne

/-- **Over a reliable storage nothing is lost.** What can be done to what waits loses no envelope
and makes none up.

**Proof sketch.** Where the room is stored, the queue in storage does not notice; and what is hidden
in storage at last is what storage tells. -/
lemma Deed.conserves {m : Moment} {t t' : Turn σ} {routed : List Envelope}
    {sent : List (Nat × Envelope)} (hdeed : Deed m t routed sent t')
    (h : Kept queueKey roomKey sound t.session t.store) (ho : t.session.Orderly)
    (hempty : t.outbox = .empty) :
    (sent.map (·.2) ++ t'.session.unsent m.stamp t'.store).Perm
      (t.session.unsent m.stamp t.store ++ routed) := by
  rcases hdeed.perm_unsent ho hempty (Turn.contents_rememberRoom hr hne h) m.stamp with
    ⟨before, hperm⟩ | ⟨rfl, rfl, still⟩
  · rwa [h.unsent_eq before m.stamp] at hperm
  · have hpending : ((t.rememberRoom none).spill m).hide.session.pending.items = [] := rfl
    rw [still.unsent_eq, unsent, unsent, Turn.contents_logOut hr hne h, hpending,
      List.append_nil, List.map_nil, List.nil_append, List.nil_append]
    exact List.perm_append_comm

/-- No event loses an envelope or makes one up. -/
lemma conserves_step {s : Session} {store : σ} (h : Kept queueKey roomKey sound s store)
    (ho : s.Orderly) {m : Moment} {event : Event} (hm : m.stamp.Valid)
    (hevent : ∀ e ∈ event.ordered m, e.Faithful 125) (now : Timestamp) :
    ((Record.mk m event s store).sent.map (·.2) ++
        (step m event s store).session.unsent now (step m event s store).store).Perm
      (s.unsent now store ++ (Record.mk m event s store).routed) := by
  have hnext := kept_step hr hne h ho.coherent hm hevent
  rw [h.unsent_eq now m.stamp, hnext.unsent_eq now m.stamp]
  exact (deed_step ho.coherent m event store).conserves hr hne h ho rfl

/-- No run loses an envelope or makes one up.

**Proof sketch.** Induction on the events. What the first of them has written goes ahead of what the
others write, and what it had to send waits behind what has waited before. -/
lemma conserves_run {events : List (Moment × Event)} {s : Session} {store : σ}
    (h : Kept queueKey roomKey sound s store) (ho : s.Orderly)
    (hevents : ∀ x ∈ events, x.1.stamp.Valid ∧ ∀ e ∈ x.2.ordered x.1, e.Faithful 125)
    (now : Timestamp) :
    (((trace events s store).flatMap Record.sent).map (·.2) ++
        (run events s store).1.unsent now (run events s store).2.1).Perm
      (s.unsent now store ++ (trace events s store).flatMap Record.routed) := by
  induction events generalizing s store with
  | nil => simp [trace, run]
  | cons x rest ih =>
    obtain ⟨m, event⟩ := x
    obtain ⟨⟨hm, hevent⟩, hrest⟩ := List.forall_mem_cons.1 hevents
    have hfirst := conserves_step hr hne h ho hm hevent now
    have hothers := ih (kept_step hr hne h ho.coherent hm hevent) (orderly_step ho m event store)
      hrest
    rw [trace, List.flatMap_cons, List.flatMap_cons, List.map_append, List.append_assoc]
    refine (hothers.append_left _).trans ?_
    rw [← List.append_assoc, ← List.append_assoc]
    exact hfirst.append_right _

end Reliable

/-- **No envelope is lost, and none is written twice.** Whatever happens, the envelopes that have
been written on links, those that wait in memory and those that wait in storage are those that
storage held at the beginning and those that were to be sent since, each of them as often as it was
handed in.

**Proof sketch.** A session that begins shows what storage holds, and nothing waits in memory
(`kept_start`). Every event is one of the deeds, none of which loses an envelope or makes one up
over a reliable storage (`Deed.conserves`), and these accounts add up along the run
(`conserves_run`). -/
theorem conservation {settings : Settings} {target : Settings.Target} {began : Timestamp}
    {stored store : σ} {s : Session} {initial : List Envelope} {events : List (Moment × Event)}
    (hsettings : settings.target = .ok target)
    (hreliable : Storage.Reliable [settings.storage.queueKey, settings.storage.roomKey] sound)
    (hsound : sound stored)
    (hstored : ∀ now, (Queue.Offline.readItems now settings.storage.queueKey stored).1 = initial)
    (hinitial : ∀ e ∈ initial, e.Faithful 125)
    (hevents : ∀ x ∈ events, x.1.stamp.Valid ∧ ∀ e ∈ x.2.ordered x.1, e.Faithful 125)
    (hstart : start began settings target stored = (s, store)) (now : Timestamp) :
    (((trace events s store).flatMap Record.sent).map (·.2) ++
        (run events s store).1.unsent now (run events s store).2.1).Perm
      (initial ++ (trace events s store).flatMap Record.routed) := by
  have hne := Settings.queueKey_ne_roomKey hsettings
  obtain ⟨hkept, hitems, hshown, hpending, -⟩ :=
    kept_start hreliable hstart ⟨rfl, rfl⟩ hsound hinitial hstored
  have hinitially : s.unsent now store = initial := by
    rw [unsent, Queue.Offline.contents_of_shown hshown, hpending, hitems, List.nil_append]
  rw [← hinitially]
  exact conserves_run hreliable hne hkept (orderly_start hstart) hevents now

/-- The three notes of a run that are to be sent are written or wait in the end. -/
theorem conservation_notes :
    ∃ s store, start Sample.epoch Sample.settings Sample.target Sample.storage = (s, store) ∧
      (((trace Sample.events s store).flatMap Record.sent).map (·.2) ++
          (run Sample.events s store).1.unsent Sample.epoch (run Sample.events s store).2.1).Perm
        ([Sample.note 1] ++ (trace Sample.events s store).flatMap Record.routed) := by
  obtain ⟨⟨s, store⟩, hstart⟩ :
    ∃ first, start Sample.epoch Sample.settings Sample.target Sample.storage = first := ⟨_, rfl⟩
  exact ⟨s, store, hstart, conservation rfl (Store.reliable_memory _) trivial
    Sample.readItems_storage Sample.faithful_stored Sample.faithful_events hstart Sample.epoch⟩

end Messenger.Session
