import Messenger.Proofs.Session.Deed

set_option relaxedAutoImplicit false
set_option autoImplicit false

/-!
# What is kept throughout a run

All events are made of a few things that can be done to what waits, to the room and to the storage.
What each of these keeps is kept by every event and by every run. It may depend on which envelopes
are handled: those that the user sends, and the requests to join the room again.

## Main definitions

* `Messenger.Session.Upkeep`: what events are made of keeps a property of sessions and storages.

## Main results

* `Messenger.Session.Upkeep.step`: every event keeps such a property.
* `Messenger.Session.upkeep_run`: every run keeps it.
-/

namespace Messenger.Session

variable {σ : Type} [Storage σ]

/-- Whatever events at a moment are made of keeps a property of the session and its storage, as long
as the envelopes that are sent are good ones. Those that join the room again are good by the
property itself. -/
structure Upkeep (m : Moment) (good : Envelope → Prop) (P : Session → σ → Prop) : Prop where
  still : ∀ {t t' : Turn σ}, t.Still t' → P t.session t.store → P t'.session t'.store
  reveal : ∀ {t : Turn σ}, P t.session t.store → P (t.reveal m).session (t.reveal m).store
  /-- An envelope waits in storage. -/
  keep : ∀ {t : Turn σ} {e : Envelope}, good e → P t.session t.store →
    P (t.keep m e).session (t.keep m e).store
  /-- An envelope waits in memory. -/
  wait : ∀ {t : Turn σ} {e : Envelope}, good e → P t.session t.store →
    P { t.session with pending := t.session.pending.push e } t.store
  spill : ∀ {t : Turn σ}, P t.session t.store → P (t.spill m).session (t.spill m).store
  spillAhead : ∀ {t : Turn σ}, P t.session t.store →
    P (t.spillAhead m).session (t.spillAhead m).store
  hide : ∀ {t : Turn σ}, P t.session t.store → P t.hide.session t.hide.store
  enterRoom : ∀ {t : Turn σ} {r : Room}, good (Turn.envelope m .joinRoom (Request.room r)) →
    P t.session t.store → P (t.rememberRoom (some r)).session (t.rememberRoom (some r)).store
  leaveRoom : ∀ {t : Turn σ}, P t.session t.store →
    P (t.rememberRoom none).session (t.rememberRoom none).store
  drainPending : ∀ {t : Turn σ} (link : Nat), P t.session t.store →
    P (t.drainPending m link).2.session (t.drainPending m link).2.store
  drainOffline : ∀ {t : Turn σ} (link : Nat), P t.session t.store →
    P (t.drainOffline m link).2.session (t.drainOffline m link).2.store
  rejoining : ∀ {s : Session} {store : σ}, P s store → ∀ e ∈ s.rejoining m, good e

namespace Upkeep

variable {m : Moment} {good : Envelope → Prop} {P : Session → σ → Prop} {t t' : Turn σ}

/-- What is kept is kept when a link breaks off. -/
lemma breakOff (h : Upkeep m good P) (ht : P t.session t.store) :
    P (t.breakOff m).session (t.breakOff m).store :=
  h.still (Turn.quiet_lose m _).toStill (h.spillAhead ht)

/-- What is kept is kept when all that waits is written. -/
lemma flush (h : Upkeep m good P) (ht : P t.session t.store) :
    P (t.flush m).2.session (t.flush m).2.store :=
  Turn.flush_invariant (P := fun t => P t.session t.store) m (fun _ link => h.drainPending link)
    (fun _ link => h.drainOffline link) (fun _ => h.breakOff) ht

/-- What is kept is kept when an envelope is sent: it is written, or waits in memory or in
storage. -/
lemma route (h : Upkeep m good P) {e : Envelope} (he : good e) (ht : P t.session t.store) :
    P (t.route m e).session (t.route m e).store := by
  rcases Turn.route_cases m e t with ⟨link, -, -, hroute⟩ | ⟨link, -, -, hroute⟩ |
    ⟨-, -, hroute⟩ | ⟨-, -, hroute⟩ <;> rw [hroute]
  · exact ht
  · have hoffered : P { t with outbox := { t.outbox with offers := t.outbox.offers + 1 } }.session
        { t with outbox := { t.outbox with offers := t.outbox.offers + 1 } }.store := ht
    exact h.still (Turn.quiet_lose m _).toStill (h.keep he hoffered)
  · exact h.wait he ht
  · exact h.keep he ht

/-- What is kept is kept when the room is joined again. -/
lemma rejoin (h : Upkeep m good P) (ht : P t.session t.store) :
    P (t.rejoin m).session (t.rejoin m).store := by
  have hready : t.Still { t with session := { t.session with rejoins := false } } :=
    ⟨rfl, rfl, rfl, rfl, rfl⟩
  have hgood := h.rejoining ht
  rw [Turn.rejoin_eq]
  rcases Turn.rejoining_cases m t.session with hnone | ⟨e, hone⟩
  · rw [hnone, List.foldl_nil]
    exact h.still hready ht
  · rw [hone] at hgood ⊢
    rw [List.foldl_cons, List.foldl_nil]
    exact h.route (hgood e List.mem_cons_self) (h.still hready ht)

/-- What is kept is kept when a link is opened. -/
lemma succeed (h : Upkeep m good P) (ht : P t.session t.store) (credential : String) :
    P (t.succeed m credential).session (t.succeed m credential).store :=
  Turn.succeed_invariant (P := fun t => P t.session t.store) m h.flush (fun _ => h.rejoin)
    (h.still (Turn.quiet_welcome m credential t).toStill ht)

/-- What is kept is kept by whatever an event does.

**Proof sketch.** One case for each thing that can be done, by what it is made of. The envelopes
that are handled are those that were sent, or those by which the room is joined again. -/
lemma deed (h : Upkeep m good P) {routed : List Envelope} {sent : List (Nat × Envelope)}
    (hdeed : Deed m t routed sent t') (ht : P t.session t.store) (hrouted : ∀ e ∈ routed, good e) :
    P t'.session t'.store := by
  cases hdeed with
  | rests unsent still => exact h.still still ht
  | begins unsent still => exact h.still still (h.reveal ht)
  | sends e room =>
    have he := hrouted e List.mem_cons_self
    rcases room with rfl | rfl | ⟨r, rfl, rfl⟩
    · exact h.route he ht
    · exact h.route he (h.leaveRoom ht)
    · exact h.route he (h.enterRoom he ht)
  | fails unsent still => exact h.still still (h.spill ht)
  | logsOut unsent still => exact h.still still (h.hide (h.spill (h.leaveRoom ht)))
  | opens credential => exact h.succeed ht credential

/-- All that an event has to send is good, if that is so of what the user sends by it. -/
lemma good_routed {r : Record σ} (h : Upkeep r.moment good P) (hr : P r.session r.store)
    (hevent : ∀ e ∈ r.event.ordered r.moment, good e) : ∀ e ∈ r.routed, good e := by
  intro e he
  unfold Record.routed at he
  split at he
  · split at he
    · unfold followUp at he
      split at he
      · exact h.rejoining hr e he
      · cases he
    · cases he
  · exact hevent e he

/-- **One event.** Every event keeps what all that events are made of keeps.

**Proof sketch.** It does to what waits one of the things that do (`deed_step`), and each of them is
made of such parts (`Upkeep.deed`). -/
theorem step (h : Upkeep m good P) {s : Session} (hc : s.connection.Coherent) {store : σ}
    (hs : P s store) {event : Event} (hevent : ∀ e ∈ event.ordered m, good e) :
    P (step m event s store).session (step m event s store).store :=
  h.deed (deed_step hc m event store) hs
    (good_routed (r := ⟨m, event, s, store⟩) h hs hevent)

end Upkeep

/-- **A run.** Every run keeps what all that its events are made of keeps.

**Proof sketch.** Along the run the property is kept together with the coherence of the connection,
on which what an event does depends. -/
theorem upkeep_run {good : Envelope → Prop} {P : Session → σ → Prop}
    {events : List (Moment × Event)} (h : ∀ x ∈ events, Upkeep x.1 good P)
    (hevents : ∀ x ∈ events, ∀ e ∈ x.2.ordered x.1, good e) {s : Session}
    (hc : s.connection.Coherent) {store : σ} (hs : P s store) :
    P (run events s store).1 (run events s store).2.1 := by
  have hstep : ∀ m event s store, (m, event) ∈ events → P s store ∧ s.connection.Coherent →
      P (Session.step m event s store).session (Session.step m event s store).store ∧
        (Session.step m event s store).session.connection.Coherent := by
    intro m event s store hmem ⟨hs, hc⟩
    exact ⟨(h _ hmem).step hc hs (hevents _ hmem), coherent_step hc m event store⟩
  exact (run_invariant (P := fun s store => P s store ∧ s.connection.Coherent) hstep ⟨hs, hc⟩).1

end Messenger.Session
