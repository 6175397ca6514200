import Messenger.Proofs.Session.Deed
import Messenger.Proofs.Session.Opening

set_option relaxedAutoImplicit false
set_option autoImplicit false

/-!
# What waits fits the connection

Envelopes wait in memory only while an attempt is under way, and then what waits in storage is
shown. While there is a link nothing waits at all.

## Main definitions

* `Messenger.Session.Orderly`: what waits fits the connection.

## Main results

* `Messenger.Session.orderly_step`, `Messenger.Session.orderly_run`: every event and every run keep
  it so.
* `Messenger.Session.orderly_start`: it is so at the beginning.
-/

namespace Messenger.Session

variable {σ : Type}

/-- What waits fits the connection, and links have the numbers of those that were opened. -/
structure Orderly (s : Session) : Prop where
  coherent : s.connection.Coherent
  shown : s.attempt.isSome → s.offline.detached = false
  idle : s.attempt = none → s.pending.items = []
  clear : s.link.isSome → s.offline.items = [] ∧ s.offline.detached = false
  numbered : ∀ link, s.link = some link → link < s.opened

/-- With neither attempt nor link it is enough that nothing waits in memory. -/
lemma Orderly.of_nothing {s : Session} (hc : s.connection.Coherent) (hattempt : s.attempt = none)
    (hlink : s.link = none) (hpending : s.pending.items = []) : s.Orderly := by
  refine ⟨hc, ?_, fun _ => hpending, ?_, ?_⟩
  · simp [hattempt]
  · simp [hlink]
  · simp [hlink]

/-- With an attempt it is enough that what waits in storage is shown. -/
lemma Orderly.of_attempt {s : Session} (hc : s.connection.Coherent) (hattempt : s.attempt.isSome)
    (hshown : s.offline.detached = false) : s.Orderly := by
  have hlink : s.link = none := (hc.of_attempt hattempt).2.1
  refine ⟨hc, fun _ => hshown, ?_, ?_, ?_⟩
  · intro hnone
    simp [hnone] at hattempt
  · simp [hlink]
  · simp [hlink]

/-- While the queue is hidden there is no attempt. -/
lemma Orderly.attempt_of_hidden {s : Session} (h : s.Orderly)
    (hhidden : s.offline.detached = true) : s.attempt = none := by
  cases hattempt : s.attempt with
  | none => rfl
  | some stage =>
    have hshown := h.shown (by simp [hattempt])
    rw [hhidden] at hshown
    cases hshown

namespace Turn

variable [Storage σ]

/-- Sending an envelope keeps in order what waits.

**Proof sketch.** One case for each way that an envelope can go. It is put back in storage with no
link left if the link refuses it, it waits in memory only during an attempt, and otherwise nothing
is in memory. -/
lemma orderly_route {t : Turn σ} (h : t.session.Orderly) (m : Moment) (e : Envelope) :
    (t.route m e).session.Orderly := by
  have hcoherent := coherent_route h.coherent m e
  rcases route_cases m e t with ⟨link, hlink, -, hroute⟩ | ⟨link, hlink, -, hroute⟩ |
    ⟨hlink, hattempt, hroute⟩ | ⟨hlink, hattempt, hroute⟩
  · rw [hroute]
    exact ⟨h.coherent, h.shown, h.idle, h.clear, h.numbered⟩
  · -- The link refuses the envelope, and neither link nor attempt is left.
    obtain ⟨hgone, hattempt, -⟩ := lose_spec m (keep m e { t with
      outbox := { t.outbox with offers := t.outbox.offers + 1 } })
    have hquiet := quiet_lose m (keep m e { t with
      outbox := { t.outbox with offers := t.outbox.offers + 1 } })
    rw [← hroute] at hgone hattempt hquiet
    have hbefore : t.session.attempt = none :=
      (h.coherent.of_link (Option.isSome_iff_exists.2 ⟨link, hlink⟩)).2.1
    refine Orderly.of_nothing hcoherent (hattempt.trans hbefore) hgone ?_
    rw [hquiet.pending]
    exact h.idle hbefore
  · refine Orderly.of_attempt hcoherent ?_ ?_ <;> rw [hroute]
    · exact hattempt
    · exact h.shown hattempt
  · refine Orderly.of_nothing hcoherent ?_ ?_ ?_ <;> rw [hroute]
    · exact hattempt
    · exact hlink
    · exact h.idle hattempt

/-- While what waits fits the connection, the queue is shown after an envelope has been sent. -/
lemma shown_route_of_orderly {t : Turn σ} (h : t.session.Orderly) (m : Moment) (e : Envelope) :
    (t.route m e).session.offline.detached = false := by
  rcases shown_or_same_route m e t with hshown | ⟨hsame, hlink | hattempt⟩
  · exact hshown
  · rw [hsame]
    exact (h.clear hlink).2
  · rw [hsame]
    exact h.shown hattempt

/-- To remember a room keeps in order what waits. -/
lemma orderly_rememberRoom {t : Turn σ} (h : t.session.Orderly) (room : Option Room) :
    (t.rememberRoom room).session.Orderly :=
  ⟨h.coherent, h.shown, h.idle, h.clear, h.numbered⟩

end Turn

variable [Storage σ]

/-- To enter or leave a room keeps in order what waits. -/
lemma Deed.orderly_room {m : Moment} {t t₁ : Turn σ} {e : Envelope}
    (room : t₁ = t ∨ t₁ = t.rememberRoom none ∨
      ∃ r, e = Turn.envelope m .joinRoom (Request.room r) ∧ t₁ = t.rememberRoom (some r))
    (h : t.session.Orderly) : t₁.session.Orderly := by
  rcases room with rfl | rfl | ⟨r, -, rfl⟩
  · exact h
  · exact Turn.orderly_rememberRoom h none
  · exact Turn.orderly_rememberRoom h (some r)

/-- What an event can do keeps in order what waits.

**Proof sketch.** One case for each thing that can be done. To rest changes nothing that counts; an
attempt that begins shows the queue; a failure and a logout leave neither attempt nor link, and
empty the memory; and a link that is opened is kept only if it has taken all, so that nothing is
left to wait. -/
lemma Deed.orderly {m : Moment} {t t' : Turn σ} {routed : List Envelope}
    {sent : List (Nat × Envelope)} (hdeed : Deed m t routed sent t') (h : t.session.Orderly)
    (hoffers : t.outbox.offers = 0) (hc : t'.session.connection.Coherent) : t'.session.Orderly := by
  cases hdeed with
  | rests unsent still attempt link opened =>
    refine ⟨hc, ?_, ?_, ?_, ?_⟩
    · rw [attempt, still.offline]
      exact h.shown
    · intro hnone
      rw [hnone, Option.isSome_none] at attempt
      rw [still.pending]
      exact h.idle (by simpa using attempt.symm)
    · rw [still.offline]
      intro hsome
      rcases link with hlink | hlink <;> rw [hlink] at hsome
      · exact h.clear hsome
      · cases hsome
    · rw [opened]
      intro link' hlink'
      rcases link with hlink | hlink <;> rw [hlink] at hlink'
      · exact h.numbered link' hlink'
      · cases hlink'
  | begins unsent still before attempt link opened =>
    refine .of_attempt hc attempt ?_
    rw [still.offline]
    exact Queue.Offline.detached_reattach m.stamp t.session.offline t.store
  | sends e room =>
    exact Turn.orderly_route (Deed.orderly_room room h) m e
  | fails unsent still before attempt link opened =>
    refine .of_nothing hc attempt link ?_
    rw [still.pending]
    rfl
  | logsOut unsent still attempt link opened =>
    refine .of_nothing hc attempt link ?_
    rw [still.pending]
    rfl
  | opens credential dialing link =>
    have hshown := h.shown dialing.isSome
    obtain ⟨es, hes⟩ : ∃ es, es = t.session.waiting ++ t.session.followUp m := ⟨_, rfl⟩
    have hoffered := Turn.offered_succeed hshown hoffers m credential hes
    -- The link is kept only if it has taken everything, and then nothing waits.
    refine ⟨hc, fun _ => hoffered.shown, fun _ => hoffered.pending, ?_, ?_⟩ <;> rw [hoffered.link]
    · intro hsome
      split at hsome
      · next hall => exact ⟨by rw [hoffered.items, hall, List.drop_length], hoffered.shown⟩
      · cases hsome
    · intro link' hlink'
      split at hlink'
      · rw [hoffered.opened, ← Option.some.inj hlink']
        exact Nat.lt_succ_self _
      · cases hlink'

/-- **One event.** Every event keeps in order what waits.

**Proof sketch.** It does to what waits one of the things that do (`deed_step`), and each of them
keeps it in order. -/
lemma orderly_step {s : Session} (h : s.Orderly) (m : Moment) (event : Event) (store : σ) :
    (step m event s store).session.Orderly :=
  (deed_step h.coherent m event store).orderly h rfl (coherent_step h.coherent m event store)

/-- **A run.** Every run keeps in order what waits. -/
lemma orderly_run {s : Session} (h : s.Orderly) (events : List (Moment × Event)) (store : σ) :
    (run events s store).1.Orderly :=
  run_invariant (P := fun s _ => s.Orderly)
    (fun m event _ store _ h => orderly_step h m event store) h

/-- **The beginning.** A new session is in order: it has nothing in memory. -/
lemma orderly_start {now : Timestamp} {settings : Settings} {target : Settings.Target}
    {stored store : σ} {s : Session} (hstart : start now settings target stored = (s, store)) :
    s.Orderly := by
  obtain ⟨rfl, rfl⟩ := Prod.ext_iff.1 hstart
  exact .of_nothing (coherent_start now settings target stored) rfl rfl rfl

end Messenger.Session
