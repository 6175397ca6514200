import Messenger.Proofs.Queue.Contents
import Messenger.Proofs.Session.Connection
import Messenger.Proofs.Session.Offers

set_option relaxedAutoImplicit false
set_option autoImplicit false

/-!
# Accounts of envelopes

An account of a session in the middle of an event tells which envelopes wait in memory, which ones
wait in storage, and which ones have been written on which link. Every step of the session does
something simple to it, with any storage, as long as a hidden queue stays hidden.

## Main definitions

* `Messenger.Session.Account`: what waits and what has been written.
* `Messenger.Session.Turn.account`: the account of a session in the middle of an event.
* `Messenger.Session.Turn.Quiet`: a step that leaves alone what an account tells.

## Main results

* `Messenger.Session.Turn.account_route`: where an envelope goes.
* `Messenger.Session.Turn.account_flush`: what a new link takes, and what is left.
-/

namespace Messenger.Session

/-! ### Accounts -/

/-- What waits in memory, what waits in storage, what has been written on which link, and how many
frames have been offered to a link. -/
@[ext] structure Account where
  pending : List Envelope
  stored : List Envelope
  frames : List (Nat × Envelope)
  offers : Nat

namespace Account

/-- An envelope waits in storage. -/
def keep (e : Envelope) (a : Account) : Account :=
  { a with stored := a.stored ++ [e] }

/-- What waits in memory moves behind what waits in storage. -/
def spill (a : Account) : Account :=
  { a with pending := [], stored := a.stored ++ a.pending }

/-- What waits in memory moves ahead of what waits in storage. -/
def spillAhead (a : Account) : Account :=
  { a with pending := [], stored := a.pending ++ a.stored }

/-- An envelope is offered to a link, and waits in storage if the link does not take it. -/
def offer (m : Moment) (link : Nat) (e : Envelope) (a : Account) : Account :=
  if m.accepts a.offers then
    { a with frames := a.frames ++ [(link, e)], offers := a.offers + 1 }
  else { a.keep e with offers := a.offers + 1 }

/-- An envelope is offered to the link, if there is one. Otherwise it waits: in memory if there is
an attempt, and in storage if not. -/
def route (m : Moment) (link : Option Nat) (attempting : Bool) (e : Envelope) (a : Account) :
    Account :=
  match link with
  | some link => a.offer m link e
  | none => if attempting then { a with pending := a.pending ++ [e] } else a.keep e

/-- Envelopes are offered to a link up to the first that it does not take. -/
def take (m : Moment) (link : Nat) (es : List Envelope) (a : Account) : Account :=
  { a with
    frames := a.frames ++ (es.take (m.takes a.offers es.length)).map (link, ·)
    offers := a.offers + min (m.takes a.offers es.length + 1) es.length }

/-- All that waits is offered to a link, and waits in storage from the first that it does not
take. -/
def flush (m : Moment) (link : Nat) (a : Account) : Account :=
  { a.take m link (a.pending ++ a.stored) with
    pending := []
    stored := (a.pending ++ a.stored).drop (m.takes a.offers (a.pending ++ a.stored).length) }

end Account

/-- A link that takes all of some envelopes takes of others behind them what it would take of them
next. -/
lemma Account.take_append {m : Moment} {a : Account} {es : List Envelope}
    (h : m.takes a.offers es.length = es.length) (link : Nat) (es' : List Envelope) :
    a.take m link (es ++ es') = (a.take m link es).take m link es' := by
  have hoffers : (a.take m link es).offers = a.offers + es.length := by
    simp only [Account.take, h]
    omega
  have htakes := m.takes_add a.offers es.length es'.length
  rw [if_pos h] at htakes
  rw [Account.take, Account.take, hoffers]
  simp only [Account.take, List.length_append, htakes, h, List.take_length, Account.mk.injEq,
    true_and]
  refine ⟨?_, by omega⟩
  rw [List.take_length_add_append, List.map_append, List.append_assoc]

/-- A link that does not take all of some envelopes takes none behind them. -/
lemma Account.take_append_of_ne {m : Moment} {a : Account} {es : List Envelope}
    (h : m.takes a.offers es.length ≠ es.length) (link : Nat) (es' : List Envelope) :
    a.take m link (es ++ es') = a.take m link es := by
  have htakes := m.takes_add a.offers es.length es'.length
  have hle := m.takes_le a.offers es.length
  rw [if_neg h] at htakes
  simp only [Account.take, List.length_append, htakes, Account.mk.injEq, true_and]
  refine ⟨?_, by omega⟩
  rw [List.take_append_of_le_length hle]

/-! ### Steps that leave accounts alone -/

variable {σ : Type}

namespace Turn

/-- What waits stays where it is, and the room stays the same. -/
structure Still (t t' : Turn σ) : Prop where
  pending : t'.session.pending = t.session.pending
  offline : t'.session.offline = t.session.offline
  room : t'.session.room = t.session.room
  roomKey : t'.session.roomKey = t.session.roomKey
  store : t'.store = t.store

/-- Besides, nothing is written. -/
structure Quiet (t t' : Turn σ) : Prop extends Still t t' where
  frames : t'.outbox.frames = t.outbox.frames
  offers : t'.outbox.offers = t.outbox.offers

/-- Still steps in a row are still. -/
lemma Still.trans {t t' t'' : Turn σ} (h : t.Still t') (h' : t'.Still t'') : t.Still t'' :=
  ⟨h'.pending.trans h.pending, h'.offline.trans h.offline, h'.room.trans h.room,
    h'.roomKey.trans h.roomKey, h'.store.trans h.store⟩

/-- To change the outbox alone is still. -/
lemma still_outbox (t : Turn σ) (outbox : Outbox) : t.Still { t with outbox := outbox } :=
  ⟨rfl, rfl, rfl, rfl, rfl⟩

/-- To change what has nothing to do with what waits is quiet. -/
lemma quiet_session (t : Turn σ) {s : Session} (hpending : s.pending = t.session.pending)
    (hoffline : s.offline = t.session.offline) (hroom : s.room = t.session.room)
    (hroomKey : s.roomKey = t.session.roomKey) : t.Quiet { t with session := s } :=
  ⟨⟨hpending, hoffline, hroom, hroomKey, rfl⟩, rfl, rfl⟩

/-- To do nothing is quiet. -/
lemma Quiet.refl (t : Turn σ) : t.Quiet t :=
  quiet_session t rfl rfl rfl rfl

/-- Quiet steps in a row are quiet. -/
lemma Quiet.trans {t t' t'' : Turn σ} (h : t.Quiet t') (h' : t'.Quiet t'') : t.Quiet t'' :=
  ⟨h.toStill.trans h'.toStill, h'.frames.trans h.frames, h'.offers.trans h.offers⟩

/-- To publish a state is quiet. -/
lemma quiet_publish (m : Moment) (next : ConnectionState) (t : Turn σ) :
    t.Quiet (t.publish m next) := by
  have hout : ((t.session.publisher.transition (Outbox.tell m) next t.outbox).2.2).frames =
        t.outbox.frames ∧
      ((t.session.publisher.transition (Outbox.tell m) next t.outbox).2.2).offers =
        t.outbox.offers := by
    unfold Publisher.transition
    split
    · exact ⟨rfl, rfl⟩
    · exact Outbox.frames_callAll (fun (w : Nat × Nat) o => Outbox.frames_tell m w.2 next o) _ _
  exact ⟨⟨rfl, rfl, rfl, rfl, rfl⟩, hout.1, hout.2⟩

/-- An effect that writes nothing is quiet. -/
lemma quiet_emit {effect : Effect} (h : effect.frame? = none) (t : Turn σ) :
    t.Quiet (t.emit effect) :=
  ⟨⟨rfl, rfl, rfl, rfl, rfl⟩, by simp [emit, h], rfl⟩

/-- To answer callers is quiet. -/
lemma quiet_reply (result : Except Error Unit) (callers : List Nat) (t : Turn σ) :
    t.Quiet (t.reply result callers) :=
  ⟨⟨rfl, rfl, rfl, rfl, rfl⟩, (Outbox.frames_reply result callers t.outbox).1,
    (Outbox.frames_reply result callers t.outbox).2⟩

/-- To answer those who wait is quiet. -/
lemma quiet_resolve (result : Except Error Unit) (t : Turn σ) : t.Quiet (t.resolve result) :=
  (quiet_reply result t.session.waiters t).trans (quiet_session _ rfl rfl rfl rfl)

/-- To stop the heartbeat is quiet. -/
lemma quiet_stopHeartbeat (t : Turn σ) : t.Quiet t.stopHeartbeat :=
  quiet_session t rfl rfl rfl rfl

/-- To give up the next attempt is quiet. -/
lemma quiet_cancelRetry (t : Turn σ) : t.Quiet t.cancelRetry :=
  quiet_session t rfl rfl rfl rfl

/-- To give up the link is quiet. -/
lemma quiet_dropLink (t : Turn σ) : t.Quiet t.dropLink := by
  have hstop := quiet_stopHeartbeat t
  unfold dropLink
  dsimp only
  split
  · exact (hstop.trans (quiet_emit rfl _)).trans (quiet_session _ rfl rfl rfl rfl)
  · exact hstop.trans (quiet_session _ rfl rfl rfl rfl)

/-- To set the time of the next attempt is quiet. -/
lemma quiet_retry (m : Moment) (t : Turn σ) : t.Quiet (t.retry m) := by
  unfold retry
  split
  · exact quiet_publish m .disconnected t
  · have hcount : t.Quiet { t with
        session := { t.session with backoff := t.session.backoff.next.2, rejoins := true } } :=
      quiet_session t rfl rfl rfl rfl
    exact (hcount.trans (quiet_publish m .reconnecting _)).trans
      (quiet_session _ rfl rfl rfl rfl)

/-- To lose the link is quiet. -/
lemma quiet_lose (m : Moment) (t : Turn σ) : t.Quiet (t.lose m) :=
  (quiet_dropLink t).trans (quiet_retry m _)

/-- To give up the attempt is quiet. -/
lemma quiet_abandon (t : Turn σ) : t.Quiet t.abandon := by
  unfold abandon
  dsimp only
  split
  · have hgone : t.Quiet { t with session := { t.session with attempt := none } } :=
      quiet_session t rfl rfl rfl rfl
    exact (hgone.trans (quiet_emit rfl _)).trans (quiet_resolve _ _)
  · exact quiet_resolve _ t

/-- To tear everything down is quiet. -/
lemma quiet_tearDown (t : Turn σ) : t.Quiet t.tearDown :=
  (((quiet_stopHeartbeat t).trans (quiet_cancelRetry _)).trans (quiet_abandon _)).trans
    (quiet_dropLink _)

/-- To greet a new link is quiet. -/
lemma quiet_welcome (m : Moment) (credential : String) (t : Turn σ) :
    t.Quiet (t.welcome m credential) := by
  have hopened : t.Quiet { t with
      session := { t.session with
        attempt := none
        backoff := t.session.backoff.reset
        link := some t.session.opened
        opened := t.session.opened + 1
        linkCredential := some credential
        lastCredential := some credential } } := quiet_session t rfl rfl rfl rfl
  refine Quiet.trans ?_ (quiet_resolve _ _)
  exact (hopened.trans (quiet_publish m .connected _)).trans (quiet_session _ rfl rfl rfl rfl)

/-- To connect to an address is quiet. -/
lemma quiet_dial (m : Moment) (credential : String) (t : Turn σ) :
    t.Quiet (t.dial m credential) := by
  refine Quiet.trans ?_ (quiet_emit rfl _)
  exact quiet_session t rfl rfl rfl rfl

/-! ### The account of a turn -/

variable [Storage σ]

/-- The account of a session in the middle of an event, read at the moment `now`. -/
def account (now : Timestamp) (t : Turn σ) : Account :=
  { pending := t.session.pending.items
    stored := t.session.offline.contents now t.store
    frames := t.outbox.frames
    offers := t.outbox.offers }

/-- A quiet step leaves the account alone. -/
lemma Quiet.account_eq {t t' : Turn σ} (h : t.Quiet t') (now : Timestamp) :
    t'.account now = t.account now := by
  simp only [account, h.pending, h.offline, h.store, h.frames, h.offers]

/-- Showing the queue leaves the account alone. -/
lemma account_reveal (m : Moment) (t : Turn σ) :
    (t.reveal m).account m.stamp = t.account m.stamp := by
  have hshown : (t.reveal m).session.offline.detached = false :=
    Queue.Offline.detached_reattach m.stamp t.session.offline t.store
  have hitems : (t.reveal m).session.offline.items =
      t.session.offline.contents m.stamp t.store :=
    Queue.Offline.items_reattach m.stamp t.session.offline t.store
  rw [account, account, Queue.Offline.contents_of_shown hshown, hitems]
  rfl

/-- An envelope that is kept waits in storage. -/
lemma account_keep (m : Moment) (e : Envelope) (t : Turn σ) :
    (t.keep m e).account m.stamp = (t.account m.stamp).keep e := by
  simp [keep, account, Account.keep]

/-- What is spilled waits in storage. -/
lemma account_spill (m : Moment) (t : Turn σ) :
    (t.spill m).account m.stamp = (t.account m.stamp).spill := by
  simp [spill, account, Account.spill, Queue.Pending.takeAll, Queue.Pending.empty]

/-- What the queue in storage holds after what waits in memory has moved there. -/
lemma contents_spill (m : Moment) (t : Turn σ) :
    (t.spill m).session.offline.contents m.stamp (t.spill m).store =
      t.session.offline.contents m.stamp t.store ++ t.session.pending.items :=
  congrArg Account.stored (account_spill m t)

/-- What is spilled ahead waits in storage, in front. -/
lemma account_spillAhead (m : Moment) (t : Turn σ) :
    (t.spillAhead m).account m.stamp = (t.account m.stamp).spillAhead := by
  simp [spillAhead, account, Account.spillAhead, Queue.Pending.takeAll, Queue.Pending.empty]

/-- **Where an envelope goes.** It is written if there is a link that takes it, and waits otherwise:
in storage if the link refuses it or nothing is being opened, in memory while a link is.

**Proof sketch.** `route_cases` tells the four ways. On each of them the steps in front and behind
are quiet, and what is left is one envelope that is offered or kept. -/
lemma account_route (m : Moment) (e : Envelope) (t : Turn σ) :
    (t.route m e).account m.stamp =
      (t.account m.stamp).route m t.session.link t.session.attempt.isSome e := by
  unfold Account.route
  rcases route_cases m e t with ⟨link, hlink, h, hroute⟩ | ⟨link, hlink, h, hroute⟩ |
    ⟨hlink, hattempt, hroute⟩ | ⟨hlink, hattempt, hroute⟩ <;> rw [hroute, hlink]
  · simp only [account, Account.offer, h, if_true, Outbox.frames_add]
    rfl
  · rw [(quiet_lose m _).account_eq, account_keep]
    simp [account, Account.offer, Account.keep, h, Outbox.frames]
  · simp [account, Queue.Pending.push, hattempt]
  · rw [account_keep, hattempt]
    rfl

/-- What a link takes of what waits in memory. -/
lemma account_drainPending (m : Moment) (link : Nat) (now : Timestamp) (t : Turn σ) :
    (t.drainPending m link).1 =
        (if m.takes t.outbox.offers t.session.pending.items.length = t.session.pending.items.length
        then .ok t.session.pending.items.length else .error Transport.linkLost) ∧
      (t.drainPending m link).2.account now =
        { (t.account now).take m link t.session.pending.items with
          pending := t.session.pending.items.drop
            (m.takes t.outbox.offers t.session.pending.items.length) } := by
  obtain ⟨h₁, h₂, h₃, h₄⟩ := Outbox.drainList_transmit m link t.session.pending.items 0 t.outbox
  refine ⟨by simpa [drainPending, Queue.Pending.drain] using h₁, ?_⟩
  simp only [drainPending, Queue.Pending.drain, account, Account.take, h₂, h₃, h₄]

/-- What a link takes of what waits in storage, while that is shown. -/
lemma account_drainOffline (m : Moment) (link : Nat) (now : Timestamp) {t : Turn σ}
    (hshown : t.session.offline.detached = false) :
    (t.drainOffline m link).1 =
        (if m.takes t.outbox.offers t.session.offline.items.length = t.session.offline.items.length
        then .ok t.session.offline.items.length else .error Transport.linkLost) ∧
      (t.drainOffline m link).2.account now =
        { (t.account now).take m link t.session.offline.items with
          stored := t.session.offline.items.drop
            (m.takes t.outbox.offers t.session.offline.items.length) } ∧
      (t.drainOffline m link).2.session.offline.detached = false := by
  obtain ⟨h₁, h₂, h₃, h₄⟩ := Outbox.drainList_transmit m link t.session.offline.items 0 t.outbox
  obtain ⟨k₁, k₂, k₃, k₄, -⟩ := Queue.Offline.drain_eq (Outbox.transmit m link) t.session.offline
    t.store t.outbox
  have hshown' : (t.session.offline.drain (Outbox.transmit m link) t.store
      t.outbox).2.1.detached = false := k₄.trans hshown
  refine ⟨by simpa [drainOffline, k₁] using h₁, ?_, hshown'⟩
  simp only [drainOffline, account, Account.take]
  rw [Queue.Offline.contents_of_shown hshown', k₂, k₃, h₂, h₃, h₄]

/-- What is left when a link breaks off waits in storage, and nothing else is written. -/
lemma account_breakOff (m : Moment) (t : Turn σ) :
    (t.breakOff m).account m.stamp = (t.account m.stamp).spillAhead := by
  rw [breakOff, (quiet_lose m _).account_eq, account_spillAhead]

/-- **What a new link takes.** Of all that waits it takes a part from the beginning, and the rest is
left as it was if the link does not take it all.

**Proof sketch.** The queue in memory is drained first. If the link takes all of it, the queue in
storage is drained next, and the link takes from the two what it would take of one list. If not,
what is left in memory goes ahead of what waits in storage, which nobody has touched. -/
lemma account_flush (m : Moment) {link : Nat} {t : Turn σ} (hlink : t.session.link = some link)
    (hshown : t.session.offline.detached = false) :
    (t.flush m).2.account m.stamp = (t.account m.stamp).flush m link ∧
      ((t.flush m).1 = true ↔
        m.takes t.outbox.offers t.session.waiting.length = t.session.waiting.length) := by
  obtain ⟨P, hP⟩ : ∃ P, P = t.session.pending.items := ⟨_, rfl⟩
  obtain ⟨O, hO⟩ : ∃ O, O = t.session.offline.items := ⟨_, rfl⟩
  have haccount : t.account m.stamp = ⟨P, O, t.outbox.frames, t.outbox.offers⟩ := by
    rw [account, Queue.Offline.contents_of_shown hshown, hP, hO]
  have hadd := m.takes_add t.outbox.offers P.length O.length
  have hle := m.takes_le t.outbox.offers P.length
  obtain ⟨hfirst, hleft⟩ := account_drainPending m link m.stamp t
  have hshown₁ : (t.drainPending m link).2.session.offline.detached = false := hshown
  have hitems₁ : (t.drainPending m link).2.session.offline.items = O := hO.symm
  obtain ⟨first, t₁, ht₁⟩ : ∃ first t₁, t.drainPending m link = (first, t₁) := ⟨_, _, rfl⟩
  simp only [ht₁, ← hP, haccount] at hfirst hleft hshown₁ hitems₁
  unfold flush Account.flush waiting
  rw [hlink, haccount, ← hP, ← hO, List.length_append]
  dsimp only
  rw [ht₁]
  by_cases hp : m.takes t.outbox.offers P.length = P.length
  · -- The link takes all that waits in memory.
    rw [if_pos hp] at hfirst hadd
    rw [hp, List.drop_length] at hleft
    obtain ⟨hsecond, hleft₂, hshown₂⟩ := account_drainOffline m link m.stamp hshown₁
    obtain ⟨second, t₂, ht₂⟩ : ∃ second t₂, t₁.drainOffline m link = (second, t₂) := ⟨_, _, rfl⟩
    have hoffers : t₁.outbox.offers = t.outbox.offers + P.length := by
      have := congrArg Account.offers hleft
      simp only [account, Account.take, hp] at this
      omega
    simp only [ht₂, hitems₁, hleft, hoffers] at hsecond hleft₂ hshown₂
    simp only [hfirst, ht₂]
    have hboth := Account.take_append (a := ⟨P, O, t.outbox.frames, t.outbox.offers⟩) hp link O
    by_cases ho : m.takes (t.outbox.offers + P.length) O.length = O.length
    · rw [if_pos ho] at hsecond
      rw [hadd, ho, ← List.length_append, List.drop_length]
      rw [ho, List.drop_length] at hleft₂
      simp only [hsecond, hleft₂]
      refine ⟨?_, by simp⟩
      rw [hboth]
      simp only [Account.take, hp]
    · rw [if_neg ho] at hsecond
      rw [hadd, List.drop_length_add_append]
      simp only [hsecond]
      rw [account_breakOff, hleft₂]
      refine ⟨?_, by simp [ho]⟩
      rw [hboth]
      simp only [Account.spillAhead, Account.take, hp, List.nil_append]
  · -- The link refuses one of those that wait in memory.
    rw [if_neg hp] at hfirst hadd
    simp only [hfirst]
    rw [account_breakOff, hleft, hadd]
    refine ⟨?_, by simp; omega⟩
    rw [Account.take_append_of_ne (a := ⟨P, O, _, _⟩) hp]
    simp only [Account.spillAhead, Account.take]
    rw [List.drop_append_of_le_length hle]

end Turn

end Messenger.Session
