import Messenger.Proofs.Queue.Alike
import Messenger.Proofs.Session.Trace
import Messenger.Proofs.Store.Honest

set_option relaxedAutoImplicit false
set_option autoImplicit false

/-!
# Sessions that look the same

A session writes to its storage and hardly reads from it: only a queue that is hidden is read, when
it is shown again. As long as the user does not log out, that happens once at most. So two sessions
that are the same, and have storages of any two kinds, stay the same through all events and do the
same to the world outside. What fails to be written shows nowhere.

## Main definitions

* `Messenger.Session.storeRoom`: a storage in which the room has been stored, or has not.
* `Messenger.Session.ReadsAlike`: two storages tell a hidden queue the same when it is shown.
* `Messenger.Session.Turn.Alike`: two sessions in the middle of an event differ in their storages
  only.

## Main results

* `Messenger.Session.Turn.Alike.react`: an event does the same to two such sessions.
* `Messenger.Session.alike_run`: events in a row do the same to a session over two storages.
-/

namespace Messenger.Session

variable {ρ σ : Type} [Storage ρ] [Storage σ]

/-! ### Storages -/

/-- A storage to which the room was to be written, or from which it was to be removed. -/
def storeRoom (key : String) (store : σ) : Option Room → σ
  | some r => (Storage.write key (String.ofList (Text.decimal r)) store).2
  | none => (Storage.remove key store).2

/-- If the queue of a session is hidden it has nothing in memory, and the same text is read for it
from two storages. Rooms may have been stored in both before. -/
def ReadsAlike (s : Session) (a : ρ) (b : σ) : Prop :=
  s.offline.detached = true → s.offline.items = [] ∧ ∀ rooms : List (Option Room),
    (Storage.read s.offline.key (rooms.foldl (storeRoom s.roomKey) a)).1 =
      (Storage.read s.offline.key (rooms.foldl (storeRoom s.roomKey) b)).1

namespace ReadsAlike

variable {s : Session} {a : ρ} {b : σ}

/-- It does not matter what is in storage while the queue is shown. -/
lemma of_shown (h : s.offline.detached = false) : s.ReadsAlike a b := by
  intro hhidden
  rw [h] at hhidden
  cases hhidden

/-- The same is read for the queue now. -/
lemma queue (h : s.ReadsAlike a b) : Queue.Offline.ReadsAlike s.offline a s.offline b :=
  fun hhidden => (h hhidden).2 []

section Queue

variable (h : s.ReadsAlike a b) (now : Timestamp)
include h

/-- The same queue is shown. -/
lemma fst_reattach : (s.offline.reattach now a).1 = (s.offline.reattach now b).1 := by
  apply ((Queue.Offline.Alike.refl s.offline).reattach h.queue now).eq_of_key
  rw [Queue.Offline.key_reattach, Queue.Offline.key_reattach]

/-- The queue is the same after an envelope was added. -/
lemma fst_push (e : Envelope) : (s.offline.push now e a).1 = (s.offline.push now e b).1 := by
  apply ((Queue.Offline.Alike.refl s.offline).push h.queue now e).eq_of_key
  rw [Queue.Offline.key_push, Queue.Offline.key_push]

/-- The queue is the same after several envelopes were added. -/
lemma fst_extend (es : List Envelope) :
    (s.offline.extend now es a).1 = (s.offline.extend now es b).1 := by
  apply ((Queue.Offline.Alike.refl s.offline).extend h.queue now es).eq_of_key
  rw [Queue.Offline.key_extend, Queue.Offline.key_extend]

/-- The queue is the same after several envelopes were put in front. -/
lemma fst_prepend (es : List Envelope) :
    (s.offline.prepend now es a).1 = (s.offline.prepend now es b).1 := by
  apply ((Queue.Offline.Alike.refl s.offline).prepend h.queue now es).eq_of_key
  rw [Queue.Offline.key_prepend, Queue.Offline.key_prepend]

/-- The same is read for the queue after several envelopes were added, if it is hidden still. -/
lemma extend (es : List Envelope) :
    ReadsAlike { s with offline := (s.offline.extend now es a).1 } (s.offline.extend now es a).2
      (s.offline.extend now es b).2 := by
  by_cases hnil : es = []
  · subst hnil
    exact h
  · exact .of_shown ((Queue.Offline.detached_extend now es _ _).trans (by simp [hnil]))

/-- The same is read for the queue after several envelopes were put in front, if it is hidden
still. -/
lemma prepend (es : List Envelope) :
    ReadsAlike { s with offline := (s.offline.prepend now es a).1 } (s.offline.prepend now es a).2
      (s.offline.prepend now es b).2 := by
  by_cases hnil : es = []
  · subst hnil
    exact h
  · exact .of_shown ((Queue.Offline.detached_prepend now es _ _).trans (by simp [hnil]))

end Queue

/-- The same is left when the queue is drained, and the same is read for it afterwards.

**Proof sketch.** If the queue is shown it looks the same on both sides, so the same is taken of it
(`Queue.Offline.Alike.drain`). If it is hidden there is nothing to drain. -/
lemma drain (h : s.ReadsAlike a b) (m : Moment) (link : Nat) (o : Outbox) :
    (s.offline.drain (Outbox.transmit m link) a o).1 =
        (s.offline.drain (Outbox.transmit m link) b o).1 ∧
      (s.offline.drain (Outbox.transmit m link) a o).2.1 =
        (s.offline.drain (Outbox.transmit m link) b o).2.1 ∧
      (s.offline.drain (Outbox.transmit m link) a o).2.2.2 =
        (s.offline.drain (Outbox.transmit m link) b o).2.2.2 ∧
      ReadsAlike { s with offline := (s.offline.drain (Outbox.transmit m link) a o).2.1 }
        (s.offline.drain (Outbox.transmit m link) a o).2.2.1
        (s.offline.drain (Outbox.transmit m link) b o).2.2.1 := by
  obtain ⟨hresult, halike, houtbox⟩ :=
    (Queue.Offline.Alike.refl s.offline).drain (Outbox.transmit m link) a b o
  obtain ⟨-, -, -, hdetached, hkey⟩ := Queue.Offline.drain_eq (Outbox.transmit m link) s.offline a o
  obtain ⟨-, -, -, -, hkey'⟩ := Queue.Offline.drain_eq (Outbox.transmit m link) s.offline b o
  refine ⟨hresult, halike.eq_of_key (hkey.trans hkey'.symm), houtbox, ?_⟩
  cases hhidden : s.offline.detached with
  | false => exact .of_shown (hdetached.trans hhidden)
  | true =>
    -- A hidden queue has nothing that could be drained.
    have hsame : ∀ {π : Type} [Storage π] (c : π),
        s.offline.drain (Outbox.transmit m link) c o = (.ok 0, s.offline, c, o) := by
      intro π _ c
      rw [Queue.Offline.drain, (h hhidden).1]
      rfl
    rw [hsame a, hsame b]
    exact h

/-- The same is read for the queue after a room has been stored in both storages, or has not. -/
lemma room (h : s.ReadsAlike a b) (room : Option Room) :
    ReadsAlike { s with room := room, sharedRoom := room } (storeRoom s.roomKey a room)
      (storeRoom s.roomKey b room) := by
  intro hhidden
  obtain ⟨hitems, hreads⟩ := h hhidden
  exact ⟨hitems, fun rooms => hreads (room :: rooms)⟩

/-- Rooms that are stored, or are not, leave alone what an honest storage holds under another key.

**Proof sketch.** Induction on the rooms. -/
lemma held_storeRooms {keys : List String} {sound : σ → Prop} {held : String → σ → Option String}
    (honest : Storage.Honest keys sound held) {queueKey roomKey : String} (hqueue : queueKey ∈ keys)
    (hroom : roomKey ∈ keys) (hne : queueKey ≠ roomKey) (rooms : List (Option Room)) {b : σ}
    (hb : sound b) :
    sound (rooms.foldl (storeRoom roomKey) b) ∧
      held queueKey (rooms.foldl (storeRoom roomKey) b) = held queueKey b := by
  induction rooms generalizing b with
  | nil => exact ⟨hb, rfl⟩
  | cons room rooms ih =>
    have hone : sound (storeRoom roomKey b room) ∧
        held queueKey (storeRoom roomKey b room) = held queueKey b := by
      cases room with
      | some r =>
        exact ⟨honest.sound_write roomKey hroom _ b hb,
          honest.held_write_of_ne roomKey hroom queueKey hqueue hne _ b hb⟩
      | none =>
        exact ⟨honest.sound_remove roomKey hroom b hb,
          honest.held_remove_of_ne roomKey hroom queueKey hqueue hne b hb⟩
    obtain ⟨hsound, hheld⟩ := ih hone.1
    exact ⟨hsound, hheld.trans hone.2⟩

/-- Two honest storages that can be read tell the queue the same if they hold the same for it and
the room has another key, whatever fails to be written to them or removed from them. -/
lemma of_honest {soundA : ρ → Prop} {heldA : String → ρ → Option String} {soundB : σ → Prop}
    {heldB : String → σ → Option String}
    (honestA : Storage.Honest [s.offline.key, s.roomKey] soundA heldA)
    (honestB : Storage.Honest [s.offline.key, s.roomKey] soundB heldB)
    (hreadA : ∀ a, soundA a → (Storage.read s.offline.key a).1 = .ok (heldA s.offline.key a))
    (hreadB : ∀ b, soundB b → (Storage.read s.offline.key b).1 = .ok (heldB s.offline.key b))
    (hne : s.offline.key ≠ s.roomKey) (ha : soundA a) (hb : soundB b)
    (hheld : heldA s.offline.key a = heldB s.offline.key b)
    (hitems : s.offline.detached = true → s.offline.items = []) : s.ReadsAlike a b := by
  intro hhidden
  refine ⟨hitems hhidden, fun rooms => ?_⟩
  obtain ⟨hsoundA, hsameA⟩ := held_storeRooms honestA (by simp) (by simp) hne rooms ha
  obtain ⟨hsoundB, hsameB⟩ := held_storeRooms honestB (by simp) (by simp) hne rooms hb
  rw [hreadA _ hsoundA, hreadB _ hsoundB, hsameA, hsameB, hheld]

end ReadsAlike

namespace Turn

/-- Two sessions in the middle of an event are the same, and have done the same so far. Their
storages may differ, as long as the same is read for a queue that is hidden. -/
inductive Alike : Turn ρ → Turn σ → Prop
  | of_storages (s : Session) (o : Outbox) {a : ρ} {b : σ} (h : s.ReadsAlike a b) :
    Alike ⟨s, a, o⟩ ⟨s, b, o⟩

namespace Alike

variable {t : Turn ρ} {u : Turn σ}

/-- The sessions are the same. -/
lemma session_eq (h : Alike t u) : t.session = u.session := by
  cases h
  rfl

/-! ### Steps without the storage -/

/-- The same state is published. -/
lemma publish (h : Alike t u) (m : Moment) (next : ConnectionState) :
    Alike (t.publish m next) (u.publish m next) := by
  cases h with
  | of_storages s o h => exact .of_storages _ _ h

/-- One more effect is the same. -/
lemma emit (h : Alike t u) (effect : Effect) : Alike (t.emit effect) (u.emit effect) := by
  cases h with
  | of_storages s o h => exact .of_storages s _ h

/-- The same callers get the same answer. -/
lemma reply (h : Alike t u) (result : Except Error Unit) (callers : List Nat) :
    Alike (t.reply result callers) (u.reply result callers) := by
  cases h with
  | of_storages s o h => exact .of_storages s _ h

/-- Those who wait get the same answer. -/
lemma resolve (h : Alike t u) (result : Except Error Unit) :
    Alike (t.resolve result) (u.resolve result) := by
  cases h with
  | of_storages s o h => exact .of_storages _ _ h

/-- No next attempt is due in either. -/
lemma cancelRetry (h : Alike t u) : Alike t.cancelRetry u.cancelRetry := by
  cases h with
  | of_storages s o h => exact .of_storages _ o h

/-- The link is given up in both. -/
lemma dropLink (h : Alike t u) : Alike t.dropLink u.dropLink := by
  cases h with
  | of_storages s o h =>
    unfold Turn.dropLink
    dsimp only [stopHeartbeat]
    cases s.link with
    | none => exact .of_storages _ o h
    | some link => exact .of_storages _ _ h

/-- The same next attempt is scheduled. -/
lemma retry (h : Alike t u) (m : Moment) : Alike (t.retry m) (u.retry m) := by
  cases h with
  | of_storages s o h =>
    unfold Turn.retry
    dsimp only
    split
    · exact .of_storages _ _ h
    · exact .of_storages _ _ h

/-- The link is lost in both. -/
lemma lose (h : Alike t u) (m : Moment) : Alike (t.lose m) (u.lose m) :=
  h.dropLink.retry m

/-- What comes over the link does the same. -/
lemma receive (h : Alike t u) (m : Moment) (text : String) :
    Alike (t.receive m text) (u.receive m text) := by
  cases h with
  | of_storages s o h =>
    unfold Turn.receive
    split
    · exact .of_storages s o h
    · split
      · exact .of_storages _ o h
      · exact .of_storages s _ h

/-- The same address is connected to. -/
lemma dial (h : Alike t u) (m : Moment) (credential : String) :
    Alike (t.dial m credential) (u.dial m credential) := by
  cases h with
  | of_storages s o h => exact .of_storages _ _ h

/-- A new link is greeted in the same way. -/
lemma welcome (h : Alike t u) (m : Moment) (credential : String) :
    Alike (t.welcome m credential) (u.welcome m credential) := by
  cases h with
  | of_storages s o h => exact .of_storages _ _ h

/-- The server is pinged in both. -/
lemma ping (h : Alike t u) (m : Moment) : Alike (t.ping m) (u.ping m) := by
  cases h with
  | of_storages s o h =>
    unfold Turn.ping
    dsimp only
    cases s.link with
    | none => exact .of_storages _ o h
    | some link =>
      dsimp only
      split
      · exact .of_storages _ _ h
      · exact (Alike.of_storages s _ h).lose m

/-- The heartbeat does the same. -/
lemma beat (h : Alike t u) (m : Moment) : Alike (t.beat m) (u.beat m) := by
  cases h with
  | of_storages s o h =>
    have hpolled : ∀ heartbeat : Heartbeat,
        Alike (⟨{ s with heartbeat := heartbeat }, _, o⟩ : Turn ρ)
          ⟨{ s with heartbeat := heartbeat }, _, o⟩ := fun heartbeat => .of_storages _ o h
    unfold Turn.beat
    dsimp only
    split
    · exact (hpolled _).ping m
    · exact (hpolled _).lose m
    · exact hpolled _

/-! ### Steps with the storage -/

/-- Two sessions are the same that get the same queue. -/
lemma of_queue {s : Session} {o : Outbox} {q r : Queue.Offline} {a : ρ} {b : σ} (hqueue : q = r)
    (hreads : ReadsAlike { s with offline := q } a b) :
    Alike (⟨{ s with offline := q }, a, o⟩ : Turn ρ) ⟨{ s with offline := r }, b, o⟩ := by
  subst hqueue
  exact .of_storages _ o hreads

/-- The same queue is shown. -/
lemma reveal (h : Alike t u) (m : Moment) : Alike (t.reveal m) (u.reveal m) := by
  cases h with
  | of_storages s o h =>
    exact of_queue (h.fst_reattach m.stamp) (.of_shown (Queue.Offline.detached_reattach _ _ _))

/-- An envelope waits in both queues. -/
lemma keep (h : Alike t u) (m : Moment) (e : Envelope) : Alike (t.keep m e) (u.keep m e) := by
  cases h with
  | of_storages s o h =>
    exact of_queue (h.fst_push m.stamp e) (.of_shown (Queue.Offline.detached_push _ _ _ _))

/-- What waits in memory moves behind both queues. -/
lemma spill (h : Alike t u) (m : Moment) : Alike (t.spill m) (u.spill m) := by
  cases h with
  | of_storages s o h =>
    exact of_queue (s := { s with pending := .empty }) (h.fst_extend m.stamp s.pending.items)
      (h.extend m.stamp s.pending.items)

/-- What waits in memory moves in front of both queues. -/
lemma spillAhead (h : Alike t u) (m : Moment) : Alike (t.spillAhead m) (u.spillAhead m) := by
  cases h with
  | of_storages s o h =>
    exact of_queue (s := { s with pending := .empty }) (h.fst_prepend m.stamp s.pending.items)
      (h.prepend m.stamp s.pending.items)

/-- The room is the same, whether it can be stored or not. -/
lemma rememberRoom (h : Alike t u) (room : Option Room) :
    Alike (t.rememberRoom room) (u.rememberRoom room) := by
  cases h with
  | of_storages s o h =>
    cases room with
    | none => exact .of_storages _ o (h.room none)
    | some r => exact .of_storages _ o (h.room (some r))

/-! ### What goes out -/

/-- What waits in memory is drained in the same way. -/
lemma drainPending (h : Alike t u) (m : Moment) (link : Nat) :
    ∃ result t' u', t.drainPending m link = (result, t') ∧ u.drainPending m link = (result, u') ∧
      Alike t' u' := by
  cases h with
  | of_storages s o h => exact ⟨_, _, _, rfl, rfl, .of_storages _ _ h⟩

/-- What waits in storage is drained in the same way. -/
lemma drainOffline (h : Alike t u) (m : Moment) (link : Nat) :
    ∃ result t' u', t.drainOffline m link = (result, t') ∧ u.drainOffline m link = (result, u') ∧
      Alike t' u' := by
  cases h with
  | of_storages s o h =>
    obtain ⟨hresult, hqueue, houtbox, hreads⟩ := h.drain m link o
    refine ⟨_, _, _, rfl, Prod.ext hresult.symm rfl, ?_⟩
    unfold Turn.drainOffline
    dsimp only
    rw [← houtbox]
    exact of_queue hqueue hreads

/-- The link breaks off in both. -/
lemma breakOff (h : Alike t u) (m : Moment) : Alike (t.breakOff m) (u.breakOff m) :=
  (h.spillAhead m).lose m

/-- All that waits is written in the same way, up to the first that the link does not take.

**Proof sketch.** The queue in memory is drained first. If a drain is broken off on one side it is
on the other, and at the same envelope, since the receiver is the same. -/
lemma flush (h : Alike t u) (m : Moment) :
    ∃ taken t' u', t.flush m = (taken, t') ∧ u.flush m = (taken, u') ∧ Alike t' u' := by
  unfold Turn.flush
  rw [← h.session_eq]
  cases t.session.link with
  | none => exact ⟨false, t, u, rfl, rfl, h⟩
  | some link =>
    obtain ⟨first, t₁, u₁, ht₁, hu₁, h₁⟩ := h.drainPending m link
    dsimp only
    rw [ht₁, hu₁]
    cases first with
    | error err => exact ⟨false, _, _, rfl, rfl, h₁.breakOff m⟩
    | ok n =>
      obtain ⟨second, t₂, u₂, ht₂, hu₂, h₂⟩ := h₁.drainOffline m link
      dsimp only
      rw [ht₂, hu₂]
      cases second with
      | error err => exact ⟨false, _, _, rfl, rfl, h₂.breakOff m⟩
      | ok n => exact ⟨true, t₂, u₂, rfl, rfl, h₂⟩

/-- An envelope is sent in the same way, or waits in both.

**Proof sketch.** By whether there is a link, and whether it takes the envelope. None of that is up
to a storage. -/
lemma route (h : Alike t u) (m : Moment) (e : Envelope) : Alike (t.route m e) (u.route m e) := by
  have hkept := h.keep m e
  cases h with
  | of_storages s o h =>
    unfold Turn.route
    dsimp only
    cases s.link with
    | none =>
      dsimp only
      split
      · exact .of_storages _ o h
      · exact hkept
    | some link =>
      dsimp only
      split
      · exact .of_storages s _ h
      · exact ((Alike.of_storages s _ h).keep m e).lose m

/-- The room is joined again in both, if that is due. -/
lemma rejoin (h : Alike t u) (m : Moment) : Alike (t.rejoin m) (u.rejoin m) := by
  cases h with
  | of_storages s o h =>
    unfold Turn.rejoin
    dsimp only
    split
    · cases s.room with
      | none => exact .of_storages _ o h
      | some r =>
        exact (Alike.of_storages { s with room := some r, rejoins := false } o h).route m _
    · exact .of_storages s o h

/-! ### Attempts -/

/-- An attempt begins in both. -/
lemma beginAttempt (h : Alike t u) (m : Moment) (stage : Stage) :
    Alike (t.beginAttempt m stage) (u.beginAttempt m stage) := by
  have hshown := h.reveal m
  unfold Turn.beginAttempt
  generalize t.reveal m = t' at hshown ⊢
  generalize u.reveal m = u' at hshown ⊢
  cases hshown with
  | of_storages s o h =>
    exact publish (.of_storages { s with attempt := some stage } o h) m .connecting

/-- An attempt begins with the same credential. -/
lemma beginWith (h : Alike t u) (m : Moment) (credential : String) :
    Alike (t.beginWith m credential) (u.beginWith m credential) := by
  unfold Turn.beginWith dialing
  rw [h.session_eq]
  exact (h.beginAttempt m _).emit _

/-- The provider is asked for both. -/
lemma beginFresh (h : Alike t u) (m : Moment) (other : Option String) :
    Alike (t.beginFresh m other) (u.beginFresh m other) :=
  (h.beginAttempt m _).emit .asked

/-- The attempt is over without a link in both. -/
lemma fail (h : Alike t u) (m : Moment) (e : Error) : Alike (t.fail m e) (u.fail m e) := by
  refine ((resolve ?_ (.error e)).spill m).retry m
  cases h with
  | of_storages s o h => exact .of_storages _ o h

/-- The answer of the provider does the same. -/
lemma acquire (h : Alike t u) (m : Moment) (answer : Credential.Answer) (other : Option String) :
    Alike (t.acquire m answer other) (u.acquire m answer other) := by
  unfold Turn.acquire
  split
  · exact h.dial m _
  · exact h.dial m _
  · exact h.dial m _
  · exact h.fail m _
  · exact h.fail m _

/-- A link is opened in both. -/
lemma succeed (h : Alike t u) (m : Moment) (credential : String) :
    Alike (t.succeed m credential) (u.succeed m credential) := by
  obtain ⟨taken, t', u', ht, hu, hflushed⟩ := (h.welcome m credential).flush m
  unfold Turn.succeed
  rw [ht, hu]
  cases taken with
  | true => exact hflushed.rejoin m
  | false => exact hflushed

/-! ### Commands -/

/-- A caller waits for an attempt that begins in both. -/
lemma connectAnew (h : Alike t u) (m : Moment) (credential : String) (caller : Nat) :
    Alike (t.connectAnew m credential caller) (u.connectAnew m credential caller) := by
  refine beginWith ?_ m credential
  cases h with
  | of_storages s o h => exact .of_storages _ o h

/-- To connect does the same. -/
lemma connect (h : Alike t u) (m : Moment) (credential : String) (caller : Nat) :
    Alike (t.connect m credential caller) (u.connect m credential caller) := by
  cases h with
  | of_storages s o h =>
    have hloggedIn := Alike.of_storages { s with loggedOut := false } o h
    unfold Turn.connect
    dsimp only
    split
    · exact .of_storages _ o h
    · split
      · split
        · exact hloggedIn.reply _ _
        · exact hloggedIn.dropLink.connectAnew m credential caller
      · exact hloggedIn.connectAnew m credential caller

/-- To connect anew does the same. -/
lemma reconnect (h : Alike t u) (m : Moment) (caller : Nat) :
    Alike (t.reconnect m caller) (u.reconnect m caller) := by
  cases h with
  | of_storages s o h =>
    unfold Turn.reconnect
    dsimp only
    split
    · exact .of_storages s _ h
    · refine beginFresh ?_ m _
      exact .of_storages _ o h

/-- To join a room does the same. -/
lemma join (h : Alike t u) (m : Moment) (r : Room) : Alike (t.join m r) (u.join m r) :=
  (h.rememberRoom (some r)).route m _

/-- To leave a room does the same. -/
lemma leave (h : Alike t u) (m : Moment) (r : Room) : Alike (t.leave m r) (u.leave m r) := by
  unfold Turn.leave
  rw [← h.session_eq]
  refine route ?_ m _
  split
  · exact h.rememberRoom none
  · exact h

/-- Not to wait any more does the same. -/
lemma wake (h : Alike t u) (m : Moment) : Alike (t.wake m) (u.wake m) := by
  unfold Turn.wake
  rw [← h.session_eq]
  split
  · exact h.cancelRetry.beginFresh m none
  · exact h

/-- A command does the same to two sessions that look the same, unless it is to log out.

**Proof sketch.** One case for each command. What a command changes in the session, and what it does
to the world outside, comes from the session alone. -/
lemma obey (h : Alike t u) (m : Moment) {c : Command} (hc : ∀ caller, c ≠ .disconnect caller) :
    Alike (t.obey m c) (u.obey m c) := by
  cases c with
  | connect credential caller => exact h.connect m credential caller
  | reconnect caller => exact h.reconnect m caller
  | disconnect caller => exact absurd rfl (hc caller)
  | send e => exact h.route m e
  | join r => exact h.join m r
  | leave r => exact h.leave m r
  | wake reason => exact h.wake m
  | watch id watcher =>
    cases h with
    | of_storages s o h => exact .of_storages _ _ h
  | unwatch id =>
    cases h with
    | of_storages s o h => exact .of_storages _ o h
  | count caller =>
    unfold Turn.obey
    rw [h.session_eq]
    exact h.emit _

/-! ### Events -/

/-- **An event does the same to both.** It does the same to two sessions that look the same, unless
the user logs out by it.

**Proof sketch.** One case for each event. Whether an event has any effect is told by the session,
which is the same on both sides, and each step of it keeps the two alike. -/
theorem react (h : Alike t u) (m : Moment) {event : Event}
    (hevent : ∀ caller, event ≠ .command (.disconnect caller)) :
    Alike (Session.react m event t) (Session.react m event u) := by
  unfold Session.react
  rw [h.session_eq]
  cases event with
  | command c =>
    refine h.obey m ?_
    rintro caller rfl
    exact hevent caller rfl
  | listen kind listener =>
    cases h with
    | of_storages s o h => exact .of_storages _ o h
  | unlisten kind id =>
    cases h with
    | of_storages s o h => exact .of_storages _ o h
  | acquired answer =>
    dsimp only
    split
    · exact h.acquire m answer _
    · exact h
  | opened =>
    dsimp only
    split
    · exact h.succeed m _
    · exact h
  | failed e =>
    dsimp only
    split
    · exact h.fail m e
    · exact h
  | expired =>
    dsimp only
    split
    · exact (h.emit .abandoned).fail m _
    · exact h
  | received text =>
    dsimp only
    split
    · exact h.receive m text
    · exact h
  | ended =>
    dsimp only
    split
    · exact h.lose m
    · exact h
  | beat => exact h.beat m
  | retryDue =>
    dsimp only
    split
    · exact h.cancelRetry.beginFresh m none
    · exact h

end Alike

end Turn

/-! ### Runs -/

/-- **What a storage does is not seen by anyone.** Events in a row lead a session over two storages
to the same session, and do the same to the world outside, if the user does not log out by any of
them.

**Proof sketch.** Induction on the events, by `Turn.Alike.react`. The storages may go different
ways. -/
theorem alike_run {events : List (Moment × Event)}
    (hevents : ∀ x ∈ events, ∀ caller, x.2 ≠ .command (.disconnect caller)) {s : Session} {a : ρ}
    {b : σ} (h : s.ReadsAlike a b) :
    (run events s a).1 = (run events s b).1 ∧ (run events s a).2.2 = (run events s b).2.2 := by
  induction events generalizing s a b with
  | nil => exact ⟨rfl, rfl⟩
  | cons x rest ih =>
    obtain ⟨m, event⟩ := x
    have hstep : Turn.Alike (step m event s a) (step m event s b) :=
      (Turn.Alike.of_storages s .empty h).react m (hevents _ List.mem_cons_self)
    have hrest := fun x hx => hevents x (List.mem_cons_of_mem (m, event) hx)
    unfold run
    generalize step m event s a = t at hstep ⊢
    generalize step m event s b = u at hstep ⊢
    cases hstep with
    | of_storages s' o h' =>
      obtain ⟨hsession, heffects⟩ := ih hrest h'
      exact ⟨hsession, congrArg (List.cons o.effects) heffects⟩

/-- **Failures of the storage are not seen.** Nobody sees whether anything is written to it. Over
two storages of any kinds, queues that look the same and are shown answer operations in the same
way, and look the same after each of them; and a session comes to the same after each event and does
the same to the world outside. Only hiding a queue and loading it anew are left out of the
operations, and logging out is of the events. A queue that is hidden to begin with has to have the
same text in both storages.

**Proof sketch.** Both parts are what is true of runs (`Queue.Offline.Alike.applyAll`, `alike_run`),
applied to the part of the operations, or of the events, up to the moment that is asked for. -/
theorem failures_unseen (a : ρ) (b : σ) :
    (∀ (τ : Type) (q r : Queue.Offline), q.Alike r → q.detached = false →
      ∀ ops : List (Timestamp × Queue.Offline.Operation τ), (∀ x ∈ ops, x.2.Plain) →
        ∀ (t : τ) (n : Nat),
          (Queue.Offline.applyAll (ops.take n) q a t).1 =
              (Queue.Offline.applyAll (ops.take n) r b t).1 ∧
            (Queue.Offline.applyAll (ops.take n) q a t).2.2.2 =
              (Queue.Offline.applyAll (ops.take n) r b t).2.2.2 ∧
            Queue.Offline.Alike (Queue.Offline.applyAll (ops.take n) q a t).2.1
              (Queue.Offline.applyAll (ops.take n) r b t).2.1) ∧
    (∀ s : Session, s.ReadsAlike a b → ∀ events : List (Moment × Event),
      (∀ x ∈ events, ∀ caller, x.2 ≠ .command (.disconnect caller)) → ∀ n : Nat,
        (run (events.take n) s a).1 = (run (events.take n) s b).1 ∧
          (run (events.take n) s a).2.2 = (run (events.take n) s b).2.2) := by
  constructor
  · intro τ q r halike hshown ops hops t n
    exact halike.applyAll hshown (fun x hx => hops x (List.mem_of_mem_take hx)) a b t
  · intro s hreads events hevents n
    exact alike_run (fun x hx => hevents x (List.mem_of_mem_take hx)) hreads

namespace Sample

open Messenger.Sample (epoch note)
open Queue.Offline.Sample (takeOne)

/-- The first note waits in a storage in which the next writings fail by plan. -/
def unwilling (writings : List Bool) : Store.Planned :=
  ⟨storage, [], writings⟩

/-- A session after the user has logged out: what waits in storage is hidden. -/
def away : Session :=
  { (start epoch settings target storage).1 with
    offline := (start epoch settings target storage).1.offline.detach
    loggedOut := true }

/-- The user enters a room, asks to connect and sends the second note. The link takes two of the
three envelopes that wait, and is lost. The user leaves the room before the next attempt. -/
def journey : List (Moment × Event) :=
  [(taking 0, .command (.watch 0 5)), (taking 0, .command (.join 7)),
    (taking 0, .command (.connect "key" 0)), (taking 0, .command (.send (note 2))),
    (taking 2, .opened), (taking 0, .command (.leave 7)), (taking 0, .retryDue)]

/-- A queue in which the first note waits. -/
def queue (key : String) : Queue.Offline :=
  ⟨key, [note 1], false, 1⟩

/-- Two notes are added, one at each end, one is handed on, and one is taken by hand. -/
def chores : List (Timestamp × Queue.Offline.Operation (List Envelope)) :=
  [(epoch, .push (note 2)), (epoch, .prepend [note 3]), (epoch, .drain takeOne), (epoch, .pop),
    (epoch, .front)]

end Sample

set_option maxRecDepth 6000 in
/-- Although none of nine writings succeeds and the storage is at the end what it was at the
beginning, the same notes are written on the link as if all did, and the queue answers the same.

**Proof sketch.** The storages fail by plan and are read the same all the time, so the parts of
`failures_unseen` apply. What is written on the link, and what is stored in the end, is computed. -/
theorem failures_unseen_journey :
    (∀ n,
      (Queue.Offline.applyAll (Sample.chores.take n) (Sample.queue "one") (Sample.unwilling [])
          []).1 =
        (Queue.Offline.applyAll (Sample.chores.take n) (Sample.queue "two")
          (Sample.unwilling (.replicate 9 true)) []).1) ∧
    (∀ n,
      (run (Sample.journey.take n) Sample.away (Sample.unwilling [])).2.2 =
        (run (Sample.journey.take n) Sample.away
          (Sample.unwilling (.replicate 9 true))).2.2) ∧
    (run Sample.journey Sample.away (Sample.unwilling (.replicate 9 true))).2.1.texts =
      Sample.storage ∧
    (run Sample.journey Sample.away (Sample.unwilling (.replicate 9 true))).2.2.flatMap
        (List.filterMap Effect.frame?) = [(0, Sample.note 2), (0, Sample.note 1)] := by
  have honest := Store.honest_planned [Sample.away.offline.key, Sample.away.roomKey]
    (fun readings _ => readings = []) (by rintro _ _ rfl; exact ⟨rfl, rfl⟩)
  have hread : ∀ s : Store.Planned, s.readings = [] →
      (Storage.read Sample.away.offline.key s).1 =
        .ok (Store.Planned.held Sample.away.offline.key s) := by
    intro s hs
    simp [Storage.read, hs, Store.Planned.held]
  have hreads : ReadsAlike Sample.away (Sample.unwilling [])
      (Sample.unwilling (.replicate 9 true)) :=
    .of_honest honest honest hread hread (by decide) rfl rfl rfl fun _ => rfl
  have hevents : ∀ x ∈ Sample.journey, ∀ caller, x.2 ≠ .command (.disconnect caller) := by
    simp [Sample.journey]
  have hunseen := failures_unseen (Sample.unwilling [])
    (Sample.unwilling (.replicate 9 true))
  refine ⟨fun n => ?_, fun n => ?_, rfl, rfl⟩
  · exact (hunseen.1 _ (Sample.queue "one") (Sample.queue "two") ⟨rfl, rfl, rfl⟩ rfl Sample.chores
      (by simp [Sample.chores, Queue.Offline.Operation.Plain]) [] n).1
  · exact (hunseen.2 Sample.away hreads Sample.journey hevents n).2

end Messenger.Session
