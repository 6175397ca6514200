import Messenger.Proofs.Queue.Durable
import Messenger.Proofs.Session.Upkeep

set_option relaxedAutoImplicit false
set_option autoImplicit false

/-!
# What storage keeps

Over a reliable storage that keeps the queue and the room under different keys, the stored texts
tell at all times what waits and which room the user is in. Only what waits in memory is not in
storage.

## Main definitions

* `Messenger.Session.Kept`: storage tells the queue and the room.

## Main results

* `Messenger.Session.kept_upkeep`: all that events are made of keeps it so.
* `Messenger.Session.kept_step`, `Messenger.Session.kept_run`: so do every event and every run.
* `Messenger.Session.kept_start`: it is so at the beginning.
* `Messenger.Session.kept_shutDown`: it is so at the end.
-/

namespace Messenger.Session

variable {σ : Type} [Storage σ]

/-! ### Rooms -/

/-- The room that is loaded depends on the text under the key alone. -/
lemma fst_loadRoom_congr {key : String} {s s' : σ}
    (h : (Storage.read key s).1 = (Storage.read key s').1) :
    (loadRoom key s).1 = (loadRoom key s').1 := by
  unfold loadRoom
  generalize Storage.read key s = a at h
  generalize Storage.read key s' = b at h
  obtain ⟨r, t⟩ := a
  obtain ⟨r', t'⟩ := b
  obtain rfl : r = r' := h
  rcases r with e | _ | text <;> rfl

/-- Loading a room does to the storage what reading the text does. -/
lemma snd_loadRoom (key : String) (s : σ) : (loadRoom key s).2 = (Storage.read key s).2 := by
  unfold loadRoom
  obtain ⟨r, t⟩ := Storage.read key s
  rcases r with e | _ | text <;> rfl

/-- The room of a text that is found under the key. -/
lemma fst_loadRoom_of_read {key text : String} {s : σ}
    (h : (Storage.read key s).1 = .ok (some text)) :
    (loadRoom key s).1 = Text.readUnsigned? 10 Text.limit64 (Text.trim text.toList) := by
  unfold loadRoom
  generalize Storage.read key s = a at h
  obtain ⟨r, t⟩ := a
  obtain rfl : r = .ok (some text) := h
  rfl

/-- If nothing is found under the key there is no room. -/
lemma fst_loadRoom_of_read_none {key : String} {s : σ} (h : (Storage.read key s).1 = .ok none) :
    (loadRoom key s).1 = none := by
  unfold loadRoom
  generalize Storage.read key s = a at h
  obtain ⟨r, t⟩ := a
  obtain rfl : r = .ok none := h
  rfl

/-- A room that is loaded is a number of 64 bits. -/
lemma lt_of_loadRoom {key : String} {s : σ} {r : Room} (h : (loadRoom key s).1 = some r) :
    r < Text.limit64 := by
  unfold loadRoom at h
  split at h
  · exact Text.lt_of_readUnsigned? h
  · cases h

/-- The request to join or to leave a room can be told exactly if the room is a number of 64 bits.

**Proof sketch.** The payload of the request is the room as a number, which is read back below the
limit and not above. -/
lemma faithful_room_iff {m : Moment} (hm : m.stamp.Valid) {kind : Kind}
    (hkind : Kind.ofTag kind.tag = kind) {r : Room} :
    (Turn.envelope m kind (Request.room r)).Faithful 125 ↔ r < Text.limit64 := by
  constructor
  · intro h
    have hrange : Json.Value.IntInRange r := h.canonical.2.1
    have hlt : (r : Int) < 0x10000000000000000 := hrange.2
    exact Int.ofNat_lt.1 hlt
  · intro h
    refine ⟨hkind, hm, ⟨by simp, ?_, trivial⟩, ⟨trivial, trivial⟩, by simp [Turn.envelope,
      Request.room, Json.Value.depth, Json.Value.depthMembers]⟩
    have hlt : (r : Int) < 0x10000000000000000 := Int.ofNat_lt.2 h
    exact ⟨by omega, hlt⟩

/-! ### Sessions -/

/-- The storage is sound, and a text is found under a key. -/
def Beside (roomKey : String) (sound : σ → Prop) (found : Except Error (Option String))
    (store : σ) : Prop :=
  sound store ∧ (Storage.read roomKey store).1 = found

/-- Storage tells what waits there and which room the user is in, and what waits in memory can be
told to it. -/
structure Kept (queueKey roomKey : String) (sound : σ → Prop) (s : Session) (store : σ) : Prop where
  queueKey_eq : s.offline.key = queueKey
  roomKey_eq : s.roomKey = roomKey
  queue : s.offline.Durable [queueKey] (Beside roomKey sound (Storage.read roomKey store).1) store
  pending : ∀ e ∈ s.pending.items, e.Faithful 125
  room : (loadRoom roomKey store).1 = s.room

variable {queueKey roomKey : String} {sound : σ → Prop}

/-- Storage still tells the room after something was done to the queue alone. -/
lemma Kept.of_queue {s s' : Session} {store store' : σ} (h : Kept queueKey roomKey sound s store)
    (hqueue : s'.offline.Durable [queueKey]
      (Beside roomKey sound (Storage.read roomKey store).1) store')
    (hkey : s'.offline.key = s.offline.key) (hroomKey : s'.roomKey = s.roomKey)
    (hroom : s'.room = s.room) (hpending : ∀ e ∈ s'.pending.items, e.Faithful 125) :
    Kept queueKey roomKey sound s' store' := by
  have hread := hqueue.sound_store.2
  refine ⟨hkey.trans h.queueKey_eq, hroomKey.trans h.roomKey_eq, ?_, hpending, ?_⟩
  · rw [hread]
    exact hqueue
  · rw [hroom, ← h.room]
    exact fst_loadRoom_congr hread

/-- The request to join the room again can be told, since the room was told by storage. -/
lemma Kept.faithful_rejoining {s : Session} {store : σ} (h : Kept queueKey roomKey sound s store)
    {m : Moment} (hm : m.stamp.Valid) : ∀ e ∈ s.rejoining m, e.Faithful 125 := by
  intro e he
  unfold rejoining at he
  split at he
  · obtain ⟨r, hroom, rfl⟩ := Option.map_eq_some_iff.1 (Option.mem_toList.1 he)
    exact (faithful_room_iff hm rfl).2 (lt_of_loadRoom (h.room.trans hroom))
  · cases he

/-- Still steps leave alone what storage keeps. -/
lemma Turn.Still.kept {t t' : Turn σ} (h : t.Still t')
    (hkept : Kept queueKey roomKey sound t.session t.store) :
    Kept queueKey roomKey sound t'.session t'.store := by
  obtain ⟨hpending, hoffline, hroom, hroomKey, hstore⟩ := h
  refine ⟨?_, ?_, ?_, ?_, ?_⟩
  · rw [hoffline]
    exact hkept.queueKey_eq
  · rw [hroomKey]
    exact hkept.roomKey_eq
  · rw [hoffline, hstore]
    exact hkept.queue
  · rw [hpending]
    exact hkept.pending
  · rw [hstore, hroom]
    exact hkept.room

/-- What waits in memory does not concern storage. -/
lemma Kept.wait {s : Session} {store : σ} (h : Kept queueKey roomKey sound s store) {e : Envelope}
    (he : e.Faithful 125) :
    Kept queueKey roomKey sound { s with pending := s.pending.push e } store := by
  refine h.of_queue h.queue rfl rfl rfl ?_
  intro x hx
  rcases List.mem_append.1 hx with hx | hx
  · exact h.pending x hx
  · rw [List.mem_singleton.1 hx]
    exact he

section Reliable

variable (hr : Storage.Reliable [queueKey, roomKey] sound) (hne : queueKey ≠ roomKey)

include hr hne

/-- What is done to the queue in storage leaves the room there alone. -/
lemma reliable_beside (found : Except Error (Option String)) :
    Storage.Reliable [queueKey] (Beside roomKey sound found) :=
  hr.beside (by simp) (by simp) hne.symm found

namespace Turn

variable {t : Turn σ}

/-- Showing the queue leaves alone what storage keeps. -/
lemma kept_reveal (h : Kept queueKey roomKey sound t.session t.store) (m : Moment) :
    Kept queueKey roomKey sound (t.reveal m).session (t.reveal m).store :=
  h.of_queue (h.queue.reattach (reliable_beside hr hne _) m.stamp)
    (Queue.Offline.key_reattach m.stamp t.session.offline t.store) rfl rfl h.pending

/-- Storage keeps an envelope that waits there. -/
lemma kept_keep (h : Kept queueKey roomKey sound t.session t.store) (m : Moment) {e : Envelope}
    (he : e.Faithful 125) : Kept queueKey roomKey sound (t.keep m e).session (t.keep m e).store :=
  h.of_queue (h.queue.push (reliable_beside hr hne _) m.stamp he)
    (Queue.Offline.key_push m.stamp e t.session.offline t.store) rfl rfl h.pending

/-- Storage keeps what moves there. -/
lemma kept_spill (h : Kept queueKey roomKey sound t.session t.store) (m : Moment) :
    Kept queueKey roomKey sound (t.spill m).session (t.spill m).store :=
  h.of_queue (h.queue.extend (reliable_beside hr hne _) m.stamp h.pending)
    (Queue.Offline.key_extend m.stamp t.session.pending.items t.session.offline t.store) rfl rfl
    (by simp [spill, Queue.Pending.takeAll, Queue.Pending.empty])

/-- Storage keeps what moves ahead there. -/
lemma kept_spillAhead (h : Kept queueKey roomKey sound t.session t.store) (m : Moment) :
    Kept queueKey roomKey sound (t.spillAhead m).session (t.spillAhead m).store :=
  h.of_queue (h.queue.prepend (reliable_beside hr hne _) m.stamp h.pending)
    (Queue.Offline.key_prepend m.stamp t.session.pending.items t.session.offline t.store) rfl rfl
    (by simp [spillAhead, Queue.Pending.takeAll, Queue.Pending.empty])

omit hr hne in
/-- Storage keeps what is hidden there. -/
lemma kept_hide (h : Kept queueKey roomKey sound t.session t.store) :
    Kept queueKey roomKey sound t.hide.session t.hide.store :=
  h.of_queue h.queue.detach rfl rfl rfl h.pending

/-- The storage stays sound when a room is remembered, and the queue in it is left alone. -/
lemma frame_rememberRoom (h : Kept queueKey roomKey sound t.session t.store)
    (room : Option Room) :
    sound (t.rememberRoom room).store ∧
      (Storage.read queueKey (t.rememberRoom room).store).1 =
        (Storage.read queueKey t.store).1 := by
  have hkeys : queueKey ∈ [queueKey, roomKey] ∧ roomKey ∈ [queueKey, roomKey] := by simp
  have hsound := h.queue.sound_store.1
  unfold rememberRoom
  rw [h.roomKey_eq]
  cases room with
  | some r =>
    refine ⟨hr.sound_write roomKey hkeys.2 _ _ hsound, ?_⟩
    rw [hr.read_write roomKey hkeys.2 queueKey hkeys.1 _ _ hsound, if_neg hne]
  | none =>
    refine ⟨hr.sound_remove roomKey hkeys.2 _ hsound, ?_⟩
    rw [hr.read_remove roomKey hkeys.2 queueKey hkeys.1 _ hsound, if_neg hne]

/-- What waits in storage stays the same when a room is remembered. -/
lemma contents_rememberRoom (h : Kept queueKey roomKey sound t.session t.store)
    (room : Option Room) (now : Timestamp) :
    (t.rememberRoom room).session.offline.contents now (t.rememberRoom room).store =
      t.session.offline.contents now t.store := by
  have hread := (frame_rememberRoom hr hne h room).2
  rw [← h.queueKey_eq] at hread
  exact Queue.Offline.contents_congr hread now

/-- Storage keeps a room that is remembered.

**Proof sketch.** The room is written under its own key or removed there, and is read back as it was
written. The queue is under the other key, which neither touches (`frame_rememberRoom`). -/
lemma kept_rememberRoom (h : Kept queueKey roomKey sound t.session t.store) {room : Option Room}
    (hroom : ∀ r, room = some r → r < Text.limit64) :
    Kept queueKey roomKey sound (t.rememberRoom room).session (t.rememberRoom room).store := by
  have hmem : roomKey ∈ [queueKey, roomKey] := by simp
  obtain ⟨hsound, hread⟩ := frame_rememberRoom hr hne h room
  have htold : (loadRoom roomKey (t.rememberRoom room).store).1 = room := by
    have hbefore := h.queue.sound_store.1
    unfold rememberRoom
    rw [h.roomKey_eq]
    cases room with
    | some r =>
      have hwritten := hr.read_write roomKey hmem roomKey hmem (String.ofList (Text.decimal r))
        t.store hbefore
      rw [if_pos rfl] at hwritten
      rw [fst_loadRoom_of_read hwritten, String.toList_ofList]
      exact Text.readUnsigned?_trim_decimal (hroom r rfl)
    | none =>
      have hremoved := hr.read_remove roomKey hmem roomKey hmem t.store hbefore
      rw [if_pos rfl] at hremoved
      exact fst_loadRoom_of_read_none hremoved
  rw [← h.queueKey_eq] at hread
  have hframe : t.session.offline.Durable [queueKey]
      (Beside roomKey sound (Storage.read roomKey (t.rememberRoom room).store).1)
      (t.rememberRoom room).store :=
    h.queue.frame (by simp [h.queueKey_eq]) ⟨hsound, rfl⟩ hread
  exact ⟨h.queueKey_eq, h.roomKey_eq, hframe, h.pending, htold⟩

/-- Storage keeps that the user is in no room. -/
lemma kept_leaveRoom (h : Kept queueKey roomKey sound t.session t.store) :
    Kept queueKey roomKey sound (t.rememberRoom none).session (t.rememberRoom none).store := by
  apply kept_rememberRoom hr hne h
  intro r hnone
  cases hnone

omit hr hne in
/-- What is written from memory leaves alone what storage keeps. -/
lemma kept_drainPending (h : Kept queueKey roomKey sound t.session t.store) (m : Moment)
    (link : Nat) :
    Kept queueKey roomKey sound (t.drainPending m link).2.session
      (t.drainPending m link).2.store := by
  have hitems : (t.drainPending m link).2.session.pending.items =
      t.session.pending.items.drop (m.takes t.outbox.offers t.session.pending.items.length) :=
    congrArg Account.pending (account_drainPending m link m.stamp t).2
  refine h.of_queue h.queue rfl rfl rfl ?_
  rw [hitems]
  exact fun e he => h.pending e (List.mem_of_mem_drop he)

/-- Storage keeps what is left there when some of it has been written. -/
lemma kept_drainOffline (h : Kept queueKey roomKey sound t.session t.store) (m : Moment)
    (link : Nat) :
    Kept queueKey roomKey sound (t.drainOffline m link).2.session (t.drainOffline m link).2.store :=
  h.of_queue (h.queue.drain (reliable_beside hr hne _) (Outbox.transmit m link) t.outbox)
    (Queue.Offline.drain_eq (Outbox.transmit m link) t.session.offline t.store t.outbox).2.2.2.2
    rfl rfl h.pending

/-- What the queue in storage holds after the user has logged out: what it held, and behind it what
waited in memory. -/
lemma contents_logOut (h : Kept queueKey roomKey sound t.session t.store) (m : Moment) :
    ((t.rememberRoom none).spill m).hide.session.offline.contents m.stamp
        ((t.rememberRoom none).spill m).hide.store =
      t.session.offline.contents m.stamp t.store ++ t.session.pending.items := by
  have hroom := kept_leaveRoom hr hne h
  have hhide : ((t.rememberRoom none).spill m).hide.session.offline.contents m.stamp
        ((t.rememberRoom none).spill m).hide.store =
      ((t.rememberRoom none).spill m).session.offline.contents m.stamp
        ((t.rememberRoom none).spill m).store :=
    (kept_spill hr hne hroom m).queue.contents_detach m.stamp
  rw [hhide, contents_spill, contents_rememberRoom hr hne h]
  rfl

end Turn

/-! ### Events -/

/-- **Storage tells what waits, whatever events are made of.** Whatever events are made of leaves
storage telling what waits and the room, as long as all that is sent can be told.

**Proof sketch.** One part after the other, each by its own lemma. A room is entered by a request
that can be told, so that its number is small enough to be stored. -/
lemma kept_upkeep {m : Moment} (hm : m.stamp.Valid) :
    Upkeep m (fun e => e.Faithful 125) (Kept queueKey roomKey sound) where
  still := Turn.Still.kept
  reveal h := Turn.kept_reveal hr hne h m
  keep he h := Turn.kept_keep hr hne h m he
  wait he h := h.wait he
  spill h := Turn.kept_spill hr hne h m
  spillAhead h := Turn.kept_spillAhead hr hne h m
  hide h := Turn.kept_hide h
  enterRoom hroom h := by
    apply Turn.kept_rememberRoom hr hne h
    intro r hr
    rw [← Option.some.inj hr]
    exact (faithful_room_iff hm rfl).1 hroom
  leaveRoom h := Turn.kept_leaveRoom hr hne h
  drainPending link h := Turn.kept_drainPending h m link
  drainOffline link h := Turn.kept_drainOffline hr hne h m link
  rejoining h := h.faithful_rejoining hm

/-- **One event.** Every event leaves storage telling what waits and the room. -/
lemma kept_step {s : Session} {store : σ} (h : Kept queueKey roomKey sound s store)
    (hc : s.connection.Coherent) {m : Moment} {event : Event} (hm : m.stamp.Valid)
    (hevent : ∀ e ∈ event.ordered m, e.Faithful 125) :
    Kept queueKey roomKey sound (step m event s store).session (step m event s store).store :=
  (kept_upkeep hr hne hm).step hc h hevent

/-- **A run.** Every run leaves storage telling what waits and the room. -/
lemma kept_run {events : List (Moment × Event)} {s : Session} {store : σ}
    (h : Kept queueKey roomKey sound s store) (hc : s.connection.Coherent)
    (hevents : ∀ x ∈ events, x.1.stamp.Valid ∧ ∀ e ∈ x.2.ordered x.1, e.Faithful 125) :
    Kept queueKey roomKey sound (run events s store).1 (run events s store).2.1 :=
  upkeep_run (fun x hx => kept_upkeep hr hne (hevents x hx).1) (fun x hx => (hevents x hx).2) hc h

/-- Before every event of a run storage tells what waits and the room, and what the event sends can
be told. -/
lemma kept_trace {events : List (Moment × Event)} {s : Session} {store : σ}
    (h : Kept queueKey roomKey sound s store) (hc : s.connection.Coherent)
    (hevents : ∀ x ∈ events, x.1.stamp.Valid ∧ ∀ e ∈ x.2.ordered x.1, e.Faithful 125) :
    ∀ r ∈ trace events s store, Kept queueKey roomKey sound r.session r.store ∧
      r.moment.stamp.Valid ∧ ∀ e ∈ r.event.ordered r.moment, e.Faithful 125 := by
  have hall := trace_invariant
    (P := fun s store => Kept queueKey roomKey sound s store ∧ s.connection.Coherent)
    (fun m event s store hmem h => ⟨kept_step hr hne h.1 h.2 (hevents _ hmem).1 (hevents _ hmem).2,
      coherent_step h.2 m event store⟩) ⟨h, hc⟩
  exact fun r hmem => ⟨(hall r hmem).1.1, hevents _ (hall r hmem).2⟩

omit hr hne in
/-- The end of a session moves what waits in memory to storage, and that is all. -/
lemma quiet_shutDown (m : Moment) (s : Session) (store : σ) :
    ((s.turn store).spill m).Quiet (shutDown m s store) := by
  have hquiet : (s.turn store).Quiet (s.turn store).stopHeartbeat.cancelRetry.abandon :=
    ((Turn.quiet_stopHeartbeat _).trans (Turn.quiet_cancelRetry _)).trans (Turn.quiet_abandon _)
  exact (hquiet.spill m).trans (Turn.quiet_dropLink _)

/-- **The end of a session.** The end of a session leaves storage telling what waits and the room.

**Proof sketch.** The end spills what waits in memory into storage and touches nothing else that is
kept. -/
lemma kept_shutDown {s : Session} {store : σ} (h : Kept queueKey roomKey sound s store)
    (m : Moment) :
    Kept queueKey roomKey sound (shutDown m s store).session (shutDown m s store).store :=
  (quiet_shutDown m s store).toStill.kept
    (Turn.kept_spill hr hne (t := s.turn store) h m)

omit hne in
/-- **What a new session has.** A new session has the queue and the room of the storage, which goes
on telling them.

**Proof sketch.** The queue is read first and the room after it. A read leaves what is told under
both keys as it was (`read_read`), so that the queue is still told after the room has been read, and
the room is the one that was there before the queue was read. -/
lemma kept_start {settings : Settings} {target : Settings.Target} {now : Timestamp}
    {stored store : σ} {s : Session} {es : List Envelope}
    (hstart : start now settings target stored = (s, store))
    (hkeys : settings.storage.queueKey = queueKey ∧ settings.storage.roomKey = roomKey)
    (hs : sound stored) (hes : ∀ e ∈ es, e.Faithful 125)
    (hread : ∀ now, (Queue.Offline.readItems now queueKey stored).1 = es) :
    Kept queueKey roomKey sound s store ∧ s.offline.items = es ∧ s.offline.detached = false ∧
      s.pending.items = [] ∧ s.room = (loadRoom roomKey stored).1 := by
  obtain ⟨rfl, rfl⟩ := hkeys
  have hmem : settings.storage.queueKey ∈ [settings.storage.queueKey, settings.storage.roomKey] ∧
      settings.storage.roomKey ∈ [settings.storage.queueKey, settings.storage.roomKey] := by simp
  obtain ⟨hdurable, hitems⟩ := Queue.Offline.durable_load hr hmem.1 hs hes hread now
  obtain ⟨q, store₁, hload⟩ : ∃ q store₁,
    Queue.Offline.load now settings.storage.queueKey stored = (q, store₁) := ⟨_, _, rfl⟩
  rw [hload] at hdurable hitems
  have hs₁ : sound store₁ := hdurable.sound_store
  have hstore₁ : store₁ = (Storage.read settings.storage.queueKey stored).2 :=
    (congrArg Prod.snd hload).symm.trans (Queue.Offline.snd_readItems _ _ _)
  have hkey : q.key = settings.storage.queueKey := congrArg (·.1.key) hload.symm
  have hshown : q.detached = false := congrArg (·.1.detached) hload.symm
  obtain ⟨room, store₂, hroom⟩ : ∃ room store₂,
    loadRoom settings.storage.roomKey store₁ = (room, store₂) := ⟨_, _, rfl⟩
  have hstore₂ : store₂ = (Storage.read settings.storage.roomKey store₁).2 := by
    rw [← snd_loadRoom, hroom]
  have hloaded : (loadRoom settings.storage.roomKey store₁).1 = room := congrArg Prod.fst hroom
  -- The room is read after the queue, which leaves alone the text of the queue.
  have hother : (Storage.read q.key store₂).1 = (Storage.read q.key store₁).1 := by
    rw [hkey, hstore₂]
    exact hr.read_read _ hmem.2 _ hmem.1 _ hs₁
  have hbeside : Beside settings.storage.roomKey sound
      (Storage.read settings.storage.roomKey store₂).1 store₂ := by
    refine ⟨?_, rfl⟩
    rw [hstore₂]
    exact hr.sound_read _ hmem.2 _ hs₁
  have hframe := hdurable.frame (List.mem_singleton.2 hkey) hbeside hother
  simp only [start, hload, hroom, Prod.mk.injEq] at hstart
  obtain ⟨rfl, rfl⟩ := hstart
  refine ⟨⟨hkey, rfl, hframe, ?_, ?_⟩, hitems, hshown, rfl, ?_⟩
  · intro e he
    cases he
  · show (loadRoom settings.storage.roomKey store₂).1 = room
    rw [← hloaded, hstore₂]
    exact fst_loadRoom_congr (hr.read_read _ hmem.2 _ hmem.2 _ hs₁)
  · show room = _
    rw [← hloaded, hstore₁]
    exact fst_loadRoom_congr (hr.read_read _ hmem.1 _ hmem.2 _ hs)

end Reliable

/-! ### A run to look at -/

namespace Sample

open Messenger.Sample (note valid_epoch faithful_note)

/-- The first note can be told. -/
lemma faithful_stored : ∀ e ∈ [note 1], e.Faithful 125 := by
  intro e he
  rw [List.mem_singleton.1 he]
  exact faithful_note (by decide) 125

/-- The first note is read from the storage. -/
lemma readItems_storage (now : Timestamp) :
    (Queue.Offline.readItems now settings.storage.queueKey storage).1 = [note 1] :=
  Queue.Offline.fst_readItems_of_read rfl faithful_stored now

/-- All that is sent in the run can be told. -/
lemma faithful_events :
    ∀ x ∈ events, x.1.stamp.Valid ∧ ∀ e ∈ x.2.ordered x.1, e.Faithful 125 := by
  have hstamp : ∀ n, (taking n).stamp.Valid := fun _ => valid_epoch
  have hnotes : (note 2).Faithful 125 ∧ (note 3).Faithful 125 :=
    ⟨faithful_note (by decide) 125, faithful_note (by decide) 125⟩
  simp [events, Event.ordered, Command.envelope?, hstamp, hnotes]

end Sample

end Messenger.Session
