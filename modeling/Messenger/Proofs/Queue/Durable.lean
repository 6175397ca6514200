import Mathlib.Tactic.ByContra
import Messenger.Proofs.Envelope.RoundTrip
import Messenger.Proofs.Queue.Contents
import Messenger.Proofs.Store.Reliable

set_option relaxedAutoImplicit false
set_option autoImplicit false

/-!
# The offline queue in reliable storage

Over a reliable storage the stored text tells at all times what the queue holds, shown or hidden. So
hiding a queue and showing it again loses nothing, and a queue that is loaded anew from the same
storage holds the same envelopes.

## Main definitions

* `Messenger.Queue.Offline.Durable`: storage tells what the queue holds.

## Main results

* `Messenger.Queue.Offline.Durable.push`, `Messenger.Queue.Offline.Durable.extend`,
  `Messenger.Queue.Offline.Durable.prepend`, `Messenger.Queue.Offline.Durable.detach`,
  `Messenger.Queue.Offline.Durable.reattach`, `Messenger.Queue.Offline.Durable.drain`: every
  operation keeps it so.
* `Messenger.Queue.Offline.Durable.contents_detach`: hiding a queue leaves alone what it holds.
-/

namespace Messenger.Queue.Offline

variable {σ : Type} [Storage σ] {keys : List String} {sound : σ → Prop}

/-- Storage tells what the queue holds, at whatever moment it is read, and what the queue holds can
be told. A hidden queue has nothing in memory. -/
structure Durable (keys : List String) (sound : σ → Prop) (q : Offline) (s : σ) : Prop where
  key_mem : q.key ∈ keys
  sound_store : sound s
  stored : ∀ now now', (readItems now q.key s).1 = q.contents now' s
  faithful : ∀ now, ∀ e ∈ q.contents now s, e.Faithful 125
  hidden : q.detached = true → q.items = []

/-! ### Reading -/

/-- Envelopes whose text is under a key are read there. -/
lemma fst_readItems_of_read {key : String} {s : σ} {es : List Envelope}
    (h : (Storage.read key s).1 = .ok (some (Envelope.encodeAll es)))
    (hes : ∀ e ∈ es, e.Faithful 125) (now : Timestamp) : (readItems now key s).1 = es := by
  rw [fst_readItems_of_ok h, itemsOf, Envelope.decodeAll_encodeAll hes]

/-! ### Operations -/

/-- At whatever moment one looks, a durable queue holds the same. -/
lemma Durable.contents_eq {q : Offline} {s : σ} (h : q.Durable keys sound s)
    (now now' : Timestamp) : q.contents now s = q.contents now' s := by
  rw [← h.stored now now, h.stored now now']

/-- A queue that is shown is durable once its text has been written.

**Proof sketch.** What has been written is read, and is read back as the envelopes that were
written, since these can be told. -/
lemma durable_persist (hr : Storage.Reliable keys sound) {q : Offline} {s : σ}
    (hkey : q.key ∈ keys) (hs : sound s) (hshown : q.detached = false)
    (hes : ∀ e ∈ q.items, e.Faithful 125) :
    (q.persist s).1.Durable keys sound (q.persist s).2 := by
  have hcontents : ∀ now, (q.persist s).1.contents now (q.persist s).2 = q.items := fun now =>
    contents_of_shown hshown now _
  have hread : (Storage.read q.key (q.persist s).2).1 =
      .ok (some (Envelope.encodeAll q.items)) := by
    rw [persist, hr.read_write q.key hkey q.key hkey _ s hs, if_pos rfl]
  refine ⟨hkey, hr.sound_write q.key hkey _ s hs, ?_, ?_, ?_⟩
  · intro now now'
    rw [hcontents]
    exact fst_readItems_of_read hread hes now
  · intro now e he
    rw [hcontents] at he
    exact hes e he
  · intro h
    simp [hshown] at h

/-- A durable queue is durable when it is shown again.

**Proof sketch.** A queue that is shown stays as it is. A hidden one gets in memory what storage
tells, and reading leaves storage alone. -/
lemma Durable.reattach (hr : Storage.Reliable keys sound) {q : Offline} {s : σ}
    (h : q.Durable keys sound s) (now : Timestamp) :
    (q.reattach now s).1.Durable keys sound (q.reattach now s).2 := by
  cases hd : q.detached with
  | false =>
    rw [reattach_of_shown hd]
    exact h
  | true =>
    have hstore : (q.reattach now s).2 = (Storage.read q.key s).2 := by
      simp [Offline.reattach, hd, snd_readItems]
    have hcontents : ∀ now', (q.reattach now s).1.contents now' (q.reattach now s).2 =
        q.contents now s := fun now' => by
      rw [contents_of_shown (detached_reattach now q s), items_reattach]
    refine ⟨by simpa using h.key_mem, ?_, ?_, ?_, by simp⟩
    · rw [hstore]
      exact hr.sound_read q.key h.key_mem s h.sound_store
    · intro now₁ now₂
      have hsame := fst_readItems_congr (hr.read_read q.key h.key_mem q.key h.key_mem s
        h.sound_store) now₁
      rw [hcontents, key_reattach, hstore, hsame, h.stored now₁ now]
    · intro now' e he
      rw [hcontents] at he
      exact h.faithful now e he

/-- Writing the text of a queue that was shown again, with other envelopes, makes it durable. -/
lemma Durable.persist_reattach (hr : Storage.Reliable keys sound) {q : Offline} {s : σ}
    (h : q.Durable keys sound s) (now : Timestamp) {es : List Envelope}
    (hes : ∀ e ∈ es, e.Faithful 125) :
    (({ (q.reattach now s).1 with items := es } : Offline).persist (q.reattach now s).2).1.Durable
      keys sound
      (({ (q.reattach now s).1 with items := es } : Offline).persist (q.reattach now s).2).2 :=
  durable_persist hr (h.reattach hr now).key_mem (h.reattach hr now).sound_store
    (detached_reattach now q s) hes

/-- A durable queue stays so when an envelope is added. -/
lemma Durable.push (hr : Storage.Reliable keys sound) {q : Offline} {s : σ}
    (h : q.Durable keys sound s) (now : Timestamp) {e : Envelope} (he : e.Faithful 125) :
    (q.push now e s).1.Durable keys sound (q.push now e s).2 := by
  rw [push_eq]
  apply h.persist_reattach hr now
  intro x hx
  rcases List.mem_append.1 hx with hx | hx
  · exact h.faithful now x hx
  · rw [List.mem_singleton.1 hx]
    exact he

/-- A durable queue stays so when several envelopes are added. -/
lemma Durable.extend (hr : Storage.Reliable keys sound) {q : Offline} {s : σ}
    (h : q.Durable keys sound s) (now : Timestamp) {es : List Envelope}
    (hes : ∀ e ∈ es, e.Faithful 125) :
    (q.extend now es s).1.Durable keys sound (q.extend now es s).2 := by
  by_cases hnil : es = []
  · rw [hnil, extend_nil]
    exact h
  · rw [extend_of_ne_nil hnil]
    apply h.persist_reattach hr now
    intro x hx
    rcases List.mem_append.1 hx with hx | hx
    · exact h.faithful now x hx
    · exact hes x hx

/-- A durable queue stays so when several envelopes are put in front. -/
lemma Durable.prepend (hr : Storage.Reliable keys sound) {q : Offline} {s : σ}
    (h : q.Durable keys sound s) (now : Timestamp) {es : List Envelope}
    (hes : ∀ e ∈ es, e.Faithful 125) :
    (q.prepend now es s).1.Durable keys sound (q.prepend now es s).2 := by
  by_cases hnil : es = []
  · rw [hnil, prepend_nil]
    exact h
  · rw [prepend_of_ne_nil hnil]
    apply h.persist_reattach hr now
    intro x hx
    rcases List.mem_append.1 hx with hx | hx
    · exact hes x hx
    · exact h.faithful now x hx

/-- A durable queue stays so while it is drained.

**Proof sketch.** Induction on the list that is drained. After each envelope the text of those
behind it is written. -/
lemma Durable.drainList (hr : Storage.Reliable keys sound) {τ : Type}
    (transmit : Envelope → τ → Except Error Unit × τ) {es : List Envelope} {q : Offline} {s : σ}
    (h : q.Durable keys sound s) (hes : ∀ e ∈ es, e.Faithful 125)
    (hshown : es ≠ [] → q.detached = false) (sent : Nat) (t : τ) :
    (Offline.drainList transmit es sent q s t).2.1.Durable keys sound
      (Offline.drainList transmit es sent q s t).2.2.1 := by
  induction es generalizing q s sent t with
  | nil => exact h
  | cons e rest ih =>
    obtain ⟨outcome, t', ht⟩ : ∃ outcome t', transmit e t = (outcome, t') := ⟨_, _, rfl⟩
    have hrest : ∀ x ∈ rest, x.Faithful 125 := fun x hx => hes x (by simp [hx])
    cases outcome with
    | error err =>
      simp only [Offline.drainList, ht]
      exact h
    | ok u =>
      simp only [Offline.drainList, ht]
      have hd : q.detached = false := hshown (by simp)
      exact ih (q := (({ q with items := rest } : Offline).persist s).1)
        (durable_persist hr h.key_mem h.sound_store hd hrest) hrest (fun _ => hd) (sent + 1) t'

/-- A durable queue stays so when it is drained. -/
lemma Durable.drain (hr : Storage.Reliable keys sound) {τ : Type}
    (transmit : Envelope → τ → Except Error Unit × τ) {q : Offline} {s : σ}
    (h : q.Durable keys sound s) (t : τ) :
    (q.drain transmit s t).2.1.Durable keys sound (q.drain transmit s t).2.2.1 := by
  have hshown : q.items ≠ [] → q.detached = false := by
    intro hne
    by_contra hd
    exact hne (h.hidden (by simpa using hd))
  apply h.drainList hr transmit ?_ hshown
  intro e he
  have hd := hshown (List.ne_nil_of_mem he)
  exact h.faithful e.timestamp e (by rwa [contents_of_shown hd])

/-- Hiding a durable queue leaves alone what it holds. -/
lemma Durable.contents_detach {q : Offline} {s : σ} (h : q.Durable keys sound s)
    (now : Timestamp) : q.detach.contents now s = q.contents now s := by
  rw [contents_of_hidden (by rfl)]
  exact h.stored now now

/-- A durable queue stays so when it is hidden. -/
lemma Durable.detach {q : Offline} {s : σ} (h : q.Durable keys sound s) :
    q.detach.Durable keys sound s := by
  refine ⟨h.key_mem, h.sound_store, ?_, ?_, fun _ => rfl⟩
  · intro now now'
    rw [h.contents_detach]
    exact h.stored now now'
  · intro now e he
    rw [h.contents_detach] at he
    exact h.faithful now e he

/-- A durable queue stays so when the text under its key is left alone. -/
lemma Durable.frame {q : Offline} {s s' : σ} (h : q.Durable keys sound s) {keys' : List String}
    {sound' : σ → Prop} (hkey : q.key ∈ keys') (hs : sound' s')
    (hread : (Storage.read q.key s').1 = (Storage.read q.key s).1) :
    q.Durable keys' sound' s' := by
  refine ⟨hkey, hs, ?_, ?_, h.hidden⟩
  · intro now now'
    rw [contents_congr hread, fst_readItems_congr hread]
    exact h.stored now now'
  · intro now e he
    rw [contents_congr hread] at he
    exact h.faithful now e he

/-- A queue that is loaded is durable if what it was loaded from can be told.

**Proof sketch.** To load a queue is to read its text, which changes nothing that is read later. -/
lemma durable_load {key : String} {s : σ} {es : List Envelope} (hr : Storage.Reliable keys sound)
    (hkey : key ∈ keys) (hs : sound s) (hes : ∀ e ∈ es, e.Faithful 125)
    (hread : ∀ now, (readItems now key s).1 = es) (now : Timestamp) :
    (load now key s).1.Durable keys sound (load now key s).2 ∧ (load now key s).1.items = es := by
  have hitems : (load now key s).1.items = es := hread now
  have hcontents : ∀ now', (load now key s).1.contents now' (load now key s).2 = es := fun now' =>
    (contents_of_shown rfl now' _).trans hitems
  have hstore : (load now key s).2 = (Storage.read key s).2 := snd_readItems now key s
  refine ⟨⟨hkey, ?_, ?_, ?_, fun h => by cases h⟩, hitems⟩
  · rw [hstore]
    exact hr.sound_read key hkey s hs
  · intro now₁ now₂
    rw [hcontents, hstore]
    exact (fst_readItems_congr (hr.read_read key hkey key hkey s hs) now₁).trans (hread now₁)
  · intro now' e he
    rw [hcontents] at he
    exact hes e he

/-- What the text of a note holds is the note. -/
lemma Sample.itemsOf_note {n : Nat} (h : n < Text.limit64) (now : Timestamp) :
    itemsOf now (some (Envelope.encodeAll [Sample.note n])) = [Sample.note n] := by
  have hnote : ∀ e ∈ [Sample.note n], e.Faithful 125 := by
    intro e he
    rw [List.mem_singleton.1 he]
    exact Sample.faithful_note h 125
  rw [itemsOf, Envelope.decodeAll_encodeAll hnote]

end Messenger.Queue.Offline
