import Mathlib.Tactic.Lemma
import Messenger.Queue.Offline
import Messenger.Queue.Pending

set_option relaxedAutoImplicit false
set_option autoImplicit false

/-!
# What an offline queue holds

Shown or hidden, an offline queue holds a list of envelopes: those in memory while it is shown, and
those that storage gives back while it is hidden. In these terms the operations do the same in
either case, with any storage.

## Main definitions

* `Messenger.Queue.Offline.itemsOf`: the envelopes that a text holds.
* `Messenger.Queue.Offline.contents`: the envelopes that a queue holds, shown or hidden.
* `Messenger.Queue.Offline.Over`: a queue is kept under a key, in a storage that is sound.

## Main results

* `Messenger.Queue.Offline.items_push`, `Messenger.Queue.Offline.contents_extend`,
  `Messenger.Queue.Offline.contents_prepend`: new envelopes join those that the queue holds.
* `Messenger.Queue.Offline.items_reattach`: showing a queue again brings back what it holds.
* `Messenger.Queue.Offline.drain_eq`: a queue is drained as one in memory would be.
* `Messenger.Queue.Offline.Over.push` and the like: the storage stays sound whatever is done with
  the queue.
-/

namespace Messenger.Queue.Offline

variable {σ : Type} [Storage σ]

/-! ### Reading -/

/-- The envelopes that a text holds, read at the moment `now`. -/
def itemsOf (now : Timestamp) : Option String → List Envelope
  | none => []
  | some text =>
    match Envelope.decodeAll now text with
    | .ok items => items
    | .error _ => []

/-- What is read is in the text that was found. -/
lemma fst_readItems_of_ok {key : String} {s : σ} {found : Option String}
    (h : (Storage.read key s).1 = .ok found) (now : Timestamp) :
    (readItems now key s).1 = itemsOf now found := by
  unfold readItems
  generalize Storage.read key s = a at h
  obtain ⟨r, t⟩ := a
  obtain rfl : r = .ok found := h
  cases found with
  | none => rfl
  | some text =>
    simp only [itemsOf]
    cases Envelope.decodeAll now text <;> rfl

/-- Nothing is read if reading fails. -/
lemma fst_readItems_of_error {key : String} {s : σ} {e : Error}
    (h : (Storage.read key s).1 = .error e) (now : Timestamp) : (readItems now key s).1 = [] := by
  unfold readItems
  generalize Storage.read key s = a at h
  obtain ⟨r, t⟩ := a
  obtain rfl : r = .error e := h
  rfl

/-- What is read from a storage depends on the text under the key alone, also if it is another
storage and another key. -/
lemma fst_readItems_congr {τ : Type} [Storage τ] {key key' : String} {s : σ} {s' : τ}
    (h : (Storage.read key s).1 = (Storage.read key' s').1) (now : Timestamp) :
    (readItems now key s).1 = (readItems now key' s').1 := by
  unfold readItems
  generalize Storage.read key s = a at h
  generalize Storage.read key' s' = b at h
  obtain ⟨r, t⟩ := a
  obtain ⟨r', t'⟩ := b
  obtain rfl : r = r' := h
  rcases r with e | _ | text
  · rfl
  · rfl
  · dsimp only
    cases Envelope.decodeAll now text <;> rfl

/-- Reading envelopes does to the storage what reading the text does. -/
lemma snd_readItems (now : Timestamp) (key : String) (s : σ) :
    (readItems now key s).2 = (Storage.read key s).2 := by
  unfold readItems
  obtain ⟨r, t⟩ := Storage.read key s
  rcases r with e | _ | text
  · rfl
  · rfl
  · dsimp only
    cases Envelope.decodeAll now text <;> rfl

/-- A queue that is loaded has in memory what is read. -/
lemma items_load (now : Timestamp) (key : String) (s : σ) :
    (load now key s).1.items = (readItems now key s).1 := rfl

/-- A queue that is loaded is shown. -/
lemma detached_load (now : Timestamp) (key : String) (s : σ) :
    (load now key s).1.detached = false := rfl

/-! ### Holding -/

/-- The envelopes that a queue holds at the moment `now`: those in memory while it is shown, and
those in storage while it is hidden. -/
def contents (now : Timestamp) (q : Offline) (s : σ) : List Envelope :=
  if q.detached then (readItems now q.key s).1 else q.items

/-- A shown queue holds what is in memory. -/
lemma contents_of_shown {q : Offline} (h : q.detached = false) (now : Timestamp) (s : σ) :
    q.contents now s = q.items := by
  simp [contents, h]

/-- A hidden queue holds what is in storage. -/
lemma contents_of_hidden {q : Offline} (h : q.detached = true) (now : Timestamp) (s : σ) :
    q.contents now s = (readItems now q.key s).1 := by
  simp [contents, h]

/-- What a queue holds depends on the storage only by the text under its key. -/
lemma contents_congr {q : Offline} {s s' : σ}
    (h : (Storage.read q.key s).1 = (Storage.read q.key s').1) (now : Timestamp) :
    q.contents now s = q.contents now s' := by
  rw [contents, contents, fst_readItems_congr h]

/-! ### Showing -/

/-- A queue that has been attached is shown. -/
@[simp] lemma detached_reattach (now : Timestamp) (q : Offline) (s : σ) :
    (q.reattach now s).1.detached = false := by
  unfold reattach
  cases h : q.detached <;> simp [h]

/-- Attaching leaves the key alone. -/
@[simp] lemma key_reattach (now : Timestamp) (q : Offline) (s : σ) :
    (q.reattach now s).1.key = q.key := by
  unfold reattach
  cases q.detached <;> rfl

/-- A queue that has been attached has in memory what it holds. -/
@[simp] lemma items_reattach (now : Timestamp) (q : Offline) (s : σ) :
    (q.reattach now s).1.items = q.contents now s := by
  unfold reattach contents
  cases q.detached <;> rfl

/-- Attaching a queue that is shown changes nothing. -/
lemma reattach_of_shown {q : Offline} (h : q.detached = false) (now : Timestamp) (s : σ) :
    q.reattach now s = (q, s) := by
  simp [reattach, h]

/-! ### Adding -/

/-- Writing the stored text leaves the key alone. -/
@[simp] lemma key_persist (q : Offline) (s : σ) : (q.persist s).1.key = q.key := rfl

/-- Writing the stored text neither shows nor hides a queue. -/
@[simp] lemma detached_persist (q : Offline) (s : σ) :
    (q.persist s).1.detached = q.detached := rfl

/-- An envelope is added by attaching the queue and putting it behind the others. -/
lemma push_eq (now : Timestamp) (e : Envelope) (q : Offline) (s : σ) :
    q.push now e s =
      ({ (q.reattach now s).1 with items := q.contents now s ++ [e] } : Offline).persist
        (q.reattach now s).2 := by
  rw [← items_reattach]
  rfl

/-- A queue to which an envelope was added has in memory all that it held, and the envelope. -/
@[simp] lemma items_push (now : Timestamp) (e : Envelope) (q : Offline) (s : σ) :
    (q.push now e s).1.items = q.contents now s ++ [e] := by
  rw [push_eq, items_persist]

/-- A queue to which an envelope was added is shown. -/
@[simp] lemma detached_push (now : Timestamp) (e : Envelope) (q : Offline) (s : σ) :
    (q.push now e s).1.detached = false := by
  rw [push_eq, detached_persist, detached_reattach]

/-- Adding an envelope leaves the key alone. -/
@[simp] lemma key_push (now : Timestamp) (e : Envelope) (q : Offline) (s : σ) :
    (q.push now e s).1.key = q.key := by
  rw [push_eq, key_persist, key_reattach]

/-- What a queue holds after an envelope was added. -/
@[simp] lemma contents_push (now now' : Timestamp) (e : Envelope) (q : Offline) (s : σ) :
    (q.push now e s).1.contents now' (q.push now e s).2 = q.contents now s ++ [e] := by
  rw [contents_of_shown (detached_push now e q s), items_push]

/-- Adding nothing changes nothing. -/
@[simp] lemma extend_nil (now : Timestamp) (q : Offline) (s : σ) : q.extend now [] s = (q, s) := rfl

/-- Adding nothing in front changes nothing. -/
@[simp] lemma prepend_nil (now : Timestamp) (q : Offline) (s : σ) :
    q.prepend now [] s = (q, s) := rfl

/-- Several envelopes are added by attaching the queue and putting them behind the others. -/
lemma extend_of_ne_nil {es : List Envelope} (h : es ≠ []) (now : Timestamp) (q : Offline) (s : σ) :
    q.extend now es s =
      ({ (q.reattach now s).1 with items := q.contents now s ++ es } : Offline).persist
        (q.reattach now s).2 := by
  rw [extend, if_neg (by simpa using h), ← items_reattach]

/-- Several envelopes are put in front by attaching the queue and putting them ahead of the
others. -/
lemma prepend_of_ne_nil {es : List Envelope} (h : es ≠ []) (now : Timestamp) (q : Offline)
    (s : σ) :
    q.prepend now es s =
      ({ (q.reattach now s).1 with items := es ++ q.contents now s } : Offline).persist
        (q.reattach now s).2 := by
  rw [prepend, if_neg (by simpa using h), ← items_reattach]

/-- Adding envelopes leaves the key alone. -/
@[simp] lemma key_extend (now : Timestamp) (es : List Envelope) (q : Offline) (s : σ) :
    (q.extend now es s).1.key = q.key := by
  by_cases h : es = []
  · rw [h, extend_nil]
  · rw [extend_of_ne_nil h, key_persist, key_reattach]

/-- Putting envelopes in front leaves the key alone. -/
@[simp] lemma key_prepend (now : Timestamp) (es : List Envelope) (q : Offline) (s : σ) :
    (q.prepend now es s).1.key = q.key := by
  by_cases h : es = []
  · rw [h, prepend_nil]
  · rw [prepend_of_ne_nil h, key_persist, key_reattach]

/-- A queue to which envelopes were added is shown, unless there were none of them. -/
lemma detached_extend (now : Timestamp) (es : List Envelope) (q : Offline) (s : σ) :
    (q.extend now es s).1.detached = (es.isEmpty && q.detached) := by
  by_cases h : es = []
  · rw [h, extend_nil]
    rfl
  · rw [extend_of_ne_nil h, detached_persist, detached_reattach, List.isEmpty_eq_false_iff.2 h]
    rfl

/-- A queue in front of which envelopes were put is shown, unless there were none of them. -/
lemma detached_prepend (now : Timestamp) (es : List Envelope) (q : Offline) (s : σ) :
    (q.prepend now es s).1.detached = (es.isEmpty && q.detached) := by
  by_cases h : es = []
  · rw [h, prepend_nil]
    rfl
  · rw [prepend_of_ne_nil h, detached_persist, detached_reattach, List.isEmpty_eq_false_iff.2 h]
    rfl

/-- What a queue holds after several envelopes were added. -/
@[simp] lemma contents_extend (now : Timestamp) (es : List Envelope) (q : Offline) (s : σ) :
    (q.extend now es s).1.contents now (q.extend now es s).2 = q.contents now s ++ es := by
  by_cases h : es = []
  · rw [h, extend_nil, List.append_nil]
  · rw [extend_of_ne_nil h, contents_of_shown (by simp), items_persist]

/-- What a queue holds after several envelopes were put in front. -/
@[simp] lemma contents_prepend (now : Timestamp) (es : List Envelope) (q : Offline) (s : σ) :
    (q.prepend now es s).1.contents now (q.prepend now es s).2 = es ++ q.contents now s := by
  by_cases h : es = []
  · rw [h, prepend_nil, List.nil_append]
  · rw [prepend_of_ne_nil h, contents_of_shown (by simp), items_persist]

/-! ### Draining -/

variable {τ : Type}

/-- A list that is drained envelope by envelope is drained as one in memory would be: the same
envelopes go, the same ones are left, and the outcome is the same.

**Proof sketch.** Induction on the list. After each envelope that goes the queue has those behind it
in memory. -/
lemma drainList_eq (transmit : Envelope → τ → Except Error Unit × τ) {es : List Envelope}
    {q : Offline} (hq : q.items = es) (sent : Nat) (s : σ) (t : τ) :
    (drainList transmit es sent q s t).1 = (Pending.drainList transmit es sent t).1 ∧
      (drainList transmit es sent q s t).2.1.items = (Pending.drainList transmit es sent t).2.1 ∧
      (drainList transmit es sent q s t).2.2.2 = (Pending.drainList transmit es sent t).2.2 ∧
      (drainList transmit es sent q s t).2.1.detached = q.detached ∧
      (drainList transmit es sent q s t).2.1.key = q.key := by
  induction es generalizing q sent s t with
  | nil => exact ⟨rfl, hq, rfl, rfl, rfl⟩
  | cons e rest ih =>
    obtain ⟨outcome, t', ht⟩ : ∃ outcome t', transmit e t = (outcome, t') := ⟨_, _, rfl⟩
    cases outcome with
    | error err =>
      simp only [drainList, Pending.drainList, ht]
      exact ⟨trivial, hq, trivial, trivial, trivial⟩
    | ok u =>
      simp only [drainList, Pending.drainList, ht]
      exact ih (q := (({ q with items := rest } : Offline).persist s).1) rfl (sent + 1) _ t'

/-- A queue is drained as one in memory would be. -/
lemma drain_eq (transmit : Envelope → τ → Except Error Unit × τ) (q : Offline) (s : σ) (t : τ) :
    (q.drain transmit s t).1 = (Pending.drainList transmit q.items 0 t).1 ∧
      (q.drain transmit s t).2.1.items = (Pending.drainList transmit q.items 0 t).2.1 ∧
      (q.drain transmit s t).2.2.2 = (Pending.drainList transmit q.items 0 t).2.2 ∧
      (q.drain transmit s t).2.1.detached = q.detached ∧
      (q.drain transmit s t).2.1.key = q.key :=
  drainList_eq transmit rfl 0 s t

/-! ### What becomes of the storage -/

/-- A queue is kept under a key, in a storage that is sound. -/
structure Over (key : String) (sound : σ → Prop) (q : Offline) (s : σ) : Prop where
  key_eq : q.key = key
  sound_store : sound s

namespace Over

variable {key : String} {sound : σ → Prop} {q : Offline} {s : σ}

/-- Reading keeps the storage sound that a queue is shown from. -/
lemma reattach (hread : ∀ s, sound s → sound (Storage.read key s).2) (h : q.Over key sound s)
    (now : Timestamp) : (q.reattach now s).1.Over key sound (q.reattach now s).2 := by
  refine ⟨(key_reattach now q s).trans h.key_eq, ?_⟩
  unfold Offline.reattach
  split
  · dsimp only
    rw [snd_readItems, h.key_eq]
    exact hread s h.sound_store
  · exact h.sound_store

variable (hwrite : ∀ (value : String) (s : σ), sound s → sound (Storage.write key value s).2)

include hwrite

/-- Writing keeps the storage sound that the text of a queue is written to. -/
lemma persist (h : q.Over key sound s) (es : List Envelope) :
    (({ q with items := es } : Offline).persist s).1.Over key sound
      (({ q with items := es } : Offline).persist s).2 := by
  refine ⟨h.key_eq, ?_⟩
  rw [Offline.persist, h.key_eq]
  exact hwrite _ s h.sound_store

/-- The storage stays sound while a list is drained.

**Proof sketch.** Induction on the list. After each envelope that goes a text is written. -/
lemma drainList {τ : Type} (transmit : Envelope → τ → Except Error Unit × τ) {es : List Envelope}
    (h : q.Over key sound s) (sent : Nat) (t : τ) :
    (Offline.drainList transmit es sent q s t).2.1.Over key sound
      (Offline.drainList transmit es sent q s t).2.2.1 := by
  induction es generalizing q s sent t with
  | nil => exact h
  | cons e rest ih =>
    obtain ⟨outcome, t', ht⟩ : ∃ outcome t', transmit e t = (outcome, t') := ⟨_, _, rfl⟩
    cases outcome with
    | error err =>
      simp only [Offline.drainList, ht]
      exact h
    | ok u =>
      simp only [Offline.drainList, ht]
      exact ih (h.persist hwrite rest) (sent + 1) t'

/-- The storage stays sound while a queue is drained. -/
lemma drain {τ : Type} (transmit : Envelope → τ → Except Error Unit × τ) (h : q.Over key sound s)
    (t : τ) :
    (q.drain transmit s t).2.1.Over key sound (q.drain transmit s t).2.2.1 :=
  h.drainList hwrite transmit 0 t

variable (hread : ∀ s, sound s → sound (Storage.read key s).2)

include hread

/-- The storage stays sound when an envelope is added. -/
lemma push (h : q.Over key sound s) (now : Timestamp) (e : Envelope) :
    (q.push now e s).1.Over key sound (q.push now e s).2 := by
  rw [push_eq]
  exact (h.reattach hread now).persist hwrite _

/-- The storage stays sound when several envelopes are added. -/
lemma extend (h : q.Over key sound s) (now : Timestamp) (es : List Envelope) :
    (q.extend now es s).1.Over key sound (q.extend now es s).2 := by
  by_cases hnil : es = []
  · rw [hnil, extend_nil]
    exact h
  · rw [extend_of_ne_nil hnil]
    exact (h.reattach hread now).persist hwrite _

/-- The storage stays sound when several envelopes are put in front. -/
lemma prepend (h : q.Over key sound s) (now : Timestamp) (es : List Envelope) :
    (q.prepend now es s).1.Over key sound (q.prepend now es s).2 := by
  by_cases hnil : es = []
  · rw [hnil, prepend_nil]
    exact h
  · rw [prepend_of_ne_nil hnil]
    exact (h.reattach hread now).persist hwrite _

end Over

end Messenger.Queue.Offline
