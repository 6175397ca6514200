import Mathlib.Algebra.Order.Group.Multiset
import Mathlib.Tactic.Abel
import Messenger.Proofs.Queue.Durable
import Messenger.Proofs.Store.Honest
import Messenger.Transport.Frame

set_option relaxedAutoImplicit false
set_option autoImplicit false

/-!
# A queue whose storage could not be read

If storage cannot be read when a queue is loaded or shown again, the queue shows nothing, although
storage still holds what it did. That costs nothing as long as the queue is only looked at, drained
or hidden. But the next envelope that is added is written over all of it.

## Main definitions

* `Messenger.Queue.Offline.Use`: what can be done with a queue.
* `Messenger.Queue.Offline.useAll`: one use after another.
* `Messenger.Queue.Offline.Use.overwritten`: what storage held and a use writes over.
* `Messenger.Queue.Offline.Seen`: nothing is added while the queue does not show what storage holds.

## Main results

* `Messenger.Queue.Offline.Backed.useAll`: what becomes of the envelopes that storage held.
* `Messenger.Queue.Offline.conserved_iff_seen`: none of them is lost exactly if all is seen.
-/

namespace Messenger.Queue.Offline

variable {σ : Type} [Storage σ]

/-! ### What can be done with a queue -/

/-- What can be done with a queue. -/
inductive Use
  | push (e : Envelope)
  | extend (es : List Envelope)
  | prepend (es : List Envelope)
  /-- The envelopes are handed on to a link that takes them or not, by their number. -/
  | drain (accepts : Nat → Bool)
  | front
  | pop
  | detach
  | reattach

namespace Use

/-- The envelopes that are added. -/
def added : Use → List Envelope
  | push e => [e]
  | extend es | prepend es => es
  | _ => []

/-- Hands an envelope on to a link, together with those that the link has taken before. -/
def handOn (accepts : Nat → Bool) (e : Envelope) (taken : List Envelope) :
    Except Error Unit × List Envelope :=
  if accepts taken.length then (.ok (), taken ++ [e]) else (.error Transport.linkLost, taken)

/-- What a use does to the queue and its storage, with the envelopes that were taken out. -/
def apply (now : Timestamp) (q : Offline) (s : σ) : Use → List Envelope × Offline × σ
  | push e => ([], q.push now e s)
  | extend es => ([], q.extend now es s)
  | prepend es => ([], q.prepend now es s)
  | drain accepts =>
    let (_, q, s, taken) := q.drain (handOn accepts) s []
    (taken, q, s)
  | front => ([], q, s)
  | pop =>
    let (e, q, s) := q.pop s
    (e.toList, q, s)
  | detach => ([], q.detach, s)
  | reattach => ([], q.reattach now s)

end Use

/-- One use after another, each at its time, with all envelopes that were taken out. -/
def useAll : List (Timestamp × Use) → Offline → σ → List Envelope × Offline × σ
  | [], q, s => ([], q, s)
  | (now, u) :: rest, q, s =>
    let (taken, q, s) := u.apply now q s
    let (others, q, s) := useAll rest q s
    (taken ++ others, q, s)

/-! ### What storage holds -/

variable {key : String} {sound : σ → Prop} {held : String → σ → Option String}

/-- Storage holds some envelopes, and the queue shows them or nothing. -/
structure Backed (key : String) (sound : σ → Prop) (held : String → σ → Option String)
    (q : Offline) (s : σ) (es : List Envelope) : Prop extends q.Over key sound s where
  stored : ∀ now, itemsOf now (held key s) = es
  faithful : ∀ e ∈ es, e.Faithful 125
  items : q.items = es ∨ q.items = []
  hidden : q.detached = true → q.items = []

omit [Storage σ] in
/-- A queue that shows something is not hidden. -/
lemma Backed.shown_of_ne_nil {q : Offline} {s : σ} {es : List Envelope}
    (h : Backed key sound held q s es) (hitems : q.items = es) (hne : es ≠ []) :
    q.detached = false := by
  by_contra hd
  exact hne (hitems ▸ h.hidden (by simpa using hd))

/-- What a use writes over: all that storage holds, if envelopes are added to a queue that shows
nothing. -/
def Use.overwritten (held : String → σ → Option String) (now : Timestamp) (q : Offline) (s : σ)
    (u : Use) : List Envelope :=
  if u.added.isEmpty || !(q.contents now s).isEmpty then [] else itemsOf now (held q.key s)

/-- What is written over by one use after another. -/
def overwrittenBy (held : String → σ → Option String) :
    List (Timestamp × Use) → Offline → σ → List Envelope
  | [], _, _ => []
  | (now, u) :: rest, q, s =>
    u.overwritten held now q s ++
      overwrittenBy held rest (u.apply now q s).2.1 (u.apply now q s).2.2

/-- No envelope is added to a queue that shows nothing while storage holds something. -/
def Seen (held : String → σ → Option String) : List (Timestamp × Use) → Offline → σ → Prop
  | [], _, _ => True
  | (now, u) :: rest, q, s =>
    (u.added ≠ [] → q.contents now s = [] → itemsOf now (held q.key s) = []) ∧
      Seen held rest (u.apply now q s).2.1 (u.apply now q s).2.2

/-- Nothing is written over exactly if all is seen to which something is added. -/
lemma overwrittenBy_eq_nil_iff (uses : List (Timestamp × Use)) (q : Offline) (s : σ) :
    overwrittenBy held uses q s = [] ↔ Seen held uses q s := by
  induction uses generalizing q s with
  | nil => simp [overwrittenBy, Seen]
  | cons x rest ih =>
    obtain ⟨now, u⟩ := x
    rw [overwrittenBy, Seen, List.append_eq_nil_iff, ih, Use.overwritten]
    by_cases hadded : u.added = []
    · simp [hadded]
    · by_cases hcontents : q.contents now s = [] <;> simp [hadded, hcontents]

/-- What became of the envelopes `es` that storage held and of those that were added: they were
taken out, or are held now, or were written over. -/
def Settled (key : String) (sound : σ → Prop) (held : String → σ → Option String)
    (es added erased : List Envelope) (result : List Envelope × Offline × σ) : Prop :=
  ∃ es', Backed key sound held result.2.1 result.2.2 es' ∧
    (result.1 ++ es' ++ erased).Perm (es ++ added)

omit [Storage σ] in
/-- If nothing is taken out, added or written over, storage holds what it did. -/
lemma Backed.settled {q : Offline} {s : σ} {es : List Envelope}
    (h : Backed key sound held q s es) : Settled key sound held es [] [] ([], q, s) :=
  ⟨es, h, by rw [List.append_nil, List.append_nil]; exact List.Perm.refl es⟩

/-- What became of some envelopes in two steps is what became of them in the first one and of those
that were left in the second one. -/
lemma perm_account {es es₁ es₂ taken₁ taken₂ erased₁ erased₂ added₁ added₂ : List Envelope}
    (h₁ : (taken₁ ++ es₁ ++ erased₁).Perm (es ++ added₁))
    (h₂ : (taken₂ ++ es₂ ++ erased₂).Perm (es₁ ++ added₂)) :
    (taken₁ ++ taken₂ ++ es₂ ++ (erased₁ ++ erased₂)).Perm (es ++ (added₁ ++ added₂)) := by
  simp only [← Multiset.coe_eq_coe, ← Multiset.coe_add] at h₁ h₂ ⊢
  calc
    _ = (taken₁ : Multiset Envelope) + erased₁ + (taken₂ + es₂ + erased₂) := by abel
    _ = taken₁ + es₁ + erased₁ + added₂ := by rw [h₂]; abel
    _ = es + (added₁ + added₂) := by rw [h₁, add_assoc]

/-! ### Steps -/

section Honest

variable (honest : Storage.Honest [key] sound held) {q : Offline} {s : σ} {es : List Envelope}

include honest

/-- A queue that is shown again shows what storage holds, or nothing.

**Proof sketch.** A queue that is shown stays as it is. If a hidden one can be read it shows what
storage holds, and if not, nothing; in both cases storage is left alone. -/
lemma Backed.reattach (h : Backed key sound held q s es) (now : Timestamp) :
    Backed key sound held (q.reattach now s).1 (q.reattach now s).2 es := by
  have hmem : key ∈ [key] := List.mem_singleton_self key
  cases hd : q.detached with
  | false =>
    rw [reattach_of_shown hd]
    exact h
  | true =>
    have hstore : (q.reattach now s).2 = (Storage.read key s).2 := by
      simp [Offline.reattach, hd, snd_readItems, h.key_eq]
    have hitems : (q.reattach now s).1.items = (readItems now key s).1 := by
      rw [items_reattach, contents_of_hidden hd, h.key_eq]
    refine ⟨h.toOver.reattach (honest.sound_read key hmem) now, ?_, h.faithful, ?_, by simp⟩
    · rw [hstore, honest.held_read key hmem key hmem s h.sound_store]
      exact h.stored
    · rw [hitems]
      rcases honest.read key hmem s h.sound_store with hok | ⟨e, herror⟩
      · rw [fst_readItems_of_ok hok, h.stored]
        exact .inl rfl
      · exact .inr (fst_readItems_of_error herror now)

/-- Storage holds the same envelopes after a queue was loaded, and the queue shows them or
nothing. -/
lemma backed_load (began : Timestamp) (hs : sound s)
    (hstored : ∀ now, itemsOf now (held key s) = es) (hes : ∀ e ∈ es, e.Faithful 125) :
    Backed key sound held (load began key s).1 (load began key s).2 es := by
  have hmem : key ∈ [key] := List.mem_singleton_self key
  have hstore : (load began key s).2 = (Storage.read key s).2 := snd_readItems began key s
  refine ⟨⟨rfl, ?_⟩, ?_, hes, ?_, fun h => by cases h⟩
  · rw [hstore]
    exact honest.sound_read key hmem s hs
  · rw [hstore, honest.held_read key hmem key hmem s hs]
    exact hstored
  · rw [items_load]
    rcases honest.read key hmem s hs with hok | ⟨e, herror⟩
    · rw [fst_readItems_of_ok hok, hstored]
      exact .inl rfl
    · exact .inr (fst_readItems_of_error herror began)

variable (hwrites : ∀ (value : String) (s : σ), sound s → (Storage.write key value s).1 = .ok ())

include hwrites

/-- Once its text has been written, storage holds what a queue shows.

**Proof sketch.** Every writing goes well, so the text that storage holds is that of the envelopes
shown. -/
lemma Backed.persist (h : Backed key sound held q s es) (hshown : q.detached = false)
    {xs : List Envelope} (hxs : ∀ e ∈ xs, e.Faithful 125) :
    Backed key sound held (({ q with items := xs } : Offline).persist s).1
      (({ q with items := xs } : Offline).persist s).2 xs := by
  have hmem : key ∈ [key] := List.mem_singleton_self key
  have hheld : held key (({ q with items := xs } : Offline).persist s).2 =
      some (Envelope.encodeAll xs) := by
    rw [Offline.persist, h.key_eq]
    exact honest.held_write key hmem _ s h.sound_store (hwrites _ s h.sound_store)
  refine ⟨h.toOver.persist (honest.sound_write key hmem) xs, ?_, hxs, .inl rfl, ?_⟩
  · intro now
    rw [hheld, itemsOf, Envelope.decodeAll_encodeAll hxs]
  · intro hhidden
    rw [detached_persist, hshown] at hhidden
    cases hhidden

/-- To add envelopes keeps those that storage holds, unless the queue shows nothing: then they are
written over.

**Proof sketch.** The queue shows what storage holds or nothing. In the first case the new envelopes
join those, and all of them are written. In the second one they are written alone. -/
lemma Backed.add (h : Backed key sound held q s es) (now : Timestamp) {added xs : List Envelope}
    (hadded : ∀ e ∈ added, e.Faithful 125) (hxs : xs.Perm (q.contents now s ++ added)) :
    Settled key sound held es added (if (q.contents now s).isEmpty then es else [])
      ([], ({ (q.reattach now s).1 with items := xs } : Offline).persist (q.reattach now s).2) := by
  have hreattach := h.reattach honest now
  have hcontents : q.contents now s = es ∨ q.contents now s = [] := by
    have hitems := hreattach.items
    rwa [items_reattach] at hitems
  refine ⟨xs, hreattach.persist honest hwrites (detached_reattach now q s) ?_, ?_⟩
  · intro e he
    rcases List.mem_append.1 (hxs.mem_iff.1 he) with he | he
    · rcases hcontents with hsame | hnone
      · exact h.faithful e (hsame ▸ he)
      · rw [hnone] at he
        cases he
    · exact hadded e he
  · rw [List.nil_append]
    rcases hcontents with hsame | hnone
    · rw [hsame] at hxs ⊢
      cases es with
      | nil => simpa using hxs
      | cons e rest => simpa using hxs
    · rw [hnone] at hxs ⊢
      exact (hxs.append_right es).trans List.perm_append_comm

/-- Draining takes some part at the front out of what storage holds, as far as the queue shows it.

**Proof sketch.** Induction on the list that is drained. After each envelope that goes the text of
those behind it is written. -/
lemma Backed.drainList (h : Backed key sound held q s es) (hitems : q.items = es)
    (accepts : Nat → Bool) (sent : Nat) (before : List Envelope) :
    ∃ taken left, es = taken ++ left ∧
      (Offline.drainList (Use.handOn accepts) es sent q s before).2.2.2 = before ++ taken ∧
      Backed key sound held (Offline.drainList (Use.handOn accepts) es sent q s before).2.1
        (Offline.drainList (Use.handOn accepts) es sent q s before).2.2.1 left := by
  induction es generalizing q s sent before with
  | nil => exact ⟨[], [], rfl, (List.append_nil before).symm, h⟩
  | cons e rest ih =>
    by_cases haccepts : accepts before.length
    · have hrest : ∀ x ∈ rest, x.Faithful 125 := fun x hx => h.faithful x (by simp [hx])
      have hnext := h.persist honest hwrites (h.shown_of_ne_nil hitems (by simp)) hrest
      obtain ⟨taken, left, hsplit, htaken, hbacked⟩ := ih hnext rfl (sent + 1) (before ++ [e])
      have hgoes : Offline.drainList (Use.handOn accepts) (e :: rest) sent q s before =
          Offline.drainList (Use.handOn accepts) rest (sent + 1)
            (({ q with items := rest } : Offline).persist s).1
            (({ q with items := rest } : Offline).persist s).2 (before ++ [e]) := by
        simp only [Offline.drainList, Use.handOn, haccepts, if_true]
      rw [hgoes]
      exact ⟨e :: taken, left, by rw [hsplit]; rfl, by rw [htaken]; simp, hbacked⟩
    · have hstays : Offline.drainList (Use.handOn accepts) (e :: rest) sent q s before =
          (.error Transport.linkLost, q, s, before) := by
        simp only [Offline.drainList, Use.handOn, haccepts, Bool.false_eq_true, if_false]
      rw [hstays]
      exact ⟨[], e :: rest, rfl, (List.append_nil before).symm, h⟩

/-- What a drained queue held has been handed on or is held still.

**Proof sketch.** The drain stops at the first envelope that is not accepted. Those before it have
been handed on, and the text was written anew for each, so the others are held (`Backed.drainList`).
A queue that shows nothing hands nothing on. -/
lemma Backed.drain (h : Backed key sound held q s es) (accepts : Nat → Bool) (now : Timestamp) :
    Settled key sound held es [] [] ((Use.drain accepts).apply now q s) := by
  rcases h.items with hall | hnothing
  · obtain ⟨taken, left, hsplit, htaken, hbacked⟩ := h.drainList honest hwrites hall accepts 0 []
    rw [← hall, List.nil_append] at htaken
    rw [← hall] at hbacked
    refine ⟨left, hbacked, List.Perm.of_eq ?_⟩
    rw [hsplit, List.append_nil, List.append_nil]
    exact congrArg (· ++ left) htaken
  · have hnone : (Use.drain accepts).apply now q s = ([], q, s) := by
      simp [Use.apply, Offline.drain, Offline.drainList, hnothing]
    rw [hnone]
    exact h.settled

/-- The oldest envelope of a queue is taken out, and the others are held.

**Proof sketch.** If the queue shows nothing, nothing happens. Otherwise it shows all that storage
holds, and the rest is written. -/
lemma Backed.pop (h : Backed key sound held q s es) (now : Timestamp) :
    Settled key sound held es [] [] (Use.pop.apply now q s) := by
  cases hitems : q.items with
  | nil =>
    have hnone : Use.pop.apply now q s = ([], q, s) := by
      simp [Use.apply, Offline.pop, hitems]
    rw [hnone]
    exact h.settled
  | cons e rest =>
    have hall : es = e :: rest := by
      rcases h.items with hall | hnothing
      · rw [← hall, hitems]
      · rw [hitems] at hnothing
        cases hnothing
    subst hall
    have hpop : Use.pop.apply now q s =
        ([e], ({ q with items := rest } : Offline).persist s) := by
      simp [Use.apply, Offline.pop, hitems]
    rw [hpop]
    refine ⟨rest, ?_, ?_⟩
    · exact h.persist honest hwrites (h.shown_of_ne_nil hitems (by simp))
        fun x hx => h.faithful x (by simp [hx])
    · rw [List.append_nil, List.append_nil]
      exact List.Perm.refl _

/-- What becomes of the envelopes that storage holds: they are still held, or were taken out, or
were written over.

**Proof sketch.** A use that adds envelopes writes the text of all that the queue shows then. One
that takes some out finds what storage holds, or nothing. -/
lemma Backed.use (h : Backed key sound held q s es) (now : Timestamp) (u : Use)
    (hadded : ∀ e ∈ u.added, e.Faithful 125) :
    Settled key sound held es u.added (u.overwritten held now q s) (u.apply now q s) := by
  have hover : ∀ u' : Use, u'.added ≠ [] → u'.overwritten held now q s =
      if (q.contents now s).isEmpty then es else [] := by
    intro u' hne
    rw [Use.overwritten, h.key_eq, h.stored, List.isEmpty_eq_false_iff.2 hne]
    cases (q.contents now s).isEmpty <;> rfl
  cases u with
  | push e =>
    rw [hover (.push e) (by simp [Use.added]), Use.apply, push_eq]
    exact h.add honest hwrites now hadded (List.Perm.refl _)
  | extend added =>
    by_cases hnil : added = []
    · subst hnil
      exact h.settled
    · rw [hover (.extend added) hnil, Use.apply, extend_of_ne_nil hnil]
      exact h.add honest hwrites now hadded (List.Perm.refl _)
  | prepend added =>
    by_cases hnil : added = []
    · subst hnil
      exact h.settled
    · rw [hover (.prepend added) hnil, Use.apply, prepend_of_ne_nil hnil]
      exact h.add honest hwrites now hadded List.perm_append_comm
  | drain accepts => exact h.drain honest hwrites accepts now
  | front => exact h.settled
  | pop => exact h.pop honest hwrites now
  | detach =>
    have hhidden : Backed key sound held q.detach s es :=
      ⟨⟨h.key_eq, h.sound_store⟩, h.stored, h.faithful, .inr rfl, fun _ => rfl⟩
    exact hhidden.settled
  | reattach => exact (h.reattach honest now).settled

/-- **What becomes of stored envelopes.** Whatever is done with the queue, they are taken out,
written over or held in the end, and so are those that are added.

**Proof sketch.** Induction on the uses. What the first of them takes out or writes over goes ahead
of what the others do, and what it adds is held when they begin. -/
lemma Backed.useAll (h : Backed key sound held q s es) (uses : List (Timestamp × Use))
    (hadded : ∀ x ∈ uses, ∀ e ∈ x.2.added, e.Faithful 125) :
    Settled key sound held es (uses.flatMap (·.2.added)) (overwrittenBy held uses q s)
      (Offline.useAll uses q s) := by
  induction uses generalizing q s es with
  | nil => exact h.settled
  | cons x rest ih =>
    obtain ⟨now, u⟩ := x
    obtain ⟨hfirst, hrest⟩ := List.forall_mem_cons.1 hadded
    obtain ⟨es₁, hbacked₁, hperm₁⟩ := h.use honest hwrites now u hfirst
    obtain ⟨es₂, hbacked₂, hperm₂⟩ := ih hbacked₁ hrest
    refine ⟨es₂, hbacked₂, ?_⟩
    exact perm_account hperm₁ hperm₂

end Honest

/-- **What is not seen is written over.** Readings may fail when a queue is loaded or shown again.
Then all envelopes that storage held, and those that are added since, are taken out or still held in
the end exactly if none is added while the queue shows nothing of what storage holds.

**Proof sketch.** The account of the whole use (`Backed.useAll`) says that what is taken out, what
is held in the end and what was written over are together what there was and what has been added. So
all are conserved exactly if nothing was written over: if something was, the lengths differ. That it
was not is what `Seen` says (`overwrittenBy_eq_nil_iff`). -/
theorem conserved_iff_seen {began : Timestamp} {stored s s' : σ} {q q' : Offline}
    {initial gone : List Envelope} {uses : List (Timestamp × Use)}
    (honest : Storage.Honest [key] sound held)
    (hwrites : ∀ (value : String) (s : σ), sound s → (Storage.write key value s).1 = .ok ())
    (hsound : sound stored) (hstored : ∀ now, itemsOf now (held key stored) = initial)
    (hinitial : ∀ e ∈ initial, e.Faithful 125)
    (hadded : ∀ x ∈ uses, ∀ e ∈ x.2.added, e.Faithful 125)
    (hload : load began key stored = (q, s)) (hrun : useAll uses q s = (gone, q', s'))
    (now : Timestamp) :
    (gone ++ itemsOf now (held key s')).Perm (initial ++ uses.flatMap (·.2.added)) ↔
      Seen held uses q s := by
  have hbacked := backed_load honest began hsound hstored hinitial
  rw [hload] at hbacked
  obtain ⟨es, hend, hperm⟩ := hbacked.useAll honest hwrites uses hadded
  rw [hrun] at hend hperm
  rw [hend.stored now, ← overwrittenBy_eq_nil_iff]
  dsimp only at hperm
  constructor
  · intro hconserved
    have hlength := (hperm.trans hconserved.symm).length_eq
    rw [List.length_append] at hlength
    exact List.length_eq_zero_iff.1 (by omega)
  · intro hnone
    rwa [hnone, List.append_nil] at hperm

/-! ### A reading that fails -/

namespace Sample

open Messenger.Sample (epoch note)

/-- A storage in which the first note waits, and of which the first reading fails. -/
def stuck : Store.Planned :=
  ⟨⟨[("queue", Envelope.encodeAll [note 1])]⟩, [true], []⟩

/-- The second note is added at once. -/
def hasty : List (Timestamp × Use) :=
  [(epoch, .push (note 2))]

/-- The queue is hidden before the second note is added, so that it is read again. -/
def patient : List (Timestamp × Use) :=
  [(epoch, .detach), (epoch, .push (note 2))]

/-- Storage holds the first note, at whatever moment it is read. -/
lemma itemsOf_stuck (now : Timestamp) : itemsOf now (stuck.held "queue") = [note 1] :=
  itemsOf_note (by decide) now

end Sample

/-- A queue that could not be read is hidden and shown again before a note is added, and so keeps
the one that storage holds. -/
theorem conserved_patient :
    ∃ q s gone q' s', load Sample.epoch "queue" Sample.stuck = (q, s) ∧
      useAll Sample.patient q s = (gone, q', s') ∧
      ((gone ++ itemsOf Sample.epoch (Store.Planned.held "queue" s')).Perm
          ([Sample.note 1] ++ [Sample.note 2]) ↔
        Seen Store.Planned.held Sample.patient q s) := by
  obtain ⟨⟨q, s⟩, hload⟩ : ∃ first, load Sample.epoch "queue" Sample.stuck = first := ⟨_, rfl⟩
  obtain ⟨⟨gone, q', s'⟩, hrun⟩ : ∃ last, useAll Sample.patient q s = last := ⟨_, rfl⟩
  refine ⟨q, s, gone, q', s', hload, hrun, ?_⟩
  refine conserved_iff_seen
    (Store.honest_planned ["queue"] (fun _ writings => writings = []) ?_)
    ?_ rfl Sample.itemsOf_stuck ?_ ?_ hload hrun Sample.epoch
  · rintro readings writings rfl
    exact ⟨rfl, rfl⟩
  · intro value s hs
    simp [Storage.write, hs]
  · intro e he
    rw [List.mem_singleton.1 he]
    exact Sample.faithful_note (by decide) 125
  · have hnote := Sample.faithful_note (n := 2) (by decide) 125
    simp [Sample.patient, Use.added, hnote]

/-- If the note is added at once, the one that storage held is neither taken out nor held in the
end, in memory or in storage. -/
theorem lost_unseen :
    ∃ q s gone q' s', load Sample.epoch "queue" Sample.stuck = (q, s) ∧
      useAll Sample.hasty q s = (gone, q', s') ∧
      itemsOf Sample.epoch (Sample.stuck.held "queue") = [Sample.note 1] ∧
      Sample.note 1 ∉ gone ∧ Sample.note 1 ∉ q'.items ∧
      Sample.note 1 ∉ itemsOf Sample.epoch (Store.Planned.held "queue" s') := by
  have hother : Sample.note 1 ∉ [Sample.note 2] := by
    simp [Sample.note]
  have hread : itemsOf Sample.epoch (some (Envelope.encodeAll [Sample.note 2])) =
      [Sample.note 2] := Sample.itemsOf_note (by decide) Sample.epoch
  refine ⟨⟨"queue", [], false, 0⟩, Sample.stuck.nextReading, [],
    ⟨"queue", [Sample.note 2], false, 1⟩,
    ⟨Sample.stuck.texts.put "queue" (Envelope.encodeAll [Sample.note 2]), [], []⟩,
    rfl, rfl, Sample.itemsOf_stuck _, List.not_mem_nil, hother, ?_⟩
  have hheld := Store.Table.get?_put "queue" "queue" (Envelope.encodeAll [Sample.note 2])
    Sample.stuck.texts
  rw [if_pos rfl] at hheld
  rwa [Store.Planned.held, hheld, hread]

end Messenger.Queue.Offline
