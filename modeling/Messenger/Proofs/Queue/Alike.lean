import Messenger.Proofs.Queue.Refinement

set_option relaxedAutoImplicit false
set_option autoImplicit false

/-!
# Queues that look the same

While an offline queue is shown its storage is written and not read. So two queues that look the
same go on to look the same, whatever storages they have and whatever is done with both. That a text
could not be written does not show. It shows at the earliest when a queue has been hidden or given
up.

## Main definitions

* `Messenger.Queue.Offline.Alike`: two queues look the same.
* `Messenger.Queue.Offline.ReadsAlike`: two queues that are hidden have the same text in storage.
* `Messenger.Queue.Offline.Operation.Plain`: an operation after which the queue is not read from
  storage.

## Main results

* `Messenger.Queue.Offline.Alike.apply`: after such an operation two queues look the same that did
  so before it, and give the same answer.
* `Messenger.Queue.Offline.Alike.applyAll`: so they do after such operations in a row.
-/

namespace Messenger.Queue.Offline

/-- Two queues look the same: what they have in memory, whether they are hidden, and their published
length. Their keys do not show. -/
structure Alike (q r : Offline) : Prop where
  items_eq : q.items = r.items
  detached_eq : q.detached = r.detached
  gauge_eq : q.gauge = r.gauge

/-- What is done with a queue neither hides it nor replaces it by one from storage. -/
def Operation.Plain {τ : Type} : Operation τ → Prop
  | detach | reload => False
  | _ => True

variable {ρ σ τ : Type} [Storage ρ] [Storage σ] {q r : Offline} {a : ρ} {b : σ}

/-- If two queues are hidden, the same text is read from storage when they are shown again. -/
def ReadsAlike (q : Offline) (a : ρ) (r : Offline) (b : σ) : Prop :=
  q.detached = true → (Storage.read q.key a).1 = (Storage.read r.key b).1

/-- It does not matter what is in storage while the queues are shown. -/
lemma readsAlike_of_shown (h : q.detached = false) : ReadsAlike q a r b := by
  intro hhidden
  rw [h] at hhidden
  cases hhidden

namespace Alike

/-- A queue looks as it does. -/
lemma refl (q : Offline) : Alike q q :=
  ⟨rfl, rfl, rfl⟩

/-- Two queues with the same key that look the same are the same. -/
lemma eq_of_key (h : Alike q r) (hkey : q.key = r.key) : q = r := by
  obtain ⟨key, items, detached, gauge⟩ := q
  obtain ⟨key', items', detached', gauge'⟩ := r
  obtain ⟨hitems, hdetached, hgauge⟩ := h
  simp only at hkey hitems hdetached hgauge
  rw [hkey, hitems, hdetached, hgauge]

/-- Queues that get the same envelopes look the same, whether or not their text could be written. -/
lemma persist (h : Alike q r) (es : List Envelope) (a : ρ) (b : σ) :
    Alike (({ q with items := es } : Offline).persist a).1
      (({ r with items := es } : Offline).persist b).1 :=
  ⟨rfl, h.detached_eq, rfl⟩

section Reading

variable (h : Alike q r) (hreads : ReadsAlike q a r b)
include h hreads

/-- Queues that look the same hold the same. -/
lemma contents_eq (now : Timestamp) : q.contents now a = r.contents now b := by
  unfold contents
  rw [← h.detached_eq, h.items_eq]
  split
  · next hhidden => exact fst_readItems_congr (hreads hhidden) now
  · rfl

/-- Queues that look the same do so when they are shown. -/
lemma reattach (now : Timestamp) : Alike (q.reattach now a).1 (r.reattach now b).1 := by
  unfold Offline.reattach
  rw [← h.detached_eq]
  split
  · next hhidden =>
    have hitems := fst_readItems_congr (hreads hhidden) now
    exact ⟨hitems, rfl, congrArg List.length hitems⟩
  · exact h

/-- Queues that look the same do so after an envelope was added. -/
lemma push (now : Timestamp) (e : Envelope) : Alike (q.push now e a).1 (r.push now e b).1 := by
  rw [push_eq, push_eq, h.contents_eq hreads]
  exact (h.reattach hreads now).persist _ _ _

/-- Queues that look the same do so after several envelopes were added. -/
lemma extend (now : Timestamp) (es : List Envelope) :
    Alike (q.extend now es a).1 (r.extend now es b).1 := by
  by_cases hnil : es = []
  · rw [hnil]
    exact h
  · rw [extend_of_ne_nil hnil, extend_of_ne_nil hnil, h.contents_eq hreads]
    exact (h.reattach hreads now).persist _ _ _

/-- Queues that look the same do so after several envelopes were put in front. -/
lemma prepend (now : Timestamp) (es : List Envelope) :
    Alike (q.prepend now es a).1 (r.prepend now es b).1 := by
  by_cases hnil : es = []
  · rw [hnil]
    exact h
  · rw [prepend_of_ne_nil hnil, prepend_of_ne_nil hnil, h.contents_eq hreads]
    exact (h.reattach hreads now).persist _ _ _

end Reading

/-- A list is drained in the same way from queues that look the same, and they do so afterwards.

**Proof sketch.** Induction on the list. After each envelope that goes both have those behind it in
memory. -/
lemma drainList (h : Alike q r) (transmit : Envelope → τ → Except Error Unit × τ)
    (es : List Envelope) (sent : Nat) (a : ρ) (b : σ) (t : τ) :
    (Offline.drainList transmit es sent q a t).1 = (Offline.drainList transmit es sent r b t).1 ∧
      Alike (Offline.drainList transmit es sent q a t).2.1
        (Offline.drainList transmit es sent r b t).2.1 ∧
      (Offline.drainList transmit es sent q a t).2.2.2 =
        (Offline.drainList transmit es sent r b t).2.2.2 := by
  induction es generalizing q r sent a b t with
  | nil => exact ⟨rfl, h, rfl⟩
  | cons e rest ih =>
    obtain ⟨outcome, t', ht⟩ : ∃ outcome t', transmit e t = (outcome, t') := ⟨_, _, rfl⟩
    cases outcome with
    | error err =>
      simp only [Offline.drainList, ht]
      exact ⟨trivial, h, trivial⟩
    | ok u =>
      simp only [Offline.drainList, ht]
      exact ih (h.persist rest a b) (sent + 1) _ _ t'

/-- Queues that look the same are drained in the same way, and look the same afterwards. -/
lemma drain (h : Alike q r) (transmit : Envelope → τ → Except Error Unit × τ) (a : ρ) (b : σ)
    (t : τ) :
    (q.drain transmit a t).1 = (r.drain transmit b t).1 ∧
      Alike (q.drain transmit a t).2.1 (r.drain transmit b t).2.1 ∧
      (q.drain transmit a t).2.2.2 = (r.drain transmit b t).2.2.2 := by
  unfold Offline.drain
  rw [← h.items_eq]
  exact h.drainList transmit q.items 0 a b t

/-- Queues that look the same give out the same, and look the same afterwards. -/
lemma pop (h : Alike q r) (a : ρ) (b : σ) :
    (q.pop a).1 = (r.pop b).1 ∧ Alike (q.pop a).2.1 (r.pop b).2.1 ∧
      (q.pop a).2.1.detached = q.detached := by
  unfold Offline.pop
  rw [← h.items_eq]
  split
  · exact ⟨rfl, h, rfl⟩
  · next e rest _ => exact ⟨rfl, h.persist rest a b, rfl⟩

/-- **What a storage does is not seen.** Queues that look the same and are shown answer an operation
in the same way, and are shown and look the same afterwards, if the operation neither hides nor
replaces them. What they are drained into is the same, too.

**Proof sketch.** One case for each operation. While a queue is shown nothing is read from its
storage, so all that an operation shows comes from the envelopes in memory, which are the same on
both sides. -/
theorem apply (h : Alike q r) (hshown : q.detached = false) {op : Operation τ} (hop : op.Plain)
    (now : Timestamp) (a : ρ) (b : σ) (t : τ) :
    (op.apply now q a t).1 = (op.apply now r b t).1 ∧
      (op.apply now q a t).2.2.2 = (op.apply now r b t).2.2.2 ∧
      Alike (op.apply now q a t).2.1 (op.apply now r b t).2.1 ∧
      (op.apply now q a t).2.1.detached = false := by
  have hreads : ReadsAlike q a r b := readsAlike_of_shown hshown
  cases op with
  | push e => exact ⟨rfl, rfl, h.push hreads now e, detached_push now e q a⟩
  | extend es =>
    refine ⟨rfl, rfl, h.extend hreads now es, (detached_extend now es q a).trans ?_⟩
    rw [hshown, Bool.and_false]
  | prepend es =>
    refine ⟨rfl, rfl, h.prepend hreads now es, (detached_prepend now es q a).trans ?_⟩
    rw [hshown, Bool.and_false]
  | drain transmit =>
    obtain ⟨hresult, halike, hreceiver⟩ := h.drain transmit a b t
    obtain ⟨-, -, -, hdetached, -⟩ := drain_eq transmit q a t
    exact ⟨congrArg Answer.drained hresult, hreceiver, halike, hdetached.trans hshown⟩
  | front => exact ⟨congrArg (Answer.oldest ∘ List.head?) h.items_eq, rfl, h, hshown⟩
  | pop =>
    obtain ⟨holdest, halike, hdetached⟩ := h.pop a b
    exact ⟨congrArg Answer.oldest holdest, rfl, halike, hdetached.trans hshown⟩
  | detach => exact hop.elim
  | reattach => exact ⟨rfl, rfl, h.reattach hreads now, detached_reattach now q a⟩
  | reload => exact hop.elim

/-- **The same of operations in a row.** Queues that look the same give the same answers to all of
them, and look the same at the end.

**Proof sketch.** Induction on the operations, by `apply`; the two storages may go different
ways. -/
theorem applyAll (h : Alike q r) (hshown : q.detached = false)
    {ops : List (Timestamp × Operation τ)} (hops : ∀ x ∈ ops, x.2.Plain) (a : ρ) (b : σ) (t : τ) :
    (Offline.applyAll ops q a t).1 = (Offline.applyAll ops r b t).1 ∧
      (Offline.applyAll ops q a t).2.2.2 = (Offline.applyAll ops r b t).2.2.2 ∧
      Alike (Offline.applyAll ops q a t).2.1 (Offline.applyAll ops r b t).2.1 := by
  induction ops generalizing q r a b t with
  | nil => exact ⟨rfl, rfl, h⟩
  | cons x rest ih =>
    obtain ⟨now, op⟩ := x
    obtain ⟨hanswer, hreceiver, halike, hshown'⟩ :=
      h.apply hshown (hops _ List.mem_cons_self) now a b t
    obtain ⟨hanswers, hlast, hend⟩ := ih halike hshown'
      (fun x hx => hops x (List.mem_cons_of_mem _ hx)) (op.apply now q a t).2.2.1
      (op.apply now r b t).2.2.1 (op.apply now q a t).2.2.2
    rw [applyAll_cons, applyAll_cons, ← hreceiver]
    exact ⟨congrArg₂ List.cons hanswer hanswers, hlast, hend⟩

end Alike

end Messenger.Queue.Offline
