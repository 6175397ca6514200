import Messenger.Proofs.Queue.Durable
import Messenger.Proofs.Queue.Reload

set_option relaxedAutoImplicit false
set_option autoImplicit false

/-!
# A queue is a list

Whoever uses an offline queue over a reliable storage may think of one list, which is visible or
hidden. What waits in memory, what storage holds, whether the queue is attached and the published
length are four things to the queue, and every operation moves them together. To add no envelopes
shows nothing, and a hidden queue neither drains nor gives anything out.

## Main definitions

* `Messenger.Queue.Offline.Operation`: what can be done with a queue, loading it anew included.
* `Messenger.Queue.Offline.handOver`: what becomes of a list that is handed over in order.
* `Messenger.Queue.Offline.Shelf`: a list that is visible or hidden.
* `Messenger.Queue.Offline.Shelf.apply`: what an operation does to such a list.
* `Messenger.Queue.Offline.Refines`: a queue stands for such a list.

## Main results

* `Messenger.Queue.Offline.Refines.apply`: an operation does to a queue what it does to the list it
  stands for, with the same answer.
* `Messenger.Queue.Offline.refinement`: so do operations in a row, from the time on when the queue
  is loaded.
-/

namespace Messenger.Queue.Offline

variable {σ τ : Type}

/-! ### Operations -/

/-- What can be done with a queue. What it is drained into may do anything with an envelope, and
with a state of its own. -/
inductive Operation (τ : Type)
  | push (e : Envelope)
  | extend (es : List Envelope)
  | prepend (es : List Envelope)
  | drain (transmit : Envelope → τ → Except Error Unit × τ)
  | front
  | pop
  | detach
  | reattach
  /-- The queue is given up, and another one is loaded in its place. -/
  | reload

/-- What an operation answers. -/
inductive Answer
  | nothing
  /-- How many envelopes went, or why one did not go. -/
  | drained (result : Except Error Nat)
  /-- The oldest envelope, if there is one. -/
  | oldest (e : Option Envelope)

namespace Operation

/-- The envelopes that are added. -/
def added : Operation τ → List Envelope
  | push e => [e]
  | extend es | prepend es => es
  | _ => []

variable [Storage σ]

/-- What an operation does to a queue, to its storage and to what the queue is drained into, with
its answer. -/
def apply (now : Timestamp) (q : Offline) (s : σ) (t : τ) :
    Operation τ → Answer × Offline × σ × τ
  | push e =>
    let (q, s) := q.push now e s
    (.nothing, q, s, t)
  | extend es =>
    let (q, s) := q.extend now es s
    (.nothing, q, s, t)
  | prepend es =>
    let (q, s) := q.prepend now es s
    (.nothing, q, s, t)
  | drain transmit =>
    let (result, q, s, t) := q.drain transmit s t
    (.drained result, q, s, t)
  | front => (.oldest q.front?, q, s, t)
  | pop =>
    let (e, q, s) := q.pop s
    (.oldest e, q, s, t)
  | detach => (.nothing, q.detach, s, t)
  | reattach =>
    let (q, s) := q.reattach now s
    (.nothing, q, s, t)
  | reload =>
    let (q, s) := load now q.key s
    (.nothing, q, s, t)

end Operation

/-- Operations in a row, each at its time, with their answers. -/
def applyAll [Storage σ] : List (Timestamp × Operation τ) → Offline → σ → τ →
    List Answer × Offline × σ × τ
  | [], q, s, t => ([], q, s, t)
  | (now, op) :: rest, q, s, t =>
    let (answer, q, s, t) := op.apply now q s t
    let (answers, q, s, t) := applyAll rest q s t
    (answer :: answers, q, s, t)

/-- The first operation is followed by the others. -/
lemma applyAll_cons [Storage σ] (now : Timestamp) (op : Operation τ)
    (rest : List (Timestamp × Operation τ)) (q : Offline) (s : σ) (t : τ) :
    applyAll ((now, op) :: rest) q s t =
      ((op.apply now q s t).1 :: (applyAll rest (op.apply now q s t).2.1
          (op.apply now q s t).2.2.1 (op.apply now q s t).2.2.2).1,
        (applyAll rest (op.apply now q s t).2.1 (op.apply now q s t).2.2.1
          (op.apply now q s t).2.2.2).2) :=
  rfl

/-! ### Lists -/

/-- What becomes of a list that is handed over in order, up to the first failure: how many envelopes
went, the failure if there was one, and the state in which that left the receiver. -/
def handOver (transmit : Envelope → τ → Except Error Unit × τ) :
    List Envelope → τ → Nat × Option Error × τ
  | [], t => (0, none, t)
  | e :: rest, t =>
    match transmit e t with
    | (.ok (), t) =>
      let (n, failure, t) := handOver transmit rest t
      (n + 1, failure, t)
    | (.error err, t) => (0, some err, t)

/-- A list of envelopes that is visible or hidden. -/
structure Shelf where
  items : List Envelope
  hidden : Bool

namespace Shelf

/-- What is visible of it. -/
def visible (a : Shelf) : List Envelope :=
  if a.hidden then [] else a.items

/-- What an operation does to a list, and to what the list is drained into, with its answer. -/
def apply (a : Shelf) (t : τ) : Operation τ → Answer × Shelf × τ
  | .push e => (.nothing, ⟨a.items ++ [e], false⟩, t)
  | .extend es => (.nothing, if es = [] then a else ⟨a.items ++ es, false⟩, t)
  | .prepend es => (.nothing, if es = [] then a else ⟨es ++ a.items, false⟩, t)
  | .drain transmit =>
    let (n, failure, t) := handOver transmit a.visible t
    (.drained (failure.elim (.ok n) .error), { a with items := a.items.drop n }, t)
  | .front => (.oldest a.visible.head?, a, t)
  | .pop => (.oldest a.visible.head?, if a.hidden then a else { a with items := a.items.tail }, t)
  | .detach => (.nothing, { a with hidden := true }, t)
  | .reattach | .reload => (.nothing, { a with hidden := false }, t)

/-- Operations in a row, with their answers. -/
def applyAll : List (Operation τ) → Shelf → τ → List Answer × Shelf × τ
  | [], a, t => ([], a, t)
  | op :: rest, a, t =>
    let (answer, a, t) := a.apply t op
    let (answers, a, t) := applyAll rest a t
    (answer :: answers, a, t)

/-- The first operation is followed by the others. -/
lemma applyAll_cons (op : Operation τ) (rest : List (Operation τ)) (a : Shelf) (t : τ) :
    applyAll (op :: rest) a t =
      ((a.apply t op).1 :: (applyAll rest (a.apply t op).2.1 (a.apply t op).2.2).1,
        (applyAll rest (a.apply t op).2.1 (a.apply t op).2.2).2) :=
  rfl

/-- All of a list that is not hidden is visible. -/
lemma visible_of_shown {a : Shelf} (h : a.hidden = false) : a.visible = a.items := by
  simp [visible, h]

/-- Nothing of a hidden list is visible. -/
lemma visible_of_hidden {a : Shelf} (h : a.hidden = true) : a.visible = [] := by
  simp [visible, h]

end Shelf

/-- A list in memory is drained as it would be handed over: what does not go is left.

**Proof sketch.** Induction on the list. As long as an envelope is taken the count goes up and the
rest is handed over; the first refusal ends both. -/
lemma drainList_eq_handOver (transmit : Envelope → τ → Except Error Unit × τ) (es : List Envelope)
    (sent : Nat) (t : τ) :
    Pending.drainList transmit es sent t =
      ((handOver transmit es t).2.1.elim (.ok (sent + (handOver transmit es t).1)) .error,
        es.drop (handOver transmit es t).1, (handOver transmit es t).2.2) := by
  induction es generalizing sent t with
  | nil => rfl
  | cons e rest ih =>
    obtain ⟨outcome, t', ht⟩ : ∃ outcome t', transmit e t = (outcome, t') := ⟨_, _, rfl⟩
    cases outcome with
    | error err => simp [Pending.drainList, handOver, ht]
    | ok u =>
      simp only [Pending.drainList, handOver, ht, ih, List.drop_succ_cons]
      rw [Nat.add_right_comm, Nat.add_assoc]

/-! ### Queues -/

variable [Storage σ] {keys : List String} {sound : σ → Prop}

/-- The published length stays that of the queue in memory while a list is drained.

**Proof sketch.** Induction on the list; each envelope that is taken leaves the queue one shorter,
and that length is published. -/
lemma gauge_drainList (transmit : Envelope → τ → Except Error Unit × τ) {es : List Envelope}
    {q : Offline} (h : q.gauge = q.items.length) (sent : Nat) (s : σ) (t : τ) :
    (drainList transmit es sent q s t).2.1.gauge =
      (drainList transmit es sent q s t).2.1.items.length := by
  induction es generalizing q sent s t with
  | nil => exact h
  | cons e rest ih =>
    obtain ⟨outcome, t', ht⟩ : ∃ outcome t', transmit e t = (outcome, t') := ⟨_, _, rfl⟩
    cases outcome with
    | error err =>
      simp only [drainList, ht]
      exact h
    | ok u =>
      simp only [drainList, ht]
      exact ih (gauge_persist { q with items := rest } s) (sent + 1) _ t'

/-- A queue over a reliable storage stands for a list: storage tells the list, and the queue shows
it and publishes its length unless it is hidden. -/
structure Refines (keys : List String) (sound : σ → Prop) (q : Offline) (s : σ) (a : Shelf) : Prop
    extends q.Durable keys sound s where
  contents_eq : ∀ now, q.contents now s = a.items
  detached_eq : q.detached = a.hidden
  gauge_eq : q.gauge = q.items.length

namespace Refines

variable {q : Offline} {s : σ} {a : Shelf}

/-- What the queue has in memory is what is visible of the list. -/
lemma items_eq (h : Refines keys sound q s a) : q.items = a.visible := by
  cases hd : q.detached with
  | true => rw [h.hidden hd, Shelf.visible_of_hidden (h.detached_eq ▸ hd)]
  | false =>
    rw [Shelf.visible_of_shown (h.detached_eq ▸ hd), ← contents_of_shown hd default s,
      h.contents_eq]

/-- What storage holds is the list, at whatever moment it is read. -/
lemma readItems_eq (h : Refines keys sound q s a) (now : Timestamp) :
    (readItems now q.key s).1 = a.items :=
  (h.stored now now).trans (h.contents_eq now)

/-- A queue that is shown stands for the list that it has in memory. -/
lemma of_shown {es : List Envelope} (hd : q.Durable keys sound s) (hshown : q.detached = false)
    (hitems : q.items = es) (hgauge : q.gauge = q.items.length) :
    Refines keys sound q s ⟨es, false⟩ :=
  ⟨hd, fun now => (contents_of_shown hshown now s).trans hitems, hshown, hgauge⟩

/-- Hiding a queue hides the list. -/
lemma detach (h : Refines keys sound q s a) :
    Refines keys sound q.detach s { a with hidden := true } :=
  ⟨h.toDurable.detach, fun now => (h.contents_detach now).trans (h.contents_eq now), rfl, rfl⟩

/-- Draining a queue hands the visible list over, and leaves what does not go.

**Proof sketch.** A hidden queue has nothing in memory, and is left alone. One that is shown is
drained as a list in memory would be. -/
lemma drain (hr : Storage.Reliable keys sound) (h : Refines keys sound q s a)
    (transmit : Envelope → τ → Except Error Unit × τ) (t : τ) :
    (q.drain transmit s t).1 = (handOver transmit a.visible t).2.1.elim
        (.ok (handOver transmit a.visible t).1) .error ∧
      (q.drain transmit s t).2.2.2 = (handOver transmit a.visible t).2.2 ∧
      Refines keys sound (q.drain transmit s t).2.1 (q.drain transmit s t).2.2.1
        { a with items := a.items.drop (handOver transmit a.visible t).1 } := by
  obtain ⟨hresult, hitems, hstate, hdetached, -⟩ := drain_eq transmit q s t
  rw [h.items_eq, drainList_eq_handOver, Nat.zero_add] at hresult
  rw [h.items_eq, drainList_eq_handOver] at hitems hstate
  refine ⟨hresult, hstate, ?_⟩
  cases hhidden : a.hidden with
  | true =>
    have hnothing : q.items = [] := h.items_eq.trans (Shelf.visible_of_hidden hhidden)
    have hsame : q.drain transmit s t = (.ok 0, q, s, t) := by
      rw [Offline.drain, hnothing]
      rfl
    rw [hsame, Shelf.visible_of_hidden hhidden, ← hhidden]
    exact h
  | false =>
    rw [Shelf.visible_of_shown hhidden] at hitems ⊢
    exact .of_shown (h.toDurable.drain hr transmit t)
      (hdetached.trans (h.detached_eq.trans hhidden)) hitems
      (gauge_drainList transmit h.gauge_eq 0 s t)

/-- What a queue gives out is the head of the visible list.

**Proof sketch.** A hidden list gives nothing out, and neither does an empty one. Otherwise the head
goes, and what is left is written, which keeps storage in step (`durable_persist`). -/
lemma pop (hr : Storage.Reliable keys sound) (h : Refines keys sound q s a) :
    (q.pop s).1 = a.visible.head? ∧ Refines keys sound (q.pop s).2.1 (q.pop s).2.2
      (if a.hidden then a else { a with items := a.items.tail }) := by
  have hitems := h.items_eq
  cases hhidden : a.hidden with
  | true =>
    rw [Shelf.visible_of_hidden hhidden] at hitems ⊢
    have hsame : q.pop s = (none, q, s) := by simp [Offline.pop, hitems]
    rw [hsame]
    exact ⟨rfl, h⟩
  | false =>
    have hshown : q.detached = false := h.detached_eq.trans hhidden
    rw [Shelf.visible_of_shown hhidden] at hitems ⊢
    cases hlist : a.items with
    | nil =>
      rw [hlist] at hitems
      have hsame : q.pop s = (none, q, s) := by simp [Offline.pop, hitems]
      rw [hsame]
      exact ⟨rfl, .of_shown h.toDurable hshown hitems h.gauge_eq⟩
    | cons e rest =>
      rw [hlist] at hitems
      have hpop : q.pop s = (some e, ({ q with items := rest } : Offline).persist s) := by
        simp [Offline.pop, hitems]
      have hrest : ∀ x ∈ rest, x.Faithful 125 := by
        intro x hx
        apply h.faithful default x
        rw [h.contents_eq, hlist]
        exact List.mem_cons_of_mem e hx
      rw [hpop]
      exact ⟨rfl, .of_shown (durable_persist hr h.key_mem h.sound_store hshown hrest) hshown rfl
        rfl⟩

/-- A queue that is shown again shows the list. -/
lemma reattach (hr : Storage.Reliable keys sound) (h : Refines keys sound q s a)
    (now : Timestamp) :
    Refines keys sound (q.reattach now s).1 (q.reattach now s).2 { a with hidden := false } := by
  refine .of_shown (h.toDurable.reattach hr now) (detached_reattach now q s)
    ((items_reattach now q s).trans (h.contents_eq now)) ?_
  unfold Offline.reattach
  split
  · rfl
  · exact h.gauge_eq

/-- A queue that is loaded anew stands for the same list, which is shown. -/
lemma reload (hr : Storage.Reliable keys sound) (h : Refines keys sound q s a)
    (now : Timestamp) :
    Refines keys sound (load now q.key s).1 (load now q.key s).2 { a with hidden := false } := by
  obtain ⟨hdurable, hitems⟩ := durable_load hr h.key_mem h.sound_store
    (fun e he => h.faithful default e ((h.contents_eq default).symm ▸ he)) h.readItems_eq now
  exact .of_shown hdurable rfl hitems rfl

/-- A queue that is shown again, with other envelopes that have been written, stands for these. -/
lemma rewrite (hr : Storage.Reliable keys sound) (h : Refines keys sound q s a) (now : Timestamp)
    {es : List Envelope} (hes : ∀ e ∈ es, e.Faithful 125) :
    Refines keys sound
      (({ (q.reattach now s).1 with items := es } : Offline).persist (q.reattach now s).2).1
      (({ (q.reattach now s).1 with items := es } : Offline).persist (q.reattach now s).2).2
      ⟨es, false⟩ :=
  .of_shown (h.toDurable.persist_reattach hr now hes) (detached_reattach now q s) rfl rfl

/-- The envelopes of the list can be told. -/
lemma faithful_items (h : Refines keys sound q s a) : ∀ e ∈ a.items, e.Faithful 125 := by
  intro e he
  rw [← h.contents_eq default] at he
  exact h.faithful default e he

/-- An envelope that is added stands behind the list, which is shown. -/
lemma push (hr : Storage.Reliable keys sound) (h : Refines keys sound q s a) (now : Timestamp)
    {e : Envelope} (he : e.Faithful 125) :
    Refines keys sound (q.push now e s).1 (q.push now e s).2 ⟨a.items ++ [e], false⟩ := by
  rw [push_eq, h.contents_eq now]
  refine h.rewrite hr now fun x hx => ?_
  rcases List.mem_append.1 hx with hx | hx
  · exact h.faithful_items x hx
  · rw [List.mem_singleton.1 hx]
    exact he

/-- Envelopes that are added stand behind the list, which is shown if there are any. -/
lemma extend (hr : Storage.Reliable keys sound) (h : Refines keys sound q s a) (now : Timestamp)
    {es : List Envelope} (hes : ∀ e ∈ es, e.Faithful 125) :
    Refines keys sound (q.extend now es s).1 (q.extend now es s).2
      (if es = [] then a else ⟨a.items ++ es, false⟩) := by
  by_cases hnil : es = []
  · rw [if_pos hnil, hnil, extend_nil]
    exact h
  · rw [if_neg hnil, extend_of_ne_nil hnil, h.contents_eq now]
    refine h.rewrite hr now fun x hx => ?_
    exact (List.mem_append.1 hx).elim (h.faithful_items x) (hes x)

/-- Envelopes that are put in front stand ahead of the list, which is shown if there are any. -/
lemma prepend (hr : Storage.Reliable keys sound) (h : Refines keys sound q s a) (now : Timestamp)
    {es : List Envelope} (hes : ∀ e ∈ es, e.Faithful 125) :
    Refines keys sound (q.prepend now es s).1 (q.prepend now es s).2
      (if es = [] then a else ⟨es ++ a.items, false⟩) := by
  by_cases hnil : es = []
  · rw [if_pos hnil, hnil, prepend_nil]
    exact h
  · rw [if_neg hnil, prepend_of_ne_nil hnil, h.contents_eq now]
    refine h.rewrite hr now fun x hx => ?_
    exact (List.mem_append.1 hx).elim (hes x) (h.faithful_items x)

/-- **Operations on a queue are operations on a list.** An operation does to a queue what it does to
the list for which the queue stands. The answers are the same, and so is what becomes of the
receiver of what is drained.

**Proof sketch.** One lemma for each operation, all of them about the same relation: the text in
storage tells the list, memory holds what of it is visible, and the published length is that of what
memory holds. -/
theorem apply (hr : Storage.Reliable keys sound) (h : Refines keys sound q s a) (now : Timestamp)
    {op : Operation τ} (hop : ∀ e ∈ op.added, e.Faithful 125) (t : τ) :
    (op.apply now q s t).1 = (a.apply t op).1 ∧
      (op.apply now q s t).2.2.2 = (a.apply t op).2.2 ∧
      Refines keys sound (op.apply now q s t).2.1 (op.apply now q s t).2.2.1
        (a.apply t op).2.1 := by
  cases op with
  | push e => exact ⟨rfl, rfl, h.push hr now (hop e List.mem_cons_self)⟩
  | extend es => exact ⟨rfl, rfl, h.extend hr now hop⟩
  | prepend es => exact ⟨rfl, rfl, h.prepend hr now hop⟩
  | drain transmit =>
    obtain ⟨hresult, hstate, hleft⟩ := h.drain hr transmit t
    exact ⟨congrArg Answer.drained hresult, hstate, hleft⟩
  | front =>
    have holdest : q.front? = a.visible.head? := congrArg List.head? h.items_eq
    exact ⟨congrArg Answer.oldest holdest, rfl, h⟩
  | pop => exact ⟨congrArg Answer.oldest (h.pop hr).1, rfl, (h.pop hr).2⟩
  | detach => exact ⟨rfl, rfl, h.detach⟩
  | reattach => exact ⟨rfl, rfl, h.reattach hr now⟩
  | reload => exact ⟨rfl, rfl, h.reload hr now⟩

/-- Operations in a row do to a queue what they do to the list for which the queue stands.

**Proof sketch.** Induction on the operations, by `apply`. -/
lemma applyAll (hr : Storage.Reliable keys sound) {ops : List (Timestamp × Operation τ)}
    (hops : ∀ x ∈ ops, ∀ e ∈ x.2.added, e.Faithful 125) (h : Refines keys sound q s a) (t : τ) :
    (Offline.applyAll ops q s t).1 = (Shelf.applyAll (ops.map (·.2)) a t).1 ∧
      (Offline.applyAll ops q s t).2.2.2 = (Shelf.applyAll (ops.map (·.2)) a t).2.2 ∧
      Refines keys sound (Offline.applyAll ops q s t).2.1 (Offline.applyAll ops q s t).2.2.1
        (Shelf.applyAll (ops.map (·.2)) a t).2.1 := by
  induction ops generalizing q s a t with
  | nil => exact ⟨rfl, rfl, h⟩
  | cons x rest ih =>
    obtain ⟨now, op⟩ := x
    obtain ⟨hanswer, hstate, hnext⟩ := h.apply hr now (hops (now, op) List.mem_cons_self) t
    obtain ⟨hanswers, hlast, hend⟩ := ih (fun x hx => hops x (List.mem_cons_of_mem _ hx)) hnext
      (a.apply t op).2.2
    rw [applyAll_cons, List.map_cons, Shelf.applyAll_cons, hstate]
    exact ⟨congrArg₂ List.cons hanswer hanswers, hlast, hend⟩

end Refines

/-- What is observed of a queue after some operations is what is observed of a list: the answers,
what became of the receiver of what was drained, what the queue has in memory, and its published
length. A queue that is loaded from the storage then has the whole list. -/
structure Matches (key : String) (observed : List Answer × Offline × σ × τ)
    (expected : List Answer × Shelf × τ) : Prop where
  answers : observed.1 = expected.1
  receiver : observed.2.2.2 = expected.2.2
  items : observed.2.1.items = expected.2.1.visible
  gauge : observed.2.1.gauge = expected.2.1.visible.length
  loaded : ∀ now, (load now key observed.2.2.1).1.items = expected.2.1.items

/-- **A queue is a list.** A queue is loaded from a reliable storage, which holds no text, a text
that is no list of envelopes, or a list of envelopes, and is used in any way with envelopes that can
be told. After each operation it is to all appearances one list, which is visible or hidden.

**Proof sketch.** A queue that has just been loaded stands for the list that its text holds
(`durable_load`), and it goes on to stand for what the operations make of that list
(`Refines.applyAll`). What can be seen of a queue, its answers, its items, its published length and
what another one would load, is told by the list for which it stands. -/
theorem refinement {key : String} (hr : Storage.Reliable [key] sound) {s : σ} (hs : sound s)
    {raw : Option String} (hread : (Storage.read key s).1 = .ok raw) {initial : List Envelope}
    (hraw : ∀ now, itemsOf now raw = initial) (hinitial : ∀ e ∈ initial, e.Faithful 125)
    {ops : List (Timestamp × Operation τ)} (hops : ∀ x ∈ ops, ∀ e ∈ x.2.added, e.Faithful 125)
    (began : Timestamp) (t : τ) :
    Matches key (applyAll ops (load began key s).1 (load began key s).2 t)
      (Shelf.applyAll (ops.map (·.2)) ⟨initial, false⟩ t) := by
  have hstored : ∀ now, (readItems now key s).1 = initial := fun now =>
    (fst_readItems_of_ok hread now).trans (hraw now)
  obtain ⟨hdurable, hitems⟩ := durable_load hr (List.mem_singleton_self key) hs hinitial hstored
    began
  obtain ⟨hanswers, hreceiver, hlast⟩ := Refines.applyAll hr hops
    (Refines.of_shown hdurable rfl hitems rfl) t
  have hkey := List.mem_singleton.1 hlast.key_mem
  refine ⟨hanswers, hreceiver, hlast.items_eq, hlast.items_eq ▸ hlast.gauge_eq, fun now => ?_⟩
  have hloaded := hlast.readItems_eq now
  rw [hkey] at hloaded
  exact hloaded

namespace Sample

open Messenger.Sample (epoch note)

/-- Takes one envelope, and no more. -/
def takeOne (e : Envelope) : List Envelope → Except Error Unit × List Envelope
  | [] => (.ok (), [e])
  | taken => (.error .disconnected, taken)

/-- The queue is hidden, nothing is added, and then two notes are; a drain stops at the second of
three, which is then taken by hand, and the queue is loaded anew. -/
def errands : List (Timestamp × Operation (List Envelope)) :=
  [(epoch, .detach), (epoch, .extend []), (epoch, .front), (epoch, .push (note 2)),
    (epoch, .extend [note 3]), (epoch, .drain takeOne), (epoch, .pop), (epoch, .reload)]

end Sample

/-- Of the note that waits and of two that are added, the third is left after the errands. -/
theorem refinement_errands :
    Matches "queue" (applyAll Sample.errands (load Sample.epoch "queue" Sample.storage).1
        (load Sample.epoch "queue" Sample.storage).2 [])
      (Shelf.applyAll (Sample.errands.map (·.2)) ⟨[Sample.note 1], false⟩ []) ∧
    (Shelf.applyAll (Sample.errands.map (·.2)) ⟨[Sample.note 1], false⟩ []).2 =
      (⟨[Sample.note 3], false⟩, [Sample.note 1]) := by
  have hread : (Storage.read "queue" Sample.storage).1 =
      .ok (some (Envelope.encodeAll [Sample.note 1])) := rfl
  refine ⟨refinement (Store.reliable_memory ["queue"]) trivial hread
    (Sample.itemsOf_note (by decide)) ?_ ?_ Sample.epoch [], rfl⟩
  · intro e he
    rw [List.mem_singleton.1 he]
    exact Sample.faithful_note (by decide) 125
  · have h2 := Sample.faithful_note (n := 2) (by decide) 125
    have h3 := Sample.faithful_note (n := 3) (by decide) 125
    simp [Sample.errands, Operation.added, h2, h3]

end Messenger.Queue.Offline
