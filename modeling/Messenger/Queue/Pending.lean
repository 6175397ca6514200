import Messenger.Envelope.Basic
import Messenger.Error

set_option relaxedAutoImplicit false
set_option autoImplicit false

/-!
# The pending queue

Envelopes that are sent while a connection is being opened wait in memory. They leave the queue in
the order in which they came, each after it has been handed to the connection.

## Main definitions

* `Messenger.Queue.Pending`: the queue.
* `Messenger.Queue.Pending.drain`: hands the envelopes on, the oldest first.

## Main results

* `Messenger.Queue.Pending.drain_ok_items`: a queue that is drained without a failure is empty.
-/

namespace Messenger.Queue

/-- Envelopes that wait in memory, the oldest first. -/
structure Pending where
  items : List Envelope
  deriving Repr, Inhabited

namespace Pending

variable {τ : Type}

/-- Nothing waits. -/
def empty : Pending := ⟨[]⟩

/-- One more envelope waits. -/
def push (e : Envelope) (q : Pending) : Pending :=
  ⟨q.items ++ [e]⟩

/-- Hands over all envelopes. -/
def takeAll (q : Pending) : List Envelope × Pending :=
  (q.items, empty)

/-- The oldest envelope. -/
def front? (q : Pending) : Option Envelope :=
  q.items.head?

/-- Removes the oldest envelope. -/
def pop (q : Pending) : Option Envelope × Pending :=
  (q.items.head?, ⟨q.items.tail⟩)

/-- Hands the envelopes of a list on, the oldest first, up to the first failure. Gives how many
went, or the failure, with the list of those that are left. -/
def drainList (transmit : Envelope → τ → Except Error Unit × τ) :
    List Envelope → Nat → τ → Except Error Nat × List Envelope × τ
  | [], sent, t => (.ok sent, [], t)
  | e :: rest, sent, t =>
    match transmit e t with
    | (.ok (), t) => drainList transmit rest (sent + 1) t
    | (.error err, t) => (.error err, e :: rest, t)

/-- Hands the envelopes on, the oldest first, up to the first failure. That envelope and those
behind it stay. -/
def drain (transmit : Envelope → τ → Except Error Unit × τ) (q : Pending) (t : τ) :
    Except Error Nat × Pending × τ :=
  let (result, left, t) := drainList transmit q.items 0 t
  (result, ⟨left⟩, t)

/-- A list that is drained without a failure is used up, and the count goes up by its length. -/
theorem drainList_ok {transmit : Envelope → τ → Except Error Unit × τ} {es : List Envelope}
    {sent n : Nat} {t : τ} (h : (drainList transmit es sent t).1 = .ok n) :
    (drainList transmit es sent t).2.1 = [] ∧ n = sent + es.length := by
  induction es generalizing sent t with
  | nil =>
    simp only [drainList, Except.ok.injEq] at h
    simp [drainList, h]
  | cons e rest ih =>
    obtain ⟨result, t', ht⟩ : ∃ result t', transmit e t = (result, t') := ⟨_, _, rfl⟩
    cases result with
    | ok =>
      simp only [drainList, ht] at h ⊢
      obtain ⟨h₁, h₂⟩ := ih h
      exact ⟨h₁, by simp only [List.length_cons]; omega⟩
    | error err => simp [drainList, ht] at h

/-- **A drain that succeeds leaves nothing.** A queue that is drained without a failure is empty,
and the count is how many envelopes there were. -/
theorem drain_ok_items {transmit : Envelope → τ → Except Error Unit × τ} {q : Pending} {t : τ}
    {n : Nat} (h : (q.drain transmit t).1 = .ok n) :
    (q.drain transmit t).2.1.items = [] ∧ n = q.items.length := by
  obtain ⟨hleft, hcount⟩ := drainList_ok h
  exact ⟨hleft, by simpa using hcount⟩

end Pending

end Messenger.Queue
