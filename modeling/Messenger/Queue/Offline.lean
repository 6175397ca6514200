import Messenger.Envelope.Reader
import Messenger.Envelope.Writer
import Messenger.Store.Basic

set_option relaxedAutoImplicit false
set_option autoImplicit false

/-!
# The offline queue

Envelopes that are sent while there is no connection, and none is being opened, wait in durable
storage. The queue in memory is the truth while it is attached: after every change the stored text
is written anew, and a failure to do so changes nothing in memory. A detached queue shows nothing;
what it held stays in storage, and comes back with the next attachment.

## Main definitions

* `Messenger.Queue.Offline`: the queue.
* `Messenger.Queue.Offline.readItems`: the envelopes that a storage holds.
* `Messenger.Queue.Offline.push`, `Messenger.Queue.Offline.extend`,
  `Messenger.Queue.Offline.prepend`, `Messenger.Queue.Offline.pop`,
  `Messenger.Queue.Offline.drain`: the operations on its ends.
* `Messenger.Queue.Offline.detach`, `Messenger.Queue.Offline.reattach`: hiding and showing it.

## Main results

* `Messenger.Queue.Offline.gauge_persist`: the published length is that of the queue in memory.
-/

namespace Messenger.Queue

/-- Envelopes that wait in storage. -/
structure Offline where
  /-- The key of the storage under which they wait. -/
  key : String
  /-- The envelopes in memory, the oldest first. -/
  items : List Envelope
  /-- The envelopes are in storage only. -/
  detached : Bool
  /-- The length of the queue in memory, published for everyone to read. -/
  gauge : Nat
  deriving Repr, Inhabited

namespace Offline

variable {σ τ : Type} [Storage σ]

/-- The envelopes that a storage holds under a key, read at the moment `now`. A text that cannot be
read, or that is no list of envelopes, counts as none. -/
def readItems (now : Timestamp) (key : String) (s : σ) : List Envelope × σ :=
  match Storage.read key s with
  | (.ok (some text), s) =>
    match Envelope.decodeAll now text with
    | .ok items => (items, s)
    | .error _ => ([], s)
  | (.ok none, s) => ([], s)
  | (.error _, s) => ([], s)

/-- The queue that a storage holds. -/
def load (now : Timestamp) (key : String) (s : σ) : Offline × σ :=
  let (items, s) := readItems now key s
  (⟨key, items, false, items.length⟩, s)

/-- Publishes the length and writes the stored text anew. If writing fails the envelopes stay in
memory all the same. -/
def persist (q : Offline) (s : σ) : Offline × σ :=
  ({ q with gauge := q.items.length }, (Storage.write q.key (Envelope.encodeAll q.items) s).2)

/-- Hides the queue; its envelopes stay in storage. -/
def detach (q : Offline) : Offline :=
  { q with items := [], detached := true, gauge := 0 }

/-- Shows a hidden queue again, as storage has it. -/
def reattach (now : Timestamp) (q : Offline) (s : σ) : Offline × σ :=
  if q.detached then
    let (items, s) := readItems now q.key s
    ({ q with items := items, detached := false, gauge := items.length }, s)
  else (q, s)

/-- One more envelope waits. -/
def push (now : Timestamp) (e : Envelope) (q : Offline) (s : σ) : Offline × σ :=
  let (q, s) := q.reattach now s
  { q with items := q.items ++ [e] }.persist s

/-- More envelopes wait, behind all others. -/
def extend (now : Timestamp) (es : List Envelope) (q : Offline) (s : σ) : Offline × σ :=
  if es.isEmpty then (q, s)
  else
    let (q, s) := q.reattach now s
    { q with items := q.items ++ es }.persist s

/-- More envelopes wait, ahead of all others. -/
def prepend (now : Timestamp) (es : List Envelope) (q : Offline) (s : σ) : Offline × σ :=
  if es.isEmpty then (q, s)
  else
    let (q, s) := q.reattach now s
    { q with items := es ++ q.items }.persist s

/-- The oldest envelope. -/
def front? (q : Offline) : Option Envelope :=
  q.items.head?

/-- Removes the oldest envelope. -/
def pop (q : Offline) (s : σ) : Option Envelope × Offline × σ :=
  match q.items with
  | [] => (none, q, s)
  | e :: rest => (some e, { q with items := rest }.persist s)

/-- Hands the envelopes of a list on, the oldest first, up to the first failure. After each the
queue holds those that are left. -/
def drainList (transmit : Envelope → τ → Except Error Unit × τ) :
    List Envelope → Nat → Offline → σ → τ → Except Error Nat × Offline × σ × τ
  | [], sent, q, s, t => (.ok sent, q, s, t)
  | e :: rest, sent, q, s, t =>
    match transmit e t with
    | (.ok (), t) =>
      let (q, s) := { q with items := rest }.persist s
      drainList transmit rest (sent + 1) q s t
    | (.error err, t) => (.error err, q, s, t)

/-- Hands the envelopes on, the oldest first, up to the first failure. That envelope and those
behind it stay. Gives how many went, or the failure. -/
def drain (transmit : Envelope → τ → Except Error Unit × τ) (q : Offline) (s : σ) (t : τ) :
    Except Error Nat × Offline × σ × τ :=
  drainList transmit q.items 0 q s t

/-- The published length is that of the queue in memory. -/
@[simp] theorem gauge_persist (q : Offline) (s : σ) :
    (q.persist s).1.gauge = (q.persist s).1.items.length := rfl

/-- Writing the stored text leaves the envelopes in memory alone. -/
@[simp] theorem items_persist (q : Offline) (s : σ) : (q.persist s).1.items = q.items := rfl

end Offline

end Messenger.Queue
