import Messenger.Envelope.Basic
import Messenger.Listener

set_option relaxedAutoImplicit false
set_option autoImplicit false

/-!
# The registry of listeners

Listeners are registered for a kind of envelopes, under identifiers that are never used again. An
envelope goes to the listeners of its kind in the order of their registration. Answers to pings
concern the connection alone and go to nobody.

## Main definitions

* `Messenger.Registry`: the listeners by kind.
* `Messenger.Registry.on`, `Messenger.Registry.off`, `Messenger.Registry.clear`: registration.
* `Messenger.Registry.audience`: the listeners that an envelope goes to.
* `Messenger.Registry.dispatch`: the delivery of an envelope.

## Main results

* `Messenger.Registry.dispatch_pong`: answers to pings are never delivered.
-/

namespace Messenger

/-- Listeners by the kind of envelopes they are registered for. -/
structure Registry (α : Type) where
  /-- The listeners of each kind that has some, with their identifiers, in the order of their
  registration. -/
  table : List (Kind × List (Nat × α))
  /-- The identifier of the next registration. -/
  nextId : Nat
  deriving DecidableEq, Repr, Inhabited

namespace Registry

variable {α σ : Type}

/-- Nobody is registered. -/
def empty : Registry α := ⟨[], 1⟩

/-- The registrations for a kind. -/
def listeners (kind : Kind) (r : Registry α) : List (Nat × α) :=
  (r.table.lookup kind).getD []

/-- The table with other registrations for a kind. A kind without registrations has no entry. -/
def setListeners (kind : Kind) (new : List (Nat × α)) :
    List (Kind × List (Nat × α)) → List (Kind × List (Nat × α))
  | [] => if new.isEmpty then [] else [(kind, new)]
  | (k, old) :: rest =>
    if k = kind then (if new.isEmpty then rest else (k, new) :: rest)
    else (k, old) :: setListeners kind new rest

/-- Registers a listener for a kind, and gives its identifier. -/
def on (kind : Kind) (listener : α) (r : Registry α) : Nat × Registry α :=
  (r.nextId,
    ⟨setListeners kind (r.listeners kind ++ [(r.nextId, listener)]) r.table, r.nextId + 1⟩)

/-- Removes the registration of an identifier for a kind, and gives whether there was one. -/
def off (kind : Kind) (id : Nat) (r : Registry α) : Bool × Registry α :=
  let kept := (r.listeners kind).filter fun l => l.1 != id
  (kept.length != (r.listeners kind).length,
    { r with table := setListeners kind kept r.table })

/-- Removes all registrations. -/
def clear (r : Registry α) : Registry α :=
  { r with table := [] }

/-- How many listeners are registered for a kind. -/
def count (kind : Kind) (r : Registry α) : Nat :=
  (r.listeners kind).length

/-- For how many kinds listeners are registered. -/
def kinds (r : Registry α) : Nat :=
  r.table.length

/-- The listeners that an envelope goes to. -/
def audience (e : Envelope) (r : Registry α) : List α :=
  if e.kind = .pong then [] else (r.listeners e.kind).map (·.2)

/-- Delivers an envelope to the listeners that are registered at the start, and gives how many of
them returned. What the listeners do to the registry does not change whom this envelope goes
to. -/
def dispatch (call : α → Envelope → σ → Outcome × σ) (e : Envelope) (r : Registry α) (s : σ) :
    Nat × σ :=
  callAll (fun a => call a e) (r.audience e) s

/-- Answers to pings are never delivered. -/
theorem dispatch_pong (call : α → Envelope → σ → Outcome × σ) {e : Envelope} (h : e.kind = .pong)
    (r : Registry α) (s : σ) : r.dispatch call e s = (0, s) := by
  simp [dispatch, audience, h, callAll]

/-- What is registered after the registrations of a kind have been replaced.

**Proof sketch.** Induction on the table. At the entry of `kind` the lookup of another kind passes
it by, whether the entry is replaced or dropped; at any other entry it is answered there, or in the
rest. -/
theorem lookup_setListeners (kind other : Kind) (new : List (Nat × α))
    (table : List (Kind × List (Nat × α))) (hne : other ≠ kind) :
    (setListeners kind new table).lookup other = table.lookup other := by
  induction table with
  | nil =>
    unfold setListeners
    split
    · rfl
    · have : (other == kind) = false := by simpa using hne
      simp [List.lookup_cons, this]
  | cons entry rest ih =>
    obtain ⟨k, old⟩ := entry
    unfold setListeners
    split
    · next hk =>
      have : (other == k) = false := by simpa [hk] using hne
      split <;> simp [List.lookup_cons, this]
    · simp only [List.lookup_cons]
      split
      · rfl
      · exact ih

/-- Operations on one kind leave the others alone. -/
theorem listeners_off_of_ne {kind other : Kind} (h : other ≠ kind) (id : Nat) (r : Registry α) :
    (r.off kind id).2.listeners other = r.listeners other := by
  simp [off, listeners, lookup_setListeners _ _ _ _ h]

/-- Operations on one kind leave the others alone. -/
theorem listeners_on_of_ne {kind other : Kind} (h : other ≠ kind) (listener : α)
    (r : Registry α) : (r.on kind listener).2.listeners other = r.listeners other := by
  simp [on, listeners, lookup_setListeners _ _ _ _ h]

end Registry

end Messenger
