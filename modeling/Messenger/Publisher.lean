import Messenger.Listener

set_option relaxedAutoImplicit false
set_option autoImplicit false

/-!
# The published state of the connection

Whoever watches the connection is told the state it is in, and from then on every change of it, in
order and once. A copy of the state can be read at any time.

## Main definitions

* `Messenger.ConnectionState`: the states.
* `Messenger.ConnectionState.toByte`, `Messenger.ConnectionState.ofByte`: the byte of a state.
* `Messenger.Publisher`: the state, its copy and those who watch.
* `Messenger.Publisher.cell`: the state that the copy gives.
* `Messenger.Publisher.subscribe`, `Messenger.Publisher.unsubscribe`,
  `Messenger.Publisher.transition`: the operations.

## Main results

* `Messenger.Publisher.transition_self`: nobody is told of a change that is none.
* `Messenger.Publisher.cell_transition`: the copy follows the state.
-/

namespace Messenger

/-- The states of a connection. -/
inductive ConnectionState
  | disconnected
  | connecting
  | connected
  | reconnecting
  deriving DecidableEq, Repr, Inhabited

namespace ConnectionState

/-- The name of a state. -/
def name : ConnectionState → String
  | disconnected => "disconnected"
  | connecting => "connecting"
  | connected => "connected"
  | reconnecting => "reconnecting"

/-- The state of a name. -/
def ofName? : String → Option ConnectionState
  | "disconnected" => some disconnected
  | "connecting" => some connecting
  | "connected" => some connected
  | "reconnecting" => some reconnecting
  | _ => none

/-- The byte as which a state is kept in a copy. -/
def toByte : ConnectionState → UInt8
  | disconnected => 0
  | connecting => 1
  | connected => 2
  | reconnecting => 3

/-- The state that is kept as a byte. -/
def ofByte (b : UInt8) : ConnectionState :=
  if b = 1 then connecting
  else if b = 2 then connected
  else if b = 3 then reconnecting
  else disconnected

/-- Every byte is read as its state. -/
@[simp] theorem ofByte_toByte (s : ConnectionState) : ofByte s.toByte = s := by
  cases s <;> rfl

end ConnectionState

/-- The state of the connection and those who watch it. -/
structure Publisher (α : Type) where
  current : ConnectionState
  /-- The byte in which the copy of the state is kept that can be read at any time. -/
  byte : UInt8
  /-- Those who watch, each under an identifier that need not be its own. -/
  watchers : List (Nat × α)
  deriving DecidableEq, Repr, Inhabited

namespace Publisher

variable {α σ : Type}

/-- The state that the copy gives. -/
def cell (p : Publisher α) : ConnectionState :=
  .ofByte p.byte

/-- A publisher that nobody watches. -/
def start (cell : ConnectionState) : Publisher α :=
  ⟨cell, cell.toByte, []⟩

/-- Adds a watcher, after telling it the state. Whether it breaks down makes no difference. -/
def subscribe (tell : α → ConnectionState → σ → Outcome × σ) (id : Nat) (watcher : α)
    (p : Publisher α) (s : σ) : Publisher α × σ :=
  ({ p with watchers := p.watchers ++ [(id, watcher)] }, (tell watcher p.current s).2)

/-- Removes all watchers of an identifier. -/
def unsubscribe (id : Nat) (p : Publisher α) : Publisher α :=
  { p with watchers := p.watchers.filter fun w => w.1 != id }

/-- Enters a state, and tells all who watch if it is another one than before. Gives whether it
is. -/
def transition (tell : α → ConnectionState → σ → Outcome × σ) (next : ConnectionState)
    (p : Publisher α) (s : σ) : Bool × Publisher α × σ :=
  if next = p.current then (false, p, s)
  else
    (true, { p with current := next, byte := next.toByte },
      (callAll (fun w => tell w.2 next) p.watchers s).2)

/-- The copy gives the state whose byte it keeps. -/
@[simp] theorem cell_mk (current kept : ConnectionState) (watchers : List (Nat × α)) :
    (Publisher.mk current kept.toByte watchers).cell = kept :=
  ConnectionState.ofByte_toByte kept

/-- Nobody is told of a change that is none. -/
theorem transition_self (tell : α → ConnectionState → σ → Outcome × σ) (p : Publisher α) (s : σ) :
    p.transition tell p.current s = (false, p, s) := by
  simp [transition]

/-- After a transition the state is the one that was asked for. -/
@[simp] theorem current_transition (tell : α → ConnectionState → σ → Outcome × σ)
    (next : ConnectionState) (p : Publisher α) (s : σ) :
    (p.transition tell next s).2.1.current = next := by
  unfold transition
  split
  · next h => exact h.symm
  · rfl

/-- The copy follows the state. -/
theorem cell_transition (tell : α → ConnectionState → σ → Outcome × σ) (next : ConnectionState)
    (p : Publisher α) (s : σ) (h : p.cell = p.current) :
    (p.transition tell next s).2.1.cell = (p.transition tell next s).2.1.current := by
  unfold transition
  split
  · exact h
  · exact cell_mk next next p.watchers

end Publisher

end Messenger
