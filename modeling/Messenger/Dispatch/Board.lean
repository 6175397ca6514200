import Messenger.Dispatch.Registry

set_option relaxedAutoImplicit false
set_option autoImplicit false

/-!
# Listeners that act on their registry

A listener may register and remove listeners, itself among them, and may dispatch further
envelopes, all while it is being called. This module gives such listeners a form in which what
they do can be written down, and keeps the record of what they saw.

## Main definitions

* `Messenger.Board.Action`: what a listener does when it is called.
* `Messenger.Board`: a registry, the handles of its registrations and the record.
* `Messenger.Board.dispatch`: the delivery of an envelope, to a bounded depth of envelopes that
  are dispatched by listeners.
-/

namespace Messenger

namespace Board

/-- What a listener does when it is called, after it has taken a note of the call. -/
inductive Action
  | nothing
  | panic
  /-- Removes its own registration. -/
  | unsubscribeSelf
  /-- Removes the registration of a slot. -/
  | unsubscribe (slot : Nat)
  /-- Registers one more listener that does nothing, for its own kind unless another one is
  given. -/
  | add (kind : Option Kind)
  | clear
  /-- Dispatches a further envelope. -/
  | dispatch (e : Envelope)
  deriving Inhabited

/-- A listener: its slot, the kind it is registered for, and what it does. -/
structure Listener where
  slot : Nat
  kind : Kind
  action : Action
  deriving Inhabited

/-- What a listener took a note of. -/
inductive Note
  /-- It was called with an envelope. -/
  | called (slot : Nat) (e : Envelope)
  /-- The envelope it dispatched was delivered to so many. -/
  | nested (slot delivered : Nat)
  deriving Inhabited

/-- A registration as its owner knows it. -/
structure Handle where
  kind : Kind
  id : Nat
  /-- The handle has not been used up. -/
  live : Bool
  deriving DecidableEq, Repr, Inhabited

end Board

/-- A registry with the handles of its registrations, by slot, and the record. -/
structure Board where
  registry : Registry Board.Listener
  handles : List Board.Handle
  notes : List Board.Note
  deriving Inhabited

namespace Board

/-- Nothing is registered or recorded. -/
def empty : Board := ⟨.empty, [], []⟩

/-- Registers a listener, which takes the next slot. Gives slot and identifier. -/
def on (kind : Kind) (action : Action) (b : Board) : (Nat × Nat) × Board :=
  let slot := b.handles.length
  let (id, registry) := b.registry.on kind ⟨slot, kind, action⟩
  ((slot, id), { b with registry := registry, handles := b.handles ++ [⟨kind, id, true⟩] })

/-- Removes the registration of a slot, looked for under its own kind or another one. Gives
whether it was there, or nothing if there is no such slot. -/
def off (slot : Nat) (kind : Option Kind) (b : Board) : Option Bool × Board :=
  match b.handles[slot]? with
  | none => (none, b)
  | some handle =>
    let (removed, registry) := b.registry.off (kind.getD handle.kind) handle.id
    (some removed, { b with registry := registry })

/-- Uses up the handle of a slot to remove its registration. -/
def unsubscribe (slot : Nat) (b : Board) : Board :=
  match b.handles[slot]? with
  | none => b
  | some handle =>
    if handle.live then
      { b with
        registry := (b.registry.off handle.kind handle.id).2
        handles := b.handles.set slot { handle with live := false } }
    else b

/-- Removes all registrations. -/
def clear (b : Board) : Board :=
  { b with registry := b.registry.clear }

/-- Takes a note. -/
def note (n : Note) (b : Board) : Board :=
  { b with notes := b.notes ++ [n] }

/-- Delivers an envelope. Listeners dispatch further envelopes to a depth of `depth`; below it
their envelopes reach nobody. -/
def dispatch : Nat → Envelope → Board → Nat × Board
  | depth, e, b =>
    b.registry.dispatch
      (fun listener e b =>
        let b := b.note (.called listener.slot e)
        match listener.action with
        | .nothing => (.returned, b)
        | .panic => (.panicked, b)
        | .unsubscribeSelf => (.returned, b.unsubscribe listener.slot)
        | .unsubscribe slot => (.returned, b.unsubscribe slot)
        | .add kind => (.returned, (b.on (kind.getD listener.kind) .nothing).2)
        | .clear => (.returned, b.clear)
        | .dispatch further =>
          match depth with
          | 0 => (.returned, b)
          | depth + 1 =>
            let (n, b) := dispatch depth further b
            (.returned, b.note (.nested listener.slot n)))
      e b

end Board

end Messenger
