set_option relaxedAutoImplicit false
set_option autoImplicit false

/-!
# Pipes

A pipe carries items in one direction, in order and without bound. Each of its ends can be dropped.
What is in the pipe can still be taken out when its sender is gone; without a receiver nothing can
be put in.

## Main definitions

* `Messenger.Transport.Pipe`: the items on their way and the ends that are left.
* `Messenger.Transport.Pipe.send`, `Messenger.Transport.Pipe.receive`: the operations on the ends.

## Main results

* `Messenger.Transport.Pipe.receive_eq_ended_iff`: when a pipe has come to its end.
-/

namespace Messenger.Transport

/-- Items on their way in one direction. -/
structure Pipe (α : Type) where
  /-- The items that have not been taken out, the oldest first. -/
  items : List α
  hasSender : Bool
  hasReceiver : Bool
  deriving DecidableEq, Repr, Inhabited

/-- What the receiver of a pipe finds. -/
inductive Received (α : Type)
  | item (a : α)
  /-- Nothing is there yet. -/
  | pending
  /-- Nothing is there, and nothing will come. -/
  | ended
  deriving DecidableEq, Repr, Inhabited

namespace Pipe

variable {α : Type}

/-- An empty pipe with both of its ends. -/
def fresh : Pipe α := ⟨[], true, true⟩

/-- Puts an item in, if there is a receiver; gives whether there is. -/
def send (a : α) (p : Pipe α) : Bool × Pipe α :=
  if p.hasReceiver then (true, { p with items := p.items ++ [a] }) else (false, p)

/-- Takes the oldest item out. -/
def receive (p : Pipe α) : Received α × Pipe α :=
  match p.items with
  | a :: rest => (.item a, { p with items := rest })
  | [] => (if p.hasSender then .pending else .ended, p)

/-- Takes all items out. -/
def drain (p : Pipe α) : List α × Pipe α :=
  (p.items, { p with items := [] })

/-- The sender is gone. -/
def dropSender (p : Pipe α) : Pipe α :=
  { p with hasSender := false }

/-- The receiver is gone, and what was on its way is lost. -/
def dropReceiver (p : Pipe α) : Pipe α :=
  { p with items := [], hasReceiver := false }

/-- A pipe has come to its end exactly if it is empty and its sender is gone. -/
theorem receive_eq_ended_iff {p : Pipe α} :
    p.receive.1 = .ended ↔ p.items = [] ∧ p.hasSender = false := by
  obtain ⟨items, hasSender, hasReceiver⟩ := p
  cases items <;> cases hasSender <;> simp [receive]

end Pipe

end Messenger.Transport
