import Messenger.Transport.Wire

set_option relaxedAutoImplicit false
set_option autoImplicit false

/-!
# Connecting in memory

A connector in memory answers every attempt to connect by a wire, unless it has been told to
refuse. If it has a gate, an attempt waits at the gate until it is given a permit. What becomes of
an attempt behind the gate can also be laid down beforehand, attempt by attempt.

## Main definitions

* `Messenger.Transport.Answer`: what becomes of an attempt behind the gate.
* `Messenger.Transport.Connector`: the attempts, the gate and the wires.
* `Messenger.Transport.Connector.connect`, `Messenger.Transport.Connector.release`,
  `Messenger.Transport.Connector.abandon`: the operations.
-/

namespace Messenger.Transport

/-- What becomes of an attempt behind the gate. -/
inductive Answer
  /-- A wire, unless the connector refuses. -/
  | live
  /-- A refusal. -/
  | refuse
  /-- Nothing ever. -/
  | hang
  /-- A wire whose two directions can be cut apart. -/
  | split
  /-- A wire whose peer takes no frames. -/
  | mute
  /-- A wire whose peer is gone. -/
  | dead
  deriving DecidableEq, Repr, Inhabited

/-- What came of an attempt. -/
inductive Result
  /-- The wire of this number was opened. -/
  | opened (wire : Nat)
  | failed (e : Error)
  /-- Nothing yet. -/
  | waits
  deriving DecidableEq, Repr, Inhabited

/-- A connector in memory. -/
structure Connector (υ : Type) where
  /-- The addresses of all attempts, in order. -/
  attempts : List υ
  /-- How many permits are at the gate, if there is one. -/
  gate : Option Nat
  /-- The attempts that wait at the gate, by the names that were given to them. -/
  waiting : List Nat
  /-- How many more attempts are refused. -/
  refusals : Nat
  /-- What becomes of the next attempts behind the gate. -/
  script : List Answer
  /-- The wires that were opened, each with how it was opened. -/
  wires : List (Answer × Wire)
  deriving Inhabited

namespace Connector

variable {υ : Type}

/-- A connector that nobody has connected to. -/
def fresh (gated : Bool) (script : List Answer) : Connector υ :=
  ⟨[], if gated then some 0 else none, [], 0, script, []⟩

/-- Why an attempt is refused that the connector was told to refuse. -/
def refused : Error := .transport "connection refused"

/-- Why an attempt is refused for which a refusal was laid down. -/
def scriptedRefusal : Error := .transport "scripted refusal"

/-- Opens a wire. -/
def opens (answer : Answer) (wire : Wire) (c : Connector υ) : Result × Connector υ :=
  (.opened c.wires.length, { c with wires := c.wires ++ [(answer, wire)] })

/-- Answers an attempt that is behind the gate. -/
def pass (c : Connector υ) : Result × Connector υ :=
  let answer := c.script.headD .live
  let c := { c with script := c.script.tail }
  match answer with
  | .live =>
    if 0 < c.refusals then (.failed refused, { c with refusals := c.refusals - 1 })
    else c.opens .live .fresh
  | .refuse => (.failed scriptedRefusal, c)
  | .hang => (.waits, c)
  | .split => c.opens .split .fresh
  | .mute => c.opens .mute .mute
  | .dead => c.opens .dead .dead

/-- An attempt to connect, under a name by which it can be told later. -/
def connect (name : Nat) (address : υ) (c : Connector υ) : Result × Connector υ :=
  let c := { c with attempts := c.attempts ++ [address] }
  match c.gate with
  | none => c.pass
  | some 0 => (.waits, { c with waiting := c.waiting ++ [name] })
  | some (permits + 1) => { c with gate := some permits }.pass

/-- The attempt of this name is given up. -/
def abandon (name : Nat) (c : Connector υ) : Connector υ :=
  { c with waiting := c.waiting.filter (· != name) }

/-- Gives permits to the attempts of a list, the first first, and answers them. Gives the results
with the names of the attempts, and the permits that are left. -/
def letIn : List Nat → Nat → Connector υ → List (Nat × Result) × Connector υ
  | [], permits, c => ([], { c with gate := some permits, waiting := [] })
  | name :: rest, 0, c => ([], { c with gate := some 0, waiting := name :: rest })
  | name :: rest, permits + 1, c =>
    let (result, c) := c.pass
    let (results, c) := letIn rest permits c
    ((name, result) :: results, c)

/-- Lays down permits at the gate, and answers the attempts that come by them. -/
def release (permits : Nat) (c : Connector υ) : List (Nat × Result) × Connector υ :=
  match c.gate with
  | none => ([], c)
  | some present => c.letIn c.waiting (present + permits)

/-- Refuses the next attempts. -/
def refuseNext (n : Nat) (c : Connector υ) : Connector υ :=
  { c with refusals := n }

/-- Changes the wire of a number. -/
def setWire (n : Nat) (wire : Wire) (c : Connector υ) : Connector υ :=
  match c.wires[n]? with
  | some (answer, _) => { c with wires := c.wires.set n (answer, wire) }
  | none => c

end Connector

end Messenger.Transport
