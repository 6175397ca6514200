import Messenger.Session.Step
import Messenger.Store.Memory
import Messenger.Transport.Connector

set_option relaxedAutoImplicit false
set_option autoImplicit false

/-!
# The laboratory

A laboratory runs clients without a network and without waiting: connections are wires in memory,
credentials come from a script, the storage can be made to fail, and the clock goes forward only
when nothing is left to do at a time.

## Main definitions

* `Messenger.Lab`: all that there is in a laboratory.
* `Messenger.Lab.Client`: a client, with what is on the way to its session.
* `Messenger.Lab.Supplier`: where the credentials come from.
* `Messenger.Lab.build`: a new client.
-/

namespace Messenger

namespace Lab

/-- Where the credentials come from. -/
inductive Supplier
  /-- Always the same token, or always nothing. -/
  | fixed (token : Option String)
  /-- Answers in order, of which the last repeats, each after a time. -/
  | scripted (answers : List (Nat × Credential.Answer))
  deriving Inhabited

/-- The answer to the question of the given number, and the time it takes. -/
def Supplier.answer (s : Supplier) (n : Nat) : Nat × Credential.Answer :=
  match s with
  | fixed token => (0, .ok token)
  | scripted answers => (answers[min n (answers.length - 1)]?).getD (0, .ok none)

/-- A client. -/
structure Client where
  session : Session
  /-- The commands that the session has not come to. -/
  mailbox : List Session.Command := []
  /-- The handle is held. -/
  held : Bool := true
  /-- The calls that wait for an answer; each of them holds the client too. -/
  calls : List Nat := []
  /-- Under which identifier the next watcher is added. -/
  nextWatch : Nat := 1
  /-- The answer of the supplier that is on its way, and when it comes. -/
  answer : Option (Nat × Credential.Answer) := none
  /-- The name of the attempt at the connector that has not come to an end. -/
  attempt : Option Nat := none
  /-- What came of the attempt. -/
  outcome : Transport.Result := .waits
  /-- The wire of each link. -/
  wires : List Nat := []
  /-- The session has ended. -/
  ended : Bool := false
  deriving Inhabited

/-- What is to be done at a time. -/
inductive Task
  /-- The command of a call goes into the mailbox of a client. -/
  | call (client : Nat) (command : Session.Command)
  /-- A client does all that it can. -/
  | run (client : Nat)
  deriving Repr, Inhabited

/-- What watchers and listeners saw. -/
inductive Note
  /-- A watcher saw a state at a time. -/
  | saw (watcher time : Nat) (state : ConnectionState)
  /-- A listener got an envelope. -/
  | got (listener : Nat) (e : Envelope)
  deriving Repr, Inhabited

/-- A call that has got its answer. -/
structure Done where
  call : Nat
  time : Nat
  result : Except Error Unit
  deriving Repr, Inhabited

/-- A listener: the client it was registered at, its kind and its identifier there. -/
structure Listener where
  client : Nat
  kind : Kind
  id : Nat
  deriving Repr, Inhabited

/-- A watcher: the client it was added to, and its identifier there. -/
structure Watcher where
  client : Nat
  id : Nat
  deriving Repr, Inhabited

end Lab

/-- All that there is in a laboratory. -/
structure Lab where
  settings : Settings
  supplier : Lab.Supplier
  /-- The time by the calendar, which stands still. -/
  stamp : Timestamp
  /-- The identifiers of envelopes, by number. -/
  idOf : Nat → String
  clock : Nat := 0
  store : Store.Faulty Store.Memory
  /-- The attempts are noted with their times. -/
  connector : Transport.Connector (Nat × Address)
  clients : List Lab.Client := []
  /-- The client whose handle is held. -/
  current : Option Nat := none
  /-- What is to be done, in the order in which it came up. -/
  tasks : List Lab.Task := []
  /-- How many calls have been started. -/
  calls : Nat := 0
  /-- How many questions the supplier has been asked. -/
  questions : Nat := 0
  /-- How many identifiers have been given out. -/
  ids : Nat := 0
  listeners : List Lab.Listener := []
  watchers : List Lab.Watcher := []
  notes : List Lab.Note := []
  done : List Lab.Done := []
  deriving Inhabited

namespace Lab

/-- Changes the client of a number. -/
def setClient (i : Nat) (c : Client) (lab : Lab) : Lab :=
  { lab with clients := lab.clients.set i c }

/-- Changes the wire of a number. -/
def changeWire (n : Nat) (f : Transport.Wire → Transport.Wire) (lab : Lab) : Lab :=
  match lab.connector.wires[n]? with
  | some (_, wire) => { lab with connector := lab.connector.setWire n (f wire) }
  | none => lab

/-- A new identifier. -/
def takeId (lab : Lab) : String × Lab :=
  (lab.idOf lab.ids, { lab with ids := lab.ids + 1 })

/-- The wire of the link of a client, or of the one that is about to be opened, takes frames. -/
def accepts (c : Client) (lab : Lab) : Bool :=
  let wire := match c.session.link, c.outcome with
    | some link, _ => c.wires[link]?
    | none, .opened n => some n
    | none, _ => none
  (wire.bind (lab.connector.wires[·]?)).any fun w => w.2.toPeer.hasReceiver

/-- What an event of a client takes from the laboratory. -/
def moment (c : Client) (freshId : String) (lab : Lab) : Session.Moment where
  clock := lab.clock
  stamp := lab.stamp
  freshId := freshId
  accepts := fun _ => lab.accepts c
  outcome := fun _ => .returned
  pingFirst := true

/-- It is the turn of a client. -/
def Task.isRun (i : Nat) : Task → Bool
  | .run j => i = j
  | .call _ _ => false

/-- There is something for a client to do. A client that has a turn before it gets no further
one. -/
def rouse (i : Nat) (lab : Lab) : Lab :=
  if lab.tasks.any (·.isRun i) then lab else { lab with tasks := lab.tasks ++ [.run i] }

/-- Gives up the handle that is held. A client that nobody holds any more has to end. -/
def release (lab : Lab) : Lab :=
  match lab.current with
  | none => lab
  | some i =>
    match lab.clients[i]? with
    | none => lab
    | some c =>
      let lab := { lab.setClient i { c with held := false } with current := none }
      if c.calls.isEmpty then lab.rouse i else lab

/-- A new client, whose handle takes the place of the one that is held. -/
def build (lab : Lab) : Except Error Lab :=
  match lab.settings.target with
  | .error e => .error e
  | .ok target =>
    let (session, store) := Session.start lab.stamp lab.settings target lab.store
    let n := lab.clients.length
    let lab : Lab := { lab with store := store, clients := lab.clients ++ [{ session := session }] }
    .ok { (lab.rouse n).release with current := some n }

end Lab

end Messenger
