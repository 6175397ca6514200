import Messenger.Lab.Basic

set_option relaxedAutoImplicit false
set_option autoImplicit false

/-!
# Running the clients

At a time all that can happen happens: commands first, then what has become of attempts, then what
has come over a link, then the timers. After that the clock goes on to the next timer.

## Main definitions

* `Messenger.Lab.perform`: carries out what a session does to the world outside.
* `Messenger.Lab.next?`: what can happen next to a client.
* `Messenger.Lab.settle`: lets happen all that can happen without the clock.
* `Messenger.Lab.wait`: lets time pass.
-/

namespace Messenger.Lab

/-! ### Effects -/

/-- The wire of a link of a client. -/
def wireOf? (i link : Nat) (lab : Lab) : Option Nat := do
  let c ← lab.clients[i]?
  c.wires[link]?

/-- Changes the wire of a link of a client. -/
def changeLink (i link : Nat) (f : Transport.Wire → Transport.Wire) (lab : Lab) : Lab :=
  match lab.wireOf? i link with
  | some n => lab.changeWire n f
  | none => lab

/-- Changes a client. -/
def changeClient (i : Nat) (f : Client → Client) (lab : Lab) : Lab :=
  match lab.clients[i]? with
  | some c => lab.setClient i (f c)
  | none => lab

/-- The attempt of a client is given up; a link that has come of it is dropped. -/
def giveUp (i : Nat) (lab : Lab) : Lab :=
  match lab.clients[i]? with
  | none => lab
  | some c =>
    let lab := lab.setClient i { c with attempt := none, answer := none, outcome := .waits }
    let lab := match c.attempt with
      | some name => { lab with connector := lab.connector.abandon name }
      | none => lab
    match c.outcome with
    | .opened n => lab.changeWire n .dropClient
    | _ => lab

/-- Carries out what the session of a client does to the world outside. -/
def perform (i : Nat) (lab : Lab) : Session.Effect → Lab
  | .wrote link e => lab.changeLink i link fun w => (w.transmit e.encode).2
  | .closed link => lab.changeLink i link fun w => w.close.dropClient
  | .asked =>
    let (wait, answer) := lab.supplier.answer lab.questions
    { lab.changeClient i fun c => { c with answer := some (lab.clock + wait, answer) } with
      questions := lab.questions + 1 }
  | .dialed address =>
    let name := lab.connector.attempts.length
    let (outcome, connector) := lab.connector.connect name (lab.clock, address)
    { lab.changeClient i fun c => { c with attempt := some name, outcome := outcome } with
      connector := connector }
  | .abandoned => lab.giveUp i
  | .replied call result =>
    { lab.changeClient i fun c => { c with calls := c.calls.filter (· != call) } with
      done := lab.done ++ [⟨call, lab.clock, result⟩] }
  | .counted .. => lab
  | .told watcher state => { lab with notes := lab.notes ++ [.saw watcher lab.clock state] }
  | .delivered listener e => { lab with notes := lab.notes ++ [.got listener e] }

/-- Carries out a turn of the session of a client. -/
def finish (i : Nat) (t : Session.Turn (Store.Faulty Store.Memory)) (lab : Lab) : Lab :=
  let lab := lab.changeClient i fun c => { c with session := t.session }
  t.outbox.effects.foldl (perform i) { lab with store := t.store }

/-- Lets an event happen to the session of a client. -/
def happen (i : Nat) (event : Session.Event) (lab : Lab) : Lab :=
  match lab.clients[i]? with
  | none => lab
  | some c =>
    let (freshId, lab) := lab.takeId
    lab.finish i (Session.step (lab.moment c freshId) event c.session lab.store)

/-- Lets the session of a client end. -/
def close (i : Nat) (lab : Lab) : Lab :=
  match lab.clients[i]? with
  | none => lab
  | some c =>
    let t := Session.shutDown (lab.moment c "") c.session lab.store
    lab.finish i t |>.changeClient i fun c => { c with ended := true }

/-! ### What can happen -/

/-- What can happen next to a client. -/
inductive Cause
  | obey (c : Session.Command) (rest : List Session.Command)
  | answered (answer : Credential.Answer)
  | opened (wire : Nat)
  | refused (e : Error)
  | expired
  | arrived (wire : Nat) (frame : Transport.Received Transport.Inbound)
  | beat
  | retryDue
  /-- Nobody holds the client any more. -/
  | ends
  deriving Inhabited

/-- What has become of the attempt of a client. -/
def attemptCause? (c : Client) (lab : Lab) (stage : Session.Stage) : Option Cause :=
  match stage with
  | .asking _ =>
    match c.answer with
    | some (time, answer) => if time ≤ lab.clock then some (.answered answer) else none
    | none => none
  | .dialing _ deadline =>
    match c.outcome with
    | .opened wire => some (.opened wire)
    | .failed e => some (.refused e)
    | .waits => if deadline ≤ lab.clock then some .expired else none

/-- What has come over the link of a client. -/
def linkCause? (c : Client) (lab : Lab) (link : Nat) : Option Cause :=
  match c.wires[link]? with
  | none => none
  | some n =>
    match lab.connector.wires[n]? with
    | none => none
    | some (_, wire) =>
      match wire.receive.1 with
      | .pending => none
      | frame => some (.arrived n frame)

/-- What can happen next to a client. -/
def next? (c : Client) (lab : Lab) : Option Cause :=
  if c.ended then none
  else
    match c.mailbox with
    | command :: rest => some (.obey command rest)
    | [] =>
      if !c.held && c.calls.isEmpty then some .ends
      else
        let attempt := c.session.attempt.bind (attemptCause? c lab)
        let link := c.session.link.bind (linkCause? c lab)
        let beat := if c.session.heartbeat.due?.any (· ≤ lab.clock) then some .beat else none
        let retry := if c.session.retryAt.any (· ≤ lab.clock) then some .retryDue else none
        attempt <|> link <|> beat <|> retry

/-- Lets the next thing happen to a client. -/
def cause (i : Nat) (lab : Lab) : Cause → Lab
  | .obey command rest =>
    (lab.changeClient i fun c => { c with mailbox := rest }).happen i (.command command)
  | .answered answer =>
    (lab.changeClient i fun c => { c with answer := none }).happen i (.acquired answer)
  | .opened wire =>
    let lab := lab.changeClient i fun c => { c with attempt := none, wires := c.wires ++ [wire] }
    (lab.happen i .opened).changeClient i fun c => { c with outcome := .waits }
  | .refused e =>
    (lab.changeClient i fun c => { c with attempt := none, outcome := .waits }).happen i (.failed e)
  | .expired => lab.happen i .expired
  | .arrived wire frame =>
    let lab := lab.changeWire wire fun w => w.receive.2
    lab.happen i (match frame with
      | .item (.text text) => .received text
      | _ => .ended)
  | .beat => lab.happen i .beat
  | .retryDue => lab.happen i .retryDue
  | .ends => lab.close i

/-- The first client to which something can happen, and what. -/
def first? (lab : Lab) : Option (Nat × Cause) :=
  lab.clients.zipIdx.findSome? fun (c, i) => (lab.next? c).map fun cause => (i, cause)

/-! ### Running -/

/-- Lets things happen to a client, so many at most. -/
def runWithin (i : Nat) : Nat → Lab → Lab
  | 0, lab => lab
  | n + 1, lab =>
    match lab.clients[i]?.bind lab.next? with
    | some cause => runWithin i n (lab.cause i cause)
    | none => lab

/-- Lets things happen, so many at most. -/
def settleWithin : Nat → Lab → Lab
  | 0, lab => lab
  | n + 1, lab =>
    match lab.first? with
    | some (i, cause) => settleWithin n (lab.cause i cause)
    | none => lab

/-- How many things can happen without the clock. Each command and each client with its timers can
begin one attempt, and an attempt brings at most three things: a credential, a link and its end.
Besides, every frame that is on its way arrives. -/
def bound (lab : Lab) : Nat :=
  let commands := lab.clients.foldl (fun n c => n + c.mailbox.length + 2) 0
  let frames := lab.connector.wires.foldl (fun n w => n + w.2.toClient.items.length) 0
  4 * (commands + 1) + frames

/-- Does what is to be done. A client that gets a command by a call has its turn when all this is
done. -/
def attend (lab : Lab) : Lab :=
  lab.tasks.foldl
    (fun lab task =>
      match task with
      | .call i command =>
        lab.changeClient i fun c => { c with mailbox := c.mailbox ++ [command] }
      | .run i => runWithin i lab.bound lab)
    { lab with tasks := [] }

/-- Lets happen all that can happen without the clock. -/
def settle (lab : Lab) : Lab :=
  let lab := lab.attend
  settleWithin lab.bound lab

/-- The times of the timers of a client. -/
def timers (c : Client) : List Nat :=
  if c.ended then []
  else
    let attempt := match c.session.attempt with
      | some (.asking _) => (c.answer.map Prod.fst).toList
      | some (.dialing _ deadline) => [deadline]
      | none => []
    attempt ++ c.session.heartbeat.due?.toList ++ c.session.retryAt.toList

/-- The next time at which a timer runs out. -/
def nextTimer? (lab : Lab) : Option Nat :=
  ((lab.clients.flatMap timers).filter (lab.clock < ·)).min?

/-- Lets time pass, timer by timer, for at most so many timers. -/
def waitWithin : Nat → Nat → Lab → Lab
  | 0, limit, lab => { lab with clock := limit }
  | n + 1, limit, lab =>
    match lab.nextTimer? with
    | some time =>
      if time ≤ limit then waitWithin n limit { lab with clock := time }.settle
      else { lab with clock := limit }
    | none => { lab with clock := limit }

/-- Lets so many milliseconds pass. Every timer that counts lies ahead of the clock, so there are
not more of them than milliseconds. -/
def wait (ms : Nat) (lab : Lab) : Lab :=
  let lab := lab.settle
  waitWithin ms (lab.clock + ms) lab

end Messenger.Lab
