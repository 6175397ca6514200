import Messenger.Lab.Run

set_option relaxedAutoImplicit false
set_option autoImplicit false

/-!
# Operations in the laboratory

What a user of a client, and whoever looks after the laboratory, can do.

## Main definitions

* `Messenger.Lab.Operation`: the operations.
* `Messenger.Lab.Answer`: what they answer.
* `Messenger.Lab.operate`: carries out an operation. What follows from it happens when the
  laboratory settles.
* `Messenger.Lab.look`: what there is to see since the last look.
-/

namespace Messenger.Lab

/-- What can be done. -/
inductive Operation
  | connect (credential : String)
  | reconnect
  | disconnect
  | wake (reason : Session.WakeReason)
  | send (kind : Kind) (payload : Json.Value)
  | join (room : Room)
  | leave (room : Room)
  /-- Registers a listener. -/
  | listen (kind : Kind)
  /-- Removes a registration, for a kind that may be another one. -/
  | unlisten (listener : Nat) (kind : Option Kind)
  /-- A listener asks no more. -/
  | unsubscribe (listener : Nat)
  /-- Adds a watcher. -/
  | watch
  | unwatch (watcher : Nat)
  /-- Gives up the handle. -/
  | drop
  /-- A new client. -/
  | build
  | sleep (ms : Nat)
  /-- Lays down permits at the gate of the connector. -/
  | permit (n : Nat)
  | refuse (n : Nat)
  /-- Lays down what becomes of further attempts. -/
  | script (answers : List Transport.Answer)
  /-- Sets the switches of the storage that are given. -/
  | switch (read write remove : Option Bool)
  /-- Changes the storage behind the back of the clients. -/
  | put (key : String) (value : Option String)
  /-- What the peer of the given number, or else the last one, does. -/
  | push (peer : Option Nat) (text : String)
  | close (peer : Option Nat) (code : Nat) (reason : String)
  | hangUp (peer : Option Nat)
  | deafen (peer : Option Nat)
  deriving Inhabited

/-- What an operation answers. -/
inductive Answer
  | ok
  /-- A call has been started. -/
  | call (n : Nat)
  | slot (n : Nat)
  | removed (b : Bool)
  | noSlot
  | noClient
  | noPeer
  /-- The peer is gone, or is not one that can do that. -/
  | noEnd
  /-- The client of a wire is gone. -/
  | clientGone
  | failed (e : Error)
  deriving Repr, Inhabited

/-! ### The user -/

/-- Puts a command into the mailbox of a client. -/
def post (i : Nat) (command : Session.Command) (lab : Lab) : Lab :=
  (lab.changeClient i fun c => { c with mailbox := c.mailbox ++ [command] }).rouse i

/-- Starts a call. -/
def startCall (i : Nat) (command : Nat → Session.Command) (lab : Lab) : Answer × Lab :=
  let n := lab.calls
  let lab := lab.changeClient i fun c => { c with calls := c.calls ++ [n] }
  (.call n, { lab with calls := n + 1, tasks := lab.tasks ++ [.call i (command n)] })

/-- Registers a listener. -/
def listen (i : Nat) (c : Client) (kind : Kind) (lab : Lab) : Answer × Lab :=
  let n := lab.listeners.length
  let (id, registry) := c.session.registry.on kind n
  (.slot n,
    { lab.setClient i { c with session := { c.session with registry := registry } } with
      listeners := lab.listeners ++ [⟨i, kind, id⟩] })

/-- Removes a registration at a client. -/
def unlisten (i : Nat) (kind : Kind) (id : Nat) (lab : Lab) : Answer × Lab :=
  match lab.clients[i]? with
  | none => (.noClient, lab)
  | some c =>
    let (removed, registry) := c.session.registry.off kind id
    (.removed removed,
      lab.setClient i { c with session := { c.session with registry := registry } })

/-- Adds a watcher. -/
def watch (i : Nat) (c : Client) (lab : Lab) : Answer × Lab :=
  let n := lab.watchers.length
  let lab := lab.setClient i { c with nextWatch := c.nextWatch + 1 }
  (.slot n,
    { lab.post i (.watch c.nextWatch n) with
      watchers := lab.watchers ++ [⟨i, c.nextWatch⟩] })

/-- What a user does with the client whose handle is held. -/
def operateClient (i : Nat) (c : Client) (op : Operation) (lab : Lab) : Answer × Lab :=
  match op with
  | .connect credential => lab.startCall i (.connect credential)
  | .reconnect => lab.startCall i .reconnect
  | .disconnect => lab.startCall i .disconnect
  | .wake reason => (.ok, lab.post i (.wake reason))
  | .send kind payload =>
    let (id, lab) := lab.takeId
    (.ok, lab.post i (.send ⟨kind, payload, lab.stamp, id⟩))
  | .join room => (.ok, lab.post i (.join room))
  | .leave room => (.ok, lab.post i (.leave room))
  | .listen kind => lab.listen i c kind
  | .unlisten n kind =>
    match lab.listeners[n]? with
    | some l => lab.unlisten i (kind.getD l.kind) l.id
    | none => (.noSlot, lab)
  | .watch => lab.watch i c
  | _ => (.ok, lab)

/-! ### The peers -/

/-- The number of the peer that is meant. -/
def peerNumber (peer : Option Nat) (lab : Lab) : Nat :=
  peer.getD (lab.connector.wires.length - 1)

/-- The peer has not dropped its end. -/
def isThere (wire : Transport.Wire) : Bool :=
  wire.toClient.hasSender

/-- There is something at a wire for the client whose link it is. -/
def rouseAt (n : Nat) (lab : Lab) : Lab :=
  let isOn (c : Client) : Bool := c.session.link.any fun link => c.wires[link]? = some n
  match lab.clients.findIdx? isOn with
  | some i => lab.rouse i
  | none => lab

/-- What a peer does. -/
def operatePeer (n : Nat) (how : Transport.Answer) (wire : Transport.Wire) (op : Operation)
    (lab : Lab) : Answer × Lab :=
  let change (w : Transport.Wire) : Lab := { lab with connector := lab.connector.setWire n w }
  match op with
  | .hangUp _ => (.ok, (change wire.dropPeer).rouseAt n)
  | .push _ text =>
    if isThere wire then
      match wire.push text, how with
      | (.ok _, w), _ => (.ok, (change w).rouseAt n)
      | (.error e, _), .live => (.failed e, lab)
      | (.error _, _), _ => (.clientGone, lab)
    else (.noEnd, lab)
  | .close _ code reason =>
    if isThere wire then (.ok, (change (wire.closePeer code reason)).rouseAt n) else (.noEnd, lab)
  | .deafen _ =>
    if isThere wire && (how = .split || how = .mute) then (.ok, change wire.deafen)
    else (.noEnd, lab)
  | _ => (.ok, lab)

/-! ### Operations -/

/-- Carries out an operation. -/
def operate (op : Operation) (lab : Lab) : Answer × Lab :=
  match op with
  | .sleep ms => (if lab.current.isSome then .ok else .noClient, lab.wait ms)
  | .unsubscribe n =>
    match lab.listeners[n]? with
    | some l => (.ok, (lab.unlisten l.client l.kind l.id).2)
    | none => (.ok, lab)
  | .unwatch n =>
    match lab.watchers[n]? with
    | some w => (.ok, lab.post w.client (.unwatch w.id))
    | none => (.ok, lab)
  | .drop => (.ok, lab.release)
  | .build =>
    match lab.build with
    | .ok lab => (.ok, lab)
    | .error e => (.failed e, lab)
  | .permit n =>
    let (outcomes, connector) := lab.connector.release n
    let outcomeOf (c : Client) : Option Transport.Result :=
      c.attempt.bind fun name => outcomes.lookup name
    let lab : Lab := { lab with
      connector := connector
      clients := lab.clients.map fun c =>
        match outcomeOf c with
        | some outcome => { c with outcome := outcome }
        | none => c }
    let answered := outcomes.filterMap fun (name, _) =>
      lab.clients.findIdx? fun c => c.attempt = some name
    (.ok, answered.foldl (fun lab i => lab.rouse i) lab)
  | .refuse n => (.ok, { lab with connector := lab.connector.refuseNext n })
  | .script answers =>
    (.ok, { lab with
      connector := { lab.connector with script := lab.connector.script ++ answers } })
  | .switch read write remove =>
    (.ok, { lab with
      store := { lab.store with
        failsRead := read.getD lab.store.failsRead
        failsWrite := write.getD lab.store.failsWrite
        failsRemove := remove.getD lab.store.failsRemove } })
  | .put key value =>
    let inner := match value with
      | some v => lab.store.inner.put key v
      | none => lab.store.inner.erase key
    (.ok, { lab with store := { lab.store with inner := inner } })
  | .push peer _ | .close peer _ _ | .hangUp peer | .deafen peer =>
    let n := lab.peerNumber peer
    match lab.connector.wires[n]? with
    | some (how, wire) => lab.operatePeer n how wire op
    | none => (.noPeer, lab)
  | op =>
    match lab.current with
    | none => (.noClient, lab)
    | some i =>
      match lab.clients[i]? with
      | none => (.noClient, lab)
      | some c => lab.operateClient i c op

/-! ### Looking -/

/-- What was there at the last look. -/
structure Seen where
  attempts : Nat := 0
  /-- The peers whose clients were gone. -/
  gone : List Nat := []
  store : Store.Memory
  deriving Inhabited

/-- What a peer has received, and whether its client is gone. -/
structure PeerView where
  peer : Nat
  frames : List Transport.Outbound
  clientGone : Bool
  deriving Repr, Inhabited

/-- What there is to see. -/
structure View where
  attempts : List (Nat × Address)
  done : List Done
  peers : List PeerView
  notes : List Note
  /-- The storage, if it is not as it was. -/
  store : Option Store.Memory
  deriving Inhabited

/-- What there is to see at a peer that reads. -/
def viewPeer (seen : Seen) (n : Nat) (wire : Transport.Wire) : Option PeerView :=
  let view : PeerView := ⟨n, wire.unread, wire.isClientGone.1⟩
  if !wire.toPeer.hasReceiver then none
  else if view.frames.isEmpty && (!view.clientGone || seen.gone.contains n) then none
  else some view

/-- The same texts are under the same keys. -/
def sameStore (a b : Store.Memory) : Bool :=
  a.entries.length = b.entries.length && a.entries.all fun e => b.get? e.1 = some e.2

/-- What there is to see since the last look. -/
def look (seen : Seen) (lab : Lab) : View × Seen × Lab :=
  let peers := lab.connector.wires.zipIdx.filterMap fun (w, n) => viewPeer seen n w.2
  let view : View :=
    { attempts := lab.connector.attempts.drop seen.attempts
      done := lab.done.mergeSort fun a b => a.call ≤ b.call
      peers := peers
      notes := lab.notes
      store := if sameStore lab.store.inner seen.store then none else some lab.store.inner }
  let seen : Seen :=
    { attempts := lab.connector.attempts.length
      gone := seen.gone ++ (peers.filter (·.clientGone)).map (·.peer)
      store := lab.store.inner }
  let connector := { lab.connector with
    wires := lab.connector.wires.map fun (how, w) => (how, w.drain.2) }
  (view, seen, { lab with connector := connector, notes := [], done := [] })

end Messenger.Lab
