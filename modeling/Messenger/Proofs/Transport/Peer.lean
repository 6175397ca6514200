import Mathlib.Tactic.Lemma
import Messenger.Transport.Wire

set_option relaxedAutoImplicit false
set_option autoImplicit false

/-!
# What the peer of a wire reads

A frame from the client waits in the pipe, or it has been set aside when the peer looked whether the
client is gone. The peer may read one frame or all that are there, and may look, at any time between
what the client does. Whatever the order of all this, it reads what the client has sent, and the
frames keep their order because those set aside are read first.

## Main definitions

* `Messenger.Transport.Wire.Act`: what the two sides of a wire do.
* `Messenger.Transport.Wire.play`: acts in a row, with what they gave.
* `Messenger.Transport.Wire.sent`: the frames that the client sends in the course of acts.
* `Messenger.Transport.Wire.read`: the frames that the peer read.

## Main results

* `Messenger.Transport.Wire.does_perform`: no act loses or repeats a frame, or moves it ahead.
* `Messenger.Transport.Wire.read_append_unread`: so what was read and what is unread is what was
  sent.
* `Messenger.Transport.Wire.reads_in_order`: this, with what looking and the end of the frames say.

## Design

Nobody acts for a client that has dropped its end. So an act of the client that comes after that
does nothing, and sends nothing.
-/

namespace Messenger.Transport.Wire

/-! ### Acts -/

/-- What the two sides of a wire do, one at a time. -/
inductive Act
  /-- The client writes a text. -/
  | transmit (text : String)
  /-- The client asks to close the connection. -/
  | close
  /-- The client reads a frame. -/
  | receive
  /-- The client drops its end. -/
  | drop
  /-- The peer pushes a text to the client. -/
  | push (text : String)
  /-- The peer closes the connection and says why. -/
  | shut (code : Nat) (reason : String)
  /-- The peer reads all frames that are there. -/
  | drain
  /-- The peer reads the next frame. -/
  | nextFrame
  /-- The peer looks whether the client is gone. -/
  | isClientGone
  deriving DecidableEq, Repr, Inhabited

/-- What an act gave to the side that did it. -/
inductive Reply
  | nothing
  /-- A text was handed to the wire, or could not be. -/
  | handed (result : Except Error Unit)
  | received (frame : Received Inbound)
  | drained (frames : List Outbound)
  | next (frame : Received Outbound)
  | gone (b : Bool)
  deriving Repr, Inhabited

/-- The client does something, unless it has dropped its end. -/
def ofClient (act : Wire → Reply × Wire) (w : Wire) : Reply × Wire :=
  if w.toPeer.hasSender then act w else (.nothing, w)

/-- Does an act. -/
def Act.perform (act : Act) (w : Wire) : Reply × Wire :=
  match act with
  | .transmit text => ofClient (fun w => (.handed (w.transmit text).1, (w.transmit text).2)) w
  | .close => ofClient (fun w => (.nothing, w.close)) w
  | .receive => ofClient (fun w => (.received w.receive.1, w.receive.2)) w
  | .drop => ofClient (fun w => (.nothing, w.dropClient)) w
  | .push text => (.handed (w.push text).1, (w.push text).2)
  | .shut code reason => (.nothing, w.closePeer code reason)
  | .drain => (.drained w.drain.1, w.drain.2)
  | .nextFrame => (.next w.nextFrame.1, w.nextFrame.2)
  | .isClientGone => (.gone w.isClientGone.1, w.isClientGone.2)

/-- Acts in a row. -/
def play : List Act → Wire → List Reply × Wire
  | [], w => ([], w)
  | act :: rest, w =>
    let (reply, w) := act.perform w
    let (replies, w) := play rest w
    (reply :: replies, w)

/-! ### Frames -/

/-- The frame that an act of the client sends. -/
def Act.frame? : Act → Option Outbound
  | .transmit text => some (.text text)
  | .close => some .close
  | _ => none

/-- The frames that the client sends in the course of acts. After it has dropped its end it sends no
more. -/
def sent : List Act → List Outbound
  | [] => []
  | .drop :: _ => []
  | act :: rest => act.frame?.toList ++ sent rest

/-- The frames that a reply gave to the peer. -/
def Reply.frames : Reply → List Outbound
  | .drained frames => frames
  | .next (.item frame) => [frame]
  | _ => []

/-- The frames that replies gave to the peer. -/
def read (replies : List Reply) : List Outbound :=
  replies.flatMap Reply.frames

/-! ### One act -/

/-- A peer with unread frames reads the first of them next.

**Proof sketch.** The first frame has been set aside, or nothing has and it is the first in the
pipe. -/
lemma nextFrame_of_cons {w : Wire} {frame : Outbound} {rest : List Outbound}
    (h : w.unread = frame :: rest) :
    w.nextFrame.1 = .item frame ∧ w.nextFrame.2.unread = rest ∧
      w.nextFrame.2.toPeer.hasSender = w.toPeer.hasSender ∧
      w.nextFrame.2.toPeer.hasReceiver = w.toPeer.hasReceiver := by
  obtain ⟨⟨items, hasSender, hasReceiver⟩, toClient, aside⟩ := w
  cases aside with
  | cons first others =>
    obtain ⟨rfl, rfl⟩ := List.cons.inj h
    exact ⟨rfl, rfl, rfl, rfl⟩
  | nil =>
    -- Nothing has been set aside, so the pipe is asked.
    obtain rfl : items = frame :: rest := h
    exact ⟨rfl, rfl, rfl, rfl⟩

/-- A peer without unread frames waits for the next one, or learns that none will come. -/
lemma nextFrame_of_nil {w : Wire} (h : w.unread = []) :
    w.nextFrame = (if w.toPeer.hasSender then .pending else .ended, w) := by
  obtain ⟨⟨items, hasSender, hasReceiver⟩, toClient, aside⟩ := w
  obtain ⟨rfl, rfl⟩ := List.append_eq_nil_iff.1 h
  rfl

/-- A peer that asks for the next frame learns that none will come exactly if all are read and the
client is gone, and has to wait exactly if all are read and the client is there. -/
lemma nextFrame_eq_iff (w : Wire) :
    (w.nextFrame.1 = .ended ↔ w.unread = [] ∧ w.toPeer.hasSender = false) ∧
      (w.nextFrame.1 = .pending ↔ w.unread = [] ∧ w.toPeer.hasSender = true) := by
  cases hunread : w.unread with
  | nil =>
    rw [nextFrame_of_nil hunread]
    cases w.toPeer.hasSender <;> simp
  | cons frame rest => simp [(nextFrame_of_cons hunread).1]

/-- What an act makes of the frames to the peer, if the peer has its end: those that it read and
those that are left are the ones that were there, with the one that the act sends behind them. Only
a client that drops its end is gone, and what is handed to the peer arrives. -/
structure Does (act : Act) (w : Wire) : Prop where
  hasReceiver : (act.perform w).2.toPeer.hasReceiver = true
  hasSender : (act.perform w).2.toPeer.hasSender = (w.toPeer.hasSender && act ≠ .drop)
  frames : (act.perform w).1.frames ++ (act.perform w).2.unread =
    w.unread ++ if w.toPeer.hasSender then act.frame?.toList else []

/-- A client that is gone does nothing. -/
lemma does_of_gone {act : Act} {w : Wire} (h : w.toPeer.hasReceiver = true)
    (hgone : w.toPeer.hasSender = false) (hact : act.perform w = (.nothing, w)) : Does act w := by
  refine ⟨?_, ?_, ?_⟩ <;> rw [hact]
  · exact h
  · rw [hgone, Bool.false_and]
  · simp [Reply.frames, hgone]

/-- **One act.** No act loses or repeats a frame, or moves it ahead of another one.

**Proof sketch.** One case for each act. Those of the client do nothing once it has dropped its end;
before that a text goes to the end of the pipe. Of those of the peer only two read, and they read at
the front. -/
lemma does_perform {w : Wire} (h : w.toPeer.hasReceiver = true) (act : Act) : Does act w := by
  cases act with
  | push text | shut code reason =>
    exact ⟨h, (Bool.and_true _).symm, by simp [Act.perform, Act.frame?, Reply.frames, unread, push,
      closePeer]⟩
  | drain =>
    exact ⟨h, (Bool.and_true _).symm, by simp [Act.perform, Act.frame?, Reply.frames, drain, unread,
      Pipe.drain]⟩
  | isClientGone =>
    exact ⟨h, (Bool.and_true _).symm, by simp [Act.perform, Act.frame?, Reply.frames,
      unread_isClientGone]⟩
  | nextFrame =>
    cases hunread : w.unread with
    | nil =>
      have hnext := nextFrame_of_nil hunread
      refine ⟨?_, ?_, ?_⟩ <;> simp only [Act.perform, hnext]
      · exact h
      · exact (Bool.and_true _).symm
      · cases w.toPeer.hasSender <;> simp [Act.frame?, Reply.frames, hunread]
    | cons frame rest =>
      obtain ⟨hframe, hrest, hsender, hreceiver⟩ := nextFrame_of_cons hunread
      refine ⟨hreceiver.trans h, hsender.trans (Bool.and_true _).symm, ?_⟩
      simp [Act.perform, Act.frame?, Reply.frames, hframe, hrest, hunread]
  | transmit text | close | receive | drop =>
    cases hsender : w.toPeer.hasSender with
    | false => exact does_of_gone h hsender (by simp [Act.perform, ofClient, hsender])
    | true =>
      refine ⟨?_, ?_, ?_⟩ <;> rw [Act.perform, ofClient, if_pos hsender]
      all_goals simp [transmit, close, receive, dropClient, Pipe.send, Pipe.dropSender, h, hsender,
        Act.frame?, Reply.frames, unread]

/-! ### Acts in a row -/

/-- What the client sends by an act and those after it. -/
lemma sent_cons (act : Act) (rest : List Act) :
    sent (act :: rest) = if act = .drop then [] else act.frame?.toList ++ sent rest := by
  cases act <;> rfl

/-- Nothing is sent after the client has dropped its end. -/
lemma sent_append_of_mem {acts : List Act} (h : .drop ∈ acts) (more : List Act) :
    sent (acts ++ more) = sent acts := by
  induction acts with
  | nil => cases h
  | cons act rest ih =>
    rw [List.cons_append, sent_cons, sent_cons]
    split
    · rfl
    · next hne => rw [ih ((List.mem_cons.1 h).resolve_left (Ne.symm hne))]

/-- **Acts in a row.** What the peer has read in the course of acts and what it has not are what it
had not read before, and behind that what the client has sent.

**Proof sketch.** Induction on the acts. What the first act leaves unread comes ahead of all that is
sent later, and if the first act drops the end of the client nothing is. -/
lemma read_append_unread {w : Wire} (h : w.toPeer.hasReceiver = true) (acts : List Act) :
    read (play acts w).1 ++ (play acts w).2.unread =
        w.unread ++ (if w.toPeer.hasSender then sent acts else []) ∧
      (play acts w).2.toPeer.hasReceiver = true ∧
      (play acts w).2.toPeer.hasSender = (w.toPeer.hasSender && .drop ∉ acts) := by
  induction acts generalizing w with
  | nil => simp [play, read, sent, h]
  | cons act rest ih =>
    obtain ⟨hreceiver, hsender, hframes⟩ := does_perform h act
    obtain ⟨hread, hreceiver', hsender'⟩ := ih hreceiver
    refine ⟨?_, hreceiver', ?_⟩
    · show (act.perform w).1.frames ++ read (play rest (act.perform w).2).1 ++ _ = _
      rw [List.append_assoc]
      refine (congrArg ((act.perform w).1.frames ++ ·) hread).trans ?_
      rw [← List.append_assoc, hframes, hsender, sent_cons]
      cases w.toPeer.hasSender <;> by_cases hdrop : act = .drop <;> simp [hdrop, Act.frame?]
    · refine hsender'.trans ?_
      rw [hsender]
      cases w.toPeer.hasSender <;> simp [eq_comm]

/-- **The peer reads what the client sends, in its order.** Whatever a client and the peer of its
wire do, and in whatever order, as long as the peer keeps its end: the frames that the peer has
read, and behind them those that it would read now at once, are the frames that the client has sent,
in their order. A text that the client hands to the wire is taken. The peer can tell whether the
client has dropped its end, and is left with the same frames when it has looked. If it asks for the
next frame, it learns that none will come exactly when the client is gone and all is read that was
or will ever be sent; and it has to wait exactly when all is read and the client is there.

**Proof sketch.** At first nothing is unread, so that what was read and what is unread are what was
sent (`read_append_unread`). To drain reads all that is unread, and to look whether the client is
gone only moves it. For the next frame there are two ways to find none, told apart by whether the
client is there (`nextFrame_eq_iff`); after it is gone nothing more will be sent. -/
theorem reads_in_order (acts : List Act) :
    let replies := (play acts .fresh).1
    let w := (play acts .fresh).2
    read replies ++ w.drain.1 = sent acts ∧
      (.drop ∉ acts → ∀ text, (w.transmit text).1 = .ok ()) ∧
      (w.isClientGone.1 = true ↔ .drop ∈ acts) ∧ w.isClientGone.2.drain.1 = w.drain.1 ∧
      (w.nextFrame.1 = .ended ↔ .drop ∈ acts ∧ ∀ more, read replies = sent (acts ++ more)) ∧
      (w.nextFrame.1 = .pending ↔ .drop ∉ acts ∧ read replies = sent acts) := by
  intro replies w
  obtain ⟨hread, hreceiver, hsender⟩ : read replies ++ w.unread = sent acts ∧
      w.toPeer.hasReceiver = true ∧ w.toPeer.hasSender = decide (.drop ∉ acts) :=
    read_append_unread (w := .fresh) rfl acts
  have hgone : w.toPeer.hasSender = false ↔ .drop ∈ acts := by simp [hsender]
  have hthere : w.toPeer.hasSender = true ↔ .drop ∉ acts := by simp [hsender]
  have hall : w.unread = [] ↔ read replies = sent acts := by
    rw [← hread, List.self_eq_append_right]
  obtain ⟨hended, hpending⟩ := nextFrame_eq_iff w
  refine ⟨hread, fun _ text => ?_, ?_, unread_isClientGone w, ?_, ?_⟩
  · simp [transmit, Pipe.send, hreceiver]
  · rw [← hgone]
    simp [isClientGone]
  · rw [hended, hgone, hall, and_comm]
    refine and_congr_right fun hdrop => ⟨fun h more => ?_, fun h => ?_⟩
    · rw [sent_append_of_mem hdrop, h]
    · rw [h [], List.append_nil]
  · rw [hpending, hthere, hall, and_comm]

/-- The client sends two texts, between which the peer looks, and goes. The peer reads the first
text, which had been set aside, then the second one, and then learns that none will come. -/
example :
    read (play [.transmit "a", .isClientGone, .transmit "b", .drop, .nextFrame, .drain,
      .nextFrame] .fresh).1 = [.text "a", .text "b"] := rfl

end Messenger.Transport.Wire
