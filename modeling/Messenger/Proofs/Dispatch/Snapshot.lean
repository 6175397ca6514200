import Mathlib.Tactic.Lemma
import Messenger.Proofs.Dispatch.Roll

set_option relaxedAutoImplicit false
set_option autoImplicit false

/-!
# Listeners that act on their registry

A listener is code of somebody else, and while it is called it may do anything to the registry that
it was called from: register listeners, remove them, itself among them, clear the registry, or
dispatch further envelopes, whose listeners may do the same. It may break down after any of that.
Such code is written down here step by step, as a script, so that all that a delivery does can be
told from it.

## Main definitions

* `Messenger.Dispatch.Script`: what a listener does.
* `Messenger.Dispatch.Script.play`: what becomes of the registry when it does so.
* `Messenger.Dispatch.deliver`: the delivery of an envelope, with a record of the calls.
* `Messenger.Dispatch.playAll`: scripts that are played one after the other.

## Main results

* `Messenger.Dispatch.deliver_eq`: a delivery plays the scripts of those who are registered for the
  kind at its start.
* `Messenger.Dispatch.replay_deliver`: a delivery does to the registry what the listeners do.
* `Messenger.Dispatch.delivers_snapshot`: both for every registry that can be reached.

## Design

Scripts that dispatch envelopes to each other need not come to an end. So envelopes are dispatched
by listeners to a bounded depth; an envelope beyond it reaches nobody, which is noted. As long as
that has not happened the bound does not matter (`Messenger.Dispatch.deliver_of_within`).
-/

namespace Messenger.Dispatch

open Registry (Action replay Roll)

/-- What a listener does, one thing after the other. What comes next may depend on the answer of the
registry, and on a memory that all listeners share. -/
inductive Script (μ : Type)
  | finish
  | panic
  /-- Looks into the memory. -/
  | consult (next : μ → Script μ)
  | remember (memory : μ) (next : Script μ)
  /-- Registers a listener, which will be called with a payload and the whole envelope. -/
  | on (kind : Kind) (listener : Json.Value → Envelope → Script μ) (next : Nat → Script μ)
  | off (kind : Kind) (id : Nat) (next : Bool → Script μ)
  | clear (next : Script μ)
  | count (kind : Kind) (next : Nat → Script μ)
  /-- Dispatches a further envelope. -/
  | dispatch (e : Envelope) (next : Nat → Script μ)

variable {μ : Type}

/-- The code of a listener. -/
abbrev Code (μ : Type) := Json.Value → Envelope → Script μ

/-- All that listeners can act on. -/
structure World (μ : Type) where
  /-- The registry, in which each listener stands with its number. -/
  registry : Registry (Nat × Code μ)
  memory : μ
  /-- An envelope was dispatched beyond the depth to which envelopes are delivered. -/
  exceeded : Bool

/-- The call of a listener. -/
structure Call (μ : Type) where
  /-- The number of its registration. -/
  id : Nat
  payload : Json.Value
  envelope : Envelope
  outcome : Outcome
  /-- What was done to the registry in the course of the call, by the listener itself and by those
  whom its envelopes reached. -/
  actions : List (Action (Code μ))

/-- What has become of an envelope. -/
structure Delivery (μ : Type) where
  /-- How many listeners returned. -/
  delivered : Nat
  calls : List (Call μ)
  world : World μ

/-- What was done to the registry in the course of calls, in their order. -/
def actionsOf (calls : List (Call μ)) : List (Action (Code μ)) :=
  calls.flatMap Call.actions

/-- What becomes of the world when a listener does what its script says, envelopes being delivered
in a given way: how it ends, and all that is done to the registry. -/
def Script.play (deliver : Envelope → World μ → Delivery μ) :
    Script μ → World μ → Outcome × List (Action (Code μ)) × World μ
  | .finish, w => (.returned, [], w)
  | .panic, w => (.panicked, [], w)
  | .consult next, w => (next w.memory).play deliver w
  | .remember memory next, w => next.play deliver { w with memory := memory }
  | .on kind listener next, w =>
    let (id, registry) := w.registry.on kind (w.registry.nextId, listener)
    let (outcome, actions, w) := (next id).play deliver { w with registry := registry }
    (outcome, .on kind listener :: actions, w)
  | .off kind id next, w =>
    let (removed, registry) := w.registry.off kind id
    let (outcome, actions, w) := (next removed).play deliver { w with registry := registry }
    (outcome, .off kind id :: actions, w)
  | .clear next, w =>
    let (outcome, actions, w) := next.play deliver { w with registry := w.registry.clear }
    (outcome, .clear :: actions, w)
  | .count kind next, w => (next (w.registry.count kind)).play deliver w
  | .dispatch e next, w =>
    let d := deliver e w
    let (outcome, actions, w) := (next d.delivered).play deliver d.world
    (outcome, actionsOf d.calls ++ actions, w)

/-- Calls a listener, and takes a note of the call. -/
def call (deliver : Envelope → World μ → Delivery μ) (listener : Nat × Code μ) (e : Envelope)
    (s : List (Call μ) × World μ) : Outcome × List (Call μ) × World μ :=
  let (outcome, actions, w) := (listener.2 e.payload e).play deliver s.2
  (outcome, s.1 ++ [⟨listener.1, e.payload, e, outcome, actions⟩], w)

/-- Delivers an envelope by the registry as it is. Listeners dispatch further envelopes, to a depth
of less than `depth`. -/
def deliver : Nat → Envelope → World μ → Delivery μ
  | 0, _, w => ⟨0, [], { w with exceeded := true }⟩
  | depth + 1, e, w =>
    let (delivered, calls, w) := w.registry.dispatch (call (deliver depth)) e ([], w)
    ⟨delivered, calls, w⟩

/-- Plays the scripts of listeners one after the other, each in the world that the one before has
left. -/
def playAll (deliver : Envelope → World μ → Delivery μ) (e : Envelope) :
    List (Nat × Code μ) → World μ → List (Call μ) × World μ
  | [], w => ([], w)
  | listener :: rest, w =>
    let (outcome, actions, w) := (listener.2 e.payload e).play deliver w
    let (calls, w) := playAll deliver e rest w
    (⟨listener.1, e.payload, e, outcome, actions⟩ :: calls, w)

/-! ### Who is called -/

variable (send : Envelope → World μ → Delivery μ)

/-- To call listeners is to play their scripts, and to count those that return. -/
lemma callAll_call (e : Envelope) (listeners : List (Nat × Code μ)) (calls : List (Call μ))
    (w : World μ) :
    callAll (fun l => call send l e) listeners (calls, w) =
      (((playAll send e listeners w).1.filter (·.outcome = .returned)).length,
        calls ++ (playAll send e listeners w).1, (playAll send e listeners w).2) := by
  induction listeners generalizing calls w with
  | nil => simp [callAll, playAll]
  | cons l rest ih =>
    simp only [callAll, call, playAll, ih]
    cases ((l.2 e.payload e).play send w).1 with
    | returned => simp [Outcome.count, Nat.add_comm]
    | panicked => simp [Outcome.count]

/-- Whose scripts are played, and with what. -/
lemma map_playAll (e : Envelope) (listeners : List (Nat × Code μ)) (w : World μ) :
    (playAll send e listeners w).1.map (fun c => (c.id, c.payload, c.envelope)) =
      listeners.map fun l => (l.1, e.payload, e) := by
  induction listeners generalizing w with
  | nil => rfl
  | cons l rest ih => exact congrArg (_ :: ·) (ih _)

/-- **Who is called is settled as a delivery begins.** A delivery plays the scripts of all who are
registered for the kind at its start. -/
lemma deliver_eq (depth : Nat) (e : Envelope) (w : World μ) :
    deliver (depth + 1) e w =
      ⟨((playAll (deliver depth) e (w.registry.audience e) w).1.filter
          (·.outcome = .returned)).length,
        (playAll (deliver depth) e (w.registry.audience e) w).1,
        (playAll (deliver depth) e (w.registry.audience e) w).2⟩ := by
  simp only [deliver, Registry.dispatch, callAll_call, List.nil_append]

/-- An envelope is for those on the roll who are registered for its kind. -/
lemma audience_replay (actions : List (Action (Code μ))) {e : Envelope} (h : e.kind ≠ .pong) :
    (replay actions .empty).audience e =
      ((Roll.of actions).forKind e.kind).map fun x => (x.id, x.listener) := by
  rw [Registry.audience, if_neg h, (Registry.agrees_replay actions).listeners, List.map_map]
  rfl

/-! ### What is done to the registry -/

/-- A delivery does to the registry what is done in the course of its calls. -/
def Accounts (send : Envelope → World μ → Delivery μ) : Prop :=
  ∀ e w, (send e w).world.registry = replay (actionsOf (send e w).calls) w.registry

variable {send}

/-- A script does to the registry what it says.

**Proof sketch.** Induction on the script. What comes first is done to the registry, and the rest to
what is then left; for an envelope that is dispatched it is the hypothesis on `send` that tells what
is done. -/
lemma registry_play (h : Accounts send) (script : Script μ) (w : World μ) :
    (script.play send w).2.2.registry = replay (script.play send w).2.1 w.registry := by
  induction script generalizing w with
  | finish => rfl
  | panic => rfl
  | consult next ih => exact ih w.memory w
  | remember memory next ih => exact ih { w with memory := memory }
  | on kind listener next _ ih => exact ih _ { w with registry := _ }
  | off kind id next ih => exact ih _ { w with registry := _ }
  | clear next ih => exact ih { w with registry := _ }
  | count kind next ih => exact ih _ w
  | dispatch e next ih =>
    refine (ih (send e w).delivered (send e w).world).trans ?_
    rw [h e w, ← Registry.replay_append]
    rfl

/-- Scripts in a row do to the registry what they say, in their order. -/
lemma registry_playAll (h : Accounts send) (e : Envelope) (listeners : List (Nat × Code μ))
    (w : World μ) :
    (playAll send e listeners w).2.registry =
      replay (actionsOf (playAll send e listeners w).1) w.registry := by
  induction listeners generalizing w with
  | nil => rfl
  | cons l rest ih =>
    refine (ih _).trans ?_
    rw [registry_play h, ← Registry.replay_append]
    rfl

/-- **A delivery accounts for what it does to the registry.** It does what the listeners do, and
those whom their envelopes reach.

**Proof sketch.** Induction on the depth, since the listeners of an envelope dispatch at a depth
that is one less. -/
lemma replay_deliver (depth : Nat) : Accounts (deliver (μ := μ) depth) := by
  induction depth with
  | zero => exact fun _ _ => rfl
  | succ depth ih =>
    intro e w
    rw [deliver_eq]
    exact registry_playAll ih e _ w

/-! ### The depth -/

/-- That the depth has been exceeded is never forgotten. -/
def Remembers (send : Envelope → World μ → Delivery μ) : Prop :=
  ∀ e w, w.exceeded → (send e w).world.exceeded

/-- That the depth has been exceeded is not forgotten by a script.

**Proof sketch.** Induction on the script. No step of it forgets, and neither does `send`. -/
lemma exceeded_play (h : Remembers send) (script : Script μ) (w : World μ) (hw : w.exceeded) :
    (script.play send w).2.2.exceeded := by
  induction script generalizing w with
  | finish => exact hw
  | panic => exact hw
  | consult next ih => exact ih w.memory w hw
  | remember memory next ih => exact ih { w with memory := memory } hw
  | on kind listener next _ ih => exact ih _ { w with registry := _ } hw
  | off kind id next ih => exact ih _ { w with registry := _ } hw
  | clear next ih => exact ih { w with registry := _ } hw
  | count kind next ih => exact ih _ w hw
  | dispatch e next ih => exact ih _ _ (h e w hw)

/-- That the depth has been exceeded is not forgotten by scripts in a row. -/
lemma exceeded_playAll (h : Remembers send) (e : Envelope) (listeners : List (Nat × Code μ))
    (w : World μ) (hw : w.exceeded) : (playAll send e listeners w).2.exceeded := by
  induction listeners generalizing w with
  | nil => exact hw
  | cons l rest ih => exact ih _ (exceeded_play h _ w hw)

/-- That the depth has been exceeded is not forgotten by a delivery. -/
lemma remembers_deliver (depth : Nat) : Remembers (deliver (μ := μ) depth) := by
  induction depth with
  | zero => exact fun _ _ _ => rfl
  | succ depth ih =>
    intro e w hw
    rw [deliver_eq]
    exact exceeded_playAll ih e _ w hw

/-- One way to deliver envelopes agrees with another one wherever it stays within its depth. -/
def Within (send send' : Envelope → World μ → Delivery μ) : Prop :=
  ∀ e w, (send e w).world.exceeded = false → send' e w = send e w

variable {send' : Envelope → World μ → Delivery μ}

/-- A script that stays within the depth does the same if the depth is greater.

**Proof sketch.** Induction on the script. Only an envelope that is dispatched could make a
difference, and it does not if it stays within the depth, which it does, since the end of the script
would tell so if not. -/
lemma play_congr (hr : Remembers send) (h : Within send send') (script : Script μ) (w : World μ)
    (hw : (script.play send w).2.2.exceeded = false) :
    script.play send' w = script.play send w := by
  induction script generalizing w with
  | finish => rfl
  | panic => rfl
  | consult next ih => exact ih w.memory w hw
  | remember memory next ih => exact ih { w with memory := memory } hw
  | on kind listener next _ ih =>
    have hnext := ih (w.registry.on kind (w.registry.nextId, listener)).1
      { w with registry := (w.registry.on kind (w.registry.nextId, listener)).2 } hw
    simp only [Script.play, hnext]
  | off kind id next ih =>
    have hnext := ih (w.registry.off kind id).1
      { w with registry := (w.registry.off kind id).2 } hw
    simp only [Script.play, hnext]
  | clear next ih =>
    simp only [Script.play, ih _ hw]
  | count kind next ih => exact ih _ w hw
  | dispatch e next ih =>
    -- If the envelope had gone beyond the depth, the end of the script would still tell so.
    have hsend : (send e w).world.exceeded = false := by
      rw [← Bool.not_eq_true]
      intro hexceeded
      have hend := exceeded_play hr (next (send e w).delivered) _ hexceeded
      exact Bool.false_ne_true (hw.symm.trans hend)
    simp only [Script.play, h e w hsend, ih _ _ hw]

/-- Scripts in a row that stay within the depth do the same if the depth is greater.

**Proof sketch.** Induction on the listeners, by `play_congr`. If the first one had gone beyond the
depth, that would not have been forgotten by the last one. -/
lemma playAll_congr (hr : Remembers send) (h : Within send send') (e : Envelope)
    (listeners : List (Nat × Code μ)) (w : World μ)
    (hw : (playAll send e listeners w).2.exceeded = false) :
    playAll send' e listeners w = playAll send e listeners w := by
  induction listeners generalizing w with
  | nil => rfl
  | cons l rest ih =>
    have hfirst : ((l.2 e.payload e).play send w).2.2.exceeded = false := by
      rw [← Bool.not_eq_true]
      intro hexceeded
      have hend := exceeded_playAll hr e rest _ hexceeded
      exact Bool.false_ne_true (hw.symm.trans hend)
    simp only [playAll, play_congr hr h _ w hfirst, ih _ hw]

/-- **The bound of the depth does not matter until it is reached.** A delivery that stays within its
depth is the same for every greater depth.

**Proof sketch.** Induction on the depth, by `playAll_congr`. -/
lemma deliver_of_within (depth more : Nat) :
    Within (deliver (μ := μ) depth) (deliver (depth + more)) := by
  induction depth with
  | zero => exact fun _ _ hw => absurd hw (by simp [deliver])
  | succ depth ih =>
    intro e w hw
    rw [deliver_eq] at hw
    have hsame := playAll_congr (remembers_deliver depth) ih e _ w hw
    rw [Nat.succ_add, deliver_eq, deliver_eq, hsame]

/-! ### Deliveries by a registry that can be reached -/

/-- **A delivery reaches those who were registered as it began.** An envelope that is no answer to a
ping is delivered by a registry that has been reached by any actions. Whatever the listeners do to
the registry meanwhile, and whichever of them break down: those who are registered for the kind of
the envelope at the start are called with it and its payload, each once, in the order of their
registrations, each in the world that the one before has left. The number of those who returned is
given back, and the registry is as if all had been done to it that the listeners did, in the order
in which they were called. How deep envelopes may be dispatched by listeners makes no difference as
long as it has not been exceeded.

**Proof sketch.** The audience is taken once, and is what the roll holds for the kind
(`audience_replay`), so the scripts are played of those and no others (`deliver_eq`). Their numbers
ascend as all in the roll do. What becomes of the registry is `replay_deliver`, and what a greater
depth does is `deliver_of_within`. -/
theorem delivers_snapshot (past : List (Action (Code μ))) (memory : μ) (depth : Nat) {e : Envelope}
    (h : e.kind ≠ .pong) :
    let w : World μ := ⟨replay past .empty, memory, false⟩
    let registered := (Roll.of past).forKind e.kind
    let d := deliver (depth + 1) e w
    (d.calls, d.world) =
        playAll (deliver depth) e (registered.map fun x => (x.id, x.listener)) w ∧
      d.calls.map (fun c => (c.id, c.payload, c.envelope)) =
        registered.map (fun x => (x.id, e.payload, e)) ∧
      (d.calls.map (·.id)).Pairwise (· < ·) ∧
      d.delivered = (d.calls.filter (·.outcome = .returned)).length ∧
      d.world.registry = replay (past ++ actionsOf d.calls) .empty ∧
      (d.world.exceeded = false → ∀ more, deliver (depth + 1 + more) e w = d) := by
  intro w registered d
  have hd := deliver_eq depth e w
  rw [audience_replay past h] at hd
  have hcalls : d.calls.map (fun c => (c.id, c.payload, c.envelope)) =
      registered.map (fun x => (x.id, e.payload, e)) := by
    rw [show d = _ from hd]
    refine (map_playAll _ e _ w).trans ?_
    rw [List.map_map]
    rfl
  have hids : d.calls.map (·.id) = registered.map (·.id) := by
    have hfirst := congrArg (List.map Prod.fst) hcalls
    rwa [List.map_map, List.map_map] at hfirst
  refine ⟨?_, hcalls, ?_, ?_, ?_, fun hwithin more => deliver_of_within _ more e w hwithin⟩
  · rw [show d = _ from hd]
  · rw [hids]
    exact (Roll.ascending_of past).entries.sublist (List.filter_sublist.map _)
  · rw [show d = _ from hd]
  · rw [Registry.replay_append]
    exact replay_deliver (depth + 1) e w

namespace Sample

/-- An envelope without a payload. -/
def envelope (kind : Kind) : Envelope := ⟨kind, .null, ⟨⟨1970, 1, 1⟩, 0, 0, 0, 0⟩, ""⟩

/-- Of three listeners for messages the first dispatches a further envelope, which makes its
listener register another one, and the second clears the registry, registers one more and breaks
down. -/
def past : List (Action (Code Unit)) :=
  [.on .newMessage fun _ _ => .dispatch (envelope .userTyping) fun _ => .finish,
    .on .userTyping fun _ _ => .on .newMessage (fun _ _ => .finish) fun _ => .finish,
    .on .newMessage fun _ _ => .clear (.on .newMessage (fun _ _ => .finish) fun _ => .panic),
    .on .newMessage fun _ _ => .finish]

end Sample

/-- All three are called, two of them return, and the one that was registered last is left. -/
theorem delivers_snapshot_cleared :
    let e := Sample.envelope .newMessage
    let d := deliver 2 e ⟨replay Sample.past .empty, (), false⟩
    e.kind ≠ .pong ∧ d.calls.map (·.id) = [1, 3, 4] ∧ d.delivered = 2 ∧
      (d.world.registry.listeners .newMessage).map (·.1) = [6] ∧ d.world.exceeded = false ∧
      deliver 7 e ⟨replay Sample.past .empty, (), false⟩ = d := by
  have hkind : (Sample.envelope .newMessage).kind ≠ .pong := by decide
  obtain ⟨-, hcalls, -, hcount, hregistry, hdepth⟩ :=
    delivers_snapshot Sample.past () 1 hkind
  refine ⟨hkind, ?_, hcount.trans rfl, ?_, rfl, hdepth rfl 5⟩
  · have hids := congrArg (List.map Prod.fst) hcalls
    rwa [List.map_map] at hids
  · rw [hregistry]
    rfl

end Messenger.Dispatch
