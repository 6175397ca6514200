import Messenger.Proofs.Dispatch.Snapshot
import Messenger.Proofs.Envelope.RoundTrip
import Messenger.Proofs.Session.Pulse

set_option relaxedAutoImplicit false
set_option autoImplicit false

/-!
# What comes over the link

A text that comes over the link is for the listeners. The session hands it on, and apart from an
answer to a ping, which disarms the watchdog, nothing of the session depends on it. A session knows
its listeners by numbers only. What they do to the registry while they are called shows as
registrations that are made and removed after the text.

## Main definitions

* `Messenger.Registry.map`: a registry with something else in the place of each listener.
* `Messenger.Session.deliveries`: whom a text is delivered to.
* `Messenger.Session.registrations`: what listeners did to the registry, as events of a session.
* `Messenger.Session.SameCalls`: two events that differ in how the calls of listeners end.

## Main results

* `Messenger.Session.step_received`: what a text does to a session.
* `Messenger.Session.run_acting`: what it does if the listeners act on the registry.
* `Messenger.Session.run_texts`: what texts in a row do.
* `Messenger.Session.inbound_inert`: nothing that comes over the link disturbs a session.
-/

namespace Messenger

/-! ### Registries with other listeners -/

namespace Registry

variable {α β : Type}

/-- A registry with something else in the place of each listener. -/
def map (f : α → β) (r : Registry α) : Registry β :=
  ⟨r.table.map (Prod.map id (List.map (Prod.map id f))), r.nextId⟩

/-- The registrations for a kind with something else in the place of each listener. -/
lemma listeners_map (f : α → β) (kind : Kind) (r : Registry α) :
    (r.map f).listeners kind = (r.listeners kind).map (Prod.map id f) := by
  obtain ⟨table, nextId⟩ := r
  unfold listeners map
  induction table with
  | nil => rfl
  | cons entry rest ih =>
    obtain ⟨k, listeners⟩ := entry
    simp only [List.map_cons, Prod.map, id, List.lookup_cons]
    split
    · rfl
    · exact ih

/-- An envelope is for what stands in the place of those it was for. -/
lemma audience_map (f : α → β) (e : Envelope) (r : Registry α) :
    (r.map f).audience e = (r.audience e).map f := by
  unfold audience
  split
  · rfl
  · rw [listeners_map, List.map_map, List.map_map]
    rfl

/-- Registrations are replaced no matter what stands in the place of listeners.

**Proof sketch.** Induction on the table. Kinds are compared by what no listener changes. -/
lemma setListeners_map (f : α → β) (kind : Kind) (new : List (Nat × α))
    (table : List (Kind × List (Nat × α))) :
    setListeners kind (new.map (Prod.map id f))
        (table.map (Prod.map id (List.map (Prod.map id f)))) =
      (setListeners kind new table).map (Prod.map id (List.map (Prod.map id f))) := by
  induction table with
  | nil =>
    unfold setListeners
    cases new <;> rfl
  | cons entry rest ih =>
    obtain ⟨k, old⟩ := entry
    simp only [List.map_cons, Prod.map, id, setListeners]
    by_cases hk : k = kind
    · rw [if_pos hk, if_pos hk]
      cases new <;> rfl
    · rw [if_neg hk, if_neg hk]
      exact congrArg (_ :: ·) ih

/-- A listener is registered under the same number as what stands in its place. -/
lemma on_map (f : α → β) (kind : Kind) (listener : α) (r : Registry α) :
    (r.on kind listener).2.map f = ((r.map f).on kind (f listener)).2 := by
  unfold on
  rw [listeners_map, show [((r.map f).nextId, f listener)] =
    [(r.nextId, listener)].map (Prod.map id f) from rfl, ← List.map_append]
  exact congrArg (Registry.mk · _) (setListeners_map f kind _ r.table).symm

/-- A registration is removed together with what stands in its place. -/
lemma off_map (f : α → β) (kind : Kind) (id : Nat) (r : Registry α) :
    (r.off kind id).2.map f = ((r.map f).off kind id).2 := by
  unfold off
  rw [listeners_map, List.filter_map]
  exact congrArg (Registry.mk · _) (setListeners_map f kind _ r.table).symm

/-- What stands in the place of a listener can be replaced in its turn. -/
lemma map_map {γ : Type} (g : β → γ) (f : α → β) (r : Registry α) :
    (r.map f).map g = r.map (g ∘ f) := by
  simp [map, Function.comp_def, Prod.map]

/-- What is added to listeners can be left out again. -/
lemma map_fst_map (f : α → β) (r : Registry α) : (r.map fun a => (a, f a)).map Prod.fst = r := by
  rw [map_map, show Prod.fst ∘ (fun a => (a, f a)) = id from rfl]
  simp [map]

end Registry

namespace Session

open Registry (Action replay)
open Dispatch (World deliver deliver_eq actionsOf map_playAll)

/-! ### One text -/

/-- A text that is no envelope is no answer to a ping. -/
lemma Event.not_pongs {m : Moment} {text : String} {error : Error}
    (hdecode : Envelope.decode m.stamp text = .error error) : ¬ (Event.received text).Pongs m := by
  rintro ⟨e, hok, -⟩
  cases hdecode.symm.trans hok

/-- A text is an answer to a ping if its envelope is. -/
lemma Event.pongs_iff {m : Moment} {text : String} {e : Envelope}
    (hdecode : Envelope.decode m.stamp text = .ok e) :
    (Event.received text).Pongs m ↔ e.kind = .pong := by
  simp [Event.Pongs, hdecode]

/-- Whether an answer to a ping comes by an event can be told from its text. -/
instance (m : Moment) (event : Event) : Decidable (event.Pongs m) :=
  match event with
  | .received text =>
    match hdecode : Envelope.decode m.stamp text with
    | .error _ => .isFalse (Event.not_pongs hdecode)
    | .ok e => decidable_of_iff (e.kind = .pong) (Event.pongs_iff hdecode).symm
  | .command _ | .listen _ _ | .unlisten _ _ | .acquired _ | .opened | .failed _ | .expired | .ended
  | .beat | .retryDue => .isFalse id

/-- Whom a text is delivered to by a registry. -/
def deliveries (m : Moment) (text : String) (r : Registry Nat) : List Effect :=
  match Envelope.decode m.stamp text with
  | .error _ => []
  | .ok e => (r.audience e).map (.delivered · e)

variable {σ : Type} [Storage σ]

section

variable {m : Moment} {text : String} {s : Session} (h : s.link.isSome)
include h

/-- A text that is no envelope is passed over. -/
lemma step_rejected {error : Error} (hdecode : Envelope.decode m.stamp text = .error error)
    (store : σ) : step m (.received text) s store = s.turn store := by
  refine (if_pos h).trans ?_
  rw [Turn.receive, hdecode]

/-- An answer to a ping disarms the watchdog, and that is all. -/
lemma step_pong {e : Envelope} (hdecode : Envelope.decode m.stamp text = .ok e)
    (hkind : e.kind = .pong) (store : σ) :
    step m (.received text) s store =
      { s.turn store with session := { s with heartbeat := s.heartbeat.pong } } := by
  refine (if_pos h).trans ?_
  rw [Turn.receive, hdecode]
  exact if_pos hkind

/-- Any other envelope goes to the listeners for its kind, and that is all. -/
lemma step_delivered {e : Envelope} (hdecode : Envelope.decode m.stamp text = .ok e)
    (hkind : e.kind ≠ .pong) (store : σ) :
    step m (.received text) s store =
      { s.turn store with outbox := ⟨(s.registry.audience e).map (.delivered · e), 0⟩ } := by
  refine (if_pos h).trans ?_
  rw [Turn.receive, hdecode]
  refine (if_neg hkind).trans ?_
  rw [Registry.dispatch, Outbox.callAll_deliver]
  rfl

/-- **What a text does.** A text is delivered, and disarms the watchdog if it is an answer to a
ping.

**Proof sketch.** There are three texts: one that is no envelope, an answer to a ping and any other
envelope, and each has its step. -/
lemma step_received (m : Moment) (text : String) (store : σ) :
    step m (.received text) s store =
      ⟨{ s with heartbeat :=
          if (Event.received text).Pongs m then s.heartbeat.pong else s.heartbeat },
        store, ⟨deliveries m text s.registry, 0⟩⟩ := by
  unfold deliveries
  cases hdecode : Envelope.decode m.stamp text with
  | error error =>
    rw [step_rejected h hdecode, if_neg (Event.not_pongs hdecode)]
    rfl
  | ok e =>
    have hpongs := Event.pongs_iff hdecode
    by_cases hkind : e.kind = .pong
    · rw [step_pong h hdecode hkind, if_pos (hpongs.2 hkind)]
      simp only [Registry.audience, if_pos hkind]
      rfl
    · rw [step_delivered h hdecode hkind, if_neg (mt hpongs.1 hkind)]
      rfl

end

/-! ### Listeners that act -/

variable {μ : Type}

/-- Whom a session has an envelope delivered to are those whose own code is called for it. -/
lemma effects_deliver {w : World μ} {r : Registry Nat} (hw : w.registry.map Prod.fst = r)
    (depth : Nat) (e : Envelope) :
    (r.audience e).map (.delivered · e) =
      (deliver (depth + 1) e w).calls.map fun c => Effect.delivered c.id c.envelope := by
  have hcalls := congrArg (List.map fun x => Effect.delivered x.1 x.2.2)
    (map_playAll (deliver depth) e (w.registry.audience e) w)
  rw [List.map_map, List.map_map] at hcalls
  rw [deliver_eq, ← hw, Registry.audience_map, List.map_map]
  exact hcalls.symm

/-- What listeners did to the registry, as events of a session, if the next registration gets a
given number. A new listener is known by the number of its registration. To clear the registry is no
event of its own: that is part of logging out. -/
def registrations {β : Type} : Nat → List (Action β) → List Event
  | _, [] => []
  | next, .on kind _ :: rest => .listen kind next :: registrations (next + 1) rest
  | next, .off kind id :: rest => .unlisten kind id :: registrations next rest
  | next, .clear :: rest => registrations next rest

/-- The events do to the registry of a session what the listeners did, and nothing else.

**Proof sketch.** Induction on the actions. Each of them changes the registry of listeners as the
event changes that of numbers (`Registry.on_map`, `Registry.off_map`). -/
lemma run_registrations {β : Type} (m : Moment) {actions : List (Action β)}
    (hclear : .clear ∉ actions) (r : Registry (Nat × β)) (s : Session) (store : σ) :
    run ((registrations r.nextId actions).map (m, ·)) { s with registry := r.map Prod.fst } store =
      ({ s with registry := (replay actions r).map Prod.fst }, store,
        (registrations r.nextId actions).map fun _ => []) := by
  induction actions generalizing r with
  | nil => rfl
  | cons action rest ih =>
    have hrest := ih (fun hmem => hclear (List.mem_cons_of_mem _ hmem)) (action.perform r)
    cases action with
    | on kind listener =>
      have hon := Registry.on_map Prod.fst kind (r.nextId, listener) r
      rw [Action.perform, hon] at hrest
      rw [registrations, List.map_cons, List.map_cons]
      exact congrArg (fun x => (x.1, x.2.1, [] :: x.2.2)) hrest
    | off kind id =>
      have hoff := Registry.off_map Prod.fst kind id r
      rw [Action.perform, hoff] at hrest
      rw [registrations, List.map_cons, List.map_cons]
      exact congrArg (fun x => (x.1, x.2.1, [] :: x.2.2)) hrest
    | clear => exact absurd (List.mem_cons_self ..) hclear

/-- **Listeners act as if after the text.** A text is handled, and then it is as if what the
listeners did to the registry were done by events.

**Proof sketch.** The delivery leaves the registry in which the actions of the listeners have been
replayed, and events that do the same come to the same (`run_registrations`). -/
lemma run_acting {m : Moment} {text : String} {s : Session} {e : Envelope} (h : s.link.isSome)
    (hdecode : Envelope.decode m.stamp text = .ok e) (hkind : e.kind ≠ .pong) {w : World μ}
    (hw : w.registry.map Prod.fst = s.registry) {depth : Nat}
    (hclear : .clear ∉ actionsOf (deliver (depth + 1) e w).calls) (store : σ) :
    let d := deliver (depth + 1) e w
    let later := (registrations w.registry.nextId (actionsOf d.calls)).map (m, ·)
    run ((m, .received text) :: later) s store =
      ({ s with registry := d.world.registry.map Prod.fst }, store,
        (step m (.received text) s store).outbox.effects :: later.map fun _ => []) := by
  intro d later
  have hlater := run_registrations m hclear w.registry s store
  rw [hw, ← Dispatch.replay_deliver] at hlater
  rw [run, step_delivered h hdecode hkind, List.map_map]
  exact congrArg (fun x => (x.1, x.2.1, _ :: x.2.2)) hlater

/-! ### Texts in a row -/

/-- Two events that are the same, but for how the calls of listeners end if they are texts that came
over the link. -/
inductive SameCalls : Moment × Event → Moment × Event → Prop
  | same (x : Moment × Event) : SameCalls x x
  | received (m : Moment) (outcome : Nat → Outcome) (text : String) :
    SameCalls (m, .received text) ({ m with outcome := outcome }, .received text)

/-- How the calls of listeners end makes no difference to the session. -/
lemma step_outcome (m : Moment) (outcome : Nat → Outcome) (text : String) (s : Session)
    (store : σ) :
    step { m with outcome := outcome } (.received text) s store =
      step m (.received text) s store := by
  simp only [step, react, Turn.receive, Registry.dispatch, Outbox.callAll_deliver]

/-- How the calls of listeners end makes no difference to what follows. -/
lemma run_sameCalls {events events' : List (Moment × Event)}
    (h : List.Forall₂ SameCalls events events') (s : Session) (store : σ) :
    run events s store = run events' s store := by
  induction h generalizing s store with
  | nil => rfl
  | cons hfirst _ ih =>
    cases hfirst with
    | same x => simp only [run, ih]
    | received m outcome text => simp only [run, step_outcome, ih]

/-- Texts that come one after the other. -/
def texts (frames : List (Moment × String)) : List (Moment × Event) :=
  frames.map fun f => (f.1, .received f.2)

/-- **Texts in a row are handled one by one.** Texts in a row over an open link are all delivered by
the registry that they found. If there is an answer to a ping among them, the watchdog is disarmed
at the end, and that is all that has become of the session.

**Proof sketch.** Induction on the texts. The first leaves a session that differs in the watchdog
only, with the same registry, and to disarm the watchdog twice is to disarm it once. -/
lemma run_texts {s : Session} (h : s.link.isSome) (frames : List (Moment × String)) (store : σ) :
    run (texts frames) s store =
      ({ s with heartbeat :=
          if ∃ x ∈ texts frames, x.2.Pongs x.1 then s.heartbeat.pong else s.heartbeat },
        store, frames.map fun f => deliveries f.1 f.2 s.registry) := by
  induction frames generalizing s with
  | nil => rfl
  | cons f rest ih =>
    have hrest := fun heartbeat => ih (s := { s with heartbeat := heartbeat }) h
    have hpong : s.heartbeat.pong.pong = s.heartbeat.pong := rfl
    rw [texts, List.map_cons, run, step_received h, ← texts, hrest]
    by_cases hfirst : (Event.received f.2).Pongs f.1 <;>
      by_cases hlater : ∃ x ∈ texts rest, x.2.Pongs x.1 <;> simp [hfirst, hlater, hpong]

/-- **Nothing that comes over the link disturbs a session.** A text over an open link leaves the
storage and all of the session as they are, the watchdog apart. A text that is no envelope does
nothing and is delivered to nobody. An answer to a ping disarms the watchdog and is delivered to
nobody. Any other envelope is delivered once to each listener for its kind, in the order of their
registrations, and nothing is offered to the link; if the listeners have code of their own by which
they act on the registry, and break down or not, then all that becomes of the session is what they
did there, and it is as if their registrations had been made and removed after the text. How the
calls of listeners end makes no difference, neither to this text nor in any run. Texts in a row are
each handled as if they were the first, and nothing but the watchdog tells afterwards that they
came.

**Proof sketch.** What a text does is one of three steps (`step_received`), from which the first
parts are read. What listeners do is a matter of the delivery (`effects_deliver`) and of the events
that stand for it (`run_acting`). How calls end is not looked at (`step_outcome`, `run_sameCalls`),
and texts in a row are `run_texts`. -/
theorem inbound_inert (m : Moment) (text : String) (s : Session) (h : s.link.isSome) (store : σ) :
    let t := step m (.received text) s store
    (t.store = store ∧ t.session =
      { s with heartbeat := { s.heartbeat with watchdog := t.session.heartbeat.watchdog } }) ∧
    (∀ error, Envelope.decode m.stamp text = .error error → t = s.turn store) ∧
    (∀ e, Envelope.decode m.stamp text = .ok e → e.kind = .pong →
      t = { s.turn store with session := { s with heartbeat := s.heartbeat.pong } }) ∧
    (∀ e, Envelope.decode m.stamp text = .ok e → e.kind ≠ .pong →
      t = { s.turn store with
        outbox := ⟨(s.registry.listeners e.kind).map fun l => .delivered l.2 e, 0⟩ } ∧
      ∀ (w : World μ) (depth : Nat), w.registry.map Prod.fst = s.registry →
        let d := deliver (depth + 1) e w
        t.outbox.effects = d.calls.map (fun c => .delivered c.id c.envelope) ∧
        (.clear ∉ actionsOf d.calls →
          let later := (registrations w.registry.nextId (actionsOf d.calls)).map (m, ·)
          run ((m, .received text) :: later) s store =
            ({ s with registry := d.world.registry.map Prod.fst }, store,
              t.outbox.effects :: later.map fun _ => []))) ∧
    (∀ outcome, step { m with outcome := outcome } (.received text) s store = t) ∧
    (∀ events events', List.Forall₂ SameCalls events events' →
      run events s store = run events' s store) ∧
    ∀ frames : List (Moment × String), run (texts frames) s store =
      ({ s with heartbeat :=
          if ∃ x ∈ texts frames, x.2.Pongs x.1 then s.heartbeat.pong else s.heartbeat },
        store, frames.map fun f => (step f.1 (.received f.2) s store).outbox.effects) := by
  intro t
  refine ⟨?_, fun error hdecode => step_rejected h hdecode store,
    fun e hdecode hkind => step_pong h hdecode hkind store,
    fun e hdecode hkind => ⟨?_, fun w depth hw => ⟨?_, fun hclear => ?_⟩⟩,
    fun outcome => step_outcome m outcome text s store,
    fun events events' hsame => run_sameCalls hsame s store, fun frames => ?_⟩
  · rw [show t = _ from step_received h m text store]
    refine ⟨rfl, ?_⟩
    split <;> rfl
  · rw [show t = _ from step_delivered h hdecode hkind store, Registry.audience, if_neg hkind,
      List.map_map]
    rfl
  · rw [show t = _ from step_delivered h hdecode hkind store]
    exact effects_deliver hw depth e
  · exact run_acting h hdecode hkind hw hclear store
  · rw [run_texts h]
    simp only [step_received h]

namespace Sample

open Messenger.Sample (epoch)

/-- The user connects, the server is pinged, and two listeners are registered for messages and one
for answers to pings. -/
def attending : Session × Store.Memory :=
  let begun := start epoch settings target (⟨[]⟩ : Store.Memory)
  let ended := run [(taking 0, .command (.connect "key" 0)), (taking 0, .opened),
    ({ taking 1 with clock := 30000 }, .beat), (taking 0, .listen .newMessage 7),
    (taking 0, .listen .newMessage 8), (taking 0, .listen .pong 9)] begun.1 begun.2
  (ended.1, ended.2.1)

/-- A moment at which every call of a listener breaks down. -/
def breaking : Moment :=
  { taking 0 with outcome := fun _ => .panicked }

/-- When it is called, the first listener removes the second one, registers one for those who type,
and breaks down. The others do nothing. -/
def meddling (listener : Nat) : Dispatch.Code Unit := fun _ _ =>
  if listener = 7 then
    .off .newMessage 2 fun _ => .on .userTyping (fun _ _ => .finish) fun _ => .panic
  else .finish

/-- The listeners of a registry with their code. -/
def world (r : Registry Nat) : World Unit :=
  ⟨r.map fun listener => (listener, meddling listener), (), false⟩

/-- An envelope without a payload is read back. -/
lemma decode_envelope {kind : Kind} (h : Kind.ofTag kind.tag = kind) (now : Timestamp) :
    Envelope.decode now (Dispatch.Sample.envelope kind).encode =
      .ok (Dispatch.Sample.envelope kind) :=
  have hvalid : (Dispatch.Sample.envelope .pong).timestamp.Valid := by decide
  Envelope.decode_encode (e := Dispatch.Sample.envelope kind)
    ⟨h, hvalid, trivial, trivial, Nat.zero_le _⟩ now

end Sample

/-- Both listeners for messages are called although they break down, and what the first one does
shows in the registry alone. An answer to a ping among other texts disarms the watchdog.

**Proof sketch.** The run is computed up to the text, and `inbound_inert` says the rest: the
registry found there gives who is called and what they do, and the events that stand for it. -/
theorem inbound_inert_meddling :
    let s := Sample.attending.1
    let e := Dispatch.Sample.envelope .newMessage
    let frame := (Sample.breaking, Event.received e.encode)
    s.link.isSome ∧ s.heartbeat.watchdog = some 40000 ∧
      Envelope.decode Sample.breaking.stamp e.encode = .ok e ∧ e.kind ≠ .pong ∧
      (step frame.1 frame.2 s Sample.attending.2).outbox.effects =
        [.delivered 7 e, .delivered 8 e] ∧
      (run [frame, (Sample.breaking, .unlisten .newMessage 2),
        (Sample.breaking, .listen .userTyping 4)] s Sample.attending.2).1 =
          { s with registry :=
            ⟨[(.newMessage, [(1, 7)]), (.pong, [(3, 9)]), (.userTyping, [(4, 4)])], 5⟩ } ∧
      (run (texts [(Sample.breaking, ""),
        (Sample.breaking, (Dispatch.Sample.envelope .pong).encode),
        (Sample.breaking, e.encode)]) s Sample.attending.2).1 =
          { s with heartbeat := { s.heartbeat with watchdog := none } } := by
  intro s e frame
  have hlink : s.link.isSome := by decide +kernel
  have hregistry : s.registry =
      ⟨[(.newMessage, [(1, 7), (2, 8)]), (.pong, [(3, 9)])], 4⟩ := by decide +kernel
  have hdecode : Envelope.decode Sample.breaking.stamp e.encode = .ok e :=
    Sample.decode_envelope (by decide) _
  have hkind : e.kind ≠ .pong := by decide
  obtain ⟨-, -, -, hother, -, -, htexts⟩ :=
    inbound_inert (μ := Unit) Sample.breaking e.encode s hlink Sample.attending.2
  obtain ⟨hturn, hacting⟩ := hother e hdecode hkind
  obtain ⟨-, hrun⟩ := hacting (Sample.world s.registry) 0
    (Registry.map_fst_map Sample.meddling s.registry)
  have hclear : .clear ∉ actionsOf (deliver 1 e (Sample.world s.registry)).calls := by
    rw [hregistry]
    rintro (_ | ⟨_, _ | ⟨_, h⟩⟩)
    cases h
  have hlater : registrations (Sample.world s.registry).registry.nextId
      (actionsOf (deliver 1 e (Sample.world s.registry)).calls) =
        [.unlisten .newMessage 2, .listen .userTyping 4] := by
    rw [hregistry]
    rfl
  have hleft : (deliver 1 e (Sample.world s.registry)).world.registry.map Prod.fst =
      ⟨[(.newMessage, [(1, 7)]), (.pong, [(3, 9)]), (.userTyping, [(4, 4)])], 5⟩ := by
    rw [hregistry]
    rfl
  have hend := congrArg Prod.fst (hrun hclear)
  rw [hlater, hleft] at hend
  refine ⟨hlink, by decide +kernel, hdecode, hkind, ?_, hend, ?_⟩
  · rw [show step frame.1 frame.2 s Sample.attending.2 = _ from hturn, hregistry]
    rfl
  · rw [htexts, if_pos]
    · rfl
    · refine ⟨(Sample.breaking, .received (Dispatch.Sample.envelope .pong).encode), ?_,
        _, Sample.decode_envelope (by decide) _, rfl⟩
      simp [texts]

end Session

end Messenger
