import Mathlib.Tactic.Lemma
import Messenger.Session.Basic

set_option relaxedAutoImplicit false
set_option autoImplicit false

/-!
# Effects that are added

Whatever is done to an outbox adds effects to it, all of one sort. So what one looks for among the
effects is left alone by all that adds effects of another sort.

## Main results

* `Messenger.Session.Outbox.effects_reply`, `Messenger.Session.Outbox.effects_tell`,
  `Messenger.Session.Outbox.effects_drainList`, `Messenger.Session.Outbox.callAll_deliver`: which
  effects are added.
* `Messenger.Session.Outbox.filterMap_of_append`: what is left alone by them.
-/

namespace Messenger.Session.Outbox

/-- What one looks for among the effects is left alone if it is in none of those that are added. -/
lemma filterMap_of_append {α : Type} {look : Effect → Option α} {o o' : Outbox}
    {extra : List Effect} (heffects : o'.effects = o.effects ++ extra)
    (hextra : ∀ effect ∈ extra, look effect = none) :
    o'.effects.filterMap look = o.effects.filterMap look := by
  rw [heffects, List.filterMap_append, List.filterMap_eq_nil_iff.2 hextra, List.append_nil]

/-- What answers to callers do to the world outside.

**Proof sketch.** Induction on the callers. -/
lemma effects_reply (result : Except Error Unit) (callers : List Nat) (o : Outbox) :
    (o.reply result callers).effects = o.effects ++ callers.map (.replied · result) := by
  unfold reply
  induction callers generalizing o with
  | nil => simp
  | cons caller callers ih =>
    rw [List.foldl_cons, ih]
    simp [add]

/-- What telling watchers the state does to the world outside.

**Proof sketch.** Induction on the watchers. -/
lemma effects_tell (m : Moment) (state : ConnectionState) (watchers : List (Nat × Nat))
    (o : Outbox) :
    (callAll (fun w => tell m w.2 state) watchers o).2.effects =
      o.effects ++ watchers.map fun w => .told w.2 state := by
  induction watchers generalizing o with
  | nil => simp [callAll]
  | cons w watchers ih =>
    refine (ih (o.add (.told w.2 state))).trans ?_
    simp [add]

/-- What delivering an envelope to listeners does: each of them has it, in their order.

**Proof sketch.** Induction on the listeners. -/
lemma callAll_deliver (m : Moment) (e : Envelope) (listeners : List Nat) (o : Outbox) :
    (callAll (fun listener => deliver m listener e) listeners o).2 =
      { o with effects := o.effects ++ listeners.map (.delivered · e) } := by
  induction listeners generalizing o with
  | nil => simp [callAll]
  | cons listener listeners ih =>
    refine (ih (o.add (.delivered listener e))).trans ?_
    simp [add]

/-- What offering an envelope to a link does to the world outside. -/
lemma effects_transmit (m : Moment) (link : Nat) (e : Envelope) (o : Outbox) :
    (transmit m link e o).2.effects =
      o.effects ++ if m.accepts o.offers then [.wrote link e] else [] := by
  unfold transmit
  split
  · rfl
  · exact (List.append_nil _).symm

/-- What handing envelopes to a link does to the world outside: some of them are written.

**Proof sketch.** Induction on the envelopes, up to the first that the link refuses. -/
lemma effects_drainList (m : Moment) (link : Nat) (es : List Envelope) (sent : Nat) (o : Outbox) :
    ∃ written : List Envelope,
      (Queue.Pending.drainList (transmit m link) es sent o).2.2.effects =
        o.effects ++ written.map (.wrote link) := by
  induction es generalizing sent o with
  | nil => exact ⟨[], (List.append_nil _).symm⟩
  | cons e rest ih =>
    by_cases haccepts : m.accepts o.offers
    · obtain ⟨written, heffects⟩ := ih (sent + 1)
        (add (.wrote link e) { o with offers := o.offers + 1 })
      refine ⟨e :: written, ?_⟩
      rw [Queue.Pending.drainList, transmit, if_pos haccepts]
      simpa [add] using heffects
    · refine ⟨[], ?_⟩
      rw [Queue.Pending.drainList, transmit, if_neg haccepts]
      exact (List.append_nil _).symm

end Messenger.Session.Outbox
