import Messenger.Proofs.Session.Trace

set_option relaxedAutoImplicit false
set_option autoImplicit false

/-!
# What a link takes

A link takes the frames that are offered to it up to the first that it refuses. Frames are counted
within an event, so that envelopes which are offered one by one and as a list are taken alike.

## Main definitions

* `Messenger.Session.Moment.takes`: how many of some frames a link takes.

## Main results

* `Messenger.Session.Moment.takes_add`: what a link takes of frames in two parts.
* `Messenger.Session.Outbox.drainList_transmit`: what a link takes of a list of envelopes.
-/

namespace Messenger.Session

/-- How many of the next `n` frames a link takes before it refuses one, if `offers` frames have been
offered before. -/
def Moment.takes (m : Moment) (offers : Nat) : Nat → Nat
  | 0 => 0
  | n + 1 => if m.accepts offers then m.takes (offers + 1) n + 1 else 0

/-! ### What a link takes -/

/-- A link does not take more than it is offered. -/
lemma Moment.takes_le (m : Moment) (offers n : Nat) : m.takes offers n ≤ n := by
  induction n generalizing offers with
  | zero => exact Nat.le_refl 0
  | succ n ih =>
    unfold Moment.takes
    split
    · exact Nat.succ_le_succ (ih _)
    · exact Nat.zero_le _

/-- **Two parts are taken one after the other.** A link takes some frames, and others behind them if
it took all of those.

**Proof sketch.** Induction on the first part. If its first frame is refused nothing of either part
is taken. -/
lemma Moment.takes_add (m : Moment) (offers a b : Nat) :
    m.takes offers (a + b) =
      if m.takes offers a = a then a + m.takes (offers + a) b else m.takes offers a := by
  induction a generalizing offers with
  | zero => simp [Moment.takes]
  | succ a ih =>
    rw [show a + 1 + b = a + b + 1 by omega, Moment.takes, Moment.takes]
    by_cases h : m.accepts offers
    · simp only [h, if_true, ih (offers + 1), Nat.add_right_cancel_iff]
      rw [show offers + 1 + a = offers + (a + 1) by omega]
      split
      · omega
      · rfl
    · simp [h]

/-- A link takes the frames up to the first that it refuses. -/
lemma Moment.takes_eq_of_refuses {m : Moment} {offers n k : Nat} (hk : k < n)
    (hall : ∀ i < k, m.accepts (offers + i)) (hnot : ¬ m.accepts (offers + k)) :
    m.takes offers n = k := by
  induction n generalizing offers k with
  | zero => omega
  | succ n ih =>
    unfold Moment.takes
    cases k with
    | zero => rw [if_neg (by simpa using hnot)]
    | succ k =>
      rw [if_pos (by simpa using hall 0 (by omega))]
      have hshift : ∀ i, offers + 1 + i = offers + (i + 1) := by omega
      rw [ih (k := k) (by omega) (fun i hi => by rw [hshift]; exact hall (i + 1) (by omega))
        (by rwa [hshift])]

/-- A link takes all frames exactly if it refuses none of them.

**Proof sketch.** Induction on the number of frames, with the number of the first one generalized:
frame `i + 1` is frame `i` of those behind the first. -/
lemma Moment.takes_eq_iff {m : Moment} {offers n : Nat} :
    m.takes offers n = n ↔ ∀ i < n, m.accepts (offers + i) := by
  induction n generalizing offers with
  | zero => simp [Moment.takes]
  | succ n ih =>
    have hshift : ∀ i, offers + 1 + i = offers + (i + 1) := by omega
    unfold Moment.takes
    constructor
    · intro h i hi
      split at h
      · next hfirst =>
        cases i with
        | zero => exact hfirst
        | succ i =>
          rw [← hshift]
          exact ih.1 (by omega) i (by omega)
      · omega
    · intro h
      rw [if_pos (by simpa using h 0 (by omega)), ih.2]
      intro i hi
      rw [hshift]
      exact h (i + 1) (by omega)

/-- The frame behind those that a link takes is refused. -/
lemma Moment.not_accepts_takes {m : Moment} {offers n : Nat} (h : m.takes offers n < n) :
    ¬ m.accepts (offers + m.takes offers n) := by
  induction n generalizing offers with
  | zero => omega
  | succ n ih =>
    unfold Moment.takes at h ⊢
    split at h
    · next hfirst =>
      rw [if_pos hfirst, show offers + (m.takes (offers + 1) n + 1) =
        offers + 1 + m.takes (offers + 1) n by omega]
      exact ih (by omega)
    · next hfirst =>
      rw [if_neg hfirst]
      simpa using hfirst

namespace Outbox

/-- One more effect. -/
@[simp] lemma frames_add (effect : Effect) (o : Outbox) :
    (o.add effect).frames = o.frames ++ effect.frame?.toList := by
  simp only [frames, add, List.filterMap_append]
  cases h : effect.frame? <;> simp [h]

/-- One more effect is no offer. -/
@[simp] lemma offers_add (effect : Effect) (o : Outbox) : (o.add effect).offers = o.offers := rfl

/-- Answers to callers are written on no link. -/
@[simp] lemma frames_reply (result : Except Error Unit) (callers : List Nat) (o : Outbox) :
    (o.reply result callers).frames = o.frames ∧ (o.reply result callers).offers = o.offers := by
  unfold reply
  induction callers generalizing o with
  | nil => exact ⟨rfl, rfl⟩
  | cons c callers ih =>
    obtain ⟨hframes, hoffers⟩ := ih (o.add (.replied c result))
    rw [List.foldl_cons, hframes, hoffers]
    simp [Effect.frame?]

/-- Whoever is called, what is done by effects that write nothing is written on no link. -/
lemma frames_callAll {α : Type} {call : α → Outbox → Outcome × Outbox}
    (hcall : ∀ a o, (call a o).2.frames = o.frames ∧ (call a o).2.offers = o.offers)
    (as : List α) (o : Outbox) :
    (callAll call as o).2.frames = o.frames ∧ (callAll call as o).2.offers = o.offers := by
  induction as generalizing o with
  | nil => exact ⟨rfl, rfl⟩
  | cons a as ih =>
    obtain ⟨hframes, hoffers⟩ := hcall a o
    obtain ⟨hframes', hoffers'⟩ := ih (call a o).2
    exact ⟨hframes'.trans hframes, hoffers'.trans hoffers⟩

/-- What watchers are told is written on no link. -/
lemma frames_tell (m : Moment) (watcher : Nat) (state : ConnectionState) (o : Outbox) :
    (tell m watcher state o).2.frames = o.frames ∧
      (tell m watcher state o).2.offers = o.offers := by
  simp [tell, Effect.frame?]

/-- What is delivered to listeners is written on no link. -/
lemma frames_deliver (m : Moment) (listener : Nat) (e : Envelope) (o : Outbox) :
    (deliver m listener e o).2.frames = o.frames ∧
      (deliver m listener e o).2.offers = o.offers := by
  simp [deliver, Effect.frame?]

/-- **A link takes the front of a list.** Envelopes that are handed to a link go as long as it takes
them.

**Proof sketch.** Induction on the envelopes. The link takes the first one, and then as many of the
others as it would take next; or it refuses the first one, and all are left. -/
lemma drainList_transmit (m : Moment) (link : Nat) (es : List Envelope) (sent : Nat) (o : Outbox) :
    (Queue.Pending.drainList (transmit m link) es sent o).1 =
        (if m.takes o.offers es.length = es.length then .ok (sent + es.length)
        else .error Transport.linkLost) ∧
      (Queue.Pending.drainList (transmit m link) es sent o).2.1 =
        es.drop (m.takes o.offers es.length) ∧
      (Queue.Pending.drainList (transmit m link) es sent o).2.2.frames =
        o.frames ++ (es.take (m.takes o.offers es.length)).map (link, ·) ∧
      (Queue.Pending.drainList (transmit m link) es sent o).2.2.offers =
        o.offers + min (m.takes o.offers es.length + 1) es.length := by
  induction es generalizing sent o with
  | nil => simp [Queue.Pending.drainList, Moment.takes]
  | cons e rest ih =>
    by_cases h : m.accepts o.offers
    · have ht : transmit m link e o =
          (.ok (), Outbox.add (.wrote link e) { o with offers := o.offers + 1 }) := by
        rw [transmit, if_pos h]
      obtain ⟨h₁, h₂, h₃, h₄⟩ :=
        ih (sent + 1) (Outbox.add (.wrote link e) { o with offers := o.offers + 1 })
      rw [offers_add] at h₁ h₂ h₃ h₄
      simp only [Queue.Pending.drainList, ht, List.length_cons, Moment.takes, h, if_true]
      refine ⟨?_, ?_, ?_, ?_⟩
      · rw [h₁]
        simp only [Nat.add_right_cancel_iff]
        congr 2
        omega
      · rw [h₂, List.drop_succ_cons]
      · rw [h₃, frames_add]
        simp [Effect.frame?, frames]
      · rw [h₄]
        simp only []
        omega
    · have ht : transmit m link e o =
          (.error Transport.linkLost, { o with offers := o.offers + 1 }) := by
        rw [transmit, if_neg h]
      simp [Queue.Pending.drainList, ht, Moment.takes, h, frames]

end Outbox

end Messenger.Session
