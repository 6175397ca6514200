import Mathlib.Data.List.Nodup
import Messenger.Proofs.Session.Move
import Messenger.Proofs.Session.WireOrder

set_option relaxedAutoImplicit false
set_option autoImplicit false

/-!
# How links are closed

A link is closed when it is given up, and it is given up for good: the next one has another number.

## Main definitions

* `Messenger.Session.Record.closed`: the links that were closed by an event.

## Main results

* `Messenger.Session.nodup_closed`: no link is closed twice.
-/

namespace Messenger.Session

/-- An event closes one link at most: the one that is there, or the one that it opens. With that the
link is gone.

**Proof sketch.** By which link the event has reached (`Move.link_cases`): the one that it has
opened, or else the one that it has met. If that is gone afterwards it has been closed, and no other
one has. -/
lemma Move.of_closed {m : Moment} {s : Session} {event : Event} {r : Report}
    (h : Move m s event r) :
    r.said.closed = [] ∨ ∃ link, r.said.closed = [link] ∧ r.connection.link = none ∧
      (s.link = some link ∨ s.opened = link ∧ r.connection.opened = link + 1) := by
  rcases h.link_cases with ⟨-, hnone⟩ | ⟨hgone, hclosed⟩
  · exact .inl hnone
  · cases hreached : s.reached event with
    | none =>
      rw [hreached] at hclosed
      exact .inl hclosed
    | some link =>
      rw [hreached] at hclosed
      refine .inr ⟨link, hclosed, hgone, ?_⟩
      have hopened := h.opened_eq
      unfold reached at hreached
      split at hreached
      · next hopens =>
        cases hreached
        rw [hopens] at hopened
        exact .inr ⟨rfl, hopened⟩
      · exact .inl hreached

variable {σ : Type} [Storage σ]

/-- The links that were closed by the event. -/
def Record.closed (r : Record σ) : List Nat :=
  r.turn.outbox.said.closed

/-- A link that is closed in a run is there at its beginning, or is opened later.

**Proof sketch.** Induction on the run. The first event closes the link that is there or the one
that it opens, and all that is closed later is there after it or opened later still. -/
lemma of_mem_closed {s : Session} (h : s.Orderly) {events : List (Moment × Event)} {store : σ}
    {link : Nat} (hclosed : link ∈ (trace events s store).flatMap Record.closed) :
    s.link = some link ∨ s.opened ≤ link := by
  induction events generalizing s store with
  | nil => cases hclosed
  | cons x rest ih =>
    obtain ⟨m, event⟩ := x
    obtain ⟨hle, hne⟩ := (deed_step h.coherent m event store).link_ne h rfl
    by_contra hnot
    obtain ⟨hlink, hlt⟩ := not_or.1 hnot
    have hlt : link < s.opened := Nat.lt_of_not_le hlt
    rw [trace, List.flatMap_cons] at hclosed
    rcases List.mem_append.1 hclosed with hnow | hlater
    · rcases (move_step h.coherent m event store).of_closed with hnone | ⟨other, hone, -, hthere⟩
      · have hnow : link ∈ (step m event s store).report.said.closed := hnow
        rw [hnone] at hnow
        cases hnow
      · have hnow : link ∈ (step m event s store).report.said.closed := hnow
        rw [hone] at hnow
        obtain rfl := List.mem_singleton.1 hnow
        rcases hthere with hthere | ⟨rfl, -⟩
        · exact hlink hthere
        · exact Nat.lt_irrefl _ hlt
    · rcases ih (orderly_step h m event store) hlater with hthere | hthere
      · exact hne link hlt hlink hthere
      · exact absurd (Nat.le_trans hle hthere) (Nat.not_le.2 hlt)

/-- **No link is closed twice.** This is so in every run.

**Proof sketch.** Induction on the run. The link that the first event closes is gone, and has been
opened by then, so it is none of those that are closed later (`of_mem_closed`). -/
theorem nodup_closed {s : Session} (h : s.Orderly) (events : List (Moment × Event)) (store : σ) :
    ((trace events s store).flatMap Record.closed).Nodup := by
  induction events generalizing s store with
  | nil => exact List.nodup_nil
  | cons x rest ih =>
    obtain ⟨m, event⟩ := x
    have horderly := orderly_step h m event store
    have hrest := ih horderly (step m event s store).store
    rw [trace, List.flatMap_cons]
    rcases (move_step h.coherent m event store).of_closed with hnone | ⟨link, hone, hgone, hthere⟩
    · have hnow : (Record.mk m event s store).closed = [] := hnone
      rw [hnow]
      exact hrest
    · have hnow : (Record.mk m event s store).closed = [link] := hone
      have hgone : (step m event s store).session.link = none := hgone
      rw [hnow]
      refine List.nodup_cons.2 ⟨fun hlater => ?_, hrest⟩
      rcases of_mem_closed horderly hlater with hagain | hnew
      · cases hgone.symm.trans hagain
      · have hle := ((deed_step h.coherent m event store).link_ne h rfl).1
        have hopened : link < (step m event s store).session.opened := by
          rcases hthere with hthere | ⟨-, hopens⟩
          · exact Nat.lt_of_lt_of_le (h.numbered link hthere) hle
          · rw [show (step m event s store).session.opened = link + 1 from hopens]
            exact Nat.lt_succ_self link
        exact absurd hnew (Nat.not_le.2 hopened)

end Messenger.Session
