import Mathlib.Data.List.Induction
import Messenger.Proofs.Session.Trace

set_option relaxedAutoImplicit false
set_option autoImplicit false

/-!
# What has happened since

What a session knows goes back to an event of the past, and to what has not happened since: an
attempt to an event that began it, with none that has ended it; a link to one that opened it, with
none that has given it up. Such a statement about the past is kept event by event.

## Main definitions

* `Messenger.Session.Since`: some event of the past was of one kind, and all since then are of
  another.
* `Messenger.Session.Record.Holds`: an event leaves a link open.

## Main results

* `Messenger.Session.history_run`: what every event keeps, in view of the past, holds at the end of
  a run.
* `Messenger.Session.history_trace`: it holds before every event of it, too.
-/

namespace Messenger.Session

variable {σ : Type}

/-! ### Since then -/

/-- Some event of the past was of one kind, in view of what had come before it, and all events since
then are of another. -/
def Since (first : List (Record σ) → Record σ → Prop) (later : Record σ → Prop)
    (past : List (Record σ)) : Prop :=
  ∃ before r after, past = before ++ r :: after ∧ first before r ∧ ∀ x ∈ after, later x

namespace Since

variable {first first' : List (Record σ) → Record σ → Prop} {later later' : Record σ → Prop}
  {past : List (Record σ)} {r : Record σ}

/-- The last event may be the one in question. -/
lemma last (h : first past r) : Since first later (past ++ [r]) :=
  ⟨past, r, [], rfl, h, by simp⟩

/-- One event more makes no difference if it is like those since then. -/
lemma concat (h : Since first later past) (hr : later r) : Since first later (past ++ [r]) := by
  obtain ⟨before, x, after, rfl, hfirst, hlater⟩ := h
  refine ⟨before, x, after ++ [r], by simp, hfirst, ?_⟩
  intro y hy
  rcases List.mem_append.1 hy with hy | hy
  · exact hlater y hy
  · rw [List.mem_singleton.1 hy]
    exact hr

/-- The last event is the one in question, or there has been one before. -/
lemma concat_cases (h : Since first later (past ++ [r])) :
    first past r ∨ (Since first later past ∧ later r) := by
  obtain ⟨before, x, after, hpast, hfirst, hlater⟩ := h
  cases after using List.reverseRecOn with
  | nil =>
    obtain ⟨rfl, hx⟩ := List.append_inj' hpast rfl
    rw [(List.cons.inj hx).1]
    exact .inl hfirst
  | append_singleton after y =>
    rw [← List.cons_append, ← List.append_assoc] at hpast
    obtain ⟨rfl, hy⟩ := List.append_inj' hpast rfl
    rw [(List.cons.inj hy).1]
    exact .inr ⟨⟨before, x, after, rfl, hfirst, fun z hz => hlater z (by simp [hz])⟩,
      hlater y (by simp)⟩

/-- What follows from the kinds of the events. -/
lemma imp (h : Since first later past) (hfirst : ∀ before r, first before r → first' before r)
    (hlater : ∀ r, later r → later' r) : Since first' later' past := by
  obtain ⟨before, r, after, hpast, hr, hafter⟩ := h
  exact ⟨before, r, after, hpast, hfirst before r hr, fun x hx => hlater x (hafter x hx)⟩

/-- An event of the past is the one in question if it is not like those after it, and none after it
is like the one in question.

**Proof sketch.** Compare the event with the one that the past has for this. If the two are not the
same, one of them comes later: either that is among those after, and cannot be the one in question,
or the event itself comes later and is not like those that may follow. -/
lemma of_split {before after : List (Record σ)} (h : Since first later (before ++ r :: after))
    (hr : ¬ later r) (hafter : ∀ x ∈ after, ∀ past, ¬ first past x) :
    first before r ∧ ∀ x ∈ after, later x := by
  obtain ⟨before', r', after', heq, hfirst, hlater⟩ := h
  rcases List.append_eq_append_iff.1 heq with ⟨others, rfl, hrest⟩ | ⟨others, rfl, hrest⟩
  · cases others with
    | nil =>
      obtain ⟨rfl, rfl⟩ := List.cons.inj hrest
      exact ⟨by simpa using hfirst, hlater⟩
    | cons y others =>
      obtain ⟨rfl, rfl⟩ := List.cons.inj hrest
      exact absurd hfirst (hafter r' (by simp) _)
  · cases others with
    | nil =>
      obtain ⟨rfl, rfl⟩ := List.cons.inj hrest
      exact ⟨by simpa using hfirst, hlater⟩
    | cons y others =>
      obtain ⟨rfl, rfl⟩ := List.cons.inj hrest
      exact absurd (hlater r (by simp)) hr

end Since

/-! ### Histories -/

variable [Storage σ]

/-- The event leaves a link open. -/
def Record.Holds (link : Nat) (r : Record σ) : Prop :=
  r.session.link = some link ∧ r.turn.session.link = some link

section History

variable {P : List (Record σ) → Session → σ → Prop} {events : List (Moment × Event)} {s : Session}
  {store : σ}

/-- **Induction along a run, with its past in view.** What holds while nothing is past, and is kept
by every event in view of the past, holds at the end of a run.

**Proof sketch.** Induction on the run from its end. The past of the last event is the trace of the
events before it. -/
lemma history_run
    (hstep : ∀ past r, past ++ [r] <+: trace events s store → P past r.session r.store →
      P (past ++ [r]) r.turn.session r.turn.store) (h : P [] s store) :
    P (trace events s store) (run events s store).1 (run events s store).2.1 := by
  induction events using List.reverseRecOn with
  | nil => exact h
  | append_singleton pre x ih =>
    obtain ⟨m, event⟩ := x
    have htrace := trace_concat pre m event s store
    obtain ⟨hlast, hstore⟩ := run_concat pre m event s store
    have hpre : trace pre s store <+: trace (pre ++ [(m, event)]) s store := by
      rw [htrace]
      exact List.prefix_append _ _
    have hbefore := ih fun past r hpast => hstep past r (hpast.trans hpre)
    rw [hlast, hstore, htrace]
    rw [htrace] at hstep
    exact hstep (trace pre s store) ⟨m, event, (run pre s store).1, (run pre s store).2.1⟩
      List.prefix_rfl hbefore

/-- **The same before every event.** What holds while nothing is past, and is kept by every event in
view of the past, holds before every event of a run.

**Proof sketch.** What comes before the event is the trace of a run on its own (`trace_eq_append`),
so that `history_run` applies to that. -/
lemma history_trace
    (hstep : ∀ past r, past ++ [r] <+: trace events s store → P past r.session r.store →
      P (past ++ [r]) r.turn.session r.turn.store) (h : P [] s store)
    {before after : List (Record σ)} {r : Record σ}
    (htrace : trace events s store = before ++ r :: after) : P before r.session r.store := by
  obtain ⟨pre, post, rfl, hs, hstore, -⟩ := trace_eq_append htrace
  rw [hs, hstore]
  refine history_run (fun past x hpast => hstep past x (hpast.trans ?_)) h
  exact ⟨r :: after, htrace.symm⟩

end History

end Messenger.Session
