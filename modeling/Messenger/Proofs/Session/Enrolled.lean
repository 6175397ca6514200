import Messenger.Proofs.Dispatch.Roll
import Messenger.Proofs.Session.History
import Messenger.Proofs.Session.Move

set_option relaxedAutoImplicit false
set_option autoImplicit false

/-!
# Who is reached

An envelope that comes over the link goes to those who are registered for its kind. Whoever is
registered has been registered by an event since the user has logged out for the last time.

## Main definitions

* `Messenger.Session.enrolled`: the listeners that were registered for a kind in a run.
* `Messenger.Session.Record.delivered`: what was delivered to listeners by an event.

## Main results

* `Messenger.Session.delivered_trace`: only those are reached who have been registered in a run.
-/

namespace Messenger

namespace Session

/-! ### Registrations of a run -/

/-- Who is registered for a kind by an event. -/
def Event.enrolls? (kind : Kind) : Event → Option Nat
  | .listen k listener => if k = kind then some listener else none
  | _ => none

/-- The listeners that were registered for a kind in a run, in the order in which they were. -/
def enrolled {σ : Type} (kind : Kind) (records : List (Record σ)) : List Nat :=
  records.filterMap fun r => r.event.enrolls? kind

/-- All who are registered have been so in the past. -/
def Enrolled {σ : Type} (past : List (Record σ)) (registry : Registry Nat) : Prop :=
  ∀ entry ∈ registry.table, (entry.2.map (·.2)).Sublist (enrolled entry.1 past)

namespace Enrolled

variable {σ : Type} {past : List (Record σ)} {registry : Registry Nat}

/-- Those who are registered for a kind have been so in the past. -/
lemma listeners (h : Enrolled past registry) (kind : Kind) :
    ((registry.listeners kind).map (·.2)).Sublist (enrolled kind past) := by
  rcases registry.listeners_cases kind with hnone | hmem
  · rw [hnone]
    exact List.nil_sublist _
  · exact h _ hmem

/-- One event more makes no difference if nobody else is registered. -/
lemma concat (h : Enrolled past registry) (r : Record σ) : Enrolled (past ++ [r]) registry := by
  intro entry hentry
  unfold enrolled
  rw [List.filterMap_append]
  exact (h entry hentry).trans (List.sublist_append_left _ _)

/-- To register a listener is an event. -/
lemma on (h : Enrolled past registry) {r : Record σ} {kind : Kind} {listener : Nat}
    (hr : r.event = .listen kind listener) :
    Enrolled (past ++ [r]) (registry.on kind listener).2 := by
  intro entry hentry
  rcases Registry.mem_setListeners hentry with rfl | hentry
  · unfold enrolled
    rw [List.filterMap_append, List.map_append]
    refine (h.listeners kind).append ?_
    simp [hr, Event.enrolls?]
  · exact h.concat r entry hentry

/-- To remove a registration leaves the others. -/
lemma off (h : Enrolled past registry) (kind : Kind) (id : Nat) :
    Enrolled past (registry.off kind id).2 := by
  intro entry hentry
  rcases Registry.mem_setListeners hentry with rfl | hentry
  · exact (List.filter_sublist.map _).trans (h.listeners kind)
  · exact h entry hentry

/-- Nobody is registered when all registrations have been removed. -/
lemma clear (past : List (Record σ)) (registry : Registry Nat) :
    Enrolled past registry.clear := by
  intro entry hentry
  cases hentry

end Enrolled

/-- What an event can do to those who are registered.

**Proof sketch.** Registration adds to those who are registered in the run, a removal takes away,
and a logout leaves nobody. All other events leave the registry alone, a text that is heard among
them. -/
lemma Move.enrolled {m : Moment} {s : Session} {event : Event} {r : Report} {σ : Type} {store : σ}
    (hmove : Move m s event r) {past : List (Record σ)} (h : Enrolled past s.registry) :
    Enrolled (past ++ [⟨m, event, s, store⟩]) r.registry := by
  cases hmove with
  | listens kind listener => exact h.on rfl
  | unlistens kind id => exact (h.off kind id).concat _
  | logsOut caller => exact Enrolled.clear _ _
  | hears text link =>
    obtain ⟨heartbeat, delivered, hear, -⟩ := Report.hear_eq m text (s.report .nothing)
    rw [hear]
    exact h.concat _
  | _ => exact h.concat _

/-- An event delivers one envelope at most, to those who are registered for it.

**Proof sketch.** Of all that an event can do only a text that is heard is delivered. -/
lemma Move.of_delivered {m : Moment} {s : Session} {event : Event} {r : Report}
    (hmove : Move m s event r) :
    r.said.delivered = [] ∨ ∃ e, r.said.delivered = (s.registry.audience e).map (·, e) := by
  cases hmove with
  | hears text link =>
    unfold Report.hear
    split
    · exact .inl rfl
    · next e _ =>
      split
      · exact .inl rfl
      · exact .inr ⟨e, rfl⟩
  | _ => exact .inl rfl

/-! ### Deliveries -/

variable {σ : Type} [Storage σ]

/-- What was delivered to listeners by the event. -/
def Record.delivered (r : Record σ) : List (Nat × Envelope) :=
  r.turn.outbox.said.delivered

/-- **Nobody is reached who has not been registered.** After a run in which nobody was registered at
the beginning, only those are reached who have been registered in it, and for the kind of the
envelope.

**Proof sketch.** The registry holds only what the run has registered, before every event
(`Move.enrolled`, `history_trace`). What is delivered goes to the audience of one envelope; that is
empty for an answer to a ping, and otherwise what the registry holds for its kind. -/
lemma delivered_trace {s : Session} (hc : s.connection.Coherent)
    (hnobody : s.registry.table = []) {events : List (Moment × Event)} {store : σ}
    {mid after : List (Record σ)} {y : Record σ}
    (htrace : trace events s store = mid ++ y :: after) (kind : Kind) :
    ((y.delivered.filter (·.2.kind = kind)).map (·.1)).Sublist (enrolled kind mid) := by
  obtain ⟨hcoherent, henrolled⟩ := history_trace
    (P := fun past s _ => s.connection.Coherent ∧ Enrolled past s.registry)
    (fun past r _ h => ⟨r.coherent h.1, (r.move h.1).enrolled h.2⟩)
    ⟨hc, by simp [Enrolled, hnobody]⟩ htrace
  have hdelivered : y.delivered = [] ∨
      ∃ e, y.delivered = (y.session.registry.audience e).map (·, e) :=
    (y.move hcoherent).of_delivered
  rcases hdelivered with hnone | ⟨e, hsome⟩
  · rw [hnone]
    exact List.nil_sublist _
  · have hreached : (y.session.registry.audience e).Sublist (enrolled e.kind mid) := by
      unfold Registry.audience
      split
      · exact List.nil_sublist _
      · exact henrolled.listeners e.kind
    rw [hsome, List.filter_map, List.map_map]
    by_cases hkind : e.kind = kind
    · subst hkind
      exact (List.filter_sublist.map _).trans (by simpa [Function.comp_def] using hreached)
    · rw [List.filter_eq_nil_iff.2 (by simp [hkind])]
      exact List.nil_sublist _

end Session

end Messenger
