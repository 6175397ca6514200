import Messenger.Proofs.Session.Move
import Messenger.Proofs.Session.Trace

set_option relaxedAutoImplicit false
set_option autoImplicit false

/-!
# Callers get their answers

Who asks for a link gets an answer at once if it is there. Who does not waits for the outcome of an
attempt, together with all who have come before and will come while it is under way. The event that
ends the attempt answers all of them, and nobody waits for another one.

## Main definitions

* `Messenger.Session.Outbox.answersTo`: the answers that a caller got.
* `Messenger.Session.Attended`: nobody waits without an attempt.
* `Messenger.Session.Record.Waits`, `Messenger.Session.Record.Settles`: what an event does to a
  caller who waits.

## Main results

* `Messenger.Session.attended_step`: no event lets anyone wait without an attempt.
* `Messenger.Session.answered_once`: every caller gets one answer at most, and it is the right one.
-/

namespace Messenger.Session

/-! ### Callers -/

/-- The answers that a caller got, in order. -/
def Outbox.answersTo (caller : Nat) (o : Outbox) : List (Except Error Unit) :=
  (o.said.answers.filter (·.1 = caller)).map (·.2)

/-- Who logs out by an event. -/
def Event.leaver? : Event → Option Nat
  | .command (.disconnect caller) => some caller
  | _ => none

/-- Who gets an answer for an event. -/
def Event.caller? (event : Event) : Option Nat :=
  event.asker?.or event.leaver?

/-- Nobody waits without an attempt. -/
def Attended (s : Session) : Prop :=
  s.attempt = none → s.waiters = []

/-! ### Events -/

variable {m : Moment} {s : Session} {event : Event}

/-- An event that nobody gets an answer for, and that ends no attempt. -/
structure Aside (s : Session) (event : Event) : Prop where
  asker : event.asker? = none
  leaver : event.leaver? = none
  outcome : s.outcome? event = none

/-- An event that finds nothing to concern is aside.

**Proof sketch.** One case for each event. The commands that ask for a link, or end it, never find
nothing to concern, and the outcome of an attempt concerns only a session that has one of that
kind. -/
lemma aside_of_passes (h : s.Passes m event) : s.Aside event := by
  cases event with
  | command c =>
    cases c with
    | connect credential caller => exact h.elim
    | reconnect caller => exact h.elim
    | disconnect caller => exact h.elim
    | _ => exact ⟨rfl, rfl, rfl⟩
  | acquired answer =>
    refine ⟨rfl, rfl, ?_⟩
    cases hattempt : s.attempt with
    | none => simp [outcome?, failure?, hattempt]
    | some stage =>
      cases stage with
      | asking other => exact absurd hattempt (h other)
      | dialing credential deadline => simp [outcome?, failure?, hattempt]
  | opened => exact ⟨rfl, rfl, if_neg h⟩
  | failed e => exact ⟨rfl, rfl, by simp [outcome?, failure?, show ¬ s.Dialing from h]⟩
  | expired => exact ⟨rfl, rfl, by simp [outcome?, failure?, show ¬ s.Dialing from h]⟩
  | _ => exact ⟨rfl, rfl, rfl⟩

/-- An event that ends a link is aside. -/
lemma aside_of_breaks (h : s.Breaks m event) : s.Aside event := by
  cases event with
  | command c =>
    cases c with
    | connect credential caller => cases h.1
    | reconnect caller => cases h.1
    | disconnect caller => cases h.1
    | _ => exact ⟨rfl, rfl, rfl⟩
  | ended => exact ⟨rfl, rfl, rfl⟩
  | beat => exact ⟨rfl, rfl, rfl⟩
  | _ => exact h.elim

/-- An event upon which the next attempt begins without a caller is aside. -/
lemma aside_of_resumes (h : event.Resumes) : s.Aside event := by
  cases event with
  | command c =>
    cases c with
    | wake reason => exact ⟨rfl, rfl, rfl⟩
    | _ => exact h.elim
  | retryDue => exact ⟨rfl, rfl, rfl⟩
  | _ => exact h.elim

/-- Nobody who asks for a link ends an attempt, or logs out. -/
lemma outcome?_of_asker {caller : Nat} (h : event.asker? = some caller) :
    s.outcome? event = none ∧ event.leaver? = none := by
  cases event with
  | command c =>
    cases c with
    | connect credential caller => exact ⟨rfl, rfl⟩
    | reconnect caller => exact ⟨rfl, rfl⟩
    | _ => cases h
  | _ => cases h

/-- What ends an attempt without a link is its outcome, and nobody gets an answer for the event
itself. -/
lemma outcome?_of_failure {e : Error} (h : s.failure? event = some e) :
    s.outcome? event = some (.error e) ∧ event.asker? = none ∧ event.leaver? = none := by
  have houtcome : s.outcome? event = (s.failure? event).map .error ∧ event.asker? = none ∧
      event.leaver? = none := by
    cases event with
    | command c => cases h
    | opened => cases h
    | _ => exact ⟨rfl, rfl, rfl⟩
  rwa [h] at houtcome

/-- What an event does to those who ask for a link. -/
inductive Attendance (s : Session) (event : Event) (r : Report) : Prop
  /-- Who asks for what is there gets an answer at once. -/
  | granted (caller : Nat) (asker : event.asker? = some caller) (granted : s.Granted event)
      (outcome : s.outcome? event = none) (answers : r.said.answers = [(caller, .ok ())])
      (waiters : r.waiters = s.waiters) (attempt : r.connection.attempt = s.attempt)
  /-- Who asks for what is not there waits for the outcome of an attempt. -/
  | waits (caller : Nat) (asker : event.asker? = some caller) (denied : ¬ s.Granted event)
      (outcome : s.outcome? event = none) (answers : r.said.answers = [])
      (waiters : r.waiters = s.waiters ++ [caller]) (attempt : r.connection.attempt.isSome)
  /-- An attempt ends, and all who wait get its outcome. -/
  | ends (result : Except Error Unit) (asker : event.asker? = none)
      (outcome : s.outcome? event = some result)
      (answers : r.said.answers = s.waiters.map (·, result) ++
        event.leaver?.toList.map (·, .ok ()))
      (waiters : r.waiters = []) (before : s.attempt.isSome)
      (attempt : r.connection.attempt = none)
  /-- Nothing, but that an attempt may begin. -/
  | rests (asker : event.asker? = none) (outcome : s.outcome? event = none)
      (answers : r.said.answers = event.leaver?.toList.map (·, .ok ()))
      (waiters : r.waiters = s.waiters)
      (attempt : s.attempt.isSome → r.connection.attempt.isSome)

/-- An event that is aside does nothing to those who ask for a link. -/
lemma Attendance.of_aside {r : Report} (h : s.Aside event) (hanswers : r.said.answers = [])
    (hwaiters : r.waiters = s.waiters)
    (hattempt : s.attempt.isSome → r.connection.attempt.isSome) : Attendance s event r := by
  refine .rests h.asker h.outcome ?_ hwaiters hattempt
  rw [h.leaver]
  exact hanswers

/-- Every event does one of these things to those who ask for a link.

**Proof sketch.** One case for each thing that an event can do. Whoever asks is granted the link or
waits; an attempt that fails or opens a link ends for all who wait; to log out ends it too, if there
is one, and if there is none nobody waits. All else is aside. -/
lemma attendance_move {r : Report} (hs : s.Attended) (h : Move m s event r) :
    Attendance s event r := by
  cases h with
  | passes h => exact .of_aside (aside_of_passes h) rfl rfl id
  | grants asker granted =>
    exact .granted _ asker granted (outcome?_of_asker asker).1 rfl rfl rfl
  | joins credential caller attempt =>
    refine .waits caller rfl ?_ rfl rfl rfl attempt
    rintro ⟨hnone, -⟩
    simp [hnone] at attempt
  | calls credential caller deadline attempt other =>
    refine .waits caller rfl ?_ rfl rfl rfl rfl
    rintro ⟨-, hlink, hcredential⟩
    exact other hlink hcredential
  | asks caller attempt link =>
    refine .waits caller rfl ?_ rfl rfl rfl rfl
    rintro (hattempt | hlink)
    · simp [attempt] at hattempt
    · simp [link] at hlink
  | resumes h due => exact .of_aside (aside_of_resumes h) rfl rfl fun _ => rfl
  | dials answer other credential deadline attempt choice =>
    refine .of_aside ⟨rfl, rfl, ?_⟩ rfl rfl fun _ => rfl
    simp [outcome?, failure?, attempt, choice]
  | fails e failure =>
    obtain ⟨houtcome, hasker, hleaver⟩ := outcome?_of_failure failure
    refine .ends _ hasker houtcome ?_ rfl (attempt_of_failure failure)
      (Report.attempt_fail m e _)
    rw [hleaver, Option.toList_none, List.map_nil, List.append_nil]
    rfl
  | opens credential deadline attempt =>
    have hdialing : s.Dialing := ⟨credential, deadline, attempt⟩
    refine .ends (.ok ()) rfl (if_pos hdialing) ?_ rfl hdialing.isSome rfl
    simp [Event.leaver?]
    rfl
  | breaks credential deadline attempt =>
    have hdialing : s.Dialing := ⟨credential, deadline, attempt⟩
    refine .ends (.ok ()) rfl (if_pos hdialing) ?_ rfl hdialing.isSome
      (Report.attempt_lose m _)
    simp [Event.leaver?]
    rfl
  | hears text link =>
    obtain ⟨heartbeat, delivered, hear, -⟩ := Report.hear_eq m text (s.report .nothing)
    rw [hear]
    exact .of_aside ⟨rfl, rfl, rfl⟩ rfl rfl id
  | pings link due taken => exact .of_aside ⟨rfl, rfl, rfl⟩ rfl rfl id
  | loses link broken =>
    refine .of_aside (aside_of_breaks broken) rfl rfl fun hattempt => ?_
    rw [Report.attempt_lose]
    exact hattempt
  | listens kind listener => exact .of_aside ⟨rfl, rfl, rfl⟩ rfl rfl id
  | unlistens kind id => exact .of_aside ⟨rfl, rfl, rfl⟩ rfl rfl fun h => h
  | logsOut caller =>
    cases hattempt : s.attempt with
    | some stage =>
      have hsome : s.attempt.isSome := by rw [hattempt]; rfl
      exact .ends (.error .disconnected) rfl (if_pos hsome) rfl rfl hsome rfl
    | none =>
      -- Without an attempt nobody waits, so only the caller gets an answer.
      have hnone := hs hattempt
      refine .rests rfl ?_ ?_ hnone.symm (by simp [hattempt])
      · exact if_neg (by simp [hattempt])
      · show s.waiters.map _ ++ _ = _
        rw [hnone]
        rfl

/-! ### One caller among others -/

/-- One answer for each time that a caller is among those who wait. -/
lemma filter_answers (caller : Nat) (result : Except Error Unit) (callers : List Nat) :
    ((callers.map (·, result)).filter (·.1 = caller)).map (·.2) =
      List.replicate (callers.count caller) result := by
  induction callers with
  | nil => rfl
  | cons c callers ih =>
    by_cases hc : c = caller
    · simpa [hc, List.replicate_succ] using ih
    · simpa [hc] using ih

/-- What an event does to a caller whom it does not concern itself.

**Proof sketch.** An event answers the caller who asked, all who wait, or the one who logs out. The
caller is none of the first and the last, so only an end of the attempt answers, once for each time
that the caller waits. -/
lemma Attendance.of_other {r : Report} (h : Attendance s event r) {caller : Nat}
    (hother : event.caller? ≠ some caller) :
    (∃ result, s.outcome? event = some result ∧ s.attempt.isSome ∧
        (r.said.answers.filter (·.1 = caller)).map (·.2) =
          List.replicate (s.waiters.count caller) result ∧
        r.waiters = [] ∧ r.connection.attempt = none) ∨
      (s.outcome? event = none ∧ (r.said.answers.filter (·.1 = caller)).map (·.2) = [] ∧
        r.waiters.count caller = s.waiters.count caller ∧
        (s.attempt.isSome → r.connection.attempt.isSome)) := by
  have hleft : event.asker? = none →
      ((event.leaver?.toList.map (·, (Except.ok () : Except Error Unit))).filter
        (·.1 = caller)).map (·.2) = [] := by
    intro hasker
    rw [filter_answers]
    cases hleaver : event.leaver? with
    | none => rfl
    | some leaver =>
      have hne : leaver ≠ caller := by
        rintro rfl
        exact hother (by simp [Event.caller?, hasker, hleaver])
      simp [hne]
  have hne : ∀ {asker : Nat}, event.asker? = some asker → asker ≠ caller := by
    rintro asker hasker rfl
    exact hother (by simp [Event.caller?, hasker])
  cases h with
  | granted asker hasker granted outcome answers waiters attempt =>
    refine .inr ⟨outcome, ?_, by rw [waiters], by rw [attempt]; exact id⟩
    simp [answers, hne hasker]
  | waits asker hasker denied outcome answers waiters attempt =>
    refine .inr ⟨outcome, by simp [answers], ?_, fun _ => attempt⟩
    simp [waiters, hne hasker]
  | ends result hasker outcome answers waiters before attempt =>
    refine .inl ⟨result, outcome, before, ?_, waiters, attempt⟩
    rw [answers, List.filter_append, List.map_append, filter_answers, hleft hasker,
      List.append_nil]
  | rests hasker outcome answers waiters attempt =>
    refine .inr ⟨outcome, ?_, by rw [waiters], attempt⟩
    rw [answers, hleft hasker]

/-! ### Runs -/

variable {σ : Type} [Storage σ]

/-- **Nobody waits without an attempt.** No event lets anyone do so.

**Proof sketch.** One case for each way in which an event attends to callers. If there is no attempt
afterwards, it has been ended, with an answer to all, or there was none before, and then nobody
waited. -/
theorem attended_step (hc : s.connection.Coherent) (hs : s.Attended) (m : Moment) (event : Event)
    (store : σ) : (step m event s store).session.Attended := by
  intro hnone
  have hnone : (step m event s store).report.connection.attempt = none := hnone
  show (step m event s store).report.waiters = []
  cases attendance_move hs (move_step hc m event store) with
  | granted caller asker granted outcome answers waiters attempt =>
    rw [waiters]
    exact hs (attempt.symm.trans hnone)
  | waits caller asker denied outcome answers waiters attempt => simp [hnone] at attempt
  | ends result asker outcome answers waiters before attempt => exact waiters
  | rests asker outcome answers waiters attempt =>
    rw [waiters]
    refine hs (Option.not_isSome_iff_eq_none.1 fun hattempt => ?_)
    simpa [hnone] using attempt hattempt

/-- In a new session nobody waits. -/
lemma attended_start {settings : Settings} {target : Settings.Target} {began : Timestamp}
    {stored store : σ} (hstart : start began settings target stored = (s, store)) :
    s.connection.Coherent ∧ s.Attended ∧ s.waiters = [] := by
  obtain ⟨rfl, rfl⟩ := Prod.ext_iff.1 hstart
  exact ⟨coherent_start began settings target stored, fun _ => rfl, rfl⟩

/-- Nobody waits without an attempt after a run. -/
lemma attended_run {store : σ} (hc : s.connection.Coherent) (hs : s.Attended)
    (events : List (Moment × Event)) :
    (run events s store).1.connection.Coherent ∧ (run events s store).1.Attended :=
  run_invariant (P := fun s _ => s.connection.Coherent ∧ s.Attended)
    (fun m event _ store _ h =>
      ⟨coherent_step h.1 m event store, attended_step h.1 h.2 m event store⟩) ⟨hc, hs⟩

namespace Record

/-- The answers that a caller got for the event. -/
def answersTo (caller : Nat) (r : Record σ) : List (Except Error Unit) :=
  r.turn.outbox.answersTo caller

/-- A caller goes on waiting for the outcome of the attempt that is under way. -/
structure Waits (caller : Nat) (r : Record σ) : Prop where
  attempt : r.session.attempt.isSome
  waits : caller ∈ r.session.waiters
  outcome : r.session.outcome? r.event = none
  answers : r.answersTo caller = []

/-- The attempt that is under way comes to an end, and a caller gets its outcome. Nobody waits any
more. -/
structure Settles (caller : Nat) (result : Except Error Unit) (r : Record σ) : Prop where
  attempt : r.session.attempt.isSome
  waits : caller ∈ r.session.waiters
  outcome : r.session.outcome? r.event = some result
  answers : r.answersTo caller = [result]
  gone : r.turn.session.attempt = none
  nobody : r.turn.session.waiters = []

end Record

variable {store : σ} {events : List (Moment × Event)} {caller : Nat}

/-- A caller who does not wait gets no answer as long as no event concerns that caller.

**Proof sketch.** Induction on the run, by `Attendance.of_other`: all who wait are answered, and the
caller is not among them. -/
lemma answersTo_of_absent (hc : s.connection.Coherent) (hs : s.Attended)
    (habsent : s.waiters.count caller = 0)
    (hothers : ∀ x ∈ trace events s store, x.event.caller? ≠ some caller) :
    (∀ x ∈ trace events s store, x.answersTo caller = []) ∧
      (run events s store).1.waiters.count caller = 0 := by
  induction events generalizing s store with
  | nil => exact ⟨by simp [trace], habsent⟩
  | cons x rest ih =>
    obtain ⟨m, event⟩ := x
    obtain ⟨hfirst, hrest⟩ := List.forall_mem_cons.1 hothers
    have hmove := attendance_move hs (move_step hc m event store)
    have hnext : (step m event s store).outbox.answersTo caller = [] ∧
        (step m event s store).session.waiters.count caller = 0 := by
      rcases hmove.of_other hfirst with ⟨result, -, -, hanswers, hwaiters, -⟩ |
        ⟨-, hanswers, hwaiters, -⟩
      · rw [habsent] at hanswers
        refine ⟨hanswers, ?_⟩
        rw [show (step m event s store).session.waiters = [] from hwaiters]
        rfl
      · exact ⟨hanswers, hwaiters.trans habsent⟩
    obtain ⟨hothers', hlast⟩ := ih (coherent_step hc m event store)
      (attended_step hc hs m event store) hnext.2 hrest
    exact ⟨List.forall_mem_cons.2 ⟨hnext.1, hothers'⟩, hlast⟩

/-- A caller who waits goes on waiting up to the event that ends the attempt, gets its outcome then,
and gets no other answer.

**Proof sketch.** Induction on the run. As long as an event ends no attempt, the caller stays among
those who wait, and an attempt is under way. -/
lemma answersTo_of_waiting (hc : s.connection.Coherent) (hs : s.Attended)
    (hattempt : s.attempt.isSome) (hwaits : s.waiters.count caller = 1)
    (hothers : ∀ x ∈ trace events s store, x.event.caller? ≠ some caller) :
    (∃ during x rest result, trace events s store = during ++ x :: rest ∧
        (∀ y ∈ during, y.Waits caller) ∧ x.Settles caller result ∧
        (∀ y ∈ rest, y.answersTo caller = []) ∧
        (run events s store).1.waiters.count caller = 0) ∨
      ((∀ y ∈ trace events s store, y.Waits caller) ∧
        (run events s store).1.attempt.isSome ∧
        (run events s store).1.waiters.count caller = 1) := by
  have hmem : caller ∈ s.waiters := List.count_pos_iff.1 (by omega)
  induction events generalizing s store with
  | nil => exact .inr ⟨by simp [trace], hattempt, hwaits⟩
  | cons x rest ih =>
    obtain ⟨m, event⟩ := x
    obtain ⟨hfirst, hrest⟩ := List.forall_mem_cons.1 hothers
    have hc' := coherent_step hc m event store
    have hs' := attended_step hc hs m event store
    rcases (attendance_move hs (move_step hc m event store)).of_other hfirst with
      ⟨result, houtcome, -, hanswers, hwaiters, hover⟩ | ⟨houtcome, hanswers, hwaiters, hgoes⟩
    · -- The attempt ends: from now on the caller is absent.
      rw [hwaits] at hanswers
      have hnobody : (step m event s store).session.waiters = [] := hwaiters
      have habsent : (step m event s store).session.waiters.count caller = 0 := by
        rw [hnobody]
        rfl
      obtain ⟨hanswers', hlast⟩ := answersTo_of_absent hc' hs' habsent hrest
      exact .inl ⟨[], ⟨m, event, s, store⟩, _, result, rfl, by simp,
        ⟨hattempt, hmem, houtcome, hanswers, hover, hnobody⟩, hanswers', hlast⟩
    · have hgoing : (Record.mk m event s store).Waits caller :=
        ⟨hattempt, hmem, houtcome, hanswers⟩
      have hwaits' : (step m event s store).session.waiters.count caller = 1 :=
        hwaiters.trans hwaits
      rcases ih hc' hs' (hgoes hattempt) hwaits' hrest
          (List.count_pos_iff.1 (by omega)) with
        ⟨during, x, rest', result, htrace, hduring, hx, hafter, hlast⟩ | ⟨hall, hlast⟩
      · refine .inl ⟨⟨m, event, s, store⟩ :: during, x, rest', result, ?_, ?_, hx, hafter, hlast⟩
        · rw [trace, htrace, List.cons_append]
        · exact List.forall_mem_cons.2 ⟨hgoing, hduring⟩
      · exact .inr ⟨List.forall_mem_cons.2 ⟨hgoing, hall⟩, hlast⟩

/-- What a session that ends answers to a caller. -/
lemma answersTo_shutDown (m : Moment) (s : Session) (store : σ) (caller : Nat) :
    (shutDown m s store).outbox.answersTo caller =
      List.replicate (s.waiters.count caller) (.error .disconnected) := by
  rw [Outbox.answersTo, (said_shutDown m s store).1, filter_answers]

/-- **Every caller gets one answer at most, and it is the right one.** Of all commands that ask for
a link, take one whose caller does nothing else. The caller gets no answer before. If what is asked
for is there, the answer is given at once, and it is the only one. If not, an attempt is under way
from then on, and the caller waits until an event ends it: that event gives its outcome, which is
the only answer, and then nobody waits any more. If no event ends the attempt the end of the session
does.

A link with the same credential while there is no attempt is what a caller asks for who wants to
connect; any link or attempt is, if the caller wants to connect anew (`Granted`). The outcome is
success if a link has been opened, the error of the attempt if it has failed, and that the user has
logged out (`outcome?`).

**Proof sketch.** The run is cut at the command. Before it the caller does not wait, and gets no
answer (`answersTo_of_absent`). By the command itself the caller is granted the link, and is absent
again, or begins to wait (`attendance_move`). In the second case `answersTo_of_waiting` follows the
caller to the event that ends the attempt, or to the end of the run. -/
theorem answered_once {settings : Settings} {target : Settings.Target} {began : Timestamp}
    {stored : σ} {before after : List (Record σ)} {r : Record σ}
    (hstart : start began settings target stored = (s, store))
    (htrace : trace events s store = before ++ r :: after)
    (hasker : r.event.asker? = some caller)
    (hothers : ∀ x ∈ before ++ after, x.event.caller? ≠ some caller) (m : Moment) :
    (∀ x ∈ before, x.answersTo caller = []) ∧
      ((r.session.Granted r.event ∧ r.answersTo caller = [.ok ()] ∧
          (∀ x ∈ after, x.answersTo caller = []) ∧
          (shutDown m (run events s store).1 (run events s store).2.1).outbox.answersTo
            caller = []) ∨
        (¬ r.session.Granted r.event ∧ r.answersTo caller = [] ∧ r.turn.session.attempt.isSome ∧
          caller ∈ r.turn.session.waiters ∧
          ((∃ during x rest result, after = during ++ x :: rest ∧
              (∀ y ∈ during, y.Waits caller) ∧ x.Settles caller result ∧
              (∀ y ∈ rest, y.answersTo caller = []) ∧
              (shutDown m (run events s store).1 (run events s store).2.1).outbox.answersTo
                caller = []) ∨
            ((∀ y ∈ after, y.Waits caller) ∧ (run events s store).1.attempt.isSome ∧
              (shutDown m (run events s store).1 (run events s store).2.1).outbox.answersTo
                caller = [.error .disconnected])))) := by
  obtain ⟨hc₀, hs₀, hwaiters₀⟩ := attended_start hstart
  obtain ⟨hbefore, hafter⟩ := List.forall_mem_append.1 hothers
  obtain ⟨pre, post, rfl, hsession, hstore, hpost, rfl⟩ := trace_eq_append htrace
  have hlast : (run (pre ++ (r.moment, r.event) :: post) s store).1 =
      (run post r.turn.session r.turn.store).1 := by
    rw [(run_append pre _ s store).1, ← hsession, ← hstore]
    rfl
  -- Nobody waits at the beginning, so the caller is absent up to the event.
  have habsent₀ : s.waiters.count caller = 0 := by
    rw [hwaiters₀]
    rfl
  obtain ⟨hearlier, habsent⟩ := answersTo_of_absent hc₀ hs₀ habsent₀ hbefore
  obtain ⟨hc, hs⟩ : r.session.connection.Coherent ∧ r.session.Attended := by
    rw [hsession]
    exact attended_run hc₀ hs₀ pre
  rw [← hsession] at habsent
  have hc' : r.turn.session.connection.Coherent := coherent_step hc r.moment r.event r.store
  have hs' : r.turn.session.Attended := attended_step hc hs r.moment r.event r.store
  refine ⟨hearlier, ?_⟩
  rw [hlast]
  subst hpost
  simp only [answersTo_shutDown]
  cases attendance_move hs (move_step hc r.moment r.event r.store) with
  | granted asker hasker' granted outcome answers waiters attempt =>
    obtain rfl := Option.some.inj (hasker'.symm.trans hasker)
    have hcount : r.turn.session.waiters.count asker = 0 := by
      rw [show r.turn.session.waiters = r.session.waiters from waiters, habsent]
    obtain ⟨hlater, hend⟩ := answersTo_of_absent hc' hs' hcount hafter
    refine .inl ⟨granted, ?_, hlater, by rw [hend]; rfl⟩
    show (r.turn.outbox.said.answers.filter (·.1 = asker)).map (·.2) = _
    rw [show r.turn.outbox.said.answers = [(asker, .ok ())] from answers]
    simp
  | waits asker hasker' denied outcome answers waiters attempt =>
    obtain rfl := Option.some.inj (hasker'.symm.trans hasker)
    have hwaiters : r.turn.session.waiters = r.session.waiters ++ [asker] := waiters
    have hcount : r.turn.session.waiters.count asker = 1 := by simp [hwaiters, habsent]
    refine .inr ⟨denied, ?_, attempt, by simp [hwaiters], ?_⟩
    · show (r.turn.outbox.said.answers.filter (·.1 = asker)).map (·.2) = _
      rw [show r.turn.outbox.said.answers = [] from answers]
      rfl
    · rcases answersTo_of_waiting hc' hs' attempt hcount hafter with
        ⟨during, x, rest, result, htrace', hduring, hx, hrest, hend⟩ | ⟨hall, hattempt, hend⟩
      · exact .inl ⟨during, x, rest, result, htrace', hduring, hx, hrest, by rw [hend]; rfl⟩
      · exact .inr ⟨hall, hattempt, by rw [hend]; rfl⟩
  | ends result hnone outcome answers waiters before attempt =>
    rw [hasker] at hnone
    cases hnone
  | rests hnone outcome answers waiters attempt =>
    rw [hasker] at hnone
    cases hnone

/-- A caller asks for a link, another one joins, and a link is opened. -/
def Sample.calls : List (Moment × Event) :=
  [(taking 0, .command (.connect "key" 1)), (taking 0, .command (.connect "other" 2)),
    (taking 9, .opened)]

/-- The first of two callers waits, and gets the answer when the link is opened.

**Proof sketch.** There is no link when the first caller asks, so that is not granted, and there is
no attempt at the end of the run, so some event has ended it. -/
theorem answered_first :
    ∃ s store r after during x rest result,
      start Sample.epoch Sample.settings Sample.target (⟨[]⟩ : Store.Memory) = (s, store) ∧
        trace Sample.calls s store = r :: after ∧ r.event.asker? = some 1 ∧
        (∀ x ∈ after, x.event.caller? ≠ some 1) ∧ after = during ++ x :: rest ∧
        (∀ y ∈ during, y.Waits 1) ∧ x.Settles 1 result := by
  obtain ⟨⟨s, store⟩, hstart⟩ : ∃ first,
    start Sample.epoch Sample.settings Sample.target (⟨[]⟩ : Store.Memory) = first := ⟨_, rfl⟩
  have hlast : (run Sample.calls s store).1.attempt = none := by
    obtain ⟨rfl, rfl⟩ := Prod.ext_iff.1 hstart
    rfl
  have hlink : s.link = none := by
    obtain ⟨rfl, rfl⟩ := Prod.ext_iff.1 hstart
    rfl
  have hothers : ∀ x ∈ [] ++ (trace Sample.calls s store).tail, x.event.caller? ≠ some 1 := by
    simp [Sample.calls, trace, Event.caller?, Event.asker?, Event.leaver?]
  have htrace : trace Sample.calls s store = [] ++ _ :: (trace Sample.calls s store).tail := rfl
  rcases (answered_once hstart htrace rfl hothers (Sample.taking 0)).2 with
    ⟨hgranted, -⟩ | ⟨-, -, -, -, ⟨during, x, rest, result, hafter, hduring, hx, -⟩ | ⟨-, hnone, -⟩⟩
  · have hsome : s.link.isSome := hgranted.2.1
    simp [hlink] at hsome
  · exact ⟨s, store, _, _, during, x, rest, result, hstart, rfl, rfl, hothers, hafter, hduring, hx⟩
  · simp [hlast] at hnone

end Messenger.Session
