import Messenger.Proofs.Backoff
import Messenger.Proofs.Session.Answers
import Messenger.Proofs.Session.History

set_option relaxedAutoImplicit false
set_option autoImplicit false

/-!
# When the next attempt is due

Every failure sets the time of the next attempt. How long that is from now depends on how many
failures there have been in a row: attempts that were over without a link, and links that were lost.
The count starts over with every link that is opened, if the user logs out, and if the user connects
anew.

## Main definitions

* `Messenger.Session.Record.fails`: an event is a failure.
* `Messenger.Session.Record.startsOver`: the count of failures starts over with an event.
* `Messenger.Session.failures`: how many failures there have been since the count has started over.
* `Messenger.Session.Record.Sets`: an event sets the time of the next attempt.
* `Messenger.Session.Scheduled`: what is to be said of the next attempt.

## Main results

* `Messenger.Session.Move.counts`: what every event does to the count and to the next attempt.
* `Messenger.Session.retry_schedule`: what is said of the next attempt holds of every event of every
  run.
-/

namespace Messenger.Session

/-! ### Failures -/

/-- The user gives up a link on purpose if there is one: by connecting with another credential, or
by logging out. -/
def Event.dismisses : Event → Bool
  | .command (.connect _ _) | .command (.disconnect _) => true
  | _ => false

/-- An event is a failure that leaves some link or none: an attempt is over without a link, or a
link is lost that was there or is opened by the event itself. -/
def fails (s : Session) (event : Event) (left : Option Nat) : Bool :=
  (s.failure? event).isSome ||
    (s.link.isSome || s.opens event) && left.isNone && !event.dismisses

/-- The count of failures starts over: a link is opened, or the user connects anew where there is
neither link nor attempt, or the user logs out. -/
def startsOver (s : Session) : Event → Bool
  | .command (.reconnect _) => s.attempt.isNone && s.link.isNone
  | .command (.disconnect _) => true
  | event => s.opens event

/-- The state of the delays by which an event goes on. -/
def counted (s : Session) (event : Event) : Backoff :=
  if s.startsOver event then s.backoff.reset else s.backoff

/-- The user connects with a credential, or does not wait for the next attempt. -/
def Event.Hurries : Event → Prop
  | .command (.connect _ _) | .command (.wake _) => True
  | _ => False

/-! ### What events do -/

variable {m : Moment} {s : Session} {event : Event}

/-- An event that is aside ends no attempt and opens no link, and the count goes on.

**Proof sketch.** One case for each event, and for each command. Those that could end an attempt or
open a link have an outcome, an asker or a leaver, which an event that is aside has not. -/
lemma Aside.goes_on (h : s.Aside event) :
    s.failure? event = none ∧ s.opens event = false ∧ s.startsOver event = false := by
  have hasker := h.asker
  have hleaver := h.leaver
  have houtcome := h.outcome
  cases event with
  | command c =>
    cases c with
    | connect credential caller => cases hasker
    | reconnect caller => cases hasker
    | disconnect caller => cases hleaver
    | _ => exact ⟨rfl, rfl, rfl⟩
  | opened =>
    have hnot : ¬ s.Dialing := fun hdialing => by simp [outcome?, hdialing] at houtcome
    exact ⟨rfl, decide_eq_false hnot, decide_eq_false hnot⟩
  | acquired answer => exact ⟨Option.map_eq_none_iff.1 houtcome, rfl, rfl⟩
  | failed e => exact ⟨Option.map_eq_none_iff.1 houtcome, rfl, rfl⟩
  | expired => exact ⟨Option.map_eq_none_iff.1 houtcome, rfl, rfl⟩
  | _ => exact ⟨rfl, rfl, rfl⟩

/-- The end of an attempt without a link is no reason to start over. -/
lemma startsOver_of_failure {e : Error} (h : s.failure? event = some e) :
    s.startsOver event = false := by
  cases event with
  | command c => cases h
  | opened => cases h
  | _ => rfl

/-- An event that ends a link does not do so on purpose. -/
lemma dismisses_of_breaks (h : s.Breaks m event) : event.dismisses = false := by
  cases event with
  | command c =>
    cases c with
    | connect credential caller => cases h.1
    | disconnect caller => cases h.1
    | _ => rfl
  | _ => rfl

/-- An event that ends no attempt is no failure if it is on purpose, or leaves a link where there
was one. -/
lemma fails_eq_false {left : Option Nat} (hfailure : s.failure? event = none)
    (hkept : event.dismisses = true ∨ (left = none → s.link = none ∧ s.opens event = false)) :
    s.fails event left = false := by
  unfold fails
  rw [hfailure]
  rcases hkept with hpurpose | hkept
  · simp [hpurpose]
  · cases left with
    | some link => simp
    | none => simp [hkept rfl]

/-- What an event does to the count of failures and to the next attempt. -/
inductive Counts (m : Moment) (s : Session) (event : Event) (r : Report) : Prop
  /-- A failure is counted and sets the time of the next attempt, by the count that includes it. -/
  | failed (fails : s.fails event r.connection.link = true) (before : s.retryAt = none)
      (backoff : r.backoff = (s.counted event).next.2)
      (due : r.connection.retryAt = some (m.clock + (s.counted event).next.1.millis))
  /-- Another event leaves the next attempt alone, or cancels it. -/
  | went (fails : s.fails event r.connection.link = false) (backoff : r.backoff = s.counted event)
      (due : r.connection.retryAt = none ∨ r.connection.retryAt = s.retryAt)

/-- An event that is aside and leaves the link alone is no failure. -/
lemma Counts.of_aside {r : Report} (h : s.Aside event) (hlink : r.connection.link = s.link)
    (hbackoff : r.backoff = s.backoff)
    (hdue : r.connection.retryAt = none ∨ r.connection.retryAt = s.retryAt) :
    Counts m s event r := by
  obtain ⟨hfailure, hopens, hgoes⟩ := h.goes_on
  refine .went (fails_eq_false hfailure (.inr fun hleft => ⟨hlink.symm.trans hleft, hopens⟩)) ?_
    hdue
  rw [counted, hgoes, hbackoff]
  rfl

/-- **What every event does to the count.** What every event does to the count of failures and to
the next attempt.

**Proof sketch.** One case for each thing that an event can do. The attempt that fails, the link
that breaks off as it is opened and the link that is lost set the time of the next attempt with the
count one further on; for the second the count has started over. All others are no failure, and
leave the time or cancel it. -/
lemma Move.counts (hc : s.connection.Coherent) {r : Report} (h : Move m s event r) :
    Counts m s event r := by
  cases h with
  | passes h => exact .of_aside (aside_of_passes h) rfl rfl (.inr rfl)
  | grants asker granted =>
    cases event with
    | command c =>
      cases c with
      | connect credential caller => exact .went (fails_eq_false rfl (.inl rfl)) rfl (.inr rfl)
      | reconnect caller =>
        have hgoes : s.startsOver (.command (.reconnect caller)) = false := by
          rcases granted with hattempt | hlink
          · simp [startsOver, Option.isSome_iff_ne_none.1 hattempt]
          · simpa [startsOver] using fun _ => hlink
        refine .went (fails_eq_false rfl (.inr fun hleft => ⟨hleft, rfl⟩)) ?_ (.inr rfl)
        rw [counted, hgoes]
        rfl
      | _ => cases asker
    | _ => cases asker
  | joins credential caller attempt => exact .went (fails_eq_false rfl (.inl rfl)) rfl (.inr rfl)
  | calls credential caller deadline attempt other =>
    exact .went (fails_eq_false rfl (.inl rfl)) rfl (.inl rfl)
  | asks caller attempt link =>
    refine .went (fails_eq_false rfl (.inr fun _ => ⟨link, rfl⟩)) ?_ (.inl rfl)
    simp [counted, startsOver, attempt, link, Report.begin, Report.wait]
  | resumes h due => exact .of_aside (aside_of_resumes h) rfl rfl (.inl rfl)
  | dials answer other credential deadline attempt choice =>
    refine .of_aside ⟨rfl, rfl, ?_⟩ rfl rfl (.inr rfl)
    simp [outcome?, failure?, attempt, choice]
  | fails e failure =>
    have hattempt := attempt_of_failure failure
    obtain ⟨hbackoff, hdue⟩ := Report.fail_of_loggedIn m e (r := s.report .nothing)
      (loggedOut_of_attempt hc hattempt)
    have hcounted : s.counted event = s.backoff := by
      rw [counted, startsOver_of_failure failure]
      rfl
    refine .failed ?_ (hc.of_attempt hattempt).2.2 ?_ ?_
    · simp [Session.fails, failure]
    · rw [hcounted]
      exact hbackoff
    · rw [hcounted]
      exact hdue
  | opens credential deadline attempt =>
    have hdialing : s.Dialing := ⟨credential, deadline, attempt⟩
    have hstarts : s.startsOver .opened = true := decide_eq_true hdialing
    refine .went (fails_eq_false rfl (.inr fun hleft => by cases hleft)) ?_ (.inr rfl)
    rw [counted, hstarts]
    rfl
  | breaks credential deadline attempt =>
    -- The count has started over with the link, and the loss of the link is the first failure.
    have hdialing : s.Dialing := ⟨credential, deadline, attempt⟩
    have hstarts : s.startsOver .opened = true := decide_eq_true hdialing
    have hopens : s.opens .opened = true := decide_eq_true hdialing
    obtain ⟨hbackoff, hdue⟩ := Report.lose_of_loggedIn m
      (r := (s.report .nothing).welcome m credential) (loggedOut_of_attempt hc hdialing.isSome)
    have hcounted : s.counted .opened = s.backoff.reset := by
      rw [counted, hstarts]
      rfl
    refine .failed ?_ (hc.of_attempt hdialing.isSome).2.2 ?_ ?_
    · simp [Session.fails, hopens, Event.dismisses]
    · rw [hcounted]
      exact hbackoff
    · rw [hcounted]
      exact hdue
  | hears text link =>
    obtain ⟨heartbeat, delivered, hear, -⟩ := Report.hear_eq m text (s.report .nothing)
    rw [hear]
    exact .of_aside ⟨rfl, rfl, rfl⟩ rfl rfl (.inr rfl)
  | pings link due taken => exact .of_aside ⟨rfl, rfl, rfl⟩ rfl rfl (.inr rfl)
  | loses link broken =>
    obtain ⟨hbackoff, hdue⟩ := Report.lose_of_loggedIn m (r := s.report .nothing)
      (loggedOut_of_link hc link)
    have hcounted : s.counted event = s.backoff := by
      rw [counted, (aside_of_breaks broken).goes_on.2.2]
      rfl
    refine .failed ?_ (hc.of_link link).2.2 ?_ ?_
    · simp [Session.fails, link, dismisses_of_breaks broken]
    · rw [hcounted]
      exact hbackoff
    · rw [hcounted]
      exact hdue
  | listens kind listener => exact .of_aside ⟨rfl, rfl, rfl⟩ rfl rfl (.inr rfl)
  | unlistens kind id => exact .of_aside ⟨rfl, rfl, rfl⟩ rfl rfl (.inr rfl)
  | logsOut caller => exact .went (fails_eq_false rfl (.inl rfl)) rfl (.inl rfl)

/-- The user who does not wait for the next attempt cancels it, and the count goes on.

**Proof sketch.** One case for each of the two commands, and for each thing that it can do: to
connect with a credential finds a link, an attempt or neither, and to wake up finds a time or
not. -/
lemma Move.of_hurries (hc : s.connection.Coherent) {r : Report} (h : Move m s event r)
    (hevent : event.Hurries) :
    s.fails event r.connection.link = false ∧ s.startsOver event = false ∧
      r.connection.retryAt = none := by
  cases event with
  | command c =>
    cases c with
    | connect credential caller =>
      refine ⟨fails_eq_false rfl (.inl rfl), rfl, ?_⟩
      cases h with
      | passes h => exact h.elim
      | grants asker granted => exact (hc.of_link granted.2.1).2.2
      | joins credential caller attempt => exact (hc.of_attempt attempt).2.2
      | calls credential caller deadline attempt other => rfl
      | resumes h due => exact h.elim
      | fails e failure => cases failure
      | loses link broken => cases broken.1
    | wake reason =>
      cases h with
      | passes h => exact ⟨fails_eq_false rfl (.inr fun hleft => ⟨hleft, rfl⟩), rfl, h⟩
      | grants asker granted => cases asker
      | resumes h due =>
        exact ⟨fails_eq_false rfl (.inr fun _ => ⟨(hc.of_retryAt due).1, rfl⟩), rfl, rfl⟩
      | fails e failure => cases failure
      | loses link broken => cases broken.1
    | _ => exact hevent.elim
  | _ => exact hevent.elim

/-! ### Counting -/

/-- If the delays are those after some failures, an event goes on from there or from none. -/
lemma counted_eq {retry : Settings.Retry} {n : Nat} (h : s.backoff = retry.backoff n) :
    s.counted event = retry.backoff (if s.startsOver event then 0 else n) := by
  rw [counted, h, Settings.Retry.reset_backoff]
  split <;> rfl

variable {σ : Type} [Storage σ]

namespace Record

/-- The event was a failure. -/
def fails (r : Record σ) : Bool :=
  r.session.fails r.event r.turn.session.link

/-- The count of failures started over with the event. -/
def startsOver (r : Record σ) : Bool :=
  r.session.startsOver r.event

/-- The event set the time of the next attempt by a number of failures. -/
def Sets (retry : Settings.Retry) (n : Nat) (r : Record σ) : Prop :=
  1 ≤ n ∧ r.session.retryAt = none ∧
    r.turn.session.retryAt = some (r.moment.clock + retry.delay n)

end Record

/-- How many failures there have been since the count has started over, if it has. An event with
which it starts over may be the first failure itself. -/
def failures (past : List (Record σ)) : Nat :=
  past.foldl (fun n r => (if r.startsOver then 0 else n) + r.fails.toNat) 0

/-- How one more event counts. -/
lemma failures_concat (past : List (Record σ)) (r : Record σ) :
    failures (past ++ [r]) = (if r.startsOver then 0 else failures past) + r.fails.toNat := by
  simp [failures]

/-- What is to be said of the next attempt when an event has come after others: its time is set by
the number of failures up to and including the event. -/
structure Scheduled (retry : Settings.Retry) (past : List (Record σ)) (r : Record σ) : Prop where
  /-- A time that is there has been there before, or is set by the event. -/
  timer : ∀ due, r.turn.session.retryAt = some due →
    r.session.retryAt = some due ∨ r.Sets retry (failures (past ++ [r]))
  /-- Every failure sets the time. -/
  failure : r.fails → r.Sets retry (failures (past ++ [r]))
  /-- To connect with a credential and to wake up cancel the time, and leave the count alone. -/
  hurry : r.event.Hurries → r.turn.session.retryAt = none ∧
    failures (past ++ [r]) = failures past ∧ r.turn.session.backoff = r.session.backoff
  /-- The state of waiting for the next attempt has been there before with the same time, or is
  entered as the time is set. -/
  reconnecting : r.turn.session.publisher.current = .reconnecting →
    (r.session.publisher.current = .reconnecting ∧
      r.turn.session.retryAt = r.session.retryAt ∧ r.session.retryAt.isSome) ∨
    r.Sets retry (failures (past ++ [r]))

/-- **The delays are where the count is.** An event leaves the delays where the count is.

**Proof sketch.** By what the event does to the count (`Move.counts`). A failure takes the delays
one step on, from where the count is; anything else leaves them, or puts them back where the count
starts over. -/
lemma Record.counts {retry : Settings.Retry} (hretry : retry.check = .ok ()) {r : Record σ}
    (hc : r.session.connection.Coherent) {past : List (Record σ)}
    (h : r.session.backoff = retry.backoff (failures past)) :
    r.turn.session.backoff = retry.backoff (failures (past ++ [r])) ∧
      (r.fails = true ∧ r.Sets retry (failures (past ++ [r])) ∨
        r.fails = false ∧
          (r.turn.session.retryAt = none ∨ r.turn.session.retryAt = r.session.retryAt)) := by
  have hcounted : r.session.counted r.event =
      retry.backoff (if r.startsOver then 0 else failures past) := counted_eq h
  rw [failures_concat]
  cases (Record.move hc).counts hc with
  | failed hfails before backoff due =>
    have hfails : r.fails = true := hfails
    rw [hcounted, Settings.Retry.next_backoff] at backoff
    rw [hcounted, Settings.Retry.millis_next_backoff hretry] at due
    rw [hfails]
    exact ⟨backoff, .inl ⟨rfl, Nat.le_add_left 1 _, before, due⟩⟩
  | went hfails backoff due =>
    have hfails : r.fails = false := hfails
    rw [hfails]
    exact ⟨backoff.trans hcounted, .inr ⟨rfl, due⟩⟩

/-- The next attempt is scheduled by every event that meets the delays where the count is.

**Proof sketch.** A time that is set is set by a failure, and then by the delays where the count is
(`Record.counts`). An event that hurries is no failure and cancels (`Move.of_hurries`). For the
state: reconnecting means that there is a time, which was there before, and then so was the state,
or it is set by this event. -/
lemma scheduled_of_backoff {retry : Settings.Retry} (hretry : retry.check = .ok ()) {r : Record σ}
    (hc : r.session.connection.Coherent) {past : List (Record σ)}
    (h : r.session.backoff = retry.backoff (failures past)) : Scheduled retry past r := by
  obtain ⟨hbackoff, hcounts⟩ := Record.counts hretry hc h
  have htimer : ∀ due, r.turn.session.retryAt = some due →
      r.session.retryAt = some due ∨ r.Sets retry (failures (past ++ [r])) := by
    intro due hdue
    rcases hcounts with ⟨-, hsets⟩ | ⟨-, hnone | hsame⟩
    · exact .inr hsets
    · cases hnone.symm.trans hdue
    · exact .inl (hsame.symm.trans hdue)
  refine ⟨htimer, ?_, ?_, ?_⟩
  · intro hfails
    rcases hcounts with ⟨-, hsets⟩ | ⟨hnot, -⟩
    · exact hsets
    · cases hnot.symm.trans hfails
  · intro hevent
    obtain ⟨hfails, hgoes, hcancelled⟩ := (Record.move hc).of_hurries hc hevent
    have hfails : r.fails = false := hfails
    have hgoes : r.startsOver = false := hgoes
    have hsame : failures (past ++ [r]) = failures past := by
      rw [failures_concat, hgoes, hfails]
      rfl
    exact ⟨hcancelled, hsame, by rw [hbackoff, hsame, h]⟩
  · -- The state says that there is a time.
    intro hstate
    obtain ⟨hsome, -⟩ := ((Record.coherent hc).shape .reconnecting).2 hstate.symm
    obtain ⟨due, hdue⟩ := Option.isSome_iff_exists.1 hsome
    have hdue : r.turn.session.retryAt = some due := hdue
    rcases htimer due hdue with hbefore | hsets
    · have hthere : r.session.connection.retryAt.isSome := by
        show r.session.retryAt.isSome
        rw [hbefore]
        rfl
      obtain ⟨hlink, hattempt, -⟩ := hc.of_retryAt hthere
      have hsame := (hc.shape .reconnecting).1 ⟨hthere, hlink, hattempt⟩
      exact .inl ⟨hsame.symm, hdue.trans hbefore.symm, hthere⟩
    · exact .inr hsets

/-! ### Runs -/

/-- Before every event of a run the connection is coherent and the delays are where the count is. -/
lemma backoff_trace {settings : Settings} {target : Settings.Target} {began : Timestamp}
    {stored store : σ} {s : Session} {events : List (Moment × Event)}
    (hretry : settings.retry.check = .ok ())
    (hstart : start began settings target stored = (s, store))
    {before after : List (Record σ)} {r : Record σ}
    (htrace : trace events s store = before ++ r :: after) :
    r.session.connection.Coherent ∧
      r.session.backoff = settings.retry.backoff (failures before) := by
  refine history_trace (P := fun past s _ => s.connection.Coherent ∧
    s.backoff = settings.retry.backoff (failures past)) ?_ ?_ htrace
  · rintro past r - ⟨hc, h⟩
    exact ⟨Record.coherent hc, (Record.counts hretry hc h).1⟩
  · obtain ⟨rfl, rfl⟩ := Prod.ext_iff.1 hstart
    exact ⟨coherent_start began settings target stored, rfl⟩

/-- **The failures in a row decide when the next attempt is due.** With valid settings, every time
that is set for the next attempt is the base delay from now, doubled with every failure but the
first, and at most the longest delay. The failures are those since the session has begun, since the
last link has been opened, since the user has last connected anew, and since the user has last
logged out, whichever was last. To connect with a credential and not to wait cancel the next attempt
and count for nothing, and the state of waiting for the next attempt is entered only as its time is
set.

**Proof sketch.** The delays are where the count is, which every event keeps (`backoff_trace`), so
that every event schedules by the count (`scheduled_of_backoff`). The count in the delays stays at a
highest number, but the longest delay has been reached long before. -/
theorem retry_schedule {settings : Settings} {target : Settings.Target} {began : Timestamp}
    {stored store : σ} {s : Session} {events : List (Moment × Event)}
    (hsettings : settings.target = .ok target)
    (hstart : start began settings target stored = (s, store))
    {before after : List (Record σ)} {r : Record σ}
    (htrace : trace events s store = before ++ r :: after) :
    Scheduled settings.retry before r := by
  obtain ⟨-, -, hretry, -⟩ := Settings.sections_of_target hsettings
  obtain ⟨hc, hbackoff⟩ := backoff_trace hretry hstart htrace
  exact scheduled_of_backoff hretry hc hbackoff

namespace Sample

/-- An attempt fails, the user does not wait for the next one, and the provider has nothing. -/
def failing : List (Moment × Event) :=
  [(taking 0, .command (.connect "key" 0)), (taking 0, .failed Transport.linkLost),
    (taking 0, .command (.wake .online)), (taking 0, .acquired (.ok none))]

end Sample

/-- After the second failure in a row the next attempt is due two seconds later, although the user
has not waited in between. -/
theorem retry_schedule_second :
    ∃ s store before r,
      start Sample.epoch Sample.settings Sample.target (⟨[]⟩ : Store.Memory) = (s, store) ∧
      trace Sample.failing s store = before ++ [r] ∧ r.Sets Sample.settings.retry 2 ∧
      r.turn.session.retryAt = some 2000 := by
  obtain ⟨first, hfirst⟩ : ∃ first,
    start Sample.epoch Sample.settings Sample.target (⟨[]⟩ : Store.Memory) = first := ⟨_, rfl⟩
  have htrace := trace_concat (Sample.failing.take 3) (Sample.taking 0) (.acquired (.ok none))
    first.1 first.2
  have hscheduled : Scheduled Sample.settings.retry _ _ := retry_schedule rfl hfirst htrace
  have hsets := hscheduled.failure (by rw [← hfirst]; rfl)
  rw [show failures _ = 2 by rw [← hfirst]; rfl] at hsets
  exact ⟨first.1, first.2, _, _, hfirst, htrace, hsets, hsets.2.2⟩

end Messenger.Session
