import Messenger.Proofs.Session.Account
import Messenger.Proofs.Session.History
import Messenger.Proofs.Session.Move

set_option relaxedAutoImplicit false
set_option autoImplicit false

/-!
# What events do to the heartbeat

The heartbeat is started along with a link and stopped along with it. In between it pings the server
when that is due, waits for an answer, and gives up the link if there is none.

## Main definitions

* `Messenger.Session.Record.pings`: the links on which the server was pinged by an event.
* `Messenger.Session.Record.Pongs`: an answer to a ping came by an event.
* `Messenger.Session.Record.TimesOut`: the watchdog runs out by an event.
* `Messenger.Session.Record.OnTime`: an event is handled no later than the heartbeat has something
  due.

## Main results

* `Messenger.Session.Record.held_cases`: what an event is for the heartbeat of a link that stays
  open.
-/

namespace Messenger.Session

/-- An answer to a ping comes by an event. -/
def Event.Pongs (m : Moment) : Event → Prop
  | .received text => ∃ e, Envelope.decode m.stamp text = .ok e ∧ e.kind = .pong
  | _ => False

/-! ### Moves -/

namespace Move

variable {m : Moment} {s : Session} {event : Event} {r : Report}

/-- Interval and timeout are always the same.

**Proof sketch.** All that can be done to a heartbeat is to start, to stop, to poll, to arm and to
disarm it, and none of these touches the settings in it. -/
lemma pulse_eq (h : Move m s event r) :
    r.connection.heartbeat.interval = s.heartbeat.interval ∧
      r.connection.heartbeat.timeout = s.heartbeat.timeout := by
  cases h with
  | fails e failure =>
    rw [Report.heartbeat_fail]
    exact ⟨rfl, rfl⟩
  | opens credential deadline attempt => exact Heartbeat.pulse_start m.clock s.heartbeat
  | breaks credential deadline attempt =>
    rw [Report.heartbeat_lose]
    exact Heartbeat.pulse_start m.clock s.heartbeat
  | hears text link =>
    obtain ⟨heartbeat, delivered, hear, rfl | ⟨e, -, -, rfl⟩⟩ :=
      Report.hear_eq m text (s.report .nothing) <;> rw [hear] <;> exact ⟨rfl, rfl⟩
  | pings link due taken => exact Heartbeat.pulse_poll m.pingFirst m.clock s.heartbeat
  | loses link broken =>
    rw [Report.heartbeat_lose]
    exact ⟨rfl, rfl⟩
  | _ => exact ⟨rfl, rfl⟩

/-- What an event does to the heartbeat of a link that stays open.

**Proof sketch.** One case for each thing that an event can do. With a link there is neither an
attempt nor a time for the next one, and a link that stays open has been neither dropped nor lost.
What is left is a text, which is an answer or not, a ping, and what does nothing to the
heartbeat. -/
lemma of_held (hc : s.connection.Coherent) (h : Move m s event r) (hlink : s.link.isSome)
    (hheld : r.connection.link.isSome) :
    (¬ event.Pongs m ∧ r.connection.heartbeat = s.heartbeat ∧
        (event = .beat → (s.heartbeat.poll m.pingFirst m.clock).1 = none)) ∨
      (event.Pongs m ∧ r.connection.heartbeat = s.heartbeat.pong) ∨
      (event = .beat ∧ (s.heartbeat.poll m.pingFirst m.clock).1 = some .ping ∧ m.accepts 0 ∧
        r.connection.heartbeat = (s.heartbeat.poll m.pingFirst m.clock).2.arm m.clock) := by
  have hgone : r.connection.link ≠ none := by
    intro hnone
    simp [hnone] at hheld
  have hopen : s.link ≠ none := by
    intro hnone
    simp [hnone] at hlink
  -- An attempt, and the time of the next one, are there only without a link.
  have hattempt : s.attempt = none := (hc.of_link hlink).2.1
  have hretry : s.retryAt = none := (hc.of_link hlink).2.2
  cases h with
  | passes h =>
    refine .inl ⟨?_, rfl, fun hbeat => by subst hbeat; exact h⟩
    intro hpongs
    cases event with
    | received text => exact hopen h
    | _ => exact hpongs
  | grants asker granted =>
    refine .inl ⟨?_, rfl, fun hbeat => by subst hbeat; cases asker⟩
    intro hpongs
    cases event with
    | received text => cases asker
    | _ => exact hpongs
  | calls => exact absurd rfl hgone
  | asks caller attempt hnone => exact absurd hnone hopen
  | resumes h due => simp [hretry] at due
  | fails e failure =>
    have hsome := attempt_of_failure failure
    simp [hattempt] at hsome
  | opens credential deadline attempt => simp [hattempt] at attempt
  | breaks credential deadline attempt => simp [hattempt] at attempt
  | loses => exact absurd (Report.link_lose _ _) hgone
  | logsOut => exact absurd rfl hgone
  | hears text link =>
    unfold Report.hear
    split
    · next err hdecode =>
      refine .inl ⟨?_, rfl, by simp⟩
      rintro ⟨e, hok, -⟩
      cases hdecode.symm.trans hok
    · next e hdecode =>
      split
      · next hpong => exact .inr (.inl ⟨⟨e, hdecode, hpong⟩, rfl⟩)
      · next hpong =>
        refine .inl ⟨?_, rfl, by simp⟩
        rintro ⟨e', hok, hpong'⟩
        obtain rfl := Except.ok.inj (hdecode.symm.trans hok)
        exact hpong hpong'
  | pings link due taken => exact .inr (.inr ⟨rfl, due, taken, rfl⟩)
  | joins credential caller attempt => simp [hattempt] at attempt
  | dials answer other credential deadline attempt choice => simp [hattempt] at attempt
  | listens kind listener => exact .inl ⟨id, rfl, by simp⟩
  | unlistens kind id => exact .inl ⟨fun h => h, rfl, by simp⟩

/-- What the heartbeat does: nothing, or it pings the server and arms the watchdog, or it gives up
the link. -/
lemma of_beat (h : Move m s .beat r) :
    ((s.heartbeat.poll m.pingFirst m.clock).1 = none ∧ r = s.report .nothing) ∨
      ((s.heartbeat.poll m.pingFirst m.clock).1 = some .ping ∧ m.accepts 0 ∧
        r = (s.report .nothing).beat
          ((s.heartbeat.poll m.pingFirst m.clock).2.arm m.clock)) ∨
      (s.Breaks m .beat ∧ r = (s.report .nothing).lose m) := by
  cases h with
  | passes h => exact .inl ⟨h, rfl⟩
  | grants asker granted => cases asker
  | resumes h due => exact h.elim
  | fails e failure => cases failure
  | pings link due taken => exact .inr (.inl ⟨due, taken, rfl⟩)
  | loses link broken => exact .inr (.inr ⟨broken, rfl⟩)

/-- A new link has a heartbeat that was started when it was opened.

**Proof sketch.** Only one thing that an event can do leaves a link where there was none. The
heartbeat was at rest before, as without a link it is. -/
lemma of_new_link (hc : s.connection.Coherent) (h : Move m s event r) (hlink : s.link = none)
    (hheld : r.connection.link.isSome) :
    s.heartbeat.watchdog = none ∧
      r.connection.heartbeat =
        { s.heartbeat with ticker := some (m.clock + s.heartbeat.interval) } := by
  obtain ⟨link, hsome⟩ := Option.isSome_iff_exists.1 hheld
  have hbare := hc.bare hlink
  cases h with
  | opens credential deadline attempt =>
    exact ⟨hbare.watchdog, Heartbeat.start_of_none hbare.ticker m.clock⟩
  | fails e failure =>
    rw [Report.link_fail] at hsome
    cases hlink.symm.trans hsome
  | calls => cases hsome
  | breaks =>
    rw [Report.link_lose] at hsome
    cases hsome
  | loses =>
    rw [Report.link_lose] at hsome
    cases hsome
  | logsOut => cases hsome
  | hears text link => simp [hlink] at link
  | _ => cases hlink.symm.trans hsome

end Move

/-! ### Events -/

variable {σ : Type}

namespace Record

/-- An answer to a ping came by the event. -/
def Pongs (r : Record σ) : Prop :=
  r.event.Pongs r.moment

/-- The watchdog runs out by the event. -/
def TimesOut (r : Record σ) : Prop :=
  r.event = .beat ∧
    (r.session.heartbeat.poll r.moment.pingFirst r.moment.clock).1 = some .timeout

/-- The event is handled no later than the heartbeat has something due. -/
def OnTime (r : Record σ) : Prop :=
  r.session.heartbeat.OnTime r.moment.clock

instance (r : Record σ) : Decidable r.OnTime :=
  inferInstanceAs (Decidable (r.session.heartbeat.OnTime r.moment.clock))

variable [Storage σ]

/-- The links on which the heartbeat has pinged the server by the event. -/
def pings (r : Record σ) : List Nat :=
  match r.event with
  | .beat => (r.turn.outbox.frames.filter (·.2.kind = .ping)).map (·.1)
  | _ => []

end Record

variable [Storage σ]

/-- What the heartbeat writes: a ping, if that is due and the link takes it.

**Proof sketch.** By what is due. Nothing is due without a link, since the ticker runs with it. The
loss of a link writes nothing. -/
lemma frames_beat {s : Session} (hc : s.connection.Coherent) (m : Moment) (store : σ) :
    (step m .beat s store).outbox.frames =
      if (s.heartbeat.poll m.pingFirst m.clock).1 = some .ping ∧ m.accepts 0 then
        s.link.toList.map (·, Turn.envelope m .ping (.object []))
      else [] := by
  have hlinked : (s.heartbeat.poll m.pingFirst m.clock).1.isSome → s.link.isSome := by
    rw [← show s.heartbeat.ticker.isSome = s.link.isSome from hc.ticker]
    exact (Heartbeat.isSome_poll m.pingFirst m.clock s.heartbeat).1
  show ((s.turn store).beat m).outbox.frames = _
  rw [Turn.beat_eq, show (s.turn store).session = s from rfl]
  cases hdue : (s.heartbeat.poll m.pingFirst m.clock).1 with
  | none => rfl
  | some event =>
    obtain ⟨link, hlink⟩ := Option.isSome_iff_exists.1 (hlinked (by rw [hdue]; rfl))
    cases event with
    | timeout => exact (Turn.quiet_lose m _).frames
    | ping =>
      unfold Turn.ping
      by_cases htaken : m.accepts 0
      · simp [hlink, htaken, Outbox.transmit, Session.turn, Outbox.empty, Outbox.frames, Outbox.add,
          Effect.frame?]
      · simp only [hlink, htaken, Outbox.transmit, Session.turn, Outbox.empty]
        exact (Turn.quiet_lose m _).frames

namespace Record

variable {r : Record σ} {link : Nat}

/-- The server is pinged on a link exactly if the link is there, a ping is due and the link takes
it. -/
lemma pings_eq (hc : r.session.connection.Coherent) (hbeat : r.event = .beat) :
    r.pings = if (r.session.heartbeat.poll r.moment.pingFirst r.moment.clock).1 = some .ping ∧
      r.moment.accepts 0 then r.session.link.toList else [] := by
  have hframes : r.turn.outbox.frames = _ := hbeat ▸ frames_beat hc r.moment r.store
  unfold pings
  rw [hbeat]
  dsimp only
  rw [hframes]
  split
  · cases r.session.link <;> simp [Turn.envelope]
  · rfl

/-- Only the heartbeat pings the server. -/
lemma pings_of_ne (h : r.event ≠ .beat) : r.pings = [] := by
  unfold pings
  split
  · next hbeat => exact absurd hbeat h
  · rfl

/-- **What an event is for an open link.** What an event is for the heartbeat of a link that it
leaves open: a ping on time, after which the next one is due in an interval and the watchdog is
armed, or an answer, or nothing.

**Proof sketch.** The three cases of `Move.of_held`. An event on time that finds a ping due comes
when the ticker says so (`OnTime.ping`), so that the next tick is one interval from now. -/
lemma held_cases (hc : r.session.connection.Coherent) (htime : r.OnTime) (h : r.Holds link) :
    (¬ r.Pongs ∧ r.pings = [link] ∧ r.session.heartbeat.ticker = some r.moment.clock ∧
      r.turn.session.heartbeat = { r.session.heartbeat with
        ticker := some (r.moment.clock + r.session.heartbeat.interval)
        watchdog := some (r.moment.clock + r.session.heartbeat.timeout) }) ∨
    (r.Pongs ∧ r.pings = [] ∧ r.turn.session.heartbeat = r.session.heartbeat.pong) ∨
    (¬ r.Pongs ∧ r.pings = [] ∧ r.turn.session.heartbeat = r.session.heartbeat) := by
  have hmove := r.move hc
  have hlink : r.session.link.isSome := by rw [h.1]; rfl
  have hheld : r.turn.session.link.isSome := by rw [h.2]; rfl
  rcases hmove.of_held hc hlink hheld with ⟨hpongs, hsame, hnone⟩ | ⟨hpongs, hpong⟩ |
    ⟨hbeat, hdue, htaken, harm⟩
  · refine .inr (.inr ⟨hpongs, ?_, hsame⟩)
    by_cases hbeat : r.event = .beat
    · rw [pings_eq hc hbeat, hnone hbeat, if_neg (by simp)]
    · exact pings_of_ne hbeat
  · refine .inr (.inl ⟨hpongs, pings_of_ne ?_, hpong⟩)
    intro hbeat
    rw [hbeat] at hpongs
    exact hpongs
  · obtain ⟨hticker, hpoll⟩ := htime.ping hdue
    refine .inl ⟨?_, ?_, hticker, ?_⟩
    · intro hpongs
      rw [Pongs, hbeat] at hpongs
      exact hpongs
    · rw [pings_eq hc hbeat, if_pos ⟨hdue, htaken⟩, h.1]
      rfl
    · have harm : r.turn.session.heartbeat = _ := harm
      rw [harm, hpoll]
      rfl

/-- An event that leaves a link open is a ping on time, with which the ticker moves on by one
interval, or it leaves the ticker alone. -/
lemma ticker_of_held (hc : r.session.connection.Coherent) (htime : r.OnTime) (h : r.Holds link) :
    (r.pings = [link] ∧ r.session.heartbeat.ticker = some r.moment.clock ∧
      r.turn.session.heartbeat.ticker =
        some (r.moment.clock + r.session.heartbeat.interval)) ∨
    (r.pings = [] ∧ r.turn.session.heartbeat.ticker = r.session.heartbeat.ticker) := by
  rcases held_cases hc htime h with ⟨-, hpings, hnow, hnew⟩ | ⟨-, hpings, hnew⟩ | ⟨-, hpings, hnew⟩
  · exact .inl ⟨hpings, hnow, congrArg Heartbeat.ticker hnew⟩
  · exact .inr ⟨hpings, by rw [hnew]; rfl⟩
  · exact .inr ⟨hpings, by rw [hnew]⟩

/-- A link that is there before and after an event is the same. -/
lemma holds_of_isSome (hc : r.session.connection.Coherent) (hlink : r.session.link = some link)
    (hheld : r.turn.session.link.isSome) : r.Holds link := by
  have hmove := r.move hc
  obtain ⟨other, hother⟩ := Option.isSome_iff_exists.1 hheld
  rcases hmove.of_link hc hother with ⟨hsame, -⟩ | ⟨credential, deadline, -, hattempt, -⟩
  · obtain rfl := Option.some.inj (hlink.symm.trans hsame)
    exact ⟨hlink, hother⟩
  · have hnone : r.session.attempt = none := (hc.of_link (by rw [show
      r.session.connection.link = r.session.link from rfl, hlink]; rfl)).2.1
    cases hnone.symm.trans hattempt

/-- A ping on a link leaves it open.

**Proof sketch.** Only the heartbeat pings, on the link that is there, and if that takes the ping.
Of what the heartbeat can do only one thing fits that, and it keeps the link. -/
lemma holds_of_pings (hc : r.session.connection.Coherent) (h : link ∈ r.pings) :
    r.Holds link := by
  have hbeat : r.event = .beat := by
    by_contra hne
    simp [pings_of_ne hne] at h
  have hmove : Move r.moment r.session .beat r.turn.report :=
    hbeat ▸ r.move hc
  rw [pings_eq hc hbeat] at h
  split at h
  · next hdue =>
    have hlink : r.session.link = some link := Option.mem_toList.1 h
    refine ⟨hlink, ?_⟩
    rcases hmove.of_beat with ⟨hnone, -⟩ | ⟨-, -, hreport⟩ | ⟨htimeout | ⟨-, hrefused⟩, -⟩
    · cases hdue.1.symm.trans hnone
    · exact (congrArg (·.connection.link) hreport).trans hlink
    · cases hdue.1.symm.trans htimeout
    · exact absurd hdue.2 hrefused
  · cases h

end Record

end Messenger.Session
