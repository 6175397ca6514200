import Messenger.Proofs.Session.Closing
import Messenger.Proofs.Session.Pulse

set_option relaxedAutoImplicit false
set_option autoImplicit false

/-!
# Links that are alive

While a link is open the server is pinged once in every interval. If there is no answer in time the
link is given up. All this holds to the millisecond if every event is handled no later than the
heartbeat has something due.

## Main definitions

* `Messenger.Session.Awaiting`: a watchdog goes back to a ping that has not been answered.

## Main results

* `Messenger.Session.liveness`: pings are sent on time, and a link is given up exactly if an answer
  is missing.
-/

namespace Messenger.Session

variable {σ : Type} [Storage σ]

/-! ### What the watchdog waits for -/

/-- A watchdog that is armed goes back to a ping on the link, since when the link has been open and
there was no answer. -/
structure Awaiting (interval timeout : Nat) (past : List (Record σ)) (s : Session) : Prop where
  coherent : s.connection.Coherent
  interval_eq : s.heartbeat.interval = interval
  timeout_eq : s.heartbeat.timeout = timeout
  watchdog : ∀ dog, s.heartbeat.watchdog = some dog → ∃ link, s.link = some link ∧
    Since (fun _ p => link ∈ p.pings ∧ p.moment.clock + timeout = dog)
      (fun x => x.Holds link ∧ ¬ x.Pongs) past

/-- Every event on time keeps that.

**Proof sketch.** A watchdog that is armed afterwards means that the link is open, and that it was
there before, as a new link has none. For a link that stays an event is one of three things
(`held_cases`): a ping, which is the one that the watchdog goes back to; an answer, which leaves no
watchdog; or nothing, and then the ping lies in the past. -/
lemma awaiting_step {interval timeout : Nat} {past : List (Record σ)} {r : Record σ}
    (h : Awaiting interval timeout past r.session) (htime : r.OnTime) :
    Awaiting interval timeout (past ++ [r]) r.turn.session := by
  have hc := h.coherent
  have hc' := r.coherent hc
  have hmove := r.move hc
  refine ⟨hc', hmove.pulse_eq.1.trans h.interval_eq, hmove.pulse_eq.2.trans h.timeout_eq, ?_⟩
  intro dog hdog
  have hheld : r.turn.session.link.isSome := hc'.watchdog (by
    rw [show r.turn.session.connection.heartbeat = r.turn.session.heartbeat from rfl, hdog]
    rfl)
  cases hlink : r.session.link with
  | none =>
    obtain ⟨hnone, hnew⟩ := hmove.of_new_link hc hlink hheld
    have hdog' := congrArg Heartbeat.watchdog hnew
    cases (hdog.symm.trans hdog').trans hnone
  | some link =>
    have hholds := Record.holds_of_isSome hc hlink hheld
    refine ⟨link, hholds.2, ?_⟩
    rcases r.held_cases hc htime hholds with ⟨-, hpings, -, hnew⟩ | ⟨-, -, hpong⟩ |
      ⟨hpongs, -, hsame⟩
    · rw [hnew, h.timeout_eq] at hdog
      exact .last ⟨by rw [hpings]; exact List.mem_singleton_self link, Option.some.inj hdog⟩
    · rw [hpong] at hdog
      cases hdog
    · rw [hsame] at hdog
      obtain ⟨other, hother, hsince⟩ := h.watchdog dog hdog
      obtain rfl := Option.some.inj (hlink.symm.trans hother)
      exact hsince.concat ⟨hholds, hpongs⟩

/-! ### What comes after a ping -/

/-- While a link is open, pings go out when the ticker says so, and at no other time.

**Proof sketch.** Induction on the events. Each of them is a ping, which comes when the ticker says
so and moves it on by one interval, or it leaves the ticker alone. -/
lemma pings_of_held {s : Session} (hc : s.connection.Coherent) {events : List (Moment × Event)}
    {store : σ} {mid after : List (Record σ)} (htrace : trace events s store = mid ++ after)
    (htime : ∀ r ∈ trace events s store, r.OnTime) {link tick : Nat}
    (hticker : s.heartbeat.ticker = some tick) (hheld : ∀ x ∈ mid, x.Holds link) :
    ∃ n, (mid.flatMap fun x => x.pings.map (·, x.moment.clock)) =
        (List.range n).map (fun k => (link, tick + k * s.heartbeat.interval)) ∧
      ∀ q ∈ after.head?, q.moment.clock ≤ tick + n * s.heartbeat.interval := by
  induction mid generalizing events s store tick with
  | nil =>
    refine ⟨0, rfl, ?_⟩
    intro q hq
    obtain ⟨rest, rfl⟩ := List.head?_eq_some_iff.1 hq
    obtain ⟨rfl, -, -⟩ := trace_eq_cons htrace
    have hle := (htime q (by simp [htrace])).le_tick hticker
    omega
  | cons x mid ih =>
    have htrace : trace events s store = x :: (mid ++ after) := htrace
    obtain ⟨rfl, -, rest, hrest⟩ := trace_eq_cons htrace
    have hafter : ∀ r ∈ trace rest x.turn.session x.turn.store, r.OnTime := by
      intro r hr
      rw [← hrest] at hr
      exact htime r (htrace ▸ List.mem_cons_of_mem x hr)
    have hholds := hheld x (by simp)
    have hinterval : x.turn.session.heartbeat.interval = x.session.heartbeat.interval :=
      (x.move hc).pulse_eq.1
    have hlater : ∀ {tick' : Nat}, x.turn.session.heartbeat.ticker = some tick' → _ :=
      fun hticker' => ih (x.coherent hc) hrest.symm hafter hticker'
        fun y hy => hheld y (by simp [hy])
    rcases x.ticker_of_held hc (htime x (by simp [htrace])) hholds with ⟨hpings, hnow, hnew⟩ |
      ⟨hpings, hnew⟩
    -- This event is a ping, and the others are counted from the next tick on.
    · obtain rfl : x.moment.clock = tick := Option.some.inj (hnow.symm.trans hticker)
      obtain ⟨n, htimes, hnext⟩ := hlater hnew
      rw [hinterval] at htimes hnext
      refine ⟨n + 1, ?_, fun q hq => ?_⟩
      · rw [List.flatMap_cons, htimes, hpings, List.map_singleton, List.range_succ_eq_map,
          List.map_cons, List.map_map]
        refine congrArg₂ List.cons (by simp) (List.map_congr_left fun k _ => ?_)
        simp only [Function.comp_apply, Nat.succ_eq_add_one, Nat.add_mul, Nat.one_mul]
        congr 1
        omega
      · have hle := hnext q hq
        rw [Nat.add_mul]
        omega
    · obtain ⟨n, htimes, hnext⟩ := hlater (hnew.trans hticker)
      rw [hinterval] at htimes hnext
      exact ⟨n, by rw [List.flatMap_cons, htimes, hpings]; rfl, hnext⟩

/-- What the end of the watchdog does: the link is closed and given up, and the next attempt is
scheduled.

**Proof sketch.** Of the three things that the heartbeat can do (`Move.of_beat`) only the loss of
the link fits. With a link the user is not logged out, so that the loss schedules the next
attempt. -/
lemma Record.of_timesOut {r : Record σ} (hc : r.session.connection.Coherent) (h : r.TimesOut)
    {link : Nat} (hlink : r.session.link = some link) :
    r.closed = [link] ∧ r.turn.session.link = none ∧
      r.turn.session.publisher.current = .reconnecting ∧
      r.turn.session.publisher.cell = .reconnecting ∧ r.turn.session.retryAt.isSome := by
  have hmove : Move r.moment r.session .beat r.turn.report :=
    h.1 ▸ r.move hc
  have hlost : r.turn.report = (r.session.report .nothing).lose r.moment := by
    rcases hmove.of_beat with ⟨hnone, -⟩ | ⟨hping, -, -⟩ | ⟨-, hlost⟩
    · cases h.2.symm.trans hnone
    · cases h.2.symm.trans hping
    · exact hlost
  have hlogged : r.session.loggedOut = false := loggedOut_of_link hc (by rw [hlink]; rfl)
  have hclosed : r.closed = r.session.link.toList := congrArg (·.said.closed) hlost
  have hretry : r.turn.session.connection = { r.session.connection.drop.publish .reconnecting with
      retryAt := some (r.moment.clock + r.session.backoff.next.1.millis), rejoins := true } := by
    refine (congrArg (·.connection) hlost).trans ?_
    exact if_neg (by simpa [Report.drop, Connection.drop, Session.report, connection] using hlogged)
  have hcell := (r.coherent hc).cell
  have hstate : r.turn.session.publisher.current = .reconnecting :=
    congrArg Connection.state hretry
  refine ⟨by rw [hclosed, hlink]; rfl, congrArg Connection.link hretry, hstate, ?_, ?_⟩
  · exact hcell.trans hstate
  · exact congrArg (Option.isSome ·.retryAt) hretry

/-- If the watchdog is armed and nothing comes in between, then it runs out.

**Proof sketch.** Induction on the events. No event passes the watchdog by, since all are on time.
An event before its end that leaves the link open is no answer, and no ping either, since the next
ping is due after the end of the watchdog: the heartbeat stays as it is. Only the heartbeat gives
the link up, and for the same reason that is not because of a ping. -/
lemma timesOut_of_unanswered {s : Session} (hc : s.connection.Coherent)
    {events : List (Moment × Event)} {store : σ} {mid after : List (Record σ)} {q : Record σ}
    (htrace : trace events s store = mid ++ q :: after)
    (htime : ∀ r ∈ trace events s store, r.OnTime) {link tick dog : Nat}
    (hlink : s.link = some link) (hticker : s.heartbeat.ticker = some tick)
    (hdog : s.heartbeat.watchdog = some dog) (hlt : dog < tick) (hq : dog < q.moment.clock)
    (hquiet : ∀ x ∈ mid, x.session.link = some link → x.moment.clock ≤ dog →
      ¬ x.Pongs ∧ (x.turn.session.link = none → x.event = .beat)) :
    ∃ mid₁ b mid₂, mid = mid₁ ++ b :: mid₂ ∧ b.TimesOut ∧ b.moment.clock = dog ∧
      b.session.link = some link ∧ b.session.connection.Coherent ∧
      ∀ x ∈ mid₁, x.Holds link ∧ x.pings = [] := by
  have hrunning : s.heartbeat.ticker.isSome := by rw [hticker]; rfl
  induction mid generalizing events s store with
  | nil =>
    obtain ⟨rfl, -, -⟩ := trace_eq_cons htrace
    have hle := (htime q (by simp [htrace])).le_dog hrunning hdog
    omega
  | cons x mid ih =>
    have htrace : trace events s store = x :: (mid ++ q :: after) := htrace
    obtain ⟨rfl, -, rest, hrest⟩ := trace_eq_cons htrace
    have hafter : ∀ r ∈ trace rest x.turn.session x.turn.store, r.OnTime := by
      intro r hr
      rw [← hrest] at hr
      exact htime r (htrace ▸ List.mem_cons_of_mem x hr)
    have hxtime := htime x (by simp [htrace])
    have hxdog := hxtime.le_dog hrunning hdog
    have hnotick : x.session.heartbeat.ticker ≠ some x.moment.clock := by
      rw [hticker]
      intro hnow
      have := Option.some.inj hnow
      omega
    obtain ⟨hpongs, hgiven⟩ := hquiet x (by simp) hlink hxdog
    cases hgone : x.turn.session.link with
    | none =>
      -- The link is given up, so this is the heartbeat, and the watchdog is the reason.
      have hbeat := hgiven hgone
      have hmove : Move x.moment x.session .beat x.turn.report :=
        hbeat ▸ x.move hc
      have hopen : ∀ report : Report, report.connection.link = x.session.link →
          x.turn.report ≠ report := by
        rintro report hsame rfl
        cases (hgone.symm.trans hsame).trans hlink
      rcases hmove.of_beat with ⟨-, hsame⟩ | ⟨-, -, hsame⟩ | ⟨htimeout | ⟨hping, -⟩, -⟩
      · exact absurd hsame (hopen _ rfl)
      · exact absurd hsame (hopen _ rfl)
      · have hnow := hxtime.timeout htimeout
        refine ⟨[], x, mid, rfl, ⟨hbeat, htimeout⟩, ?_, hlink, hc, by simp⟩
        exact Option.some.inj (hnow.symm.trans hdog)
      · exact absurd (hxtime.ping hping).1 hnotick
    | some other =>
      -- The link stays, and with it the heartbeat.
      have hholds := Record.holds_of_isSome hc hlink (by rw [hgone]; rfl)
      rcases x.held_cases hc hxtime hholds with ⟨-, -, hnow, -⟩ | ⟨hpong, -, -⟩ | ⟨-, hpings, hsame⟩
      · exact absurd hnow hnotick
      · exact absurd hpong hpongs
      · obtain ⟨mid₁, b, mid₂, rfl, htimesOut, hclock, hb, hbc, hbefore⟩ :=
          ih (x.coherent hc) hrest.symm hafter hholds.2 (hsame ▸ hticker) (hsame ▸ hdog)
            (fun y hy => hquiet y (.tail _ hy)) (hsame ▸ hrunning)
        refine ⟨x :: mid₁, b, mid₂, rfl, htimesOut, hclock, hb, hbc, ?_⟩
        exact List.forall_mem_cons.2 ⟨⟨hholds, hpings⟩, hbefore⟩

/-! ### Runs -/

/-- A new session awaits nothing. -/
lemma awaiting_start {settings : Settings} {target : Settings.Target} {began : Timestamp}
    {stored store : σ} {s : Session} (hstart : start began settings target stored = (s, store)) :
    Awaiting settings.pulse.interval settings.pulse.timeout ([] : List (Record σ)) s := by
  obtain ⟨rfl, rfl⟩ := Prod.ext_iff.1 hstart
  refine ⟨coherent_start began settings target stored, rfl, rfl, ?_⟩
  intro dog hdog
  cases hdog

section Run

variable {settings : Settings} {target : Settings.Target} {began : Timestamp} {stored store : σ}
  {s : Session} {events : List (Moment × Event)}
  (hsettings : settings.target = .ok target)
  (hstart : start began settings target stored = (s, store))
  (hontime : ∀ r ∈ trace events s store, r.OnTime)

include hstart hontime

/-- Before every event of a run a watchdog goes back to a ping. -/
lemma awaiting_trace {before after : List (Record σ)} {r : Record σ}
    (htrace : trace events s store = before ++ r :: after) :
    Awaiting settings.pulse.interval settings.pulse.timeout before r.session := by
  refine history_trace
    (P := fun past s _ => Awaiting settings.pulse.interval settings.pulse.timeout past s) ?_
    (awaiting_start hstart) htrace
  intro past x hpast h
  exact awaiting_step h (hontime x (hpast.subset (by simp)))

omit hstart in
/-- What comes after an event is a run on time, too. -/
lemma ontime_after {before after : List (Record σ)} {r : Record σ}
    (htrace : trace events s store = before ++ r :: after) :
    ∃ rest, trace rest r.turn.session r.turn.store = after ∧
      ∀ x ∈ trace rest r.turn.session r.turn.store, x.OnTime := by
  obtain ⟨-, rest, -, -, -, hrest, -⟩ := trace_eq_append htrace
  refine ⟨rest, hrest.symm, fun x hx => ?_⟩
  rw [← hrest] at hx
  exact hontime x (htrace ▸ List.mem_append_right _ (List.mem_cons_of_mem r hx))

/-- A link is given up by the watchdog only if the server was pinged on it one timeout ago, and has
not answered since.

**Proof sketch.** The watchdog has gone back to such a ping before the event (`awaiting_trace`), on
the link that is closed. -/
lemma pinged_of_timesOut {before after : List (Record σ)} {r : Record σ} {link : Nat}
    (htrace : trace events s store = before ++ r :: after) (htimesOut : r.TimesOut)
    (hclosed : link ∈ r.closed) :
    Since (fun _ p => link ∈ p.pings ∧
        p.moment.clock + settings.pulse.timeout = r.moment.clock)
      (fun x => x.Holds link ∧ ¬ x.Pongs) before := by
  have hawaiting := awaiting_trace hstart hontime htrace
  have hnow := (hontime r (by simp [htrace])).timeout htimesOut.2
  obtain ⟨other, hother, hsince⟩ := hawaiting.watchdog _ hnow
  rw [(r.of_timesOut hawaiting.coherent htimesOut hother).1] at hclosed
  obtain rfl := List.mem_singleton.1 hclosed
  exact hsince

/-- While a link is open that was opened at some time, the server is pinged whenever another
interval is over.

**Proof sketch.** The ticker of a new link is set one interval ahead (`Move.of_new_link`), and from
then on pings go out as it says (`pings_of_held`). -/
lemma pings_of_opens {before mid after : List (Record σ)} {o : Record σ} {link : Nat}
    (htrace : trace events s store = before ++ o :: (mid ++ after)) (hopens : o.Opens)
    (hlink : o.turn.session.link = some link) (hheld : ∀ x ∈ mid, x.Holds link) :
    ∃ n, (mid.flatMap fun x => x.pings.map (·, x.moment.clock)) =
        (List.range n).map (fun k => (link, o.moment.clock + (k + 1) * settings.pulse.interval)) ∧
      ∀ q ∈ after.head?, q.moment.clock ≤ o.moment.clock + (n + 1) * settings.pulse.interval := by
  have hawaiting := awaiting_trace hstart hontime htrace
  have hc := hawaiting.coherent
  have hnone : o.session.link = none := (hc.of_attempt hopens.2.isSome).2.1
  obtain ⟨-, hnew⟩ := (o.move hc).of_new_link hc hnone
    (by rw [show o.turn.report.connection.link = o.turn.session.link from rfl, hlink]; rfl)
  have hticker := congrArg Heartbeat.ticker hnew
  have hinterval := congrArg Heartbeat.interval hnew
  dsimp only at hticker hinterval
  rw [hawaiting.interval_eq] at hticker hinterval
  have hinterval : o.turn.session.heartbeat.interval = settings.pulse.interval := hinterval
  obtain ⟨rest, hrest, htime⟩ := ontime_after hontime htrace
  obtain ⟨n, htimes, hnext⟩ := pings_of_held (o.coherent hc) hrest htime hticker hheld
  rw [hinterval] at htimes hnext
  refine ⟨n, htimes.trans (List.map_congr_left fun k _ => ?_), fun q hq => ?_⟩
  · rw [Nat.add_mul, Nat.one_mul, Nat.add_right_comm, Nat.add_assoc]
  · have hle := hnext q hq
    rw [Nat.add_mul]
    omega

include hsettings

/-- If the server does not answer a ping, and the link is not given up for another reason, the
watchdog gives it up after the timeout.

**Proof sketch.** The ping arms the watchdog one timeout ahead and sets the ticker one interval
ahead, which is later by the check of the settings. So the watchdog runs out before the next ping
(`timesOut_of_unanswered`). -/
lemma timesOut_of_pings {before mid after : List (Record σ)} {p q : Record σ} {link : Nat}
    (htrace : trace events s store = before ++ p :: (mid ++ q :: after)) (hpings : link ∈ p.pings)
    (hq : p.moment.clock + settings.pulse.timeout < q.moment.clock)
    (hquiet : ∀ x ∈ mid, x.session.link = some link →
      x.moment.clock ≤ p.moment.clock + settings.pulse.timeout →
        ¬ x.Pongs ∧ (x.turn.session.link = none → x.event = .beat)) :
    ∃ mid₁ b mid₂, mid = mid₁ ++ b :: mid₂ ∧ b.TimesOut ∧
      b.moment.clock = p.moment.clock + settings.pulse.timeout ∧
      b.session.link = some link ∧ b.session.connection.Coherent ∧
      ∀ x ∈ mid₁, x.Holds link ∧ x.pings = [] := by
  have hawaiting := awaiting_trace hstart hontime htrace
  have hc := hawaiting.coherent
  have hholds := p.holds_of_pings hc hpings
  have htimeout := Settings.timeout_lt_interval hsettings
  obtain ⟨rest, hrest, htime⟩ := ontime_after hontime htrace
  rcases p.held_cases hc (hontime p (by simp [htrace])) hholds with ⟨-, -, -, hnew⟩ |
    ⟨-, hnone, -⟩ | ⟨-, hnone, -⟩
  · rw [hawaiting.interval_eq, hawaiting.timeout_eq] at hnew
    exact timesOut_of_unanswered (p.coherent hc) hrest htime hholds.2
      (congrArg Heartbeat.ticker hnew) (congrArg Heartbeat.watchdog hnew) (by omega) hq hquiet
  · simp [hnone] at hpings
  · simp [hnone] at hpings

/-- **A link is given up exactly if an answer is missing.** In a run in which every event is handled
no later than the heartbeat has something due: a link is closed by the watchdog only if the server
was pinged on it one timeout ago, since when it has been open without an answer. If there is no
answer to a ping up to the timeout, and nothing but the heartbeat gives the link up, then it is
given up when the timeout is over: it is closed that one time in the whole run, the session is
reconnecting, and no ping has gone out in between. While a link is open, the server is pinged on it
at the end of every interval since it was opened, and at no other time.

**Proof sketch.** The first part is `pinged_of_timesOut`, the second `timesOut_of_pings` with what
the end of the watchdog does (`Record.of_timesOut`), and the third `pings_of_opens`. No link is
closed twice in a run (`nodup_closed`). -/
theorem liveness :
    (∀ (before : List (Record σ)) (r : Record σ) (after : List (Record σ)) (link : Nat),
        trace events s store = before ++ r :: after → r.TimesOut → link ∈ r.closed →
        Since (fun _ p => link ∈ p.pings ∧
            p.moment.clock + settings.pulse.timeout = r.moment.clock)
          (fun x => x.Holds link ∧ ¬ x.Pongs) before) ∧
      (∀ (before : List (Record σ)) (p : Record σ) (mid : List (Record σ)) (q : Record σ)
        (after : List (Record σ)) (link : Nat),
        trace events s store = before ++ p :: (mid ++ q :: after) → link ∈ p.pings →
        p.moment.clock + settings.pulse.timeout < q.moment.clock →
        (∀ x ∈ mid, x.session.link = some link →
          x.moment.clock ≤ p.moment.clock + settings.pulse.timeout →
            ¬ x.Pongs ∧ (x.turn.session.link = none → x.event = .beat)) →
        ∃ mid₁ b mid₂, mid = mid₁ ++ b :: mid₂ ∧ b.TimesOut ∧
          b.moment.clock = p.moment.clock + settings.pulse.timeout ∧
          b.session.link = some link ∧ (∀ x ∈ mid₁, x.Holds link ∧ x.pings = []) ∧
          b.closed = [link] ∧ ((trace events s store).flatMap Record.closed).count link = 1 ∧
          b.turn.session.link = none ∧ b.turn.session.publisher.current = .reconnecting ∧
          b.turn.session.publisher.cell = .reconnecting ∧ b.turn.session.retryAt.isSome) ∧
      ∀ (before : List (Record σ)) (o : Record σ) (mid after : List (Record σ)) (link : Nat),
        trace events s store = before ++ o :: (mid ++ after) → o.Opens →
        o.turn.session.link = some link → (∀ x ∈ mid, x.Holds link) →
        ∃ n, (mid.flatMap fun x => x.pings.map (·, x.moment.clock)) =
            (List.range n).map
              (fun k => (link, o.moment.clock + (k + 1) * settings.pulse.interval)) ∧
          ∀ q ∈ after.head?,
            q.moment.clock ≤ o.moment.clock + (n + 1) * settings.pulse.interval := by
  refine ⟨?_, ?_, ?_⟩
  · intro before r after link htrace htimesOut hclosed
    exact pinged_of_timesOut hstart hontime htrace htimesOut hclosed
  · intro before p mid q after link htrace hpings hq hquiet
    obtain ⟨mid₁, b, mid₂, hmid, htimesOut, hclock, hlink, hc, hbefore⟩ :=
      timesOut_of_pings hsettings hstart hontime htrace hpings hq hquiet
    obtain ⟨hclosed, hgone, hstate⟩ := b.of_timesOut hc htimesOut hlink
    refine ⟨mid₁, b, mid₂, hmid, htimesOut, hclock, hlink, hbefore, hclosed, ?_, hgone, hstate⟩
    refine List.count_eq_one_of_mem (nodup_closed (orderly_start hstart) events store) ?_
    exact List.mem_flatMap.2 ⟨b, by simp [htrace, hmid], by simp [hclosed]⟩
  · intro before o mid after link htrace hopens hlink hheld
    exact pings_of_opens hstart hontime htrace hopens hlink hheld

end Run

/-- The server does not answer the first ping. -/
def Sample.unanswered : List (Moment × Event) :=
  [(taking 9, .command (.connect "key" 0)), (taking 9, .opened),
    ({ taking 9 with clock := 30000 }, .beat), ({ taking 9 with clock := 40000 }, .beat),
    ({ taking 9 with clock := 50000 }, .retryDue)]

/-- The link is closed ten seconds after the ping.

**Proof sketch.** The run is computed up to the ping and behind it. All of it is on time, and there
is no answer, so that the second part of the theorem applies to it. -/
theorem liveness_silent :
    ∃ s store before p mid q,
      start Sample.epoch Sample.settings Sample.target (⟨[]⟩ : Store.Memory) = (s, store) ∧
        trace Sample.unanswered s store = before ++ p :: (mid ++ [q]) ∧ 0 ∈ p.pings ∧
        ∃ mid₁ b mid₂, mid = mid₁ ++ b :: mid₂ ∧ b.TimesOut ∧ b.moment.clock = 40000 ∧
          b.closed = [0] ∧ b.turn.session.publisher.current = .reconnecting := by
  obtain ⟨first, hfirst⟩ : ∃ first, first =
    start Sample.epoch Sample.settings Sample.target (⟨[]⟩ : Store.Memory) := ⟨_, rfl⟩
  have hontime : ∀ r ∈ trace Sample.unanswered first.1 first.2, r.OnTime := by
    rw [hfirst]
    decide
  obtain ⟨before, p, b, q, htrace, hpings, hclock, hevent, hlate⟩ : ∃ before p b q,
      trace Sample.unanswered first.1 first.2 = before ++ p :: ([b] ++ [q]) ∧ 0 ∈ p.pings ∧
        p.moment.clock = 30000 ∧ b.event = .beat ∧ q.moment.clock = 50000 := by
    rw [hfirst]
    exact ⟨(trace Sample.unanswered _ _).take 2, _, _, _, rfl, by decide, rfl, rfl, rfl⟩
  obtain ⟨mid₁, b', mid₂, hmid, htimesOut, hnow, -, -, hclosed, -, -, hstate, -⟩ :=
    (liveness rfl hfirst.symm hontime).2.1 before p [b] q [] 0 htrace hpings
      (by rw [hclock, hlate]; decide) (by
        intro x hx _ _
        rw [List.mem_singleton.1 hx]
        exact ⟨by simp [Record.Pongs, Event.Pongs, hevent], fun _ => hevent⟩)
  rw [hclock] at hnow
  exact ⟨first.1, first.2, before, p, [b], q, hfirst.symm, htrace, hpings, mid₁, b', mid₂, hmid,
    htimesOut, hnow, hclosed, hstate⟩

end Messenger.Session
