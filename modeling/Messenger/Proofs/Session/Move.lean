import Messenger.Proofs.Heartbeat
import Messenger.Proofs.Session.Coherence
import Messenger.Proofs.Session.Report

set_option relaxedAutoImplicit false
set_option autoImplicit false

/-!
# What an event does to the connection

Events are many, but there are few things that they do to the connection, to those who wait for it
and to those who listen. Which of these things an event does follows from what the session knows.
Whatever is to be shown of all events needs to be shown of these only.

## Main definitions

* `Messenger.Session.choose`: the credential that an attempt goes on with.
* `Messenger.Session.outcome?`: how an event ends the attempt of a session.
* `Messenger.Session.Move`: what an event can do, with all that it says to the world outside.

## Main results

* `Messenger.Session.move_step`: every event does one of these things.
-/

namespace Messenger

namespace Session

/-! ### What the session knows of an event -/

/-- The credential that an attempt goes on with after the answer of the provider, or why it cannot
go on. If the provider has none, the other one is taken. -/
def choose (answer : Credential.Answer) (other : Option String) : Except Error String :=
  match answer, other with
  | .ok (some credential), _ => .ok credential
  | .ok none, some credential | .error _, some credential => .ok credential
  | .ok none, none => .error Turn.noCredential
  | .error e, none => .error e

/-- Who asks for a link by an event. -/
def Event.asker? : Event → Option Nat
  | .command (.connect _ caller) => some caller
  | .command (.reconnect caller) => some caller
  | _ => none

/-- What an event asks for is there already: a link with the same credential, for one who wants to
connect with it; any link, or an attempt, for one who wants to connect anew. -/
def Granted (s : Session) : Event → Prop
  | .command (.connect credential _) =>
    s.attempt = none ∧ s.link.isSome ∧ s.linkCredential = some credential
  | .command (.reconnect _) => s.attempt.isSome ∨ s.link.isSome
  | _ => False

/-- Why an event ends the attempt of a session without a link, if it does and the user has not asked
for it. -/
def failure? (s : Session) : Event → Option Error
  | .acquired answer =>
    match s.attempt with
    | some (.asking other) =>
      match choose answer other with
      | .ok _ => none
      | .error e => some e
    | _ => none
  | .failed e => if s.Dialing then some e else none
  | .expired => if s.Dialing then some (.transport "connect timed out") else none
  | _ => none

/-- How an event ends the attempt of a session, if it does. -/
def outcome? (s : Session) : Event → Option (Except Error Unit)
  | .opened => if s.Dialing then some (.ok ()) else none
  | .command (.disconnect _) =>
    if s.attempt.isSome then some (.error .disconnected) else none
  | event => (s.failure? event).map .error

/-- The event opens a link. -/
def opens (s : Session) : Event → Bool
  | .opened => decide s.Dialing
  | _ => false

/-- The link that an event finds, or opens. -/
def reached (s : Session) (event : Event) : Option Nat :=
  if s.opens event then some s.opened else s.link

/-- An event that finds nothing to concern, or that does not concern the connection. -/
def Passes (m : Moment) (s : Session) : Event → Prop
  | .command (.connect _ _) | .command (.reconnect _) | .command (.disconnect _) => False
  | .command (.wake _) | .retryDue => s.retryAt = none
  | .command c => (c.envelope? m).isSome → s.link = none ∨ m.accepts 0
  | .listen _ _ | .unlisten _ _ => False
  | .acquired _ => ∀ other, s.attempt ≠ some (.asking other)
  | .opened | .failed _ | .expired => ¬ s.Dialing
  | .received _ | .ended => s.link = none
  | .beat => (s.heartbeat.poll m.pingFirst m.clock).1 = none

/-- An event that ends a link: a frame is refused, or the server has closed it, or there was no
answer to a ping in time. -/
def Breaks (m : Moment) (s : Session) : Event → Prop
  | .command c => (c.envelope? m).isSome ∧ ¬ m.accepts 0
  | .ended => True
  | .beat => (s.heartbeat.poll m.pingFirst m.clock).1 = some .timeout ∨
      (s.heartbeat.poll m.pingFirst m.clock).1 = some .ping ∧ ¬ m.accepts 0
  | _ => False

/-- An event upon which the next attempt begins without a caller. -/
def Event.Resumes : Event → Prop
  | .retryDue | .command (.wake _) => True
  | _ => False

/-! ### Moves -/

/-- What an event can do to the connection of a session and to what goes with it. -/
inductive Move (m : Moment) (s : Session) : Event → Report → Prop
  /-- Nothing. -/
  | passes {event : Event} (h : s.Passes m event) : Move m s event (s.report .nothing)
  /-- What a caller asks for is there, and the caller gets an answer at once. -/
  | grants {event : Event} {caller : Nat} (asker : event.asker? = some caller)
      (granted : s.Granted event) :
      Move m s event ((s.report .nothing).answer (.ok ()) [caller])
  /-- A caller joins those who wait for an attempt. -/
  | joins (credential : String) (caller : Nat) (attempt : s.attempt.isSome) :
      Move m s (.command (.connect credential caller)) ((s.report .nothing).wait caller)
  /-- An attempt with a credential begins for a caller, and a link with another one is given up. -/
  | calls (credential : String) (caller deadline : Nat) (attempt : s.attempt = none)
      (other : s.link.isSome → s.linkCredential ≠ some credential) :
      Move m s (.command (.connect credential caller))
        ((((s.report .nothing).logIn.drop.cancelRetry.wait caller).begin
          (.dialing credential deadline)).call credential)
  /-- An attempt with a credential of the provider, or with the last one, begins for a caller. -/
  | asks (caller : Nat) (attempt : s.attempt = none) (link : s.link = none) :
      Move m s (.command (.reconnect caller))
        ((Report.wait caller { (s.report .nothing).logIn.cancelRetry with
          backoff := s.backoff.reset }).begin (.asking s.lastCredential))
  /-- The next attempt begins, with a credential of the provider. -/
  | resumes {event : Event} (h : event.Resumes) (due : s.retryAt.isSome) :
      Move m s event ((s.report .nothing).cancelRetry.begin (.asking none))
  /-- The provider has answered, and an attempt goes on. -/
  | dials (answer : Credential.Answer) (other : Option String) (credential : String)
      (deadline : Nat) (attempt : s.attempt = some (.asking other))
      (choice : choose answer other = .ok credential) :
      Move m s (.acquired answer) (Report.call credential { s.report .nothing with
        connection := { s.connection with attempt := some (.dialing credential deadline) } })
  /-- An attempt is over without a link. -/
  | fails {event : Event} (e : Error) (failure : s.failure? event = some e) :
      Move m s event ((s.report .nothing).fail m e)
  /-- An attempt has opened a link. -/
  | opens (credential : String) (deadline : Nat)
      (attempt : s.attempt = some (.dialing credential deadline)) :
      Move m s .opened ((s.report .nothing).welcome m credential).settle
  /-- An attempt has opened a link, which is lost at once. -/
  | breaks (credential : String) (deadline : Nat)
      (attempt : s.attempt = some (.dialing credential deadline)) :
      Move m s .opened (((s.report .nothing).welcome m credential).lose m)
  /-- A text came over the link. -/
  | hears (text : String) (link : s.link.isSome) :
      Move m s (.received text) ((s.report .nothing).hear m text)
  /-- The server is pinged, and the watchdog is armed. -/
  | pings (link : s.link.isSome)
      (due : (s.heartbeat.poll m.pingFirst m.clock).1 = some .ping) (taken : m.accepts 0) :
      Move m s .beat ((s.report .nothing).beat
        ((s.heartbeat.poll m.pingFirst m.clock).2.arm m.clock))
  /-- The link is lost. -/
  | loses {event : Event} (link : s.link.isSome) (broken : s.Breaks m event) :
      Move m s event ((s.report .nothing).lose m)
  /-- A listener is registered. -/
  | listens (kind : Kind) (listener : Nat) :
      Move m s (.listen kind listener)
        { s.report .nothing with registry := (s.registry.on kind listener).2 }
  /-- A registration is removed. -/
  | unlistens (kind : Kind) (id : Nat) :
      Move m s (.unlisten kind id)
        { s.report .nothing with registry := (s.registry.off kind id).2 }
  /-- The user logs out. -/
  | logsOut (caller : Nat) :
      Move m s (.command (.disconnect caller)) ((s.report .nothing).logOut caller)

variable {s : Session}

/-! ### Links that events reach -/

/-- The events that open a link. -/
lemma opens_eq_true_iff {event : Event} : s.opens event = true ↔ event = .opened ∧ s.Dialing := by
  cases event <;> simp [opens]

/-- An event that opens no link may find one. -/
lemma reached_of_not_opens {event : Event} (h : ¬ (event = .opened ∧ s.Dialing)) :
    s.reached event = s.link :=
  if_neg fun hopens => h (opens_eq_true_iff.1 hopens)

/-- A link that is there is found. -/
lemma reached_of_link (hc : s.connection.Coherent) {link : Nat} (hlink : s.link = some link)
    (event : Event) : s.reached event = some link := by
  rw [reached_of_not_opens, hlink]
  rintro ⟨-, credential, deadline, hattempt⟩
  have hnone : s.attempt = none := (hc.of_link (Option.isSome_iff_exists.2 ⟨link, hlink⟩)).2.1
  cases hnone.symm.trans hattempt

/-! ### Attempts that are under way -/

/-- Only an attempt that is under way ends. -/
lemma attempt_of_failure {event : Event} {e : Error} (h : s.failure? event = some e) :
    s.attempt.isSome := by
  cases event with
  | acquired answer =>
    cases hattempt : s.attempt with
    | none => simp [failure?, hattempt] at h
    | some stage => rfl
  | failed _ => exact Dialing.isSome (Option.ite_none_right_eq_some.1 h).1
  | expired => exact Dialing.isSome (Option.ite_none_right_eq_some.1 h).1
  | _ => cases h

/-! ### Steps that change nothing -/

/-- To give up a link that is not there changes nothing. -/
lemma drop_of_no_link (hc : s.connection.Coherent) (hlink : s.link = none) :
    (s.report .nothing).drop = s.report .nothing := by
  have hbare := hc.bare hlink
  have hstop : s.heartbeat.stop = s.heartbeat := Heartbeat.stop_of_none hbare.ticker hbare.watchdog
  have hcredential : s.linkCredential = none := hbare.credential
  have hdrop : s.connection.drop = s.connection := by
    simp [Connection.drop, connection, hlink, hstop, hcredential]
  refine Report.ext rfl hdrop rfl rfl rfl rfl ?_
  simp [Report.drop, Session.report, connection, hlink]

/-- A link is lost no matter how its heartbeat has gone on. -/
lemma lose_beat (m : Moment) {heartbeat : Heartbeat} (h : heartbeat.stop = s.heartbeat.stop) :
    ((s.report .nothing).beat heartbeat).lose m = (s.report .nothing).lose m := by
  have hdrop : ((s.report .nothing).beat heartbeat).drop = (s.report .nothing).drop := by
    simp only [Report.drop, Report.beat, Connection.drop, h]
    rfl
  rw [Report.lose, hdrop, Report.lose]

/-- A user with a link has not logged out. -/
lemma loggedOut_of_link (hc : s.connection.Coherent) (hlink : s.link.isSome) :
    s.loggedOut = false := by
  cases hlogged : s.loggedOut with
  | false => rfl
  | true =>
    have hstate := hc.loggedOut hlogged
    rw [(hc.of_link hlink).1] at hstate
    cases hstate

/-- A user with an attempt has not logged out. -/
lemma loggedOut_of_attempt (hc : s.connection.Coherent) (hattempt : s.attempt.isSome) :
    s.loggedOut = false := by
  cases hlogged : s.loggedOut with
  | false => rfl
  | true =>
    have hstate := hc.loggedOut hlogged
    rw [(hc.of_attempt hattempt).1] at hstate
    cases hstate

/-- A user who has not logged out need not log in. -/
lemma logIn_of_loggedOut (h : s.loggedOut = false) :
    (s.report .nothing).logIn = s.report .nothing := by
  simp [Report.logIn, report, connection, h]

/-! ### Commands -/

namespace Turn

variable {σ : Type}

/-- What looking after the heartbeat does, by what is due. -/
lemma beat_eq (m : Moment) (t : Turn σ) :
    t.beat m =
      match (t.session.heartbeat.poll m.pingFirst m.clock).1 with
      | some .ping => ping m { t with session := { t.session with
          heartbeat := (t.session.heartbeat.poll m.pingFirst m.clock).2 } }
      | some .timeout => lose m { t with session := { t.session with
          heartbeat := (t.session.heartbeat.poll m.pingFirst m.clock).2 } }
      | none => { t with session := { t.session with
          heartbeat := (t.session.heartbeat.poll m.pingFirst m.clock).2 } } := rfl

/-- What the heartbeat does.

**Proof sketch.** By what is due. A ping is due, or the watchdog has run out, only while there is a
link, as the ticker runs with the link. The loss of the link stops the heartbeat, so that it does
not matter that the heartbeat has moved on before. -/
lemma move_beat (hc : s.connection.Coherent) {m : Moment} {store : σ} :
    Move m s .beat ((s.turn store).beat m).report := by
  have hsome := (Heartbeat.isSome_poll m.pingFirst m.clock s.heartbeat).1
  have hstop := Heartbeat.stop_poll m.pingFirst m.clock s.heartbeat
  -- The loss of the link stops the heartbeat, whatever has become of it before.
  have hlost := lose_beat m hstop
  have hlinked : (s.heartbeat.poll m.pingFirst m.clock).1.isSome → s.link.isSome := by
    intro hdue
    rw [← show s.heartbeat.ticker.isSome = s.link.isSome from hc.ticker]
    exact hsome hdue
  have hsession : (s.turn store).session = s := rfl
  rw [beat_eq, hsession]
  cases hdue : (s.heartbeat.poll m.pingFirst m.clock).1 with
  | none =>
    dsimp only
    rw [Heartbeat.snd_poll_of_none hdue]
    exact .passes hdue
  | some event =>
    have hlink := hlinked (by rw [hdue]; rfl)
    cases event with
    | ping =>
      dsimp only
      rw [report_ping m hlink]
      split
      · next htaken => exact .pings hlink hdue htaken
      · next hrefused =>
        have hloses : Move m s .beat ((s.report .nothing).lose m) :=
          .loses hlink (.inr ⟨hdue, hrefused⟩)
        rw [← hlost] at hloses
        exact hloses
    | timeout =>
      dsimp only
      rw [report_lose]
      have hloses : Move m s .beat ((s.report .nothing).lose m) := .loses hlink (.inl hdue)
      rw [← hlost] at hloses
      exact hloses

variable [Storage σ]

/-- What the answer of the provider does, by the credential that the attempt goes on with. -/
lemma acquire_eq (m : Moment) (answer : Credential.Answer) (other : Option String) (t : Turn σ) :
    t.acquire m answer other =
      match choose answer other with
      | .ok credential => t.dial m credential
      | .error e => t.fail m e := by
  unfold acquire choose
  cases answer with
  | error e => cases other <;> rfl
  | ok found => cases found <;> cases other <;> rfl

variable {m : Moment} {store : σ}

/-- What connecting does.

**Proof sketch.** By what there is, as the definition goes. In each case the user was logged out or
not as the connection has it, so that logging in shows only where an attempt begins. -/
lemma move_connect (hc : s.connection.Coherent) (credential : String) (caller : Nat) :
    Move m s (.command (.connect credential caller))
      ((s.turn store).connect m credential caller).report := by
  unfold connect
  dsimp only
  split
  · next hattempt =>
    have hattempt : s.attempt.isSome := hattempt
    have hjoin := Move.joins (m := m) credential caller hattempt
    rw [← logIn_of_loggedOut (loggedOut_of_attempt hc hattempt)] at hjoin
    exact hjoin
  · next hattempt =>
    have hattempt : s.attempt = none := Option.not_isSome_iff_eq_none.1 hattempt
    split
    · next hlink =>
      have hlink : s.link.isSome := hlink
      split
      · next hcredential =>
        have hgrant : Move m s (.command (.connect credential caller))
            ((s.report .nothing).answer (.ok ()) [caller]) :=
          .grants rfl ⟨hattempt, hlink, hcredential⟩
        rw [← logIn_of_loggedOut (loggedOut_of_link hc hlink)] at hgrant
        rw [report_reply]
        exact hgrant
      · next hcredential =>
        rw [report_connectAnew, report_dropLink]
        exact .calls credential caller _ hattempt fun _ => hcredential
    · next hlink =>
      have hlink : s.link = none := Option.not_isSome_iff_eq_none.1 hlink
      -- There is no link to drop, so the attempt begins as it does behind one.
      have hdrop : (s.report .nothing).logIn.drop = (s.report .nothing).logIn :=
        congrArg Report.logIn (drop_of_no_link hc hlink)
      have hcall := Move.calls (m := m) credential caller (m.clock + s.connectTimeout) hattempt
        fun h => by simp [hlink] at h
      rw [hdrop] at hcall
      rw [report_connectAnew]
      exact hcall

/-- What connecting anew does. -/
lemma move_reconnect (caller : Nat) :
    Move m s (.command (.reconnect caller)) ((s.turn store).reconnect m caller).report := by
  unfold reconnect
  split
  · next hthere =>
    rw [report_reply]
    exact .grants rfl hthere
  · next hnone =>
    obtain ⟨hattempt, hlink⟩ := not_or.1 hnone
    dsimp only
    rw [report_beginFresh]
    exact .asks caller (Option.not_isSome_iff_eq_none.1 hattempt)
      (Option.not_isSome_iff_eq_none.1 hlink)

/-- What waking up does. -/
lemma move_wake (hc : s.connection.Coherent) (reason : WakeReason) :
    Move m s (.command (.wake reason)) ((s.turn store).wake m).report := by
  unfold wake
  split
  · next hdue =>
    have hshape := (hc.shape .reconnecting).2 hdue.2.1.symm
    rw [report_beginFresh]
    exact .resumes trivial hshape.1
  · next hnothing =>
    apply Move.passes
    refine Option.not_isSome_iff_eq_none.1 fun hretry => ?_
    obtain ⟨hlink, hattempt, hlogged⟩ := hc.of_retryAt hretry
    have hstate := (hc.shape .reconnecting).1 ⟨hretry, hlink, hattempt⟩
    exact hnothing ⟨hlogged, hstate.symm, hattempt, hlink⟩

/-- What an event does that sends an envelope, after the user may have entered or left a room. -/
lemma move_route {t : Turn σ} (hreport : t.report = s.report .nothing)
    (hoffers : t.outbox.offers = 0) {c : Command} {e : Envelope} (he : c.envelope? m = some e)
    (hpasses : (s.link = none ∨ m.accepts 0) → s.Passes m (.command c)) :
    Move m s (.command c) (t.route m e).report := by
  have hlink : t.session.link = s.link := congrArg (·.connection.link) hreport
  rw [report_route, hlink, hoffers, hreport]
  split
  · next hrefused => exact .loses hrefused.1 ⟨by simp [he], hrefused.2⟩
  · next htaken =>
    refine .passes (hpasses ?_)
    cases hsome : s.link with
    | none => exact .inl rfl
    | some link => exact .inr (by simpa [hsome] using htaken)

/-- What a user asks for.

**Proof sketch.** One case for each command. Those that send an envelope are alike (`move_route`),
and those that concern who watches do nothing to the connection. -/
lemma move_obey (hc : s.connection.Coherent) (c : Command) :
    Move m s (.command c) ((s.turn store).obey m c).report := by
  cases c with
  | connect credential caller => exact move_connect hc credential caller
  | reconnect caller => exact move_reconnect caller
  | disconnect caller =>
    unfold obey
    dsimp only
    rw [report_disconnect]
    exact .logsOut caller
  | send e => exact move_route (t := s.turn store) rfl rfl rfl fun h _ => h
  | join r =>
    exact move_route (s := s) (c := .join r) (t := (s.turn store).rememberRoom (some r)) rfl rfl rfl
      fun h _ => h
  | leave r =>
    unfold obey leave
    dsimp only
    split
    · exact move_route (s := s) (c := .leave r) (t := (s.turn store).rememberRoom none) rfl rfl rfl
        fun h _ => h
    · exact move_route (c := .leave r) (t := s.turn store) rfl rfl rfl fun h _ => h
  | wake reason => exact move_wake hc reason
  | watch id watcher =>
    have hpass : Move m s (.command (.watch id watcher)) (s.report .nothing) :=
      .passes fun h => by cases h
    exact hpass
  | unwatch id => exact .passes fun h => by cases h
  | count caller => exact .passes fun h => by cases h

end Turn

/-! ### Events -/

variable {σ : Type} [Storage σ]

/-- What the answer of the provider does. -/
lemma move_acquired (m : Moment) (answer : Credential.Answer) {other : Option String}
    (hattempt : s.attempt = some (.asking other)) (store : σ) :
    Move m s (.acquired answer) ((s.turn store).acquire m answer other).report := by
  rw [Turn.acquire_eq]
  cases hchoice : choose answer other with
  | ok credential =>
    dsimp only
    rw [Turn.report_dial]
    exact .dials answer other credential _ hattempt hchoice
  | error e =>
    dsimp only
    rw [Turn.report_fail]
    exact .fails e (by simp [failure?, hattempt, hchoice])

/-- **There are few things that an event does to the connection.** Every event does one of these
things to the connection and to what goes with it.

**Proof sketch.** One case for each event. If it finds the attempt, the link or the time of the next
attempt that it is about, it does what the lemma about its part of the program says; otherwise it
passes. -/
theorem move_step (hc : s.connection.Coherent) (m : Moment) (event : Event) (store : σ) :
    Move m s event (step m event s store).report := by
  unfold step
  cases event with
  | command c => exact Turn.move_obey hc c
  | listen kind listener => exact .listens kind listener
  | unlisten kind id => exact .unlistens kind id
  | acquired answer =>
    dsimp only [react]
    split
    · next other hattempt => exact move_acquired m answer hattempt store
    · next hnone => exact .passes hnone
  | opened =>
    dsimp only [react]
    split
    · next credential deadline hattempt =>
      have hlogged := loggedOut_of_attempt hc (Option.isSome_iff_exists.2 ⟨_, hattempt⟩)
      rcases Turn.report_succeed m credential (t := s.turn store) hlogged with h | h <;> rw [h]
      · exact .opens credential deadline hattempt
      · exact .breaks credential deadline hattempt
    · next hnone => exact .passes fun ⟨credential, deadline, h⟩ => hnone credential deadline h
  | failed e =>
    dsimp only [react]
    split
    · next credential deadline hattempt =>
      rw [Turn.report_fail]
      exact .fails e (if_pos ⟨credential, deadline, hattempt⟩)
    · next hnone => exact .passes fun ⟨credential, deadline, h⟩ => hnone credential deadline h
  | expired =>
    dsimp only [react]
    split
    · next credential deadline hattempt =>
      rw [Turn.report_fail]
      exact .fails _ (if_pos ⟨credential, deadline, hattempt⟩)
    · next hnone => exact .passes fun ⟨credential, deadline, h⟩ => hnone credential deadline h
  | received text =>
    dsimp only [react]
    split
    · next hlink =>
      rw [Turn.report_receive]
      exact .hears text hlink
    · next hlink => exact .passes (Option.not_isSome_iff_eq_none.1 hlink)
  | ended =>
    dsimp only [react]
    split
    · next hlink =>
      rw [Turn.report_lose]
      exact .loses hlink trivial
    · next hlink => exact .passes (Option.not_isSome_iff_eq_none.1 hlink)
  | beat => exact Turn.move_beat hc
  | retryDue =>
    dsimp only [react]
    split
    · next hretry =>
      rw [Turn.report_beginFresh]
      exact .resumes trivial hretry
    · next hretry => exact .passes (Option.not_isSome_iff_eq_none.1 hretry)

/-- What an event did was one of these things. -/
lemma Record.move {r : Record σ} (hc : r.session.connection.Coherent) :
    Move r.moment r.session r.event r.turn.report :=
  move_step hc r.moment r.event r.store

/-- An event leaves a coherent connection. -/
lemma Record.coherent {r : Record σ} (hc : r.session.connection.Coherent) :
    r.turn.session.connection.Coherent :=
  coherent_step hc r.moment r.event r.store

/-! ### Links that are open -/

namespace Move

variable {m : Moment} {event : Event} {r : Report}

/-- A link was there before, or has been opened.

**Proof sketch.** Only one thing that an event can do opens a link and keeps it. Those that end an
attempt have found no link and leave none, those that lose or drop one leave none, and all others
keep the one there was. -/
lemma of_link (hc : s.connection.Coherent) (h : Move m s event r) {link : Nat}
    (hlink : r.connection.link = some link) :
    (s.link = some link ∧ r.connection.credential = s.linkCredential) ∨
      ∃ credential deadline, event = .opened ∧
        s.attempt = some (.dialing credential deadline) ∧ s.opened = link ∧
        r.connection.credential = some credential := by
  cases h with
  | calls => cases hlink
  | asks caller attempt hnone => cases hnone.symm.trans hlink
  | resumes h due =>
    have hnone : s.link = none := (hc.of_retryAt due).1
    cases hnone.symm.trans hlink
  | fails e failure =>
    have hnone : s.link = none := (hc.of_attempt (attempt_of_failure failure)).2.1
    rw [Report.link_fail] at hlink
    cases hnone.symm.trans hlink
  | opens credential deadline attempt =>
    cases hlink
    exact .inr ⟨credential, deadline, rfl, attempt, rfl, rfl⟩
  | breaks =>
    rw [Report.link_lose] at hlink
    cases hlink
  | loses =>
    rw [Report.link_lose] at hlink
    cases hlink
  | logsOut => cases hlink
  | hears text link =>
    obtain ⟨heartbeat, delivered, hear, -⟩ := Report.hear_eq m text (s.report .nothing)
    rw [hear] at hlink ⊢
    exact .inl ⟨hlink, rfl⟩
  | _ => exact .inl ⟨hlink, rfl⟩

/-- Links are counted as they are opened.

**Proof sketch.** The count goes up with the two things that open a link, one of which loses it at
once. No other thing is done by the event that opens one. -/
lemma opened_eq (h : Move m s event r) :
    r.connection.opened = s.opened + (s.opens event).toNat := by
  have hsame : r.connection.opened = s.opened → ¬ (event = .opened ∧ s.Dialing) →
      r.connection.opened = s.opened + (s.opens event).toNat := by
    intro hopened hnot
    rw [hopened, eq_false_of_ne_true (mt opens_eq_true_iff.1 hnot)]
    rfl
  cases h with
  | passes h => exact hsame rfl fun ⟨hevent, hdialing⟩ => by subst hevent; exact h hdialing
  | grants asker granted => exact hsame rfl fun ⟨hevent, _⟩ => by subst hevent; cases asker
  | resumes h due => exact hsame rfl fun ⟨hevent, _⟩ => by subst hevent; exact h
  | fails e failure =>
    exact hsame (Connection.opened_retry _ _) fun ⟨hevent, _⟩ => by subst hevent; cases failure
  | loses link broken =>
    exact hsame (Connection.opened_lose _ _) fun ⟨hevent, _⟩ => by subst hevent; exact broken
  | opens credential deadline attempt =>
    rw [opens_eq_true_iff.2 ⟨rfl, credential, deadline, attempt⟩]
    rfl
  | breaks credential deadline attempt =>
    rw [opens_eq_true_iff.2 ⟨rfl, credential, deadline, attempt⟩]
    exact Connection.opened_lose _ _
  | hears text link =>
    obtain ⟨heartbeat, delivered, hear, -⟩ := Report.hear_eq m text (s.report .nothing)
    rw [hear]
    rfl
  | _ => rfl

/-- A link that an event reaches stays open, or it is closed and gone. Nothing else is closed.

**Proof sketch.** The same cases as before. What is reached is the link that is there, unless one is
opened; it is closed where it is dropped, lost or left by a logout, and kept otherwise. -/
lemma link_cases (h : Move m s event r) :
    (r.connection.link = s.reached event ∧ r.said.closed = []) ∨
      (r.connection.link = none ∧ r.said.closed = (s.reached event).toList) := by
  cases h with
  | passes h =>
    refine .inl ⟨(reached_of_not_opens ?_).symm, rfl⟩
    rintro ⟨rfl, hdialing⟩
    exact h hdialing
  | grants asker granted =>
    refine .inl ⟨(reached_of_not_opens ?_).symm, rfl⟩
    rintro ⟨rfl, -⟩
    cases asker
  | calls => exact .inr ⟨rfl, rfl⟩
  | resumes h due =>
    refine .inl ⟨(reached_of_not_opens ?_).symm, rfl⟩
    rintro ⟨rfl, -⟩
    exact h
  | fails e failure =>
    refine .inl ⟨(Report.link_fail m e _).trans (reached_of_not_opens ?_).symm, rfl⟩
    rintro ⟨rfl, -⟩
    cases failure
  | opens credential deadline attempt =>
    refine .inl ⟨?_, rfl⟩
    rw [reached, if_pos (opens_eq_true_iff.2 ⟨rfl, credential, deadline, attempt⟩)]
    rfl
  | breaks credential deadline attempt =>
    refine .inr ⟨Report.link_lose _ _, ?_⟩
    rw [reached, if_pos (opens_eq_true_iff.2 ⟨rfl, credential, deadline, attempt⟩)]
    rfl
  | loses link broken =>
    refine .inr ⟨Report.link_lose _ _, ?_⟩
    rw [reached_of_not_opens]
    · rfl
    · rintro ⟨rfl, -⟩
      exact broken
  | hears text link =>
    obtain ⟨heartbeat, delivered, hear, -⟩ := Report.hear_eq m text (s.report .nothing)
    rw [hear]
    exact .inl ⟨rfl, rfl⟩
  | logsOut => exact .inr ⟨rfl, rfl⟩
  | _ => exact .inl ⟨rfl, rfl⟩

end Move

end Session

end Messenger
