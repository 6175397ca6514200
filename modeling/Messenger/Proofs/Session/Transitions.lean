import Mathlib.Data.List.Chain
import Messenger.Proofs.Session.Telling

set_option relaxedAutoImplicit false
set_option autoImplicit false

/-!
# The states that follow one another

A session begins disconnected. It connects, is connected, loses the link and reconnects, until the
user logs out. Nothing but logging out disconnects it, although the code that schedules the next
attempt has a branch that would: the user has not logged out while there is a link or an attempt. A
link that is lost as soon as it is open still makes the session connected before it reconnects.

## Main definitions

* `Messenger.ConnectionState.Follows`: the states that may follow a state.
* `Messenger.Session.Passage`: what an event that opens no link does to the state, and when.
* `Messenger.Session.Record.Lawful`: what is to be said of the states that an event publishes.

## Main results

* `Messenger.Session.Move.passage`: every event that opens no link passes in one of these ways.
* `Messenger.Session.lawful_turn`: every event publishes states that may follow one another.
* `Messenger.Session.published_transitions`: so does every run, from its beginning on.
-/

namespace Messenger

namespace ConnectionState

/-- The states that may follow a state when it is left. -/
inductive Follows : ConnectionState → ConnectionState → Prop
  /-- An attempt begins. -/
  | begins : Follows disconnected connecting
  /-- The attempt has opened a link. -/
  | opens : Follows connecting connected
  /-- The attempt is over without a link. -/
  | fails : Follows connecting reconnecting
  /-- The link is lost. -/
  | loses : Follows connected reconnecting
  /-- The link is given up for another one. -/
  | replaces : Follows connected connecting
  /-- The next attempt begins. -/
  | resumes : Follows reconnecting connecting
  /-- The user logs out. -/
  | logsOut {before : ConnectionState} (h : before ≠ disconnected) : Follows before disconnected

/-- After a change the state is the other one. -/
lemma getLast?_change (before after : ConnectionState) :
    (before :: before.change after).getLast? = some after := by
  unfold change
  split
  · next h => rw [h]; rfl
  · rfl

/-- A change is a chain if the other state may follow, or is the same. -/
lemma isChain_change {before after : ConnectionState} (h : before = after ∨ before.Follows after) :
    (before :: before.change after).IsChain Follows := by
  unfold change
  split
  · exact .singleton _
  · next hne => exact .cons_cons (h.resolve_left hne) (.singleton _)

/-- Two states that follow one another in a change are those of the change. -/
lemma eq_of_infix_change {before after state state' : ConnectionState}
    (h : [state, state'] <:+: before :: before.change after) : state = before ∧ state' = after := by
  unfold change at h
  split at h
  · exact absurd h.length_le (by simp)
  · simpa using h.eq_of_length rfl

/-- What is published by a change is the other state. -/
lemma eq_of_mem_change {before after state : ConnectionState} (h : state ∈ before.change after) :
    before ≠ after ∧ state = after := by
  unfold change at h
  split at h
  · cases h
  · next hne => exact ⟨hne, List.mem_singleton.1 h⟩

/-- Two chains in a row are one, if the second goes on where the first one ends. -/
lemma chain_append {xs ys : List ConnectionState} {middle last : ConnectionState}
    (hxs : xs.IsChain Follows ∧ xs.getLast? = some middle)
    (hys : (middle :: ys).IsChain Follows ∧ (middle :: ys).getLast? = some last) :
    (xs ++ ys).IsChain Follows ∧ (xs ++ ys).getLast? = some last := by
  obtain ⟨front, rfl⟩ := List.getLast?_eq_some_iff.1 hxs.2
  rw [List.append_assoc, List.singleton_append]
  refine ⟨List.isChain_split.2 ⟨hxs.1, hys.1⟩, ?_⟩
  rw [List.getLast?_append, hys.2, Option.some_or]

end ConnectionState

namespace Session

variable {σ : Type} [Storage σ] {s : Session} {m : Moment} {event : Event}

/-! ### What events do to the state -/

/-- What an event that opens no link does to the state, and when it does so. -/
inductive Passage (s : Session) (event : Event) (after : ConnectionState) : Prop
  /-- The state stays the same. -/
  | stays (same : s.publisher.current = after)
  /-- An attempt begins. If there is a link, the user wants to connect with another credential. -/
  | begins (begun : after = .connecting) (idle : s.publisher.current ≠ .connecting)
      (replaced : s.publisher.current = .connected → ∃ credential caller other,
        event = .command (.connect credential caller) ∧ s.linkCredential = some other ∧
          other ≠ credential)
  /-- The attempt is over without a link, or the link is lost. -/
  | fails (failed : after = .reconnecting)
      (busy : s.publisher.current = .connecting ∨ s.publisher.current = .connected)
  /-- The user logs out. -/
  | logsOut (caller : Nat) (left : event = .command (.disconnect caller))
      (done : after = .disconnected)

/-- A user who has not logged out is reconnecting after the loss of a link. -/
lemma Report.state_lose {r : Report} (h : r.connection.loggedOut = false) :
    (r.lose m).connection.state = .reconnecting := by
  simp [lose, drop, retry, Connection.drop, Connection.retry, Connection.publish, h]

/-- **There are few ways to pass from state to state.** Every event that opens no link passes in one
of these ways.

**Proof sketch.** The state says what there is of the connection. So an attempt begins only where
there is none, and with a link only if the user connects with another credential. Whoever has a link
or an attempt has not logged out, and so is reconnecting after the loss of it. -/
lemma Move.passage (hc : s.connection.Coherent) {r : Report} (h : Move m s event r)
    (hopens : ¬ (event = .opened ∧ s.Dialing)) : Passage s event r.connection.state := by
  -- The state says what there is of the connection.
  have hidle : s.attempt = none → s.publisher.current ≠ .connecting := by
    intro hnone hstate
    have hsome : s.attempt.isSome := ((hc.shape .connecting).2 hstate.symm).1
    rw [hnone] at hsome
    cases hsome
  have hlinked : s.publisher.current = .connected → s.link.isSome := fun hstate =>
    ((hc.shape .connected).2 hstate.symm).1
  cases h with
  | calls credential caller deadline attempt other =>
    refine .begins rfl (hidle attempt) fun hstate => ?_
    have hlink := hlinked hstate
    have hcredential : s.linkCredential.isSome := hc.credential.trans hlink
    obtain ⟨last, hlast⟩ := Option.isSome_iff_exists.1 hcredential
    refine ⟨credential, caller, last, rfl, hlast, fun heq => other hlink ?_⟩
    rw [hlast, heq]
  | asks caller attempt link =>
    refine .begins rfl (hidle attempt) fun hstate => ?_
    have hlink := hlinked hstate
    rw [link] at hlink
    cases hlink
  | resumes h due =>
    obtain ⟨hlink, hattempt, -⟩ := hc.of_retryAt due
    refine .begins rfl (hidle hattempt) fun hstate => ?_
    have hsome := hlinked hstate
    rw [show s.link = none from hlink] at hsome
    cases hsome
  | fails e failure =>
    have hattempt := attempt_of_failure failure
    refine .fails ?_ (.inl (hc.of_attempt hattempt).1)
    have hlogged := loggedOut_of_attempt hc hattempt
    simp [Report.fail, Report.resolve, Report.answer, Report.retry, Connection.retry,
      Connection.publish, report, connection, hlogged]
  | loses link broken =>
    exact .fails (Report.state_lose (loggedOut_of_link hc link)) (.inr (hc.of_link link).1)
  | opens credential deadline attempt => exact absurd ⟨rfl, credential, deadline, attempt⟩ hopens
  | breaks credential deadline attempt => exact absurd ⟨rfl, credential, deadline, attempt⟩ hopens
  | logsOut caller => exact .logsOut caller rfl rfl
  | hears text link =>
    obtain ⟨heartbeat, delivered, hear, -⟩ := Report.hear_eq m text (s.report .nothing)
    rw [hear]
    exact .stays rfl
  | _ => exact .stays rfl

/-- A link that is opened is kept, and the session is connected; or it is lost, and the session is
reconnecting.

**Proof sketch.** Such an event opens the link or breaks it off, as the attempt excludes the
rest. -/
lemma Move.state_of_dialing (hc : s.connection.Coherent) {r : Report} (h : Move m s .opened r)
    (hdialing : s.Dialing) :
    (r.connection.link.isSome ∧ r.connection.state = .connected) ∨
      (r.connection.link = none ∧ r.connection.state = .reconnecting) := by
  cases h with
  | passes h => exact absurd hdialing h
  | grants asker granted => cases asker
  | resumes h due => cases h
  | fails e failure => cases failure
  | opens credential deadline attempt => exact .inl ⟨rfl, rfl⟩
  | breaks credential deadline attempt =>
    have hlogged := loggedOut_of_attempt hc hdialing.isSome
    exact .inr ⟨Report.link_lose m _, Report.state_lose hlogged⟩
  | loses link broken => cases broken

/-- A link that is opened is kept exactly if it refuses nothing. -/
lemma Record.link_isSome_iff {r : Record σ} (ho : r.session.Orderly) (hr : r.Opens) :
    r.turn.session.link.isSome ↔ r.Unrefused := by
  obtain ⟨hoffered, -⟩ := r.offered ho hr rfl
  rw [hoffered.link]
  constructor
  · intro hsome
    split at hsome
    · next hall =>
      intro i hi
      have htaken := Moment.takes_eq_iff.1 hall i (by rw [hoffered.offers] at hi; omega)
      rwa [Nat.zero_add] at htaken
    · cases hsome
  · intro hunrefused
    rw [if_pos (r.takes_of_unrefused hoffered hunrefused)]
    rfl

/-! ### What events publish -/

/-- What is to be said of the states that an event publishes. -/
structure Record.Lawful (r : Record σ) : Prop where
  /-- All who watch are told what is published, and who begins to watch is told the state. -/
  told : r.turn.outbox.told = r.greeted ++ telling r.session.publisher.watchers r.published
  /-- Each state may follow the one before it. -/
  chain : (r.session.publisher.current :: r.published).IsChain ConnectionState.Follows
  /-- The last one is the state of the session. -/
  last : (r.session.publisher.current :: r.published).getLast? =
    some r.turn.session.publisher.current
  /-- The session is disconnected only if the user logs out. -/
  disconnected : .disconnected ∈ r.published → ∃ caller, r.event = .command (.disconnect caller)
  /-- A session that is connected goes on to connecting only if the user wants to connect with
  another credential than that of the link. -/
  replaced : [.connected, .connecting] <:+: r.session.publisher.current :: r.published →
    ∃ credential caller other, r.event = .command (.connect credential caller) ∧
      r.session.linkCredential = some other ∧ other ≠ credential
  /-- A link that is opened makes the session connected, and then reconnecting if it refuses some
  of what is written on it. -/
  opened : r.Opens → (r.Unrefused → r.published = [.connected]) ∧
    (¬ r.Unrefused → r.published = [.connected, .reconnecting])

/-- An event that opens a link publishes that the session is connected, and then that it is
reconnecting if the link is lost. -/
lemma Record.published_of_opens {r : Record σ} (ho : r.session.Orderly) (hr : r.Opens) :
    (r.Unrefused ∧ r.turn.session.publisher.current = .connected ∧ r.published = [.connected]) ∨
      (¬ r.Unrefused ∧ r.turn.session.publisher.current = .reconnecting ∧
        r.published = [.connected, .reconnecting]) := by
  obtain ⟨hevent, hdialing⟩ := Record.opens_iff.1 hr
  have hmove := r.move ho.coherent
  rw [hevent] at hmove
  have hlink : r.turn.report.connection.link.isSome ↔ r.Unrefused := r.link_isSome_iff ho hr
  rw [Record.published, if_pos (opens_eq_true_iff.2 ⟨hevent, hdialing⟩)]
  rcases hmove.state_of_dialing ho.coherent hdialing with ⟨hkept, hstate⟩ | ⟨hlost, hstate⟩
  · have hstate : r.turn.session.publisher.current = .connected := hstate
    rw [hstate]
    exact .inl ⟨hlink.1 hkept, rfl, rfl⟩
  · have hstate : r.turn.session.publisher.current = .reconnecting := hstate
    rw [hstate]
    refine .inr ⟨fun hunrefused => ?_, rfl, rfl⟩
    have hsome := hlink.2 hunrefused
    rw [hlost] at hsome
    cases hsome

/-- An event that opens a link publishes states that may follow one another.

**Proof sketch.** An attempt means that the session is connecting. What is published goes on from
there, one state further or two (`Record.published_of_opens`), and each of the two steps is one that
may be. -/
lemma Record.lawful_of_opens {r : Record σ} (ho : r.session.Orderly) (hr : r.Opens) : r.Lawful := by
  have htold := r.told_turn ho.coherent
  have hconnecting : r.session.publisher.current = .connecting :=
    (ho.coherent.of_attempt (Record.opens_iff.1 hr).2.isSome).1
  rcases r.published_of_opens ho hr with ⟨hunrefused, hafter, hpublished⟩ |
    ⟨hrefused, hafter, hpublished⟩
  · refine ⟨htold, ?_, ?_, ?_, ?_, fun _ => ⟨fun _ => hpublished, fun h => absurd hunrefused h⟩⟩
    · rw [hpublished, hconnecting]
      exact .cons_cons .opens (.singleton _)
    · rw [hpublished, hafter]
      rfl
    · simp [hpublished]
    · rw [hpublished, hconnecting]
      exact fun h => absurd h (by decide)
  · refine ⟨htold, ?_, ?_, ?_, ?_, fun _ => ⟨fun h => absurd h hrefused, fun _ => hpublished⟩⟩
    · rw [hpublished, hconnecting]
      exact .cons_cons .opens (.cons_cons .loses (.singleton _))
    · rw [hpublished, hafter]
      rfl
    · simp [hpublished]
    · rw [hpublished, hconnecting]
      exact fun h => absurd h (by decide)

/-- The state that an event leaves which opens no link may follow the one before it.

**Proof sketch.** One case for each way to pass, and where an attempt begins one for each state
before. -/
lemma Passage.follows {after : ConnectionState} (h : Passage s event after) :
    s.publisher.current = after ∨ s.publisher.current.Follows after := by
  cases h with
  | stays same => exact .inl same
  | begins begun idle replaced =>
    rw [begun]
    cases hstate : s.publisher.current with
    | disconnected => exact .inr .begins
    | connecting => exact .inl rfl
    | connected => exact .inr .replaces
    | reconnecting => exact .inr .resumes
  | fails failed busy =>
    rw [failed]
    rcases busy with hstate | hstate <;> rw [hstate]
    · exact .inr .fails
    · exact .inr .loses
  | logsOut caller left done =>
    rw [done]
    exact (em _).imp_right .logsOut

/-- An event that opens no link publishes a state that may follow the one before it, or none.

**Proof sketch.** What is published is the change from the state before to the one after, if there
is one, and how they may differ is known (`Move.passage`). So every part is read off the ways to
pass. -/
lemma Record.lawful_of_not_opens {r : Record σ} (ho : r.session.Orderly) (hr : ¬ r.Opens) :
    r.Lawful := by
  have hnot : ¬ (r.event = .opened ∧ r.session.Dialing) := fun h => hr (Record.opens_iff.2 h)
  have hpassage : Passage r.session r.event r.turn.session.publisher.current :=
    (r.move ho.coherent).passage ho.coherent hnot
  have hpublished : r.published =
      r.session.publisher.current.change r.turn.session.publisher.current :=
    if_neg (mt opens_eq_true_iff.1 hnot)
  refine ⟨r.told_turn ho.coherent, ?_, ?_, ?_, ?_, fun h => absurd h hr⟩ <;> rw [hpublished]
  · exact ConnectionState.isChain_change hpassage.follows
  · exact ConnectionState.getLast?_change _ _
  · intro hmem
    obtain ⟨hne, hafter⟩ := ConnectionState.eq_of_mem_change hmem
    cases hpassage with
    | stays same => exact absurd same hne
    | begins begun => cases hafter.trans begun
    | fails failed => cases hafter.trans failed
    | logsOut caller left => exact ⟨caller, left⟩
  · intro hinfix
    obtain ⟨hbefore, hafter⟩ := ConnectionState.eq_of_infix_change hinfix
    cases hpassage with
    | stays same => cases hbefore.trans (same.trans hafter.symm)
    | begins begun idle replaced => exact replaced hbefore.symm
    | fails failed => cases hafter.trans failed
    | logsOut caller left done => cases hafter.trans done

/-- **One event.** Every event publishes states that may follow one another.

**Proof sketch.** By whether it opens a link. -/
lemma lawful_turn {r : Record σ} (ho : r.session.Orderly) : r.Lawful := by
  by_cases hr : r.Opens
  · exact r.lawful_of_opens ho hr
  · exact r.lawful_of_not_opens ho hr

/-! ### What runs publish -/

/-- What a run publishes goes on from the state that it begins with to the one that it ends with.

**Proof sketch.** Induction on the events. What the first one publishes ends with the state in which
the next one finds the session, so that the two chains join (`ConnectionState.chain_append`). -/
lemma published_trace (ho : s.Orderly) (events : List (Moment × Event)) (store : σ) :
    (s.publisher.current :: (trace events s store).flatMap Record.published).IsChain
        ConnectionState.Follows ∧
      (s.publisher.current :: (trace events s store).flatMap Record.published).getLast? =
        some (run events s store).1.publisher.current := by
  induction events generalizing s store with
  | nil => exact ⟨.singleton _, rfl⟩
  | cons x rest ih =>
    obtain ⟨m, event⟩ := x
    have hfirst : (Record.mk m event s store).Lawful := lawful_turn ho
    rw [trace, List.flatMap_cons, ← List.cons_append]
    exact ConnectionState.chain_append ⟨hfirst.chain, hfirst.last⟩
      (ih (orderly_step ho m event store) (step m event s store).store)

/-- A session that ends tells watchers nothing. -/
lemma told_shutDown (m : Moment) (s : Session) (store : σ) :
    (shutDown m s store).outbox.told = [] := by
  have hquiet : (s.turn store).Mute (s.turn store).stopHeartbeat.cancelRetry :=
    Turn.mute_session _ rfl
  have hspilled : (s.turn store).Mute
      ((s.turn store).stopHeartbeat.cancelRetry.abandon.spill m) :=
    (hquiet.trans (Turn.mute_abandon _)).trans (Turn.mute_spill m _)
  exact (hspilled.trans (Turn.mute_dropLink _)).told

/-- **States follow one another by the rules.** The states that a run publishes begin with
disconnected, and each may follow the one before it: a session is connected only after connecting,
and connecting, if it was connected, only after the user wanted to connect with another credential.
It is disconnected only if the user logs out. A link that is opened but refuses some of what is
written on it makes the session connected, and then reconnecting. All who watch are told so, and
nothing else.

**Proof sketch.** A session begins disconnected, and from there what a run publishes is a chain that
ends with the state it is in (`published_trace`). Every event of it is lawful (`lawful_turn`), as
what waits is in order before each of them. The end of a session is mute. -/
theorem published_transitions {settings : Settings} {target : Settings.Target} {began : Timestamp}
    {stored store : σ} (hstart : start began settings target stored = (s, store))
    (events : List (Moment × Event)) :
    (.disconnected :: (trace events s store).flatMap Record.published).IsChain
        ConnectionState.Follows ∧
      (.disconnected :: (trace events s store).flatMap Record.published).getLast? =
        some (run events s store).1.publisher.current ∧
      (∀ r ∈ trace events s store, r.Lawful) ∧
      ∀ m, (shutDown m (run events s store).1 (run events s store).2.1).outbox.told = [] := by
  have ho := orderly_start hstart
  have hstate : s.publisher.current = .disconnected := by
    obtain ⟨rfl, -⟩ := Prod.ext_iff.1 hstart
    rfl
  obtain ⟨hchain, hlast⟩ := published_trace ho events store
  rw [hstate] at hchain hlast
  refine ⟨hchain, hlast, fun r hr => lawful_turn ?_, fun m => told_shutDown m _ _⟩
  exact (trace_invariant (P := fun s _ => s.Orderly)
    (fun m event _ store _ h => orderly_step h m event store) ho r hr).1

/-- The user connects with a credential, with another one while the link is open, and logs out. -/
def Sample.changing : List (Moment × Event) :=
  [(taking 0, .command (.connect "key" 0)), (taking 0, .opened),
    (taking 0, .command (.connect "other" 1)), (taking 0, .command (.send (Sample.note 2))),
    (taking 0, .opened), (taking 0, .retryDue), (taking 0, .command (.disconnect 2))]

/-- The second link refuses a note that waits, and the session is connected for a moment all the
same. What the run publishes is told state by state, and each of them may follow the one before.

**Proof sketch.** The run and what it publishes are computed; the theorem says the rest of it. -/
theorem published_transitions_changing :
    ∃ s store, start Sample.epoch Sample.settings Sample.target
        (Store.Table.empty : Store.Memory) = (s, store) ∧
      (trace Sample.changing s store).flatMap Record.published =
        [.connecting, .connected, .connecting, .connected, .reconnecting, .connecting,
          .disconnected] ∧
      (.disconnected :: (trace Sample.changing s store).flatMap Record.published).IsChain
        ConnectionState.Follows ∧
      (run Sample.changing s store).1.publisher.current = .disconnected ∧
      ∀ r ∈ trace Sample.changing s store, r.Lawful := by
  obtain ⟨⟨s, store⟩, hstart⟩ : ∃ first, start Sample.epoch Sample.settings Sample.target
    (Store.Table.empty : Store.Memory) = first := ⟨_, rfl⟩
  obtain ⟨hchain, hlast, hlawful, -⟩ := published_transitions hstart Sample.changing
  have hpublished : (trace Sample.changing s store).flatMap Record.published =
      [.connecting, .connected, .connecting, .connected, .reconnecting, .connecting,
        .disconnected] := by
    obtain ⟨rfl, rfl⟩ := Prod.ext_iff.1 hstart
    decide +kernel
  rw [hpublished] at hlast
  exact ⟨s, store, hstart, hpublished, hchain, (Option.some.inj hlast).symm, hlawful⟩

end Session

end Messenger
