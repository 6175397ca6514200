import Messenger.Proofs.Session.History
import Messenger.Proofs.Session.Move
import Messenger.Proofs.Session.WireOrder

set_option relaxedAutoImplicit false
set_option autoImplicit false

/-!
# When the room is joined again

A new link that takes all that waits joins the room again if that is due. It is due once the session
has been reconnecting, until a link has taken all that waits or the user logs out. A session knows
this by a mark, which it sets whenever it begins to reconnect. A link that breaks off leaves the
session reconnecting, so that the next one still joins the room.

## Main definitions

* `Messenger.Session.Record.Completes`: a link is opened and takes all that waits.
* `Messenger.Session.Record.Clears`: that happens, or the user logs out.
* `Messenger.Session.ReconnectingSince`: the session has been reconnecting since then.
* `Messenger.Session.Record.issued`: what the opening of a link sends of its own accord.
* `Messenger.Session.Rejoins`: what is to be said of the opening of a link.

## Main results

* `Messenger.Session.mark_step`: what every event does to the mark.
* `Messenger.Session.marked_trace`: the mark is there exactly if the session has been reconnecting
  since.
* `Messenger.Session.rejoin_when_due`: a link joins the room again exactly when that is due.
-/

namespace Messenger.Session

variable {σ : Type} [Storage σ]

/-! ### Links that take all that waits -/

namespace Record

/-- A link is opened, and takes all that waits. -/
def Completes (r : Record σ) : Prop :=
  r.Opens ∧ r.session.waiting <+: r.sent.map (·.2)

/-- A link is opened and takes all that waits, or the user logs out. -/
def Clears (r : Record σ) : Prop :=
  r.Completes ∨ ∃ caller, r.event = .command (.disconnect caller)

/-- What the opening of a link sends of its own accord: what is written or waits after it, behind
all that has waited before. -/
def issued (r : Record σ) : List Envelope :=
  (r.sent.map (·.2) ++ r.turn.session.offline.items).drop r.session.waiting.length

end Record

/-- The session has been reconnecting since a link has last taken all that waits, and since the user
has last logged out. -/
def ReconnectingSince : List (Record σ) → Prop :=
  Since (fun _ r => r.turn.session.publisher.current = .reconnecting) fun r => ¬ r.Clears

section Opening

variable {r : Record σ} (ho : r.session.Orderly) (hr : r.Opens)

include ho hr

/-- What a new link is offered is written up to the first envelope that it refuses, and the rest
waits in storage. -/
lemma Record.offered_split : ∃ k,
    r.sent.map (·.2) = (r.session.waiting ++ r.session.followUp r.moment).take k ∧
      r.turn.session.offline.items =
        (r.session.waiting ++ r.session.followUp r.moment).drop k ∧
      k = r.moment.takes 0 (r.session.waiting ++ r.session.followUp r.moment).length := by
  obtain ⟨hoffered, hsent⟩ := r.offered ho hr rfl
  refine ⟨_, ?_, hoffered.items, rfl⟩
  rw [hsent, hoffered.frames]
  simp [Session.turn, Outbox.frames, Outbox.empty, Function.comp_def]

/-- A link takes all that waits exactly if it refuses none of that.

**Proof sketch.** What is written is some part at the front of what waits and what follows it
(`Record.offered_split`). It has all that waits at its front if so many frames are taken; and if one
of them is refused then nothing follows, and what is written is shorter. -/
lemma Record.completes_iff :
    r.Completes ↔ ∀ i < r.session.waiting.length, r.moment.accepts i := by
  obtain ⟨k, hsent, -, hk⟩ := r.offered_split ho hr
  have hcompletes : r.Completes ↔ r.session.waiting <+: r.sent.map (·.2) := and_iff_right hr
  rw [hcompletes, hsent]
  constructor
  · intro hfront
    by_contra hrefused
    -- Less has been written than waits.
    have hlength := hfront.length_le
    rw [followUp_of_refused hrefused, List.append_nil] at hk hlength
    have hle := r.moment.takes_le 0 r.session.waiting.length
    rw [List.length_take] at hlength
    refine hrefused fun i hi => ?_
    have hall := Moment.takes_eq_iff.1 (show r.moment.takes 0 r.session.waiting.length = _ by omega)
      i hi
    rwa [Nat.zero_add] at hall
  · intro htaken
    have hall : r.moment.takes 0 r.session.waiting.length = r.session.waiting.length :=
      Moment.takes_eq_iff.2 fun i hi => by rw [Nat.zero_add]; exact htaken i hi
    rw [List.length_append, Moment.takes_add, if_pos hall] at hk
    rw [hk, List.take_length_add_append]
    exact List.prefix_append _ _

/-- All that has waited is written or waits, and behind it what the link sends of its own accord:
joining the room again, if that is due and the link takes all that waits. -/
lemma Record.accounted :
    r.sent.map (·.2) ++ r.turn.session.offline.items = r.session.waiting ++ r.issued ∧
      r.issued = r.session.followUp r.moment := by
  obtain ⟨k, hsent, hitems, -⟩ := r.offered_split ho hr
  have hall : r.sent.map (·.2) ++ r.turn.session.offline.items =
      r.session.waiting ++ r.session.followUp r.moment := by
    rw [hsent, hitems, List.take_append_drop]
  have hissued : r.issued = r.session.followUp r.moment := by
    rw [Record.issued, hall, List.drop_left]
  exact ⟨by rw [hissued, hall], hissued⟩

end Opening

/-! ### The mark -/

/-- What an event does to the mark by which a new link joins the room again, if the event settles
that or not. -/
inductive Marks (settles : Prop) (s : Session) (c : Connection) : Prop
  /-- The session is reconnecting after the event, and the mark is set. -/
  | sets (state : c.state = .reconnecting) (mark : c.rejoins = true)
  /-- The event settles it: the session is not reconnecting, and the mark is gone. -/
  | clears (settled : settles) (state : c.state ≠ .reconnecting) (mark : c.rejoins = false)
  /-- Any other event leaves the mark alone, and the session does not begin to reconnect by it. -/
  | leaves (unsettled : ¬ settles)
      (state : c.state = .reconnecting → s.publisher.current = .reconnecting)
      (mark : c.rejoins = s.rejoins)

/-- After the loss of a link a user who has not logged out is reconnecting, and the mark is set. -/
lemma Marks.of_lose {settles : Prop} {s : Session} {c : Connection} (h : c.loggedOut = false)
    (due : Nat) : Marks settles s (c.lose due) := by
  apply Marks.sets <;> simp [Connection.lose, Connection.retry, Connection.drop, Connection.publish,
    h]

variable {s : Session} {m : Moment} {event : Event}

/-- What an event does to the mark that opens no link.

**Proof sketch.** One case for each thing that an event can do. Failures and losses set the mark and
make the session reconnecting, a logout takes it away, and the rest leaves it alone and does not
make the session reconnecting. -/
lemma Move.marks (hc : s.connection.Coherent) {r : Report} (h : Move m s event r)
    (hopens : ¬ (event = .opened ∧ s.Dialing)) :
    Marks (∃ caller, event = .command (.disconnect caller)) s r.connection := by
  cases h with
  | passes h => exact .leaves (by rintro ⟨caller, rfl⟩; exact h) id rfl
  | grants asker granted => exact .leaves (by rintro ⟨caller, rfl⟩; cases asker) id rfl
  | joins credential caller attempt => exact .leaves (by simp) id rfl
  | calls credential caller deadline attempt other =>
    exact .leaves (by simp) (fun hstate => by cases hstate) rfl
  | asks caller attempt link => exact .leaves (by simp) (fun hstate => by cases hstate) rfl
  | resumes h due =>
    exact .leaves (by rintro ⟨caller, rfl⟩; exact h) (fun hstate => by cases hstate) rfl
  | dials answer other credential deadline attempt choice => exact .leaves (by simp) id rfl
  | fails e failure =>
    have hlogged := loggedOut_of_attempt hc (attempt_of_failure failure)
    apply Marks.sets <;>
      simp [Report.fail, Report.resolve, Report.answer, Report.retry, Connection.retry, hlogged,
        report, connection, Connection.publish]
  | opens credential deadline attempt =>
    exact absurd ⟨rfl, credential, deadline, attempt⟩ hopens
  | breaks credential deadline attempt =>
    exact absurd ⟨rfl, credential, deadline, attempt⟩ hopens
  | hears text link =>
    obtain ⟨heartbeat, delivered, hear, -⟩ := Report.hear_eq m text (s.report .nothing)
    rw [hear]
    exact .leaves (by simp) id rfl
  | pings link due taken => exact .leaves (by simp) id rfl
  | loses link broken => exact .of_lose (loggedOut_of_link hc link) _
  | listens kind listener => exact .leaves (by simp) id rfl
  | unlistens kind id => exact .leaves (by simp) (fun hstate => hstate) rfl
  | logsOut caller => exact .clears ⟨caller, rfl⟩ (fun hstate => by cases hstate) rfl

/-- **What every event does to the mark.** What every event does to the mark.

**Proof sketch.** A link that takes all that waits takes the mark away, and if it refuses joining
the room then, its loss sets the mark again. A link that does not take all that waits is lost. -/
lemma mark_step {r : Record σ} (ho : r.session.Orderly) :
    Marks r.Clears r.session r.turn.session.connection := by
  by_cases hr : r.Opens
  · have hdialing := (Record.opens_iff.1 hr).2
    have hlogged := loggedOut_of_attempt ho.coherent hdialing.isSome
    obtain ⟨credential, hturn⟩ := r.turn_of_opens hr
    rw [hturn]
    rcases Turn.succeed_cases (t := r.session.turn r.store) (ho.shown hdialing.isSome) rfl r.moment
      credential with ⟨htaken, t', hsucceed, hconnection, -, -⟩ | ⟨-, -, due, hlost⟩
    · have hlink : t'.session.link = some r.session.opened := congrArg Connection.link hconnection
      obtain ⟨due, hrejoin⟩ := Turn.connection_rejoin r.moment (t := t') (by simp [hlink])
      rw [hsucceed, hrejoin, hconnection]
      split
      · exact .of_lose hlogged due
      · exact .clears (.inl ((r.completes_iff ho hr).2 htaken)) (fun hstate => by cases hstate) rfl
    · rw [hlost]
      exact .of_lose hlogged due
  · have hclears : r.Clears ↔ ∃ caller, r.event = .command (.disconnect caller) :=
      or_iff_right fun h => hr h.1
    rw [hclears]
    exact (r.move ho.coherent).marks ho.coherent fun h => hr (Record.opens_iff.2 h)

/-- A link that does not take all that waits leaves the session reconnecting. -/
lemma Record.reconnecting_of_interrupted {r : Record σ} (ho : r.session.Orderly) (hr : r.Opens)
    (hinterrupted : ¬ r.Completes) :
    r.turn.session.publisher.current = .reconnecting := by
  have hdialing := (Record.opens_iff.1 hr).2
  have hlogged := loggedOut_of_attempt ho.coherent hdialing.isSome
  obtain ⟨credential, hturn⟩ := r.turn_of_opens hr
  rcases Turn.succeed_cases (t := r.session.turn r.store) (ho.shown hdialing.isSome) rfl r.moment
    credential with ⟨htaken, -⟩ | ⟨-, -, due, hlost⟩
  · exact absurd ((r.completes_iff ho hr).2 htaken) hinterrupted
  · rw [hturn]
    refine (congrArg Connection.state hlost).trans ?_
    simp [Connection.lose, Connection.retry, Connection.drop, Connection.publish,
      Connection.welcome, connection, Session.turn, hlogged]

/-- The mark goes back to what has happened: it is there exactly if the session has been
reconnecting since a link has last taken all that waits and the user has last logged out. -/
structure Marked (past : List (Record σ)) (s : Session) : Prop where
  orderly : s.Orderly
  mark : s.rejoins = true ↔ ReconnectingSince past
  reconnecting : s.publisher.current = .reconnecting → s.rejoins = true

/-- Every event keeps it so.

**Proof sketch.** By what the event does to the mark (`mark_step`). Where it sets the mark the
session is reconnecting from now on; where it takes it away nothing can be since then; and where it
leaves it, the past goes on. -/
lemma Marked.step {past : List (Record σ)} {r : Record σ} (h : Marked past r.session) :
    Marked (past ++ [r]) r.turn.session := by
  have hnext : r.turn.session.Orderly := orderly_step h.orderly r.moment r.event r.store
  cases mark_step h.orderly with
  | sets state mark => exact ⟨hnext, ⟨fun _ => Since.last state, fun _ => mark⟩, fun _ => mark⟩
  | clears settled state mark =>
    refine ⟨hnext, ⟨fun hmark => ?_, fun hsince => ?_⟩, fun hstate => absurd hstate state⟩
    · cases hmark.symm.trans mark
    · rcases hsince.concat_cases with hstate | ⟨-, hunsettled⟩
      · exact absurd hstate state
      · exact absurd settled hunsettled
  | leaves unsettled state mark =>
    have hsame : r.turn.session.rejoins = r.session.rejoins := mark
    refine ⟨hnext, ?_, fun hstate => hsame.trans (h.reconnecting (state hstate))⟩
    rw [hsame]
    constructor
    · intro hmark
      exact (h.mark.1 hmark).concat unsettled
    · intro hsince
      rcases hsince.concat_cases with hstate | ⟨hsince, -⟩
      · exact h.reconnecting (state hstate)
      · exact h.mark.2 hsince

/-- **The mark is what has happened.** It is so before every event of every run.

**Proof sketch.** A new session is disconnected and has no mark, and every event keeps it so
(`Marked.step`). -/
lemma marked_trace {settings : Settings} {target : Settings.Target} {began : Timestamp}
    {stored store : σ} (hstart : start began settings target stored = (s, store))
    {events : List (Moment × Event)} {before after : List (Record σ)} {r : Record σ}
    (htrace : trace events s store = before ++ r :: after) : Marked before r.session := by
  refine history_trace (P := fun past s _ => Marked past s) (fun past x _ h => h.step) ?_ htrace
  have hstate : s.publisher.current = .disconnected ∧ s.rejoins = false := by
    obtain ⟨rfl, -⟩ := Prod.ext_iff.1 hstart
    exact ⟨rfl, rfl⟩
  refine ⟨orderly_start hstart, ?_, ?_⟩
  · rw [hstate.2]
    refine iff_of_false Bool.false_ne_true ?_
    rintro ⟨before, r, after, hnil, -⟩
    simp at hnil
  · rw [hstate.1]
    intro hreconnecting
    cases hreconnecting

/-! ### Joining the room again -/

/-- What is to be said of an event that opens a link, and of what has come before it. -/
structure Rejoins (before : List (Record σ)) (r : Record σ) : Prop where
  /-- All that has waited is written or waits, and what is issued is behind it. -/
  accounted : r.sent.map (·.2) ++ r.turn.session.offline.items = r.session.waiting ++ r.issued
  /-- Nothing else waits. -/
  idle : r.turn.session.pending.items = []
  /-- A link that takes all that waits joins the room of the user again, if there is one, exactly if
  the session has been reconnecting. -/
  due : r.Completes → ∀ room,
    (r.issued = [Turn.envelope r.moment .joinRoom (Request.room room)] ↔
      r.session.room = some room ∧ ReconnectingSince before)
  /-- One envelope at most is issued, and it joins the room of the user. -/
  once : r.issued ≠ [] → ∃ room, r.session.room = some room ∧
    r.issued = [Turn.envelope r.moment .joinRoom (Request.room room)]
  /-- It is issued only after the link has taken all that waits. -/
  behind : r.issued ≠ [] → r.session.waiting <+: r.sent.map (·.2)
  /-- A link that does not take all that waits issues nothing. -/
  interrupted : ¬ r.Completes → r.issued = []

/-- To join a room and to join another one are different envelopes. -/
lemma join_inj {m : Moment} {room room' : Room} :
    Turn.envelope m .joinRoom (Request.room room) = Turn.envelope m .joinRoom (Request.room room') ↔
      room = room' := by
  simp only [Turn.envelope, Request.room, Envelope.mk.injEq, Json.Value.object.injEq,
    List.cons.injEq, Prod.mk.injEq, Json.Value.int.injEq, Int.ofNat_inj, true_and, and_true]

/-- What there is to join again, if the mark is set. -/
lemma rejoining_eq_singleton_iff {room : Room} :
    s.rejoining m = [Turn.envelope m .joinRoom (Request.room room)] ↔
      s.room = some room ∧ s.rejoins = true := by
  unfold rejoining
  cases hroom : s.room with
  | none => simp
  | some room' => cases s.rejoins <;> simp [join_inj]

/-- A link that is opened when the mark is what has happened joins the room again exactly when that
is due.

**Proof sketch.** What the opening issues is what follows if all that waits is taken, and nothing
otherwise (`Record.completes_iff`). What follows is joining the room if there is one and the mark is
set, and the mark is what has happened. -/
lemma Marked.rejoins {before : List (Record σ)} {r : Record σ} (h : Marked before r.session)
    (hr : r.Opens) : Rejoins before r := by
  obtain ⟨haccounted, hissued⟩ := r.accounted h.orderly hr
  have hcompletes := r.completes_iff h.orderly hr
  have hinterrupted : ¬ r.Completes → r.issued = [] := fun hnot =>
    hissued.trans (followUp_of_refused (mt hcompletes.2 hnot))
  have hdue : r.Completes → r.issued = r.session.rejoining r.moment := fun hall =>
    hissued.trans (followUp_of_taken (hcompletes.1 hall))
  have hbehind : r.issued ≠ [] → r.Completes := not_imp_comm.1 hinterrupted
  refine ⟨haccounted, (r.offered h.orderly hr rfl).1.pending, fun hall room => ?_, fun hsome => ?_,
    fun hsome => (hbehind hsome).2, hinterrupted⟩
  · rw [hdue hall, rejoining_eq_singleton_iff, h.mark]
  · have hall := hbehind hsome
    rw [hdue hall] at hsome ⊢
    unfold rejoining at hsome ⊢
    cases hroom : r.session.room with
    | none => simp [hroom] at hsome
    | some room =>
      refine ⟨room, rfl, ?_⟩
      split at hsome
      · next hmark => simp [hmark]
      · exact absurd rfl hsome

/-- **A link joins the room again exactly when that is due.** In every run a link that is opened and
takes all that waits joins the room of the user again, if there is one, exactly if the session has
been reconnecting since it began, since the last link that has taken all that waited, and since the
user has last logged out. It does so once, and behind all that waits. A link that does not take all
that waits does not join the room; the next one that does take all joins it, if there is a room then
and the user has not logged out in between.

**Proof sketch.** The mark stands for what has happened before every event of the run
(`marked_trace`), and a link that is opened then looks at the mark (`Marked.rejoins`). A link that
is interrupted leaves the session reconnecting, which is what the next one needs if nothing has
cleared it in between. -/
theorem rejoin_when_due {settings : Settings} {target : Settings.Target} {began : Timestamp}
    {stored store : σ} (hstart : start began settings target stored = (s, store))
    (events : List (Moment × Event)) :
    (∀ before r after, trace events s store = before ++ r :: after → r.Opens → Rejoins before r) ∧
    ∀ before x between r after, trace events s store = before ++ x :: (between ++ r :: after) →
      x.Opens → ¬ x.Completes → (∀ y ∈ between, ¬ y.Clears) → r.Completes →
      ∀ room, r.session.room = some room →
        r.issued = [Turn.envelope r.moment .joinRoom (Request.room room)] := by
  refine ⟨fun before r after htrace => (marked_trace hstart htrace).rejoins, ?_⟩
  intro before x between r after htrace hx hinterrupted hbetween hr room hroom
  have hreconnecting : ReconnectingSince (before ++ x :: between) :=
    ⟨before, x, between, rfl,
      x.reconnecting_of_interrupted (marked_trace hstart htrace).orderly hx hinterrupted, hbetween⟩
  have htrace : trace events s store = (before ++ x :: between) ++ r :: after := by
    rw [htrace, List.append_assoc, List.cons_append]
  exact (((marked_trace hstart htrace).rejoins hr.1).due hr room).2 ⟨hroom, hreconnecting⟩

namespace Sample

open Messenger.Sample (epoch note)

/-- A session on a storage in which nothing waits. -/
def first : Session × Store.Memory :=
  start epoch settings target Store.Table.empty

/-- The user joins a room and loses the link, and then sends a note. The next attempt connects. -/
def losing : List (Moment × Event) :=
  [(taking 0, .command (.join 1)), (taking 0, .command (.connect "key" 0)), (taking 1, .opened),
    (taking 0, .ended), (taking 0, .command (.send (note 2))), (taking 0, .retryDue),
    (taking 0, .acquired (.ok (some "key")))]

/-- A link is opened that refuses the note. -/
def refusing : Record Store.Memory :=
  ⟨taking 0, .opened, (run losing first.1 first.2).1, (run losing first.1 first.2).2.1⟩

/-- The attempt after that connects, too. -/
def retrying : List (Moment × Event) :=
  [(taking 0, .retryDue), (taking 0, .acquired (.ok (some "key")))]

/-- A link is opened that takes the note. -/
def yielding : Record Store.Memory :=
  ⟨taking 2, .opened, (run retrying refusing.turn.session refusing.turn.store).1,
    (run retrying refusing.turn.session refusing.turn.store).2.1⟩

end Sample

/-- The third link takes the note, and then the user joins the room again.

**Proof sketch.** The two records are computed as far as what waits and what the links take. That
the one between completes nothing and the user does not log out is seen from the events. -/
theorem rejoin_when_due_interrupted :
    ¬ Sample.refusing.Completes ∧ Sample.yielding.Completes ∧
      Sample.yielding.session.waiting.length = 1 ∧
      Sample.yielding.issued = [Turn.envelope (Sample.taking 2) .joinRoom (Request.room 1)] := by
  have hstart : start Sample.epoch Sample.settings Sample.target
      (Store.Table.empty : Store.Memory) = (Sample.first.1, Sample.first.2) := rfl
  have htrace := (trace_append Sample.losing ((Sample.taking 0, .opened) ::
    (Sample.retrying ++ [(Sample.taking 2, .opened)])) Sample.first.1 Sample.first.2).trans
      (congrArg (fun rest => _ ++ Sample.refusing :: rest)
        (trace_concat Sample.retrying (Sample.taking 2) .opened Sample.refusing.turn.session
          Sample.refusing.turn.store))
  have hrefusing : Sample.refusing.session.Orderly := orderly_run (orderly_start hstart) _ _
  have hyielding : Sample.yielding.session.Orderly :=
    orderly_run (orderly_step hrefusing _ _ _) _ _
  have hopens : Sample.refusing.Opens ∧ Sample.yielding.Opens :=
    ⟨Record.opens_iff.2 ⟨rfl, by decide +kernel⟩, Record.opens_iff.2 ⟨rfl, by decide +kernel⟩⟩
  have hwaiting : Sample.refusing.session.waiting.length = 1 ∧
      Sample.yielding.session.waiting.length = 1 := by decide +kernel
  have hinterrupted : ¬ Sample.refusing.Completes := by
    rw [Record.completes_iff hrefusing hopens.1, hwaiting.1]
    exact fun h => absurd (h 0 (by decide)) (by decide)
  have hcompletes : Sample.yielding.Completes := by
    rw [Record.completes_iff hyielding hopens.2, hwaiting.2]
    exact fun i hi => decide_eq_true (show i < 2 by omega)
  have hunsettled : ∀ y ∈ trace Sample.retrying Sample.refusing.turn.session
      Sample.refusing.turn.store, ¬ y.Clears := by
    intro y hy hclears
    have hmem := (trace_invariant (P := fun _ _ => True) (fun _ _ _ _ _ _ => trivial) trivial y
      hy).2
    simp only [Sample.retrying, List.mem_cons, Prod.mk.injEq, List.not_mem_nil, or_false] at hmem
    rcases hclears with h | ⟨caller, h⟩
    · simp [(Record.opens_iff.1 h.1).1] at hmem
    · simp [h] at hmem
  exact ⟨hinterrupted, hcompletes, hwaiting.2, (rejoin_when_due hstart _).2 _ _ _ _ [] htrace
    hopens.1 hinterrupted hunsettled hcompletes 1 (by decide +kernel)⟩

end Messenger.Session
